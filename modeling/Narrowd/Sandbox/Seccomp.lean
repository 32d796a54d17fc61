import Narrowd.Basic.Text

set_option autoImplicit false

/-! # The seccomp filters of the server

Before it accepts connections, the server installs two seccomp filters for all its threads. The
first answers a list of system calls with `EPERM` and lets everything else through; the second lets
through a list of system calls, together with those of the first, and kills the process for
everything else. The kernel runs all filters of a thread and does what the strictest answer says.

The two filters together do what one filter with three answers would do
(`stacked_filters_are_the_policy`), on top of whatever filters the process was started with. They
can be installed in this order only: the second filter does not let `seccomp` through.
-/

namespace Narrowd.Sandbox

/-! ## System calls -/

/-- The system calls that the sandbox names, and those it is made of. -/
inductive SyscallName
  | execve | execveat | fork | vfork | clone | clone3 | socket | connect | bind | listen | kill
  | tkill | tgkill | ptrace | processVmWritev | bpf | perfEventOpen | userfaultfd | mount | umount2
  | pivotRoot | swapon | swapoff | initModule | finitModule | deleteModule | kexecLoad
  | openByHandleAt | setns | unshare | accept | accept4 | brk | clockGettime | close | epollCtl
  | epollPwait | epollPwait2 | epollWait | exit | exitGroup | fcntl | futex | getrandom | getsockopt
  | ioctl | lseek | madvise | mlock | mmap | mprotect | mremap | munlock | munmap | newfstatat
  | openat | prctl | read | readv | recvfrom | recvmsg | rseq | rtSigaction | rtSigprocmask
  | rtSigreturn | sendmsg | sendto | setRobustList | setsockopt | shutdown | sigaltstack
  | socketpair | statx | write | writev
  | seccomp | landlockRestrictSelf
  deriving DecidableEq, Repr

/-- A system call: one of the above, another one of this architecture, or one of another
architecture. -/
inductive Syscall
  | named (name : SyscallName)
  | other (number : Nat)
  | foreign (number : Nat)
  deriving DecidableEq, Repr

def errnoSyscalls : List SyscallName :=
  [.execve, .execveat, .fork, .vfork, .clone, .clone3, .socket, .connect, .bind, .listen, .kill,
    .tkill, .tgkill, .ptrace, .processVmWritev, .bpf, .perfEventOpen, .userfaultfd, .mount,
    .umount2, .pivotRoot, .swapon, .swapoff, .initModule, .finitModule, .deleteModule, .kexecLoad,
    .openByHandleAt, .setns, .unshare]

def allowedSyscalls : List SyscallName :=
  [.accept, .accept4, .brk, .clockGettime, .close, .epollCtl, .epollPwait, .epollPwait2, .epollWait,
    .exit, .exitGroup, .fcntl, .futex, .getrandom, .getsockopt, .ioctl, .lseek, .madvise, .mlock,
    .mmap, .mprotect, .mremap, .munlock, .munmap, .newfstatat, .openat, .prctl, .read, .readv,
    .recvfrom, .recvmsg, .rseq, .rtSigaction, .rtSigprocmask, .rtSigreturn, .sendmsg, .sendto,
    .setRobustList, .setsockopt, .shutdown, .sigaltstack, .socketpair, .statx, .write, .writev]

/-! ## Filters -/

inductive SeccompAction
  | killProcess
  | errno (code : UInt32)
  | allow
  deriving DecidableEq, Repr

def eperm : UInt32 := 1

/-- A compiled filter. -/
structure SeccompFilter where
  rules : List SyscallName
  mismatchAction : SeccompAction
  matchAction : SeccompAction
  deriving DecidableEq, Repr

/-- What the program of a filter answers. It begins with a check of the architecture. -/
def SeccompFilter.run (filter : SeccompFilter) : Syscall → SeccompAction
  | .named name => if name ∈ filter.rules then filter.matchAction else filter.mismatchAction
  | .other _ => filter.mismatchAction
  | .foreign _ => .killProcess

inductive BackendError
  | identicalActions (action : SeccompAction)
  deriving DecidableEq, Repr

/-- A filter that would answer the same to everything is refused. -/
def compileSeccompFilter (syscalls : List SyscallName)
    (mismatchAction matchAction : SeccompAction) :
    Except BackendError SeccompFilter :=
  if mismatchAction = matchAction then .error (.identicalActions matchAction)
  else .ok { rules := syscalls, mismatchAction := mismatchAction, matchAction := matchAction }

/-- The filter with the errors, and the filter with the allowed calls. -/
def buildPreauthSeccompFilters : Except BackendError (SeccompFilter × SeccompFilter) := do
  let errnoFilter ← compileSeccompFilter errnoSyscalls .allow (.errno eperm)
  let allowlistFilter ← compileSeccompFilter (allowedSyscalls ++ errnoSyscalls) .killProcess .allow
  return (errnoFilter, allowlistFilter)

/-! ## The kernel -/

/-- The order of the actions, the strictest first. -/
def SeccompAction.rank : SeccompAction → Nat
  | killProcess => 0
  | errno _ => 1
  | allow => 2

/-- The stricter of two answers, the one of the newer filter if both are errors. -/
def stricter (newer older : SeccompAction) : SeccompAction :=
  if older.rank < newer.rank then older else newer

/-- **What the kernel does** with a system call of a thread with these filters, newest first. -/
def verdict (filters : List SeccompFilter) (sc : Syscall) : SeccompAction :=
  filters.foldl (fun action filter => stricter action (filter.run sc)) .allow

theorem stricter_allow (action : SeccompAction) : stricter .allow action = action := by
  cases action <;> rfl

theorem allow_stricter (action : SeccompAction) : stricter action .allow = action := by
  cases action <;> rfl

theorem stricter_assoc (x y z : SeccompAction) :
    stricter (stricter x y) z = stricter x (stricter y z) := by
  cases x <;> cases y <;> cases z <;> rfl

theorem stricter_eq_allow_iff {x y : SeccompAction} : stricter x y = .allow ↔ x = .allow ∧
    y = .allow := by
  cases x <;> cases y <;> simp [stricter, SeccompAction.rank]

theorem foldl_stricter (filters : List SeccompFilter) (sc : Syscall) (action : SeccompAction) :
    filters.foldl (fun action filter => stricter action (filter.run sc)) action =
      stricter action (verdict filters sc) := by
  induction filters generalizing action with
  | nil => rw [List.foldl_nil, verdict, List.foldl_nil, allow_stricter]
  | cons filter filters ih =>
      have hcons : verdict (filter :: filters) sc =
          stricter (filter.run sc) (verdict filters sc) := by
        rw [verdict, List.foldl_cons, stricter_allow, ih]
      rw [List.foldl_cons, ih, hcons, stricter_assoc]

theorem verdict_cons (filter : SeccompFilter) (filters : List SeccompFilter) (sc : Syscall) :
    verdict (filter :: filters) sc = stricter (filter.run sc) (verdict filters sc) := by
  rw [verdict, List.foldl_cons, stricter_allow, foldl_stricter]

variable {sc : Syscall} {filters : List SeccompFilter}

/-- A call has its effect if all filters let it through. -/
theorem verdict_eq_allow_iff :
    verdict filters sc = .allow ↔ ∀ filter ∈ filters, filter.run sc = .allow := by
  induction filters with
  | nil => exact ⟨fun _ _ hmem => (nomatch hmem), fun _ => rfl⟩
  | cons filter filters ih => rw [verdict_cons, stricter_eq_allow_iff, ih, List.forall_mem_cons]

/-! ## The policy -/

/-- The policy as one filter with three answers. -/
def policy : Syscall → SeccompAction
  | .named name =>
      if name ∈ errnoSyscalls then .errno eperm
      else if name ∈ allowedSyscalls then .allow
      else .killProcess
  | _ => .killProcess

/-- The two filters of the server. -/
def errnoFilter : SeccompFilter where
  rules := errnoSyscalls
  mismatchAction := .allow
  matchAction := .errno eperm

def allowlistFilter : SeccompFilter where
  rules := allowedSyscalls ++ errnoSyscalls
  mismatchAction := .killProcess
  matchAction := .allow

theorem build_eq : buildPreauthSeccompFilters = .ok (errnoFilter, allowlistFilter) := rfl

theorem errnoFilter_named (name : SyscallName) :
    errnoFilter.run (.named name) = if name ∈ errnoSyscalls then .errno eperm else .allow := rfl

theorem allowlistFilter_named (name : SyscallName) :
    allowlistFilter.run (.named name) =
      if name ∈ allowedSyscalls ∨ name ∈ errnoSyscalls then .allow else .killProcess := by
  simp only [SeccompFilter.run, allowlistFilter, List.mem_append]

/-- The answers of the two filters make up the policy. -/
theorem stricter_filters (sc : Syscall) : stricter (allowlistFilter.run sc) (errnoFilter.run sc) =
    policy sc := by
  cases sc with
  | named name =>
      rw [allowlistFilter_named, errnoFilter_named, policy]
      by_cases herrno : name ∈ errnoSyscalls
      · simp only [herrno, or_true, if_true]
        rfl
      · by_cases hallowed : name ∈ allowedSyscalls
        · simp only [herrno, hallowed, true_or, if_true, if_false]
          rfl
        · simp only [herrno, hallowed, or_self, if_false]
          rfl
  | other number => rfl
  | foreign number => rfl

theorem verdict_stack (inherited : List SeccompFilter) (sc : Syscall) :
    verdict (allowlistFilter :: errnoFilter :: inherited) sc =
      stricter (policy sc) (verdict inherited sc) := by
  rw [verdict_cons, verdict_cons, ← stricter_assoc, stricter_filters]

/-- **The stacked filters enforce the combined policy**, on top of the filters that the process was
started with, and they can be stacked in this order only: the errors leave `seccomp` available for
the allowlist, and after the allowlist a further filter would cost the process its life. -/
theorem stacked_filters_are_the_policy (inherited : List SeccompFilter) :
    ∃ first second, buildPreauthSeccompFilters = .ok (first, second) ∧
      (∀ sc, verdict (second :: first :: inherited) sc =
        stricter (policy sc) (verdict inherited sc)) ∧
      verdict (first :: inherited) (.named .seccomp) = verdict inherited (.named .seccomp) ∧
      verdict (second :: inherited) (.named .seccomp) = .killProcess := by
  refine ⟨errnoFilter, allowlistFilter, build_eq, verdict_stack inherited, ?_, ?_⟩
  · have hrun : errnoFilter.run (.named .seccomp) = .allow := rfl
    rw [verdict_cons, hrun, stricter_allow]
  · have hrun : allowlistFilter.run (.named .seccomp) = .killProcess := by
      rw [allowlistFilter_named]
      rfl
    rw [verdict_cons, hrun]
    cases verdict inherited (.named .seccomp) <;> rfl

/-- What the policy lets through is on the list. -/
theorem policy_eq_allow (h : policy sc = .allow) : ∃ name ∈ allowedSyscalls, sc = .named name := by
  cases sc with
  | named name =>
      rw [policy] at h
      by_cases herrno : name ∈ errnoSyscalls
      · rw [if_pos herrno] at h
        cases h
      · by_cases hallowed : name ∈ allowedSyscalls
        · exact ⟨name, hallowed, rfl⟩
        · rw [if_neg herrno, if_neg hallowed] at h
          cases h
  | other number => cases h
  | foreign number => cases h

/-- What both filters let through is on the list. -/
theorem allowed_of_verdict (herrno : errnoFilter ∈ filters) (hallowlist : allowlistFilter ∈ filters)
    (h : verdict filters sc = .allow) : ∃ name ∈ allowedSyscalls, sc = .named name := by
  rw [verdict_eq_allow_iff] at h
  refine policy_eq_allow ?_
  rw [← stricter_filters, stricter_eq_allow_iff]
  exact ⟨h allowlistFilter hallowlist, h errnoFilter herrno⟩

end Narrowd.Sandbox
