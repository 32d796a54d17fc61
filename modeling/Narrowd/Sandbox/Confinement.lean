import Narrowd.Basic.AnyError
import Narrowd.Basic.UnixPath
import Narrowd.Lib.Run
import Narrowd.Sandbox.Seccomp

set_option autoImplicit false

/-! # The sandbox of the server

Before it accepts its first connection the server gives up most of what it may do: it sets
`no_new_privs`, restricts itself with Landlock to reading below the directory of the authorized
keys, and installs the two seccomp filters. `Kernel` is what the kernel keeps for the threads of the
server and of the processes that it has started, and `KernelStep` what a system call does to it.
Seccomp filters are installed for all threads of the server at once, but not for the executor, which
it has started before. A Landlock ruleset restricts the thread that asks for it, and the threads
that this one starts later, but not those that are there already, such as the thread that reads from
the executor.

`DaemonStep` runs the server's start next to anything else that any thread may do, at any time. So
the results hold as well for a server that somebody else has got hold of. Once the server serves, a
system call of one of its threads has an effect only if it is on the list, it starts no further
thread or process, and what its main thread opens it opens for reading, below the directory
(`confined_while_serving`).
-/

namespace Narrowd.Sandbox

open Lib PathBuf

/-! ## The directory -/

variable {path q : PathBuf}

/-- `Path::parent` takes away the last component. -/
theorem components_of_parent (h : parent .linux path = some q) :
    ∃ c, components .linux path = components .linux q ++ [c] := by
  have hpop : components .linux q = popComponents (components .linux path) := by
    rw [← components_parent, h, Option.getD_some]
  suffices hlast : ∃ cs c, components .linux path = cs ++ [c] ∧ c ≠ .rootDir by
    obtain ⟨cs, c, hcs, hc⟩ := hlast
    refine ⟨c, ?_⟩
    rw [hpop, hcs, popComponents, List.getLast?_concat, if_neg (by simpa using hc),
      List.dropLast_concat]
  obtain ⟨lead, hpath, -, hlead⟩ := exists_lead path
  rw [parent_linux] at h
  rcases trimParts_cases path ((path.drop (lenBeforeBody .linux path)).splitOn '/') with
    ⟨htrim, hnone⟩ | ⟨front, part, c, -, -, hsome⟩
  · rw [htrim, if_pos List.isEmpty_nil] at h
    have hdot : startsWithCurDir .linux path = true := by
      by_contra hdot
      rw [if_neg hdot] at h
      cases h
    rw [if_pos hdot] at hlead
    refine ⟨[], .curDir, ?_, by decide⟩
    rw [hpath, hlead.1]
    exact congrArg _ hnone
  · refine ⟨lead ++ front.filterMap partComponent, c, ?_, ?_⟩
    · rw [hpath, List.append_assoc]
      exact congrArg _ hsome
    · have hmem : c ∈ bodyComponents (path.drop (lenBeforeBody .linux path)) := by
        show c ∈ List.filterMap _ _
        rw [hsome]
        exact List.mem_append_right _ List.mem_cons_self
      rcases mem_bodyComponents hmem with rfl | ⟨name, rfl, -⟩ <;> simp

theorem components_parent_lt (h : parent .linux path = some q) :
    (components .linux q).length < (components .linux path).length := by
  obtain ⟨c, hc⟩ := components_of_parent h
  rw [hc, List.length_append, List.length_singleton]
  exact Nat.lt_succ_self _

/-- The loop of `nearest_existing_directory`. -/
def climb (isDir : PathBuf → Bool) (path current : PathBuf) : Except AnyError PathBuf :=
  if isDir current then .ok current
  else
    match _h : parent .linux current with
    | none => .error { message := "no existing directory found for " ++ String.ofList path }
    | some q => climb isDir path q
  termination_by (components .linux current).length
  decreasing_by exact components_parent_lt _h

def nearestExistingDirectory (isDir : PathBuf → Bool) (path : PathBuf) : Except AnyError PathBuf :=
  climb isDir path (if isDir path then path else (parent .linux path).getD path)

/-- A path and the paths that lead to it. -/
def ancestors (path : PathBuf) : List PathBuf :=
  match _h : parent .linux path with
  | none => [path]
  | some q => path :: ancestors q
  termination_by (components .linux path).length
  decreasing_by exact components_parent_lt _h

theorem ancestors_of_none (h : parent .linux path = none) : ancestors path = [path] := by
  rw [ancestors]
  split
  · rfl
  · next heq => cases h.symm.trans heq

theorem ancestors_of_some (h : parent .linux path = some q) :
    ancestors path = path :: ancestors q := by
  rw [ancestors]
  split
  · next heq => cases h.symm.trans heq
  · next q' heq =>
      cases h.symm.trans heq
      rfl

theorem mem_ancestors_self (path : PathBuf) : path ∈ ancestors path := by
  cases h : parent .linux path with
  | none =>
      rw [ancestors_of_none h]
      exact List.mem_cons_self
  | some q =>
      rw [ancestors_of_some h]
      exact List.mem_cons_self

theorem components_prefix_of_mem_ancestors (hq : q ∈ ancestors path) :
    components .linux q <+: components .linux path := by
  induction hn : (components .linux path).length using Nat.strongRecOn generalizing path with
  | _ n ih =>
      cases h : parent .linux path with
      | none =>
          rw [ancestors_of_none h, List.mem_singleton] at hq
          rw [hq]
      | some r =>
          rw [ancestors_of_some h] at hq
          rcases List.mem_cons.mp hq with rfl | hmem
          · exact List.prefix_refl _
          · obtain ⟨c, hc⟩ := components_of_parent h
            refine (ih _ (hn ▸ components_parent_lt h) hmem rfl).trans ?_
            rw [hc]
            exact List.prefix_append ..

/-- What the loop comes to. -/
inductive Climbed (isDir : PathBuf → Bool) (current : PathBuf) : Except AnyError PathBuf → Prop
  | found {root : PathBuf} (hdir : isDir root = true) (hmem : root ∈ ancestors current)
      (hnearest : ∀ q ∈ ancestors current, isDir q = true → q ∈ ancestors root) :
      Climbed isDir current (.ok root)
  | none {err : AnyError} (hnone : ∀ q ∈ ancestors current, isDir q = false) :
      Climbed isDir current (.error err)

theorem climbed (isDir : PathBuf → Bool) (path current : PathBuf) :
    Climbed isDir current (climb isDir path current) := by
  induction hn : (components .linux current).length using Nat.strongRecOn generalizing current with
  | _ n ih =>
      rw [climb]
      split
      · next hdir => exact .found hdir (mem_ancestors_self current) fun q hq _ => hq
      · next hdir =>
          rw [Bool.not_eq_true] at hdir
          split
          · next h =>
              refine .none fun q hq => ?_
              rw [ancestors_of_none h, List.mem_singleton] at hq
              exact hq ▸ hdir
          · next r h =>
              have hbelow := ih _ (hn ▸ components_parent_lt h) r rfl
              generalize climb isDir path r = result at hbelow
              cases hbelow with
              | @found root hroot hmem hnearest =>
                  refine .found hroot (ancestors_of_some h ▸ List.mem_cons_of_mem _ hmem)
                    fun q hq hqdir => ?_
                  rw [ancestors_of_some h] at hq
                  rcases List.mem_cons.mp hq with rfl | hq
                  · cases hdir.symm.trans hqdir
                  · exact hnearest q hq hqdir
              | none hnone =>
                  refine .none fun q hq => ?_
                  rw [ancestors_of_some h] at hq
                  rcases List.mem_cons.mp hq with rfl | hq
                  · exact hdir
                  · exact hnone q hq

/-- The first step to the parent makes no difference: the path itself is no directory then. -/
theorem nearest_climbed (isDir : PathBuf → Bool) (path : PathBuf) :
    Climbed isDir path (nearestExistingDirectory isDir path) := by
  have hclimb := climbed isDir path path
  have heq : nearestExistingDirectory isDir path = climb isDir path path := by
    unfold nearestExistingDirectory
    by_cases hdir : isDir path = true
    · rw [if_pos hdir]
    · rw [if_neg hdir]
      cases h : parent .linux path with
      | none => rw [Option.getD_none]
      | some q =>
          rw [Option.getD_some]
          conv_rhs => rw [climb, if_neg hdir]
          split
          · next heq => cases h.symm.trans heq
          · next q' heq =>
              cases h.symm.trans heq
              rfl
  rw [heq]
  exact hclimb

/-- **The directory that stays readable** is an existing directory on the way to the file, and the
nearest one: every existing directory on the way to the file is on the way to it. There is none only
if no path that leads to the file is a directory. -/
theorem landlock_root_is_nearest (isDir : PathBuf → Bool) (path : PathBuf) :
    (∀ root, nearestExistingDirectory isDir path = .ok root →
      isDir root = true ∧ components .linux root <+: components .linux path ∧
        ∀ q ∈ ancestors path, isDir q = true → components .linux q <+: components .linux root) ∧
      ((∃ err, nearestExistingDirectory isDir path = .error err) ↔
        ∀ q ∈ ancestors path, isDir q = false) := by
  have hclimbed := nearest_climbed isDir path
  generalize nearestExistingDirectory isDir path = result at hclimbed
  cases hclimbed with
  | @found root hdir hmem hnearest =>
      refine ⟨?_, ?_⟩
      · rintro _ ⟨⟩
        refine ⟨hdir, components_prefix_of_mem_ancestors hmem, fun q hq hqdir => ?_⟩
        exact components_prefix_of_mem_ancestors (hnearest q hq hqdir)
      · constructor
        · rintro ⟨err, herr⟩
          cases herr
        · intro hnone
          cases hdir.symm.trans (hnone root hmem)
  | none hnone => exact ⟨fun _ hok => (nomatch hok), fun _ => hnone, fun _ => ⟨_, rfl⟩⟩

/-! ## The kernel -/

/-- The access rights of Landlock. -/
inductive AccessFs
  | execute | writeFile | readFile | readDir | removeDir | removeFile | makeChar | makeDir | makeReg
  | makeSock | makeFifo | makeBlock | makeSym
  /-- Rights that came with later versions of the interface. -/
  | refer | truncate | ioctlDev
  deriving DecidableEq, Repr

/-- `AccessFs::from_all(ABI::V1)`. -/
def fromAllV1 : List AccessFs :=
  [.execute, .writeFile, .readFile, .readDir, .removeDir, .removeFile, .makeChar, .makeDir,
    .makeReg, .makeSock, .makeFifo, .makeBlock, .makeSym]

/-- A ruleset that is in force. A right that it does not handle is not restricted. -/
structure Domain (F : Type*) where
  handled : AccessFs → Bool
  allows : F → AccessFs → Bool

/-- The ruleset of the server; `beneath` are the files below its directory. -/
def authorizedKeysDomain {F : Type*} (beneath : F → Bool) : Domain F where
  handled access := access ∈ fromAllV1
  allows file access := beneath file && (access == .readFile || access == .readDir)

/-- What the kernel keeps for a thread. -/
structure Task (F : Type*) where
  filters : List SeccompFilter
  domains : List (Domain F)
  noNewPrivs : Bool

/-- A thread, and the thread group (the process) that it is in. -/
structure TaskId where
  group : Nat
  thread : Nat
  deriving DecidableEq, Repr

/-- The main thread of the server. -/
def mainThread : TaskId := ⟨0, 0⟩

/-- The threads of the server, and of the processes that descend from it. -/
structure Kernel (F : Type*) where
  tasks : TaskId → Option (Task F)
  /-- The processes that a filter has ended. -/
  killed : Nat → Bool

/-- What a thread asks the kernel for. -/
inductive Op (F : Type*)
  | setNoNewPrivs
  | restrictSelf (domain : Domain F)
  /-- `seccomp(2)`, for all threads of the process. -/
  | install (filter : SeccompFilter)
  | openFile (file : F) (access : List AccessFs)
  | newTask (name : SyscallName) (task : TaskId)
  | other (sc : Syscall)

def cloningSyscalls : List SyscallName := [.clone, .clone3, .fork, .vfork]

/-- The system calls that are modelled with what they do. -/
def modelledSyscalls : List SyscallName :=
  [.landlockRestrictSelf, .seccomp, .openat] ++ cloningSyscalls

inductive Outcome
  | done
  | failed
  | errno (code : UInt32)
  | killed
  deriving DecidableEq

variable {group : Nat}

section

variable {F : Type*}

def Op.syscall : Op F → Syscall
  | setNoNewPrivs => .named .prctl
  | restrictSelf _ => .named .landlockRestrictSelf
  | install _ => .named .seccomp
  | openFile _ _ => .named .openat
  | newTask name _ => .named name
  | other sc => sc

/-- All rulesets of the thread allow the access. -/
def Task.MayOpen (task : Task F) (file : F) (access : List AccessFs) : Prop :=
  ∀ domain ∈ task.domains, ∀ a ∈ access, domain.handled a = true → domain.allows file a = true

namespace Kernel

def put (k : Kernel F) (t : TaskId) (task : Task F) : Kernel F :=
  { k with tasks := Function.update k.tasks t (some task) }

theorem put_self (k : Kernel F) (t : TaskId) (task : Task F) : (k.put t task).tasks t = some task :=
  Function.update_self ..

theorem put_of_ne (k : Kernel F) {t t' : TaskId} (task : Task F) (hne : t' ≠ t) :
    (k.put t task).tasks t' = k.tasks t' := Function.update_of_ne hne ..

/-- `SECCOMP_FILTER_FLAG_TSYNC`: every thread of the process gets the filters. -/
def sync (k : Kernel F) (group : Nat) (filters : List SeccompFilter) : Kernel F :=
  { k with
    tasks := fun t =>
      if t.group = group then
        (k.tasks t).map fun task => { task with filters := filters, noNewPrivs := true }
      else k.tasks t }

/-- No thread of such a process is there. -/
def NoGroup (k : Kernel F) (group : Nat) : Prop := ∀ thread, k.tasks ⟨group, thread⟩ = none

end Kernel

/-- What a system call does that the filters let through. -/
inductive Effect (k : Kernel F) (t : TaskId) (task : Task F) : Op F → Kernel F → Prop
  | setNoNewPrivs : Effect k t task .setNoNewPrivs (k.put t { task with noNewPrivs := true })
  | restrictSelf {domain : Domain F} (hprivs : task.noNewPrivs = true) :
      Effect k t task (.restrictSelf domain)
        (k.put t { task with domains := domain :: task.domains })
  /-- Other threads of the process may have fewer filters, but no others. -/
  | install {filter : SeccompFilter} (hprivs : task.noNewPrivs = true)
      (hsync : ∀ t' task', t'.group = t.group → k.tasks t' = some task' →
        task'.filters <:+ task.filters) :
      Effect k t task (.install filter) (k.sync t.group (filter :: task.filters))
  | openFile {file : F} {access : List AccessFs} (hopen : task.MayOpen file access) :
      Effect k t task (.openFile file access) k
  /-- A new thread, which `fork` and `vfork` do not make, has the restrictions of the thread that
  has started it, and so does a new process. -/
  | newTask {name : SyscallName} {t' : TaskId} (hname : name ∈ cloningSyscalls)
      (hnew : k.tasks t' = none)
      (hgroup : t'.group = t.group ∧ name ∉ [.fork, .vfork] ∨ k.NoGroup t'.group) :
      Effect k t task (.newTask name t') (k.put t' task)
  | other {sc : Syscall} (hsc : ∀ name ∈ modelledSyscalls, sc ≠ .named name) :
      Effect k t task (.other sc) k

/-- **What a system call of the thread `t` comes to.** -/
inductive KernelStep (k : Kernel F) (t : TaskId) (op : Op F) : Outcome → Kernel F → Prop
  | killed {task : Task F} (hlive : k.killed t.group = false) (ht : k.tasks t = some task)
      (hv : verdict task.filters op.syscall = .killProcess) :
      KernelStep k t op .killed { k with killed := Function.update k.killed t.group true }
  | errno {task : Task F} {code : UInt32} (hlive : k.killed t.group = false)
      (ht : k.tasks t = some task) (hv : verdict task.filters op.syscall = .errno code) :
      KernelStep k t op (.errno code) k
  | failed {task : Task F} (hlive : k.killed t.group = false) (ht : k.tasks t = some task)
      (hv : verdict task.filters op.syscall = .allow) : KernelStep k t op .failed k
  | done {task : Task F} {k' : Kernel F} (hlive : k.killed t.group = false)
      (ht : k.tasks t = some task) (hv : verdict task.filters op.syscall = .allow)
      (he : Effect k t task op k') : KernelStep k t op .done k'

/-! ## The server -/

/-- How far the start of the server has come. -/
inductive Phase
  | booting
  | bound
  | noNewPrivs
  | landlocked
  | errnoInstalled
  /-- `run_with_listener_until_shutdown`: connections are accepted. -/
  | serving
  | failed
  deriving DecidableEq

structure Daemon (F : Type*) where
  kernel : Kernel F
  phase : Phase

inductive DaemonEvent (F : Type*)
  | acts (phase : Phase) (t : TaskId) (op : Op F) (outcome : Outcome)
  | enters (phase : Phase)

/-- The system calls of the sandbox, in the order of `run_until_shutdown` and
`apply_preauth_sandbox`. -/
def sandboxStep (beneath : F → Bool) : Phase → Option (Op F × Phase)
  | .bound => some (.setNoNewPrivs, .noNewPrivs)
  | .noNewPrivs => some (.restrictSelf (authorizedKeysDomain beneath), .landlocked)
  | .landlocked => some (.install errnoFilter, .errnoInstalled)
  | .errnoInstalled => some (.install allowlistFilter, .serving)
  | _ => none

inductive DaemonStep (beneath : F → Bool) : Daemon F → DaemonEvent F → Daemon F → Prop
  /-- Any thread asks for anything. -/
  | acts {d : Daemon F} {t : TaskId} {op : Op F} {outcome : Outcome} {k : Kernel F}
      (hs : KernelStep d.kernel t op outcome k) :
      DaemonStep beneath d (.acts d.phase t op outcome) ⟨k, d.phase⟩
  /-- The state of the server is there, and the listener. -/
  | booted {d : Daemon F} (hphase : d.phase = .booting) :
      DaemonStep beneath d (.enters .bound) ⟨d.kernel, .bound⟩
  /-- The next call of the sandbox; if it does not succeed, the server ends. -/
  | setsUp {d : Daemon F} {op : Op F} {next : Phase} {outcome : Outcome} {k : Kernel F}
      (hnext : sandboxStep beneath d.phase = some (op, next))
      (hs : KernelStep d.kernel mainThread op outcome k) :
      DaemonStep beneath d (.acts d.phase mainThread op outcome)
        ⟨k, if outcome = .done then next else .failed⟩
  | fails {d : Daemon F} : DaemonStep beneath d (.enters .failed) ⟨d.kernel, .failed⟩

/-- A process with its main thread, whatever restrictions it was started with. -/
def Daemon.Initial (d : Daemon F) : Prop :=
  d.phase = .booting ∧ ∃ task, d.kernel.tasks mainThread = some task

/-! ## Restrictions stay -/

variable {beneath : F → Bool} {k k' : Kernel F} {t : TaskId} {task : Task F} {op : Op F}
  {outcome : Outcome}

/-- A thread is at least as restricted as before. -/
structure Restricts (task task' : Task F) : Prop where
  filters : task.filters ⊆ task'.filters
  domains : task.domains ⊆ task'.domains
  noNewPrivs : task.noNewPrivs = true → task'.noNewPrivs = true

theorem Restricts.refl (task : Task F) : Restricts task task where
  filters := List.Subset.refl _
  domains := List.Subset.refl _
  noNewPrivs h := h

/-- Every thread is as restricted as before, and a new one as one of its process, unless the process
is new. -/
structure Tightens (k k' : Kernel F) : Prop where
  keeps : ∀ t task, k.tasks t = some task → ∃ task', k'.tasks t = some task' ∧ Restricts task task'
  comesFrom : ∀ t task', k'.tasks t = some task' →
    (∃ t₀ task, t₀.group = t.group ∧ k.tasks t₀ = some task ∧ Restricts task task') ∨
      k.NoGroup t.group

theorem Tightens.refl (k : Kernel F) : Tightens k k where
  keeps _ task ht := ⟨task, ht, .refl task⟩
  comesFrom t task ht := .inl ⟨t, task, rfl, ht, .refl task⟩

/-- One thread changes, or is new. -/
theorem Tightens.put {t₀ : TaskId} {task₀ task' : Task F} (h₀ : k.tasks t₀ = some task₀)
    (hr : Restricts task₀ task')
    (ht : t = t₀ ∨ k.tasks t = none ∧ (t.group = t₀.group ∨ k.NoGroup t.group)) :
    Tightens k (k.put t task') where
  keeps t' task ht' := by
    by_cases heq : t' = t
    · subst heq
      rcases ht with rfl | ⟨hnone, -⟩
      · cases h₀.symm.trans ht'
        exact ⟨task', k.put_self t' task', hr⟩
      · cases hnone.symm.trans ht'
    · exact ⟨task, (k.put_of_ne task' heq).trans ht', .refl task⟩
  comesFrom t' task ht' := by
    by_cases heq : t' = t
    · subst heq
      cases (k.put_self t' task').symm.trans ht'
      rcases ht with rfl | ⟨-, hgroup | hnew⟩
      · exact .inl ⟨t', task₀, rfl, h₀, hr⟩
      · exact .inl ⟨t₀, task₀, hgroup.symm, h₀, hr⟩
      · exact .inr hnew
    · exact .inl ⟨t', task, rfl, (k.put_of_ne task' heq).symm.trans ht', .refl task⟩

theorem Kernel.sync_of_eq (filters : List SeccompFilter) (hgroup : t.group = group) :
    (k.sync group filters).tasks t =
      (k.tasks t).map fun task => { task with filters := filters, noNewPrivs := true } :=
  if_pos hgroup

theorem Kernel.sync_of_ne (filters : List SeccompFilter) (hgroup : t.group ≠ group) :
    (k.sync group filters).tasks t = k.tasks t := if_neg hgroup

theorem Tightens.sync {filters : List SeccompFilter}
    (hsync : ∀ t task, t.group = group → k.tasks t = some task → task.filters ⊆ filters) :
    Tightens k (k.sync group filters) where
  keeps t task ht := by
    by_cases hgroup : t.group = group
    · refine ⟨{ task with filters := filters, noNewPrivs := true }, ?_, hsync t task hgroup ht,
        List.Subset.refl _, fun _ => rfl⟩
      rw [Kernel.sync_of_eq filters hgroup, ht, Option.map_some]
    · exact ⟨task, (Kernel.sync_of_ne filters hgroup).trans ht, .refl task⟩
  comesFrom t task' ht' := by
    by_cases hgroup : t.group = group
    · rw [Kernel.sync_of_eq filters hgroup] at ht'
      obtain ⟨task, ht, rfl⟩ := Option.map_eq_some_iff.mp ht'
      exact .inl ⟨t, task, rfl, ht, hsync t task hgroup ht, List.Subset.refl _, fun _ => rfl⟩
    · rw [Kernel.sync_of_ne filters hgroup] at ht'
      exact .inl ⟨t, task', rfl, ht', .refl task'⟩

/-- **A system call takes no restriction away.** -/
theorem Effect.tightens (ht : k.tasks t = some task) (he : Effect k t task op k') :
    Tightens k k' := by
  cases he with
  | setNoNewPrivs =>
      exact .put ht ⟨List.Subset.refl _, List.Subset.refl _, fun _ => rfl⟩ (.inl rfl)
  | restrictSelf hprivs =>
      exact .put ht ⟨List.Subset.refl _, List.subset_cons_self .., fun h => h⟩ (.inl rfl)
  | install hprivs hsync =>
      refine .sync fun t' task' hgroup ht' => ?_
      exact List.Subset.trans (hsync t' task' hgroup ht').subset (List.subset_cons_self ..)
  | openFile hopen => exact .refl k
  | newTask hname hnew hgroup => exact .put ht (.refl task) (.inr ⟨hnew, hgroup.imp_left And.left⟩)
  | other hsc => exact .refl k

theorem KernelStep.tightens (hs : KernelStep k t op outcome k') : Tightens k k' := by
  cases hs with
  | killed => exact ⟨(Tightens.refl k).keeps, (Tightens.refl k).comesFrom⟩
  | errno => exact .refl k
  | failed => exact .refl k
  | done _ ht _ he => exact he.tightens ht

/-! ## The server is confined -/

def Phase.rank : Phase → Nat
  | booting => 0
  | bound => 1
  | noNewPrivs => 2
  | landlocked => 3
  | errnoInstalled => 4
  | serving => 5
  | failed => 0

/-- What the phases of the start have brought about, for the main thread and for all threads of the
server. -/
structure Secured (beneath : F → Bool) (phase : Phase) (k : Kernel F) : Prop where
  main : ∃ task, k.tasks mainThread = some task ∧
    (Phase.landlocked.rank ≤ phase.rank → authorizedKeysDomain beneath ∈ task.domains)
  errno : Phase.errnoInstalled.rank ≤ phase.rank →
    ∀ t task, t.group = mainThread.group → k.tasks t = some task → errnoFilter ∈ task.filters
  allowlist : Phase.serving.rank ≤ phase.rank →
    ∀ t task, t.group = mainThread.group → k.tasks t = some task →
      allowlistFilter ∈ task.filters ∧ task.noNewPrivs = true

/-- Before Landlock nothing is asked for. -/
theorem Secured.early {phase : Phase} (hmain : k.tasks mainThread = some task)
    (hphase : phase.rank < Phase.landlocked.rank) : Secured beneath phase k where
  main := ⟨task, hmain, fun hrank => absurd hrank (Nat.not_le.mpr hphase)⟩
  errno hrank := absurd hrank (Nat.not_le.mpr (hphase.trans (by decide)))
  allowlist hrank := absurd hrank (Nat.not_le.mpr (hphase.trans (by decide)))

/-- The threads of the server come from threads of the server. -/
theorem Tightens.comesFrom_daemon (h : Tightens k k') (hmain : k.tasks mainThread = some task)
    {task' : Task F} (hgroup : t.group = mainThread.group) (ht : k'.tasks t = some task') :
    ∃ t₀ task, t₀.group = mainThread.group ∧ k.tasks t₀ = some task ∧ Restricts task task' := by
  rcases h.comesFrom t task' ht with ⟨t₀, task₀, hgroup₀, h₀, hr⟩ | hnew
  · exact ⟨t₀, task₀, hgroup₀.trans hgroup, h₀, hr⟩
  · rw [hgroup] at hnew
    cases (hnew mainThread.thread).symm.trans hmain

/-- Whatever the threads do, what was brought about stays. -/
theorem Secured.tighten {phase phase' : Phase} (hd : Secured beneath phase k) (ht : Tightens k k')
    (hphase : phase'.rank ≤ phase.rank) : Secured beneath phase' k' where
  main := by
    obtain ⟨task, hmain, hdomain⟩ := hd.main
    obtain ⟨task', hmain', hr⟩ := ht.keeps mainThread task hmain
    exact ⟨task', hmain', fun hlocked => hr.domains (hdomain (hlocked.trans hphase))⟩
  errno hrank t task hgroup htask := by
    obtain ⟨main, hmain, -⟩ := hd.main
    obtain ⟨t₀, task₀, hgroup₀, h₀, hr⟩ := ht.comesFrom_daemon hmain hgroup htask
    exact hr.filters (hd.errno (hrank.trans hphase) t₀ task₀ hgroup₀ h₀)
  allowlist hrank t task hgroup htask := by
    obtain ⟨main, hmain, -⟩ := hd.main
    obtain ⟨t₀, task₀, hgroup₀, h₀, hr⟩ := ht.comesFrom_daemon hmain hgroup htask
    obtain ⟨hfilter, hprivs⟩ := hd.allowlist (hrank.trans hphase) t₀ task₀ hgroup₀ h₀
    exact ⟨hr.filters hfilter, hr.noNewPrivs hprivs⟩

/-- After a filter is installed every thread of the process has it. -/
theorem Effect.installed {filter : SeccompFilter} (he : Effect k t task (.install filter) k') :
    ∀ t' task', t'.group = t.group → k'.tasks t' = some task' →
      filter ∈ task'.filters ∧ task'.noNewPrivs = true := by
  cases he with
  | install hprivs hsync =>
      intro t' task' hgroup ht'
      rw [Kernel.sync_of_eq _ hgroup] at ht'
      obtain ⟨task₀, -, rfl⟩ := Option.map_eq_some_iff.mp ht'
      exact ⟨List.mem_cons_self, rfl⟩

/-- **A call of the sandbox that succeeds** brings about what the next phase stands for. -/
theorem Secured.setUp {phase next : Phase} (hd : Secured beneath phase k)
    (hnext : sandboxStep beneath phase = some (op, next))
    (hs : KernelStep k mainThread op .done k') :
    Secured beneath next k' := by
  have ht := hs.tightens
  -- what the earlier phases have brought about stays; each case adds what its own call does
  have hkept : Secured beneath phase k' := hd.tighten ht (Nat.le_refl _)
  obtain ⟨task', hmain', hdomain⟩ := hkept.main
  cases hs with
  | @done task _ hlive hmain hv he =>
      cases phase with
      | bound =>
          cases hnext
          exact .early hmain' (by decide)
      | noNewPrivs =>
          cases hnext
          cases he with
          | restrictSelf =>
              exact ⟨⟨_, k.put_self mainThread _, fun _ => List.mem_cons_self⟩, fun h =>
                absurd h (by decide),
                fun h => absurd h (by decide)⟩
      | landlocked =>
          cases hnext
          exact ⟨⟨task', hmain', fun _ => hdomain (Nat.le_refl _)⟩,
            fun _ t' task' hgroup ht' => (he.installed t' task' hgroup ht').1,
            fun h => absurd h (by decide)⟩
      | errnoInstalled =>
          cases hnext
          exact ⟨⟨task', hmain', fun _ => hdomain (by decide)⟩, fun _ =>
            hkept.errno (Nat.le_refl _),
            fun _ => he.installed⟩
      | booting => cases hnext
      | serving => cases hnext
      | failed => cases hnext

theorem Secured.step {d d' : Daemon F} {e : DaemonEvent F} (hd : Secured beneath d.phase d.kernel)
    (hs : DaemonStep beneath d e d') : Secured beneath d'.phase d'.kernel := by
  cases hs with
  | acts hs => exact hd.tighten hs.tightens (Nat.le_refl _)
  | booted hphase =>
      obtain ⟨task, hmain, -⟩ := hd.main
      have hearly : Phase.bound.rank < Phase.landlocked.rank := by decide
      exact .early hmain hearly
  | @setsUp op next outcome k hnext hs =>
      by_cases hdone : outcome = .done
      · subst hdone
        exact hd.setUp hnext hs
      · show Secured beneath (if outcome = .done then next else .failed) k
        rw [if_neg hdone]
        exact hd.tighten hs.tightens (Nat.zero_le _)
  | fails => exact hd.tighten (.refl _) (Nat.zero_le _)

theorem secured_of_run {h : List (DaemonEvent F)} {d : Daemon F}
    (hr : Run Daemon.Initial (DaemonStep beneath) h d) : Secured beneath d.phase d.kernel := by
  refine Run.invariant (P := fun _ d => Secured beneath d.phase d.kernel) ?_ ?_ hr
  · intro d hinit
    obtain ⟨hphase, task, hmain⟩ := hinit
    exact .early hmain (by rw [hphase]; decide)
  · intro h d e d' _ hd hs
    exact hd.step hs

/-- A system call of the server that succeeds while it serves. -/
structure Confined (beneath : F → Bool) (t : TaskId) (op : Op F) : Prop where
  allowed : ∃ name ∈ allowedSyscalls, op.syscall = .named name
  noTask : ∀ name t', op ≠ .newTask name t'
  reads : ∀ file access, t = mainThread → op = .openFile file access → ∀ a ∈ access, a ∈ fromAllV1 →
    beneath file = true ∧ (a = .readFile ∨ a = .readDir)

theorem Secured.confined (hd : Secured beneath .serving k) (hgroup : t.group = mainThread.group)
    (hs : KernelStep k t op .done k') : Confined beneath t op := by
  have hrank : ∀ phase : Phase, phase.rank ≤ Phase.serving.rank := by
    intro phase
    cases phase <;> decide
  cases hs with
  | @done task _ hlive ht hv he =>
      have hallowed := allowed_of_verdict (hd.errno (hrank _) t task hgroup ht)
        (hd.allowlist (hrank _) t task hgroup ht).1 hv
      refine ⟨hallowed, ?_, ?_⟩
      · rintro name t' rfl
        cases he with
        | newTask hname =>
            obtain ⟨name', hmem, heq⟩ := hallowed
            cases heq
            exact absurd hmem
              ((by decide : ∀ name ∈ cloningSyscalls, name ∉ allowedSyscalls) name hname)
      · rintro file access rfl rfl a ha hv1
        obtain ⟨task₀, hmain, hdomain⟩ := hd.main
        cases hmain.symm.trans ht
        cases he with
        | openFile hopen =>
            have hallows := hopen _ (hdomain (hrank _)) a ha
              (by simpa [authorizedKeysDomain] using hv1)
            simpa [authorizedKeysDomain] using hallows

/-- **The server is confined while it serves.** Whatever its threads and the processes that it has
started do, and whatever restrictions it was started with, a system call of one of its threads that
succeeds after the sandbox is in place is on the list of allowed ones, and starts no thread or
process. If the main thread opens a file, the file is below the directory of the authorized keys and
is opened for reading only, as far as the rights of the first version of Landlock go. -/
theorem confined_while_serving (beneath : F → Bool) (h : List (DaemonEvent F)) (d : Daemon F)
    (hr : Run Daemon.Initial (DaemonStep beneath) h d) (t : TaskId)
    (hgroup : t.group = mainThread.group) (op : Op F) (hact : .acts .serving t op .done ∈ h) :
    Confined beneath t op := by
  induction hr with
  | nil => cases hact
  | @cons h d d' e hr hs ih =>
      rcases List.mem_cons.mp hact with rfl | hmem
      · have hd := secured_of_run hr
        -- the event says that the server was serving before the step
        generalize hphase : Phase.serving = phase at hs
        cases hs with
        | acts hs => exact (hphase ▸ hd).confined hgroup hs
        | setsUp hnext hs => exact (hphase ▸ hd).confined hgroup hs
      · exact ih hmem

/-- The server, of one thread, and its executor. -/
def withExecutor (task executor : Task Bool) : Kernel Bool :=
  Kernel.put (Kernel.put ⟨fun _ => none, fun _ => false⟩ ⟨1, 0⟩ executor) mainThread task

theorem withExecutor_put (task task' executor : Task Bool) :
    (withExecutor task executor).put mainThread task' = withExecutor task' executor := by
  simp only [withExecutor, Kernel.put, Function.update_idem]

theorem withExecutor_cases {task task' executor : Task Bool} (hgroup : t.group = mainThread.group)
    (ht : (withExecutor task executor).tasks t = some task') : t = mainThread ∧ task' = task := by
  by_cases hmain : t = mainThread
  · subst hmain
    exact ⟨rfl, Option.some.inj (ht.symm.trans (Kernel.put_self ..))⟩
  · have hother : t ≠ ⟨1, 0⟩ := by
      rintro rfl
      cases hgroup
    cases ht.symm.trans ((Kernel.put_of_ne _ task hmain).trans (Kernel.put_of_ne _ executor hother))

theorem withExecutor_sync (task executor : Task Bool) (filters : List SeccompFilter) :
    (withExecutor task executor).sync mainThread.group filters =
      withExecutor { task with filters := filters, noNewPrivs := true } executor := by
  unfold Kernel.sync withExecutor Kernel.put
  congr 1
  funext t
  by_cases hmain : t = mainThread
  · subst hmain
    simp only [Function.update_self, Option.map_some, if_true]
  · simp only [Function.update_of_ne hmain]
    split
    · next hgroup =>
        have hother : t ≠ ⟨1, 0⟩ := by
          rintro rfl
          cases hgroup
        simp only [Function.update_of_ne hother, Option.map_none]
    · rfl

theorem withExecutor_suffix (task executor : Task Bool) :
    ∀ t' task', t'.group = mainThread.group → (withExecutor task executor).tasks t' = some task' →
      task'.filters <:+ task.filters := by
  intro t' task' hgroup ht'
  rw [(withExecutor_cases hgroup ht').2]

/-- A server whose executor is there starts, and reads the authorized keys while the executor runs a
shell: the sandbox does not reach the executor. -/
theorem keys_are_read_while_serving :
    ∃ (h : List (DaemonEvent Bool)) (d : Daemon Bool), Run Daemon.Initial (DaemonStep id) h d ∧
      .acts .serving ⟨1, 0⟩ (.other (.named .execve)) .done ∈ h ∧
      .acts .serving mainThread (.openFile true [.readFile]) .done ∈ h ∧
      Confined id mainThread (.openFile true [.readFile]) := by
  have hstart : Run Daemon.Initial (DaemonStep id) []
      ⟨withExecutor ⟨[], [], false⟩ ⟨[], [], false⟩, .booting⟩ := .nil ⟨rfl, _, rfl⟩
  have hbound := hstart.cons (.booted rfl)
  have hprivs := hbound.cons (.setsUp rfl (.done rfl rfl rfl .setNoNewPrivs))
  rw [withExecutor_put] at hprivs
  have hlocked := hprivs.cons (.setsUp rfl (.done rfl rfl rfl (.restrictSelf rfl)))
  rw [withExecutor_put] at hlocked
  have herrno := hlocked.cons
    (.setsUp rfl (.done rfl rfl rfl (.install rfl (withExecutor_suffix _ _))))
  rw [withExecutor_sync] at herrno
  have hserving := herrno.cons
    (.setsUp rfl (.done rfl rfl (by decide) (.install rfl (withExecutor_suffix _ _))))
  rw [withExecutor_sync] at hserving
  have hexec : KernelStep _ ⟨1, 0⟩ (.other (.named .execve)) .done _ :=
    .done (k := withExecutor ⟨[allowlistFilter, errnoFilter], [authorizedKeysDomain id], true⟩
      ⟨[], [], false⟩) rfl rfl rfl (.other (by decide))
  have hopens : KernelStep _ mainThread (.openFile true [.readFile]) .done _ :=
    .done (k := withExecutor ⟨[allowlistFilter, errnoFilter], [authorizedKeysDomain id], true⟩
      ⟨[], [], false⟩) rfl rfl (by decide)
        (.openFile (by simp [Task.MayOpen, authorizedKeysDomain]))
  have hread := (hserving.cons (.acts hexec)).cons (.acts hopens)
  exact ⟨_, _, hread, List.mem_cons_of_mem _ List.mem_cons_self, List.mem_cons_self,
    confined_while_serving _ _ _ hread _ rfl _ List.mem_cons_self⟩

end

end Narrowd.Sandbox
