import Narrowd.Services.Progress

set_option autoImplicit false

/-! # A child process, and what is done to it

The two process services, over pipes and over a terminal, start a child, pass on the signals that
the client sends, kill it when the client closes the channel, and wait for it. What they do to the
child is recorded as a list of *calls*, each with whether the child had been waited for by then.

`owed` is what the client's messages ask for: each signal up to the first `Close`, and a kill for
that. `Passing` relates it to the calls made, for a service that reads its messages from an inbox
and may hand them on through a queue; both services keep it, each by its own steps.
-/

namespace Narrowd.Services

open Executor

/-! ## The child -/

/-- `std::process::ExitStatus`. A child that has been waited for has exited or was killed. -/
inductive ExitStatus
  | exited (code : UInt8)
  | signaled (signal : UInt8)
  | other
  deriving DecidableEq

def exitStatusCode : ExitStatus → UInt32
  | .exited code => code.toUInt32
  | .signaled signal => 128 + signal.toUInt32
  | .other => 255

/-- The code that the waiter reports for `wait()`. -/
def waitCode (code : UInt32) : Option IoError → UInt32
  | none => code
  | some _ => 255

/-- A child whose exit is described by `ρ`. -/
inductive Child (ρ : Type)
  | running
  | exited (status : ρ)
  /-- `wait()` has returned, with an error if there is one. -/
  | waited (status : ρ) (err : Option IoError)

def Child.isWaited {ρ : Type} : Child ρ → Bool
  | .waited _ _ => true
  | .running | .exited _ => false

/-- The steps until the child has been waited for. -/
def Child.rank {ρ : Type} : Child ρ → Nat
  | .running => 2
  | .exited _ => 1
  | .waited _ _ => 0

theorem Child.rank_le {ρ : Type} (child : Child ρ) : child.rank ≤ 2 := by
  cases child with
  | running => exact Nat.le_refl 2
  | exited _ => exact Nat.le_succ 1
  | waited _ _ => exact Nat.zero_le 2

/-- How a child takes what comes to it: whether its input is full, so that a write to it waits, and
whether `SIGHUP` ends it. Both may change at any moment. -/
structure Disposition where
  full : Bool
  endsOnHangup : Bool
  deriving DecidableEq

/-- The output loop is sent the status that the waiter has found. -/
structure StatusInv {ρ : Type} (code : ρ → UInt32) (child : Child ρ) (relay : Relay) : Prop where
  waiting : child.isWaited = false → relay.exit = none
  waited : ∀ status err, child = .waited status err →
    relay.exit = some (waitCode (code status) err)

/-- A status that has been sent is that of a child that has been waited for. -/
theorem StatusInv.exists_waited {ρ : Type} {code : ρ → UInt32} {child : Child ρ} {relay : Relay}
    (hi : StatusInv code child relay) {c : UInt32} (hexit : relay.exit = some c) :
    ∃ status err, child = .waited status err ∧ waitCode (code status) err = c := by
  cases child with
  | running => cases (hi.waiting rfl).symm.trans hexit
  | exited status => cases (hi.waiting rfl).symm.trans hexit
  | waited status err =>
      exact ⟨status, err, rfl, Option.some.inj ((hi.waited status err rfl).symm.trans hexit)⟩

/-! ## Calls -/

/-- `nix::sys::signal::Signal`, those that are sent. -/
inductive Signal
  | sigabrt | sigalrm | sigfpe | sighup | sigill | sigint
  | sigkill | sigpipe | sigquit | sigsegv | sigterm | sigusr1
  deriving DecidableEq

def toSignal : ExecutorSignal → Signal
  | .abrt => .sigabrt
  | .alrm => .sigalrm
  | .fpe => .sigfpe
  | .hup => .sighup
  | .ill => .sigill
  | .int => .sigint
  | .kill => .sigkill
  | .pipe => .sigpipe
  | .quit => .sigquit
  | .segv => .sigsegv
  | .term => .sigterm
  | .usr1 => .sigusr1

/-- What is done to the child by its process id or its group. -/
inductive Call
  /-- `send_signal_to_pid`. -/
  | kill (signal : Signal)
  /-- `send_signal_to_process_group`. -/
  | killpg (group : Int32) (signal : Signal)
  /-- `Child::start_kill`. -/
  | startKill
  /-- `ChildKiller::kill`, which sends `SIGHUP`; whether that ends the child. -/
  | killer (ends : Bool)
  deriving DecidableEq

/-- A call, and whether `wait()` had returned when it was made. -/
structure Logged where
  call : Call
  afterWait : Bool
  deriving DecidableEq

/-- No call was made after `wait()` had returned. -/
def NoneAfterWait (calls : List Logged) : Prop := ∀ l ∈ calls, l.afterWait = false

theorem NoneAfterWait.concat {calls : List Logged} (h : NoneAfterWait calls) {waited : Bool}
    (hwaited : ¬ waited = true) (call : Call) : NoneAfterWait (calls ++ [⟨call, waited⟩]) :=
  List.forall_mem_append.mpr
    ⟨h, List.forall_mem_singleton.mpr (Bool.eq_false_of_not_eq_true hwaited)⟩

/-! ## What the messages ask for -/

inductive Demand
  | signal (signal : ExecutorSignal)
  | close
  deriving DecidableEq

def demand : ProcessInput → Option Demand
  | .signal signal => some (.signal signal)
  | .close => some .close
  | .data _ | .resize _ | .eof => none

variable {finished' : Prop}

section

variable (pass : ExecutorSignal → Call) (kill : Call)

/-- The calls for every signal up to the first `Close`, and for that. -/
def owed : List Demand → List Call
  | [] => []
  | .signal signal :: rest => pass signal :: owed rest
  | .close :: _ => [kill]

variable {pass kill}

theorem owed_append_of_notMem {ds : List Demand} (h : Demand.close ∉ ds) (ds' : List Demand) :
    owed pass kill (ds ++ ds') = owed pass kill ds ++ owed pass kill ds' := by
  induction ds with
  | nil => rfl
  | cons d ds ih =>
      cases d with
      | close => exact absurd List.mem_cons_self h
      | signal signal =>
          have hrest := ih fun hmem => h (List.mem_cons_of_mem _ hmem)
          rw [List.cons_append, owed, owed, hrest, List.cons_append]

/-- Nothing is owed after a `Close`. -/
theorem owed_append_of_mem {ds : List Demand} (h : Demand.close ∈ ds) (ds' : List Demand) :
    owed pass kill (ds ++ ds') = owed pass kill ds := by
  induction ds with
  | nil => cases h
  | cons d ds ih =>
      cases d with
      | close => rfl
      | signal signal =>
          have hmem : Demand.close ∈ ds := by
            rcases List.mem_cons.mp h with heq | hmem
            · cases heq
            · exact hmem
          rw [List.cons_append, owed, owed, ih hmem]

/-! ## Passing them on -/

variable (pass kill)

/-- Of the demands `handled` so far, those that are not in the `queue` any more have been met;
the reader of the inbox goes on until it has met a `Close` or its stream is `finished`. -/
structure Passing (handled queue : List Demand) (calls : List Call) (reading finished : Prop) :
    Prop where
  met : (owed pass kill handled).Sublist (calls ++ owed pass kill queue)
  going : reading → Demand.close ∉ handled ∧ Demand.close ∉ queue
  done : ¬ reading → Demand.close ∈ handled ∨ finished

variable {pass kill} {handled queue : List Demand} {calls : List Call} {reading finished : Prop}

/-- **Nothing is lost**: what the messages ask for has been done, or is asked for by messages that
are still on their way. -/
theorem Passing.sublist [Decidable reading]
    (hp : Passing pass kill handled queue calls reading finished)
    {inbox : List Demand} (hfinished : finished → inbox = []) :
    (owed pass kill (handled ++ inbox)).Sublist
      (calls ++ owed pass kill (queue ++ if reading then inbox else [])) := by
  by_cases hreading : reading
  · obtain ⟨hhandled, hqueue⟩ := hp.going hreading
    rw [if_pos hreading, owed_append_of_notMem hhandled, owed_append_of_notMem hqueue,
      ← List.append_assoc]
    exact List.Sublist.append hp.met (List.Sublist.refl _)
  · rw [if_neg hreading, List.append_nil]
    rcases hp.done hreading with hclose | hend
    · rw [owed_append_of_mem hclose]
      exact hp.met
    · rw [hfinished hend, List.append_nil]
      exact hp.met

/-- Other calls do no harm. -/
theorem Passing.call (hp : Passing pass kill handled queue calls reading finished) (call : Call) :
    Passing pass kill handled queue (calls ++ [call]) reading finished where
  met := by
    refine hp.met.trans (List.Sublist.append ?_ (List.Sublist.refl _))
    exact List.sublist_append_left calls [call]
  going := hp.going
  done := hp.done

/-- A message that asks for nothing is handled. -/
theorem Passing.skip (hp : Passing pass kill handled queue calls reading finished)
    (hreading : reading) : Passing pass kill handled queue calls reading finished' :=
  ⟨hp.met, hp.going, fun h => absurd hreading h⟩

/-- A signal is queued. -/
theorem Passing.enqueue (hp : Passing pass kill handled queue calls reading finished)
    (hreading : reading) (signal : ExecutorSignal) :
    Passing pass kill (handled ++ [.signal signal]) (queue ++ [.signal signal]) calls reading
      finished' where
  met := by
    obtain ⟨hhandled, hqueue⟩ := hp.going hreading
    rw [owed_append_of_notMem hhandled, owed_append_of_notMem hqueue, ← List.append_assoc]
    exact List.Sublist.append hp.met (List.Sublist.refl _)
  going := fun _ => by
    obtain ⟨hhandled, hqueue⟩ := hp.going hreading
    simp [hhandled, hqueue]
  done := fun h => absurd hreading h

/-- A `Close` is queued, and nothing more is read. -/
theorem Passing.enqueueClose (hp : Passing pass kill handled queue calls reading finished)
    (hreading : reading) {reading' : Prop} (hstop : ¬ reading') (more : List Demand) :
    Passing pass kill (handled ++ [.close]) (queue ++ .close :: more) calls reading' finished' where
  met := by
    obtain ⟨hhandled, hqueue⟩ := hp.going hreading
    rw [owed_append_of_notMem hhandled, owed_append_of_notMem hqueue, ← List.append_assoc]
    exact List.Sublist.append hp.met (List.Sublist.refl _)
  going := fun h => absurd h hstop
  done := fun _ => .inl (List.mem_append_right _ List.mem_cons_self)

/-- The stream of messages is over, and the reader may add a `Close` of its own. -/
theorem Passing.finish (hp : Passing pass kill handled queue calls reading finished)
    (hreading : reading) {reading' : Prop} (hstop : ¬ reading') (hfinished : finished)
    (more : List Demand) :
    Passing pass kill handled (queue ++ more) calls reading' finished where
  met := by
    obtain ⟨-, hqueue⟩ := hp.going hreading
    rw [owed_append_of_notMem hqueue]
    refine hp.met.trans ?_
    rw [← List.append_assoc]
    exact List.sublist_append_left _ _
  going := fun h => absurd h hstop
  done := fun _ => .inr hfinished

/-- The first demand of the queue is met. -/
theorem Passing.signal {signal : ExecutorSignal}
    (hp : Passing pass kill handled (.signal signal :: queue) calls reading finished) :
    Passing pass kill handled queue (calls ++ [pass signal]) reading finished where
  met := by
    have h := hp.met
    rw [owed] at h
    rwa [List.append_assoc, List.singleton_append]
  going := fun h => ⟨(hp.going h).1, fun hmem => (hp.going h).2 (List.mem_cons_of_mem _ hmem)⟩
  done := hp.done

/-- A `Close` is met, and the rest of the queue is dropped. -/
theorem Passing.close (hp : Passing pass kill handled (.close :: queue) calls reading finished) :
    Passing pass kill handled [] (calls ++ [kill]) reading finished where
  met := by
    rw [owed, List.append_nil]
    exact hp.met
  going := fun h => absurd List.mem_cons_self (hp.going h).2
  done := hp.done

end

end Narrowd.Services
