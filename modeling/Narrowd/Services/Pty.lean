import Narrowd.Services.Child

set_option autoImplicit false

/-! # The service for a process on a terminal

`start_pty_process_service` starts a child on a terminal with three threads, a reader, a waiter and
a control thread (`run_pty_control`), and the output loop with its input task
(`handle_pty_service_input`). The input task only hands messages on to the control thread, which
writes to the terminal, signals the process group that was in the foreground when the child was
started, if that is known, and kills the child on `Close`. Besides the client's messages it is sent
a `Close` when these end, and another one when the child has exited.
-/

namespace Narrowd.Services

open Lib Executor

inductive PtyControl
  | write (data : List UInt8)
  | resize (size : SerializablePtySize)
  | signal (signal : ExecutorSignal)
  | eof
  | close
  deriving DecidableEq

/-- How the stream of messages ended. -/
inductive InboxEnd
  | eof
  | failed
  deriving DecidableEq

structure Pty where
  child : Child UInt32
  disposition : Disposition
  inbox : List ProcessInput
  inboxEnd : Option InboxEnd
  /-- The input task is running. -/
  input : Bool
  /-- What the control thread has been sent; whether it is running, and still has its writer. -/
  queue : List PtyControl
  control : Bool
  writer : Bool
  processGroup : Option Int32
  relay : Relay
  /-- All calls so far, and all messages that have arrived. -/
  calls : List Logged
  delivered : List ProcessInput

/-- A terminal has one stream of output. -/
def Pty.start (processGroup : Option Int32) (output : List UInt8) : Pty where
  child := .running
  disposition := ⟨false, true⟩
  inbox := []
  inboxEnd := none
  input := true
  queue := []
  control := true
  writer := true
  processGroup := processGroup
  relay := .start fun
    | .stdout => ⟨output, true⟩
    | .stderr => ⟨[], false⟩
  calls := []
  delivered := []

def Pty.call (s : Pty) (c : Call) : Pty :=
  { s with calls := s.calls ++ [⟨c, s.child.isWaited⟩] }

/-- `control_tx.send(..)`, which fails when the control thread has ended. -/
def Pty.send (s : Pty) (c : PtyControl) : Pty :=
  if s.control = true then { s with queue := s.queue ++ [c] } else s

/-- The body of the input task's loop. It ends when data cannot be sent, or on `Close`, and sends a
`Close` at its end. -/
def Pty.handle (s : Pty) : ProcessInput → Pty
  | .data data =>
      if s.control = true then s.send (.write data) else { s.send .close with input := false }
  | .signal signal => s.send (.signal signal)
  | .resize size => s.send (.resize size)
  | .eof => s.send .eof
  | .close => { (s.send .close).send .close with input := false }

/-- The body of the control thread's loop, for a write that succeeds. -/
def Pty.obey (s : Pty) : PtyControl → Pty
  | .write _ => s
  | .resize _ => s
  | .signal signal =>
      match s.processGroup with
      | some group => s.call (.killpg group (toSignal signal))
      | none => s
  | .eof => { s with writer := false }
  | .close =>
      { s.call (.killer s.disposition.endsOnHangup) with writer := false, control := false }

/-- The control thread waits in a write: the terminal takes no more, and the child does not read. -/
def Pty.Blocked (s : Pty) : Prop :=
  s.disposition.full = true ∧ s.writer = true ∧
    ∃ data rest, s.queue = .write data :: rest ∧ data ≠ []

theorem Pty.not_blocked {s : Pty} (hroom : s.disposition.full = false) : ¬ s.Blocked :=
  fun h => Bool.false_ne_true (hroom.symm.trans h.1)

/-- What the output loop does besides: it closes the control side when the child has exited, and
aborts the input task then and when it is done. -/
def Pty.onRelay (s : Pty) : RelayEvent → Pty
  | .exited => { s.send .close with input := false }
  | .shutdown => { s with input := false }
  | _ => s

inductive PtyEvent
  | deliver (message : ProcessInput)
  | endInput (reason : InboxEnd)
  | handle
  | obey
  | writeFails
  | childTurns (disposition : Disposition)
  | childExits (code : UInt32)
  | waitReturns (err : Option IoError)
  | relay (e : RelayEvent)
  deriving DecidableEq

section

variable (json : SerdeJson ProcessOutput)

inductive PtyStep : Pty → PtyEvent → Pty → Prop
  | deliver {s : Pty} {message : ProcessInput} (hopen : s.inboxEnd = none) :
      PtyStep s (.deliver message)
        { s with inbox := s.inbox ++ [message], delivered := s.delivered ++ [message] }
  | endInput {s : Pty} {reason : InboxEnd} (hopen : s.inboxEnd = none) :
      PtyStep s (.endInput reason) { s with inboxEnd := some reason }
  | handle {s : Pty} {message : ProcessInput} {rest : List ProcessInput}
      (hinput : s.input = true) (hinbox : s.inbox = message :: rest) :
      PtyStep s .handle (Pty.handle { s with inbox := rest } message)
  | handleEof {s : Pty} (hinput : s.input = true) (hinbox : s.inbox = [])
      (hended : s.inboxEnd = some .eof) :
      PtyStep s .handle { s.send .close with input := false }
  /-- An error of the stream ends the input task at once. -/
  | handleFailed {s : Pty} (hinput : s.input = true) (hinbox : s.inbox = [])
      (hended : s.inboxEnd = some .failed) : PtyStep s .handle { s with input := false }
  | obey {s : Pty} {c : PtyControl} {rest : List PtyControl} (hcontrol : s.control = true)
      (hqueue : s.queue = c :: rest) (hroom : ¬ s.Blocked) :
      PtyStep s .obey (Pty.obey { s with queue := rest } c)
  /-- Every sender is gone: the input task's and the output loop's. -/
  | obeyEnd {s : Pty} (hcontrol : s.control = true) (hqueue : s.queue = [])
      (hinput : s.input = false) (hphase : s.relay.phase = .ended) :
      PtyStep s .obey { s with control := false }
  /-- A failed write ends the control thread. -/
  | writeFails {s : Pty} {data : List UInt8} {rest : List PtyControl}
      (hcontrol : s.control = true) (hqueue : s.queue = .write data :: rest)
      (hwriter : s.writer = true) :
      PtyStep s .writeFails { s with queue := rest, control := false }
  | childTurns {s : Pty} {disposition : Disposition} :
      PtyStep s (.childTurns disposition) { s with disposition := disposition }
  | childExits {s : Pty} {code : UInt32} (hchild : s.child = .running) :
      PtyStep s (.childExits code) { s with child := .exited code }
  | waitReturns {s : Pty} {code : UInt32} {err : Option IoError} {relay : Relay}
      (hchild : s.child = .exited code)
      (hrelay : RelayStep json s.relay (.waited (waitCode code err)) relay) :
      PtyStep s (.waitReturns err) { s with child := .waited code err, relay := relay }
  | relay {s : Pty} {e : RelayEvent} {relay : Relay} (hrelay : RelayStep json s.relay e relay)
      (he : ∀ code, e ≠ .waited code) :
      PtyStep s (.relay e) { s.onRelay e with relay := relay }

/-- Runs of the service for a child with the given output. -/
def PtyRun (processGroup : Option Int32) (output : List UInt8) : List PtyEvent → Pty → Prop :=
  Run (· = .start processGroup output) (PtyStep json)

end

variable {handled : List Demand} {rest : List PtyControl} {processGroup : Option Int32}
  {c : PtyControl} {output : List UInt8} {h : List PtyEvent}

section

variable {json : SerdeJson ProcessOutput} {s s' : Pty} {e : PtyEvent}

/-! ## What does not change -/

/-- Sending changes the queue alone, and only while the control thread is running. -/
theorem Pty.send_eq (s : Pty) (c : PtyControl) :
    s.send c = { s with queue := if s.control = true then s.queue ++ [c] else s.queue } := by
  unfold Pty.send
  split <;> rfl

/-- Handling a message changes the queue, and may end the input task. -/
theorem Pty.handle_eq (s : Pty) (m : ProcessInput) :
    ∃ queue input, s.handle m = { s with queue := queue, input := input } := by
  cases m with
  | data data =>
      rw [Pty.handle, Pty.send_eq, Pty.send_eq]
      split
      · exact ⟨_, s.input, rfl⟩
      · exact ⟨_, false, rfl⟩
  | signal signal =>
      rw [Pty.handle, Pty.send_eq]
      exact ⟨_, s.input, rfl⟩
  | resize size =>
      rw [Pty.handle, Pty.send_eq]
      exact ⟨_, s.input, rfl⟩
  | eof =>
      rw [Pty.handle, Pty.send_eq]
      exact ⟨_, s.input, rfl⟩
  | close =>
      rw [Pty.handle, Pty.send_eq, Pty.send_eq]
      exact ⟨_, false, rfl⟩

/-- What the output loop does besides changes the queue and the input task, at the two events. -/
theorem Pty.onRelay_eq (s : Pty) (e : RelayEvent) :
    ∃ queue input, s.onRelay e = { s with queue := queue, input := input } ∧
      (e ≠ .exited → e ≠ .shutdown → queue = s.queue ∧ input = s.input) := by
  by_cases hexited : e = .exited
  · subst hexited
    rw [Pty.onRelay, Pty.send_eq]
    exact ⟨_, false, rfl, fun h => absurd rfl h⟩
  · by_cases hshut : e = .shutdown
    · subst hshut
      exact ⟨s.queue, false, rfl, fun _ h => absurd rfl h⟩
    · refine ⟨s.queue, s.input, ?_, fun _ _ => ⟨rfl, rfl⟩⟩
      unfold Pty.onRelay
      split
      · exact absurd rfl hexited
      · exact absurd rfl hshut
      · rfl

/-- Obeying makes calls, and may drop the writer and end the control thread. -/
theorem Pty.obey_eq (s : Pty) (c : PtyControl) :
    ∃ calls writer control,
      s.obey c = { s with calls := calls, writer := writer, control := control } := by
  cases c with
  | write data => exact ⟨s.calls, s.writer, s.control, rfl⟩
  | resize size => exact ⟨s.calls, s.writer, s.control, rfl⟩
  | eof => exact ⟨s.calls, false, s.control, rfl⟩
  | close => exact ⟨_, false, false, rfl⟩
  | signal signal =>
      rw [Pty.obey]
      split
      · exact ⟨_, s.writer, s.control, rfl⟩
      · exact ⟨s.calls, s.writer, s.control, rfl⟩

/-! ## The status -/

theorem PtyStep.statusInv (hs : PtyStep json s e s') (hi : StatusInv id s.child s.relay) :
    StatusInv id s'.child s'.relay := by
  cases hs with
  | deliver _ => exact hi
  | endInput _ => exact hi
  | @handle message rest _ _ =>
      obtain ⟨_, _, h⟩ := Pty.handle_eq { s with inbox := rest } message
      rw [h]
      exact hi
  | handleEof _ _ _ =>
      rw [Pty.send_eq]
      exact hi
  | handleFailed _ _ _ => exact hi
  | @obey c rest _ _ =>
      obtain ⟨_, _, _, h⟩ := Pty.obey_eq { s with queue := rest } c
      rw [h]
      exact hi
  | obeyEnd _ _ _ _ => exact hi
  | writeFails _ _ _ => exact hi
  | childTurns => exact hi
  | childExits hchild =>
      exact ⟨fun _ => hi.waiting (by rw [hchild]; rfl), fun _ _ h => nomatch h⟩
  | waitReturns _ hrelay =>
      refine ⟨(fun h => nomatch h), ?_⟩
      intro status err hwaited
      cases hwaited
      cases hrelay with
      | waited _ => rfl
  | @relay e relay hrelay he =>
      obtain ⟨_, _, h, -⟩ := s.onRelay_eq e
      have hexit := hrelay.exit_eq he
      rw [h]
      exact ⟨fun hwait => hexit.trans (hi.waiting hwait),
        fun status err hwaited => hexit.trans (hi.waited status err hwaited)⟩

/-! ## Signals -/

def PtyControl.demand : PtyControl → Option Demand
  | .signal sent => some (.signal sent)
  | .close => some .close
  | .write _ | .resize _ | .eof => none

/-- A signal is for the process group when that is known, and for the child when it is not. A
`Close` is to end the child, and the killer's `SIGHUP` need not. -/
def ptyPass (processGroup : Option Int32) (signal : ExecutorSignal) : Call :=
  match processGroup with
  | some group => .killpg group (toSignal signal)
  | none => .kill (toSignal signal)

def ptyOwed (processGroup : Option Int32) : List Demand → List Call :=
  owed (ptyPass processGroup) (.killer true)

/-- What the control thread has been sent and will obey. -/
def Pty.queued (s : Pty) : List Demand :=
  if s.control = true then s.queue.filterMap PtyControl.demand else []

/-- What the messages ask for that has yet to be handled and obeyed. -/
def Pty.pending (s : Pty) : List Demand :=
  s.queued ++ if s.input = true then s.inbox.filterMap demand else []

/-- **The signals and the first `Close` reach the child or its group**: unless it has exited,
everything that the messages ask for has been done, or is on its way to the control thread. -/
def Pty.Passed (s : Pty) : Prop :=
  s.child = .running →
    (ptyOwed s.processGroup (s.delivered.filterMap demand)).Sublist
      (s.calls.map Logged.call ++ ptyOwed s.processGroup s.pending)

/-- While the child runs, writes to the terminal and to the service stream succeed, signals find the
process group known, and a `Close` finds a child that ends on `SIGHUP`. -/
def Pty.WritesSucceed (s : Pty) (e : PtyEvent) : Prop :=
  s.child = .running → e ≠ .writeFails ∧ e ≠ .relay .sendFails ∧
    (e = .obey →
      (∀ signal, s.queue.head? = some (.signal signal) → s.processGroup.isSome = true) ∧
      (s.queue.head? = some .close → s.disposition.endsOnHangup = true))

structure PtyInv (handled : List Demand) (s : Pty) : Prop where
  split : s.delivered.filterMap demand = handled ++ s.inbox.filterMap demand
  passing : s.child = .running →
    Passing (ptyPass s.processGroup) (.killer true) handled s.queued (s.calls.map Logged.call)
      (s.input = true) (s.inbox = [] ∧ s.inboxEnd.isSome = true)
  controlled : s.child = .running → s.input = true → s.control = true
  waiting : s.child = .running → s.relay.Waiting

/-- What the input task sends for a message. -/
def toControl : ProcessInput → PtyControl
  | .data data => .write data
  | .signal signal => .signal signal
  | .resize size => .resize size
  | .eof => .eof
  | .close => .close

theorem demand_toControl (m : ProcessInput) : (toControl m).demand = demand m := by
  cases m <;> rfl

/-- With the control thread running, every message is sent on. -/
theorem Pty.handle_of_control (s : Pty) (hcontrol : s.control = true) (m : ProcessInput) :
    s.handle m =
      if m = .close then { s with queue := s.queue ++ [.close, .close], input := false }
      else { s with queue := s.queue ++ [toControl m] } := by
  cases m with
  | data data => simp [Pty.handle, Pty.send, hcontrol, toControl]
  | signal signal => simp [Pty.handle, Pty.send, hcontrol, toControl]
  | resize size => simp [Pty.handle, Pty.send, hcontrol, toControl]
  | eof => simp [Pty.handle, Pty.send, hcontrol, toControl]
  | close => simp [Pty.handle, Pty.send, hcontrol]

theorem Pty.queued_of_control (hcontrol : s.control = true) :
    s.queued = s.queue.filterMap PtyControl.demand := if_pos hcontrol

/-- Of a child that is not running nothing is said but how the messages are split. -/
theorem ptyInv_of_not_running
    (hsplit : s.delivered.filterMap demand = handled ++ s.inbox.filterMap demand)
    (hchild : s.child ≠ .running) : PtyInv handled s :=
  ⟨hsplit, fun h => absurd h hchild, fun h => absurd h hchild, fun h => absurd h hchild⟩

/-- Handling a message queues what it asks for. -/
theorem PtyInv.handle {handled : List Demand} (hi : PtyInv handled s) {m : ProcessInput}
    {rest : List ProcessInput} (hinput : s.input = true) (hinbox : s.inbox = m :: rest) :
    PtyInv (handled ++ (demand m).toList) (Pty.handle { s with inbox := rest } m) := by
  have hsplit : s.delivered.filterMap demand =
      handled ++ (demand m).toList ++ rest.filterMap demand := by
    rw [hi.split, hinbox, List.filterMap_cons, List.append_assoc]
    cases demand m <;> rfl
  by_cases hrunning : s.child = .running
  · have hcontrol := hi.controlled hrunning hinput
    have hp := hi.passing hrunning
    rw [Pty.queued_of_control hcontrol] at hp
    rw [Pty.handle_of_control { s with inbox := rest } hcontrol m]
    by_cases hclose : m = .close
    · subst hclose
      rw [if_pos rfl]
      refine ⟨hsplit, fun _ => ?_, (fun _ h => nomatch h), fun _ => hi.waiting hrunning⟩
      show Passing _ _ _ (if s.control = true then
        (s.queue ++ [PtyControl.close, .close]).filterMap PtyControl.demand else []) _
        (false = true) _
      rw [if_pos hcontrol, List.filterMap_append]
      exact hp.enqueueClose hinput Bool.false_ne_true [.close]
    · rw [if_neg hclose]
      refine ⟨hsplit, fun _ => ?_, fun _ _ => hcontrol, fun _ => hi.waiting hrunning⟩
      show Passing _ _ _ (if s.control = true then
        (s.queue ++ [toControl m]).filterMap PtyControl.demand else []) _ (s.input = true) _
      rw [if_pos hcontrol, List.filterMap_append, List.filterMap_cons, demand_toControl]
      cases m with
      | signal signal => exact hp.enqueue hinput signal
      | data data => simpa [demand] using hp.skip hinput
      | resize size => simpa [demand] using hp.skip hinput
      | eof => simpa [demand] using hp.skip hinput
      | close => exact absurd rfl hclose
  · obtain ⟨queue, input, hsame⟩ := Pty.handle_eq { s with inbox := rest } m
    rw [hsame]
    exact ptyInv_of_not_running hsplit hrunning

/-- The control thread meets what it obeys. -/
theorem PtyInv.obey (hi : PtyInv handled s) (hcontrol : s.control = true)
    (hqueue : s.queue = c :: rest)
    (hgroup : s.child = .running → ∀ signal, c = .signal signal → s.processGroup.isSome = true)
    (hends : s.child = .running → c = .close → s.disposition.endsOnHangup = true) :
    PtyInv handled (Pty.obey { s with queue := rest } c) := by
  by_cases hrunning : s.child = .running
  · have hp := hi.passing hrunning
    rw [Pty.queued_of_control hcontrol, hqueue, List.filterMap_cons] at hp
    -- a message that asks for nothing only leaves the queue
    have hnothing : ∀ writer, c.demand = none →
        PtyInv handled { s with queue := rest, writer := writer } := by
      intro writer hnone
      rw [hnone] at hp
      refine ⟨hi.split, fun _ => ?_, hi.controlled, hi.waiting⟩
      show Passing _ _ _ (if s.control = true then rest.filterMap PtyControl.demand else []) _ _ _
      rw [if_pos hcontrol]
      exact hp
    cases c with
    | write data => exact hnothing s.writer rfl
    | resize size => exact hnothing s.writer rfl
    | eof => exact hnothing false rfl
    | signal signal =>
        obtain ⟨group, hsome⟩ := Option.isSome_iff_exists.mp (hgroup hrunning signal rfl)
        have hcall : ptyPass s.processGroup signal = .killpg group (toSignal signal) := by
          rw [hsome, ptyPass]
        have hobey : Pty.obey { s with queue := rest } (.signal signal) =
            Pty.call { s with queue := rest } (ptyPass s.processGroup signal) := by
          rw [hcall]
          simp only [Pty.obey, hsome]
        rw [hobey]
        refine ⟨hi.split, fun _ => ?_, hi.controlled, hi.waiting⟩
        show Passing _ _ _ (if s.control = true then rest.filterMap PtyControl.demand else [])
          ((s.calls ++ [_]).map Logged.call) _ _
        rw [if_pos hcontrol, List.map_append]
        exact hp.signal
    | close =>
        refine ⟨hi.split, fun _ => ?_, fun _ hinput => ?_, hi.waiting⟩
        · show Passing _ _ _ []
            ((s.calls ++ [Logged.mk (.killer s.disposition.endsOnHangup) _]).map Logged.call) _ _
          rw [hends hrunning rfl, List.map_append]
          exact hp.close
        · exact absurd List.mem_cons_self (hp.going hinput).2
  · obtain ⟨calls, writer, control, hsame⟩ := Pty.obey_eq { s with queue := rest } c
    rw [hsame]
    exact ptyInv_of_not_running hi.split hrunning

/-- **Every step keeps the invariant** while writes succeed and signals find the group known. -/
theorem PtyInv.step (hi : PtyInv handled s) (hs : PtyStep json s e s')
    (hwrites : s.WritesSucceed e) :
    ∃ handled', PtyInv handled' s' := by
  cases hs with
  | @deliver message hopen =>
      refine ⟨handled, ?_, fun hchild => ?_, hi.controlled, hi.waiting⟩
      · show (s.delivered ++ [message]).filterMap demand =
          handled ++ (s.inbox ++ [message]).filterMap demand
        rw [List.filterMap_append, List.filterMap_append, hi.split, List.append_assoc]
      · have hp := hi.passing hchild
        refine ⟨hp.met, hp.going, fun hstop => ?_⟩
        rcases hp.done hstop with hclose | ⟨-, hended⟩
        · exact .inl hclose
        · rw [hopen] at hended
          cases hended
  | endInput _ =>
      refine ⟨handled, hi.split, fun hchild => ?_, hi.controlled, hi.waiting⟩
      have hp := hi.passing hchild
      exact ⟨hp.met, hp.going, fun hstop => (hp.done hstop).imp id fun h => ⟨h.1, rfl⟩⟩
  | handle hinput hinbox => exact ⟨_, hi.handle hinput hinbox⟩
  | handleEof hinput hinbox hended =>
      refine ⟨handled, ?_⟩
      rw [Pty.send_eq]
      refine ⟨hi.split, fun hchild => ?_, (fun _ h => nomatch h), hi.waiting⟩
      have hcontrol := hi.controlled hchild hinput
      have hp := hi.passing hchild
      rw [Pty.queued_of_control hcontrol] at hp
      show Passing _ _ _ (if s.control = true then (if s.control = true then s.queue ++ [.close]
        else s.queue).filterMap PtyControl.demand else []) _ (false = true) _
      rw [if_pos hcontrol, if_pos hcontrol, List.filterMap_append]
      exact hp.finish hinput Bool.false_ne_true ⟨hinbox, by rw [hended]; rfl⟩ [.close]
  | handleFailed hinput hinbox hended =>
      refine ⟨handled, hi.split, fun hchild => ?_, (fun _ h => nomatch h), hi.waiting⟩
      have hp := (hi.passing hchild).finish hinput Bool.false_ne_true
        ⟨hinbox, by rw [hended]; rfl⟩ []
      rwa [List.append_nil] at hp
  | @obey c rest hcontrol hqueue _ =>
      have hhead : s.queue.head? = some c := by rw [hqueue]; rfl
      refine ⟨handled, hi.obey hcontrol hqueue ?_ ?_⟩
      · rintro hrunning signal rfl
        exact ((hwrites hrunning).2.2 rfl).1 signal hhead
      · rintro hrunning rfl
        exact ((hwrites hrunning).2.2 rfl).2 hhead
  | obeyEnd hcontrol hqueue hinput hphase =>
      refine ⟨handled, ptyInv_of_not_running hi.split fun hrunning => ?_⟩
      have hloop := (hi.waiting hrunning).looping
      rw [hphase] at hloop
      cases hloop
  | writeFails _ _ _ =>
      exact ⟨handled, ptyInv_of_not_running hi.split fun hrunning => (hwrites hrunning).1 rfl⟩
  | childTurns => exact ⟨handled, hi.split, hi.passing, hi.controlled, hi.waiting⟩
  | childExits _ => exact ⟨handled, ptyInv_of_not_running hi.split fun h => nomatch h⟩
  | waitReturns _ _ => exact ⟨handled, ptyInv_of_not_running hi.split fun h => nomatch h⟩
  | @relay e relay hrelay he =>
      obtain ⟨queue, input, hsame, hkeep⟩ := s.onRelay_eq e
      rw [hsame]
      refine ⟨handled, ?_⟩
      by_cases hrunning : s.child = .running
      · -- before the exit neither of the two events happens at which the loop does more
        have hwaiting := hi.waiting hrunning
        have hexited : e ≠ .exited := by
          rintro rfl
          cases hrelay with
          | exited _ _ hexit => cases hwaiting.exit.symm.trans hexit
        have hshut : e ≠ .shutdown := by
          rintro rfl
          have hloop := hwaiting.looping
          cases hrelay with
          | shutdown hphase =>
              rw [hphase] at hloop
              cases hloop
        obtain ⟨rfl, rfl⟩ := hkeep hexited hshut
        have hsend : e ≠ .sendFails := fun h => (hwrites hrunning).2.1 (congrArg _ h)
        exact ⟨hi.split, hi.passing, hi.controlled, fun _ => hwaiting.step hrelay hsend he⟩
      · exact ptyInv_of_not_running hi.split hrunning

/-- The control thread does nothing to the child for this message. -/
def Pty.Ignores (s : Pty) (c : PtyControl) : Prop :=
  c ≠ .close ∧ ∀ signal, c = .signal signal → s.processGroup = none

theorem Pty.obey_of_ignores {c : PtyControl} (h : s.Ignores c) :
    ∃ writer, s.obey c = { s with writer := writer } := by
  cases c with
  | close => exact absurd rfl h.1
  | signal signal =>
      rw [Pty.obey]
      split
      · next group hgroup => cases (h.2 signal rfl).symm.trans hgroup
      · exact ⟨s.writer, rfl⟩
  | eof => exact ⟨false, rfl⟩
  | write data => exact ⟨s.writer, rfl⟩
  | resize size => exact ⟨s.writer, rfl⟩

/-- The control thread has ended; or nobody sends to it any more, and it ignores what it has been
sent. -/
def Pty.Idle (s : Pty) : Prop :=
  s.control = true → s.input = false ∧ s.relay.phase.looping = false ∧ ∀ c ∈ s.queue, s.Ignores c

/-- When `wait()` returns, the control thread is idle. -/
def Pty.Settled (s : Pty) (e : PtyEvent) : Prop := (∃ err, e = .waitReturns err) → s.Idle

/-- Nothing was done to a child that had been waited for, and nothing is left that asks for it. -/
structure Pty.AtPeace (s : Pty) : Prop where
  calls : NoneAfterWait s.calls
  idle : s.child.isWaited = true → s.Idle

theorem Pty.AtPeace.obey (hi : s.AtPeace) (hcontrol : s.control = true)
    (hqueue : s.queue = c :: rest) : (Pty.obey { s with queue := rest } c).AtPeace := by
  by_cases hwaited : s.child.isWaited = true
  · obtain ⟨hinput, hleft, hall⟩ := hi.idle hwaited hcontrol
    rw [hqueue] at hall
    obtain ⟨writer, hobey⟩ := @Pty.obey_of_ignores { s with queue := rest } c
      (hall c List.mem_cons_self)
    rw [hobey]
    exact ⟨hi.calls, fun _ _ => ⟨hinput, hleft, fun c hc => hall c (List.mem_cons_of_mem _ hc)⟩⟩
  · -- before the wait everything may be done
    obtain ⟨calls, writer, control, hobey⟩ := Pty.obey_eq { s with queue := rest } c
    refine ⟨?_, fun h => absurd h (by rw [hobey]; exact hwaited)⟩
    cases c with
    | signal signal =>
        rw [Pty.obey]
        split
        · exact hi.calls.concat hwaited _
        · exact hi.calls
    | close => exact hi.calls.concat hwaited _
    | eof => exact hi.calls
    | write data => exact hi.calls
    | resize size => exact hi.calls

theorem Pty.AtPeace.step (hi : s.AtPeace) (hs : PtyStep json s e s') (hsettled : s.Settled e) :
    s'.AtPeace := by
  -- the input task is not running once the control thread is idle
  have hnone : s.input = true → s.child.isWaited = true → ¬ s.control = true := by
    intro hinput hwaited hcontrol
    cases hinput.symm.trans (hi.idle hwaited hcontrol).1
  cases hs with
  | @handle message rest hinput _ =>
      obtain ⟨queue, input, h⟩ := Pty.handle_eq { s with inbox := rest } message
      rw [h]
      exact ⟨hi.calls, fun hwaited hcontrol => absurd hcontrol (hnone hinput hwaited)⟩
  | handleEof hinput _ _ =>
      rw [Pty.send_eq]
      exact ⟨hi.calls, fun hwaited hcontrol => absurd hcontrol (hnone hinput hwaited)⟩
  | handleFailed _ _ _ =>
      exact ⟨hi.calls, fun hwaited hcontrol => ⟨rfl, (hi.idle hwaited hcontrol).2⟩⟩
  | obey hcontrol hqueue _ => exact hi.obey hcontrol hqueue
  | obeyEnd _ _ _ _ => exact ⟨hi.calls, fun _ h => nomatch h⟩
  | writeFails _ _ _ => exact ⟨hi.calls, fun _ h => nomatch h⟩
  | childExits _ => exact ⟨hi.calls, fun h => nomatch h⟩
  | waitReturns _ hrelay =>
      refine ⟨hi.calls, fun _ hcontrol => ?_⟩
      obtain ⟨hinput, hleft, hall⟩ := hsettled ⟨_, rfl⟩ hcontrol
      exact ⟨hinput, (hrelay.left hleft).1, hall⟩
  | @relay e relay hrelay he =>
      obtain ⟨queue, input, h, hkeep⟩ := s.onRelay_eq e
      rw [h]
      refine ⟨hi.calls, fun hwaited hcontrol => ?_⟩
      obtain ⟨hinput, hleft, hall⟩ := hi.idle hwaited hcontrol
      obtain ⟨hleft', hexited⟩ := hrelay.left hleft
      by_cases hshut : e = .shutdown
      · subst hshut
        cases h
        exact ⟨rfl, hleft', hall⟩
      · obtain ⟨rfl, rfl⟩ := hkeep hexited hshut
        exact ⟨hinput, hleft', hall⟩
  | _ => exact ⟨hi.calls, hi.idle⟩

/-! ## Output -/

/-- The streams of the child: a terminal has one. -/
def ptyTotal (output : List UInt8) : ProcessStream → List UInt8
  | .stdout => output
  | .stderr => []

def PtyEvent.part : PtyEvent → OutputPart
  | .relay e => .relay e
  | .waitReturns _ => .waited
  | _ => .silent

/-- **The output side of a step** is a step of the relay, or nothing. -/
theorem PtyStep.moves (hs : PtyStep json s e s') : e.part.Moves json s.relay s'.relay := by
  cases hs with
  | @handle message rest _ _ =>
      obtain ⟨_, _, h⟩ := Pty.handle_eq { s with inbox := rest } message
      rw [h]
      exact rfl
  | handleEof _ _ _ =>
      rw [Pty.send_eq]
      exact rfl
  | @obey c rest _ _ =>
      obtain ⟨_, _, _, h⟩ := Pty.obey_eq { s with queue := rest } c
      rw [h]
      exact rfl
  | waitReturns _ hrelay => exact ⟨_, hrelay⟩
  | relay hrelay _ => exact hrelay
  | _ => exact rfl

theorem ptyStatusInv_of_run (hr : PtyRun json processGroup output h s) :
    StatusInv id s.child s.relay := by
  refine Run.invariant (P := fun _ s => StatusInv id s.child s.relay) ?_ ?_ hr
  · rintro s rfl
    exact ⟨fun _ => rfl, fun _ _ h => nomatch h⟩
  · intro h s e s' _ hi hs
    exact hs.statusInv hi

/-- The child exits, or is waited for. -/
theorem exists_ptyStep_of_exit (hi : StatusInv id s.child s.relay) (hexit : s.relay.exit = none) :
    ∃ e s', PtyStep json s e s' ∧ e.part.Succeeds ∧
      ((s'.relay = s.relay ∧ s'.child.rank < s.child.rank) ∨ s'.relay.exit ≠ none) := by
  cases hchild : s.child with
  | running =>
      exact ⟨.childExits 0, _, .childExits hchild, trivial, .inl ⟨rfl, Nat.lt_succ_self 1⟩⟩
  | exited code =>
      exact ⟨.waitReturns none, _, .waitReturns hchild (.waited hexit), trivial,
        .inr (Option.some_ne_none _)⟩
  | waited code err =>
      have hsome := hi.waited code err hchild
      cases hexit.symm.trans hsome

end

/-- **The service for a terminal delivers its output.** -/
def ptyService (json : SerdeJson ProcessOutput) (processGroup : Option Int32)
    (output : List UInt8) : Service json Pty PtyEvent where
  start := .start processGroup output
  step := restrict (PtyStep json) fun _ e => e.part.Succeeds
  relay := Pty.relay
  output e := e.part.isOutput
  rank s := s.child.rank
  rank_le s := s.child.rank_le
  reader
    | .stdout => ⟨output, true⟩
    | .stderr => ⟨[], false⟩
  relay_start := rfl
  reader_start which h := by
    cases which with
    | stdout => cases h
    | stderr => rfl
  relay_step _ _ _ hs := hs.1.moves.cases hs.2
  step_relay s r relay' hrelay hsucceeds hwaited :=
    ⟨.relay r, { s.onRelay r with relay := relay' }, ⟨.relay hrelay hwaited, hsucceeds⟩, rfl⟩
  step_exit _ _ hr hexit := by
    obtain ⟨e, s', hs, he, h⟩ := exists_ptyStep_of_exit (ptyStatusInv_of_run hr.of_restrict) hexit
    exact ⟨e, s', ⟨hs, he⟩, h⟩

end Narrowd.Services
