import Narrowd.Services.Child

set_option autoImplicit false

/-! # The service for a process with pipes

`start_piped_process_service` starts a child with three pipes and four tasks: a reader for each
output, a waiter, and the output loop, which starts a fifth, the input task
(`handle_piped_service_input`), and aborts it at its end. The waiter also watches a channel whose
only sender the input task holds. Nothing is ever sent on it; but when the input task ends the
channel closes, and the waiter then kills the child.
-/

namespace Narrowd.Services

open Lib Executor

structure Piped where
  child : Child ExitStatus
  disposition : Disposition
  /-- The waiter has taken the branch of the kill channel. -/
  killed : Bool
  /-- Messages from the client that the input task has not handled, and whether more can come. -/
  inbox : List ProcessInput
  inboxEnded : Bool
  /-- The input task is running. -/
  input : Bool
  relay : Relay
  /-- All calls so far, and all messages that have arrived. -/
  calls : List Logged
  delivered : List ProcessInput

def Piped.start (stdout stderr : List UInt8) : Piped where
  child := .running
  disposition := ⟨false, true⟩
  killed := false
  inbox := []
  inboxEnded := false
  input := true
  relay := .start fun
    | .stdout => ⟨stdout, true⟩
    | .stderr => ⟨stderr, true⟩
  calls := []
  delivered := []

def Piped.call (s : Piped) (c : Call) : Piped :=
  { s with calls := s.calls ++ [⟨c, s.child.isWaited⟩] }

/-- The body of the input loop, for a write to the child's input that succeeds. -/
def Piped.handle (s : Piped) : ProcessInput → Piped
  | .data _ => s
  | .signal signal => s.call (.kill (toSignal signal))
  | .eof => s
  | .close => { s.call (.kill .sigkill) with input := false }
  | .resize _ => s

/-- The input task waits in a write: the pipe is full, and the child does not read. -/
def Piped.Blocked (s : Piped) : Prop :=
  s.disposition.full = true ∧ ∃ data rest, s.inbox = .data data :: rest ∧ data ≠ []

theorem Piped.not_blocked {s : Piped} (hroom : s.disposition.full = false) : ¬ s.Blocked :=
  fun h => Bool.false_ne_true (hroom.symm.trans h.1)

/-- What the output loop does besides: it kills the child when output cannot be sent, and aborts
the input task when it is done. -/
def Piped.onRelay (s : Piped) (e : RelayEvent) : Piped :=
  match e, s.relay.phase with
  | .sendFails, .sending _ => s.call (.kill .sigkill)
  | .shutdown, _ => { s with input := false }
  | _, _ => s

inductive PipedEvent
  | deliver (message : ProcessInput)
  /-- The stream of messages ends, or fails. -/
  | endInput
  | handle
  | stdinFails
  | childTurns (disposition : Disposition)
  | childExits (status : ExitStatus)
  | waitReturns (err : Option IoError)
  | startKill
  | relay (e : RelayEvent)
  deriving DecidableEq

section

variable (json : SerdeJson ProcessOutput)

inductive PipedStep : Piped → PipedEvent → Piped → Prop
  | deliver {s : Piped} {message : ProcessInput} (hopen : s.inboxEnded = false) :
      PipedStep s (.deliver message)
        { s with inbox := s.inbox ++ [message], delivered := s.delivered ++ [message] }
  | endInput {s : Piped} : PipedStep s .endInput { s with inboxEnded := true }
  | handle {s : Piped} {message : ProcessInput} {rest : List ProcessInput}
      (hinput : s.input = true) (hinbox : s.inbox = message :: rest) (hroom : ¬ s.Blocked) :
      PipedStep s .handle (Piped.handle { s with inbox := rest } message)
  | handleEnd {s : Piped} (hinput : s.input = true) (hinbox : s.inbox = [])
      (hended : s.inboxEnded = true) : PipedStep s .handle { s with input := false }
  /-- A failed write ends the loop. -/
  | stdinFails {s : Piped} {data : List UInt8} {rest : List ProcessInput}
      (hinput : s.input = true) (hinbox : s.inbox = .data data :: rest) :
      PipedStep s .stdinFails { s with inbox := rest, input := false }
  | childTurns {s : Piped} {disposition : Disposition} :
      PipedStep s (.childTurns disposition) { s with disposition := disposition }
  | childExits {s : Piped} {status : ExitStatus} (hchild : s.child = .running) :
      PipedStep s (.childExits status) { s with child := .exited status }
  | waitReturns {s : Piped} {status : ExitStatus} {err : Option IoError} {relay : Relay}
      (hchild : s.child = .exited status)
      (hrelay : RelayStep json s.relay (.waited (waitCode (exitStatusCode status) err)) relay) :
      PipedStep s (.waitReturns err) { s with child := .waited status err, relay := relay }
  /-- Every sender of the kill channel is gone. -/
  | startKill {s : Piped} (hinput : s.input = false) (hkilled : s.killed = false)
      (hchild : s.child.isWaited = false) :
      PipedStep s .startKill { s.call .startKill with killed := true }
  | relay {s : Piped} {e : RelayEvent} {relay : Relay} (hrelay : RelayStep json s.relay e relay)
      (he : ∀ code, e ≠ .waited code) :
      PipedStep s (.relay e) { s.onRelay e with relay := relay }

/-- Runs of the service for a child with the given output. -/
def PipedRun (stdout stderr : List UInt8) : List PipedEvent → Piped → Prop :=
  Run (· = .start stdout stderr) (PipedStep json)

end

/-! ## What does not change -/

variable {handled : List Demand}

section

variable {json : SerdeJson ProcessOutput} {s s' : Piped} {e : PipedEvent}

theorem Piped.handle_relay (s : Piped) (m : ProcessInput) : (s.handle m).relay = s.relay := by
  cases m <;> rfl

theorem Piped.handle_child (s : Piped) (m : ProcessInput) : (s.handle m).child = s.child := by
  cases m <;> rfl

/-- What the output loop does besides is a call or the end of the input task. -/
theorem Piped.onRelay_cases (s : Piped) (e : RelayEvent) :
    (∃ encoded, e = .sendFails ∧ s.relay.phase = .sending encoded ∧
      s.onRelay e = s.call (.kill .sigkill)) ∨
    (e = .shutdown ∧ s.onRelay e = { s with input := false }) ∨
    ((e = .sendFails → ∀ encoded, s.relay.phase ≠ .sending encoded) ∧ e ≠ .shutdown ∧
      s.onRelay e = s) := by
  unfold Piped.onRelay
  split
  · next encoded hphase => exact .inl ⟨encoded, rfl, hphase, rfl⟩
  · exact .inr (.inl ⟨rfl, rfl⟩)
  · next hshut hsend =>
      refine .inr (.inr ⟨?_, hshut, rfl⟩)
      rintro rfl encoded hphase
      exact hsend encoded rfl hphase

theorem Piped.onRelay_child (s : Piped) (e : RelayEvent) : (s.onRelay e).child = s.child := by
  rcases s.onRelay_cases e with ⟨_, -, -, h⟩ | ⟨-, h⟩ | ⟨-, -, h⟩
  · rw [h]; rfl
  · rw [h]
  · rw [h]

/-! ## The status -/

theorem PipedStep.statusInv (hs : PipedStep json s e s')
    (hi : StatusInv exitStatusCode s.child s.relay) :
    StatusInv exitStatusCode s'.child s'.relay := by
  cases hs with
  | deliver _ => exact hi
  | endInput => exact hi
  | handle _ _ =>
      rw [Piped.handle_child, Piped.handle_relay]
      exact hi
  | handleEnd _ _ _ => exact hi
  | stdinFails _ _ => exact hi
  | childTurns => exact hi
  | childExits hchild =>
      refine ⟨fun _ => hi.waiting (by rw [hchild]; rfl), fun _ _ h => nomatch h⟩
  | waitReturns _ hrelay =>
      refine ⟨(fun h => nomatch h), ?_⟩
      intro status err hwaited
      cases hwaited
      cases hrelay with
      | waited _ => rfl
  | startKill _ _ _ => exact hi
  | relay hrelay he =>
      have hexit := hrelay.exit_eq he
      refine ⟨?_, ?_⟩
      · intro h
        dsimp only at h ⊢
        rw [Piped.onRelay_child] at h
        exact hexit.trans (hi.waiting h)
      · intro status err h
        dsimp only at h ⊢
        rw [Piped.onRelay_child] at h
        exact hexit.trans (hi.waited status err h)

/-! ## Signals -/

/-- A signal is sent to the child's process id, and a kill is one. -/
def pipedOwed : List Demand → List Call :=
  owed (fun signal => .kill (toSignal signal)) (.kill .sigkill)

/-- What the messages ask for that the input task has yet to handle. -/
def Piped.pending (s : Piped) : List Demand :=
  if s.input = true then s.inbox.filterMap demand else []

/-- **The signals and the first `Close` reach the child**: unless it has exited, everything that
the messages ask for has been done, or will be when the input task comes to it. -/
def Piped.Passed (s : Piped) : Prop :=
  s.child = .running →
    (pipedOwed (s.delivered.filterMap demand)).Sublist
      (s.calls.map Logged.call ++ pipedOwed s.pending)

/-- While the child runs, writes to its input and to the service stream succeed. -/
def Piped.WritesSucceed (s : Piped) (e : PipedEvent) : Prop :=
  s.child = .running → e ≠ .stdinFails ∧ e ≠ .relay .sendFails

structure PipedInv (handled : List Demand) (s : Piped) : Prop where
  split : s.delivered.filterMap demand = handled ++ s.inbox.filterMap demand
  passing : s.child = .running →
    Passing (fun signal => .kill (toSignal signal)) (.kill .sigkill) handled []
      (s.calls.map Logged.call) (s.input = true) (s.inbox = [] ∧ s.inboxEnded = true)
  waiting : s.child = .running → s.relay.Waiting

/-- Handling a message meets what it asks for. -/
theorem PipedInv.handle {handled : List Demand} (hi : PipedInv handled s) {m : ProcessInput}
    {rest : List ProcessInput} (hinput : s.input = true) (hinbox : s.inbox = m :: rest) :
    PipedInv (handled ++ (demand m).toList) (Piped.handle { s with inbox := rest } m) := by
  have hsplit : s.delivered.filterMap demand =
      handled ++ (demand m).toList ++ rest.filterMap demand := by
    rw [hi.split, hinbox, List.filterMap_cons, List.append_assoc]
    cases demand m <;> rfl
  have hnothing : s.delivered.filterMap demand = handled ++ [] ++ rest.filterMap demand →
      PipedInv (handled ++ []) { s with inbox := rest } := by
    intro hsplit
    refine ⟨hsplit, fun hchild => ?_, hi.waiting⟩
    rw [List.append_nil]
    exact (hi.passing hchild).skip hinput
  cases m with
  | data data => exact hnothing hsplit
  | eof => exact hnothing hsplit
  | resize size => exact hnothing hsplit
  | signal signal =>
      refine ⟨hsplit, fun hchild => ?_, hi.waiting⟩
      show Passing _ _ _ _ ((s.calls ++ [_]).map Logged.call) (s.input = true) _
      rw [List.map_append]
      exact ((hi.passing hchild).enqueue hinput signal).signal
  | close =>
      refine ⟨hsplit, fun hchild => ?_, hi.waiting⟩
      show Passing _ _ _ _ ((s.calls ++ [_]).map Logged.call) (false = true) _
      rw [List.map_append]
      exact ((hi.passing hchild).enqueueClose hinput Bool.false_ne_true []).close

/-- **Every step keeps the invariant** while writes succeed. -/
theorem PipedInv.step (hi : PipedInv handled s) (hs : PipedStep json s e s')
    (hwrites : s.WritesSucceed e) : ∃ handled', PipedInv handled' s' := by
  cases hs with
  | @deliver message hopen =>
      refine ⟨handled, ?_, fun hchild => ?_, hi.waiting⟩
      · show (s.delivered ++ [message]).filterMap demand =
          handled ++ (s.inbox ++ [message]).filterMap demand
        rw [List.filterMap_append, List.filterMap_append, hi.split, List.append_assoc]
      · have hp := hi.passing hchild
        refine ⟨hp.met, hp.going, fun hstop => ?_⟩
        rcases hp.done hstop with hclose | ⟨-, hended⟩
        · exact .inl hclose
        · cases hopen.symm.trans hended
  | endInput =>
      refine ⟨handled, hi.split, fun hchild => ?_, hi.waiting⟩
      have hp := hi.passing hchild
      exact ⟨hp.met, hp.going, fun hstop => (hp.done hstop).imp id fun h => ⟨h.1, rfl⟩⟩
  | handle hinput hinbox _ => exact ⟨_, hi.handle hinput hinbox⟩
  | handleEnd hinput hinbox hended =>
      refine ⟨handled, hi.split, fun hchild => ?_, hi.waiting⟩
      exact (hi.passing hchild).finish hinput Bool.false_ne_true ⟨hinbox, hended⟩ []
  | stdinFails hinput hinbox =>
      -- only a child that is not running may refuse its input
      have hrunning : s.child ≠ .running := fun hchild => (hwrites hchild).1 rfl
      have hsplit := hi.split
      rw [hinbox] at hsplit
      exact ⟨handled, hsplit, fun hchild => absurd hchild hrunning,
        fun hchild => absurd hchild hrunning⟩
  | childTurns => exact ⟨handled, hi.split, hi.passing, hi.waiting⟩
  | childExits hchild =>
      exact ⟨handled, hi.split, (fun h => nomatch h), (fun h => nomatch h)⟩
  | waitReturns hchild hrelay =>
      exact ⟨handled, hi.split, (fun h => nomatch h), (fun h => nomatch h)⟩
  | startKill _ _ _ =>
      refine ⟨handled, hi.split, fun hchild => ?_, hi.waiting⟩
      have hp := (hi.passing hchild).call .startKill
      show Passing _ _ _ _ ((s.calls ++ [_]).map Logged.call) _ _
      rw [List.map_append]
      exact hp
  | @relay e relay hrelay he =>
      have hwaiting : s.child = .running → relay.Waiting := fun hchild =>
        (hi.waiting hchild).step hrelay (fun h => (hwrites hchild).2 (congrArg _ h)) he
      rcases s.onRelay_cases e with ⟨_, rfl, -, h⟩ | ⟨rfl, h⟩ | ⟨-, -, h⟩
      · rw [h]
        have hrunning : s.child ≠ .running := fun hchild => (hwrites hchild).2 rfl
        exact ⟨handled, hi.split, fun hchild => absurd hchild hrunning, hwaiting⟩
      · rw [h]
        refine ⟨handled, hi.split, fun hchild => ?_, hwaiting⟩
        -- the loop shuts its stream down only after the child's exit
        have hloop := (hi.waiting hchild).looping
        cases hrelay with
        | shutdown hphase =>
            rw [hphase] at hloop
            cases hloop
      · rw [h]
        exact ⟨handled, hi.split, hi.passing, hwaiting⟩

/-- When `wait()` returns, no message that asks for a signal or a kill waits for the input task;
from then on none arrives while the task runs, and no output fails to be sent. -/
def Piped.Settled (s : Piped) (e : PipedEvent) : Prop :=
  ((∃ err, e = .waitReturns err) → s.input = true → ∀ m ∈ s.inbox, demand m = none) ∧
  (s.child.isWaited = true →
    (∀ m, e = .deliver m → s.input = true → demand m = none) ∧
    (e = .relay .sendFails → ∀ encoded, s.relay.phase ≠ .sending encoded))

/-- Nothing was done to a child that had been waited for, and nothing is left that asks for it. -/
structure Piped.AtPeace (s : Piped) : Prop where
  calls : NoneAfterWait s.calls
  inbox : s.child.isWaited = true → s.input = true → ∀ m ∈ s.inbox, demand m = none

theorem Piped.AtPeace.handle (hi : s.AtPeace) {m : ProcessInput} {rest : List ProcessInput}
    (hinput : s.input = true) (hinbox : s.inbox = m :: rest) :
    (Piped.handle { s with inbox := rest } m).AtPeace := by
  have hall := hi.inbox
  rw [hinbox] at hall
  have hrest : s.child.isWaited = true → s.input = true → ∀ m ∈ rest, demand m = none :=
    fun hwaited hinput m hm => hall hwaited hinput m (List.mem_cons_of_mem _ hm)
  have hnothing : demand m ≠ none → ¬ s.child.isWaited = true :=
    fun hm hwaited => hm (hall hwaited hinput m List.mem_cons_self)
  cases m with
  | signal signal => exact ⟨hi.calls.concat (hnothing (fun h => nomatch h)) _, hrest⟩
  | close => exact ⟨hi.calls.concat (hnothing (fun h => nomatch h)) _, fun _ h => nomatch h⟩
  | data data => exact ⟨hi.calls, hrest⟩
  | eof => exact ⟨hi.calls, hrest⟩
  | resize size => exact ⟨hi.calls, hrest⟩

theorem Piped.AtPeace.step (hi : s.AtPeace) (hs : PipedStep json s e s') (hsettled : s.Settled e) :
    s'.AtPeace := by
  cases hs with
  | @deliver message _ =>
      refine ⟨hi.calls, fun hwaited hinput m hm => ?_⟩
      rcases List.mem_append.mp hm with hm | hm
      · exact hi.inbox hwaited hinput m hm
      · rw [List.mem_singleton.mp hm]
        exact (hsettled.2 hwaited).1 message rfl hinput
  | handle hinput hinbox _ => exact hi.handle hinput hinbox
  | handleEnd _ _ _ => exact ⟨hi.calls, fun _ h => nomatch h⟩
  | stdinFails _ _ => exact ⟨hi.calls, fun _ h => nomatch h⟩
  | childExits _ => exact ⟨hi.calls, fun h => nomatch h⟩
  | waitReturns _ _ => exact ⟨hi.calls, fun _ => hsettled.1 ⟨_, rfl⟩⟩
  | startKill _ _ hchild => exact ⟨hi.calls.concat (by rw [hchild]; decide) _, hi.inbox⟩
  | @relay e relay hrelay he =>
      rcases s.onRelay_cases e with ⟨encoded, rfl, hphase, h⟩ | ⟨rfl, h⟩ | ⟨-, -, h⟩
      · rw [h]
        refine ⟨hi.calls.concat (fun hwaited => ?_) _, hi.inbox⟩
        exact (hsettled.2 hwaited).2 rfl encoded hphase
      · rw [h]
        exact ⟨hi.calls, fun _ h => nomatch h⟩
      · rw [h]
        exact ⟨hi.calls, hi.inbox⟩
  | endInput => exact ⟨hi.calls, hi.inbox⟩
  | childTurns => exact ⟨hi.calls, hi.inbox⟩

/-! ## Output -/

/-- The streams of the child. -/
def pipedTotal (stdout stderr : List UInt8) : ProcessStream → List UInt8
  | .stdout => stdout
  | .stderr => stderr

def PipedEvent.part : PipedEvent → OutputPart
  | .relay e => .relay e
  | .waitReturns _ => .waited
  | _ => .silent

/-- **The output side of a step** is a step of the relay, or nothing. -/
theorem PipedStep.moves (hs : PipedStep json s e s') : e.part.Moves json s.relay s'.relay := by
  cases hs with
  | handle _ _ => exact Piped.handle_relay _ _
  | waitReturns _ hrelay => exact ⟨_, hrelay⟩
  | relay hrelay _ => exact hrelay
  | _ => exact rfl

theorem statusInv_of_run {stdout stderr : List UInt8} {h : List PipedEvent}
    (hr : PipedRun json stdout stderr h s) : StatusInv exitStatusCode s.child s.relay := by
  refine Run.invariant (P := fun _ s => StatusInv exitStatusCode s.child s.relay) ?_ ?_ hr
  · rintro s rfl
    exact ⟨fun _ => rfl, fun _ _ h => nomatch h⟩
  · intro h s e s' _ hi hs
    exact hs.statusInv hi

/-- The child exits, or is waited for. -/
theorem exists_pipedStep_of_exit (hi : StatusInv exitStatusCode s.child s.relay)
    (hexit : s.relay.exit = none) :
    ∃ e s', PipedStep json s e s' ∧ e.part.Succeeds ∧
      ((s'.relay = s.relay ∧ s'.child.rank < s.child.rank) ∨ s'.relay.exit ≠ none) := by
  cases hchild : s.child with
  | running =>
      exact ⟨.childExits (.exited 0), _, .childExits hchild, trivial,
        .inl ⟨rfl, Nat.lt_succ_self 1⟩⟩
  | exited status =>
      exact ⟨.waitReturns none, _, .waitReturns hchild (.waited hexit), trivial,
        .inr (Option.some_ne_none _)⟩
  | waited status err =>
      have hsome := hi.waited status err hchild
      cases hexit.symm.trans hsome

end

/-- **The service for pipes delivers its output.** -/
def pipedService (json : SerdeJson ProcessOutput) (stdout stderr : List UInt8) :
    Service json Piped PipedEvent where
  start := .start stdout stderr
  step := restrict (PipedStep json) fun _ e => e.part.Succeeds
  relay := Piped.relay
  output e := e.part.isOutput
  rank s := s.child.rank
  rank_le s := s.child.rank_le
  reader
    | .stdout => ⟨stdout, true⟩
    | .stderr => ⟨stderr, true⟩
  relay_start := rfl
  reader_start which h := by cases which <;> cases h
  relay_step _ _ _ hs := hs.1.moves.cases hs.2
  step_relay s r _ hrelay hsucceeds hwaited :=
    ⟨.relay r, _, ⟨.relay hrelay hwaited, hsucceeds⟩, rfl⟩
  step_exit _ _ hr hexit := by
    obtain ⟨e, s', hs, he, h⟩ := exists_pipedStep_of_exit (statusInv_of_run hr.of_restrict) hexit
    exact ⟨e, s', ⟨hs, he⟩, h⟩

end Narrowd.Services
