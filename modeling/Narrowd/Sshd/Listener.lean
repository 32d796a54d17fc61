import Narrowd.Lib.Run
import Narrowd.Basic.AnyError
import Narrowd.Basic.Net

set_option autoImplicit false

/-! # The accept loop

`run_with_listener_until_shutdown` accepts connections until its `shutdown` future completes and
gives each to a supervised task of its own. However such a task ends, by itself, with an error or
in a panic, the loop does not notice. An error of `accept` itself is another matter: the loop
returns it. So the listener survives exactly as long as no call of `accept` fails before the
shutdown (`survives_iff`).
-/

namespace Narrowd.Sshd

open Lib

/-! ## Supervised tasks -/

/-- What a panic carries. -/
inductive PanicPayload
  | staticStr (message : String)
  | string (message : String)
  | other
  deriving DecidableEq

def panicPayloadMessage : PanicPayload → String
  | .staticStr message => message
  | .string message => message
  | .other => "<non-string panic payload>"

/-- How the future of a connection ends. -/
inductive TaskOutcome
  | ok
  | err (error : AnyError)
  | panic (payload : PanicPayload)

/-- The log events of the supervisor. -/
inductive SupervisorLog
  | connectionError (peer : SocketAddr) (error : List Char)
  | connectionPanic (peer : SocketAddr) (message : String)
  deriving DecidableEq

/-- The task catches a panic as it catches an error, and logs either. -/
def spawnSupervisedConnection (peerAddr : SocketAddr) : TaskOutcome → List SupervisorLog
  | .ok => []
  | .err error => [.connectionError peerAddr error.alternate]
  | .panic payload => [.connectionPanic peerAddr (panicPayloadMessage payload)]

/-! ## The loop -/

/-- A task that serves a connection, and how it has ended. -/
structure ConnectionTask where
  peerAddr : SocketAddr
  outcome : Option TaskOutcome

/-- The loop, with what it has spawned: whether its shutdown future has completed, and what it has
returned. -/
structure Server where
  tasks : List ConnectionTask
  shutdown : Bool
  returned : Option (Except AnyError Unit)
  log : List SupervisorLog

def Server.new : Server := ⟨[], false, none, []⟩

/-- What the `select!` takes: the shutdown, or the result of `accept`. -/
inductive Ready
  | shutdown
  | accepted (result : Except IoError SocketAddr)

/-- One turn of the loop. -/
def Server.turn (s : Server) : Ready → Server
  | .shutdown => { s with returned := some (.ok ()) }
  | .accepted (.ok peerAddr) => { s with tasks := s.tasks ++ [⟨peerAddr, none⟩] }
  -- `accepted?`
  | .accepted (.error err) => { s with returned := some (.error ⟨err.text, []⟩) }

inductive ServerEvent
  | shutdownCompletes
  | turn (ready : Ready)
  | taskEnds (task : Nat) (outcome : TaskOutcome)

/-- **The steps of the loop and of the tasks around it.** The shutdown future is polled by the
loop alone, and the tasks go on whatever the loop does. -/
inductive ServerStep : Server → ServerEvent → Server → Prop
  | shutdownCompletes {s : Server} (hlooping : s.returned = none) :
      ServerStep s .shutdownCompletes { s with shutdown := true }
  | turn {s : Server} {ready : Ready} (hlooping : s.returned = none)
      (hready : ready = .shutdown → s.shutdown = true) :
      ServerStep s (.turn ready) (s.turn ready)
  | taskEnds {s : Server} {task : Nat} {peerAddr : SocketAddr} {outcome : TaskOutcome}
      (htask : s.tasks[task]? = some ⟨peerAddr, none⟩) :
      ServerStep s (.taskEnds task outcome)
        { s with
          tasks := s.tasks.set task ⟨peerAddr, some outcome⟩
          log := s.log ++ spawnSupervisedConnection peerAddr outcome }

abbrev ServerRun : List ServerEvent → Server → Prop := Run (· = Server.new) ServerStep

/-! ## Survival -/

/-- **The listener survives**: it has returned only after the shutdown, and until then it accepts
the next connection, whoever it comes from, and serves it. -/
structure Survives (s : Server) : Prop where
  returns : s.returned ≠ none → s.shutdown = true
  accepts : s.shutdown = false → ∀ peerAddr, ∃ s',
    ServerStep s (.turn (.accepted (.ok peerAddr))) s' ∧ s'.returned = none ∧
      s'.tasks = s.tasks ++ [⟨peerAddr, none⟩]

/-- An `accept` has failed before the shutdown. -/
def FailedEarly (h : List ServerEvent) : Prop :=
  ∃ h₁ h₂ err, h = h₁ ++ .turn (.accepted (.error err)) :: h₂ ∧ .shutdownCompletes ∉ h₂

variable {h : List ServerEvent}

theorem failedEarly_cons {e : ServerEvent} :
    FailedEarly (e :: h) ↔ FailedEarly h ∨
      ((∃ err, e = .turn (.accepted (.error err))) ∧ .shutdownCompletes ∉ h) := by
  constructor
  · rintro ⟨h₁, h₂, err, heq, hbefore⟩
    cases h₁ with
    | nil =>
        obtain ⟨rfl, rfl⟩ := List.cons.inj heq
        exact Or.inr ⟨⟨err, rfl⟩, hbefore⟩
    | cons e' h₁ =>
        obtain ⟨rfl, rfl⟩ := List.cons.inj heq
        exact Or.inl ⟨h₁, h₂, err, rfl, hbefore⟩
  · rintro (⟨h₁, h₂, err, rfl, hbefore⟩ | ⟨⟨err, rfl⟩, hbefore⟩)
    · exact ⟨e :: h₁, h₂, err, rfl, hbefore⟩
    · exact ⟨[], h, err, rfl, hbefore⟩

/-- What the state says about the history. -/
structure ServerInv (h : List ServerEvent) (s : Server) : Prop where
  shutdown : s.shutdown = true ↔ .shutdownCompletes ∈ h
  early : (s.returned ≠ none ∧ s.shutdown = false) ↔ FailedEarly h

theorem serverInv_new : ServerInv [] Server.new where
  shutdown := by simp [Server.new]
  early := by
    constructor
    · rintro ⟨hreturned, -⟩
      exact absurd rfl hreturned
    · rintro ⟨h₁, h₂, err, heq, -⟩
      simp at heq

theorem ServerInv.step {s s' : Server} {e : ServerEvent} (hi : ServerInv h s)
    (hs : ServerStep s e s') : ServerInv (e :: h) s' := by
  -- while the loop runs, nothing has failed early
  have hnone : s.returned = none → ¬ FailedEarly h := by
    intro hlooping hfailed
    exact (hi.early.mpr hfailed).1 hlooping
  cases hs with
  | shutdownCompletes hlooping =>
      refine ⟨by simp, ?_⟩
      rw [failedEarly_cons]
      constructor
      · rintro ⟨-, hopen⟩
        cases hopen
      · rintro (hfailed | ⟨⟨err, herr⟩, -⟩)
        · exact absurd hfailed (hnone hlooping)
        · cases herr
  | @turn ready hlooping hready =>
      have hsame : (s.turn ready).shutdown = s.shutdown := by
        rcases ready with _ | ⟨_ | _⟩ <;> rfl
      refine ⟨?_, ?_⟩
      · rw [hsame, hi.shutdown]
        simp
      · rw [failedEarly_cons, hsame, ← hi.shutdown]
        rcases ready with _ | ⟨err | peerAddr⟩
        · have hdone := hready rfl
          simp [hdone, hnone hlooping]
        · simp [Server.turn, hnone hlooping]
        · simp [Server.turn, hlooping, hnone hlooping]
  | taskEnds htask =>
      refine ⟨?_, ?_⟩
      · rw [hi.shutdown]
        simp
      · rw [failedEarly_cons, ← hi.early]
        simp

theorem serverInv_of_run {s : Server} (hr : ServerRun h s) : ServerInv h s := by
  refine Run.invariant (P := ServerInv) ?_ ?_ hr
  · rintro s rfl
    exact serverInv_new
  · intro h s e s' _ hi hs
    exact hi.step hs

/-- **The listener survives every connection, and no failing `accept`.** Over any order of accepted
connections, tasks that end in whatever way and the shutdown, the listener survives if and only if
`accept` has not failed before the shutdown. -/
theorem survives_iff {h : List ServerEvent} {s : Server} (hr : ServerRun h s) :
    Survives s ↔ ∀ h₁ h₂ err, h = h₁ ++ .turn (.accepted (.error err)) :: h₂ →
      .shutdownCompletes ∈ h₂ := by
  have hi := serverInv_of_run hr
  constructor
  · intro hsurvives h₁ h₂ err heq
    by_contra hbefore
    obtain ⟨hreturned, hopen⟩ := hi.early.mpr ⟨h₁, h₂, err, heq, hbefore⟩
    rw [hsurvives.returns hreturned] at hopen
    cases hopen
  · intro hlate
    have hnone : ¬ FailedEarly h := by
      rintro ⟨h₁, h₂, err, heq, hbefore⟩
      exact hbefore (hlate h₁ h₂ err heq)
    have hlooping : s.shutdown = false → s.returned = none := by
      intro hopen
      by_contra hreturned
      exact hnone (hi.early.mp ⟨hreturned, hopen⟩)
    refine ⟨?_, ?_⟩
    · intro hreturned
      by_contra hopen
      exact hreturned (hlooping (Bool.eq_false_iff.mpr hopen))
    · intro hopen peerAddr
      exact ⟨_, .turn (hlooping hopen) (fun h => nomatch h), hlooping hopen, rfl⟩

/-- Two connections whose tasks end in an error and in a panic leave the listener as it was. -/
theorem survives_panic :
    ∃ h s, ServerRun h s ∧ s.tasks.length = 2 ∧ s.log.length = 2 ∧ Survives s := by
  have hnew : ServerRun [] Server.new := .nil rfl
  have hfirst : ServerRun _ (Server.new.turn (.accepted (.ok ⟨.v4 ⟨10, 0, 0, 1⟩, 40000⟩))) :=
    hnew.cons (.turn rfl (fun h => nomatch h))
  have hsecond : ServerRun _ ((Server.new.turn (.accepted (.ok ⟨.v4 ⟨10, 0, 0, 1⟩, 40000⟩))).turn
      (.accepted (.ok ⟨.v4 ⟨10, 0, 0, 2⟩, 40001⟩))) :=
    hfirst.cons (.turn rfl (fun h => nomatch h))
  have herr : ServerRun (.taskEnds 0 (.err ⟨"Disconnected", []⟩) :: _) _ :=
    hsecond.cons (.taskEnds rfl)
  have hrun : ServerRun (.taskEnds 1 (.panic .other) :: _) _ := herr.cons (.taskEnds rfl)
  refine ⟨_, _, hrun, rfl, rfl, (survives_iff hrun).mpr ?_⟩
  intro h₁ h₂ err heq
  have hmem : ServerEvent.turn (.accepted (.error err)) ∈
      h₁ ++ .turn (.accepted (.error err)) :: h₂ := by simp
  rw [← heq] at hmem
  simp at hmem

/-- `ECONNABORTED`: the client is gone before its connection is accepted. -/
def connectionAborted : IoError := ⟨.other, "Software caused connection abort (os error 103)"⟩

/-- One connection that its client gives up before it is accepted ends the listener. -/
theorem aborted_connection_ends_listener :
    ∃ h s, ServerRun h s ∧ s.shutdown = false ∧
      s.returned = some (.error ⟨"Software caused connection abort (os error 103)", []⟩) ∧
      ¬ Survives s := by
  have hnew : ServerRun [] Server.new := .nil rfl
  have hfailed : ServerRun _ (Server.new.turn (.accepted (.error connectionAborted))) :=
    hnew.cons (.turn rfl (fun h => nomatch h))
  refine ⟨_, _, hfailed, rfl, rfl, ?_⟩
  intro hsurvives
  cases hsurvives.returns (fun h => nomatch h)

end Narrowd.Sshd
