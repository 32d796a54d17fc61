import Narrowd.Basic.Net
import Narrowd.Sshd.Deadlines

set_option autoImplicit false

/-! # The end of a session

`serve_connection` waits for two things at once: the message that the client has authenticated, and
the end of the session. A session that ends before authentication is counted in the metrics, but
only where the `select!` takes its end. When the session ends its handler is dropped, and with it
the sender of that message; so the channel is ready as well, and the `select!` may take the channel
and wait for the session without counting. `counted_iff` says when a failure is counted as it
should be, and `dropped_handler_hides_failure` is a run in which it is not.
-/

namespace Narrowd.Sshd

open Lib Narrowd.Config

/-! ## What ended the session -/

/-- The errors of `russh`, as far as the daemon tells them apart. -/
inductive RusshError
  | version
  | packetAuth
  | packetSize (size : Nat)
  | decryptionError
  | strictKeyExchangeViolation
  | sshEncoding
  | inconsistent
  | kexInit
  | other (text : String)
  deriving DecidableEq

/-- One error of a chain, by its type. -/
inductive Cause
  | io (err : IoError)
  | russh (err : RusshError)
  | other (text : String)
  deriving DecidableEq

/-- An `anyhow` error whose causes are asked for their types. -/
structure SessionError where
  head : Cause
  causes : List Cause

def SessionError.chain (err : SessionError) : List Cause := err.head :: err.causes

/-- A timeout whose text contains `text`. -/
def Cause.isTimeoutWith (text : String) : Cause → Bool
  | .io err => err.kind == .timedOut && decide (text.toList <:+: err.text.toList)
  | _ => false

def isLoginGraceTimeout (err : SessionError) : Bool :=
  err.chain.any (Cause.isTimeoutWith "login grace time exceeded before authentication completed")

def isKexStartTimeout (err : SessionError) : Bool :=
  err.chain.any
    (Cause.isTimeoutWith "key exchange did not start before the configured timeout elapsed")

/-- The kind of a timeout, and its length in milliseconds. -/
def preauthTimeoutDetails (config : AppConfig) (err : SessionError) : Option (String × Nat) :=
  if isLoginGraceTimeout err then some ("login-grace-timeout", config.loginGraceTime / 1000000)
  else if isKexStartTimeout err then some ("kex-start-timeout", config.kexStartTimeout / 1000000)
  else none

def Cause.isMalformed : Cause → Bool
  | .russh (.other _) => false
  | .russh _ => true
  | _ => false

def isMalformedConnectionError (err : SessionError) : Bool := err.chain.any Cause.isMalformed

/-! ## What is recorded of it -/

/-- The calls of `ServerMetrics`. -/
inductive MetricsCall
  | recordRejectedConnection (reason : String)
  | recordPreauthTimeout
  | recordMalformedDisconnect
  deriving DecidableEq

/-- What `serve_connection` does to the metrics and the log. -/
inductive ServeEffect
  | metrics (call : MetricsCall)
  | warnPreauthTimeout (peer : SocketAddr) (kind : String) (elapsedMs : Nat)
  | infoAuthenticated (peer : SocketAddr)
  deriving DecidableEq

/-- The calls that a failure before authentication is to be counted with. -/
def failureCalls (config : AppConfig) (err : SessionError) : List MetricsCall :=
  match preauthTimeoutDetails config err with
  | some (kind, _) => [.recordRejectedConnection kind, .recordPreauthTimeout]
  | none =>
      if isMalformedConnectionError err then
        [.recordRejectedConnection "malformed-disconnect", .recordMalformedDisconnect]
      else []

/-- What follows the calls: a warning, for timeouts. -/
def recordFailure (config : AppConfig) (peer : SocketAddr) (err : SessionError) :
    List ServeEffect :=
  (failureCalls config err).map .metrics ++
    match preauthTimeoutDetails config err with
    | some (kind, elapsedMs) => [.warnPreauthTimeout peer kind elapsedMs]
    | none => []

/-! ## The `select!` -/

/-- How far `serve_connection` has come. -/
inductive ServeStage
  | selecting
  /-- The branch of the channel was taken; the session goes on. -/
  | awaiting
  | returned (result : Except SessionError Unit)

/-- A connection with a session: whether `auth_succeeded` has run, whether the session still holds
its handler, and what it has ended with. -/
structure Serving where
  authenticated : Bool
  handler : Bool
  session : Option (Except SessionError Unit)
  stage : ServeStage
  effects : List ServeEffect

def Serving.new : Serving := ⟨false, true, none, .selecting, []⟩

/-- The receiver is ready once the message is there or its sender is gone. -/
def Serving.authReady (s : Serving) : Bool := s.authenticated || !s.handler

inductive ServeEvent
  | authSucceeded
  | dropHandler
  | sessionEnds (result : Except SessionError Unit)
  | takeAuth
  | takeSession
  | resume

/-- What the branch of the session does with its result. -/
def recordResult (config : AppConfig) (peer : SocketAddr) :
    Except SessionError Unit → List ServeEffect
  | .ok () => []
  | .error err => recordFailure config peer err

/-- **The steps of a session and of the `select!` that watches it.** A session that ends drops its
handler first. Where both branches are ready the `select!` takes either. -/
inductive ServeStep (config : AppConfig) (peer : SocketAddr) :
    Serving → ServeEvent → Serving → Prop
  | authSucceeded {s : Serving} (hhandler : s.handler = true) :
      ServeStep config peer s .authSucceeded { s with authenticated := true }
  | dropHandler {s : Serving} (hhandler : s.handler = true) :
      ServeStep config peer s .dropHandler { s with handler := false }
  | sessionEnds {s : Serving} {result : Except SessionError Unit} (hhandler : s.handler = false)
      (hrunning : s.session = none) :
      ServeStep config peer s (.sessionEnds result) { s with session := some result }
  | takeAuth {s : Serving} (hstage : s.stage = .selecting) (hready : s.authReady = true) :
      ServeStep config peer s .takeAuth
        { s with
          stage := .awaiting
          effects := s.effects ++ if s.authenticated then [.infoAuthenticated peer] else [] }
  | takeSession {s : Serving} {result : Except SessionError Unit} (hstage : s.stage = .selecting)
      (hended : s.session = some result) :
      ServeStep config peer s .takeSession
        { s with
          stage := .returned result
          effects := s.effects ++ recordResult config peer result }
  /-- `running.await?` -/
  | resume {s : Serving} {result : Except SessionError Unit} (hstage : s.stage = .awaiting)
      (hended : s.session = some result) :
      ServeStep config peer s .resume { s with stage := .returned result }

abbrev ServeRun (config : AppConfig) (peer : SocketAddr) : List ServeEvent → Serving → Prop :=
  Run (· = Serving.new) (ServeStep config peer)

/-! ## When a failure is counted -/

def ServeEffect.metricsCall? : ServeEffect → Option MetricsCall
  | .metrics call => some call
  | _ => none

/-- The calls that were made. -/
def Serving.metricsCalls (s : Serving) : List MetricsCall :=
  s.effects.filterMap ServeEffect.metricsCall?

/-- The failure is one of those that the metrics count. -/
def Classified (config : AppConfig) (err : SessionError) : Prop :=
  (preauthTimeoutDetails config err).isSome ∨ isMalformedConnectionError err = true

/-- **Counted as it should be**: once, with its category, before authentication; not at all after
it. -/
def CountedOnce (config : AppConfig) (err : SessionError) (s : Serving) : Prop :=
  if s.authenticated then s.metricsCalls = [] else s.metricsCalls = failureCalls config err

variable {config : AppConfig}

theorem failureCalls_ne_nil {err : SessionError} (h : Classified config err) :
    failureCalls config err ≠ [] := by
  unfold failureCalls
  rcases hd : preauthTimeoutDetails config err with _ | ⟨kind, elapsedMs⟩
  · rw [Classified, hd] at h
    have hmalformed := h.resolve_left Bool.false_ne_true
    simp [hmalformed]
  · simp

/-- What the branch of the session adds to the calls. -/
theorem metricsCall?_recordFailure (config : AppConfig) (peer : SocketAddr) (err : SessionError) :
    (recordFailure config peer err).filterMap ServeEffect.metricsCall? =
      failureCalls config err := by
  have hcalls : ((failureCalls config err).map ServeEffect.metrics).filterMap
      ServeEffect.metricsCall? = failureCalls config err := by
    rw [List.filterMap_map]
    exact List.filterMap_some
  unfold recordFailure
  rw [List.filterMap_append, hcalls]
  split <;> simp [ServeEffect.metricsCall?]

/-- What each stage says about the history and the calls. -/
structure ServeInv (config : AppConfig) (h : List ServeEvent) (s : Serving) : Prop where
  selecting : s.stage = .selecting → .takeAuth ∉ h ∧ s.metricsCalls = []
  awaiting : s.stage = .awaiting → .takeAuth ∈ h ∧ s.metricsCalls = []
  returned : ∀ err, s.stage = .returned (.error err) →
    (.takeAuth ∈ h ∧ s.metricsCalls = []) ∨
      (.takeAuth ∉ h ∧ s.metricsCalls = failureCalls config err)

theorem serveInv_new (config : AppConfig) : ServeInv config [] Serving.new where
  selecting _ := ⟨by simp, rfl⟩
  awaiting h := nomatch h
  returned _ h := nomatch h

variable {h : List ServeEvent}

/-- A step outside the `select!`. -/
theorem ServeInv.keep {s s' : Serving} {e : ServeEvent} (hi : ServeInv config h s)
    (he : e ≠ .takeAuth) (hstage : s'.stage = s.stage) (heffects : s'.effects = s.effects) :
    ServeInv config (e :: h) s' := by
  have hmem : ServeEvent.takeAuth ∈ e :: h ↔ .takeAuth ∈ h := by
    simp [Ne.symm he]
  have hcalls : s'.metricsCalls = s.metricsCalls := by
    rw [Serving.metricsCalls, heffects, Serving.metricsCalls]
  refine ⟨?_, ?_, ?_⟩
  · rw [hstage, hmem, hcalls]
    exact hi.selecting
  · rw [hstage, hmem, hcalls]
    exact hi.awaiting
  · rw [hstage, hmem, hcalls]
    exact hi.returned

theorem ServeInv.step {peer : SocketAddr} {s s' : Serving} {e : ServeEvent}
    (hi : ServeInv config h s) (hs : ServeStep config peer s e s') :
    ServeInv config (e :: h) s' := by
  cases hs with
  | authSucceeded => exact hi.keep (fun h => nomatch h) rfl rfl
  | dropHandler => exact hi.keep (fun h => nomatch h) rfl rfl
  | sessionEnds => exact hi.keep (fun h => nomatch h) rfl rfl
  | takeAuth hstage =>
      obtain ⟨-, hcalls⟩ := hi.selecting hstage
      refine ⟨(fun h => nomatch h), fun _ => ⟨List.mem_cons_self, ?_⟩, (fun _ h => nomatch h)⟩
      show (s.effects ++ _).filterMap ServeEffect.metricsCall? = []
      rw [List.filterMap_append, show s.effects.filterMap _ = [] from hcalls]
      split <;> rfl
  | @takeSession result hstage hended =>
      obtain ⟨hnever, hcalls⟩ := hi.selecting hstage
      refine ⟨(fun h => nomatch h), (fun h => nomatch h), ?_⟩
      intro err hreturned
      cases hreturned
      refine Or.inr ⟨by simpa using hnever, ?_⟩
      show (s.effects ++ _).filterMap ServeEffect.metricsCall? = _
      rw [List.filterMap_append, show s.effects.filterMap _ = [] from hcalls]
      exact metricsCall?_recordFailure config peer err
  | resume hstage =>
      obtain ⟨htaken, hcalls⟩ := hi.awaiting hstage
      exact ⟨(fun h => nomatch h), (fun h => nomatch h),
        fun _ _ => Or.inl ⟨List.mem_cons_of_mem _ htaken, hcalls⟩⟩

theorem serveInv_of_run {peer : SocketAddr} {s : Serving} (hr : ServeRun config peer h s) :
    ServeInv config h s := by
  refine Run.invariant (P := ServeInv config) ?_ ?_ hr
  · rintro s rfl
    exact serveInv_new config
  · intro h s e s' _ hi hs
    exact hi.step hs

/-- **A failure is counted as it should be if and only if the `select!` takes the channel after an
authentication and the session's end without one.** -/
theorem counted_iff {config : AppConfig} {peer : SocketAddr} {h : List ServeEvent} {s : Serving}
    (hr : ServeRun config peer h s) {err : SessionError}
    (hend : s.stage = .returned (.error err)) (hclass : Classified config err) :
    CountedOnce config err s ↔ (s.authenticated = true ↔ .takeAuth ∈ h) := by
  have hne := failureCalls_ne_nil hclass
  unfold CountedOnce
  rcases (serveInv_of_run hr).returned err hend with ⟨htaken, hcalls⟩ | ⟨hnever, hcalls⟩
  · rw [hcalls]
    by_cases hauth : s.authenticated = true
    · simp [hauth, htaken]
    · simp [hauth, htaken, hne.symm]
  · rw [hcalls]
    by_cases hauth : s.authenticated = true
    · simp [hauth, hnever, hne]
    · simp [hauth, hnever]

/-- A packet whose length field says more than `russh` takes. -/
def oversizedPacket : SessionError := ⟨.russh (.packetSize 300000), []⟩

theorem classified_oversizedPacket (config : AppConfig) : Classified config oversizedPacket :=
  Or.inr rfl

/-- The session ends with it, and both branches of the `select!` are ready. -/
theorem run_oversizedPacket (config : AppConfig) (peer : SocketAddr) :
    ServeRun config peer [.sessionEnds (.error oversizedPacket), .dropHandler]
      { Serving.new with handler := false, session := some (.error oversizedPacket) } := by
  have hnew : ServeRun config peer [] Serving.new := .nil rfl
  have hdropped := hnew.cons (.dropHandler rfl)
  exact hdropped.cons (.sessionEnds rfl rfl)

/-- With the default configuration: a client that sends such a packet before it logs in, and whose
session's end the `select!` takes. -/
theorem malformed_counted_once :
    ∃ config, AppConfig.defaults .linux ⟨some "/home/user".toList, none⟩ = .ok config ∧
      ∃ peer h s, ServeRun config peer h s ∧ s.stage = .returned (.error oversizedPacket) ∧
        s.authenticated = false ∧ CountedOnce config oversizedPacket s := by
  refine ⟨_, rfl, ⟨.v4 ⟨192, 0, 2, 1⟩, 40000⟩, ?_⟩
  generalize AppConfig.mk .. = config
  have hended := run_oversizedPacket config ⟨.v4 ⟨192, 0, 2, 1⟩, 40000⟩
  have hrun := hended.cons (.takeSession rfl rfl)
  refine ⟨_, _, hrun, rfl, rfl, (counted_iff hrun rfl (classified_oversizedPacket _)).mpr ?_⟩
  simp [Serving.new]

/-- **A failure that is not counted.** The same client; but the `select!` finds the channel closed
and waits for the session, whose error then passes by. -/
theorem dropped_handler_hides_failure :
    ∃ config, AppConfig.defaults .linux ⟨some "/home/user".toList, none⟩ = .ok config ∧
      ∃ peer h s, ServeRun config peer h s ∧ s.stage = .returned (.error oversizedPacket) ∧
        Classified config oversizedPacket ∧ s.authenticated = false ∧ s.metricsCalls = [] ∧
        ¬ CountedOnce config oversizedPacket s := by
  refine ⟨_, rfl, ⟨.v4 ⟨192, 0, 2, 1⟩, 40000⟩, ?_⟩
  generalize AppConfig.mk .. = config
  have hclass := classified_oversizedPacket config
  have hended := run_oversizedPacket config ⟨.v4 ⟨192, 0, 2, 1⟩, 40000⟩
  have htaken := hended.cons (.takeAuth rfl rfl)
  have hrun := htaken.cons (.resume rfl rfl)
  refine ⟨_, _, hrun, rfl, hclass, rfl, rfl, ?_⟩
  intro hcounted
  have hcalls : [] = failureCalls config oversizedPacket := hcounted
  exact failureCalls_ne_nil hclass hcalls.symm

end Narrowd.Sshd
