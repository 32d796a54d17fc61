import Narrowd.Sshd.Listener
import Narrowd.Basic.Time

set_option autoImplicit false

/-! # The Windows service

`run_service` (`windows_service_runtime.rs`) runs the daemon under the Service Control Manager. Two
threads share its state: the service's own thread, which reports its progress to the manager and
serves until it is told to stop, and the manager's thread, which calls the control handler. A stop
request is passed on through a `oneshot` channel whose sender the handler takes.

The model is the interleaving of the two, one step per call, with the accept loop of
`Narrowd.Sshd.Listener` for the server. Every call may fail.

A stop request is never lost, whenever it comes: once the handler has returned, the server ends with
success as soon as it looks, and it never does without one (`stop_is_never_lost`).
-/

namespace Narrowd.Windows

open Lib Sshd

/-! ## Statuses -/

inductive ServiceState
  | startPending
  | running
  | stopPending
  | stopped
  deriving DecidableEq, Repr

/-- `ServiceControlAccept`, as far as the service uses it. -/
structure ServiceControlAccept where
  stop : Bool
  shutdown : Bool
  deriving DecidableEq, Repr

def ServiceControlAccept.empty : ServiceControlAccept := ⟨false, false⟩

inductive ServiceExitCode
  | win32 (code : UInt32)
  | serviceSpecific (code : UInt32)
  deriving DecidableEq, Repr

def ServiceExitCode.noError : ServiceExitCode := .win32 0

/-- A `ServiceStatus`; its service type is always `OWN_PROCESS`, and it has no process id. -/
structure ServiceStatus where
  currentState : ServiceState
  controlsAccepted : ServiceControlAccept
  exitCode : ServiceExitCode
  checkpoint : UInt32
  waitHint : Duration
  deriving DecidableEq, Repr

def startPending : ServiceStatus := ⟨.startPending, .empty, .noError, 1, Duration.fromSecs 30⟩

def running : ServiceStatus := ⟨.running, ⟨true, true⟩, .noError, 0, Duration.fromSecs 0⟩

def stopPending : ServiceStatus := ⟨.stopPending, .empty, .noError, 1, Duration.fromSecs 15⟩

def stopped (exitCode : ServiceExitCode) : ServiceStatus :=
  ⟨.stopped, .empty, exitCode, 0, Duration.fromSecs 0⟩

/-- `update` is what the manager answers. -/
def setServiceStatus (handle : Bool) (update : Except AnyError Unit) : Except AnyError Unit :=
  if handle then update.mapError fun err =>
    err.context "failed to update the Windows service status"
  else .error ⟨"missing Windows service status handle", []⟩

/-! ## The two threads -/

def startupFailureExitCode : UInt32 := 1

def runtimeFailureExitCode : UInt32 := 2

/-- Why the service stops. -/
inductive Exit
  | startupFailure (err : AnyError)
  | success
  | runtimeFailure (err : AnyError)

def Exit.code : Exit → ServiceExitCode
  | startupFailure _ => .serviceSpecific startupFailureExitCode
  | success => .noError
  | runtimeFailure _ => .serviceSpecific runtimeFailureExitCode

/-- What `run_service` returns when its last report gives `reported`. Only after success does that
matter. -/
def Exit.result (reported : Except AnyError Unit) : Exit → Except AnyError Unit
  | startupFailure err => .error err
  | success => reported
  | runtimeFailure err => .error err

/-- Where `run_service` is. -/
inductive Main
  | registering
  | storingHandle
  | reportingStart
  | loadingConfig
  | initLogging
  | reportingRunning
  | buildingRuntime
  /-- `run_until_shutdown` before its loop: `AppState::bootstrap`, the listener and the sandbox. -/
  | bootstrapping
  | serving (server : Server)
  | reportingStopped (exit : Exit)
  | ended (result : Except AnyError Unit)

/-- The status that the thread is about to report. -/
def Main.reporting? : Main → Option ServiceStatus
  | reportingStart => some startPending
  | reportingRunning => some running
  | reportingStopped exit => some (stopped exit.code)
  | _ => none

/-- The first two reports are followed by a `?`. -/
def Main.reported (reported : Except AnyError Unit) : Main → Main
  | reportingStopped exit => ended (exit.result reported)
  | reportingStart =>
      match reported with
      | .ok () => loadingConfig
      | .error err => ended (.error err)
  | reportingRunning =>
      match reported with
      | .ok () => buildingRuntime
      | .error err => ended (.error err)
  | main => main

inductive ServiceControl
  | stop
  | shutdown
  | interrogate
  | other (code : UInt32)
  deriving DecidableEq, Repr

def ServiceControl.stops : ServiceControl → Bool
  | stop => true
  | shutdown => true
  | _ => false

inductive ServiceControlHandlerResult
  | noError
  | notImplemented
  deriving DecidableEq, Repr

/-- Where the control handler is. -/
inductive Handler
  | idle
  | reporting
  | sending
  | returning (result : ServiceControlHandlerResult)
  deriving DecidableEq, Repr

/-- The first thing that the handler does. -/
def ServiceControl.handle : ServiceControl → Handler
  | stop => .reporting
  | shutdown => .reporting
  | interrogate => .returning .noError
  | other _ => .returning .notImplemented

/-! ## The service -/

structure Service where
  main : Main
  handler : Handler
  /-- The handler has been registered. -/
  registered : Bool
  /-- `status_handle` is set. -/
  statusHandle : Bool
  /-- The sender is still in `shutdown_tx`. -/
  shutdownTx : Bool
  /-- The message is in the channel. -/
  signalled : Bool
  /-- The statuses that the manager has taken, newest first. -/
  shown : List ServiceStatus
  /-- What went to `append_bootstrap_error`, newest first. -/
  bootstrapErrors : List String

def Service.new : Service where
  main := .registering
  handler := .idle
  registered := false
  statusHandle := false
  shutdownTx := true
  signalled := false
  shown := []
  bootstrapErrors := []

/-- The manager takes a status when the report succeeds. -/
def shownAfter (shown : List ServiceStatus) (status : ServiceStatus) :
    Except AnyError Unit → List ServiceStatus
  | .ok () => status :: shown
  | .error _ => shown

/-- The calls, with their results. -/
inductive ServiceEvent
  | register (result : Except AnyError Unit)
  | storeHandle
  | report (result : Except AnyError Unit)
  | loadConfig (result : Except AnyError Unit)
  | initLogging (result : Except AnyError Unit)
  | buildRuntime (result : Except AnyError Unit)
  | bootstrap (result : Except AnyError Unit)
  | server (event : ServerEvent)
  | serverReturns
  | control (control : ServiceControl)
  | handlerReports (result : Except AnyError Unit)
  | handlerSends
  | handlerReturns (result : ServiceControlHandlerResult)

/-- `{err:#}` in one of the messages. -/
def bootstrapError (what name : String) (err : AnyError) : String :=
  what ++ name ++ ": " ++ String.ofList err.alternate

def registerMessage : String := "failed to register service control handler for "

def loadMessage : String := "failed to load config for "

def initLoggingMessage : String := "failed to initialize logging for service "

/-- `service_main` starts `run_service` for the service `name`. -/
inductive ServiceStep (name : String) : Service → ServiceEvent → Service → Prop
  | registerOk {s : Service} (hmain : s.main = .registering) :
      ServiceStep name s (.register (.ok ())) { s with main := .storingHandle, registered := true }
  | registerErr {s : Service} {err : AnyError} (hmain : s.main = .registering) :
      ServiceStep name s (.register (.error err))
        { s with
          main := .ended (.error
            (err.context "failed to register the Windows service control handler"))
          bootstrapErrors := bootstrapError registerMessage name err :: s.bootstrapErrors }
  | storeHandle {s : Service} (hmain : s.main = .storingHandle) :
      ServiceStep name s .storeHandle { s with main := .reportingStart, statusHandle := true }
  | report {s : Service} {status : ServiceStatus} (hmain : s.main.reporting? = some status)
      (update : Except AnyError Unit) :
      ServiceStep name s (.report (setServiceStatus s.statusHandle update))
        { s with
          main := s.main.reported (setServiceStatus s.statusHandle update)
          shown := shownAfter s.shown status (setServiceStatus s.statusHandle update) }
  | loadConfigOk {s : Service} (hmain : s.main = .loadingConfig) :
      ServiceStep name s (.loadConfig (.ok ())) { s with main := .initLogging }
  | loadConfigErr {s : Service} {err : AnyError} (hmain : s.main = .loadingConfig) :
      ServiceStep name s (.loadConfig (.error err))
        { s with
          main := .reportingStopped (.startupFailure err)
          bootstrapErrors := bootstrapError loadMessage name err :: s.bootstrapErrors }
  | initLoggingOk {s : Service} (hmain : s.main = .initLogging) :
      ServiceStep name s (.initLogging (.ok ())) { s with main := .reportingRunning }
  | initLoggingErr {s : Service} {err : AnyError} (hmain : s.main = .initLogging) :
      ServiceStep name s (.initLogging (.error err))
        { s with
          main := .reportingStopped (.startupFailure err)
          bootstrapErrors := bootstrapError initLoggingMessage name err :: s.bootstrapErrors }
  | buildRuntimeOk {s : Service} (hmain : s.main = .buildingRuntime) :
      ServiceStep name s (.buildRuntime (.ok ())) { s with main := .bootstrapping }
  | buildRuntimeErr {s : Service} {err : AnyError} (hmain : s.main = .buildingRuntime) :
      ServiceStep name s (.buildRuntime (.error err))
        { s with
          main := .ended (.error
            (err.context "failed to create Tokio runtime for the Windows service")) }
  | bootstrapOk {s : Service} (hmain : s.main = .bootstrapping) :
      ServiceStep name s (.bootstrap (.ok ())) { s with main := .serving .new }
  | bootstrapErr {s : Service} {err : AnyError} (hmain : s.main = .bootstrapping) :
      ServiceStep name s (.bootstrap (.error err))
        { s with main := .reportingStopped (.runtimeFailure err) }
  -- the shutdown future waits for the message; the sender is not dropped before it is used
  | server {s : Service} {server server' : Server} {e : ServerEvent}
      (hmain : s.main = .serving server) (hs : ServerStep server e server')
      (hshutdown : e = .shutdownCompletes → s.signalled = true) :
      ServiceStep name s (.server e) { s with main := .serving server' }
  | serverReturnsOk {s : Service} {server : Server} (hmain : s.main = .serving server)
      (hreturned : server.returned = some (.ok ())) :
      ServiceStep name s .serverReturns { s with main := .reportingStopped .success }
  | serverReturnsErr {s : Service} {server : Server} {err : AnyError}
      (hmain : s.main = .serving server)
      (hreturned : server.returned = some (.error err)) :
      ServiceStep name s .serverReturns { s with main := .reportingStopped (.runtimeFailure err) }
  | control {s : Service} (c : ServiceControl) (hregistered : s.registered = true)
      (hidle : s.handler = .idle) :
      ServiceStep name s (.control c) { s with handler := c.handle }
  | handlerReports {s : Service} (hhandler : s.handler = .reporting)
      (update : Except AnyError Unit) :
      ServiceStep name s (.handlerReports (setServiceStatus s.statusHandle update))
        { s with
          handler := .sending
          shown := shownAfter s.shown stopPending (setServiceStatus s.statusHandle update) }
  | handlerSends {s : Service} (hhandler : s.handler = .sending) :
      ServiceStep name s .handlerSends
        { s with
          handler := .returning .noError
          shutdownTx := false
          signalled := s.signalled || s.shutdownTx }
  | handlerReturns {s : Service} {result : ServiceControlHandlerResult}
      (hhandler : s.handler = .returning result) :
      ServiceStep name s (.handlerReturns result) { s with handler := .idle }

abbrev ServiceRun (name : String) : List ServiceEvent → Service → Prop :=
  Run (· = Service.new) (ServiceStep name)

/-! ## The handler's side of a step -/

section

variable {name : String} {s s' : Service} {e : ServiceEvent} {h : List ServiceEvent}

/-- What a step does to the handler and to the channel. -/
inductive HandlerMove : Service → ServiceEvent → Service → Prop
  | unmoved {s s' : Service} {e : ServiceEvent} (he : ∀ c, e ≠ .control c)
      (hhandler : s'.handler = s.handler) (htx : s'.shutdownTx = s.shutdownTx)
      (hsignalled : s'.signalled = s.signalled) : HandlerMove s e s'
  | called {s s' : Service} {c : ServiceControl} (hidle : s.handler = .idle)
      (hhandler : s'.handler = c.handle) (htx : s'.shutdownTx = s.shutdownTx)
      (hsignalled : s'.signalled = s.signalled) : HandlerMove s (.control c) s'
  | reports {s s' : Service} {r : Except AnyError Unit} (hreporting : s.handler = .reporting)
      (hhandler : s'.handler = .sending) (htx : s'.shutdownTx = s.shutdownTx)
      (hsignalled : s'.signalled = s.signalled) : HandlerMove s (.handlerReports r) s'
  | sends {s s' : Service} (hsending : s.handler = .sending)
      (hhandler : s'.handler = .returning .noError) (htx : s'.shutdownTx = false)
      (hsignalled : s'.signalled = (s.signalled || s.shutdownTx)) : HandlerMove s .handlerSends s'
  | returns {s s' : Service} {r : ServiceControlHandlerResult}
      (hreturning : s.handler = .returning r)
      (hhandler : s'.handler = .idle) (htx : s'.shutdownTx = s.shutdownTx)
      (hsignalled : s'.signalled = s.signalled) : HandlerMove s (.handlerReturns r) s'

theorem ServiceStep.handlerMove (hs : ServiceStep name s e s') : HandlerMove s e s' := by
  cases hs with
  | control c _ hidle => exact .called hidle rfl rfl rfl
  | handlerReports hreporting => exact .reports hreporting rfl rfl rfl
  | handlerSends hsending => exact .sends hsending rfl rfl rfl
  | handlerReturns hreturning => exact .returns hreturning rfl rfl rfl
  | _ => exact .unmoved (fun _ heq => by cases heq) rfl rfl rfl

/-- The message stays in the channel. -/
theorem ServiceStep.signalled (hs : ServiceStep name s e s') (hsignalled : s.signalled = true) :
    s'.signalled = true := by
  cases hs.handlerMove with
  | unmoved _ _ _ heq => exact heq.trans hsignalled
  | called _ _ _ heq => exact heq.trans hsignalled
  | reports _ _ _ heq => exact heq.trans hsignalled
  | sends _ _ _ heq => rw [heq, hsignalled, Bool.true_or]
  | returns _ _ _ heq => exact heq.trans hsignalled

/-! ## Stop requests -/

/-- Someone has asked the service to stop. -/
def StopAsked (h : List ServiceEvent) : Prop :=
  ∃ c : ServiceControl, c.stops = true ∧ .control c ∈ h

theorem StopAsked.cons (hasked : StopAsked h) : StopAsked (e :: h) := by
  obtain ⟨c, hstops, hmem⟩ := hasked
  exact ⟨c, hstops, List.mem_cons_of_mem _ hmem⟩

theorem stopAsked_cons (he : ∀ c, e ≠ .control c) : StopAsked (e :: h) ↔ StopAsked h := by
  constructor
  · rintro ⟨c, hstops, hmem⟩
    rcases List.mem_cons.mp hmem with heq | hmem
    · exact absurd heq.symm (he c)
    · exact ⟨c, hstops, hmem⟩
  · exact StopAsked.cons

/-- The handler is on the way to the channel. -/
def Handler.Underway (handler : Handler) : Prop := handler = .reporting ∨ handler = .sending

theorem ServiceControl.handle_underway {c : ServiceControl} :
    c.handle.Underway ↔ c.stops = true := by
  cases c <;> simp [ServiceControl.handle, Handler.Underway, ServiceControl.stops]

/-- A stop request is in the channel or underway to it, and nothing else is. -/
structure Relayed (h : List ServiceEvent) (s : Service) : Prop where
  sender : s.signalled = !s.shutdownTx
  asked : StopAsked h ↔ s.signalled = true ∨ s.handler.Underway

theorem Relayed.new : Relayed [] Service.new where
  sender := rfl
  asked := by simp [StopAsked, Service.new, Handler.Underway]

theorem Relayed.step (hi : Relayed h s) (hs : ServiceStep name s e s') : Relayed (e :: h) s' := by
  cases hs.handlerMove with
  | unmoved he hhandler htx hsignalled =>
      refine ⟨by rw [hsignalled, htx]; exact hi.sender, ?_⟩
      rw [stopAsked_cons he, hhandler, hsignalled]
      exact hi.asked
  | @called _ c hidle hhandler htx hsignalled =>
      refine ⟨by rw [hsignalled, htx]; exact hi.sender, ?_⟩
      -- the manager calls the handler again only when it has returned
      have hasked := hi.asked
      rw [hhandler, hsignalled, ServiceControl.handle_underway]
      constructor
      · rintro ⟨c', hstops, hmem⟩
        rcases List.mem_cons.mp hmem with heq | hmem
        · cases heq
          exact .inr hstops
        · exact .inl ((hasked.mp ⟨c', hstops, hmem⟩).resolve_right
            (by simp [Handler.Underway, hidle]))
      · rintro (hin | hstops)
        · exact (hasked.mpr (.inl hin)).cons
        · exact ⟨c, hstops, List.mem_cons_self⟩
  | reports hreporting hhandler htx hsignalled =>
      refine ⟨by rw [hsignalled, htx]; exact hi.sender, ?_⟩
      rw [stopAsked_cons (fun _ heq => by cases heq), hi.asked, hhandler, hsignalled, hreporting]
      simp [Handler.Underway]
  | sends hsending hhandler htx hsignalled =>
      -- a second request finds the sender gone, and the message in the channel
      have hin : s'.signalled = true := by rw [hsignalled, hi.sender]; cases s.shutdownTx <;> rfl
      refine ⟨by rw [hin, htx]; rfl, ?_⟩
      rw [stopAsked_cons (fun _ heq => by cases heq), hi.asked]
      simp [hin, hsending, Handler.Underway]
  | returns hreturning hhandler htx hsignalled =>
      refine ⟨by rw [hsignalled, htx]; exact hi.sender, ?_⟩
      rw [stopAsked_cons (fun _ heq => by cases heq), hi.asked, hhandler, hsignalled, hreturning]
      simp [Handler.Underway]

theorem relayed_of_run (hr : ServiceRun name h s) : Relayed h s := by
  refine hr.invariant (P := Relayed) ?_ fun h s e s' _ hi hs => hi.step hs
  rintro s rfl
  exact .new

/-- The server stops with success only after the message. -/
structure Served (s : Service) : Prop where
  shutdown : ∀ server, s.main = .serving server → server.shutdown = true → s.signalled = true
  returned : ∀ server, s.main = .serving server → server.returned = some (.ok ()) →
    s.signalled = true
  success : s.main = .reportingStopped .success ∨ s.main = .ended (.ok ()) → s.signalled = true

theorem Served.of_main {main : Main} (hmain : s'.main = main)
    (hserving : ∀ server, main ≠ .serving server)
    (hsuccess : main = .reportingStopped .success ∨ main = .ended (.ok ()) → s'.signalled = true) :
    Served s' where
  shutdown := fun server heq => absurd (hmain.symm.trans heq) (hserving server)
  returned := fun server heq => absurd (hmain.symm.trans heq) (hserving server)
  success := by rw [hmain]; exact hsuccess

/-- What the accept loop knows of the shutdown, it knows from the channel. -/
theorem ServerStep.shutdown_cases {server server' : Server} {e : ServerEvent}
    (hs : ServerStep server e server') :
    (server'.shutdown = true → server.shutdown = true ∨ e = .shutdownCompletes) ∧
    (server'.returned = some (.ok ()) →
      server.returned = some (.ok ()) ∨ server.shutdown = true) := by
  cases hs with
  | shutdownCompletes => exact ⟨fun _ => .inr rfl, fun hret => .inl hret⟩
  | @turn ready hlooping hready =>
      rcases ready with _ | ⟨err | peerAddr⟩
      · exact ⟨fun hshut => .inl hshut, fun _ => .inr (hready rfl)⟩
      · exact ⟨fun hshut => .inl hshut, fun hret => by cases hret⟩
      · exact ⟨fun hshut => .inl hshut, fun hret => .inl hret⟩
  | taskEnds => exact ⟨fun hshut => .inl hshut, fun hret => .inl hret⟩

/-- A report ends in success only after success. -/
theorem Main.reported_cases (main : Main) (r : Except AnyError Unit) {status : ServiceStatus}
    (hreporting : main.reporting? = some status) :
    (∀ server, main.reported r ≠ .serving server) ∧
      (main.reported r = .reportingStopped .success ∨ main.reported r = .ended (.ok ()) →
        main = .reportingStopped .success) := by
  rcases main with _ | _ | _ | _ | _ | _ | _ | _ | _ | ⟨_ | _ | _⟩ | _ <;>
    rcases r with err | ⟨⟨⟩⟩ <;>
    simp_all [Main.reported, Main.reporting?, Exit.result]

theorem Served.step (hi : Served s) (hs : ServiceStep name s e s') : Served s' := by
  have hkeep := fun hin => hs.signalled hin
  -- the handler's steps leave the thread where it is
  have hsame : s'.main = s.main → Served s' := fun heq =>
    { shutdown := fun server hmain hshut => hkeep (hi.shutdown server (heq ▸ hmain) hshut)
      returned := fun server hmain hret => hkeep (hi.returned server (heq ▸ hmain) hret)
      success := fun hmain => hkeep (hi.success (heq ▸ hmain)) }
  cases hs with
  | report hmain update =>
      obtain ⟨hserving, hsuccess⟩ :=
        s.main.reported_cases (setServiceStatus s.statusHandle update) hmain
      exact .of_main rfl hserving fun heq => hi.success (.inl (hsuccess heq))
  | @server server server' _ hmain hstep hshutdown =>
      obtain ⟨hshut, hret⟩ := ServerStep.shutdown_cases hstep
      have hserver : ∀ {x}, Main.serving server' = .serving x → x = server' := by
        rintro _ ⟨⟩
        rfl
      refine ⟨fun x hx hxshut => ?_, fun x hx hxret => ?_, fun heq => by simp at heq⟩
      · rw [hserver hx] at hxshut
        exact (hshut hxshut).elim (hi.shutdown server hmain) hshutdown
      · rw [hserver hx] at hxret
        exact (hret hxret).elim (hi.returned server hmain) (hi.shutdown server hmain)
  | serverReturnsOk hmain hreturned =>
      exact .of_main rfl (by simp) fun _ => hi.returned _ hmain hreturned
  | bootstrapOk =>
      refine ⟨fun x hx hxshut => ?_, fun x hx hxret => ?_, fun heq => by simp at heq⟩
      · cases hx
        cases hxshut
      · cases hx
        cases hxret
  | control => exact hsame rfl
  | handlerReports => exact hsame rfl
  | handlerSends => exact hsame rfl
  | handlerReturns => exact hsame rfl
  | _ => exact .of_main rfl (by simp) (by simp)

theorem served_of_run (hr : ServiceRun name h s) : Served s := by
  refine hr.invariant (P := fun _ => Served) ?_ fun _ s e s' _ hi hs => hi.step hs
  rintro s rfl
  exact .of_main (show Service.new.main = .registering from rfl) (by simp) (by simp)

/-- With the message in the channel, the accept loop can end at once. -/
theorem ends_with_success {server : Server} (hmain : s.main = .serving server)
    (hlooping : server.returned = none) (hsignalled : s.signalled = true) :
    ∃ s', Run (· = s) (ServiceStep name)
      [.serverReturns, .server (.turn .shutdown), .server .shutdownCompletes] s' ∧
      s'.main = .reportingStopped .success := by
  have hfirst : Run (· = s) (ServiceStep name) [.server .shutdownCompletes]
      { s with main := .serving { server with shutdown := true } } :=
    .cons (.nil rfl) (.server hmain (.shutdownCompletes hlooping) fun _ => hsignalled)
  have hturn : ServerStep { server with shutdown := true } (.turn .shutdown)
      { server with shutdown := true, returned := some (.ok ()) } := .turn hlooping fun _ => rfl
  have hsecond : Run (· = s) (ServiceStep name)
      [.server (.turn .shutdown), .server .shutdownCompletes]
      { s with main := .serving { server with shutdown := true, returned := some (.ok ()) } } :=
    .cons hfirst (.server rfl hturn fun heq => by cases heq)
  exact ⟨_, .cons hsecond (.serverReturnsOk rfl rfl), rfl⟩

/-- **A stop request is never lost.** In every interleaving of the service and its control handler:
if the service was asked to stop, at whatever moment, and the handler is not on the way any more,
then the server ends with success as soon as it looks; and it does not end with success unless it
was asked. -/
theorem stop_is_never_lost (hr : ServiceRun name h s) :
    (StopAsked h → ¬ s.handler.Underway → ∀ server, s.main = .serving server →
      server.returned = none → ∃ s', Run (· = s) (ServiceStep name)
        [.serverReturns, .server (.turn .shutdown), .server .shutdownCompletes] s' ∧
        s'.main = .reportingStopped .success) ∧
    (s.main = .reportingStopped .success ∨ s.main = .ended (.ok ()) → StopAsked h) := by
  have hrelayed := relayed_of_run hr
  refine ⟨fun hasked hreturned server hmain hlooping => ?_, fun hmain => ?_⟩
  · exact ends_with_success hmain hlooping ((hrelayed.asked.mp hasked).resolve_right hreturned)
  · exact hrelayed.asked.mpr (.inl ((served_of_run hr).success hmain))

end

/-- The service with a stop request that came before it had its status handle. -/
def earlyStop : Service where
  main := .serving .new
  handler := .idle
  registered := true
  statusHandle := true
  shutdownTx := false
  signalled := true
  shown := [running, startPending]
  bootstrapErrors := []

theorem run_earlyStop : ServiceRun "narrowd"
    [.bootstrap (.ok ()), .buildRuntime (.ok ()), .report (.ok ()), .initLogging (.ok ()),
      .loadConfig (.ok ()), .report (.ok ()), .storeHandle, .handlerReturns .noError, .handlerSends,
      .handlerReports (.error ⟨"missing Windows service status handle", []⟩), .control .stop,
      .register (.ok ())] earlyStop := by
  have hnew : ServiceRun "narrowd" [] Service.new := .nil rfl
  have hcalled := (hnew.cons (.registerOk rfl)).cons (.control .stop rfl rfl)
  have hreturned := ((hcalled.cons (.handlerReports rfl (.ok ()))).cons (.handlerSends rfl)).cons
    (.handlerReturns rfl)
  have hloading := (hreturned.cons (.storeHandle rfl)).cons (.report rfl (.ok ()))
  have hrunning := ((hloading.cons (.loadConfigOk rfl)).cons (.initLoggingOk rfl)).cons
    (.report rfl (.ok ()))
  exact (hrunning.cons (.buildRuntimeOk rfl)).cons (.bootstrapOk rfl)

/-- The server that was told to stop before it started ends with success. -/
theorem early_stop_is_not_lost :
    ∃ s', Run (· = earlyStop) (ServiceStep "narrowd")
      [.serverReturns, .server (.turn .shutdown), .server .shutdownCompletes] s' ∧
      s'.main = .reportingStopped .success :=
  (stop_is_never_lost run_earlyStop).1 ⟨.stop, rfl, by simp⟩ (by simp [earlyStop, Handler.Underway])
    .new rfl rfl

end Narrowd.Windows
