import Narrowd.Config.AppConfig
import Narrowd.Executor.Dispatch

set_option autoImplicit false

/-! # The remote forwards of the sessions

A session keeps the forwards it has been granted in a table of its own, by the address and the port
that the client knows them under. `tcpip_forward` asks the executor for a forward and enters it
with the port that was bound, `cancel_tcpip_forward` takes it out and asks the executor to cancel
it, and when the session ends the drop of its handler spawns a task for each forward left that does
the same.

`Server` is the executor's system with the sessions over it. The code of a callback between two
waits runs as one step, so that a callback's first step is that of the call it makes, and its last
one that in which the call returns.
-/

namespace Narrowd.Sshd.Forwarding

open Lib Executor Narrowd.Config

/-! ## The callbacks -/

structure ForwardKey where
  address : Text
  port : UInt32
  deriving DecidableEq

structure RemoteForwardHandle where
  token : UInt64
  deriving DecidableEq

abbrev SessionForwards := Table ForwardKey RemoteForwardHandle

def bindHost (config : AppConfig) (address : Text) : Text :=
  if config.gatewayPorts then
    if address.isEmpty then "0.0.0.0".toList else address
  else "127.0.0.1".toList

def connectedAddress (config : AppConfig) (address : Text) : Text :=
  if address.isEmpty then bindHost config address else address

/-- `u16::try_from`. -/
def tryU16 (n : UInt32) : Option UInt16 := if n.toNat < 2 ^ 16 then some n.toUInt16 else none

abbrev SessionId := Nat

/-- What `tcpip_forward` does before it waits: it refuses (`none`), ends the session with an error,
or calls the executor. A port that is not known yet is looked up as `0`. -/
def tcpipForward (config : AppConfig) (n : SessionId) (forwards : SessionForwards) (address : Text)
    (port : UInt32) : Except AnyError (Option Operation) :=
  if !config.allowRemoteForwarding then .ok none
  else
    match tryU16 port with
    | none => .error ⟨"invalid tcpip-forward port",
        ["out of range integral type conversion attempted"]⟩
    | some requestedPort =>
        if (forwards.lookup ⟨address, requestedPort.toUInt32⟩).isSome then .ok none
        else .ok (some (.startRemoteForward n (connectedAddress config address)
          (bindHost config address) requestedPort))

/-- What it does with the executor's answer: the forward is entered under the port that was bound.
The result is that port, or a refusal. -/
def forwardReturned (address : Text) (forwards : SessionForwards) :
    Except CallError Reply → SessionForwards × Option UInt32
  | .ok (.started token boundPort) => (forwards.insert ⟨address, boundPort⟩ ⟨token⟩, some boundPort)
  | _ => (forwards, none)

/-! ## The sessions and the executor -/

/-- What the handler of a session is at. -/
inductive Activity
  | idle
  | forwarding (c : CallId) (address : Text)
  | cancelling (c : CallId)
  /-- The handler has been dropped. -/
  | ended
  deriving DecidableEq

/-- The call that the handler waits for. -/
def Activity.call? : Activity → Option CallId
  | .forwarding c _ => some c
  | .cancelling c => some c
  | _ => none

structure Session where
  remoteForwards : SessionForwards
  activity : Activity

structure Server where
  system : System
  sessions : SessionId → Session
  /-- The tokens for which the drop of a handler has spawned a task that has not begun. -/
  tasks : List UInt64

/-- The server after the start of its executor. -/
def Server.new (hello : ExecutorHello) : Server where
  system := .new hello
  sessions _ := ⟨∅, .idle⟩
  tasks := []

def Server.setSession (v : Server) (n : SessionId) (session : Session) : Server :=
  { v with sessions := Function.update v.sessions n session }

/-- `Drop for ClientHandler`. -/
def Server.drop (v : Server) (n : SessionId) : Server where
  system := v.system
  sessions := Function.update v.sessions n ⟨∅, .ended⟩
  tasks := v.tasks ++ (v.sessions n).remoteForwards.entries.map fun entry => entry.2.token

/-- What may happen without the sessions: they alone call for forwards, and a call that a handler
waits for ends in a step of that handler. -/
def Server.Free (v : Server) : SystemEvent → Prop
  | .client (.begin _ op) => isForwarding op = false
  | .client (.finish c) => ∀ n, (v.sessions n).activity.call? ≠ some c
  | .client (.cleanUp c) => ∀ n, (v.sessions n).activity.call? ≠ some c
  | .client (.abandon c) => ∀ n, (v.sessions n).activity.call? ≠ some c
  | _ => True

inductive HandlerEvent
  | none
  | tcpipForward (n : SessionId) (address : Text) (port : UInt32)
  | cancelTcpipForward (n : SessionId) (address : Text) (port : UInt32)
  /-- The call that the handler waits for returns. -/
  | returns (n : SessionId)
  | drop (n : SessionId)
  /-- A task that the drop of a handler has spawned begins. -/
  | task

/-- What a handler does, and what happens with it between the daemon and the executor. -/
structure ServerEvent where
  handler : HandlerEvent
  system : Option SystemEvent

/-- **The steps of the server.** -/
inductive ServerStep (config : AppConfig) (requests : SerdeJson ExecutorRequest)
    (responses : SerdeJson ExecutorResponse) : Server → ServerEvent → Server → Prop
  | system {v : Server} {e : SystemEvent} {s : System}
      (hs : SystemStep requests responses v.system e s) (hfree : v.Free e) :
      ServerStep config requests responses v ⟨.none, some e⟩ { v with system := s }
  | refuse {v : Server} {n : SessionId} {address : Text} {port : UInt32}
      (hidle : (v.sessions n).activity = .idle)
      (hno : tcpipForward config n (v.sessions n).remoteForwards address port = .ok none) :
      ServerStep config requests responses v ⟨.tcpipForward n address port, none⟩ v
  | invalid {v : Server} {n : SessionId} {address : Text} {port : UInt32} {err : AnyError}
      (hidle : (v.sessions n).activity = .idle)
      (herr : tcpipForward config n (v.sessions n).remoteForwards address port = .error err) :
      ServerStep config requests responses v ⟨.tcpipForward n address port, none⟩ (v.drop n)
  | forward {v : Server} {n : SessionId} {address : Text} {port : UInt32} {c : CallId}
      {op : Operation} {s : System} (hidle : (v.sessions n).activity = .idle)
      (hok : tcpipForward config n (v.sessions n).remoteForwards address port = .ok (some op))
      (hs : SystemStep requests responses v.system (.client (.begin c op)) s) :
      ServerStep config requests responses v
        ⟨.tcpipForward n address port, some (.client (.begin c op))⟩
        ({ v with system := s }.setSession n
          ⟨(v.sessions n).remoteForwards, .forwarding c address⟩)
  | forwardReturns {v : Server} {n : SessionId} {address : Text} {c : CallId} {e : ClientEvent}
      {s : System} {i : Issued} {result : Except CallError Reply}
      (hwaits : (v.sessions n).activity = .forwarding c address)
      (he : e = .finish c ∨ e = .cleanUp c)
      (hs : SystemStep requests responses v.system (.client e) s)
      (hresult : s.client.calls c = .returned i result) :
      ServerStep config requests responses v ⟨.returns n, some (.client e)⟩
        ({ v with system := s }.setSession n
          ⟨(forwardReturned address (v.sessions n).remoteForwards result).1, .idle⟩)
  | cancelUnknown {v : Server} {n : SessionId} {address : Text} {port : UInt32}
      (hidle : (v.sessions n).activity = .idle)
      (hno : (v.sessions n).remoteForwards.lookup ⟨address, port⟩ = none) :
      ServerStep config requests responses v ⟨.cancelTcpipForward n address port, none⟩ v
  | cancel {v : Server} {n : SessionId} {address : Text} {port : UInt32}
      {handle : RemoteForwardHandle} {c : CallId} {s : System}
      (hidle : (v.sessions n).activity = .idle)
      (hsome : (v.sessions n).remoteForwards.lookup ⟨address, port⟩ = some handle)
      (hs : SystemStep requests responses v.system
        (.client (.begin c (.cancelRemoteForward handle.token))) s) :
      ServerStep config requests responses v
        ⟨.cancelTcpipForward n address port,
          some (.client (.begin c (.cancelRemoteForward handle.token)))⟩
        ({ v with system := s }.setSession n
          ⟨(v.sessions n).remoteForwards.erase ⟨address, port⟩, .cancelling c⟩)
  | cancelReturns {v : Server} {n : SessionId} {c : CallId} {e : ClientEvent} {s : System}
      {i : Issued} {reply : Reply} (hwaits : (v.sessions n).activity = .cancelling c)
      (he : e = .finish c ∨ e = .cleanUp c)
      (hs : SystemStep requests responses v.system (.client e) s)
      (hresult : s.client.calls c = .returned i (.ok reply)) :
      ServerStep config requests responses v ⟨.returns n, some (.client e)⟩
        ({ v with system := s }.setSession n ⟨(v.sessions n).remoteForwards, .idle⟩)
  /-- The error of the call ends the session. -/
  | cancelFails {v : Server} {n : SessionId} {c : CallId} {e : ClientEvent} {s : System}
      {i : Issued} {err : CallError} (hwaits : (v.sessions n).activity = .cancelling c)
      (he : e = .finish c ∨ e = .cleanUp c)
      (hs : SystemStep requests responses v.system (.client e) s)
      (hresult : s.client.calls c = .returned i (.error err)) :
      ServerStep config requests responses v ⟨.returns n, some (.client e)⟩
        ({ v with system := s }.drop n)
  | drop {v : Server} {n : SessionId} (hidle : (v.sessions n).activity = .idle) :
      ServerStep config requests responses v ⟨.drop n, none⟩ (v.drop n)
  /-- The handler is dropped while it waits. -/
  | dropWaiting {v : Server} {n : SessionId} {c : CallId} {s : System}
      (hwaits : (v.sessions n).activity.call? = some c)
      (hs : SystemStep requests responses v.system (.client (.abandon c)) s) :
      ServerStep config requests responses v ⟨.drop n, some (.client (.abandon c))⟩
        ({ v with system := s }.drop n)
  | task {v : Server} {before after : List UInt64} {token : UInt64} {c : CallId} {s : System}
      (htasks : v.tasks = before ++ token :: after)
      (hs : SystemStep requests responses v.system
        (.client (.begin c (.cancelRemoteForward token))) s) :
      ServerStep config requests responses v
        ⟨.task, some (.client (.begin c (.cancelRemoteForward token)))⟩
        { v with system := s, tasks := before ++ after }

abbrev ServerRun (config : AppConfig) (requests : SerdeJson ExecutorRequest)
    (responses : SerdeJson ExecutorResponse) (hello : ExecutorHello) :
    List ServerEvent → Server → Prop :=
  Run (· = Server.new hello) (ServerStep config requests responses)

variable {v : Server} {n : SessionId} {c : CallId} {h : List ServerEvent} {hello : ExecutorHello}
  {forwards : SessionForwards}

section

variable {config : AppConfig} {requests : SerdeJson ExecutorRequest}
  {responses : SerdeJson ExecutorResponse}

/-! ## The system under the sessions -/

/-- What has happened between the daemon and the executor. -/
def systemEvents (h : List ServerEvent) : List SystemEvent := h.filterMap ServerEvent.system

theorem systemEvents_append (h₁ h₂ : List ServerEvent) :
    systemEvents (h₁ ++ h₂) = systemEvents h₁ ++ systemEvents h₂ := List.filterMap_append

theorem ServerStep.system_cases {v' : Server} {e : ServerEvent}
    (hs : ServerStep config requests responses v e v') :
    (e.system = none ∧ v'.system = v.system) ∨
      ∃ e', e.system = some e' ∧ SystemStep requests responses v.system e' v'.system := by
  cases hs with
  | system hs _ => exact Or.inr ⟨_, rfl, hs⟩
  | refuse => exact Or.inl ⟨rfl, rfl⟩
  | invalid => exact Or.inl ⟨rfl, rfl⟩
  | forward _ _ hs => exact Or.inr ⟨_, rfl, hs⟩
  | forwardReturns _ _ hs _ => exact Or.inr ⟨_, rfl, hs⟩
  | cancelUnknown => exact Or.inl ⟨rfl, rfl⟩
  | cancel _ _ hs => exact Or.inr ⟨_, rfl, hs⟩
  | cancelReturns _ _ hs _ => exact Or.inr ⟨_, rfl, hs⟩
  | cancelFails _ _ hs _ => exact Or.inr ⟨_, rfl, hs⟩
  | drop => exact Or.inl ⟨rfl, rfl⟩
  | dropWaiting _ hs => exact Or.inr ⟨_, rfl, hs⟩
  | task _ hs => exact Or.inr ⟨_, rfl, hs⟩

/-- **A run of the server is a run of the executor's system.** -/
theorem system_run_from {init : Server → Prop} {init' : System → Prop}
    (hinit : ∀ v, init v → init' v.system)
    (hr : Run init (ServerStep config requests responses) h v) :
    Run init' (SystemStep requests responses) (systemEvents h) v.system := by
  induction hr with
  | nil h0 => exact .nil (hinit _ h0)
  | @cons h v v' e hr hs ih =>
      rcases hs.system_cases with ⟨hnone, heq⟩ | ⟨e', hsome, hstep⟩
      · rw [systemEvents, List.filterMap_cons_none hnone, heq]
        exact ih
      · rw [systemEvents, List.filterMap_cons_some hsome]
        exact ih.cons hstep

theorem ServerRun.system (hr : ServerRun config requests responses hello h v) :
    SystemRun requests responses hello (systemEvents h) v.system :=
  system_run_from (fun _ heq => by rw [heq]; rfl) hr

/-- A forward that `tcpip_forward` asks for is the session's own, at the address it was asked
for. -/
theorem tcpipForward_eq_some {address : Text} {port : UInt32} {op : Operation}
    (h : tcpipForward config n forwards address port = .ok (some op)) :
    ∃ requestedPort : UInt16, requestedPort.toUInt32 = port ∧
      op = .startRemoteForward n (connectedAddress config address) (bindHost config address)
        requestedPort := by
  unfold tcpipForward at h
  split at h
  · cases h
  · unfold tryU16 at h
    by_cases hlt : port.toNat < 2 ^ 16
    · rw [if_pos hlt] at h
      dsimp only at h
      split at h
      · cases h
      · cases h
        refine ⟨port.toUInt16, ?_, rfl⟩
        apply UInt32.toNat_inj.mp
        rw [UInt16.toNat_toUInt32, UInt32.toNat_toUInt16]
        exact Nat.mod_eq_of_lt hlt
    · rw [if_neg hlt] at h
      cases h

/-- In the history `tcpip_forward` of the session `n` has asked for the forward of the call `c`, for
this address. -/
def AskedFor (config : AppConfig) (h : List ServerEvent) (c : CallId) (op : Operation)
    (n : SessionId) (address : Text) : Prop :=
  ∃ requestedPort : UInt16,
    ⟨.tcpipForward n address requestedPort.toUInt32, some (.client (.begin c op))⟩ ∈ h ∧
    op = .startRemoteForward n (connectedAddress config address) (bindHost config address)
      requestedPort

/-- Every forward was asked for by `tcpip_forward`. -/
theorem askedFor_of_begin (hr : ServerRun config requests responses hello h v) {op : Operation}
    (hop : op.drawsToken = true) (hmem : SystemEvent.client (.begin c op) ∈ systemEvents h) :
    ∃ n address, AskedFor config h c op n address := by
  refine Run.invariant (P := fun h _ => SystemEvent.client (.begin c op) ∈ systemEvents h →
    ∃ n address, AskedFor config h c op n address) ?_ ?_ hr hmem
  · intro _ _ hnil
    cases hnil
  · intro h v e v' _ ih hs hmem
    obtain ⟨e', he', hsystem⟩ := List.mem_filterMap.mp hmem
    rcases List.mem_cons.mp he' with rfl | hlater
    · cases hs with
      | system _ hfree =>
          cases hsystem
          exact absurd (isForwarding_of_drawsToken hop) (by rw [hfree]; exact Bool.false_ne_true)
      | forward _ hok _ =>
          cases hsystem
          obtain ⟨requestedPort, rfl, hform⟩ := tcpipForward_eq_some hok
          exact ⟨_, _, requestedPort, List.mem_cons_self, hform⟩
      | forwardReturns _ he =>
          cases hsystem
          rcases he with he | he <;> cases he
      | cancelReturns _ he =>
          cases hsystem
          rcases he with he | he <;> cases he
      | cancelFails _ he =>
          cases hsystem
          rcases he with he | he <;> cases he
      | cancel =>
          cases hsystem
          cases hop
      | task =>
          cases hsystem
          cases hop
      | _ => cases hsystem
    · obtain ⟨n, address, requestedPort, hin, hform⟩ :=
        ih (List.mem_filterMap.mpr ⟨e', hlater, hsystem⟩)
      exact ⟨n, address, requestedPort, List.mem_cons_of_mem _ hin, hform⟩

/-! ## Whose connection it is -/

/-- **Connections reach only their own session.** As long as fewer than `2 ^ 64` requests have been
made, a channel that the dispatch task opens goes to the session whose `tcpip_forward` made the
executor bind the listener, no other call having asked for a forward under that token, and it
carries the address of that request and the port of that listener. Once a registration has been
taken out by somebody who cancels the forward, nothing is found under its token any more. -/
theorem forwarded_to_own_session (hreq : requests.Lawful) (hresp : responses.Lawful)
    {hello : ExecutorHello} {h : List ServerEvent} {v : Server}
    (hr : ServerRun config requests responses hello h v)
    (hfew : drawn (systemEvents h) < 2 ^ 64) :
    (∀ event registration, (event, some registration) ∈ v.system.client.dispatched →
      ∃ n address listener c i, AskedFor config h c i.op n address ∧
        Accepted requests responses hello event listener (systemEvents h) ∧
        Bound v.system event.token listener c i ∧
        (∀ c' i', (v.system.client.calls c').issued? = some i' → i'.op.drawsToken = true →
          i'.token = event.token → c' = c) ∧
        registration =
          ⟨n, connectedAddress config address, listener.boundPort.toUInt32⟩) ∧
    (∀ h₁ h₂ e c token registration v₂ v₁, h = h₁ ++ e :: h₂ →
      ServerRun config requests responses hello h₂ v₂ →
      v₂.system.client.remoteForwards.lookup token = some registration →
      ServerStep config requests responses v₂ e v₁ →
      e.system = some (.client (.begin c (.cancelRemoteForward token))) →
      Run (· = v₁) (ServerStep config requests responses) h₁ v →
      v.system.client.remoteForwards.lookup token = none ∧
        ∃ later, v.system.client.dispatched = v₂.system.client.dispatched ++ later ∧
          ∀ event found, (event, found) ∈ later → event.token = token → found = none) := by
  have hsystem := hr.system
  constructor
  · intro event registration hmem
    obtain ⟨listener, c, i, ha, hb, ⟨bind, port, hop⟩, hport⟩ :=
      registration_of_dispatched hreq hresp hsystem hfew hmem
    have hbegun := begun_of_run hsystem c i.op (Call.op?_of_issued hb.issued)
    obtain ⟨n, address, hasked⟩ := askedFor_of_begin hr hb.drawsToken hbegun
    refine ⟨n, address, listener, c, i, hasked, ha, hb, ?_, ?_⟩
    · intro c' i' hissued hdraws htoken
      exact token_unique hsystem hfew hissued hb.issued hdraws hb.drawsToken
        (htoken.trans hb.token.symm)
    · obtain ⟨requestedPort, -, hform⟩ := hasked
      obtain ⟨hhandle, hconnected, -, -⟩ :=
        Operation.startRemoteForward.inj (hop.symm.trans hform)
      rw [← hhandle, ← hconnected, ← hport]
  · rintro h₁ h₂ e c token registration v₂ v₁ rfl hr₂ hfound hstep he hr₁
    rcases hstep.system_cases with ⟨hnone, -⟩ | ⟨e', hsome, hs⟩
    · rw [hnone] at he
      cases he
    · cases hsome.symm.trans he
      refine not_found_after_cancel hreq hresp hr₂.system hfound hs
        (system_run_from (fun _ heq => by rw [heq]) hr₁) ?_
      rw [systemEvents_append, systemEvents, systemEvents,
        List.filterMap_cons_some hsome] at hfew
      exact hfew

end

/-! ## Runs of the server -/

variable {port : UInt16}

section

variable {config : AppConfig} {init : Server → Prop} {h : List ServerEvent} {v : Server}

/-- What happens between the daemon and the executor without the sessions is part of a run. -/
theorem run_path (hr : Run init (ServerStep config requestJson responseJson) h v)
    {es : List SystemEvent} {s : System} (hp : Path v.system es s) (hfree : ∀ e ∈ es, v.Free e) :
    Run init (ServerStep config requestJson responseJson)
      (es.map (fun e => ⟨.none, some e⟩) ++ h) { v with system := s } := by
  induction hp with
  | nil heq =>
      subst heq
      exact hr
  | cons _ hs ih =>
      exact (ih fun e he => hfree e (List.mem_cons_of_mem _ he)).cons
        (.system hs (hfree _ List.mem_cons_self))

theorem tryU16_toUInt32 (port : UInt16) : tryU16 port.toUInt32 = some port := by
  have hlt : port.toUInt32.toNat < 2 ^ 16 := by
    rw [UInt16.toNat_toUInt32]
    exact port.toNat_lt
  rw [tryU16, if_pos hlt]
  simp

/-- A session that asks for a new forward on the loopback address calls the executor for it. -/
theorem tcpipForward_local (hallow : config.allowRemoteForwarding = true)
    (hnew : forwards.lookup ⟨"127.0.0.1".toList, port.toUInt32⟩ = none) :
    tcpipForward config n forwards "127.0.0.1".toList port.toUInt32 =
      .ok (some (localForward n port)) := by
  have hbind : bindHost config "127.0.0.1".toList = "127.0.0.1".toList := by
    unfold bindHost
    split <;> rfl
  simp only [tcpipForward, hallow, tryU16_toUInt32, hnew, hbind]
  rfl

/-- The server after the session `n` has asked for a forward with the call `c`. -/
def Server.asking (v : Server) (n : SessionId) (c : CallId) (port : UInt16) : Server :=
  { v with system := v.system.begun c (localForward n port) }.setSession n
    ⟨(v.sessions n).remoteForwards, .forwarding c "127.0.0.1".toList⟩

theorem asking_step (hallow : config.allowRemoteForwarding = true)
    (hidle : (v.sessions n).activity = .idle)
    (hnew : (v.sessions n).remoteForwards.lookup ⟨"127.0.0.1".toList, port.toUInt32⟩ = none)
    (hc : v.system.client.calls c = .idle) :
    ServerStep config requestJson responseJson v
      ⟨.tcpipForward n "127.0.0.1".toList port.toUInt32,
        some (.client (.begin c (localForward n port)))⟩ (v.asking n c port) :=
  .forward hidle (tcpipForward_local hallow hnew) (begin_localForward hc n port)

/-- The server after that forward was bound and the call has returned. -/
def Server.forwarded (v : Server) (n : SessionId) (c : CallId) (port : UInt16) : Server where
  system := ((v.system.begun c (localForward n port)).bound c n port).resumed c
    (v.system.issued n port) port
  sessions := Function.update v.sessions n
    ⟨(v.sessions n).remoteForwards.insert ⟨"127.0.0.1".toList, port.toUInt32⟩
      ⟨v.system.client.nextForwardToken⟩, .idle⟩
  tasks := v.tasks

def forwardedEvents (n : SessionId) (c : CallId) (port : UInt16) : List ServerEvent :=
  ⟨.returns n, some (.client (.finish c))⟩ ::
    ((exchangeEvents c (bindsTo port)).map (fun e => ⟨.none, some e⟩) ++
      [⟨.tcpipForward n "127.0.0.1".toList port.toUInt32,
        some (.client (.begin c (localForward n port)))⟩])

/-- The last step of a forward: the call returns, and the session enters it. -/
theorem returned_step :
    ServerStep config requestJson responseJson
      { v.asking n c port with
        system := (v.system.begun c (localForward n port)).bound c n port }
      ⟨.returns n, some (.client (.finish c))⟩ (v.forwarded n c port) := by
  let s := (v.system.begun c (localForward n port)).bound c n port
  have hwaits : ((v.asking n c port).sessions n).activity = .forwarding c "127.0.0.1".toList := by
    simp [Server.asking, Server.setSession]
  have hcall : s.client.calls c = .awaiting (v.system.issued n port) := Function.update_self ..
  have hslot : s.client.slots c =
      .filled (.requestOk (v.system.issued n port).id (.boundPort port)) :=
    Function.update_self ..
  have hresult : (s.resumed c (v.system.issued n port) port).client.calls c =
      .returned (v.system.issued n port)
        (.ok (.started v.system.client.nextForwardToken port.toUInt32)) := by
    unfold System.resumed
    dsimp only
    rw [Client.complete_calls, Client.setCall_calls_self]
    rfl
  have hstep : ServerStep config requestJson responseJson _ _ _ :=
    .forwardReturns (v := { v.asking n c port with system := s }) hwaits (Or.inl rfl)
      (resumed_step hcall hslot) hresult
  simpa [Server.forwarded, Server.asking, Server.setSession, forwardReturned] using hstep

/-- **Over an idle channel a session gets the forward it asks for.** -/
theorem forwarded_run (hr : Run init (ServerStep config requestJson responseJson) h v)
    (hready : v.system.Ready) (hallow : config.allowRemoteForwarding = true)
    (hidle : (v.sessions n).activity = .idle)
    (hnew : (v.sessions n).remoteForwards.lookup ⟨"127.0.0.1".toList, port.toUInt32⟩ = none)
    (hc : v.system.client.calls c = .idle) :
    Run init (ServerStep config requestJson responseJson) (forwardedEvents n c port ++ h)
      (v.forwarded n c port) := by
  have hasked := hr.cons (asking_step hallow hidle hnew hc)
  have hbound := run_path hasked
    (path_bound (hready.begun ..) c n port (Client.setCall_calls_self ..))
    (by simp [exchangeEvents, askEvents, Server.Free])
  have hreturned := hbound.cons returned_step
  simpa [forwardedEvents] using hreturned

/-- The default configuration allows forwards. -/
theorem defaults_allow :
    ∃ config, AppConfig.defaults .linux ⟨some "/home/user".toList, none⟩ = .ok config ∧
      config.allowRemoteForwarding = true :=
  ⟨_, rfl, rfl⟩

/-- A connection of a session's forward reaches that session. -/
theorem forwarded_to_first_session :
    ∃ config h v registration,
      AppConfig.defaults .linux ⟨some "/home/user".toList, none⟩ = .ok config ∧
      ServerRun config requestJson responseJson shellHello h v ∧
      (visitor 1 0, some registration) ∈ v.system.client.dispatched ∧
      ∃ n address listener c i, AskedFor config h c i.op n address ∧
        Bound v.system 1 listener c i ∧
        registration = ⟨n, connectedAddress config address, listener.boundPort.toUInt32⟩ := by
  obtain ⟨config, hconfig, hallow⟩ := defaults_allow
  let v₁ := (Server.new shellHello).forwarded 0 0 8081
  have hr₀ : ServerRun config requestJson responseJson shellHello [] (Server.new shellHello) :=
    .nil rfl
  have hr₁ : ServerRun config requestJson responseJson shellHello _ v₁ :=
    forwarded_run hr₀ (ready_new shellHello) hallow rfl rfl rfl
  have hready : v₁.system.Ready := (((ready_new shellHello).begun ..).answered ..).resumed ..
  have hr₂ := run_path hr₁ (path_connection hready "192.0.2.7".toList 40000 0 rfl rfl rfl
    (fits_remoteForwardIncoming 1 (by decide) _)) (by simp [Server.Free])
  have hr₃ : ServerRun config requestJson responseJson shellHello _
      { v₁ with system := (v₁.system.reported (visitor 1 0)).took (visitor 1 0) } :=
    hr₂.cons (.system (took_step rfl rfl) trivial)
  have hfound : (visitor 1 0, some ⟨0, "127.0.0.1".toList, 8081⟩) ∈
      ((v₁.system.reported (visitor 1 0)).took (visitor 1 0)).client.dispatched :=
    List.mem_singleton_self _
  obtain ⟨hown, -⟩ := forwarded_to_own_session requestJson_lawful responseJson_lawful
    hr₃ (by decide)
  obtain ⟨n, address, listener, c, i, hasked, -, hbound, -, hregistration⟩ := hown _ _ hfound
  exact ⟨config, _, _, _, hconfig, hr₃, hfound, n, address, listener, c, i, hasked, hbound,
    hregistration⟩

end

/-! ## When the ids wrap -/

section

variable {config : AppConfig}

/-- Whether the event is a `tcpip_forward` that has called the executor. -/
def ServerEvent.startsForward : ServerEvent → Bool
  | ⟨.tcpipForward _ _ _, some _⟩ => true
  | _ => false

theorem countP_plain (es : List SystemEvent) :
    (es.map fun e => (⟨.none, some e⟩ : ServerEvent)).countP ServerEvent.startsForward = 0 := by
  rw [List.countP_eq_zero]
  intro e he
  obtain ⟨e', -, rfl⟩ := List.mem_map.mp he
  exact Bool.false_ne_true

/-- The request that the first session's forward is waiting with. -/
def firstIssued : Issued := ⟨localForward 0 8081, none, 1, 1⟩

/-- The client that has sent that request. -/
def firstClient : Client :=
  (Client.new.setCall 0 (.opened (localForward 0 8081) none)).asked 0 (localForward 0 8081)

/-- The first session has sent its request, which the executor has not read, and then `n` requests
of others have failed. -/
def delayedEvents (n : Nat) : List ServerEvent :=
  (failsEvents 2 n).map (fun e => ⟨.none, some e⟩) ++
    ((askEvents 0).map (fun e => ⟨.none, some e⟩) ++
      [⟨.tcpipForward 0 "127.0.0.1".toList 8081,
        some (.client (.begin 0 (localForward 0 8081)))⟩])

theorem countP_delayedEvents (n : Nat) :
    (delayedEvents n).countP ServerEvent.startsForward = 1 := by
  rw [delayedEvents, List.countP_append, List.countP_append, countP_plain, countP_plain]
  rfl

theorem free_failsEvents (hothers : ∀ n, ∀ c' ≥ c, (v.sessions n).activity.call? ≠ some c')
    (n : Nat) : ∀ e ∈ failsEvents c n, v.Free e := by
  induction n with
  | zero => exact fun _ he => nomatch he
  | succ n ih =>
      intro e he
      rcases List.mem_append.mp he with hnew | hold
      · simp only [failEvents, List.mem_cons, List.not_mem_nil, or_false] at hnew
        rcases hnew with rfl | rfl | rfl | rfl | rfl | rfl
        · exact fun m => hothers m _ (Nat.le_add_right ..)
        all_goals first | exact trivial | rfl
      · exact ih e hold

theorem delayed_run (hallow : config.allowRemoteForwarding = true) (n : Nat) :
    ∃ client dg, Carries requestJson dg firstIssued.packet ∧
      ServerRun config requestJson responseJson shellHello (delayedEvents n)
        { ((Server.new shellHello).asking 0 0 8081) with
          system := ⟨client, ⟨Pipe.new.push dg, .new⟩, .new shellHello⟩ } ∧
      firstClient.Passed 2 n client := by
  let v₁ := (Server.new shellHello).asking 0 0 8081
  have hr₁ : ServerRun config requestJson responseJson shellHello _ v₁ :=
    (Run.nil rfl : ServerRun config requestJson responseJson shellHello [] _).cons
      (asking_step hallow rfl rfl rfl)
  obtain ⟨dg, hd, hasked⟩ := path_ask (s := v₁.system) (c := 0) rfl rfl
  have hr₂ := run_path hr₁ hasked (by simp [askEvents, Server.Free])
  let s₂ : System := ⟨firstClient, ⟨Pipe.new.push dg, .new⟩, .new shellHello⟩
  have hidle : ∀ c ≥ 2, s₂.client.calls c = .idle := by
    intro (c : Nat) (hc : 2 ≤ c)
    have hne : c ≠ 0 := by omega
    show firstClient.calls c = _
    simp [firstClient, Client.asked, Client.setCall, Client.new, hne]
  obtain ⟨client, hfails, hpassed⟩ := path_fails hidle n
  have hothers : ∀ m, ∀ c ≥ 2, (v₁.sessions m).activity.call? ≠ some c := by
    intro m (c : Nat) (hc : 2 ≤ c) hcall
    by_cases hm : m = 0
    · subst hm
      have heq : 0 = c := Option.some.inj hcall
      omega
    · change (Function.update (Server.new shellHello).sessions 0 _ m).activity.call? = _ at hcall
      rw [Function.update_of_ne hm] at hcall
      cases hcall
  exact ⟨client, dg, hd, run_path hr₂ hfails (free_failsEvents hothers n), hpassed⟩

/-- The request of the second session's forward, under the same id. -/
def secondIssued : Issued := ⟨localForward 1 8082, none, 1, 2⟩

/-- The client when the counter of ids has come round. -/
def wrappedClient (pending : Table UInt64 CallId) (nextChannel : Nat) (calls : CallId → Call)
    (slots : CallId → Slot ExecutorResponse) : Client :=
  ⟨pending, ∅, 1, 2, nextChannel, calls, slots, .running, [], true, []⟩

/-- The second session asks, the executor binds both forwards, and the answer that is meant for the
first reaches the second. -/
theorem misled_run (hallow : config.allowRemoteForwarding = true) {pending : Table UInt64 CallId}
    {nextChannel : Nat} {calls : CallId → Call} {slots : CallId → Slot ExecutorResponse}
    {sessions : SessionId → Session} {tasks : List UInt64} {dg₁ : Datagram Fd}
    (hr : ServerRun config requestJson responseJson shellHello h
      ⟨⟨wrappedClient pending nextChannel calls slots, ⟨Pipe.new.push dg₁, .new⟩, .new shellHello⟩,
        sessions, tasks⟩) (hcall : calls 1 = .idle) (hsession : sessions 1 = ⟨∅, .idle⟩)
    (hd₁ : Carries requestJson dg₁ firstIssued.packet) :
    ∃ h' v', ServerRun config requestJson responseJson shellHello h' v' ∧
      h'.countP ServerEvent.startsForward = h.countP ServerEvent.startsForward + 1 ∧
      v'.system.Ready ∧
      v'.system.client.remoteForwards.lookup 2 = some ⟨1, "127.0.0.1".toList, 8081⟩ ∧
      v'.system.process.state.remoteForwards.lookup 2 = some ⟨"127.0.0.1".toList, 8082, true⟩ ∧
      v'.system.client.dispatching = true ∧ v'.system.client.events = [] ∧
      Bound v'.system 2 ⟨"127.0.0.1".toList, 8082, true⟩ 1 secondIssued := by
  have hidle : (sessions 1).activity = .idle := by rw [hsession]
  have hnew : (sessions 1).remoteForwards.lookup
      ⟨"127.0.0.1".toList, (8082 : UInt16).toUInt32⟩ = none := by
    rw [hsession]
    rfl
  have hr₂ := hr.cons (asking_step hallow hidle hnew hcall)
  -- the second request stands behind the first one
  let client₂ := (wrappedClient pending nextChannel calls slots).setCall 1
    (.opened (localForward 1 8082) none)
  obtain ⟨dg₂, hd₂, hasked⟩ := path_ask
    (s := ⟨client₂, ⟨Pipe.new.push dg₁, .new⟩, .new shellHello⟩) (c := 1)
    (Client.setCall_calls_self ..) rfl
  have hr₃ := run_path hr₂ hasked (by simp [askEvents, Server.Free])
  -- the executor binds the first forward
  let client₃ := client₂.asked 1 (localForward 1 8082)
  obtain ⟨dg₃, hd₃, hhandled⟩ := path_handle (i := firstIssued)
    (s := ⟨client₃, ⟨(Pipe.new.push dg₁).push dg₂, .new⟩, .new shellHello⟩) (bindsTo 8081)
    rfl rfl rfl rfl rfl hd₁ (fits_startRemoteForward _ _ (by decide) _) rfl
  have hr₄ := run_path hr₃ hhandled (by simp [Server.Free])
  let forwards₄ : Table UInt64 Listener := AList.insert 1 ⟨"127.0.0.1".toList, 8081, true⟩ ∅
  let process₄ : Process :=
    { Process.new shellHello with
      state := ⟨some shellHello, forwards₄⟩
      handled := [(1, .ok (.bound 8081))] }
  -- the answer reaches the call that waits under the id now, the second
  have hreceived := receive_step (s := ⟨client₃, ⟨Pipe.new.push dg₂, Pipe.new.push dg₃⟩, process₄⟩)
    rfl rfl hd₃ (fits_boundPort 1 8081)
  let client₅ : Client :=
    { client₃ with
      pending := client₃.pending.erase 1
      slots := Function.update client₃.slots 1 (.filled (.requestOk 1 (.boundPort 8081))) }
  have hclient₅ : client₃.receive ⟨.requestOk 1 (.boundPort 8081), none⟩ = client₅ :=
    receive_answer (AList.lookup_insert _) (.ok (.bound 8081))
  have hr₅ := hr₄.cons (.system hreceived trivial)
  change ServerRun config requestJson responseJson shellHello _
    ⟨⟨client₃.receive ⟨.requestOk 1 (.boundPort 8081), none⟩, ⟨Pipe.new.push dg₂, .new⟩, process₄⟩,
      _, _⟩ at hr₅
  rw [hclient₅] at hr₅
  let client₆ := client₅.complete 1 secondIssued (.requestOk 1 (.boundPort 8081))
  have hslot : client₅.slots 1 = .filled (.requestOk 1 (.boundPort 8081)) :=
    Function.update_self (1 : CallId) _ client₃.slots
  have hfinish : SystemStep requestJson responseJson
      ⟨client₅, ⟨Pipe.new.push dg₂, .new⟩, process₄⟩ (.client (.finish 1))
      ⟨client₆, ⟨Pipe.new.push dg₂, .new⟩, process₄⟩ :=
    resumed_step (i := secondIssued) rfl hslot
  have hresult : client₆.calls 1 = .returned secondIssued (.ok (.started 2 8081)) := rfl
  have hr₆ := hr₅.cons (.forwardReturns (n := 1) rfl (Or.inl rfl) hfinish hresult)
  -- the executor binds the second forward, and nobody waits for the answer
  obtain ⟨dg₄, hd₄, hhandled'⟩ := path_handle (i := secondIssued)
    (s := ⟨client₆, ⟨Pipe.new.push dg₂, .new⟩, process₄⟩) (bindsTo 8082)
    rfl rfl rfl rfl rfl hd₂ (fits_startRemoteForward _ _ (by decide) _) rfl
  have hr₇ := run_path hr₆ hhandled' (by simp [Server.Free])
  let process₇ : Process :=
    { process₄ with
      state := ⟨some shellHello, forwards₄.insert 2 ⟨"127.0.0.1".toList, 8082, true⟩⟩
      handled := [(1, .ok (.bound 8081)), (1, .ok (.bound 8082))] }
  have hreceived' := receive_step (s := ⟨client₆, ⟨.new, Pipe.new.push dg₄⟩, process₇⟩)
    rfl rfl hd₄ (fits_boundPort 1 8082)
  have hclient₈ : client₆.receive ⟨.requestOk 1 (.boundPort 8082), none⟩ = client₆ := by
    have hnone : client₆.pending.lookup 1 = none := AList.lookup_erase _ _
    simp only [Client.receive, Client.deliver, hnone]
  have hr₈ := hr₇.cons (.system hreceived' trivial)
  change ServerRun config requestJson responseJson shellHello _
    ⟨⟨client₆.receive ⟨.requestOk 1 (.boundPort 8082), none⟩, ⟨.new, .new⟩, process₇⟩, _, _⟩ at hr₈
  rw [hclient₈] at hr₈
  refine ⟨_, _, hr₈, ?_, ⟨rfl, rfl, rfl, rfl, rfl, rfl⟩, rfl, rfl, rfl, rfl, ?_⟩
  · simp [List.countP_cons, ServerEvent.startsForward]
  · refine ⟨rfl, rfl, ⟨1, "127.0.0.1".toList, 8082, rfl⟩, rfl, ?_⟩
    exact List.mem_cons_of_mem _ (List.mem_singleton_self _)

/-- **A wrapped id misleads a registration.** The first session waits for a forward that the
executor has not got round to. When `2 ^ 64 - 1` other requests have been made, the second session's
forward gets the same id, and with it the answer that is meant for the first one. So it is
registered with the port of the first one, and under that port its connections are announced. -/
theorem wrapped_id_misleads :
    ∃ config h v event registration listener c i,
      AppConfig.defaults .linux ⟨some "/home/user".toList, none⟩ = .ok config ∧
      ServerRun config requestJson responseJson shellHello h v ∧
      h.countP ServerEvent.startsForward = 2 ∧
      (event, some registration) ∈ v.system.client.dispatched ∧
      Accepted requestJson responseJson shellHello event listener (systemEvents h) ∧
      Bound v.system event.token listener c i ∧
      registration.connectedPort ≠ listener.boundPort.toUInt32 := by
  obtain ⟨config, hconfig, hallow⟩ := defaults_allow
  obtain ⟨client, dg₁, hd₁, hr₁, hpassed⟩ := delayed_run hallow (2 ^ 64 - 1)
  have hid : client.nextRequestId = 1 := hpassed.nextRequestId.trans (by decide)
  have hcall : client.calls 1 = .idle := hpassed.calls 1 (Or.inl (by decide))
  obtain ⟨pending, forwards, nextRequestId, nextForwardToken, nextChannel, calls, slots, reader,
    events, dispatching, dispatched⟩ := client
  obtain ⟨-, rfl, rfl, rfl, rfl, rfl, rfl, -⟩ := hpassed
  dsimp only at hid hcall
  subst hid
  obtain ⟨h, ⟨⟨client, link, process⟩, sessions, tasks⟩, hr, hcount, hready, hregistration,
    hlistener, hdispatching, hevents, hbound⟩ := misled_run hallow hr₁ hcall rfl hd₁
  obtain ⟨hreader, rfl, hrun, -, -, -⟩ := hready
  dsimp only at *
  -- a connection on the second listener
  obtain ⟨dg, hd, haccepted⟩ := accept_step (s := ⟨client, ⟨.new, .new⟩, process⟩)
    "192.0.2.7".toList 40000 0 hrun hlistener rfl rfl
  have haccept := hr.cons (.system haccepted trivial)
  have hreceived := receive_step (s := ⟨client, ⟨.new, Pipe.new.push dg⟩, process⟩) hreader rfl hd
    (fits_remoteForwardIncoming 2 (by decide) _)
  have hreported : client.receive ⟨.remoteForwardIncoming 2 "192.0.2.7".toList
      (40000 : UInt16).toUInt32, some (.connection 0)⟩ =
        { client with events := [visitor 2 0] } := by
    simp [Client.receive, hdispatching, hevents, visitor]
  rw [hreported] at hreceived
  have hreceive := haccept.cons (.system hreceived trivial)
  let s : System := ⟨{ client with events := [visitor 2 0] }, ⟨.new, .new⟩, process⟩
  have htook : SystemStep requestJson responseJson s (.client .dispatch) (s.took (visitor 2 0)) :=
    took_step hdispatching rfl
  have htaken : ServerRun config requestJson responseJson shellHello _
      ⟨s.took (visitor 2 0), sessions, tasks⟩ := hreceive.cons (.system htook trivial)
  refine ⟨config, _, _, visitor 2 0, ⟨1, "127.0.0.1".toList, 8081⟩,
    ⟨"127.0.0.1".toList, 8082, true⟩, 1, secondIssued, hconfig, htaken, ?_, ?_,
    .later (.later (.here hr.system hlistener haccepted rfl hd)),
    ((hbound.step haccepted).step hreceived).step htook, by decide⟩
  · have htwo : h.countP ServerEvent.startsForward = 2 := by rw [hcount, countP_delayedEvents]
    simp [ServerEvent.startsForward, htwo]
  · rw [← hregistration]
    exact List.mem_append_right _ (List.mem_singleton_self _)

end

end Narrowd.Sshd.Forwarding
