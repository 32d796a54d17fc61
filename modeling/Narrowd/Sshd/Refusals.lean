import Narrowd.Executor.Withdrawal
import Narrowd.Sshd.Channels
import Narrowd.Sshd.Leaks

set_option autoImplicit false

/-! # What takes a connection down

A callback that returns an error ends its session, with all its channels and forwards. Most refusals
are answers, but a request on a channel that is not pending is an error (`channel_mut` and
`take_channel`), also when the channel is open and has been launched, and so is a `tcpip-forward`
with a port beyond 16 bits. A `direct-tcpip` with such a port is refused, and a forward that a
session holds can always be cancelled as long as the control channel is up. So a session survives
exactly the requests that are neither (`connection_survives_iff`).
-/

namespace Narrowd.Sshd.Forwarding

open Lib Executor Narrowd.Config Channels

/-! ## Direct connections -/

/-- What a `ChannelOpenHandle` is told. -/
inductive OpenReply
  | accept
  | administrativelyProhibited
  | connectFailed
  deriving DecidableEq, Repr

/-- `connectTcp` is what the executor answers. -/
def channelOpenDirectTcpip (config : AppConfig) (connectTcp : Text → UInt16 → Except AnyError Unit)
    (hostToConnect : Text) (portToConnect : UInt32) : Except AnyError OpenReply :=
  if !config.allowTcpForwarding then .ok .administrativelyProhibited
  else
    match tryU16 portToConnect with
    | none => .ok .administrativelyProhibited
    | some port =>
        match connectTcp hostToConnect port with
        | .ok () => .ok .accept
        | .error _ => .ok .connectFailed

theorem channelOpenDirectTcpip_ne_error (config : AppConfig)
    (connectTcp : Text → UInt16 → Except AnyError Unit) (hostToConnect : Text)
    (portToConnect : UInt32) (err : AnyError) :
    channelOpenDirectTcpip config connectTcp hostToConnect portToConnect ≠ .error err := by
  unfold channelOpenDirectTcpip
  split
  · exact nofun
  · split
    · exact nofun
    · split <;> exact nofun

/-! ## The connections -/

/-- The server with the pending channels of its sessions. -/
structure Connections where
  server : Server
  channels : SessionId → Pending

def Connections.new (hello : ExecutorHello) : Connections where
  server := .new hello
  channels _ := ∅

/-- The end of a session whose callback has failed. -/
def Connections.close (v : Connections) (n : SessionId) : Connections where
  server := v.server.drop n
  channels := Function.update v.channels n ∅

inductive ConnectionEvent
  | channel (n : SessionId) (callback : Callback)
  | directTcpip (n : SessionId) (connectTcp : Text → UInt16 → Except AnyError Unit)
      (hostToConnect : Text) (portToConnect : UInt32)
  /-- The other callbacks, and what happens between the daemon and the executor. -/
  | server (e : ServerEvent)

/-- **The steps of the connections.** A callback begins when the one before it has returned. -/
inductive ConnectionStep (state : Channels.AppState) (requests : SerdeJson ExecutorRequest)
    (responses : SerdeJson ExecutorResponse) : Connections → ConnectionEvent → Connections → Prop
  | channel {v : Connections} {n : SessionId} {callback : Callback} {answer : Option Answer}
      (hidle : (v.server.sessions n).activity = .idle)
      (hok : (call state (v.channels n) callback).result = .ok answer) :
      ConnectionStep state requests responses v (.channel n callback)
        { v with
          channels := Function.update v.channels n (call state (v.channels n) callback).pending }
  | channelFails {v : Connections} {n : SessionId} {callback : Callback} {err : AnyError}
      (hidle : (v.server.sessions n).activity = .idle)
      (herr : (call state (v.channels n) callback).result = .error err) :
      ConnectionStep state requests responses v (.channel n callback) (v.close n)
  | directTcpip {v : Connections} {n : SessionId}
      {connectTcp : Text → UInt16 → Except AnyError Unit} {hostToConnect : Text}
      {portToConnect : UInt32} {reply : OpenReply}
      (hidle : (v.server.sessions n).activity = .idle)
      (hok : channelOpenDirectTcpip state.config connectTcp hostToConnect portToConnect =
        .ok reply) :
      ConnectionStep state requests responses v
        (.directTcpip n connectTcp hostToConnect portToConnect) v
  | directTcpipFails {v : Connections} {n : SessionId}
      {connectTcp : Text → UInt16 → Except AnyError Unit} {hostToConnect : Text}
      {portToConnect : UInt32} {err : AnyError}
      (hidle : (v.server.sessions n).activity = .idle)
      (herr : channelOpenDirectTcpip state.config connectTcp hostToConnect portToConnect =
        .error err) :
      ConnectionStep state requests responses v
        (.directTcpip n connectTcp hostToConnect portToConnect) (v.close n)
  | server {v : Connections} {e : ServerEvent} {w : Server}
      (hs : ServerStep state.config requests responses v.server e w) :
      ConnectionStep state requests responses v (.server e)
        { server := w
          channels := fun n => if (w.sessions n).activity = .ended then ∅ else v.channels n }

/-- What happens between the daemon and the executor. -/
def ConnectionEvent.system : ConnectionEvent → Option SystemEvent
  | server e => e.system
  | _ => none

/-- The client leaves, or its connection is lost. -/
def ConnectionEvent.Leaves (n : SessionId) : ConnectionEvent → Prop
  | server e => e.handler = .drop n
  | _ => False

/-- The steps that keep the control channel up, while the client `n` stays. -/
structure StayingStep (state : Channels.AppState) (requests : SerdeJson ExecutorRequest)
    (responses : SerdeJson ExecutorResponse) (n : SessionId) (v : Connections) (e : ConnectionEvent)
    (v' : Connections) : Prop where
  step : ConnectionStep state requests responses v e v'
  connected : Connected v'.server.system
  stays : ¬ e.Leaves n

abbrev ConnectionRun (state : Channels.AppState) (requests : SerdeJson ExecutorRequest)
    (responses : SerdeJson ExecutorResponse) (hello : ExecutorHello) (n : SessionId) :
    List ConnectionEvent → Connections → Prop :=
  Run (· = Connections.new hello) (StayingStep state requests responses n)

/-! ## The requests that are answered -/

/-- A request that is not refused beforehand is on a channel that is pending. -/
def Admissible (state : Channels.AppState) (pending : Pending) : Callback → Prop
  | .channelOpenSession _ => True
  | .envRequest channel name _ => ClientVariable name → channel ∈ pending
  | .ptyRequest channel _ _ _ _ _ => state.config.permitTty = true → channel ∈ pending
  | .shellRequest channel _ => channel ∈ pending
  | .execRequest channel _ _ => state.config.permitExec = true → channel ∈ pending
  | .subsystemRequest channel name _ =>
      name = "sftp".toList ∧ state.config.sftpEnabled = true → channel ∈ pending
  | .channelClose _ => True

/-- A request of the session `n` that is answered, by a success or a failure. -/
def Tame (state : Channels.AppState) (n : SessionId) (v : Connections) : ConnectionEvent → Prop
  | .channel m callback => m = n → Admissible state (v.channels n) callback
  | .directTcpip _ _ _ _ => True
  | .server e => ∀ address port, e.handler = .tcpipForward n address port →
      state.config.allowRemoteForwarding = true → port.toNat < 2 ^ 16

section

variable (pending : Pending) (channel : ChannelId)

theorem changeChannel_ok_iff (change : PendingChannel → PendingChannel) :
    (∃ answer, (changeChannel pending channel change).result = .ok answer) ↔ channel ∈ pending := by
  rw [← AList.lookup_isSome]
  unfold changeChannel
  cases pending.lookup channel <;> simp

theorem launchChannel_ok_iff (launch : PendingChannel → Launch) (started : Except AnyError Unit) :
    (∃ answer, (launchChannel pending channel launch started).result = .ok answer) ↔
      channel ∈ pending := by
  rw [← AList.lookup_isSome]
  unfold launchChannel
  cases pending.lookup channel <;> simp

theorem refused_ok : ∃ answer, (refused pending).result = .ok answer := ⟨_, rfl⟩

end

/-- **A callback on a channel returns `Ok`** exactly if it is admissible. -/
theorem call_ok_iff (state : Channels.AppState) (pending : Pending) (callback : Callback) :
    (∃ answer, (call state pending callback).result = .ok answer) ↔
      Admissible state pending callback := by
  cases callback with
  | channelOpenSession channel => exact iff_of_true ⟨none, rfl⟩ trivial
  | envRequest channel name value =>
      dsimp only [call, Admissible]
      rw [← isEnvAllowed_iff]
      unfold envRequest
      cases isEnvAllowed name
      · exact iff_of_true (refused_ok pending) nofun
      · exact (changeChannel_ok_iff pending channel _).trans (by simp)
  | ptyRequest channel term cols rows width height =>
      dsimp only [call, Admissible]
      unfold ptyRequest
      cases state.config.permitTty
      · exact iff_of_true (refused_ok pending) nofun
      · exact (changeChannel_ok_iff pending channel _).trans (by simp)
  | shellRequest channel started => exact launchChannel_ok_iff pending channel _ started
  | execRequest channel command started =>
      dsimp only [call, Admissible]
      unfold execRequest
      cases state.config.permitExec
      · exact iff_of_true (refused_ok pending) nofun
      · exact (launchChannel_ok_iff pending channel _ started).trans (by simp)
  | subsystemRequest channel name started =>
      dsimp only [call, Admissible]
      unfold subsystemRequest
      by_cases hname : name = "sftp".toList ∧ state.config.sftpEnabled = true
      · rw [if_neg (by simp [hname.1, hname.2])]
        exact (launchChannel_ok_iff pending channel _ started).trans (by simp [hname])
      · rw [if_pos (by simpa [Classical.or_iff_not_imp_left] using hname)]
        exact iff_of_true (refused_ok pending) fun h => absurd h hname
  | channelClose channel => exact iff_of_true ⟨none, rfl⟩ trivial

/-! ## The sessions that are there -/

/-- The handler of the session has not been dropped. -/
def Live (v : Server) (n : SessionId) : Prop := (v.sessions n).activity ≠ .ended

section

variable {v : Server} {m n : SessionId}

theorem live_drop_of_ne (h : n ≠ m) : Live (v.drop m) n ↔ Live v n := by
  dsimp only [Live, Server.drop]
  rw [Function.update_of_ne h]

theorem not_live_drop : ¬ Live (v.drop n) n := by
  dsimp only [Live, Server.drop]
  rw [Function.update_self]
  exact fun h => h rfl

/-- A session that goes on. -/
theorem live_setSession {session : Session} (hbefore : (v.sessions m).activity ≠ .ended)
    (hafter : session.activity ≠ .ended) : Live (v.setSession m session) n ↔ Live v n := by
  dsimp only [Live, Server.setSession]
  by_cases h : n = m
  · subst h
    rw [Function.update_self]
    exact iff_of_true hafter hbefore
  · rw [Function.update_of_ne h]

end

variable {config : AppConfig} {n : SessionId} {forwards : SessionForwards} {address : Text}
  {port : UInt32}

/-- A port that `tcpip_forward` does not stumble over. -/
theorem toNat_lt_of_tcpipForward {op : Option Operation}
    (h : tcpipForward config n forwards address port = .ok op)
    (hallow : config.allowRemoteForwarding = true) : port.toNat < 2 ^ 16 := by
  by_contra hlarge
  unfold tcpipForward tryU16 at h
  rw [hallow, if_neg hlarge] at h
  cases h

theorem of_tcpipForward_eq_error {err : AnyError}
    (h : tcpipForward config n forwards address port = .error err) :
    config.allowRemoteForwarding = true ∧ ¬ port.toNat < 2 ^ 16 := by
  unfold tcpipForward tryU16 at h
  cases hallow : config.allowRemoteForwarding with
  | false =>
      rw [hallow] at h
      cases h
  | true =>
      refine ⟨rfl, fun hlt => ?_⟩
      rw [hallow, if_pos hlt] at h
      dsimp only at h
      split at h
      · cases h
      · split at h <;> cases h

variable {e : ServerEvent}

section

variable {config : AppConfig} {requests : SerdeJson ExecutorRequest}
  {responses : SerdeJson ExecutorResponse}

/-- **What a step of the server does to a session that nobody drops**, if what it cancels is
cancelled: it is there afterwards unless it asks for a forward with a port beyond 16 bits. -/
theorem live_serverStep {v v' : Server} (hs : ServerStep config requests responses v e v')
    (hstays : e.handler ≠ .drop n) (hcancels : ∀ c i err, (v.sessions n).activity = .cancelling c →
      v'.system.client.calls c ≠ .returned i (.error err)) :
    Live v' n ↔ Live v n ∧ ∀ address port, e.handler = .tcpipForward n address port →
      config.allowRemoteForwarding = true → port.toNat < 2 ^ 16 := by
  have hother : ∀ {v' : Server} {e : HandlerEvent}, (Live v' n ↔ Live v n) →
      (∀ address port, e ≠ .tcpipForward n address port) →
      (Live v' n ↔ Live v n ∧ ∀ address port, e = .tcpipForward n address port →
        config.allowRemoteForwarding = true → port.toNat < 2 ^ 16) := by
    intro v' e hlive hne
    rw [hlive]
    exact (and_iff_left fun address port he => absurd he (hne address port)).symm
  cases hs with
  | system hs hfree => exact hother Iff.rfl nofun
  | @refuse m address port hidle hno =>
      refine (and_iff_left fun address' port' he hallow => ?_).symm
      cases he
      exact toNat_lt_of_tcpipForward hno hallow
  | @invalid m address port err hidle herr =>
      obtain ⟨hallow, hlarge⟩ := of_tcpipForward_eq_error herr
      by_cases hm : n = m
      · subst hm
        exact iff_of_false not_live_drop fun h => hlarge (h.2 address port rfl hallow)
      · refine hother (live_drop_of_ne hm) fun address port he => ?_
        cases he
        exact hm rfl
  | @forward m address port c op s hidle hok hs =>
      rw [live_setSession (by simp [hidle]) (by simp)]
      refine (and_iff_left fun address' port' he hallow => ?_).symm
      cases he
      exact toNat_lt_of_tcpipForward hok hallow
  | @forwardReturns m address c e s i result hwaits he hs hresult =>
      exact hother (live_setSession (by simp [hwaits]) (by simp)) nofun
  | cancelUnknown => exact hother Iff.rfl nofun
  | @cancel m address port handle c s hidle hsome hs =>
      exact hother (live_setSession (by simp [hidle]) (by simp)) nofun
  | @cancelReturns m c e s i reply hwaits he hs hresult =>
      exact hother (live_setSession (by simp [hwaits]) (by simp)) nofun
  | @cancelFails m c e s i err hwaits he hs hresult =>
      by_cases hm : n = m
      · subst hm
        exact absurd hresult (hcancels c i err hwaits)
      · exact hother (live_drop_of_ne hm) nofun
  | @drop m hidle =>
      have hm : n ≠ m := fun hm => hstays (by rw [hm])
      exact hother (live_drop_of_ne hm) nofun
  | @dropWaiting m c s hwaits hs =>
      have hm : n ≠ m := fun hm => hstays (by rw [hm])
      exact hother (live_drop_of_ne hm) nofun
  | task => exact hother Iff.rfl nofun

end

/-! ## Along a run -/

variable {v : Connections} {h : List ConnectionEvent}

section

variable {state : Channels.AppState} {requests : SerdeJson ExecutorRequest}
  {responses : SerdeJson ExecutorResponse} {hello : ExecutorHello} {n : SessionId}

/-- **A run of the connections is a run of the server**, where a session whose callback has failed
is dropped. -/
theorem server_run (hr : ConnectionRun state requests responses hello n h v) :
    ∃ h', ConnectedRun state.config requests responses hello h' v.server ∧
      systemEvents h' = h.filterMap ConnectionEvent.system := by
  induction hr with
  | nil heq => exact ⟨[], .nil (by rw [heq]; rfl), rfl⟩
  | @cons h v v' e hr hs ih =>
      obtain ⟨h', hr', hsystem⟩ := ih
      obtain ⟨hs, hconnected, -⟩ := hs
      cases hs with
      | channel => exact ⟨h', hr', hsystem⟩
      | @channelFails m callback err hidle herr =>
          exact ⟨⟨.drop m, none⟩ :: h', hr'.cons ⟨.drop hidle, hconnected⟩, hsystem⟩
      | directTcpip => exact ⟨h', hr', hsystem⟩
      | @directTcpipFails m connectTcp host port err hidle herr =>
          exact ⟨⟨.drop m, none⟩ :: h', hr'.cons ⟨.drop hidle, hconnected⟩, hsystem⟩
      | @server e w hs =>
          refine ⟨e :: h', hr'.cons ⟨hs, hconnected⟩, ?_⟩
          rw [systemEvents, List.filterMap_cons, List.filterMap_cons, ← hsystem]
          rfl

/-- As long as the control channel is up, what a session cancels is cancelled. -/
theorem not_returned_error (hreq : requests.Lawful) (hresp : responses.Lawful)
    {h : List ServerEvent} {v v' : Server} (hr : ConnectedRun config requests responses hello h v)
    (hs : ServerStep config requests responses v e v') (hconnected : Connected v'.system)
    (hfew : drawn (systemEvents (e :: h)) < 2 ^ 64) (c : CallId) (i : Issued) (err : CallError)
    (hwaits : (v.sessions n).activity = .cancelling c) :
    v'.system.client.calls c ≠ .returned i (.error err) := by
  intro hreturned
  obtain ⟨token, hop⟩ := (sound_of_run hr.serverRun n).cancelling c hwaits
  have hafter : (v'.system.client.calls c).op? = some (.cancelRemoteForward token) := by
    rcases hs.system_cases with ⟨-, heq⟩ | ⟨e', -, hsys⟩
    · rw [heq]
      exact hop
    · generalize v'.system = s' at hsys
      cases hsys with
      | process => exact hop
      | client hs => exact hs.op?_of_op? hop
  have hr' : ConnectedRun config requests responses hello (e :: h) v' := hr.cons ⟨hs, hconnected⟩
  obtain ⟨horderly, -⟩ := exclusive_of_run hreq hresp hr' hfew
  have hreader : v'.system.client.reader ≠ .drained := by
    rw [hconnected.reader]
    exact nofun
  rw [hreturned] at hafter
  cases cancelled_of_returned hreq hresp horderly hfew hreader hreturned (Option.some.inj hafter)

variable {v' : Connections}

/-- **The step of a run**: a session is there afterwards if it was before and its request is
tame. -/
theorem live_step_iff (hreq : requests.Lawful) (hresp : responses.Lawful) {e : ConnectionEvent}
    (hr : ConnectionRun state requests responses hello n h v)
    (hfew : drawn ((e :: h).filterMap ConnectionEvent.system) < 2 ^ 64)
    (hs : StayingStep state requests responses n v e v') :
    Live v'.server n ↔ Live v.server n ∧ Tame state n v e := by
  obtain ⟨hs, hconnected, hstays⟩ := hs
  cases hs with
  | @channel m callback answer hidle hok =>
      refine (and_iff_left fun hm => ?_).symm
      subst hm
      exact (call_ok_iff state (v.channels m) callback).mp ⟨answer, hok⟩
  | @channelFails m callback err hidle herr =>
      by_cases hm : n = m
      · subst hm
        refine iff_of_false not_live_drop fun htame => ?_
        obtain ⟨answer, hok⟩ := (call_ok_iff state (v.channels n) callback).mpr (htame.2 rfl)
        cases herr.symm.trans hok
      · refine (live_drop_of_ne hm).trans (and_iff_left ?_).symm
        exact fun heq => absurd heq.symm hm
  | directTcpip => exact (and_iff_left trivial).symm
  | directTcpipFails _ herr => exact absurd herr (channelOpenDirectTcpip_ne_error _ _ _ _ _)
  | @server e w hs =>
      obtain ⟨h', hr', hsystem⟩ := server_run hr
      have hfew' : drawn (systemEvents (e :: h')) < 2 ^ 64 := by
        rw [systemEvents, List.filterMap_cons,
          show h'.filterMap ServerEvent.system = _ from hsystem]
        exact hfew
      exact live_serverStep hs hstays
        fun c i err => not_returned_error hreq hresp hr' hs hconnected hfew' c i err

theorem drawn_filterMap_le (e : ConnectionEvent) (h : List ConnectionEvent) :
    drawn (h.filterMap ConnectionEvent.system) ≤
      drawn ((e :: h).filterMap ConnectionEvent.system) := by
  rw [List.filterMap_cons]
  cases e.system with
  | none => exact le_rfl
  | some e' => exact drawn_le_cons e' _

/-- A session whose requests are tame stays. -/
theorem live_of_tame (hreq : requests.Lawful) (hresp : responses.Lawful)
    (hr : Run (· = Connections.new hello)
      (restrict (StayingStep state requests responses n) (Tame state n)) h v)
    (hfew : drawn (h.filterMap ConnectionEvent.system) < 2 ^ 64) : Live v.server n := by
  induction hr with
  | nil heq =>
      subst heq
      exact nofun
  | @cons h v v' e hr hs ih =>
      have hlive := ih (Nat.lt_of_le_of_lt (drawn_filterMap_le e h) hfew)
      exact (live_step_iff hreq hresp hr.of_restrict hfew hs.1).mpr ⟨hlive, hs.2⟩

/-- The callbacks on the channels of a session, the newest first. -/
def callbacks (n : SessionId) (h : List ConnectionEvent) : List Callback :=
  h.filterMap fun
    | .channel m callback => if m = n then some callback else none
    | _ => none

/-- A callback changes the channels of its own session only. -/
theorem channels_step {e : ConnectionEvent} (hs : ConnectionStep state requests responses v e v')
    (hlive : Live v'.server n) (hchannels : v.channels n = replay state (callbacks n h)) :
    v'.channels n = replay state (callbacks n (e :: h)) := by
  cases hs with
  | @channel m callback answer hidle hok =>
      by_cases hm : m = n
      · subst hm
        have hcons : callbacks m (.channel m callback :: h) = callback :: callbacks m h := by
          simp [callbacks]
        rw [hcons, replay, ← hchannels]
        exact Function.update_self ..
      · have hcons : callbacks n (.channel m callback :: h) = callbacks n h := by
          simp [callbacks, hm]
        rw [hcons, ← hchannels]
        exact Function.update_of_ne (Ne.symm hm) ..
  | @channelFails m callback err hidle herr =>
      have hm : m ≠ n := by
        rintro rfl
        exact not_live_drop hlive
      have hcons : callbacks n (.channel m callback :: h) = callbacks n h := by
        simp [callbacks, hm]
      rw [hcons, ← hchannels]
      exact Function.update_of_ne (Ne.symm hm) ..
  | directTcpip => exact hchannels
  | directTcpipFails _ herr => exact absurd herr (channelOpenDirectTcpip_ne_error _ _ _ _ _)
  | server hs => exact (if_neg hlive).trans hchannels

/-- **Which requests a connection survives.** In every run with the control channel up, fewer than
`2 ^ 64` requests to the executor and a client that stays, the session is there at the end if and
only if every request it has made was tame in the state it came in: on a pending channel, or refused
by the configuration, and with a port of 16 bits if it asked for a forward. Its channels then are
what the callbacks on them have made of them. -/
theorem connection_survives_iff (hreq : requests.Lawful) (hresp : responses.Lawful)
    {h : List ConnectionEvent} {v : Connections}
    (hr : ConnectionRun state requests responses hello n h v)
    (hfew : drawn (h.filterMap ConnectionEvent.system) < 2 ^ 64) :
    (Live v.server n ↔ Run (· = Connections.new hello)
      (restrict (StayingStep state requests responses n) (Tame state n)) h v) ∧
    (Live v.server n → v.channels n = replay state (callbacks n h)) := by
  induction hr with
  | nil heq =>
      subst heq
      exact ⟨⟨fun _ => .nil rfl, fun _ => nofun⟩, fun _ => rfl⟩
  | @cons h v v' e hr hs ih =>
      obtain ⟨hiff, hchannels⟩ := ih (Nat.lt_of_le_of_lt (drawn_filterMap_le e h) hfew)
      have hstep := live_step_iff hreq hresp hr hfew hs
      refine ⟨⟨fun hlive => ?_, fun htame => live_of_tame hreq hresp htame hfew⟩, fun hlive => ?_⟩
      · obtain ⟨hbefore, htame⟩ := hstep.mp hlive
        exact .cons (hiff.mp hbefore) ⟨hs, htame⟩
      · exact channels_step hs.step hlive (hchannels (hstep.mp hlive).1)

end

/-! ## Two channels and a shell -/

/-- The connections after a callback on a channel of the first session. -/
def Connections.called (v : Connections) (state : Channels.AppState) (callback : Callback) :
    Connections :=
  { v with channels := Function.update v.channels 0 (call state (v.channels 0) callback).pending }

section

variable (state : Channels.AppState)

theorem connected_new : Connected (Server.new shellHello).system := by
  have hsteady : Steady (Server.new shellHello) := steady_new
  exact hsteady.up.connected

theorem run_called (callback : Callback)
    (hr : ConnectionRun state requestJson responseJson shellHello 0 h v)
    (hserver : v.server = .new shellHello) {answer : Option Answer}
    (hok : (call state (v.channels 0) callback).result = .ok answer) :
    ConnectionRun state requestJson responseJson shellHello 0 (.channel 0 callback :: h)
      (v.called state callback) := by
  refine hr.cons ⟨.channel (by rw [hserver]; rfl) hok, ?_, nofun⟩
  change Connected v.server.system
  rw [hserver]
  exact connected_new

/-- Two channels, with a shell on the first. -/
def shellBeside : Connections :=
  (((Connections.new shellHello).called state (.channelOpenSession 0)).called state
    (.channelOpenSession 1)).called state (.shellRequest 0 (.ok ()))

def shellBesideEvents : List ConnectionEvent :=
  [.channel 0 (.shellRequest 0 (.ok ())), .channel 0 (.channelOpenSession 1),
    .channel 0 (.channelOpenSession 0)]

theorem run_shellBeside :
    ConnectionRun state requestJson responseJson shellHello 0 shellBesideEvents
      (shellBeside state) := by
  have hr₀ : ConnectionRun state requestJson responseJson shellHello 0 [] (.new shellHello) :=
    .nil rfl
  have hr₁ := run_called state (.channelOpenSession 0) hr₀ rfl rfl
  have hr₂ := run_called state (.channelOpenSession 1) hr₁ rfl rfl
  exact run_called state (.shellRequest 0 (.ok ())) hr₂ rfl rfl

end

/-- A session survives the requests of an ordinary client, and its other channel stays. -/
theorem connection_survives_shell :
    ∃ config v, AppConfig.defaults .linux ⟨some "/home/user".toList, none⟩ = .ok config ∧
      ConnectionRun ⟨config, "/home/user".toList, "user".toList⟩ requestJson responseJson shellHello
        0 shellBesideEvents v ∧
      Run (· = Connections.new shellHello)
        (restrict
          (StayingStep ⟨config, "/home/user".toList, "user".toList⟩ requestJson responseJson 0)
          (Tame ⟨config, "/home/user".toList, "user".toList⟩ 0)) shellBesideEvents v ∧
      (v.channels 0).lookup 1 = some { channel := 1, pty := none, env := Env.empty } := by
  obtain ⟨config, hconfig⟩ :
    ∃ config, AppConfig.defaults .linux ⟨some "/home/user".toList, none⟩ = .ok config := ⟨_, rfl⟩
  let state : Channels.AppState := ⟨config, "/home/user".toList, "user".toList⟩
  have hr := run_shellBeside state
  obtain ⟨hiff, hchannels⟩ := connection_survives_iff requestJson_lawful responseJson_lawful
    hr (by decide)
  have hlive : Live (shellBeside state).server 0 := nofun
  refine ⟨config, shellBeside state, hconfig, hr, hiff.mp hlive, ?_⟩
  rw [hchannels hlive]
  rfl

/-- **A second shell on an open channel**, or a forward with the port 65536, ends the session: the
other channel of the client is gone. -/
theorem second_shell_ends_session :
    ∃ config v v' w, AppConfig.defaults .linux ⟨some "/home/user".toList, none⟩ = .ok config ∧
      ConnectionRun ⟨config, "/home/user".toList, "user".toList⟩ requestJson responseJson shellHello
        0 shellBesideEvents v ∧
      Live v.server 0 ∧ (1 : ChannelId) ∈ v.channels 0 ∧
      StayingStep ⟨config, "/home/user".toList, "user".toList⟩ requestJson responseJson 0 v
        (.channel 0 (.shellRequest 0 (.ok ()))) v' ∧
      ¬ Live v'.server 0 ∧ (1 : ChannelId) ∉ v'.channels 0 ∧
      StayingStep ⟨config, "/home/user".toList, "user".toList⟩ requestJson responseJson 0 v
        (.server ⟨.tcpipForward 0 "localhost".toList 65536, none⟩) w ∧
      ¬ Live w.server 0 ∧ (1 : ChannelId) ∉ w.channels 0 := by
  obtain ⟨config, hconfig, hallow⟩ := defaults_allow
  let state : Channels.AppState := ⟨config, "/home/user".toList, "user".toList⟩
  have hforward : tcpipForward config 0 ((shellBeside state).server.sessions 0).remoteForwards
      "localhost".toList 65536 = .error ⟨"invalid tcpip-forward port",
        ["out of range integral type conversion attempted"]⟩ := by
    unfold tcpipForward
    rw [hallow]
    rfl
  refine ⟨config, shellBeside state, (shellBeside state).close 0, _, hconfig, run_shellBeside state,
    nofun, ?_, ⟨.channelFails rfl rfl, connected_new, nofun⟩, not_live_drop, ?_,
    ⟨.server (.invalid rfl hforward), connected_new, nofun⟩, not_live_drop, ?_⟩
  · exact AList.lookup_isSome.mp rfl
  · exact AList.lookup_eq_none.mp rfl
  · exact AList.lookup_eq_none.mp rfl

end Narrowd.Sshd.Forwarding
