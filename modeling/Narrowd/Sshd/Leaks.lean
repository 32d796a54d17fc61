import Narrowd.Lib.Ownership
import Narrowd.Executor.Cancellation
import Narrowd.Sshd.Forwards

set_option autoImplicit false

/-! # Remote forwards do not leak

Three tables know the forwards: each session's own, the daemon's registrations and the executor's
listeners. A session's forward is entered there under the port that was bound, which is not the
port it was looked up under when the request came in.

As long as the control channel is up and no two listeners share a port, the tokens that the sessions
hold, together with those that dropped handlers have left behind, are the registered ones, and each
has one owner (`Ownership.Inv`). With what `listening_of_registered` and `registered_of_listening`
say about the executor, the three tables agree whenever nothing is under way
(`forwards_do_not_leak`).
-/

namespace Narrowd.Sshd.Forwarding

open Lib Executor Narrowd.Config Function

/-! ## What is assumed of the surroundings -/

/-- The control channel is up: both its ends are at work, a request to cancel a forward is sent, and
whoever asks for a forward or cancels one waits for the answer. -/
structure Up (s : System) : Prop where
  reader : s.client.reader = .running
  running : s.process.running = true
  sends : ∀ c i err token, s.client.calls c = .sendFailed i err → i.op ≠ .cancelRemoteForward token
  waits : ∀ c i, s.client.calls c = .abandoned i → isForwarding i.op = false

/-- What the sessions themselves need of the control channel: the daemon reads from it, and a
request to cancel a forward is sent. -/
structure Connected (s : System) : Prop where
  reader : s.client.reader = .running
  sends : ∀ c i err token, s.client.calls c = .sendFailed i err → i.op ≠ .cancelRemoteForward token

variable {s : System}

theorem Up.connected (hup : Up s) : Connected s := ⟨hup.reader, hup.sends⟩

/-- No accept loop has ended, and no port is bound twice on one address. -/
structure Healthy (listeners : Table UInt64 Listener) : Prop where
  accepting : ∀ token listener, listeners.lookup token = some listener → listener.accepting = true
  apart : ∀ token token' listener listener', listeners.lookup token = some listener →
    listeners.lookup token' = some listener' → listener.bindAddress = listener'.bindAddress →
    listener.boundPort = listener'.boundPort → token = token'

structure Steady (v : Server) : Prop where
  up : Up v.system
  healthy : Healthy v.system.process.state.remoteForwards

/-- The runs all of whose states are steady. -/
abbrev SteadyRun (config : AppConfig) (requests : SerdeJson ExecutorRequest)
    (responses : SerdeJson ExecutorResponse) (hello : ExecutorHello) :
    List ServerEvent → Server → Prop :=
  Run (· = Server.new hello)
    (fun v e v' => ServerStep config requests responses v e v' ∧ Steady v')

/-- The runs all of whose states have the control channel. -/
abbrev ConnectedRun (config : AppConfig) (requests : SerdeJson ExecutorRequest)
    (responses : SerdeJson ExecutorResponse) (hello : ExecutorHello) :
    List ServerEvent → Server → Prop :=
  Run (· = Server.new hello)
    (fun v e v' => ServerStep config requests responses v e v' ∧ Connected v'.system)

/-- Whether a request is under way. -/
def underWay : Call → Bool
  | .idle => false
  | .refused _ _ => false
  | .abandoned _ => false
  | .returned _ _ => false
  | _ => true

/-- No request and no task of a dropped handler is under way. -/
structure Quiet (v : Server) : Prop where
  calls : ∀ c, underWay (v.system.client.calls c) = false
  tasks : v.tasks = []

variable {v v' : Server} {n m : SessionId} {c c' : CallId} {token : UInt64} {h : List ServerEvent}
  {s' : System} {i : Issued} {e : SystemEvent} {session : Session} {address : Text}
  {result : Except CallError Reply} {activity : Activity} {sessions : SessionId → Session}
  {key : ForwardKey} {client : Client} {E : SessionId × ForwardKey → UInt64 → Prop} {op : Operation}

section

variable {config : AppConfig} {requests : SerdeJson ExecutorRequest}
  {responses : SerdeJson ExecutorResponse} {hello : ExecutorHello}

theorem steady_new : Steady (Server.new hello) := by
  refine ⟨⟨rfl, rfl, ?_, ?_⟩, ?_, ?_⟩
  · exact fun _ _ _ _ h => nomatch h
  · exact fun _ _ h => nomatch h
  · exact fun _ _ h => nomatch h
  · exact fun _ _ _ _ h => nomatch h

theorem SteadyRun.steady (hr : SteadyRun config requests responses hello h v) : Steady v := by
  cases hr with
  | nil heq => exact heq ▸ steady_new
  | cons _ hs => exact hs.2

theorem SteadyRun.connectedRun (hr : SteadyRun config requests responses hello h v) :
    ConnectedRun config requests responses hello h v :=
  hr.mono (fun _ h0 => h0) fun _ _ _ hs => ⟨hs.1, hs.2.up.connected⟩

theorem ConnectedRun.connected (hr : ConnectedRun config requests responses hello h v) :
    Connected v.system := by
  cases hr with
  | nil heq =>
      have hsteady : Steady (Server.new hello) := steady_new
      exact heq ▸ hsteady.up.connected
  | cons _ hs => exact hs.2

theorem ConnectedRun.serverRun (hr : ConnectedRun config requests responses hello h v) :
    ServerRun config requests responses hello h v :=
  hr.mono (fun _ h0 => h0) fun _ _ _ hs => hs.1

theorem SteadyRun.serverRun (hr : SteadyRun config requests responses hello h v) :
    ServerRun config requests responses hello h v := by
  induction hr with
  | nil heq => exact .nil heq
  | cons _ hs ih => exact ih.cons hs.1

/-! ## What the sessions know -/

/-- What a session waits for is the call it has made, and what it holds was returned to it. -/
structure Session.Sound (config : AppConfig) (client : Client) (n : SessionId)
    (session : Session) : Prop where
  forwarding : ∀ c address, session.activity = .forwarding c address →
    ∃ port, (client.calls c).op? = some (.startRemoteForward n (connectedAddress config address)
      (bindHost config address) port)
  cancelling : ∀ c, session.activity = .cancelling c →
    ∃ token, (client.calls c).op? = some (.cancelRemoteForward token)
  entered : ∀ address port handle,
    session.remoteForwards.lookup ⟨address, port⟩ = some handle →
    ∃ c i requested, client.calls c = .returned i (.ok (.started handle.token port)) ∧
      i.op = .startRemoteForward n (connectedAddress config address) (bindHost config address)
        requested
  ended : session.activity = .ended → session.remoteForwards = ∅

theorem Session.Sound.step (ho : session.Sound config s.client n)
    (hs : SystemStep requests responses s e s') : session.Sound config s'.client n := by
  cases hs with
  | process => exact ho
  | client hs =>
      refine ⟨fun c address hact => ?_, fun c hact => ?_, fun address port handle hlookup => ?_,
        ho.ended⟩
      · obtain ⟨port, hop⟩ := ho.forwarding c address hact
        exact ⟨port, hs.op?_of_op? hop⟩
      · obtain ⟨token, hop⟩ := ho.cancelling c hact
        exact ⟨token, hs.op?_of_op? hop⟩
      · obtain ⟨c, i, requested, hc, hop⟩ := ho.entered address port handle hlookup
        exact ⟨c, i, requested, hs.returned_of_returned hc, hop⟩

theorem sound_ended : Session.Sound config client n ⟨∅, .ended⟩ :=
  ⟨nofun, nofun, nofun, fun _ => rfl⟩

/-- The session that enters a forward knows the call that has returned it. -/
theorem sound_returned (ho : session.Sound config client n)
    (hact : session.activity = .forwarding c address)
    (hresult : client.calls c = .returned i result) :
    Session.Sound config client n
      ⟨(forwardReturned address session.remoteForwards result).1, .idle⟩ := by
  refine ⟨nofun, nofun, ?_, nofun⟩
  intro address' port handle hlookup
  unfold forwardReturned at hlookup
  split at hlookup
  · next token boundPort =>
      simp only [Table.lookup_insert_ite] at hlookup
      split at hlookup
      · next hkey =>
          cases hkey
          cases hlookup
          obtain ⟨requested, hop⟩ := ho.forwarding c address hact
          rw [hresult] at hop
          exact ⟨c, i, requested, hresult, Option.some.inj hop⟩
      · exact ho.entered address' port handle hlookup
  · exact ho.entered address' port handle hlookup

theorem sound_update (hall : ∀ m, (sessions m).Sound config client m)
    (hn : session.Sound config client n) :
    ∀ m, (update sessions n session m).Sound config client m := by
  intro m
  by_cases hm : m = n
  · subst hm
    rw [update_self]
    exact hn
  · rw [update_of_ne hm]
    exact hall m

theorem ServerStep.sound {e : ServerEvent} (hs : ServerStep config requests responses v e v')
    (hall : ∀ n, (v.sessions n).Sound config v.system.client n) :
    ∀ n, (v'.sessions n).Sound config v'.system.client n := by
  cases hs with
  | system hs => exact fun n => (hall n).step hs
  | refuse => exact hall
  | invalid => exact sound_update hall sound_ended
  | @forward n address port c op s hidle hok hs =>
      have hafter := fun m => (hall m).step hs
      refine sound_update hafter ⟨?_, nofun, (hafter n).entered, nofun⟩
      intro c' address' hact
      cases hact
      obtain ⟨requested, -, rfl⟩ := tcpipForward_eq_some hok
      cases hs with
      | client hs => exact ⟨requested, hs.op?_of_begin⟩
  | @forwardReturns n address c e s i result hwaits he hs hresult =>
      have hafter := fun m => (hall m).step hs
      exact sound_update hafter (sound_returned (hafter n) hwaits hresult)
  | cancelUnknown => exact hall
  | @cancel n address port handle c s hidle hsome hs =>
      have hafter := fun m => (hall m).step hs
      refine sound_update hafter ⟨nofun, ?_, ?_, nofun⟩
      · intro c' hact
        cases hact
        cases hs with
        | client hs => exact ⟨_, hs.op?_of_begin⟩
      · intro address' port' handle' hlookup
        simp only [Table.lookup_erase_ite] at hlookup
        split at hlookup
        · cases hlookup
        · exact (hafter n).entered address' port' handle' hlookup
  | @cancelReturns n c e s i reply hwaits he hs hresult =>
      have hafter := fun m => (hall m).step hs
      exact sound_update hafter ⟨nofun, nofun, (hafter n).entered, nofun⟩
  | cancelFails _ _ hs => exact sound_update (fun m => (hall m).step hs) sound_ended
  | drop => exact sound_update hall sound_ended
  | dropWaiting _ hs => exact sound_update (fun m => (hall m).step hs) sound_ended
  | task _ hs => exact fun n => (hall n).step hs

theorem sound_of_run (hr : ServerRun config requests responses hello h v) :
    ∀ n, (v.sessions n).Sound config v.system.client n := by
  refine Run.invariant (P := fun _ v => ∀ n, (v.sessions n).Sound config v.system.client n) ?_ ?_ hr
  · rintro v rfl n
    exact ⟨nofun, nofun, nofun, nofun⟩
  · intro h v e v' _ hall hs
    exact hs.sound hall

/-- A call that starts a forward is waited for by a session, or has come to its end. -/
def Started (v : Server) : Prop :=
  ∀ c op, (v.system.client.calls c).op? = some op → op.drawsToken = true →
    (∃ n address, (v.sessions n).activity = .forwarding c address) ∨
      (∃ i result, v.system.client.calls c = .returned i result) ∨
      ∃ i, v.system.client.calls c = .abandoned i

/-- What becomes of the calls that start a forward, in a step of the system and whatever the
sessions do with it. -/
theorem Started.step (hst : Started v) (hs : SystemStep requests responses v.system e v'.system)
    (hbegun : ∀ c op, e = .client (.begin c op) → op.drawsToken = true →
      ∃ n address, (v'.sessions n).activity = .forwarding c address)
    (hkept : ∀ n c address, (v.sessions n).activity = .forwarding c address →
      (v'.sessions n).activity = .forwarding c address ∨
        (∃ i result, v'.system.client.calls c = .returned i result) ∨
        ∃ i, v'.system.client.calls c = .abandoned i) : Started v' := by
  intro c op hop hdraws
  have hbefore : (v.system.client.calls c).op? = some op ∨ e = .client (.begin c op) := by
    generalize hsys : v'.system = s' at hs hop
    cases hs with
    | process => exact Or.inl hop
    | client hs =>
        rcases hs.call_cases c with heq | hm
        · exact Or.inl (heq ▸ hop)
        · exact (hm.op? hop).imp_right (congrArg _)
  rcases hbefore with hold | hnew
  · rcases hst c op hold hdraws with ⟨n, address, hact⟩ | ⟨i, result, hreturned⟩ | ⟨i, habandoned⟩
    · rcases hkept n c address hact with hsame | hend
      · exact Or.inl ⟨n, address, hsame⟩
      · exact Or.inr hend
    · refine Or.inr (Or.inl ⟨i, result, ?_⟩)
      generalize hsys : v'.system = s' at hs ⊢
      cases hs with
      | process => exact hreturned
      | client hs => exact hs.returned_of_returned hreturned
    · refine Or.inr (Or.inr ⟨i, ?_⟩)
      generalize hsys : v'.system = s' at hs ⊢
      cases hs with
      | process => exact habandoned
      | client hs => exact hs.abandoned_of_abandoned habandoned
  · exact Or.inl (hbegun c op hnew hdraws)

theorem activity_update_of_ne (session : Session) (hne : m ≠ n)
    (hact : (sessions m).activity = activity) :
    (update sessions n session m).activity = activity := by
  rw [update_of_ne hne]
  exact hact

/-- A session that does not wait for a forward may go over to anything. -/
theorem forwarding_update (session : Session)
    (hn : ∀ c address, (sessions n).activity ≠ .forwarding c address)
    (hact : (sessions m).activity = .forwarding c address) :
    (update sessions n session m).activity = .forwarding c address := by
  have hne : m ≠ n := by
    rintro rfl
    exact hn c address hact
  exact activity_update_of_ne session hne hact

theorem not_forwarding_of_idle (h : session.activity = .idle) (c : CallId) (address : Text) :
    session.activity ≠ .forwarding c address := by
  rw [h]
  exact nofun

theorem not_forwarding_of_cancelling (h : session.activity = .cancelling c') (c : CallId)
    (address : Text) : session.activity ≠ .forwarding c address := by
  rw [h]
  exact nofun

theorem Started.drop (hst : Started v) (hidle : (v.sessions n).activity = .idle) :
    Started (v.drop n) := by
  intro c op hop hdraws
  rcases hst c op hop hdraws with ⟨m, address, hact⟩ | hend
  · exact Or.inl ⟨m, address, forwarding_update _ (not_forwarding_of_idle hidle) hact⟩
  · exact Or.inr hend

theorem ServerStep.started {e : ServerEvent} (hs : ServerStep config requests responses v e v')
    (hst : Started v) : Started v' := by
  cases hs with
  | system hs hfree =>
      refine hst.step hs ?_ (fun _ _ _ hact => Or.inl hact)
      rintro c op rfl hdraws
      have hnot : isForwarding op = false := hfree
      rw [isForwarding_of_drawsToken hdraws] at hnot
      cases hnot
  | refuse => exact hst
  | invalid h => exact hst.drop h
  | @forward n address port c op s h hok hs =>
      refine hst.step hs ?_ ?_
      · rintro c' op' heq -
        cases heq
        exact ⟨n, address, by simp [Server.setSession]⟩
      · intro m c' address' hact
        exact Or.inl (forwarding_update _ (not_forwarding_of_idle h) hact)
  | @forwardReturns n address c e s i result hwaits he hs hresult =>
      refine hst.step hs ?_ ?_
      · rintro c' op' heq -
        rcases he with rfl | rfl <;> cases heq
      · intro m c' address' hact
        by_cases hm : m = n
        · subst hm
          cases hwaits.symm.trans hact
          exact Or.inr (Or.inl ⟨i, result, hresult⟩)
        · exact Or.inl (activity_update_of_ne _ hm hact)
  | cancelUnknown => exact hst
  | @cancel n address port handle c s h hsome hs =>
      refine hst.step hs ?_ ?_
      · rintro c' op' heq hdraws
        cases heq
        cases hdraws
      · intro m c' address' hact
        exact Or.inl (forwarding_update _ (not_forwarding_of_idle h) hact)
  | @cancelReturns n c e s i reply hwaits he hs hresult =>
      refine hst.step hs ?_ ?_
      · rintro c' op' heq -
        rcases he with rfl | rfl <;> cases heq
      · intro m c' address' hact
        exact Or.inl (forwarding_update _ (not_forwarding_of_cancelling hwaits) hact)
  | @cancelFails n c e s i err hwaits he hs hresult =>
      refine hst.step hs ?_ ?_
      · rintro c' op' heq -
        rcases he with rfl | rfl <;> cases heq
      · intro m c' address' hact
        exact Or.inl (forwarding_update _ (not_forwarding_of_cancelling hwaits) hact)
  | drop h => exact hst.drop h
  | @dropWaiting n c s hwaits hs =>
      refine hst.step hs ?_ ?_
      · rintro c' op' heq -
        cases heq
      · intro m c' address' hact
        by_cases hm : m = n
        · subst hm
          rw [hact] at hwaits
          cases hwaits
          refine Or.inr (Or.inr ?_)
          cases hs with
          | client hs =>
              cases hs with
              | abandon => exact ⟨_, Client.setCall_calls_self ..⟩
        · exact Or.inl (activity_update_of_ne _ hm hact)
  | @task before after token c s htasks hs =>
      refine hst.step hs ?_
        (fun _ _ _ hact => Or.inl hact)
      rintro c' op' heq hdraws
      cases heq
      cases hdraws

theorem started_of_run (hr : ServerRun config requests responses hello h v) : Started v := by
  refine Run.invariant (P := fun _ v => Started v) ?_ ?_ hr
  · rintro v rfl c op hop
    cases hop
  · intro h v e v' _ hst hs
    exact hs.started hst

/-! ## Who owns a token -/

/-- The entries of the sessions hold the tokens, and the tasks of the dropped handlers have those
that are to be given up. -/
def Server.ownership (v : Server) : Ownership (SessionId × ForwardKey) UInt64 where
  held k := ((v.sessions k.1).remoteForwards.lookup k.2).map RemoteForwardHandle.token
  released := v.tasks
  registered := { token | token ∈ v.system.client.remoteForwards }

theorem held_eq_some :
    v.ownership.held (n, key) = some token ↔
      (v.sessions n).remoteForwards.lookup key = some ⟨token⟩ := by
  simp only [Server.ownership, Option.map_eq_some_iff]
  constructor
  · rintro ⟨⟨_⟩, hlookup, rfl⟩
    exact hlookup
  · exact fun hlookup => ⟨_, hlookup, rfl⟩

theorem ownership_eq (hmaps : ∀ n, (v'.sessions n).remoteForwards = (v.sessions n).remoteForwards)
    (htasks : v'.tasks = v.tasks)
    (hregistered : v'.system.client.remoteForwards = v.system.client.remoteForwards) :
    v'.ownership = v.ownership := by
  simp [Server.ownership, hmaps, htasks, hregistered]

/-- A session that goes on with the entries it has. -/
theorem remoteForwards_update (m : SessionId) :
    (update sessions n ⟨(sessions n).remoteForwards, activity⟩ m).remoteForwards =
      (sessions m).remoteForwards := by
  by_cases hm : m = n
  · subst hm
    rw [update_self]
  · rw [update_of_ne hm]

/-- **What a handler holds when it is dropped is left to its tasks.** -/
theorem ownership_drop (hexclusive : v.ownership.Exclusive) (n : SessionId) :
    Ownership.Move E v.ownership (v.drop n).ownership := by
  have hkeep : ∀ k : SessionId × ForwardKey, ¬ k.1 = n →
      (v.drop n).ownership.held k = v.ownership.held k := by
    intro k hk
    simp [Server.ownership, Server.drop, update_of_ne hk]
  have hgone : ∀ k : SessionId × ForwardKey, k.1 = n → (v.drop n).ownership.held k = none := by
    rintro ⟨m, key⟩ rfl
    simp [Server.ownership, Server.drop]
  have hmem : ∀ key handle, (⟨key, handle⟩ : Σ _ : ForwardKey, RemoteForwardHandle) ∈
      (v.sessions n).remoteForwards.entries ↔ v.ownership.held (n, key) = some handle.token := by
    intro key handle
    rw [held_eq_some, ← AList.mem_lookup_iff]
    rfl
  refine .leave hkeep hgone ?_ ?_
  · intro token
    rw [List.mem_map]
    constructor
    · rintro ⟨⟨key, handle⟩, hentry, rfl⟩
      exact ⟨(n, key), rfl, (hmem key handle).mp hentry⟩
    · rintro ⟨⟨m, key⟩, rfl, hheld⟩
      exact ⟨⟨key, ⟨token⟩⟩, (hmem key ⟨token⟩).mpr hheld, rfl⟩
  · -- two entries of a session have two tokens
    refine List.Nodup.map_on ?_ (v.sessions n).remoteForwards.nodupKeys.nodup
    rintro ⟨key, ⟨token⟩⟩ hentry ⟨key', ⟨token'⟩⟩ hentry' hsame
    cases hsame
    cases hexclusive.holder _ _ _ ((hmem key _).mp hentry) ((hmem key' _).mp hentry')
    rfl

/-- The tokens of two calls that have returned the same port, on the same address, are one. -/
theorem same_forward (hreq : requests.Lawful) (hresp : responses.Lawful) {h : List SystemEvent}
    (hr : OrderlyRun requests responses hello h s) (hfew : drawn h < 2 ^ 64)
    (hhealthy : Healthy s.process.state.remoteForwards) {i' : Issued} {token' : UInt64}
    {port : UInt32} {handle handle' : Nat} {connected connected' bind : Text}
    {requested requested' : UInt16}
    (hc : s.client.calls c = .returned i (.ok (.started token port)))
    (hc' : s.client.calls c' = .returned i' (.ok (.started token' port)))
    (hop : i.op = .startRemoteForward handle connected bind requested)
    (hop' : i'.op = .startRemoteForward handle' connected' bind requested')
    (hin : token ∈ s.client.remoteForwards) (hin' : token' ∈ s.client.remoteForwards) : c = c' := by
  have hrun := hr.of_restrict
  have hi := isolated_of_run hreq hresp hrun
  -- the listener of a registered forward is the one that its call was told of
  have hlistener : ∀ {c : CallId} {i : Issued} {token : UInt64} {handle : Nat} {connected : Text}
      {requested : UInt16}, s.client.calls c = .returned i (.ok (.started token port)) →
      i.op = .startRemoteForward handle connected bind requested →
      token ∈ s.client.remoteForwards →
      i.token = token ∧ ∃ listener, s.process.state.remoteForwards.lookup token = some listener ∧
        listener.bindAddress = bind ∧ listener.boundPort.toUInt32 = port := by
    intro c i token handle connected requested hc hop hin
    obtain ⟨response, -, hfinish⟩ := hi.answered.returned c i _ hc
    obtain ⟨hdraws, rfl, -⟩ := Issued.finish_eq_started hfinish
    obtain ⟨listener, c₁, i₁, hlookup, hb, hreturned⟩ :=
      listening_of_registered hreq hresp hr hfew hin
    have hsame : c₁ = c := token_unique hrun hfew hb.issued (by rw [hc]; rfl) hb.drawsToken hdraws
      hb.token
    subst hsame
    cases hc.symm.trans hreturned
    obtain ⟨handle₁, connected₁, requested₁, hop₁⟩ := hb.op
    obtain ⟨-, -, hbind, -⟩ := Operation.startRemoteForward.inj (hop₁.symm.trans hop)
    exact ⟨rfl, listener, hlookup, hbind, rfl⟩
  obtain ⟨htoken, listener, hlookup, haddress, hport⟩ := hlistener hc hop hin
  obtain ⟨htoken', listener', hlookup', haddress', hport'⟩ := hlistener hc' hop' hin'
  have hbound : listener.boundPort = listener'.boundPort := by
    apply UInt16.toNat_inj.mp
    rw [← UInt16.toNat_toUInt32, ← UInt16.toNat_toUInt32, hport, hport']
  have hsame := hhealthy.apart _ _ _ _ hlookup hlookup' (haddress.trans haddress'.symm) hbound
  exact token_unique hrun hfew (by rw [hc]; rfl) (by rw [hc']; rfl) (by rw [hop]; rfl)
    (by rw [hop']; rfl) (htoken.trans (hsame.trans htoken'.symm))

/-- What the daemon does without the sessions leaves the registrations alone. -/
theorem remoteForwards_of_free (hst : Started v) (hs : SystemStep requests responses v.system e s)
    (hfree : v.Free e) : s.client.remoteForwards = v.system.client.remoteForwards := by
  cases hs with
  | process => rfl
  | client hs =>
      rcases hs.remoteForwards_cases with heq | ⟨c, token, rfl, -⟩ |
        ⟨c, i, handle, connected, bind, port, bound, rfl, hawaiting, hop, -, -⟩
      · exact heq
      · cases hfree
      · have hawaiting' : v.system.client.calls c = .awaiting i := hawaiting
        have hdraws : i.op.drawsToken = true := by rw [hop]; rfl
        rcases hst c i.op (by rw [hawaiting']; rfl) hdraws with
          ⟨n, address, hact⟩ | ⟨j, result, hreturned⟩ | ⟨j, habandoned⟩
        · exact absurd (by rw [hact]; rfl) (hfree n)
        · rw [hawaiting'] at hreturned
          cases hreturned
        · rw [hawaiting'] at habandoned
          cases habandoned

/-- A call that cancels a forward registers none. -/
theorem remoteForwards_of_cancelling {e : ClientEvent}
    (hsound : (v.sessions n).Sound config v.system.client n)
    (hwaits : (v.sessions n).activity = .cancelling c) (he : e = .finish c ∨ e = .cleanUp c)
    (hs : SystemStep requests responses v.system (.client e) s)
    (hresult : s.client.calls c = .returned i result) :
    s.client.remoteForwards = v.system.client.remoteForwards := by
  obtain ⟨token, hop⟩ := hsound.cancelling c hwaits
  cases hs with
  | client hs =>
      rcases hs.return_registers he hresult with
        ⟨handle, connected, bind, port, bound, hawaiting, hstart, -⟩ | ⟨heq, -⟩
      · have hawaiting' : v.system.client.calls c = .awaiting i := hawaiting
        rw [hawaiting'] at hop
        cases hstart.symm.trans (Option.some.inj hop)
      · exact heq

/-- A session that changes one of its entries. -/
theorem held_setSession {forwards : SessionForwards} {handle : Option RemoteForwardHandle}
    (hkey : forwards.lookup key = handle)
    (hothers : ∀ key' ≠ key, forwards.lookup key' = (v.sessions n).remoteForwards.lookup key') :
    ({ v with system := s }.setSession n ⟨forwards, activity⟩).ownership.held =
      update v.ownership.held (n, key) (handle.map RemoteForwardHandle.token) := by
  funext k
  obtain ⟨m, key'⟩ := k
  by_cases hm : m = n
  · subst hm
    by_cases heq : key' = key
    · subst heq
      simp [Server.ownership, Server.setSession, hkey]
    · have hne : (m, key') ≠ (m, key) := fun h => heq (Prod.mk.inj h).2
      rw [update_of_ne hne]
      simp [Server.ownership, Server.setSession, hothers key' heq]
  · have hne : (m, key') ≠ (n, key) := fun h => hm (Prod.mk.inj h).1
    rw [update_of_ne hne]
    simp [Server.ownership, Server.setSession, hm]

theorem ownership_insert {registration : RemoteForwardRegistration}
    (hregistered : s.client.remoteForwards =
      v.system.client.remoteForwards.insert token registration) :
    ({ v with system := s }.setSession n
      ⟨(v.sessions n).remoteForwards.insert key ⟨token⟩, activity⟩).ownership =
      ⟨update v.ownership.held (n, key) (some token), v.ownership.released,
        insert token v.ownership.registered⟩ := by
  ext1
  · exact held_setSession (AList.lookup_insert _) (fun _ hne => AList.lookup_insert_ne hne)
  · rfl
  · ext token'
    simp [Server.ownership, Server.setSession, hregistered, AList.mem_insert]

theorem ownership_erase
    (hregistered : s.client.remoteForwards = v.system.client.remoteForwards.erase token) :
    ({ v with system := s }.setSession n
      ⟨(v.sessions n).remoteForwards.erase key, activity⟩).ownership =
      ⟨update v.ownership.held (n, key) none, v.ownership.released,
        v.ownership.registered \ {token}⟩ := by
  ext1
  · exact held_setSession (AList.lookup_erase _ _) (fun _ hne => AList.lookup_erase_ne hne)
  · rfl
  · ext token'
    simp [Server.ownership, Server.setSession, hregistered, AList.mem_erase, and_comm]

/-- Whoever begins to cancel a forward takes out its registration. -/
theorem remoteForwards_of_cancel
    (hs : SystemStep requests responses s (.client (.begin c (.cancelRemoteForward token))) s') :
    s'.client.remoteForwards = s.client.remoteForwards.erase token := by
  cases hs with
  | client hs =>
      cases hs with
      | openChannel _ hop => cases hop
      | openChannelFails _ hop => cases hop
      | cancel => rfl

/-- Whoever begins to start a forward leaves the registrations alone. -/
theorem remoteForwards_of_start (hop : op.drawsToken = true)
    (hs : SystemStep requests responses s (.client (.begin c op)) s') :
    s'.client.remoteForwards = s.client.remoteForwards := by
  cases hs with
  | client hs =>
      cases hs with
      | openChannel => rfl
      | openChannelFails => rfl
      | forward => rfl
      | cancel => cases hop

/-- A forward that returns is entered and registered together, or not at all. -/
theorem ownership_forwardReturns {e : ClientEvent} (he : e = .finish c ∨ e = .cleanUp c)
    (hs : SystemStep requests responses v.system (.client e) s)
    (hresult : s.client.calls c = .returned i result)
    (hnew : ∀ bound, v.system.client.calls c = .awaiting i →
      s.client.calls c = .returned i (.ok (.started i.token bound)) →
      i.token ∈ s.client.remoteForwards →
      (∀ token, token ∈ v.system.client.remoteForwards → token ∈ s.client.remoteForwards) →
      E (n, ⟨address, bound⟩) i.token ∧ i.token ∉ v.system.client.remoteForwards) :
    Ownership.Move E v.ownership ({ v with system := s }.setSession n
      ⟨(forwardReturned address (v.sessions n).remoteForwards result).1, .idle⟩).ownership := by
  cases hs with
  | @client _ d hs =>
      rcases hs.return_registers he hresult with
        ⟨handle, connected, bind, port, bound, hawaiting, hop, rfl, hregistered⟩ |
        ⟨hregistered, hnot⟩
      · have hmem : ∀ token, token ∈ d.client.remoteForwards ↔
            token = i.token ∨ token ∈ v.system.client.remoteForwards := by
          intro token
          rw [hregistered]
          exact AList.mem_insert _
        obtain ⟨hkey, htoken⟩ := hnew bound hawaiting hresult
          ((hmem _).mpr (Or.inl rfl)) (fun token hin => (hmem token).mpr (Or.inr hin))
        rw [show (forwardReturned address (v.sessions n).remoteForwards
          (.ok (.started i.token bound))).1 =
            (v.sessions n).remoteForwards.insert ⟨address, bound⟩ ⟨i.token⟩ from rfl,
          ownership_insert hregistered]
        exact .enter hkey htoken
      · have hsame : (forwardReturned address (v.sessions n).remoteForwards result).1 =
            (v.sessions n).remoteForwards := by
          unfold forwardReturned
          split
          · next token bound => exact absurd rfl (hnot token bound)
          · rfl
        have heq : (Server.setSession { v with
            system := { v.system with client := d.client, link := d.link } } n
            ⟨(v.sessions n).remoteForwards, .idle⟩).ownership = v.ownership :=
          ownership_eq remoteForwards_update rfl hregistered
        rw [hsame, heq]
        exact .idle

/-- Whoever stops waiting for a call leaves the registrations alone. -/
theorem remoteForwards_of_abandon (hs : SystemStep requests responses s (.client (.abandon c)) s') :
    s'.client.remoteForwards = s.client.remoteForwards := by
  cases hs with
  | client hs =>
      cases hs with
      | abandon => rfl

/-- **The server works on the tokens only through the operations of owners.** What a session enters
must be new to the registrations. -/
theorem ServerStep.ownership {e : ServerEvent} (hs : ServerStep config requests responses v e v')
    (hexclusive : v.ownership.Exclusive)
    (hsound : ∀ n, (v.sessions n).Sound config v.system.client n) (hst : Started v)
    (hnew : ∀ n c address i bound, (v.sessions n).activity = .forwarding c address →
      v.system.client.calls c = .awaiting i →
      v'.system.client.calls c = .returned i (.ok (.started i.token bound)) →
      i.token ∈ v'.system.client.remoteForwards →
      (∀ token, token ∈ v.system.client.remoteForwards → token ∈ v'.system.client.remoteForwards) →
      E (n, ⟨address, bound⟩) i.token ∧ i.token ∉ v.system.client.remoteForwards) :
    Ownership.Move E v.ownership v'.ownership := by
  have hkeep : ∀ {v' : Server}, v'.ownership = v.ownership →
      Ownership.Move E v.ownership v'.ownership := by
    intro v' heq
    rw [heq]
    exact .idle
  have hdrop : ∀ {s : System} (n : SessionId),
      s.client.remoteForwards = v.system.client.remoteForwards →
      Ownership.Move E v.ownership ({ v with system := s }.drop n).ownership := by
    intro s n hregistered
    have heq : ({ v with system := s } : Server).ownership = v.ownership :=
      ownership_eq (fun _ => rfl) rfl hregistered
    rw [← heq]
    exact ownership_drop (heq ▸ hexclusive) n
  cases hs with
  | system hs hfree =>
      exact hkeep (ownership_eq (fun _ => rfl) rfl (remoteForwards_of_free hst hs hfree))
  | refuse => exact .idle
  | invalid => exact ownership_drop hexclusive _
  | @forward n address port c op s hidle hok hs =>
      obtain ⟨requested, -, rfl⟩ := tcpipForward_eq_some hok
      exact hkeep (ownership_eq remoteForwards_update rfl (remoteForwards_of_start rfl hs))
  | @forwardReturns n address c e s i result hwaits he hs hresult =>
      exact ownership_forwardReturns he hs hresult (hnew n c address i · hwaits)
  | cancelUnknown => exact .idle
  | @cancel n address port handle c s hidle hsome hs =>
      rw [ownership_erase (remoteForwards_of_cancel hs)]
      exact .giveUp (held_eq_some.mpr hsome)
  | @cancelReturns n c e s i reply hwaits he hs hresult =>
      exact hkeep (ownership_eq remoteForwards_update rfl
        (remoteForwards_of_cancelling (hsound n) hwaits he hs hresult))
  | @cancelFails n c e s i err hwaits he hs hresult =>
      exact hdrop n (remoteForwards_of_cancelling (hsound n) hwaits he hs hresult)
  | drop => exact ownership_drop hexclusive _
  | @dropWaiting n c s hwaits hs => exact hdrop n (remoteForwards_of_abandon hs)
  | @task before after token c s htasks hs =>
      have heq : ({ v with system := s, tasks := before ++ after } : Server).ownership =
          ⟨v.ownership.held, before ++ after, v.ownership.registered \ {token}⟩ := by
        ext1
        · rfl
        · rfl
        · ext token'
          simp [Server.ownership, remoteForwards_of_cancel hs, AList.mem_erase, and_comm]
      rw [heq]
      exact .finish htasks

/-- Only forwards that somebody owns are cancelled. -/
theorem ServerStep.orderly {e : ServerEvent} (hs : ServerStep config requests responses v e v')
    (hexclusive : v.ownership.Exclusive) (hconnected : Connected v.system) {e' : SystemEvent}
    (he : e.system = some e') : Orderly v.system e' := by
  have hcleans : ∀ c, Orderly v.system (.client (.cleanUp c)) :=
    fun c i err token hfailed => hconnected.sends c i err token hfailed
  have hreturns : ∀ {c : CallId} {e : ClientEvent}, e = .finish c ∨ e = .cleanUp c →
      Orderly v.system (.client e) := by
    rintro c e (rfl | rfl)
    · trivial
    · exact hcleans c
  cases hs with
  | @system _ s hs hfree =>
      cases he
      cases e' with
      | process => trivial
      | client e =>
          cases e with
          | begin c op =>
              cases op with
              | cancelRemoteForward => cases hfree
              | _ => trivial
          | cleanUp c => exact hcleans c
          | _ => trivial
  | @forward n address port c op s hidle hok hs =>
      cases he
      obtain ⟨requested, -, rfl⟩ := tcpipForward_eq_some hok
      trivial
  | forwardReturns _ hreturned =>
      cases he
      exact hreturns hreturned
  | cancelReturns _ hreturned =>
      cases he
      exact hreturns hreturned
  | cancelFails _ hreturned =>
      cases he
      exact hreturns hreturned
  | @cancel n address port handle c s hidle hsome hs =>
      cases he
      exact hexclusive.registered handle.token
        (Or.inl ⟨(n, ⟨address, port⟩), held_eq_some.mpr hsome⟩)
  | @task before after token c s htasks hs =>
      cases he
      refine hexclusive.registered token (Or.inr ?_)
      show token ∈ v.tasks
      rw [htasks]
      simp
  | dropWaiting =>
      cases he
      trivial
  | _ => cases he

/-! ## Along a run -/

/-- The token of a forward that is being started is not registered. -/
theorem token_new (hreq : requests.Lawful) (hresp : responses.Lawful) {h : List SystemEvent}
    (hr : SystemRun requests responses hello h v.system) (hfew : drawn h < 2 ^ 64)
    (hsound : ∀ n, (v.sessions n).Sound config v.system.client n)
    (hwaits : (v.sessions n).activity = .forwarding c address)
    (hbefore : v.system.client.calls c = .awaiting i) :
    i.token ∉ v.system.client.remoteForwards := by
  intro hregistered
  obtain ⟨requested, hop⟩ := (hsound n).forwarding c address hwaits
  rw [hbefore] at hop
  have hdraws : i.op.drawsToken = true := by
    rw [show i.op = _ from Option.some.inj hop]
    rfl
  obtain ⟨registration, hlookup⟩ := Table.exists_lookup_of_mem hregistered
  obtain ⟨c', i', bind, port, hc', hop', htoken⟩ :=
    (forwarded_of_run hreq hresp hr).registrations.current _ _ hlookup
  have hsame : c' = c := token_unique hr hfew (by rw [hc']; rfl) (by rw [hbefore]; rfl)
    (by rw [hop']; rfl) hdraws htoken
  rw [hsame, hbefore] at hc'
  cases hc'

/-- The key under which a session enters a forward is new: it could be taken only by a forward with
the same listener. -/
theorem key_new (hreq : requests.Lawful) (hresp : responses.Lawful) {h' : List SystemEvent}
    (hr' : OrderlyRun requests responses hello h' v'.system) (hfew' : drawn h' < 2 ^ 64)
    (hexclusive : v.ownership.Exclusive)
    (hsound : ∀ n, (v.sessions n).Sound config v.system.client n)
    (hhealthy : Healthy v'.system.process.state.remoteForwards)
    (hkept : ∀ c i result, v.system.client.calls c = .returned i result →
      v'.system.client.calls c = .returned i result) {bound : UInt32}
    (hwaits : (v.sessions n).activity = .forwarding c address)
    (hbefore : v.system.client.calls c = .awaiting i)
    (hafter : v'.system.client.calls c = .returned i (.ok (.started i.token bound)))
    (hin : i.token ∈ v'.system.client.remoteForwards)
    (hmore : ∀ token, token ∈ v.system.client.remoteForwards →
      token ∈ v'.system.client.remoteForwards) : v.ownership.held (n, ⟨address, bound⟩) = none := by
  obtain ⟨requested, hop⟩ := (hsound n).forwarding c address hwaits
  rw [hbefore] at hop
  have hstart : i.op = .startRemoteForward n (connectedAddress config address)
      (bindHost config address) requested := Option.some.inj hop
  cases hheld : v.ownership.held (n, ⟨address, bound⟩) with
  | none => rfl
  | some token =>
      have hlookup := held_eq_some.mp hheld
      obtain ⟨c', i', requested', hc', hop'⟩ := (hsound n).entered address bound _ hlookup
      have hregistered : token ∈ v.system.client.remoteForwards :=
        hexclusive.registered token (Or.inl ⟨_, hheld⟩)
      have hsame := same_forward hreq hresp hr' hfew' hhealthy (hkept _ _ _ hc') hafter hop' hstart
        (hmore _ hregistered) hin
      rw [hsame, hbefore] at hc'
      cases hc'

theorem systemEvents_cons (e : ServerEvent) (h : List ServerEvent) :
    drawn (systemEvents h) ≤ drawn (systemEvents (e :: h)) := by
  cases hsys : e.system with
  | none =>
      rw [systemEvents, systemEvents, List.filterMap_cons_none hsys]
  | some e' =>
      rw [systemEvents, systemEvents, List.filterMap_cons_some hsys]
      exact drawn_le_cons _ _

/-- A call that has returned stays so. -/
theorem ServerStep.returned_of_returned {e : ServerEvent}
    (hs : ServerStep config requests responses v e v')
    (hc : v.system.client.calls c = .returned i result) :
    v'.system.client.calls c = .returned i result := by
  rcases hs.system_cases with ⟨-, heq⟩ | ⟨e', -, hsys⟩
  · rw [heq]
    exact hc
  · generalize v'.system = s' at hsys
    cases hsys with
    | process => exact hc
    | client hs => exact hs.returned_of_returned hc

/-- **No token has two owners**, and only forwards that somebody owns are cancelled. -/
theorem exclusive_of_run (hreq : requests.Lawful) (hresp : responses.Lawful)
    (hr : ConnectedRun config requests responses hello h v)
    (hfew : drawn (systemEvents h) < 2 ^ 64) :
    OrderlyRun requests responses hello (systemEvents h) v.system ∧ v.ownership.Exclusive := by
  refine Run.invariant (P := fun h v => drawn (systemEvents h) < 2 ^ 64 →
    OrderlyRun requests responses hello (systemEvents h) v.system ∧ v.ownership.Exclusive)
    ?_ ?_ hr hfew
  · rintro v rfl _
    refine ⟨.nil rfl, ?_, nofun, nofun, List.nodup_nil⟩
    rintro token (⟨k, hk⟩ | hk)
    · cases hk
    · cases hk
  · rintro h v e v' hr ih ⟨hs, -⟩ hfew'
    have hfew := Nat.lt_of_le_of_lt (systemEvents_cons e h) hfew'
    obtain ⟨horderly, hexclusive⟩ := ih hfew
    have hsound := sound_of_run (ConnectedRun.serverRun hr)
    have hst := started_of_run (ConnectedRun.serverRun hr)
    have hmove : Ownership.Move (fun _ _ => True) v.ownership v'.ownership := by
      refine hs.ownership hexclusive hsound hst fun n c address i bound hwaits hbefore _ _ _ => ?_
      exact ⟨trivial, token_new hreq hresp horderly.of_restrict hfew hsound hwaits hbefore⟩
    refine ⟨?_, hexclusive.move hmove⟩
    rcases hs.system_cases with ⟨hnone, heq⟩ | ⟨e', hsome, hsys⟩
    · rw [systemEvents, List.filterMap_cons_none hnone, heq]
      exact horderly
    · rw [systemEvents, List.filterMap_cons_some hsome]
      exact horderly.cons ⟨hsys, hs.orderly hexclusive (ConnectedRun.connected hr) hsome⟩

/-- **Every token that is registered has one owner.** -/
theorem owned_of_run (hreq : requests.Lawful) (hresp : responses.Lawful)
    (hr : SteadyRun config requests responses hello h v) (hfew : drawn (systemEvents h) < 2 ^ 64) :
    OrderlyRun requests responses hello (systemEvents h) v.system ∧ v.ownership.Inv := by
  refine ⟨(exclusive_of_run hreq hresp (SteadyRun.connectedRun hr) hfew).1, ?_⟩
  refine Run.invariant (P := fun h v => drawn (systemEvents h) < 2 ^ 64 → v.ownership.Inv)
    ?_ ?_ hr hfew
  · rintro v rfl _
    refine ⟨fun token => ⟨nofun, ?_⟩, nofun, nofun, List.nodup_nil⟩
    rintro (⟨k, hk⟩ | hk)
    · cases hk
    · cases hk
  · rintro h v e v' hr ih hs hfew'
    have hfew := Nat.lt_of_le_of_lt (systemEvents_cons e h) hfew'
    have hinv := ih hfew
    have hsound := sound_of_run (SteadyRun.serverRun hr)
    have hst := started_of_run (SteadyRun.serverRun hr)
    have horderly := (exclusive_of_run hreq hresp (SteadyRun.connectedRun hr) hfew).1
    have horderly' := (exclusive_of_run hreq hresp (SteadyRun.connectedRun (hr.cons hs)) hfew').1
    refine hinv.move (hs.1.ownership hinv.exclusive hsound hst ?_)
    intro n c address i bound hwaits hbefore hafter hin hmore
    refine ⟨?_, token_new hreq hresp horderly.of_restrict hfew hsound hwaits hbefore⟩
    exact key_new hreq hresp horderly' hfew' hinv.exclusive hsound hs.2.healthy
      (fun _ _ _ => hs.1.returned_of_returned) hwaits hbefore hafter hin hmore

/-- The tokens that the live sessions hold. -/
def liveTokens (v : Server) : Set UInt64 :=
  { token | ∃ n key, (v.sessions n).activity ≠ .ended ∧
    (v.sessions n).remoteForwards.lookup key = some ⟨token⟩ }

/-- When nothing is under way, the calls of the sessions have returned. -/
theorem Quiet.returned {h : List SystemEvent} (hq : Quiet v) (hup : Up v.system)
    (hr : SystemRun requests responses hello h v.system)
    (hop : (v.system.client.calls c).op? = some op) (hforwards : isForwarding op = true) :
    ∃ i result, v.system.client.calls c = .returned i result := by
  have hquiet := hq.calls c
  cases hcall : v.system.client.calls c with
  | returned i result => exact ⟨i, result, rfl⟩
  | abandoned i =>
      rw [hcall] at hop
      cases hop
      have hother := hup.waits c i hcall
      rw [hforwards] at hother
      cases hother
  | refused op' err =>
      have hopens := opensChannel_of_refused hr c op' err hcall
      rw [hcall] at hop
      cases hop
      cases op with
      | startRemoteForward => cases hopens
      | cancelRemoteForward => cases hopens
      | _ => cases hforwards
  | idle =>
      rw [hcall] at hop
      cases hop
  | _ =>
      rw [hcall] at hquiet
      cases hquiet

/-- **Remote forwards do not leak.** In a run whose states are all steady, with fewer than `2 ^ 64`
requests to the executor, the three tables have the same tokens whenever nothing is under way, a
session has no token under two keys, and every listener belongs to exactly one live session. -/
theorem forwards_do_not_leak (hreq : requests.Lawful) (hresp : responses.Lawful)
    {h : List ServerEvent} {v : Server} (hr : SteadyRun config requests responses hello h v)
    (hfew : drawn (systemEvents h) < 2 ^ 64) (hquiet : Quiet v) :
    liveTokens v = { token | token ∈ v.system.client.remoteForwards } ∧
    { token | token ∈ v.system.client.remoteForwards } =
      { token | token ∈ v.system.process.state.remoteForwards } ∧
    (∀ n key key' handle, (v.sessions n).activity ≠ .ended →
      (v.sessions n).remoteForwards.lookup key = some handle →
      (v.sessions n).remoteForwards.lookup key' = some handle → key = key') ∧
    ∀ token ∈ v.system.process.state.remoteForwards, ∃! n, (v.sessions n).activity ≠ .ended ∧
      ∃ key, (v.sessions n).remoteForwards.lookup key = some ⟨token⟩ := by
  obtain ⟨horderly, hinv⟩ := owned_of_run hreq hresp hr hfew
  have hup := (SteadyRun.steady hr).up
  have hreader : v.system.client.reader ≠ .drained := by
    rw [hup.reader]
    exact nofun
  -- a session that has ended holds nothing
  have hlive : ∀ n key handle, (v.sessions n).remoteForwards.lookup key = some handle →
      (v.sessions n).activity ≠ .ended := by
    intro n key handle hlookup hended
    rw [(sound_of_run (SteadyRun.serverRun hr) n).ended hended] at hlookup
    cases hlookup
  have hregistered : ∀ token, token ∈ v.system.process.state.remoteForwards →
      token ∈ v.system.client.remoteForwards := by
    intro token hin
    exact registered_of_listening hreq hresp horderly hfew hreader
      (fun c op hop hforwards => hquiet.returned hup horderly.of_restrict hop hforwards) hin
  refine ⟨?_, ?_, ?_, ?_⟩
  · ext token
    constructor
    · rintro ⟨n, key, -, hlookup⟩
      exact (hinv.registered token).mpr (Or.inl ⟨(n, key), held_eq_some.mpr hlookup⟩)
    · intro hin
      obtain ⟨⟨n, key⟩, hheld, -⟩ := hinv.existsUnique_holder hquiet.tasks hin
      exact ⟨n, key, hlive n key _ (held_eq_some.mp hheld), held_eq_some.mp hheld⟩
  · ext token
    constructor
    · intro hin
      obtain ⟨listener, -, -, hlookup, -⟩ := listening_of_registered hreq hresp horderly hfew hin
      exact AList.lookup_isSome.mp (by rw [hlookup]; rfl)
    · exact hregistered token
  · rintro n key key' ⟨token⟩ - hlookup hlookup'
    exact (Prod.mk.inj (hinv.holder (n, key) (n, key') token (held_eq_some.mpr hlookup)
      (held_eq_some.mpr hlookup'))).2
  · intro token hin
    obtain ⟨⟨n, key⟩, hheld, hunique⟩ :=
      hinv.existsUnique_holder hquiet.tasks (hregistered token hin)
    have hlookup := held_eq_some.mp hheld
    refine ⟨n, ⟨hlive n key _ hlookup, key, hlookup⟩, ?_⟩
    rintro m ⟨-, key', hlookup'⟩
    exact (Prod.mk.inj (hunique (m, key') (held_eq_some.mpr hlookup'))).1

end

/-! ## Steady runs -/

variable {es : List SystemEvent} {port : UInt16} {os : Surroundings}

section

variable {config : AppConfig} {requests : SerdeJson ExecutorRequest}
  {responses : SerdeJson ExecutorResponse} {hello : ExecutorHello}

/-- A reader thread that runs has not stopped before. -/
theorem running_before {d d' : Daemon} {e : ClientEvent}
    (hs : ClientStep requests responses d e d') (h : d'.client.reader = .running) :
    d.client.reader = .running := by
  cases hs with
  | @finish s l c i response =>
      obtain ⟨forwards, heq⟩ := s.complete_eq c i response
      change (s.complete c i response).reader = _ at h
      rw [heq] at h
      exact h
  | receive hreader => exact hreader
  | receiveFails hreader => exact hreader
  | drain => cases h
  | _ => exact h

/-- What makes the channel fail lasts, so that a channel that is up has been up before. -/
theorem Up.before (hup : Up s') (hs : SystemStep requests responses s e s')
    (hclean : ∀ c, e ≠ .client (.cleanUp c)) : Up s := by
  cases hs with
  | process hs => exact ⟨hup.reader, hs.running, hup.sends, hup.waits⟩
  | @client e d hs =>
      refine ⟨running_before hs hup.reader, hup.running, ?_, ?_⟩
      · intro c i err token hfailed
        refine hup.sends c i err token ?_
        rcases hs.call_cases c with heq | hm
        · exact heq.trans hfailed
        · have hfailed' : (⟨s.client, s.link⟩ : Daemon).client.calls c = .sendFailed i err :=
            hfailed
          rw [hfailed'] at hm
          exfalso
          generalize d.client.calls c = call at hm
          cases hm
          exact hclean c rfl
      · intro c i habandoned
        exact hup.waits c i (hs.abandoned_of_abandoned habandoned)

/-- The events that leave the listeners alone, and after which a channel that is up was up
before. -/
def isPlain : SystemEvent → Bool
  | .client (.cleanUp _) => false
  | .process (.handle _) => false
  | .process (.accept _) => false
  | _ => true

theorem listeners_of_plain (hs : SystemStep requests responses s e s') (hplain : isPlain e = true) :
    s'.process.state.remoteForwards = s.process.state.remoteForwards := by
  cases hs with
  | client => rfl
  | process hs =>
      cases hs with
      | handle => cases hplain
      | accept => cases hplain
      | acceptEnds => cases hplain
      | _ => rfl

theorem ne_cleanUp_of_plain (hplain : isPlain e = true) (c : CallId) :
    e ≠ .client (.cleanUp c) := by
  rintro rfl
  cases hplain

theorem Up.before_path (hup : Up s') (hp : Path s es s')
    (hclean : ∀ e ∈ es, ∀ c, e ≠ .client (.cleanUp c)) : Up s := by
  induction hp with
  | nil heq => exact heq ▸ hup
  | cons _ hs ih =>
      exact ih (hup.before hs (hclean _ List.mem_cons_self))
        (fun e he => hclean e (List.mem_cons_of_mem _ he))

theorem listeners_of_path (hp : Path s es s') (hplain : ∀ e ∈ es, isPlain e = true) :
    s'.process.state.remoteForwards = s.process.state.remoteForwards := by
  induction hp with
  | nil heq => rw [heq]
  | cons _ hs ih =>
      rw [listeners_of_plain hs (hplain _ List.mem_cons_self)]
      exact ih fun e he => hplain e (List.mem_cons_of_mem _ he)

variable {h : List ServerEvent} {v : Server}

theorem steady_path (hr : SteadyRun config requestJson responseJson hello h v)
    (hp : Path v.system es s) (hfree : ∀ e ∈ es, v.Free e) (hplain : ∀ e ∈ es, isPlain e = true)
    (hup : Up s) :
    SteadyRun config requestJson responseJson hello (es.map (fun e => ⟨.none, some e⟩) ++ h)
      { v with system := s } := by
  induction hp with
  | nil heq =>
      subst heq
      exact hr
  | cons _ hs ih =>
      have hlast := hplain _ List.mem_cons_self
      have hbefore := ih (fun e he => hfree e (List.mem_cons_of_mem _ he))
        (fun e he => hplain e (List.mem_cons_of_mem _ he))
        (hup.before hs (ne_cleanUp_of_plain hlast))
      refine hbefore.cons ⟨.system hs (hfree _ List.mem_cons_self), hup, ?_⟩
      show Healthy _
      rw [listeners_of_plain hs hlast]
      exact (SteadyRun.steady hbefore).healthy

/-- **An exchange over an idle channel is steady** if it ends so. -/
theorem steady_exchange (hr : SteadyRun config requestJson responseJson hello h v)
    (hp : Path v.system (exchangeEvents c os) s) (hup : Up s)
    (hhealthy : Healthy s.process.state.remoteForwards) :
    SteadyRun config requestJson responseJson hello
      ((exchangeEvents c os).map (fun e => ⟨.none, some e⟩) ++ h) { v with system := s } := by
  have hcut : exchangeEvents c os = [.client (.receive (.room 1)), .process .reply] ++
      (.process (.handle os) :: (.process .receive :: askEvents c)) := rfl
  rw [hcut] at hp
  obtain ⟨s₂, hbefore, hafter⟩ := hp.split
  have hup₂ := hup.before_path hafter (by simp)
  have hlisteners := listeners_of_path hafter (by simp [isPlain])
  cases hbefore with
  | @cons _ s₁ _ _ hasked hhandled =>
      have hup₁ := hup₂.before hhandled nofun
      have hr₁ := steady_path hr hasked (by simp [askEvents, Server.Free])
        (by simp [askEvents, isPlain]) hup₁
      have hstep : ServerStep config requestJson responseJson { v with system := s₁ }
          ⟨.none, some (.process (.handle os))⟩ { v with system := s₂ } := .system hhandled trivial
      have hr₂ : SteadyRun config requestJson responseJson hello _ { v with system := s₂ } :=
        hr₁.cons ⟨hstep, hup₂, hlisteners ▸ hhealthy⟩
      have hr₃ := steady_path hr₂ hafter (by simp [Server.Free]) (by simp [isPlain]) hup
      simpa [hcut] using hr₃

/-- A session asks, and its call returns. -/
theorem steady_attempt (hr : SteadyRun config requestJson responseJson hello h v)
    (hallow : config.allowRemoteForwarding = true) (hidle : (v.sessions n).activity = .idle)
    (hnew : (v.sessions n).remoteForwards.lookup ⟨"127.0.0.1".toList, port.toUInt32⟩ = none)
    (hc : v.system.client.calls c = .idle)
    (hp : Path (v.system.begun c (localForward n port)) (exchangeEvents c os) s)
    (hreturns : ServerStep config requestJson responseJson { v.asking n c port with system := s }
      ⟨.returns n, some (.client (.finish c))⟩ v') (hup : Up v'.system)
    (hhealthy : Healthy v'.system.process.state.remoteForwards) :
    SteadyRun config requestJson responseJson hello
      (⟨.returns n, some (.client (.finish c))⟩ ::
        ((exchangeEvents c os).map (fun e => ⟨.none, some e⟩) ++
          ⟨.tcpipForward n "127.0.0.1".toList port.toUInt32,
            some (.client (.begin c (localForward n port)))⟩ :: h)) v' := by
  have hfinish : SystemStep requestJson responseJson s (.client (.finish c)) v'.system := by
    rcases hreturns.system_cases with ⟨hnone, -⟩ | ⟨e, hsome, hs⟩
    · cases hnone
    · cases hsome
      exact hs
  have hup₂ := hup.before hfinish nofun
  have hlisteners := listeners_of_plain hfinish rfl
  have hup₁ : Up (v.system.begun c (localForward n port)) :=
    hup₂.before_path hp (by simp [exchangeEvents, askEvents])
  have hasked : SteadyRun config requestJson responseJson hello _ (v.asking n c port) :=
    hr.cons ⟨asking_step hallow hidle hnew hc, hup₁, (SteadyRun.steady hr).healthy⟩
  have hexchanged := steady_exchange hasked hp hup₂ (hlisteners ▸ hhealthy)
  exact hexchanged.cons ⟨hreturns, hup, hhealthy⟩

end

/-! ## When the tokens wrap -/

variable {hello : ExecutorHello}

section

variable {config : AppConfig}

/-- The channel is idle, the calls before `c` have returned, the others have not begun, and `token`
is the next token. -/
structure Resting (v : Server) (c : CallId) (token : UInt64) : Prop where
  ready : v.system.Ready
  nextToken : v.system.client.nextForwardToken = token
  returned : ∀ c' < c, ∃ i result, v.system.client.calls c' = .returned i result
  idle : ∀ c' ≥ c, v.system.client.calls c' = .idle
  activity : (v.sessions 0).activity = .idle
  tasks : v.tasks = []

theorem resting_new (hello : ExecutorHello) : Resting (Server.new hello) 0 1 :=
  ⟨ready_new hello, rfl, (fun _ h => absurd h (Nat.not_lt_zero _)), (fun _ _ => rfl), rfl, rfl⟩

theorem Resting.call (hr : Resting v c token) (c' : CallId) : v.system.client.calls c' = .idle ∨
      ∃ i result, v.system.client.calls c' = .returned i result := by
  rcases Nat.lt_or_ge c' c with hlt | hge
  · exact Or.inr (hr.returned c' hlt)
  · exact Or.inl (hr.idle c' hge)

theorem Resting.up (hr : Resting v c token) : Up v.system := by
  refine ⟨hr.ready.reader, hr.ready.running, fun c' i err _ hc => ?_, fun c' i hc => ?_⟩
  · rcases hr.call c' with hidle | ⟨j, result, hreturned⟩
    · rw [hidle] at hc
      cases hc
    · rw [hreturned] at hc
      cases hc
  · rcases hr.call c' with hidle | ⟨j, result, hreturned⟩
    · rw [hidle] at hc
      cases hc
    · rw [hreturned] at hc
      cases hc

theorem Resting.quiet (hr : Resting v c token) : Quiet v := by
  refine ⟨fun c' => ?_, hr.tasks⟩
  rcases hr.call c' with hidle | ⟨i, result, hreturned⟩
  · rw [hidle]
    rfl
  · rw [hreturned]
    rfl

/-- One more call has returned. -/
theorem calls_returned {calls : CallId → Call} (calls' : CallId → Call) {c : Nat}
    (hreturned : ∀ c' < c, ∃ i result, calls c' = .returned i result)
    (hidle : ∀ c' ≥ c, calls c' = .idle) (hc : calls' c = .returned i result)
    (hothers : ∀ c' ≠ c, calls' c' = calls c') :
    (∀ c' < c + 1, ∃ i result, calls' c' = .returned i result) ∧
      ∀ c' ≥ c + 1, calls' c' = .idle := by
  constructor
  · intro c' hlt
    by_cases heq : c' = c
    · subst heq
      exact ⟨i, result, hc⟩
    · rw [hothers c' heq]
      exact hreturned c' (by omega)
  · intro c' hge
    rw [hothers c' (by omega)]
    exact hidle c' (by omega)

/-- The first session gets a forward. -/
theorem Resting.forwarded {c : Nat} (hr : Resting v c token) (port : UInt16) :
    Resting (v.forwarded 0 c port) (c + 1) (token + 1) := by
  have hcalls : (v.forwarded 0 c port).system.client.calls = update
      ((v.system.begun c (localForward 0 port)).bound c 0 port).client.calls c
      (.returned (v.system.issued 0 port)
        (.ok (.started v.system.client.nextForwardToken port.toUInt32))) := by
    show (Client.complete _ _ _ _).calls = _
    rw [Client.complete_calls]
    rfl
  obtain ⟨hreturned, hidle⟩ := calls_returned (v.forwarded 0 c port).system.client.calls
    hr.returned hr.idle
    (by rw [hcalls]; exact update_self ..)
    (by
      intro c' hne
      rw [hcalls, update_of_ne hne]
      simp [System.bound, System.answered, Client.asked, System.begun, Client.setCall, hne])
  refine ⟨((hr.ready.begun ..).answered ..).resumed .., ?_, hreturned, hidle, ?_, hr.tasks⟩
  · rw [← hr.nextToken]
    rfl
  · simp [Server.forwarded]

theorem steady_forwarded (hallow : config.allowRemoteForwarding = true) {c : Nat}
    (hr : SteadyRun config requestJson responseJson hello h v) (hrest : Resting v c token)
    (hnew : (v.sessions 0).remoteForwards.lookup ⟨"127.0.0.1".toList, port.toUInt32⟩ = none)
    (hhealthy : Healthy (v.forwarded 0 c port).system.process.state.remoteForwards) :
    SteadyRun config requestJson responseJson hello (forwardedEvents 0 c port ++ h)
      (v.forwarded 0 c port) := by
  have hforwarded := steady_attempt hr hallow hrest.activity hnew (hrest.idle c (Nat.le_refl _))
    (path_bound (hrest.ready.begun ..) c 0 port (Client.setCall_calls_self ..)) returned_step
    (hrest.forwarded port).up hhealthy
  simpa [forwardedEvents] using hforwarded

/-- The executor cannot bind what it is asked to. -/
def portInUse : Surroundings :=
  { allSucceeds with bind := .error ⟨.other, "Address already in use (os error 98)"⟩ }

/-- What the executor says then. -/
def refusal : AnyError :=
  ⟨"failed to bind remote forward 127.0.0.1:8082", ["Address already in use (os error 98)"]⟩

/-- The first session is refused a forward: nothing has changed, except that a token was used. -/
theorem steady_refused (hallow : config.allowRemoteForwarding = true) {c : Nat}
    (hr : SteadyRun config requestJson responseJson hello h v) (hrest : Resting v c token)
    (hnew : (v.sessions 0).remoteForwards.lookup
      ⟨"127.0.0.1".toList, (8082 : UInt16).toUInt32⟩ = none) :
    ∃ h' v', SteadyRun config requestJson responseJson hello h' v' ∧
      Resting v' (c + 1) (token + 1) ∧
      (v'.sessions 0).remoteForwards = (v.sessions 0).remoteForwards ∧
      v'.system.process.state = v.system.process.state := by
  let op := localForward 0 8082
  let i := v.system.issued 0 8082
  let s := (v.system.begun c op).answered c op v.system.process.state (.error refusal)
  let response : ExecutorResponse := .requestErr i.id refusal.alternate
  let result : Except CallError Reply := i.finish response
  have hp : Path (v.system.begun c op) (exchangeEvents c portInUse) s :=
    path_exchange (hrest.ready.begun ..) (Client.setCall_calls_self ..) rfl
      (fits_startRemoteForward _ _ (by decide) _) (fits_requestErr _ (by decide))
  let client := s.client.complete c i response
  let v' : Server := { v.asking 0 c 8082 with system := { s with client := client } }.setSession 0
    ⟨(v.sessions 0).remoteForwards, .idle⟩
  have hcalls : client.calls = update s.client.calls c (.returned i result) :=
    Client.complete_calls ..
  have hwaits : ((v.asking 0 c 8082).sessions 0).activity =
      .forwarding c "127.0.0.1".toList := by
    simp [Server.asking, Server.setSession]
  have hfinish : SystemStep requestJson responseJson s (.client (.finish c))
      { s with client := client } :=
    finish_step (update_self ..) (update_self ..)
  have hreturns : ServerStep config requestJson responseJson { v.asking 0 c 8082 with system := s }
      ⟨.returns 0, some (.client (.finish c))⟩ v' := by
    have hstep : ServerStep config requestJson responseJson _ _ _ :=
      .forwardReturns (v := { v.asking 0 c 8082 with system := s }) (i := i) hwaits (Or.inl rfl)
        hfinish (by rw [hcalls]; exact update_self ..)
    have hsame : ∀ forwards, (forwardReturned "127.0.0.1".toList forwards result).1 = forwards :=
      fun _ => rfl
    rw [hsame] at hstep
    simpa [v', Server.asking, Server.setSession] using hstep
  obtain ⟨hreturned, hidle⟩ := calls_returned client.calls hrest.returned hrest.idle
    (by rw [hcalls]; exact update_self ..)
    (by
      intro c' hne
      rw [hcalls, update_of_ne hne]
      simp [s, System.answered, Client.asked, System.begun, Client.setCall, hne])
  have hrest' : Resting v' (c + 1) (token + 1) := by
    refine ⟨?_, ?_, hreturned, hidle, ?_, hrest.tasks⟩
    · exact ⟨hrest.ready.reader, hrest.ready.link, hrest.ready.running, hrest.ready.reading,
        hrest.ready.requests, hrest.ready.reply⟩
    · rw [← hrest.nextToken]
      rfl
    · simp [v', Server.setSession]
  have hr' := steady_attempt hr hallow hrest.activity hnew (hrest.idle c (Nat.le_refl _)) hp
    hreturns hrest'.up (SteadyRun.steady hr).healthy
  exact ⟨_, v', hr', hrest', by simp [v', Server.setSession], rfl⟩

theorem steady_refusals (hallow : config.allowRemoteForwarding = true) {c : Nat}
    (hr : SteadyRun config requestJson responseJson hello h v) (hrest : Resting v c token)
    (hnew : (v.sessions 0).remoteForwards.lookup
      ⟨"127.0.0.1".toList, (8082 : UInt16).toUInt32⟩ = none) (n : Nat) :
    ∃ h' v', SteadyRun config requestJson responseJson hello h' v' ∧
      Resting v' (c + n) (token + UInt64.ofNat n) ∧
      (v'.sessions 0).remoteForwards = (v.sessions 0).remoteForwards ∧
      v'.system.process.state = v.system.process.state := by
  induction n with
  | zero =>
      refine ⟨h, v, hr, ?_, rfl, rfl⟩
      rw [show token + UInt64.ofNat 0 = token from UInt64.add_zero _]
      exact hrest
  | succ n ih =>
      obtain ⟨h₁, v₁, hr₁, hrest₁, hmap₁, hstate₁⟩ := ih
      obtain ⟨h₂, v₂, hr₂, hrest₂, hmap₂, hstate₂⟩ :=
        steady_refused hallow hr₁ hrest₁ (by rw [hmap₁]; exact hnew)
      refine ⟨h₂, v₂, hr₂, ?_, hmap₂.trans hmap₁, hstate₂.trans hstate₁⟩
      rw [UInt64.ofNat_add, ← UInt64.add_assoc]
      exact hrest₂

/-- The one listener of a forward, whatever stood under its token before. -/
theorem healthy_insert (port : UInt16) {listeners : Table UInt64 Listener}
    (honly : ∀ token', token' ≠ token → listeners.lookup token' = none) :
    Healthy (listeners.insert token ⟨"127.0.0.1".toList, port, true⟩) := by
  have hcases : ∀ token' listener, (listeners.insert token
      ⟨"127.0.0.1".toList, port, true⟩).lookup token' = some listener →
      token' = token ∧ listener = ⟨"127.0.0.1".toList, port, true⟩ := by
    intro token' listener hlookup
    rw [Table.lookup_insert_ite] at hlookup
    split at hlookup
    · next heq => exact ⟨heq, (Option.some.inj hlookup).symm⟩
    · next hne =>
        rw [honly token' hne] at hlookup
        cases hlookup
  refine ⟨fun token' listener hlookup => ?_, fun token₁ token₂ _ _ h₁ h₂ _ _ => ?_⟩
  · rw [(hcases token' listener hlookup).2]
  · exact (hcases _ _ h₁).1.trans (hcases _ _ h₂).1.symm

/-- A session with one forward: the three tables have its token, and nothing else. -/
theorem one_forward_held :
    ∃ config h v, AppConfig.defaults .linux ⟨some "/home/user".toList, none⟩ = .ok config ∧
      SteadyRun config requestJson responseJson shellHello h v ∧ Quiet v ∧
      1 ∈ v.system.process.state.remoteForwards ∧
      liveTokens v = { token | token ∈ v.system.process.state.remoteForwards } ∧
      ∃! n, (v.sessions n).activity ≠ .ended ∧
        ∃ key, (v.sessions n).remoteForwards.lookup key = some ⟨1⟩ := by
  obtain ⟨config, hconfig, hallow⟩ := defaults_allow
  have hr₀ : SteadyRun config requestJson responseJson shellHello [] (Server.new shellHello) :=
    .nil rfl
  have hrest := resting_new shellHello
  have hr₁ : SteadyRun config requestJson responseJson shellHello _
      ((Server.new shellHello).forwarded 0 0 8081) :=
    steady_forwarded hallow hr₀ hrest rfl (healthy_insert 8081 fun _ _ => rfl)
  have hin : 1 ∈ ((Server.new shellHello).forwarded 0 0
      8081).system.process.state.remoteForwards := (AList.mem_insert _).mpr (Or.inl rfl)
  obtain ⟨hlive, hsame, -, howner⟩ := forwards_do_not_leak requestJson_lawful
    responseJson_lawful hr₁
    (by decide) (hrest.forwarded 8081).quiet
  exact ⟨config, _, _, hconfig, hr₁, (hrest.forwarded 8081).quiet, hin, hlive.trans hsame,
    howner 1 hin⟩

/-- **A wrapped token is held twice.** After a first forward, `2 ^ 64 - 1` forwards that the
executor cannot bind bring the counter of tokens round, and the next one gets the token of the
first. -/
theorem wrapped_token_held_twice :
    ∃ config h v key key' handle,
      AppConfig.defaults .linux ⟨some "/home/user".toList, none⟩ = .ok config ∧
      SteadyRun config requestJson responseJson shellHello h v ∧ Quiet v ∧
      (v.sessions 0).activity ≠ .ended ∧
      (v.sessions 0).remoteForwards.lookup key = some handle ∧
      (v.sessions 0).remoteForwards.lookup key' = some handle ∧ key ≠ key' := by
  obtain ⟨config, hconfig, hallow⟩ := defaults_allow
  have hr₀ : SteadyRun config requestJson responseJson shellHello [] (Server.new shellHello) :=
    .nil rfl
  let v₁ := (Server.new shellHello).forwarded 0 0 8081
  have hrest₁ : Resting v₁ 1 2 := (resting_new shellHello).forwarded 8081
  have hr₁ : SteadyRun config requestJson responseJson shellHello _ v₁ :=
    steady_forwarded hallow hr₀ (resting_new shellHello) rfl (healthy_insert 8081 fun _ _ => rfl)
  obtain ⟨h₂, v₂, hr₂, hrest₂, hmap₂, hstate₂⟩ :=
    steady_refusals hallow hr₁ hrest₁ rfl (2 ^ 64 - 1)
  have htoken : (2 : UInt64) + UInt64.ofNat (2 ^ 64 - 1) = 1 := by decide
  rw [htoken] at hrest₂
  generalize 1 + (2 ^ 64 - 1) = c at hrest₂
  -- the second forward takes the place of the first listener
  have honly : ∀ token, token ≠ v₂.system.client.nextForwardToken →
      v₂.system.process.state.remoteForwards.lookup token = none := by
    intro token hne
    rw [hrest₂.nextToken] at hne
    rw [hstate₂]
    exact AList.lookup_insert_ne hne
  have hnew : (v₂.sessions 0).remoteForwards.lookup
      ⟨"127.0.0.1".toList, (8082 : UInt16).toUInt32⟩ = none := by
    rw [hmap₂]
    rfl
  have hr₃ := steady_forwarded hallow hr₂ hrest₂ hnew (healthy_insert 8082 honly)
  have hmap₃ : ((v₂.forwarded 0 c 8082).sessions 0).remoteForwards =
      (v₁.sessions 0).remoteForwards.insert ⟨"127.0.0.1".toList, 8082⟩ ⟨1⟩ := by
    rw [← hmap₂, ← hrest₂.nextToken]
    simp [Server.forwarded]
  refine ⟨config, _, _, ⟨"127.0.0.1".toList, 8081⟩, ⟨"127.0.0.1".toList, 8082⟩, ⟨1⟩, hconfig, hr₃,
    (hrest₂.forwarded 8082).quiet, ?_, ?_, ?_, by decide⟩
  · rw [(hrest₂.forwarded 8082).activity]
    intro hended
    cases hended
  · rw [hmap₃, AList.lookup_insert_ne (by decide)]
    rfl
  · rw [hmap₃, AList.lookup_insert]

end

end Narrowd.Sshd.Forwarding
