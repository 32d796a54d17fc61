import Narrowd.Executor.Forwards
import Narrowd.Executor.Exchange

set_option autoImplicit false

/-! # Connections that arrive before their registration

The executor listens as soon as it has bound a forward. The daemon registers the forward when the
call resumes, which is a task of its own. The reader thread fills the call's channel first, but the
dispatch task may be at work already: it has been opening a channel for another connection, say, and
takes the next one before the call is scheduled. Then it finds no registration and drops the
connection (`connection_lost`).

If the dispatch task never takes a connection while the call that holds its token still waits
(`AfterReturn`), every connection finds its registration, unless its forward has been cancelled, has
failed or was given up (`connections_found`).
-/

namespace Narrowd.Executor

open Lib

/-- Since the call `c` has begun, somebody has asked to cancel the forward. -/
inductive Cancelled (c : CallId) (token : UInt64) : List SystemEvent → Prop
  | here {h : List SystemEvent} {c' : CallId} {op : Operation}
      (hbegun : SystemEvent.client (.begin c op) ∈ h) :
      Cancelled c token (.client (.begin c' (.cancelRemoteForward token)) :: h)
  | later {h : List SystemEvent} {e : SystemEvent} (hc : Cancelled c token h) :
      Cancelled c token (e :: h)

variable {s : System} {c : CallId} {i : Issued} {h : List SystemEvent} {hello : ExecutorHello}

section

variable {requests : SerdeJson ExecutorRequest} {responses : SerdeJson ExecutorResponse}

/-! ## How long a registration stays -/

/-- A forward that returns a success leaves its registration. -/
theorem ClientStep.registered {d d' : Daemon} {e : ClientEvent}
    (hs : ClientStep requests responses d e d') {reply : Reply} (hop : i.op.drawsToken = true)
    (hbefore : d.client.calls c = .awaiting i)
    (hafter : d'.client.calls c = .returned i (.ok reply)) :
    ∃ registration, d'.client.remoteForwards.lookup i.token = some registration := by
  rcases hs.call_cases c with heq | hm
  · rw [heq, hbefore] at hafter
    cases hafter
  · rw [hbefore, hafter] at hm
    cases hm
    cases hs with
    | @finish s l _ j response hc hslot =>
        cases hc.symm.trans hbefore
        change (s.complete c i response).calls c = _ at hafter
        rw [Client.complete_calls, Client.setCall_calls_self] at hafter
        obtain ⟨-, hfinish⟩ := Call.returned.inj hafter
        obtain ⟨port, rfl⟩ := Issued.started_of_finish hop hfinish
        obtain ⟨op, own, id, token⟩ := i
        cases op with
        | startRemoteForward handle connected bind bindPort =>
            refine ⟨⟨handle, connected, port⟩, ?_⟩
            show (s.complete c _ response).remoteForwards.lookup token = _
            simp only [Client.complete, hfinish]
            exact AList.lookup_insert _
        | _ => cases hop
    | @finishDropped s l _ j hc hslot =>
        change (s.setCall c _).calls c = _ at hafter
        rw [Client.setCall_calls_self] at hafter
        cases hafter

/-- **A forward that was started stays registered until somebody asks to cancel it.** -/
theorem registered_or_cancelled (hr : SystemRun requests responses hello h s) :
    ∀ c i reply, s.client.calls c = .returned i (.ok reply) → i.op.drawsToken = true →
      (∃ registration, s.client.remoteForwards.lookup i.token = some registration) ∨
        Cancelled c i.token h := by
  refine Run.invariant (P := fun h s => ∀ c i reply, s.client.calls c = .returned i (.ok reply) →
    i.op.drawsToken = true →
      (∃ registration, s.client.remoteForwards.lookup i.token = some registration) ∨
        Cancelled c i.token h) ?_ ?_ hr
  · rintro s rfl c i reply hc
    cases hc
  · intro h s e s' hr ih hs c i reply hc hop
    cases hs with
    | process => exact (ih c i reply hc hop).imp_right .later
    | @client e d hs =>
        rcases hs.returned_cases hc with hold | ⟨response, -, hcall, -⟩
        · rcases ih c i reply hold hop with ⟨registration, hlookup⟩ | hcancelled
          · rcases hs.remoteForwards_cases with heq | ⟨c', token, rfl, heq⟩ |
              ⟨c', i', handle, connected, bind, port, bound, -, -, -, -, heq⟩
            · exact Or.inl ⟨registration, by rw [heq]; exact hlookup⟩
            · by_cases htoken : i.token = token
              · subst htoken
                have hissued : (s.client.calls c).issued? = some i := by
                  have hold' : s.client.calls c = .returned i (.ok reply) := hold
                  rw [hold']
                  rfl
                exact Or.inr (.here (begun_of_run hr c i.op (Call.op?_of_issued hissued)))
              · refine Or.inl ⟨registration, ?_⟩
                rw [heq, Table.lookup_erase_ite, if_neg htoken]
                exact hlookup
            · refine Or.inl ?_
              rw [heq]
              simp only [Table.lookup_insert_ite]
              split
              · exact ⟨_, rfl⟩
              · exact ⟨registration, hlookup⟩
          · exact Or.inr hcancelled.later
        · exact Or.inl (hs.registered hop hcall hc)

/-! ## The order that loses no connection -/

/-- The dispatch task takes a connection only when no call that holds its token still waits. -/
def AfterReturn (s : System) : SystemEvent → Prop
  | .client .dispatch => ∀ event rest, s.client.events = event :: rest →
      ∀ c i, s.client.calls c = .awaiting i → i.op.drawsToken = true → i.token ≠ event.token
  | _ => True

/-- Why a connection of the forward that the call `c` has started need not find a registration: the
task of the call was dropped, the call has failed, or the forward has been cancelled. -/
def Excused (h : List SystemEvent) (s : System) (c : CallId) (i : Issued) : Prop :=
  s.client.calls c = .abandoned i ∨ (∃ err, s.client.calls c = .returned i (.error err)) ∨
    Cancelled c i.token h

theorem Excused.step {s' : System} {e : SystemEvent} (hx : Excused h s c i)
    (hs : SystemStep requests responses s e s') : Excused (e :: h) s' c i := by
  rcases hx with habandoned | ⟨err, hreturned⟩ | hcancelled
  · refine Or.inl ?_
    cases hs with
    | client hs => exact hs.abandoned_of_abandoned habandoned
    | process => exact habandoned
  · refine Or.inr (Or.inl ⟨err, ?_⟩)
    cases hs with
    | client hs => exact hs.returned_of_returned hreturned
    | process => exact hreturned
  · exact Or.inr (Or.inr hcancelled.later)

/-- A call that has sent its request and waits no longer is excused, or has registered its
forward. -/
theorem excused_or_registered (hr : SystemRun requests responses hello h s) {listener : Listener}
    {token : UInt64} (hb : Bound s token listener c i) (hwaits : s.client.calls c ≠ .awaiting i) :
    Excused h s c i ∨ ∃ registration, s.client.remoteForwards.lookup token = some registration := by
  have hissued := hb.issued
  have hsent := hb.sent
  rw [← hb.token]
  generalize hcall : s.client.calls c = call at hissued hsent hwaits
  cases call with
  | awaiting j =>
      cases hissued
      exact absurd rfl hwaits
  | abandoned j =>
      cases hissued
      exact Or.inl (Or.inl hcall)
  | returned j result =>
      cases hissued
      cases result with
      | error err => exact Or.inl (Or.inr (Or.inl ⟨err, hcall⟩))
      | ok reply =>
          rcases registered_or_cancelled hr c i reply hcall hb.drawsToken with hfound | hcancelled
          · exact Or.inr hfound
          · exact Or.inl (Or.inr (Or.inr hcancelled))
  | _ => cases hsent

/-- Every connection that the dispatch task has taken was accepted on a listener that the executor
has bound for a call, and has found that forward registered, unless the call excuses it. -/
def NoneLost (requests : SerdeJson ExecutorRequest) (responses : SerdeJson ExecutorResponse)
    (hello : ExecutorHello) (h : List SystemEvent) (s : System) : Prop :=
  ∀ event found, (event, found) ∈ s.client.dispatched →
    ∃ listener c i, Accepted requests responses hello event listener h ∧
      Bound s event.token listener c i ∧
      ((∃ registration, found = some registration) ∨ Excused h s c i)

theorem NoneLost.step (hreq : requests.Lawful) (hresp : responses.Lawful) {s' : System}
    {e : SystemEvent} (hn : NoneLost requests responses hello h s)
    (hr : SystemRun requests responses hello h s) (hs : SystemStep requests responses s e s')
    (hafter : AfterReturn s e) : NoneLost requests responses hello (e :: h) s' := by
  intro event found hmem
  have hkeep : (event, found) ∈ s.client.dispatched →
      ∃ listener c i, Accepted requests responses hello event listener (e :: h) ∧
        Bound s' event.token listener c i ∧
        ((∃ registration, found = some registration) ∨ Excused (e :: h) s' c i) := by
    intro hold
    obtain ⟨listener, c, i, ha, hb, hfate⟩ := hn event found hold
    exact ⟨listener, c, i, ha.later, hb.step hs, hfate.imp_right fun hx => hx.step hs⟩
  cases hs with
  | process => exact hkeep hmem
  | @client e d hc =>
      rcases hc.events_cases.2 event found hmem with
        hold | ⟨hwaiting, rfl, ⟨rest, hevents⟩, hfound⟩
      · exact hkeep hold
      · have hs : SystemStep requests responses s (.client .dispatch)
            ⟨d.client, d.link, s.process⟩ := .client hc
        obtain ⟨listener, c, i, ha, hb⟩ :=
          (forwarded_of_run hreq hresp hr).reported.waiting event hwaiting
        have hresumed : s.client.calls c ≠ .awaiting i := fun hcall =>
          hafter event rest hevents c i hcall hb.drawsToken hb.token
        refine ⟨listener, c, i, ha.later, hb.step hs, ?_⟩
        rcases excused_or_registered hr hb hresumed with hexcused | ⟨registration, hlookup⟩
        · exact Or.inr (hexcused.step hs)
        · exact Or.inl ⟨registration, hfound.trans hlookup⟩

/-- **No connection is lost** in a run where the dispatch task takes a connection only after the
call that holds its token has resumed. -/
theorem connections_found (hreq : requests.Lawful) (hresp : responses.Lawful)
    {hello : ExecutorHello} {h : List SystemEvent} {s : System}
    (hr : Run (· = System.new hello) (restrict (SystemStep requests responses) AfterReturn) h s) :
    NoneLost requests responses hello h s := by
  have hboth : SystemRun requests responses hello h s ∧ NoneLost requests responses hello h s := by
    refine Run.invariant (P := fun h s => SystemRun requests responses hello h s ∧
      NoneLost requests responses hello h s) ?_ ?_ hr
    · rintro s rfl
      exact ⟨.nil rfl, fun _ _ hmem => nomatch hmem⟩
    · rintro h s e s' - ⟨hr, hn⟩ ⟨hs, hafter⟩
      exact ⟨hr.cons hs, hn.step hreq hresp hr hs hafter⟩
  exact hboth.2

end

/-! ## Two forwards -/

/-- The executor binds what it is asked to, and is given the port. -/
def bindsTo (port : UInt16) : Surroundings := { allSucceeds with localAddr := .ok port }

/-- A forward of the session `handle`, bound on the loopback address. -/
def localForward (handle : Nat) (port : UInt16) : Operation :=
  .startRemoteForward handle "127.0.0.1".toList "127.0.0.1".toList port

/-- The system after the executor has bound the forward of the call `c`, and the answer has reached
the call. The call has not resumed. -/
def System.bound (s : System) (c : CallId) (handle : Nat) (port : UInt16) : System :=
  s.answered c (localForward handle port)
    { s.process.state with
      remoteForwards := s.process.state.remoteForwards.insert s.client.nextForwardToken
        ⟨"127.0.0.1".toList, port, true⟩ }
    (.ok (.bound port))

/-- The request of a forward, after which only its answer is awaited. -/
def System.begun (s : System) (c : CallId) (op : Operation) : System :=
  { s with client := s.client.setCall c (.opened op none) }

theorem System.Ready.begun (hr : s.Ready) (c : CallId) (op : Operation) : (s.begun c op).Ready :=
  ⟨hr.reader, hr.link, hr.running, hr.reading, hr.requests, hr.reply⟩

theorem path_bound (hready : s.Ready) (c : CallId) (handle : Nat) (port : UInt16)
    (hc : s.client.calls c = .opened (localForward handle port) none) :
    Path s (exchangeEvents c (bindsTo port)) (s.bound c handle port) :=
  path_exchange hready hc rfl (fits_startRemoteForward _ _ (by decide) _) (fits_boundPort _ _)

theorem begin_localForward (hc : s.client.calls c = .idle) (handle : Nat) (port : UInt16) :
    SystemStep requestJson responseJson s
      (.client (.begin c (localForward handle port))) (s.begun c (localForward handle port)) :=
  .client (.forward hc)

/-- What the call has sent. -/
def System.issued (s : System) (handle : Nat) (port : UInt16) : Issued :=
  s.client.issue (localForward handle port)

/-- The system after the call has resumed. -/
def System.resumed (s : System) (c : CallId) (i : Issued) (port : UInt16) : System :=
  { s with client := s.client.complete c i (.requestOk i.id (.boundPort port)) }

theorem resumed_step {port : UInt16} (hc : s.client.calls c = .awaiting i)
    (hslot : s.client.slots c = .filled (.requestOk i.id (.boundPort port))) :
    SystemStep requestJson responseJson s (.client (.finish c)) (s.resumed c i port) :=
  finish_step hc hslot

theorem System.Ready.resumed (hr : s.Ready) (c : CallId) (i : Issued) (port : UInt16) :
    (s.resumed c i port).Ready := by
  obtain ⟨forwards, heq⟩ := s.client.complete_eq c i (.requestOk i.id (.boundPort port))
  refine ⟨?_, hr.link, hr.running, hr.reading, hr.requests, hr.reply⟩
  show (s.client.complete c i _).reader = _
  rw [heq]
  exact hr.reader

/-- The system after the dispatch task has taken the connection. -/
def System.took (s : System) (event : RemoteForwardEvent) : System :=
  { s with client := { s.client with
      events := s.client.events.tail
      dispatched :=
        s.client.dispatched ++ [(event, s.client.remoteForwards.lookup event.token)] } }

theorem System.Ready.took (hr : s.Ready) (event : RemoteForwardEvent) : (s.took event).Ready :=
  ⟨hr.reader, hr.link, hr.running, hr.reading, hr.requests, hr.reply⟩

theorem took_step {event : RemoteForwardEvent} {rest : List RemoteForwardEvent}
    (hlive : s.client.dispatching = true) (hevents : s.client.events = event :: rest) :
    SystemStep requestJson responseJson s (.client .dispatch) (s.took event) := by
  have htail : s.client.events.tail = rest := by rw [hevents]; rfl
  unfold System.took
  rw [htail]
  exact .client (.dispatch hlive hevents)

def visitor (token : UInt64) (number : Nat) : RemoteForwardEvent :=
  ⟨token, "192.0.2.7".toList, (40000 : UInt16).toUInt32, .connection number⟩

def shellHello : ExecutorHello := ⟨"/root".toList, "/bin/sh".toList, .shellLogin⟩

/-- A forward that was started and has resumed, from the beginning. -/
theorem run_forward (handle : Nat) (port : UInt16) :
    SystemRun requestJson responseJson shellHello
      (.client (.finish 0) :: exchangeEvents 0 (bindsTo port) ++
        [.client (.begin 0 (localForward handle port))])
      ((((System.new shellHello).begun 0 (localForward handle port)).bound 0 handle port).resumed 0
        ((System.new shellHello).issued handle port) port) :=
  (((Run.nil rfl : SystemRun requestJson responseJson shellHello [] _).cons
    (begin_localForward rfl handle port)).append
      (path_bound ((ready_new shellHello).begun ..) 0 handle port rfl)).cons (resumed_step rfl rfl)

/-- A connection that arrives after the call has resumed is found. -/
theorem connection_found :
    ∃ h s, Run (· = System.new shellHello)
        (restrict (SystemStep requestJson responseJson) AfterReturn) h s ∧
      s.client.dispatched = [(visitor 1 0, some ⟨7, "127.0.0.1".toList, 8080⟩)] ∧
      ∃ listener c i, Accepted requestJson responseJson shellHello (visitor 1 0) listener h ∧
        Bound s 1 listener c i := by
  let s₁ := (((System.new shellHello).begun 0 (localForward 7 8080)).bound 0 7 8080).resumed 0
    ((System.new shellHello).issued 7 8080) 8080
  have hready : s₁.Ready := (((ready_new shellHello).begun ..).answered ..).resumed ..
  have hr₂ := (run_forward 7 8080).append (path_connection hready "192.0.2.7".toList 40000 0 rfl rfl
    rfl (fits_remoteForwardIncoming 1 (by decide) _))
  have hall : ∀ e ∈ [SystemEvent.client (.receive (.room 1)), .process (.accept 1)] ++
      (.client (.finish 0) :: exchangeEvents 0 (bindsTo 8080) ++
        [.client (.begin 0 (localForward 7 8080))]), ∀ s, AfterReturn s e := by
    simp [exchangeEvents, askEvents, AfterReturn]
  have hafter : AfterReturn (s₁.reported (visitor 1 0)) (.client .dispatch) := by
    intro event rest _ c i hc
    by_cases hne : c = 0
    · subst hne
      cases hc
    · have hidle : (s₁.reported (visitor 1 0)).client.calls c = .idle := by
        show Function.update (Function.update (Function.update _ 0 _) 0 _) 0 _ c = _
        simp [hne, System.new, Client.new]
      rw [hidle] at hc
      cases hc
  have hr₃ := (hr₂.to_restrict hall).cons ⟨took_step rfl rfl, hafter⟩
  obtain ⟨listener, c, i, ha, hb, -⟩ := connections_found requestJson_lawful responseJson_lawful hr₃
    (visitor 1 0) (some ⟨7, "127.0.0.1".toList, 8080⟩) (List.mem_singleton_self _)
  exact ⟨_, _, hr₃, rfl, listener, c, i, ha, hb⟩

/-- **A connection that is lost.** The dispatch task has taken a connection of a first forward.
Before it is at work again the reader thread passes on the answer for a second forward and a
connection of that. The dispatch task takes the connection before the call resumes, and drops it;
the call then returns a success, and nobody has cancelled or abandoned anything. -/
theorem connection_lost :
    ∃ h s event i listener,
      SystemRun requestJson responseJson shellHello h s ∧
      (event, none) ∈ s.client.dispatched ∧
      Accepted requestJson responseJson shellHello event listener h ∧
      Bound s event.token listener 1 i ∧
      s.client.calls 1 = .returned i (.ok (.started event.token 8082)) ∧
      (∀ c, SystemEvent.client (.abandon c) ∉ h) ∧
      (∀ c token, SystemEvent.client (.begin c (.cancelRemoteForward token)) ∉ h) := by
  let s₁ := (((System.new shellHello).begun 0 (localForward 0 8081)).bound 0 0 8081).resumed 0
    ((System.new shellHello).issued 0 8081) 8081
  have hready₁ : s₁.Ready := (((ready_new shellHello).begun ..).answered ..).resumed ..
  have hr₁ := run_forward 0 8081
  have hfits : ∀ token, Fits responseJson
      (.remoteForwardIncoming token "192.0.2.7".toList (40000 : UInt16).toUInt32) :=
    fun token => fits_remoteForwardIncoming token (by decide) _
  let s₂ := (s₁.reported (visitor 1 0)).took (visitor 1 0)
  have hready₂ : s₂.Ready := (hready₁.reported _).took _
  have hr₂ : SystemRun requestJson responseJson shellHello _ s₂ :=
    (hr₁.append (path_connection hready₁ "192.0.2.7".toList 40000 0 rfl rfl rfl (hfits 1))).cons
      (took_step rfl rfl)
  let s₃ := (s₂.begun 1 (localForward 1 8082)).bound 1 1 8082
  have hready₃ : s₃.Ready := (hready₂.begun ..).answered ..
  have hr₃ : SystemRun requestJson responseJson shellHello _ s₃ :=
    (hr₂.cons (begin_localForward rfl 1 8082)).append
      (path_bound (hready₂.begun ..) 1 1 8082 rfl)
  let s₄ := (s₃.reported (visitor 2 1)).took (visitor 2 1)
  have hr₄ : SystemRun requestJson responseJson shellHello _ s₄ :=
    (hr₃.append (path_connection hready₃ "192.0.2.7".toList 40000 1 rfl rfl rfl (hfits 2))).cons
      (took_step rfl rfl)
  let s₅ := s₄.resumed 1 (s₂.issued 1 8082) 8082
  have hr₅ : SystemRun requestJson responseJson shellHello _ s₅ :=
    hr₄.cons (resumed_step rfl rfl)
  have hlost : (visitor 2 1, none) ∈ s₅.client.dispatched := by
    show (visitor 2 1, none) ∈ [(visitor 1 0, _), (visitor 2 1, none)]
    simp
  have hcall : s₅.client.calls 1 = .returned (s₂.issued 1 8082) (.ok (.started 2 8082)) := rfl
  -- only the second call has the token, so the connection is of its forward
  obtain ⟨listener, c, i, ha, hb⟩ :=
    (forwarded_of_run requestJson_lawful responseJson_lawful hr₅).reported.dispatched _ _ hlost
  have hissued : (s₅.client.calls 1).issued? = some (s₂.issued 1 8082) := rfl
  have hsame : c = 1 := token_unique hr₅ (by decide) hb.issued hissued hb.drawsToken rfl hb.token
  subst hsame
  cases hb.issued.symm.trans hissued
  refine ⟨_, s₅, visitor 2 1, _, listener, hr₅, hlost, ha, hb, hcall, ?_, ?_⟩
  · intro c
    simp [exchangeEvents, askEvents]
  · intro c token
    simp [exchangeEvents, askEvents, localForward]

end Narrowd.Executor
