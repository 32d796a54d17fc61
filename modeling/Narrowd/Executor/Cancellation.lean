import Narrowd.Executor.Dispatch

set_option autoImplicit false

/-! # Forwards that are cancelled

A forward stands in two tables, the daemon's registrations and the executor's listeners. Starting it
enters the listener first and the registration when the call returns; cancelling it takes out the
registration first and the listener when the executor gets to the request.

In between the tables differ. They agree again as soon as no such call is under way
(`registered_of_listening`), provided that only registered forwards are cancelled and that no such
request fails to be sent (`Orderly`). The other direction needs no waiting: a registered forward has
its listener at any time (`listening_of_registered`).
-/

namespace Narrowd.Executor

open Lib

variable {s : System} {h : List SystemEvent} {hello : ExecutorHello} {c : CallId} {e : ClientEvent}
  {d d' : Daemon} {i : Issued} {token : UInt64} {op : Operation} {p : Process}
  {response : ExecutorResponse}

section

variable {requests : SerdeJson ExecutorRequest} {responses : SerdeJson ExecutorResponse}

/-! ## What a call is for, from its first step on -/

theorem CallMove.op?_of_op? {gone : Bool} {call call' : Call} (hm : CallMove gone c e call call')
    (h : call.op? = some op) : call'.op? = some op := by
  cases hm <;> first | exact h | cases h

theorem ClientStep.op?_of_op? (hs : ClientStep requests responses d e d')
    (h : (d.client.calls c).op? = some op) : (d'.client.calls c).op? = some op := by
  rcases hs.call_cases c with heq | hm
  · rw [heq, h]
  · exact hm.op?_of_op? h

theorem ClientStep.op?_of_begin (hs : ClientStep requests responses d (.begin c op) d') :
    (d'.client.calls c).op? = some op := by
  cases hs <;> exact congrArg Call.op? (Client.setCall_calls_self ..)

/-- A call does what it was begun for. -/
theorem op?_of_begin (hr : SystemRun requests responses hello h s) :
    ∀ c op, .client (.begin c op) ∈ h → (s.client.calls c).op? = some op := by
  refine Run.invariant (P := fun h s => ∀ c op, SystemEvent.client (.begin c op) ∈ h →
    (s.client.calls c).op? = some op) ?_ ?_ hr
  · intro s _ c op hmem
    cases hmem
  · intro h s e s' _ ih hs c op hmem
    rcases List.mem_cons.mp hmem with rfl | hold
    · cases hs with
      | client hs => exact hs.op?_of_begin
    · cases hs with
      | client hs => exact hs.op?_of_op? (ih c op hold)
      | process => exact ih c op hold

/-- Only a call that needs a channel is refused one. -/
theorem opensChannel_of_refused (hr : SystemRun requests responses hello h s) :
    ∀ c op err, s.client.calls c = .refused op err → op.opensChannel = true := by
  refine Run.invariant (P := fun _ s => ∀ c op err, s.client.calls c = .refused op err →
    op.opensChannel = true) ?_ ?_ hr
  · rintro s rfl c op err hc
    cases hc
  · intro h s e s' _ ih hs c op err hc
    cases hs with
    | process => exact ih c op err hc
    | client hs =>
        rcases hs.call_cases c with heq | hm
        · exact ih c op err (heq ▸ hc)
        · rw [hc] at hm
          generalize hcall : s.client.calls c = call at hm
          cases hm with
          | refused =>
              cases hs with
              | openChannel _ hop => exact hop
              | openChannelFails _ hop => exact hop
              | forward => cases (Client.setCall_calls_self ..).symm.trans hc
              | cancel => cases (Client.setCall_calls_self ..).symm.trans hc

theorem Cancelled.exists_begin (hc : Cancelled c token h) :
    ∃ c', SystemEvent.client (.begin c' (.cancelRemoteForward token)) ∈ h := by
  induction hc with
  | here => exact ⟨_, List.mem_cons_self⟩
  | later _ ih =>
      obtain ⟨c', hmem⟩ := ih
      exact ⟨c', List.mem_cons_of_mem _ hmem⟩

/-! ## Requests that were never sent -/

/-- No request with the id is on its way, or past it. -/
structure Unsent (requests : SerdeJson ExecutorRequest) (s : System) (id : UInt64) : Prop where
  queued : ∀ dg ∈ s.link.toExecutor.queue, ∃ packet, Carries requests dg packet ∧
    requestId packet.message ≠ some id
  read : ∀ packet ∈ s.process.requests, requestId packet.message ≠ some id
  handled : ∀ entry ∈ s.process.handled, entry.1 ≠ id

theorem Issued.requestId_packet (i : Issued) : requestId i.packet.message = some i.id :=
  Operation.requestId_request ..

/-- What is in flight belongs to calls that have sent it. -/
theorem Isolated.unsent (hi : Isolated requests responses h s) (hfew : drawn h < 2 ^ 64)
    (hc : (s.client.calls c).issued? = some i) (hsent : (s.client.calls c).sent = false) :
    Unsent requests s i.id := by
  obtain ⟨hs, rs, qs, hf⟩ := hi.flight
  have hne : ∀ c' i', c' ∈ hs ++ rs ++ qs → (s.client.calls c').issued? = some i' →
      i'.id ≠ i.id := by
    intro c' i' hmem hc' hid
    have hsame := (hi.named hfew).eq_of_id hc' hc hid
    have := hf.sent c' hmem
    rw [hsame, hsent] at this
    cases this
  constructor
  · intro dg hdg
    obtain ⟨c', hmem, i', hc', hd⟩ := exists_mem_of_forall₂ hf.queued hdg
    refine ⟨i'.packet, hd, ?_⟩
    rw [i'.requestId_packet]
    exact fun heq => hne c' i' (List.mem_append_right _ hmem) hc' (Option.some.inj heq)
  · intro packet hpacket
    obtain ⟨c', hmem, i', hc', rfl⟩ := exists_mem_of_forall₂ hf.read hpacket
    rw [i'.requestId_packet]
    exact fun heq => hne c' i' (List.mem_append_left _ (List.mem_append_right _ hmem)) hc'
      (Option.some.inj heq)
  · intro entry hentry
    obtain ⟨c', hmem, i', hc', hout⟩ := exists_mem_of_forall₂ hf.recorded hentry
    rw [hout.id]
    exact hne c' i' (List.mem_append_left _ (List.mem_append_left _ hmem)) hc'

/-- A call that has returned sends nothing any more. -/
theorem Unsent.client {result : Except CallError Reply} (hu : Unsent requests s i.id)
    (hn : Named h s.client) (hc : s.client.calls c = .returned i result)
    (hs : ClientStep requests responses ⟨s.client, s.link⟩ e d) :
    Unsent requests ⟨d.client, d.link, s.process⟩ i.id := by
  refine ⟨?_, hu.read, hu.handled⟩
  intro dg hdg
  rcases hs.toExecutor with heq | ⟨c', i', dg', hbefore, -, hd, hqueue⟩
  · exact hu.queued dg (heq ▸ hdg)
  · change dg ∈ d.link.toExecutor.queue at hdg
    rw [hqueue] at hdg
    rcases List.mem_append.mp hdg with hold | hnew
    · exact hu.queued dg hold
    · rw [List.mem_singleton.mp hnew]
      refine ⟨i'.packet, hd, ?_⟩
      rw [i'.requestId_packet]
      intro heq
      -- the id would be that of two calls
      have hbefore' : s.client.calls c' = .registered i' := hbefore
      have hsame : c' = c := hn.eq_of_id (by rw [hbefore']; rfl) (by rw [hc]; rfl)
        (Option.some.inj heq)
      rw [hsame, hc] at hbefore'
      cases hbefore'

theorem Unsent.process (hlaw : requests.Lawful) {l : Link} {e : ProcessEvent} {id : UInt64}
    (hu : Unsent requests s id) (hf : InFlight requests s)
    (hs : ProcessStep requests responses s.process s.link e p l) :
    Unsent requests ⟨s.client, l, p⟩ id := by
  cases hs with
  | @receive packet pipe _ _ _ hrecv =>
      rcases recv_eq_some hrecv with ⟨dg, rest, hq, rfl⟩ | ⟨-, err, herr⟩
      · obtain ⟨packet', hd, hne⟩ := hu.queued dg (by rw [hq]; exact List.mem_cons_self)
        obtain ⟨rfl, -⟩ := eq_of_recv_eq_ok hlaw hq hd hrecv
        refine ⟨fun dg' hdg' => hu.queued dg' ?_, ?_, hu.handled⟩
        · rw [hq]
          exact List.mem_cons_of_mem _ hdg'
        · intro packet hpacket
          rcases List.mem_append.mp hpacket with hold | hnew
          · exact hu.read packet hold
          · rw [List.mem_singleton.mp hnew]
            exact hne
      · cases herr
  | receiveFails _ _ hrecv =>
      exact ⟨fun dg hdg => hu.queued dg ((recv_pipe hrecv).1 hdg), hu.read, hu.handled⟩
  | @handle os packet rest _ _ hrequests =>
      obtain ⟨c, i, -, -, rfl⟩ := hf.first hrequests
      obtain ⟨result, heq, -⟩ := handle_packet os s.process.state i
      refine ⟨hu.queued, fun packet hpacket => hu.read packet ?_, ?_⟩
      · rw [hrequests]
        exact List.mem_cons_of_mem _ hpacket
      · intro entry hentry
        change entry ∈ s.process.handled ++
          (s.process.state.handle os i.packet).2.2.toList at hentry
        rw [heq] at hentry
        rcases List.mem_append.mp hentry with hold | hnew
        · exact hu.handled entry hold
        · rw [List.mem_singleton.mp hnew]
          intro hid
          refine hu.read i.packet (by rw [hrequests]; exact List.mem_cons_self) ?_
          rw [i.requestId_packet]
          exact congrArg some hid
  | _ => exact ⟨hu.queued, hu.read, hu.handled⟩

/-! ## Senders that are dropped -/

/-- A sender is dropped when another call registers under its id, or when the call that has it gives
up. -/
theorem ClientStep.dropped_cases (hs : ClientStep requests responses d e d')
    (h : d'.client.slots c = .dropped) :
    d.client.slots c = .dropped ∨
    (∃ c' i, d.client.calls c' = .built i ∧ d.client.pending.lookup i.id = some c) ∨
    ∃ c' i err, e = .cleanUp c' ∧ d.client.calls c' = .sendFailed i err ∧
      d.client.pending.lookup i.id = some c := by
  cases hs with
  | @insert s l c' i hc =>
      rcases Registry.dropSender_eq_dropped h with hold | hself
      · exact Or.inl hold
      · exact Or.inr (Or.inl ⟨c', i, hc, hself⟩)
  | @cleanUp s l c' i err hc =>
      rcases Registry.dropSender_eq_dropped h with hold | hself
      · exact Or.inl hold
      · exact Or.inr (Or.inr ⟨c', i, err, rfl, hc, hself⟩)
  | @finish s l c' i response hc hslot =>
      obtain ⟨forwards, heq⟩ := s.complete_eq c' i response
      change (s.complete c' i response).slots c = _ at h
      rw [heq] at h
      exact Or.inl h
  | @receive s l packet pipe _ _ hrecv =>
      change (s.receive packet).slots c = _ at h
      rcases s.receive_cases packet with ⟨id, owner, -, -, heq⟩ | ⟨events, reader, heq, -⟩
      · rw [heq] at h
        by_cases hc : c = owner
        · subst hc
          simp at h
        · simp only [Function.update_of_ne hc] at h
          exact Or.inl h
      · rw [heq] at h
        exact Or.inl h
  | @drain s l =>
      change Registry.answerAll s.pending s.slots Client.channelClosed c = _ at h
      unfold Registry.answerAll at h
      split at h
      · cases h
      · exact Or.inl h
  | _ => exact Or.inl h

/-- **Only a call that has returned has its sender dropped.** -/
theorem returned_of_dropped (hreq : requests.Lawful) (hresp : responses.Lawful)
    (hr : SystemRun requests responses hello h s) (hfew : drawn h < 2 ^ 64) :
    ∀ c, s.client.slots c = .dropped → ∃ i result, s.client.calls c = .returned i result := by
  refine Run.invariant (P := fun h s => drawn h < 2 ^ 64 → ∀ c, s.client.slots c = .dropped →
    ∃ i result, s.client.calls c = .returned i result) ?_ ?_ hr hfew
  · rintro s rfl _ c hc
    cases hc
  · intro h s e s' hr ih hs hfew c hc
    have hbefore := Nat.lt_of_le_of_lt (drawn_le_cons e h) hfew
    cases hs with
    | process => exact ih hbefore c hc
    | @client e d hs =>
        have hi := isolated_of_run hreq hresp hr
        -- the sender under the id of a call is its own
        have howner : ∀ c' i', (s.client.calls c').issued? = some i' →
            s.client.pending.lookup i'.id = some c → c = c' := by
          intro c' i' hc' hlookup
          obtain ⟨i, hissued, hid⟩ := Call.issued_of_phase (hi.registry.owner _ c hlookup).1
          exact (hi.named hbefore).eq_of_id hissued hc' hid
        rcases hs.dropped_cases hc with
          hold | ⟨c', i', hbuilt, hlookup⟩ | ⟨c', i', err, rfl, hfailed, hlookup⟩
        · obtain ⟨i, result, hreturned⟩ := ih hbefore c hold
          exact ⟨i, result, hs.returned_of_returned hreturned⟩
        · have hbuilt' : s.client.calls c' = .built i' := hbuilt
          have hsame := howner c' i' (by rw [hbuilt']; rfl) hlookup
          subst hsame
          have hphase := (hi.registry.owner _ c hlookup).1
          change (s.client.calls c).phase = _ at hphase
          rw [hbuilt'] at hphase
          cases hphase
        · have hfailed' : s.client.calls c' = .sendFailed i' err := hfailed
          have hsame := howner c' i' (by rw [hfailed']; rfl) hlookup
          subst hsame
          cases hs with
          | cleanUp => exact ⟨_, _, Client.setCall_calls_self ..⟩

/-! ## What a call returns -/

/-- Only registered forwards are cancelled, and the request to cancel one is always sent. -/
def Orderly (s : System) : SystemEvent → Prop
  | .client (.begin _ (.cancelRemoteForward token)) => token ∈ s.client.remoteForwards
  | .client (.cleanUp c) => ∀ i err token, s.client.calls c = .sendFailed i err →
      i.op ≠ .cancelRemoteForward token
  | _ => True

abbrev OrderlyRun (requests : SerdeJson ExecutorRequest) (responses : SerdeJson ExecutorResponse)
    (hello : ExecutorHello) : List SystemEvent → System → Prop :=
  Run (· = System.new hello) (restrict (SystemStep requests responses) Orderly)

/-- **What a call returns is what the record says of it**, unless its request was never sent. -/
def Settled (requests : SerdeJson ExecutorRequest) (s : System) : Prop :=
  ∀ c i result, s.client.calls c = .returned i result →
    (Unsent requests s i.id ∧ ∀ token, i.op ≠ .cancelRemoteForward token) ∨
      ∃ response, Answers s.process.handled i response ∧ result = i.finish response

theorem Settled.client (hreq : requests.Lawful) (hresp : responses.Lawful)
    (hsettled : Settled requests s) (hr : SystemRun requests responses hello h s)
    (hfew : drawn h < 2 ^ 64) (hs : ClientStep requests responses ⟨s.client, s.link⟩ e d)
    (horderly : Orderly s (.client e)) (hreader : s.client.reader ≠ .drained) :
    Settled requests ⟨d.client, d.link, s.process⟩ := by
  have hi := isolated_of_run hreq hresp hr
  intro c i result hc
  rcases hs.return_cases hc with
    hold | ⟨err, rfl, hfailed, -⟩ | ⟨response, hslot, hcall, heq⟩ | ⟨hdropped, hcall, -⟩
  · rcases hsettled c i result hold with ⟨hunsent, hop⟩ | hanswered
    · exact Or.inl ⟨hunsent.client (hi.named hfew) hold hs, hop⟩
    · exact Or.inr hanswered
  · have hfailed' : s.client.calls c = .sendFailed i err := hfailed
    have hunsent : Unsent requests s i.id :=
      hi.unsent hfew (c := c) (by rw [hfailed']; rfl) (by rw [hfailed']; rfl)
    refine Or.inl ⟨?_, fun token => horderly i err token hfailed'⟩
    cases hs with
    | cleanUp => exact ⟨hunsent.queued, hunsent.read, hunsent.handled⟩
  · rcases hi.answered.slots c response hslot with ⟨-, hdrained⟩ | ⟨j, hj, hanswers⟩
    · exact absurd hdrained hreader
    · have hcall' : s.client.calls c = .awaiting i := hcall
      rw [hcall'] at hj
      cases hj
      exact Or.inr ⟨response, hanswers, heq⟩
  · obtain ⟨j, result', hreturned⟩ := returned_of_dropped hreq hresp hr hfew c hdropped
    have hcall' : s.client.calls c = .awaiting i := hcall
    rw [hcall'] at hreturned
    cases hreturned

theorem Settled.process (hreq : requests.Lawful) {l : Link} {e : ProcessEvent}
    (hsettled : Settled requests s) (hf : InFlight requests s)
    (hs : ProcessStep requests responses s.process s.link e p l) :
    Settled requests ⟨s.client, l, p⟩ := by
  intro c i result hc
  rcases hsettled c i result hc with ⟨hunsent, hop⟩ | ⟨response, ⟨hid, hjust⟩, hresult⟩
  · exact Or.inl ⟨hunsent.process hreq hf hs, hop⟩
  · exact Or.inr ⟨response, ⟨hid, hjust.mono hs.handled_subset⟩, hresult⟩

theorem settled_of_run (hreq : requests.Lawful) (hresp : responses.Lawful)
    (hr : OrderlyRun requests responses hello h s) (hfew : drawn h < 2 ^ 64)
    (hreader : s.client.reader ≠ .drained) : Settled requests s := by
  refine Run.invariant (P := fun h s => drawn h < 2 ^ 64 → s.client.reader ≠ .drained →
    Settled requests s) ?_ ?_ hr hfew hreader
  · rintro s rfl _ _ c i result hc
    cases hc
  · rintro h s e s' hr ih ⟨hs, horderly⟩ hfew hreader
    have hbefore := Nat.lt_of_le_of_lt (drawn_le_cons e h) hfew
    cases hs with
    | client hs =>
        have hreader' : s.client.reader ≠ .drained := fun h => hreader (hs.drained h)
        exact (ih hbefore hreader').client hreq hresp hr.of_restrict hbefore hs horderly hreader'
    | process hs =>
        exact (ih hbefore hreader).process hreq
          (isolated_of_run hreq hresp hr.of_restrict).flight hs

/-! ## The two tables -/

/-- A request that is handled now was not handled before. -/
theorem Isolated.first (hi : Isolated requests responses h s) (hfew : drawn h < 2 ^ 64)
    {packet : TransportPacket ExecutorRequest Fd} {rest : List (TransportPacket ExecutorRequest Fd)}
    (hq : s.process.requests = packet :: rest) :
    ∃ c i, (s.client.calls c).issued? = some i ∧ packet = i.packet ∧
      ∀ entry ∈ s.process.handled, entry.1 ≠ i.id := by
  obtain ⟨hs, rs, qs, hf⟩ := hi.flight
  have hread := hf.read
  rw [hq] at hread
  obtain ⟨c, later, ⟨i, hc, hp⟩, -, rfl⟩ := List.forall₂_cons_left_iff.mp hread
  refine ⟨c, i, hc, hp, fun entry hentry hid => ?_⟩
  obtain ⟨c', hmem, i', hc', hout⟩ := exists_mem_of_forall₂ hf.recorded hentry
  have hsame := (hi.named hfew).eq_of_id hc' hc (hout.id.symm.trans hid)
  subst hsame
  have hnodup : (hs ++ (c' :: later)).Nodup := hf.nodup.of_append_left
  exact (List.nodup_append.mp hnodup).2.2 c' hmem c' List.mem_cons_self rfl

/-- A forward that is being cancelled is not registered any more, and the call that has started it
has returned. -/
def Withdrawn (s : System) : Prop :=
  ∀ c token, (s.client.calls c).op? = some (.cancelRemoteForward token) →
    token ∉ s.client.remoteForwards ∧
      ∃ c' i reply, s.client.calls c' = .returned i (.ok reply) ∧ i.op.drawsToken = true ∧
        i.token = token

theorem Withdrawn.client (hreq : requests.Lawful) (hresp : responses.Lawful) (hw : Withdrawn s)
    (hr : SystemRun requests responses hello h s) (hfew : drawn h < 2 ^ 64)
    (hs : ClientStep requests responses ⟨s.client, s.link⟩ e d) (horderly : Orderly s (.client e)) :
    Withdrawn ⟨d.client, d.link, s.process⟩ := by
  intro c token hop
  have hbefore : (s.client.calls c).op? = some (.cancelRemoteForward token) ∨
      e = .begin c (.cancelRemoteForward token) := by
    rcases hs.call_cases c with heq | hm
    · exact Or.inl (heq ▸ hop)
    · exact hm.op? hop
  rcases hbefore with hold | rfl
  · obtain ⟨hnone, c', i, reply, hreturned, hdraws, rfl⟩ := hw c token hold
    refine ⟨?_, c', i, reply, hs.returned_of_returned hreturned, hdraws, rfl⟩
    exact hs.not_mem_of_returned hr hfew hreturned hdraws hnone
  · have hin : token ∈ s.client.remoteForwards := horderly
    obtain ⟨registration, hlookup⟩ := Table.exists_lookup_of_mem hin
    obtain ⟨c', i, bind, port, hreturned, hstart, htoken⟩ :=
      (forwarded_of_run hreq hresp hr).registrations.current token registration hlookup
    refine ⟨?_, c', i, _, hs.returned_of_returned hreturned, by rw [hstart]; rfl, htoken⟩
    cases hs with
    | openChannel _ hopens => cases hopens
    | openChannelFails _ hopens => cases hopens
    | cancel => exact fun h => (AList.mem_erase.mp h).1 rfl

/-- What has become of the requests that were handled: a forward that was bound has its listener,
unless somebody is cancelling it, and one that was cancelled has none. -/
def CarriedOut (s : System) : Prop :=
  ∀ entry ∈ s.process.handled, ∃ c i, (s.client.calls c).issued? = some i ∧ i.id = entry.1 ∧
    (∀ port, entry.2 = .ok (.bound port) → i.op.drawsToken = true ∧
      (i.token ∈ s.process.state.remoteForwards ∨
        ∃ c', (s.client.calls c').op? = some (.cancelRemoteForward i.token))) ∧
    ∀ token, i.op = .cancelRemoteForward token → token ∉ s.process.state.remoteForwards

theorem CarriedOut.client (hco : CarriedOut s)
    (hs : ClientStep requests responses ⟨s.client, s.link⟩ e d) :
    CarriedOut ⟨d.client, d.link, s.process⟩ := by
  intro entry hentry
  obtain ⟨c, i, hc, hid, hbound, hcancelled⟩ := hco entry hentry
  refine ⟨c, i, hs.issued?_of_issued c i hc, hid, fun port hport => ?_, hcancelled⟩
  obtain ⟨hdraws, hlistens | ⟨c', hop⟩⟩ := hbound port hport
  · exact ⟨hdraws, Or.inl hlistens⟩
  · exact ⟨hdraws, Or.inr ⟨c', hs.op?_of_op? hop⟩⟩

/-- A request for which a port was bound has put its listener into the table. -/
theorem listening_of_handle {os : Surroundings} {state : ExecutorState} {port : UInt16}
    (h : (state.handle os i.packet).2.2 = some (i.id, .ok (.bound port))) :
    i.op.drawsToken = true ∧ i.token ∈ (state.handle os i.packet).1.remoteForwards := by
  obtain ⟨op, stream, id, token⟩ := i
  have hresult : ∀ result : Except AnyError Done,
      some (id, result) = some (id, Except.ok (Done.bound port)) → result = .ok (.bound port) :=
    fun _ heq => (Prod.mk.inj (Option.some.inj heq)).2
  cases op with
  | startProcess request =>
      obtain ⟨hello, fd, -, heq⟩ := startProcess_eq_ok (hresult _ h)
      cases heq
  | startSftp =>
      obtain ⟨homeDir, fd, -, heq⟩ := startSftp_eq_ok (hresult _ h)
      cases heq
  | connectTcp host port =>
      obtain ⟨fd, -, heq⟩ := connectTcp_eq_ok (hresult _ h)
      cases heq
  | cancelRemoteForward gone => cases cancelRemoteForward_eq_ok (hresult _ h)
  | startRemoteForward handle connected address bindPort =>
      refine ⟨rfl, ?_⟩
      show token ∈ (state.startRemoteForward os token address bindPort).1.remoteForwards
      have hok : (state.startRemoteForward os token address bindPort).2 = .ok (.bound port) :=
        hresult _ h
      rcases startRemoteForward_cases os state token address bindPort with ⟨bound, heq⟩ | ⟨err, heq⟩
      · rw [heq]
        exact (AList.mem_insert _).mpr (Or.inl rfl)
      · rw [heq] at hok
        cases hok

/-- A forward that was cancelled has no listener. -/
theorem not_listening_of_handle (os : Surroundings) (state : ExecutorState)
    (hop : i.op = .cancelRemoteForward token) :
    token ∉ (state.handle os i.packet).1.remoteForwards := by
  obtain ⟨op, stream, id, drawn⟩ := i
  cases hop
  show token ∉ (state.cancelRemoteForward token).1.remoteForwards
  rcases cancelRemoteForward_cases state token with heq | ⟨hnone, err, heq⟩
  · rw [heq]
    exact fun h => (AList.mem_erase.mp h).1 rfl
  · rw [heq]
    exact AList.lookup_eq_none.mp hnone

/-- A call that has returned a success was handled. -/
theorem Answered.handled_of_ok (ha : Answered responses s) {reply : Reply}
    (hc : s.client.calls c = .returned i (.ok reply)) :
    ∃ done, (i.id, .ok done) ∈ s.process.handled := by
  obtain ⟨response, ⟨hid, hjust⟩, hfinish⟩ := ha.returned c i reply hc
  obtain ⟨id, detail, rfl⟩ := Issued.finish_eq_ok hfinish
  cases hid
  obtain ⟨done, hmem, -⟩ := hjust
  exact ⟨done, hmem⟩

theorem CarriedOut.process (hreq : requests.Lawful) (hresp : responses.Lawful) {l : Link}
    {e : ProcessEvent} (hco : CarriedOut s) (hw : Withdrawn s)
    (hr : SystemRun requests responses hello h s) (hfew : drawn h < 2 ^ 64)
    (hs : ProcessStep requests responses s.process s.link e p l) : CarriedOut ⟨s.client, l, p⟩ := by
  cases hs with
  | @handle os packet rest _ _ hrequests =>
      have hi := isolated_of_run hreq hresp hr
      obtain ⟨c₁, i₁, hc₁, rfl, hnew⟩ := hi.first hfew hrequests
      obtain ⟨result, hanswer, -⟩ := handle_packet os s.process.state i₁
      intro entry hentry
      change entry ∈ s.process.handled ++ (s.process.state.handle os i₁.packet).2.2.toList at hentry
      rw [hanswer] at hentry
      rcases List.mem_append.mp hentry with hold | hself
      · obtain ⟨c, i, hc, hid, hbound, hcancelled⟩ := hco entry hold
        refine ⟨c, i, hc, hid, fun port hport => ?_, fun token hop => ?_⟩
        · obtain ⟨hdraws, hlistens | hgoing⟩ := hbound port hport
          · refine ⟨hdraws, ?_⟩
            rcases mem_handle_or_cancels os s.process.state i₁ hlistens with hstays | hop
            · exact Or.inl hstays
            · exact Or.inr ⟨c₁, hop ▸ Call.op?_of_issued hc₁⟩
          · exact ⟨hdraws, Or.inr hgoing⟩
        · intro hin
          rcases mem_of_mem_handle hin with hin | ⟨htoken, hstarts⟩
          · exact hcancelled token hop hin
          · -- the forward under this token was handled before it could be cancelled
            obtain ⟨-, c', i', reply, hreturned, hdraws, htoken'⟩ :=
              hw c token (hop ▸ Call.op?_of_issued hc)
            have hissued : (s.client.calls c').issued? = some i' := by rw [hreturned]; rfl
            have hsame : c' = c₁ :=
              token_unique hr hfew hissued hc₁ hdraws hstarts (htoken'.trans htoken)
            subst hsame
            cases hissued.symm.trans hc₁
            obtain ⟨done, hdone⟩ := hi.answered.handled_of_ok hreturned
            exact hnew _ hdone rfl
      · rw [List.mem_singleton.mp hself]
        refine ⟨c₁, i₁, hc₁, rfl, fun port hport => ?_, fun token hop => ?_⟩
        · have hentry : (s.process.state.handle os i₁.packet).2.2 =
              some (i₁.id, .ok (.bound port)) := by
            rw [hanswer]
            exact congrArg (fun r => some (i₁.id, r)) hport
          exact (listening_of_handle hentry).imp_right Or.inl
        · exact not_listening_of_handle os s.process.state hop
  | @acceptEnds closed listener _ hclosed =>
      have hmem : closed ∈ s.process.state.remoteForwards :=
        AList.lookup_isSome.mp (by rw [hclosed]; rfl)
      have hiff : ∀ token, token ∈ s.process.state.remoteForwards.insert closed
          { listener with accepting := false } ↔ token ∈ s.process.state.remoteForwards := by
        intro token
        rw [AList.mem_insert]
        refine ⟨?_, Or.inr⟩
        rintro (rfl | hin)
        · exact hmem
        · exact hin
      intro entry hentry
      obtain ⟨c, i, hc, hid, hbound, hcancelled⟩ := hco entry hentry
      refine ⟨c, i, hc, hid, fun port hport => ?_, fun token hop h => ?_⟩
      · obtain ⟨hdraws, hfate⟩ := hbound port hport
        exact ⟨hdraws, hfate.imp_left (hiff i.token).mpr⟩
      · exact hcancelled token hop ((hiff token).mp h)
  | _ => exact hco

theorem tables_of_run (hreq : requests.Lawful) (hresp : responses.Lawful)
    (hr : OrderlyRun requests responses hello h s) (hfew : drawn h < 2 ^ 64) :
    Withdrawn s ∧ CarriedOut s := by
  refine Run.invariant (P := fun h s => drawn h < 2 ^ 64 → Withdrawn s ∧ CarriedOut s) ?_ ?_ hr hfew
  · rintro s rfl _
    exact ⟨(fun _ _ hop => nomatch hop), (fun _ hentry => nomatch hentry)⟩
  · rintro h s e s' hr ih ⟨hs, horderly⟩ hfew
    have hbefore := Nat.lt_of_le_of_lt (drawn_le_cons e h) hfew
    obtain ⟨hw, hco⟩ := ih hbefore
    cases hs with
    | client hs =>
        exact ⟨hw.client hreq hresp hr.of_restrict hbefore hs horderly, hco.client hs⟩
    | process hs => exact ⟨hw, hco.process hreq hresp hw hr.of_restrict hbefore hs⟩

/-- **A registered forward has its listener**, which the executor has bound for the call that
registered it. -/
theorem listening_of_registered (hreq : requests.Lawful) (hresp : responses.Lawful)
    (hr : OrderlyRun requests responses hello h s) (hfew : drawn h < 2 ^ 64)
    (hin : token ∈ s.client.remoteForwards) :
    ∃ listener c i, s.process.state.remoteForwards.lookup token = some listener ∧
      Bound s token listener c i ∧
      s.client.calls c = .returned i (.ok (.started token listener.boundPort.toUInt32)) := by
  have hrun := hr.of_restrict
  have hi := isolated_of_run hreq hresp hrun
  have hf := forwarded_of_run hreq hresp hrun
  obtain ⟨hw, hco⟩ := tables_of_run hreq hresp hr hfew
  obtain ⟨registration, hlookup⟩ := Table.exists_lookup_of_mem hin
  obtain ⟨c, i, bind, port, hreturned, hop, rfl⟩ :=
    hf.registrations.current token registration hlookup
  have hissued : (s.client.calls c).issued? = some i := by rw [hreturned]; rfl
  obtain ⟨response, hanswers, hfinish⟩ := hi.answered.returned c i _ hreturned
  obtain ⟨bound, hbound, hport⟩ := bound_of_started hanswers hfinish
  obtain ⟨c', i', hc', hid, hfate, -⟩ := hco _ hbound
  have hsame := (hi.named hfew).eq_of_id hc' hissued hid
  subst hsame
  cases hissued.symm.trans hc'
  obtain ⟨hdraws, hlistens | ⟨c₁, hcancels⟩⟩ := hfate bound rfl
  · obtain ⟨listener, hlistener⟩ := Table.exists_lookup_of_mem hlistens
    obtain ⟨c₂, i₂, hb⟩ := hf.hosted i.token listener hlistener
    have hsame : c₂ = c' := token_unique hrun hfew hb.issued hissued hb.drawsToken hdraws hb.token
    subst hsame
    cases hissued.symm.trans hb.issued
    cases hi.result_unique hfew hbound hb.handled
    exact ⟨listener, c₂, i, hlistener, hb, hport ▸ hreturned⟩
  · exact absurd hin (hw c₁ i.token hcancels).1

/-- The answer to a forward that was bound says so. -/
theorem Answers.finish_of_bound (hi : Isolated requests responses h s) (hfew : drawn h < 2 ^ 64)
    {port : UInt16} (ha : Answers s.process.handled i response) (hop : i.op.drawsToken = true)
    (hbound : (i.id, .ok (.bound port)) ∈ s.process.handled) :
    i.finish response = .ok (.started i.token port.toUInt32) := by
  obtain ⟨hid, hjust⟩ := ha
  cases response with
  | requestOk id detail =>
      cases hid
      obtain ⟨done, hmem, rfl⟩ := hjust
      cases hi.result_unique hfew hmem hbound
      obtain ⟨op, stream, id, token⟩ := i
      cases op with
      | startRemoteForward => rfl
      | _ => cases hop
  | requestErr id message =>
      cases hid
      obtain ⟨err, hmem, -⟩ := hjust
      cases hi.result_unique hfew hmem hbound
  | _ => cases hid

/-- What is answered was handled. -/
theorem Answers.handled {handled : List (UInt64 × Except AnyError Done)}
    (ha : Answers handled i response) : ∃ result, (i.id, result) ∈ handled := by
  obtain ⟨hid, hjust⟩ := ha
  cases response with
  | requestOk id detail =>
      cases hid
      obtain ⟨done, hmem, -⟩ := hjust
      exact ⟨_, hmem⟩
  | requestErr id message =>
      cases hid
      obtain ⟨err, hmem, -⟩ := hjust
      exact ⟨_, hmem⟩
  | _ => cases hid

/-- **When every call for a forward has returned, a listener's forward is registered.** -/
theorem registered_of_listening (hreq : requests.Lawful) (hresp : responses.Lawful)
    (hr : OrderlyRun requests responses hello h s) (hfew : drawn h < 2 ^ 64)
    (hreader : s.client.reader ≠ .drained)
    (hdone : ∀ c op, (s.client.calls c).op? = some op → isForwarding op = true →
      ∃ i result, s.client.calls c = .returned i result)
    (hin : token ∈ s.process.state.remoteForwards) : token ∈ s.client.remoteForwards := by
  have hrun := hr.of_restrict
  have hi := isolated_of_run hreq hresp hrun
  have hsettled := settled_of_run hreq hresp hr hfew hreader
  obtain ⟨listener, hlistener⟩ := Table.exists_lookup_of_mem hin
  obtain ⟨c, i, hb⟩ := (forwarded_of_run hreq hresp hrun).hosted token listener hlistener
  obtain ⟨j, result, hreturned⟩ := hdone c i.op (Call.op?_of_issued hb.issued)
    (isForwarding_of_drawsToken hb.drawsToken)
  have hissued := hb.issued
  rw [hreturned] at hissued
  cases hissued
  rcases hsettled c i result hreturned with ⟨hunsent, -⟩ | ⟨response, hanswers, rfl⟩
  · exact absurd rfl (hunsent.handled _ hb.handled)
  · rw [hanswers.finish_of_bound hi hfew hb.drawsToken hb.handled, hb.token] at hreturned
    rcases registered_or_cancelled hrun c i _ hreturned hb.drawsToken with ⟨_, hlookup⟩ | hcancelled
    · rw [hb.token] at hlookup
      exact AList.lookup_isSome.mp (by rw [hlookup]; rfl)
    · -- the call that cancels it has returned, so its request was handled
      rw [hb.token] at hcancelled
      obtain ⟨c', hbegun⟩ := hcancelled.exists_begin
      have hop := op?_of_begin hrun c' _ hbegun
      obtain ⟨i', result', hreturned'⟩ := hdone c' _ hop rfl
      have hissued' : (s.client.calls c').issued? = some i' := by rw [hreturned']; rfl
      have hcancels : i'.op = .cancelRemoteForward token :=
        Option.some.inj ((Call.op?_of_issued hissued').symm.trans hop)
      rcases hsettled c' i' result' hreturned' with ⟨-, hnot⟩ | ⟨response', hanswers', -⟩
      · exact absurd hcancels (hnot token)
      · obtain ⟨outcome, hmem⟩ := hanswers'.handled
        obtain ⟨c₁, i₁, hc₁, hid, -, hgone⟩ := (tables_of_run hreq hresp hr hfew).2 _ hmem
        have hsame := (hi.named hfew).eq_of_id hc₁ hissued' hid
        subst hsame
        cases hc₁.symm.trans hissued'
        exact absurd hin (hgone token hcancels)

end

end Narrowd.Executor
