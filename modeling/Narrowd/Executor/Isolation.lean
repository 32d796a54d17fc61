import Narrowd.Executor.Flight

set_option autoImplicit false

/-! # Sessions do not meet at the executor

All sessions share one control channel, one table of waiting calls and one counter of request ids.
Still a call that returns a stream has it connected to the service that the executor started for
that very request (`sessions_isolated`).

The argument follows one request through the system: `Flight` says where it is and what is
recorded of it. A response says what the record says (`Justified`), and it reaches the call whose
id it carries (`Answered`).
-/

namespace Narrowd.Executor

open Lib

variable {s : System} {d d' : Daemon} {e : ClientEvent} {c : CallId}
  {handled : List (UInt64 × Except AnyError Done)} {answer response : ExecutorResponse}
  {packet : TransportPacket ExecutorResponse Fd}

section

variable {requests : SerdeJson ExecutorRequest} {responses : SerdeJson ExecutorResponse}

/-! ## What the responses say -/

/-- A response says what the record says of its request. -/
def Justified (handled : List (UInt64 × Except AnyError Done)) : ExecutorResponse → Prop
  | .requestOk id detail => ∃ done, (id, .ok done) ∈ handled ∧ detail = done.detail
  | .requestErr id message => ∃ err, (id, .error err) ∈ handled ∧ message = err.alternate
  | _ => True

/-- What is said of a request stays true as the record grows. -/
theorem Justified.mono {handled' : List (UInt64 × Except AnyError Done)}
    (hj : Justified handled response) (hsub : handled ⊆ handled') :
    Justified handled' response := by
  cases response with
  | requestOk id detail =>
      obtain ⟨done, hmem, hdetail⟩ := hj
      exact ⟨done, hsub hmem, hdetail⟩
  | requestErr id message =>
      obtain ⟨err, hmem, hmessage⟩ := hj
      exact ⟨err, hsub hmem, hmessage⟩
  | _ => trivial

theorem Justified.append (hj : Justified handled response)
    (more : List (UInt64 × Except AnyError Done)) : Justified (handled ++ more) response :=
  hj.mono (List.subset_append_left ..)

/-- The answer to a request that has just been recorded. -/
theorem justified_sendRequestResult (handled : List (UInt64 × Except AnyError Done)) (id : UInt64)
    (result : Except AnyError Done) :
    Justified (handled ++ [(id, result)]) (sendRequestResult id result) := by
  cases result with
  | ok done => exact ⟨done, by simp, rfl⟩
  | error err => exact ⟨err, by simp, rfl⟩

/-- The response answers the call, and says what the record says of it. -/
def Answers (handled : List (UInt64 × Except AnyError Done)) (i : Issued)
    (response : ExecutorResponse) : Prop :=
  responseId response = some i.id ∧ Justified handled response

/-- **Responses reach the calls they answer.** What the executor has to say, what is in the socket
and what a call has got is in the record under the call's own id, the error of the drain apart. -/
structure Answered (responses : SerdeJson ExecutorResponse) (s : System) : Prop where
  reply : ∀ response, s.process.reply = some response → Justified s.process.handled response
  queued : ∀ dg ∈ s.link.toClient.queue, ∃ packet, Carries responses dg packet ∧
    Justified s.process.handled packet.message
  slots : ∀ c response, s.client.slots c = .filled response →
    (response = Client.channelClosed ∧ s.client.reader = .drained) ∨
      ∃ i, (s.client.calls c).issued? = some i ∧ Answers s.process.handled i response
  returned : ∀ c i reply, s.client.calls c = .returned i (.ok reply) →
    ∃ response, Answers s.process.handled i response ∧ i.finish response = .ok reply

/-! ### The daemon's steps -/

theorem ClientStep.toClient_subset (hs : ClientStep requests responses d e d') :
    d'.link.toClient.queue ⊆ d.link.toClient.queue := by
  cases hs with
  | receive _ hrecv => exact (recv_pipe hrecv).1
  | receiveFails _ hrecv => exact (recv_pipe hrecv).1
  | _ => exact List.Subset.refl _

/-- A call whose sender stands in `pending` has the request of that id. -/
theorem Call.issued_of_phase {call : Call} {id : UInt64} (h : call.phase = .waiting id) :
    ∃ i, call.issued? = some i ∧ i.id = id := by
  cases call with
  | registered i => cases h; exact ⟨i, rfl, rfl⟩
  | sendFailed i err => cases h; exact ⟨i, rfl, rfl⟩
  | awaiting i => cases h; exact ⟨i, rfl, rfl⟩
  | abandoned i => cases h; exact ⟨i, rfl, rfl⟩
  | _ => cases h

/-- The reader passes a response to the call registered under its id. -/
theorem Client.receive_slots {s : Client} (h : (s.receive packet).slots c = .filled answer) :
    s.slots c = .filled answer ∨ (answer = packet.message ∧
      ∃ id, responseId answer = some id ∧ s.pending.lookup id = some c) := by
  rcases s.receive_cases packet with ⟨id, owner, hid, howner, heq⟩ | ⟨events, reader, heq, -⟩
  · rw [heq] at h
    by_cases hc : c = owner
    · subst hc
      simp only [Function.update_self] at h
      cases h
      exact Or.inr ⟨rfl, id, hid, howner⟩
    · simp only [Function.update_of_ne hc] at h
      exact Or.inl h
  · rw [heq] at h
    exact Or.inl h

/-- A call gets an answer from the reader thread: one it has received, or that of the drain. -/
theorem ClientStep.slots_cases (hs : ClientStep requests responses d e d')
    (h : d'.client.slots c = .filled answer) :
    d.client.slots c = .filled answer ∨
    (answer = Client.channelClosed ∧ d'.client.reader = .drained) ∨
    ∃ packet pipe reception id,
      ControlReader.recv responses reception d.link.toClient = some (.ok packet, pipe) ∧
      answer = packet.message ∧ responseId answer = some id ∧
      d.client.pending.lookup id = some c := by
  cases hs with
  | insert => exact Or.inl (Registry.dropSender_eq_filled h)
  | cleanUp => exact Or.inl (Registry.dropSender_eq_filled h)
  | @finish s l c' i response hc hslot =>
      obtain ⟨forwards, heq⟩ := s.complete_eq c' i response
      change (s.complete c' i response).slots c = _ at h
      rw [heq] at h
      exact Or.inl h
  | @receive s l packet pipe _ _ hrecv =>
      rcases Client.receive_slots h with hold | ⟨hanswer, id, hid, howner⟩
      · exact Or.inl hold
      · exact Or.inr (Or.inr ⟨packet, pipe, _, id, hrecv, hanswer, hid, howner⟩)
  | @drain s l =>
      change Registry.answerAll s.pending s.slots Client.channelClosed c = _ at h
      unfold Registry.answerAll at h
      split at h
      · cases h
        exact Or.inr (Or.inl ⟨rfl, rfl⟩)
      · exact Or.inl h
  | _ => exact Or.inl h

/-- **How a call returns**: after a send that has failed, with the response it has got, or because
its sender was dropped. -/
theorem ClientStep.return_cases (hs : ClientStep requests responses d e d') {i : Issued}
    {result : Except CallError Reply} (h : d'.client.calls c = .returned i result) :
    d.client.calls c = .returned i result ∨
    (∃ err, e = .cleanUp c ∧ d.client.calls c = .sendFailed i err ∧ result = .error (.any err)) ∨
    (∃ response, d.client.slots c = .filled response ∧ d.client.calls c = .awaiting i ∧
      result = i.finish response) ∨
    (d.client.slots c = .dropped ∧ d.client.calls c = .awaiting i ∧
      ∃ err, result = .error err) := by
  rcases hs.call_cases c with heq | hm
  · exact Or.inl (heq ▸ h)
  · rw [h] at hm
    generalize hcall : d.client.calls c = call at hm
    cases hm with
    | cleansUp => exact Or.inr (Or.inl ⟨_, rfl, rfl, rfl⟩)
    | finishes =>
        cases hs with
        | @finish s l _ j response hc hslot =>
            change (s.complete c j response).calls c = _ at h
            rw [Client.complete_calls, Client.setCall_calls_self] at h
            obtain ⟨rfl, rfl⟩ := Call.returned.inj h
            exact Or.inr (Or.inr (Or.inl ⟨response, hslot, rfl, rfl⟩))
        | @finishDropped s l _ j hc hslot =>
            change (s.setCall c _).calls c = _ at h
            rw [Client.setCall_calls_self] at h
            obtain ⟨rfl, rfl⟩ := Call.returned.inj h
            exact Or.inr (Or.inr (Or.inr ⟨hslot, rfl, _, rfl⟩))

/-- A call returns a success only with the response it has got. -/
theorem ClientStep.returned_cases (hs : ClientStep requests responses d e d') {i : Issued}
    {reply : Reply} (h : d'.client.calls c = .returned i (.ok reply)) :
    d.client.calls c = .returned i (.ok reply) ∨
      ∃ response, d.client.slots c = .filled response ∧ d.client.calls c = .awaiting i ∧
        i.finish response = .ok reply := by
  rcases hs.return_cases h with
    hold | ⟨err, -, -, heq⟩ | ⟨response, hslot, hcall, heq⟩ | ⟨-, -, err, heq⟩
  · exact Or.inl hold
  · cases heq
  · exact Or.inr ⟨response, hslot, hcall, heq.symm⟩
  · cases heq

/-- The reader thread does not come back. -/
theorem ClientStep.drained (hs : ClientStep requests responses d e d')
    (h : d.client.reader = .drained) : d'.client.reader = .drained := by
  cases hs with
  | @finish s l c i response =>
      obtain ⟨forwards, heq⟩ := s.complete_eq c i response
      show (s.complete c i response).reader = _
      rw [heq]
      exact h
  | receive hreader =>
      rw [hreader] at h
      cases h
  | receiveFails hreader =>
      rw [hreader] at h
      cases h
  | drain => rfl
  | _ => exact h

theorem Answered.client (hlaw : responses.Lawful) (ha : Answered responses s)
    (hreg : Registry.Inv s.client.registry)
    (hs : ClientStep requests responses ⟨s.client, s.link⟩ e d) :
    Answered responses ⟨d.client, d.link, s.process⟩ where
  reply := ha.reply
  queued dg hdg := ha.queued dg (hs.toClient_subset hdg)
  slots c answer h := by
    rcases hs.slots_cases h with hold | hclosed | ⟨packet, pipe, _, id, hrecv, rfl, hid, howner⟩
    · rcases ha.slots c answer hold with ⟨hclosed, hdrained⟩ | ⟨i, hi, hanswers⟩
      · exact Or.inl ⟨hclosed, hs.drained hdrained⟩
      · exact Or.inr ⟨i, hs.issued?_of_issued c i hi, hanswers⟩
    · exact Or.inl hclosed
    · -- the packet was in the socket, and its id is that of the call it goes to
      rcases recv_eq_some hrecv with ⟨dg, rest, hq, -⟩ | ⟨-, err, herr⟩
      · obtain ⟨packet', hd, hjust⟩ := ha.queued dg (by
          show dg ∈ s.link.toClient.queue
          rw [hq]
          exact List.mem_cons_self ..)
        obtain ⟨rfl, -⟩ := eq_of_recv_eq_ok hlaw hq hd hrecv
        obtain ⟨i, hi, rfl⟩ := Call.issued_of_phase (hreg.owner id c howner).1
        exact Or.inr ⟨i, hs.issued?_of_issued c i hi, hid, hjust⟩
      · cases herr
  returned c i reply h := by
    rcases hs.returned_cases h with hold | ⟨response, hslot, hcall, hfinish⟩
    · exact ha.returned c i reply hold
    · rcases ha.slots c response hslot with ⟨rfl, -⟩ | ⟨j, hj, hanswers⟩
      · obtain ⟨id, detail, heq⟩ := Issued.finish_eq_ok hfinish
        cases heq
      · have hsame : j = i := by
          change s.client.calls c = _ at hcall
          rw [hcall] at hj
          exact (Option.some.inj hj).symm
        subst hsame
        exact ⟨response, hanswers, hfinish⟩

/-! ### The executor's steps -/

/-- A longer record says the same of what it already had. -/
theorem Answered.record (ha : Answered responses s) {p : Process}
    (more : List (UInt64 × Except AnyError Done)) (hmore : p.handled = s.process.handled ++ more)
    (hreply : ∀ response, p.reply = some response → Justified p.handled response) :
    Answered responses ⟨s.client, s.link, p⟩ where
  reply := hreply
  queued dg hdg := by
    obtain ⟨packet, hd, hj⟩ := ha.queued dg hdg
    refine ⟨packet, hd, ?_⟩
    show Justified p.handled _
    rw [hmore]
    exact hj.append more
  slots c answer h := by
    rcases ha.slots c answer h with hclosed | ⟨i, hi, hid, hj⟩
    · exact Or.inl hclosed
    · refine Or.inr ⟨i, hi, hid, ?_⟩
      show Justified p.handled _
      rw [hmore]
      exact hj.append more
  returned c i reply h := by
    obtain ⟨response, ⟨hid, hj⟩, hfinish⟩ := ha.returned c i reply h
    refine ⟨response, ⟨hid, ?_⟩, hfinish⟩
    show Justified p.handled _
    rw [hmore]
    exact hj.append more

/-- A message that says what the record says may be sent. -/
theorem Answered.write (ha : Answered responses s) {fault : Option IoError} {pipe : Pipe Fd}
    (hj : Justified s.process.handled packet.message)
    (hsend : ControlWriter.send responses fault s.link.toClient packet = .ok pipe) :
    Answered responses ⟨s.client, { s.link with toClient := pipe }, s.process⟩ where
  reply := ha.reply
  queued dg hdg := by
    obtain ⟨-, dg', hd, rfl⟩ := send_eq_ok hsend
    rcases List.mem_append.mp hdg with hold | hnew
    · exact ha.queued dg hold
    · rw [List.mem_singleton.mp hnew]
      exact ⟨packet, hd, hj⟩
  slots := ha.slots
  returned := ha.returned

theorem Answered.process {p : Process} {l : Link} {e : ProcessEvent} (ha : Answered responses s)
    (hf : InFlight requests s) (hs : ProcessStep requests responses s.process s.link e p l) :
    Answered responses ⟨s.client, l, p⟩ := by
  cases hs with
  | receive => exact ⟨ha.reply, ha.queued, ha.slots, ha.returned⟩
  | receiveFails => exact ⟨ha.reply, ha.queued, ha.slots, ha.returned⟩
  | @handle os packet rest _ _ hrequests =>
      obtain ⟨hs', rs, qs, hflight⟩ := hf
      obtain ⟨c, i, -, rfl, -⟩ := hflight.take hrequests
      obtain ⟨result, heq, -⟩ := handle_packet os s.process.state i
      refine ha.record _ rfl ?_
      intro response hresponse
      simp only [heq] at hresponse ⊢
      cases hresponse
      exact justified_sendRequestResult _ _ _
  | @reply response fault pipe _ hreply hsend =>
      have hsent := ha.write (ha.reply response hreply) hsend
      exact ⟨(fun _ h => nomatch h), hsent.queued, hsent.slots, hsent.returned⟩
  | replyFails => exact ⟨ha.reply, ha.queued, ha.slots, ha.returned⟩
  | accept _ _ _ hsend =>
      refine ha.write ?_ hsend
      trivial
  | acceptEnds => exact ⟨ha.reply, ha.queued, ha.slots, ha.returned⟩
  | exit => exact ⟨ha.reply, ha.queued, ha.slots, ha.returned⟩

/-! ## Isolation -/

/-- All that is kept along a run. -/
structure Isolated (requests : SerdeJson ExecutorRequest) (responses : SerdeJson ExecutorResponse)
    (h : List SystemEvent) (s : System) : Prop where
  named : drawn h < 2 ^ 64 → Named h s.client
  registry : Registry.Inv s.client.registry
  flight : InFlight requests s
  answered : Answered responses s

theorem isolated_new (hello : ExecutorHello) :
    Isolated requests responses [] (System.new hello) where
  named _ := named_new
  registry := registry_inv_new
  flight := ⟨[], [], [], .nil, .nil, .nil, List.nodup_nil, fun _ h => nomatch h⟩
  answered := ⟨(fun _ h => nomatch h), (fun _ h => nomatch h), (fun _ _ h => nomatch h),
    (fun _ _ _ h => nomatch h)⟩

theorem isolated_of_run (hreq : requests.Lawful) (hresp : responses.Lawful) {hello : ExecutorHello}
    {h : List SystemEvent} (hr : SystemRun requests responses hello h s) :
    Isolated requests responses h s := by
  refine Run.invariant (P := Isolated requests responses) ?_ ?_ hr
  · rintro s rfl
    exact isolated_new hello
  · intro h s e s' _ hi hs
    cases hs with
    | @client e d hs =>
        refine ⟨fun hfew => ?_, hi.registry.step hs.registry, hi.flight.client hs,
          hi.answered.client hresp hi.registry hs⟩
        have hbefore : drawn h < 2 ^ 64 :=
          Nat.lt_of_le_of_lt (Nat.le_add_left (drawn h) e.draws) hfew
        exact (hi.named hbefore).client hs hfew
    | @process e p l hs =>
        exact ⟨fun hfew => (hi.named hfew).process e, hi.registry, hi.flight.process hreq hs,
          hi.answered.process hi.flight hs⟩

/-- No id is recorded twice when an id stands for one call and no call is handled twice. -/
theorem nodup_of_recorded {calls : CallId → Call} {hs : List CallId}
    (hall : List.Forall₂ (fun e c => ∃ i, (calls c).issued? = some i ∧ Outcome i e) handled hs)
    (hnodup : hs.Nodup)
    (hids : ∀ c c' i i', (calls c).issued? = some i → (calls c').issued? = some i' →
      i.id = i'.id → c = c') : (handled.map Prod.fst).Nodup := by
  induction hall with
  | nil => exact List.nodup_nil
  | cons hc hlater ih =>
      obtain ⟨hnew, hrest⟩ := List.nodup_cons.mp hnodup
      refine List.nodup_cons.mpr ⟨?_, ih hrest⟩
      intro hmem
      obtain ⟨e', he', hsame⟩ := List.mem_map.mp hmem
      obtain ⟨i, hi, hout⟩ := hc
      obtain ⟨c', hc', i', hi', hout'⟩ := exists_mem_of_forall₂ hlater he'
      -- a later entry under the same id would be about the same call
      have hid : i.id = i'.id := by rw [← hout.id, ← hout'.id, hsame]
      exact hnew (hids _ _ _ _ hi hi' hid ▸ hc')

theorem InFlight.entry (hf : InFlight requests s) {e : UInt64 × Except AnyError Done}
    (hmem : e ∈ s.process.handled) : ∃ c i, (s.client.calls c).issued? = some i ∧ Outcome i e := by
  obtain ⟨hs, rs, qs, hf⟩ := hf
  obtain ⟨c, -, hc⟩ := exists_mem_of_forall₂ hf.recorded hmem
  exact ⟨c, hc⟩

/-- The record has one entry for a call at most. -/
theorem Isolated.nodup_ids {h : List SystemEvent} (hi : Isolated requests responses h s)
    (hfew : drawn h < 2 ^ 64) : (s.process.handled.map Prod.fst).Nodup := by
  obtain ⟨hs, rs, qs, hf⟩ := hi.flight
  have hnodup : hs.Nodup := (hf.nodup.of_append_left).of_append_left
  exact nodup_of_recorded hf.recorded hnodup fun _ _ _ _ => (hi.named hfew).eq_of_id

/-- **Sessions are isolated at the executor.** As long as fewer than `2 ^ 64` requests have been
made, a call that returns a stream returns its own, and the executor has started the service this
call asks for on the other end; the executor handles every request once and hands no end to two
services; an id stands for one call; and a call is told that its request failed only when it did, or
by the reader thread when the channel is closed. -/
theorem sessions_isolated (hreq : requests.Lawful) (hresp : responses.Lawful)
    {hello : ExecutorHello} {h : List SystemEvent} {s : System}
    (hr : SystemRun requests responses hello h s) (hfew : drawn h < 2 ^ 64) :
    (∀ c i stream, s.client.calls c = .returned i (.ok (.stream stream)) →
      i.stream = some stream ∧ ∃ kind, kind.Serves i.op ∧
        (i.id, .ok (.service kind (.service stream.channel))) ∈ s.process.handled) ∧
    (s.process.handled.map Prod.fst).Nodup ∧
    (∀ id id' kind kind' fd, (id, .ok (.service kind fd)) ∈ s.process.handled →
      (id', .ok (.service kind' fd)) ∈ s.process.handled → id = id') ∧
    (∀ c c' i i', (s.client.calls c).issued? = some i → (s.client.calls c').issued? = some i' →
      i.id = i'.id → c = c') ∧
    (∀ c id message, s.client.slots c = .filled (.requestErr id message) →
      (ExecutorResponse.requestErr id message = Client.channelClosed ∧
        s.client.reader = .drained) ∨
      ∃ i err, (s.client.calls c).issued? = some i ∧ i.id = id ∧
        (id, .error err) ∈ s.process.handled ∧ message = err.alternate) := by
  have hi := isolated_of_run hreq hresp hr
  have hn := hi.named hfew
  refine ⟨?_, hi.nodup_ids hfew, ?_, ?_, ?_⟩
  · intro c i stream hc
    obtain ⟨response, ⟨hid, hjust⟩, hfinish⟩ := hi.answered.returned c i _ hc
    obtain ⟨id, detail, rfl⟩ := Issued.finish_eq_ok hfinish
    obtain ⟨hop, hstream⟩ := Issued.finish_eq_stream hfinish
    cases hid
    obtain ⟨done, hmem, -⟩ := hjust
    -- the entry under this id is about this call
    obtain ⟨c', i', hi', hout⟩ := hi.flight.entry hmem
    have hissued : (s.client.calls c).issued? = some i := by rw [hc]; rfl
    have hsame := hn.eq_of_id hissued hi' hout.id
    subst hsame
    cases hissued.symm.trans hi'
    obtain ⟨kind, fd, rfl⟩ := hout.serves hop done rfl
    obtain ⟨hserves, stream', hstream', rfl⟩ := hout.service kind fd rfl
    cases hstream.symm.trans hstream'
    exact ⟨hstream, kind, hserves, hmem⟩
  · intro id id' kind kind' fd hmem hmem'
    obtain ⟨c, i, hc, hout⟩ := hi.flight.entry hmem
    obtain ⟨c', i', hc', hout'⟩ := hi.flight.entry hmem'
    obtain ⟨-, stream, hstream, rfl⟩ := hout.service kind fd rfl
    obtain ⟨-, stream', hstream', hfd⟩ := hout'.service kind' _ rfl
    have hchannel : stream = stream' := by
      obtain ⟨n⟩ := stream
      obtain ⟨n'⟩ := stream'
      exact congrArg ServiceStream.mk (Fd.service.inj hfd)
    subst hchannel
    have hsame := hn.eq_of_stream hc hc' hstream hstream'
    subst hsame
    cases hc.symm.trans hc'
    exact hout.id.trans hout'.id.symm
  · intro c c' i i' hc hc' hid
    exact hn.eq_of_id hc hc' hid
  · intro c id message hslot
    rcases hi.answered.slots c _ hslot with hclosed | ⟨i, hc, hid, err, hmem, hmessage⟩
    · exact Or.inl hclosed
    · cases hid
      exact Or.inr ⟨i, err, hc, rfl, hmem, hmessage⟩

end

/-- A greeting. -/
def greeting : ExecutorHello := ⟨"/home/user".toList, "/bin/sh".toList, .shellLogin⟩

/-- Whatever the executor attempts, succeeds. -/
def allSucceeds : Surroundings where
  adopt := .ok ()
  start := .ok ()
  connect := .ok ()
  bind := .ok ()
  localAddr := .ok 0

/-- A call that asks for a connection to port 80 gets it, on the stream it has opened. -/
theorem connection_on_own_stream :
    ∃ hello h s, SystemRun requestJson responseJson hello h s ∧
      s.client.calls 0 =
        .returned ⟨.connectTcp "localhost".toList 80, some ⟨0⟩, 1, 0⟩ (.ok (.stream ⟨0⟩)) ∧
      ∃ kind, kind.Serves (.connectTcp "localhost".toList 80) ∧
        (1, .ok (.service kind (.service 0))) ∈ s.process.handled := by
  refine ⟨greeting, ?_⟩
  have hfits : Fits requestJson (.connectTcp 1 "localhost".toList 80) := by
    intro payload hpayload
    cases hpayload
    decide
  have hfitsOk : Fits responseJson (.requestOk 1 .empty) := by
    intro payload hpayload
    cases hpayload
    decide
  obtain ⟨client, dg, hanswered, hcarries, hreader, hpending, -, hcall, -⟩ :=
    SystemRun.connect greeting hfits allSucceeds
  have hq : (⟨[dg], false, false⟩ : Pipe Fd).queue = dg :: [] := rfl
  have hrecv := recv_of_fits responseJson_lawful hq hcarries hfitsOk
  have hreceived := hanswered.cons (.client (.receive hreader hrecv))
  have hdelivered : client.receive ⟨.requestOk 1 .empty, none⟩ =
      { client with
        pending := client.pending.erase 1
        slots := Function.update client.slots 0 (.filled (.requestOk 1 .empty)) } := by
    have hlookup : client.pending.lookup 1 = some 0 := by
      rw [hpending]
      exact AList.lookup_insert _
    simp [Client.receive, Client.deliver, hlookup]
  have hslot : (client.receive ⟨.requestOk 1 .empty, none⟩).slots 0 =
      .filled (.requestOk 1 .empty) := by
    rw [hdelivered]
    exact Function.update_self (0 : CallId) _ client.slots
  have hwaiting : (client.receive ⟨.requestOk 1 .empty, none⟩).calls 0 =
      .awaiting ⟨.connectTcp "localhost".toList 80, some ⟨0⟩, 1, 0⟩ := by
    rw [Client.receive_calls]
    exact hcall
  have hfinished := hreceived.cons (.client (.finish hwaiting hslot))
  have hreturned : ((client.receive ⟨.requestOk 1 .empty, none⟩).complete 0
      ⟨.connectTcp "localhost".toList 80, some ⟨0⟩, 1, 0⟩ (.requestOk 1 .empty)).calls 0 =
        .returned ⟨.connectTcp "localhost".toList 80, some ⟨0⟩, 1, 0⟩ (.ok (.stream ⟨0⟩)) := by
    rw [Client.complete_calls]
    exact Client.setCall_calls_self ..
  obtain ⟨hown, -⟩ := sessions_isolated requestJson_lawful responseJson_lawful hfinished (by decide)
  obtain ⟨-, kind, hserves, hmem⟩ := hown 0 _ _ hreturned
  exact ⟨_, _, hfinished, hreturned, kind, hserves, hmem⟩

end Narrowd.Executor
