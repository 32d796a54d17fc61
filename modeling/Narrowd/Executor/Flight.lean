import Narrowd.Lib.Fresh
import Narrowd.Executor.Process

set_option autoImplicit false

/-! # The requests in flight

All sessions share one control channel and one counter of request ids. Ids and channels come from
counters, so each stands for one call (`Named`). A call sends its request once, with the other end
of its channel, and the socket, the executor's queue and its record of handled requests are
consecutive stretches of one list of calls without repetitions (`Flight`).
-/

namespace Narrowd.Executor

open Lib

/-! ## Names -/

/-- The id of a call that has drawn one. -/
def Call.id? : Call → Option UInt64
  | .numbered _ _ id => some id
  | call => call.issued?.map Issued.id

/-- The channel of a call that has opened one. -/
def Call.stream? : Call → Option ServiceStream
  | .opened _ stream => stream
  | .numbered _ stream _ => stream
  | call => call.issued?.bind Issued.stream

variable {call : Call} {i : Issued}

theorem Call.id?_of_issued (h : call.issued? = some i) : call.id? = some i.id := by
  cases call <;> cases h <;> rfl

theorem Call.stream?_of_issued (h : call.issued? = some i) : call.stream? = i.stream := by
  cases call <;> cases h <;> rfl

/-- How many ids an event draws. -/
def ClientEvent.draws : ClientEvent → Nat
  | .drawId _ => 1
  | _ => 0

/-- How many ids have been drawn. -/
def drawn : List SystemEvent → Nat
  | [] => 0
  | .client e :: h => e.draws + drawn h
  | .process _ :: h => drawn h

variable {e : ClientEvent} {d d' : Daemon} {c c' : CallId} {h : List SystemEvent} {done : Done}
  {os : Surroundings} {state : ExecutorState} {gone : Bool} {attachedFd : Option Fd} {call' : Call}
  {i' : Issued} {port : UInt16} {token : UInt64} {s : System}

section

variable {requests : SerdeJson ExecutorRequest} {responses : SerdeJson ExecutorResponse}

/-- A call keeps its id, unless it draws one. -/
theorem CallMove.id? (hm : CallMove gone c e call call') :
    call'.id? = call.id? ∨ e = .drawId c := by
  cases hm with
  | draws => exact Or.inr rfl
  | _ => exact Or.inl rfl

/-- A call keeps its channel, unless it opens one. -/
theorem CallMove.stream? (hm : CallMove gone c e call call') :
    call'.stream? = call.stream? ∨ ∃ op, e = .begin c op := by
  cases hm with
  | opens => exact Or.inr ⟨_, rfl⟩
  | _ => exact Or.inl rfl

theorem ClientStep.id?_eq (hs : ClientStep requests responses d e d') (he : e ≠ .drawId c) :
    (d'.client.calls c).id? = (d.client.calls c).id? := by
  rcases hs.call_cases c with heq | hm
  · rw [heq]
  · exact hm.id?.resolve_right he

theorem ClientStep.stream?_eq (hs : ClientStep requests responses d e d')
    (he : ∀ op, e ≠ .begin c op) : (d'.client.calls c).stream? = (d.client.calls c).stream? := by
  rcases hs.call_cases c with heq | hm
  · rw [heq]
  · refine hm.stream?.resolve_right ?_
    rintro ⟨op, h⟩
    exact he op h

/-- The reader thread draws no names. -/
theorem Client.receive_counters (s : Client) (packet : TransportPacket ExecutorResponse Fd) :
    (s.receive packet).nextRequestId = s.nextRequestId ∧
      (s.receive packet).nextChannel = s.nextChannel := by
  rcases s.receive_cases packet with ⟨id, owner, -, -, heq⟩ | ⟨events, reader, heq, -⟩
  · rw [heq]
    exact ⟨rfl, rfl⟩
  · rw [heq]
    exact ⟨rfl, rfl⟩

theorem Client.complete_counters (s : Client) (c : CallId) (i : Issued)
    (response : ExecutorResponse) :
    (s.complete c i response).nextRequestId = s.nextRequestId ∧
      (s.complete c i response).nextChannel = s.nextChannel := by
  obtain ⟨forwards, heq⟩ := s.complete_eq c i response
  rw [heq]
  exact ⟨rfl, rfl⟩

/-- Only drawing an id moves its counter. -/
theorem ClientStep.nextRequestId_eq (hs : ClientStep requests responses d e d')
    (he : ∀ c, e ≠ .drawId c) : d'.client.nextRequestId = d.client.nextRequestId := by
  cases hs with
  | drawId => exact absurd rfl (he _)
  | finish => exact (Client.complete_counters ..).1
  | receive => exact (Client.receive_counters ..).1
  | _ => rfl

/-- Only opening a channel moves its counter. -/
theorem ClientStep.nextChannel_eq (hs : ClientStep requests responses d e d')
    (he : ∀ c op, e ≠ .begin c op) : d'.client.nextChannel = d.client.nextChannel := by
  cases hs with
  | openChannel => exact absurd rfl (he _ _)
  | openChannelFails => exact absurd rfl (he _ _)
  | finish => exact (Client.complete_counters ..).2
  | receive => exact (Client.receive_counters ..).2
  | _ => rfl

/-- **Names are unique**: the channels, and the ids as long as the counter has not wrapped. -/
structure Named (h : List SystemEvent) (client : Client) : Prop where
  next : client.nextRequestId = UInt64.ofNat (drawn h + 1)
  ids : Fresh (drawn h + 1) (fun c => (client.calls c).id?.map UInt64.toNat)
  streams : Fresh client.nextChannel (fun c => (client.calls c).stream?.map ServiceStream.channel)

theorem named_new : Named [] Client.new where
  next := rfl
  ids := Fresh.none _
  streams := Fresh.none _

/-- Below the wrap of the counter the next id is a new one. -/
theorem Named.ids_client (hn : Named h d.client) (hs : ClientStep requests responses d e d')
    (hfew : drawn (.client e :: h) < 2 ^ 64) :
    d'.client.nextRequestId = UInt64.ofNat (drawn (.client e :: h) + 1) ∧
      Fresh (drawn (.client e :: h) + 1) (fun c => (d'.client.calls c).id?.map UInt64.toNat) := by
  by_cases he : ∃ c, e = .drawId c
  · obtain ⟨c, rfl⟩ := he
    have hcount : drawn (.client (.drawId c) :: h) = drawn h + 1 := Nat.add_comm 1 (drawn h)
    rw [hcount] at hfew ⊢
    have hothers : ∀ c' ≠ c, (d'.client.calls c').id?.map UInt64.toNat =
        (d.client.calls c').id?.map UInt64.toNat := by
      intro c' hne
      rw [hs.id?_eq (fun heq => hne (by cases heq; rfl))]
    cases hs with
    | @drawId s l _ op stream hc =>
        have hnext : s.nextRequestId = UInt64.ofNat (drawn h + 1) := hn.next
        refine ⟨?_, hn.ids.draw (c := c) ?_ hothers⟩
        · show s.nextRequestId + 1 = _
          rw [hnext]
          exact (UInt64.ofNat_add ..).symm
        · show ((s.setCall c (.numbered op stream s.nextRequestId)).calls c).id?.map _ = _
          rw [Client.setCall_calls_self, hnext]
          exact congrArg some (UInt64.toNat_ofNat_of_lt hfew)
  · have hne : ∀ c, e ≠ .drawId c := fun c heq => he ⟨c, heq⟩
    have hcount : drawn (.client e :: h) = drawn h := by
      cases e with
      | drawId c => exact absurd rfl (hne c)
      | _ => exact Nat.zero_add _
    rw [hcount]
    refine ⟨(hs.nextRequestId_eq hne).trans hn.next, hn.ids.keep fun c => Or.inl ?_⟩
    rw [hs.id?_eq (hne c)]

theorem Named.streams_client (hn : Named h d.client) (hs : ClientStep requests responses d e d') :
    Fresh d'.client.nextChannel
      (fun c => (d'.client.calls c).stream?.map ServiceStream.channel) := by
  by_cases he : ∃ c op, e = .begin c op
  · obtain ⟨c, op, rfl⟩ := he
    have hothers : ∀ c' ≠ c, (d'.client.calls c').stream? = (d.client.calls c').stream? := by
      intro c' hne
      exact hs.stream?_eq (fun op' heq => hne (by cases heq; rfl))
    have hnone : d'.client.nextChannel = d.client.nextChannel →
        (d'.client.calls c).stream? = none → Fresh d'.client.nextChannel
          (fun c => (d'.client.calls c).stream?.map ServiceStream.channel) := by
      intro hnext hc
      rw [hnext]
      refine hn.streams.keep fun c' => ?_
      by_cases hne : c' = c
      · subst hne
        exact Or.inr (by rw [hc]; rfl)
      · exact Or.inl (by rw [hothers c' hne])
    cases hs with
    | @openChannel s =>
        refine hn.streams.draw (c := c) ?_ (fun c' hne => by rw [hothers c' hne])
        exact congrArg (fun call => (Call.stream? call).map ServiceStream.channel)
          (Client.setCall_calls_self ..)
    | openChannelFails => exact hnone rfl (congrArg Call.stream? (Client.setCall_calls_self ..))
    | forward => exact hnone rfl (congrArg Call.stream? (Client.setCall_calls_self ..))
    | cancel => exact hnone rfl (congrArg Call.stream? (Client.setCall_calls_self ..))
  · have hne : ∀ c op, e ≠ .begin c op := fun c op heq => he ⟨c, op, heq⟩
    rw [hs.nextChannel_eq hne]
    refine hn.streams.keep fun c => Or.inl ?_
    rw [hs.stream?_eq (hne c)]

theorem Named.client (hn : Named h d.client) (hs : ClientStep requests responses d e d')
    (hfew : drawn (.client e :: h) < 2 ^ 64) : Named (.client e :: h) d'.client :=
  ⟨(hn.ids_client hs hfew).1, (hn.ids_client hs hfew).2, hn.streams_client hs⟩

theorem Named.process {client : Client} (hn : Named h client) (e : ProcessEvent) :
    Named (.process e :: h) client :=
  ⟨hn.next, hn.ids, hn.streams⟩

theorem Named.eq_of_id {client : Client} (hn : Named h client)
    (hc : (client.calls c).issued? = some i) (hc' : (client.calls c').issued? = some i')
    (hid : i.id = i'.id) : c = c' := by
  apply hn.ids.inj c c' i.id.toNat
  · rw [Call.id?_of_issued hc]
    rfl
  · rw [Call.id?_of_issued hc', hid]
    rfl

theorem Named.eq_of_stream {client : Client} (hn : Named h client) {stream : ServiceStream}
    (hc : (client.calls c).issued? = some i) (hc' : (client.calls c').issued? = some i')
    (hi : i.stream = some stream) (hi' : i'.stream = some stream) : c = c' := by
  apply hn.streams.inj c c' stream.channel
  · rw [Call.stream?_of_issued hc, hi]
    rfl
  · rw [Call.stream?_of_issued hc', hi']
    rfl

/-! ## What comes of a request -/

/-- The service is the one that the call asks for: the same command, environment and terminal, or
the same host and port. -/
def ServiceKind.Serves : ServiceKind → Operation → Prop
  | .pty _ request, .startProcess wanted => request = wanted ∧ wanted.pty.isSome = true
  | .piped _ request, .startProcess wanted => request = wanted ∧ wanted.pty.isSome = false
  | .sftp _, .startSftp => True
  | .tcp host port, .connectTcp wantedHost wantedPort => host = wantedHost ∧ port = wantedPort
  | _, _ => False

/-- The entry of the record for the call `i`: if it succeeded for a call with a channel, then with
the service that the call asks for, on the other end of the call's own channel. -/
structure Outcome (i : Issued) (entry : UInt64 × Except AnyError Done) : Prop where
  id : entry.1 = i.id
  service : ∀ kind fd, entry.2 = .ok (.service kind fd) →
    kind.Serves i.op ∧ ∃ stream, i.stream = some stream ∧ fd = .service stream.channel
  serves : i.op.opensChannel = true → ∀ done, entry.2 = .ok done →
    ∃ kind fd, done = .service kind fd

/-- A service gets the descriptor that came with its request. -/
theorem service_of_stream {fd : Fd} (h : i.packet.attachedFd = some fd) :
    ∃ stream, i.stream = some stream ∧ fd = .service stream.channel := by
  obtain ⟨stream, hstream, rfl⟩ := Option.map_eq_some_iff.mp h
  exact ⟨stream, hstream, rfl⟩

theorem startProcess_eq_ok {request : ProcessRequest}
    (h : state.startProcess os request attachedFd = .ok done) :
    ∃ hello fd, attachedFd = some fd ∧
      done = .service (if request.pty.isSome then .pty hello request else .piped hello request)
        fd := by
  unfold ExecutorState.startProcess at h
  split at h
  · cases h
  · cases h
  · next hello fd _ =>
      obtain ⟨_, -, h⟩ := bind_eq_ok h
      obtain ⟨_, -, h⟩ := bind_eq_ok h
      cases h
      exact ⟨hello, fd, rfl, rfl⟩

theorem startSftp_eq_ok (h : state.startSftp os attachedFd = .ok done) :
    ∃ homeDir fd, attachedFd = some fd ∧ done = .service (.sftp homeDir) fd := by
  unfold ExecutorState.startSftp at h
  split at h
  · cases h
  · cases h
  · next hello fd _ =>
      obtain ⟨_, -, h⟩ := bind_eq_ok h
      cases h
      exact ⟨hello.homeDir, fd, rfl, rfl⟩

theorem connectTcp_eq_ok {host : Text}
    (h : ExecutorState.connectTcp os host port attachedFd = .ok done) :
    ∃ fd, attachedFd = some fd ∧ done = .service (.tcp host port) fd := by
  unfold ExecutorState.connectTcp at h
  split at h
  · cases h
  · next fd =>
      obtain ⟨_, -, h⟩ := bind_eq_ok h
      obtain ⟨_, -, h⟩ := bind_eq_ok h
      cases h
      exact ⟨fd, rfl, rfl⟩

theorem startRemoteForward_eq_ok {address : Text}
    (h : (state.startRemoteForward os token address port).2 = .ok done) :
    ∃ bound, done = .bound bound := by
  simp only [ExecutorState.startRemoteForward] at h
  split at h
  · next bound _ =>
      cases h
      exact ⟨bound, rfl⟩
  · cases h

theorem cancelRemoteForward_eq_ok (h : (state.cancelRemoteForward token).2 = .ok done) :
    done = .cancelled := by
  unfold ExecutorState.cancelRemoteForward at h
  split at h
  · cases h
  · cases h
    rfl

/-- **Handling a call's request** answers it under its id with what the record says. -/
theorem handle_packet (os : Surroundings) (state : ExecutorState) (i : Issued) :
    ∃ result, (state.handle os i.packet).2 =
        (sendRequestResult i.id result, some (i.id, result)) ∧ Outcome i (i.id, result) := by
  obtain ⟨op, stream, id, token⟩ := i
  cases op with
  | startProcess request =>
      refine ⟨_, rfl, rfl, ?_, ?_⟩
      · intro kind fd h
        obtain ⟨hello, fd', hfd, heq⟩ := startProcess_eq_ok h
        cases heq
        refine ⟨?_, service_of_stream hfd⟩
        split
        · next hpty => exact ⟨rfl, hpty⟩
        · next hpty => exact ⟨rfl, by simpa using hpty⟩
      · intro _ done h
        obtain ⟨hello, fd', -, heq⟩ := startProcess_eq_ok h
        exact ⟨_, _, heq⟩
  | startSftp =>
      refine ⟨_, rfl, rfl, ?_, ?_⟩
      · intro kind fd h
        obtain ⟨homeDir, fd', hfd, heq⟩ := startSftp_eq_ok h
        cases heq
        exact ⟨trivial, service_of_stream hfd⟩
      · intro _ done h
        obtain ⟨homeDir, fd', -, heq⟩ := startSftp_eq_ok h
        exact ⟨_, _, heq⟩
  | connectTcp host port =>
      refine ⟨_, rfl, rfl, ?_, ?_⟩
      · intro kind fd h
        obtain ⟨fd', hfd, heq⟩ := connectTcp_eq_ok h
        cases heq
        exact ⟨⟨rfl, rfl⟩, service_of_stream hfd⟩
      · intro _ done h
        obtain ⟨fd', -, heq⟩ := connectTcp_eq_ok h
        exact ⟨_, _, heq⟩
  | startRemoteForward handle connected bind port =>
      refine ⟨_, rfl, rfl, ?_, fun h => nomatch h⟩
      intro kind fd h
      obtain ⟨bound, heq⟩ := startRemoteForward_eq_ok h
      cases heq
  | cancelRemoteForward token =>
      refine ⟨_, rfl, rfl, ?_, fun h => nomatch h⟩
      intro kind fd h
      cases cancelRemoteForward_eq_ok h

/-! ## Where the requests are -/

/-- The request of the call is on its way, or past it. -/
def Call.sent : Call → Bool
  | .awaiting _ => true
  | .abandoned _ => true
  | .returned _ _ => true
  | _ => false

theorem CallMove.sent (hm : CallMove gone c e call call') (h : call.sent = true) :
    call'.sent = true := by
  cases hm <;> first | rfl | cases h

theorem exists_mem_of_forall₂ {α β : Type} {R : α → β → Prop} {l : List α} {l' : List β}
    (hall : List.Forall₂ R l l') {a : α} (hmem : a ∈ l) : ∃ b ∈ l', R a b := by
  induction hall with
  | nil => cases hmem
  | cons hb _ ih =>
      rcases List.mem_cons.mp hmem with rfl | hlater
      · exact ⟨_, List.mem_cons_self, hb⟩
      · obtain ⟨b, hmem, hb⟩ := ih hlater
        exact ⟨b, List.mem_cons_of_mem _ hmem, hb⟩

/-- **The requests in flight**: those in the socket, those the executor has read and those it has
handled belong, in this order from the newest, to the calls `qs`, `rs` and `hs`, each of which has
sent its request once. -/
structure Flight (requests : SerdeJson ExecutorRequest) (calls : CallId → Call)
    (queue : List (Datagram Fd)) (waiting : List (TransportPacket ExecutorRequest Fd))
    (handled : List (UInt64 × Except AnyError Done)) (hs rs qs : List CallId) : Prop where
  queued : List.Forall₂ (fun dg c => ∃ i, (calls c).issued? = some i ∧
    Carries requests dg i.packet) queue qs
  read : List.Forall₂ (fun packet c => ∃ i, (calls c).issued? = some i ∧ packet = i.packet)
    waiting rs
  recorded : List.Forall₂ (fun entry c => ∃ i, (calls c).issued? = some i ∧ Outcome i entry)
    handled hs
  nodup : (hs ++ rs ++ qs).Nodup
  sent : ∀ c ∈ hs ++ rs ++ qs, (calls c).sent = true

section

variable {calls calls' : CallId → Call} {queue : List (Datagram Fd)}
  {waiting : List (TransportPacket ExecutorRequest Fd)}
  {handled : List (UInt64 × Except AnyError Done)} {hs rs qs : List CallId}

/-- A call keeps its request, so the requests in flight stay its own. -/
theorem Flight.move (hf : Flight requests calls queue waiting handled hs rs qs)
    (hissued : ∀ c i, (calls c).issued? = some i → (calls' c).issued? = some i)
    (hsent : ∀ c, (calls c).sent = true → (calls' c).sent = true) :
    Flight requests calls' queue waiting handled hs rs qs where
  queued := hf.queued.imp fun _ c ⟨i, hi, hd⟩ => ⟨i, hissued c i hi, hd⟩
  read := hf.read.imp fun _ c ⟨i, hi, hp⟩ => ⟨i, hissued c i hi, hp⟩
  recorded := hf.recorded.imp fun _ c ⟨i, hi, ho⟩ => ⟨i, hissued c i hi, ho⟩
  nodup := hf.nodup
  sent c hc := hsent c (hf.sent c hc)

theorem Flight.send (hf : Flight requests calls queue waiting handled hs rs qs) {c : CallId}
    {i : Issued} {dg : Datagram Fd} (hc : (calls c).issued? = some i)
    (hsent : (calls c).sent = true) (hnew : c ∉ hs ++ rs ++ qs)
    (hd : Carries requests dg i.packet) :
    Flight requests calls (queue ++ [dg]) waiting handled hs rs (qs ++ [c]) where
  queued := List.rel_append hf.queued (.cons ⟨i, hc, hd⟩ .nil)
  read := hf.read
  recorded := hf.recorded
  nodup := by
    rw [← List.append_assoc, List.nodup_append]
    refine ⟨hf.nodup, List.nodup_singleton c, ?_⟩
    rintro a ha b hb rfl
    rw [List.mem_singleton.mp hb] at ha
    exact hnew ha
  sent c' hc' := by
    rw [← List.append_assoc, List.mem_append] at hc'
    rcases hc' with hold | hlast
    · exact hf.sent c' hold
    · rw [List.mem_singleton.mp hlast]
      exact hsent

/-- The head of the socket's queue is the request of a call. -/
theorem Flight.head (hf : Flight requests calls queue waiting handled hs rs qs)
    {dg : Datagram Fd} {rest : List (Datagram Fd)} (hq : queue = dg :: rest) :
    ∃ c i later, (calls c).issued? = some i ∧ Carries requests dg i.packet ∧
      Flight requests calls rest waiting handled hs rs later ∧
      Flight requests calls rest (waiting ++ [i.packet]) handled hs (rs ++ [c]) later := by
  have hqueued := hf.queued
  rw [hq] at hqueued
  obtain ⟨c, later, ⟨i, hi, hd⟩, hlater, rfl⟩ := List.forall₂_cons_left_iff.mp hqueued
  have hmoved : hs ++ (rs ++ [c]) ++ later = hs ++ rs ++ c :: later := by simp
  have hsub : (hs ++ rs ++ later).Sublist (hs ++ rs ++ c :: later) :=
    List.Sublist.append_left (List.sublist_cons_self c later) _
  refine ⟨c, i, later, hi, hd, ?_, ?_⟩
  · exact ⟨hlater, hf.read, hf.recorded, hf.nodup.sublist hsub,
      fun c' hc' => hf.sent c' (hsub.subset hc')⟩
  · refine ⟨hlater, List.rel_append hf.read (.cons ⟨i, hi, rfl⟩ .nil), hf.recorded, ?_, ?_⟩
    · rw [hmoved]
      exact hf.nodup
    · rw [hmoved]
      exact hf.sent

/-- The first request that was read moves to the record. -/
theorem Flight.take (hf : Flight requests calls queue waiting handled hs rs qs)
    {packet : TransportPacket ExecutorRequest Fd}
    {rest : List (TransportPacket ExecutorRequest Fd)} (hq : waiting = packet :: rest) :
    ∃ c i, (calls c).issued? = some i ∧ packet = i.packet ∧
      ∀ entry, Outcome i entry → ∃ hs' rs',
        Flight requests calls queue rest (handled ++ [entry]) hs' rs' qs := by
  have hread := hf.read
  rw [hq] at hread
  obtain ⟨c, later, ⟨i, hi, hp⟩, hlater, rfl⟩ := List.forall₂_cons_left_iff.mp hread
  refine ⟨c, i, hi, hp, fun entry ho => ⟨hs ++ [c], later, ?_⟩⟩
  have hmoved : hs ++ [c] ++ later ++ qs = hs ++ c :: later ++ qs := by simp
  refine ⟨hf.queued, hlater, List.rel_append hf.recorded (.cons ⟨i, hi, ho⟩ .nil), ?_, ?_⟩
  · rw [hmoved]
    exact hf.nodup
  · rw [hmoved]
    exact hf.sent

end

/-- Every request that has been sent is in flight once, or was lost on the way. -/
def InFlight (requests : SerdeJson ExecutorRequest) (s : System) : Prop :=
  ∃ hs rs qs, Flight requests s.client.calls s.link.toExecutor.queue s.process.requests
    s.process.handled hs rs qs

theorem ClientStep.issued?_of_issued (hs : ClientStep requests responses d e d') (c : CallId)
    (i : Issued) (hi : (d.client.calls c).issued? = some i) :
    (d'.client.calls c).issued? = some i := by
  rcases hs.call_cases c with heq | hm
  · rw [heq, hi]
  · exact hm.issued? hi

theorem ClientStep.sent_of_sent (hs : ClientStep requests responses d e d') (c : CallId)
    (h : (d.client.calls c).sent = true) : (d'.client.calls c).sent = true := by
  rcases hs.call_cases c with heq | hm
  · rw [heq, h]
  · exact hm.sent h

/-- Only a send touches the requests in the socket. -/
theorem ClientStep.toExecutor (hs : ClientStep requests responses d e d') :
    d'.link.toExecutor = d.link.toExecutor ∨
      ∃ c i dg, d.client.calls c = .registered i ∧ d'.client.calls c = .awaiting i ∧
        Carries requests dg i.packet ∧
        d'.link.toExecutor.queue = d.link.toExecutor.queue ++ [dg] := by
  cases hs with
  | @send s l c i fault pipe hc hsend =>
      obtain ⟨-, dg, hd, rfl⟩ := send_eq_ok hsend
      exact Or.inr ⟨c, i, dg, hc, Client.setCall_calls_self .., hd, rfl⟩
  | _ => exact Or.inl rfl

theorem InFlight.client (hf : InFlight requests s)
    (hs : ClientStep requests responses ⟨s.client, s.link⟩ e d) :
    InFlight requests ⟨d.client, d.link, s.process⟩ := by
  obtain ⟨hs', rs, qs, hf⟩ := hf
  have hmoved := hf.move hs.issued?_of_issued hs.sent_of_sent
  rcases hs.toExecutor with heq | ⟨c, i, dg, hbefore, hafter, hd, hqueue⟩
  · refine ⟨hs', rs, qs, ?_⟩
    show Flight requests d.client.calls d.link.toExecutor.queue _ _ _ _ _
    rw [heq]
    exact hmoved
  · refine ⟨hs', rs, qs ++ [c], ?_⟩
    show Flight requests d.client.calls d.link.toExecutor.queue _ _ _ _ _
    rw [hqueue]
    refine hmoved.send (i := i) (by rw [hafter]; rfl) (by rw [hafter]; rfl) ?_ hd
    -- a call that has registered and not sent yet is in none of the lists
    intro hmem
    have hsent := hf.sent c hmem
    change (s.client.calls c).sent = true at hsent
    have hbefore' : s.client.calls c = .registered i := hbefore
    rw [hbefore'] at hsent
    cases hsent

theorem InFlight.process (hlaw : requests.Lawful) {p : Process} {l : Link} {e : ProcessEvent}
    (hf : InFlight requests s) (hs : ProcessStep requests responses s.process s.link e p l) :
    InFlight requests ⟨s.client, l, p⟩ := by
  obtain ⟨hs', rs, qs, hf⟩ := hf
  cases hs with
  | receive _ _ hrecv =>
      rcases recv_eq_some hrecv with ⟨dg, rest, hq, -⟩ | ⟨-, err, herr⟩
      · obtain ⟨c, i, later, -, hd, -, hmoved⟩ := hf.head hq
        obtain ⟨rfl, rfl⟩ := eq_of_recv_eq_ok hlaw hq hd hrecv
        exact ⟨hs', rs ++ [c], later, hmoved⟩
      · cases herr
  | receiveFails _ _ hrecv =>
      rcases recv_eq_some hrecv with ⟨dg, rest, hq, rfl⟩ | ⟨rfl, -⟩
      · obtain ⟨c, i, later, -, -, hlost, -⟩ := hf.head hq
        exact ⟨hs', rs, later, hlost⟩
      · exact ⟨hs', rs, qs, hf⟩
  | @handle os packet rest _ _ hrequests =>
      obtain ⟨c, i, -, rfl, hnext⟩ := hf.take hrequests
      obtain ⟨result, heq, hout⟩ := handle_packet os s.process.state i
      obtain ⟨hs'', rs', hflight⟩ := hnext _ hout
      refine ⟨hs'', rs', qs, ?_⟩
      show Flight requests s.client.calls s.link.toExecutor.queue rest
        (s.process.handled ++ (s.process.state.handle os i.packet).2.2.toList) _ _ _
      rw [heq]
      exact hflight
  | _ => exact ⟨hs', rs, qs, hf⟩

end

end Narrowd.Executor
