import Narrowd.Executor.Isolation

set_option autoImplicit false

/-! # Remote forwards across the control channel

A remote forward is a token in three places: the call that draws it, the executor's listener and the
daemon's registration. The executor reports a connection under the token of the listener that has
accepted it, and the dispatch task looks the token up among the registrations.

Three facts are kept along every run. A token stands for the call that has drawn it, as long as the
counter of request ids has not wrapped (`token_unique`). Every connection that is reported was
accepted on a listener that the executor has bound for a call (`Reported`). Every registration is
that of a call which has returned (`Registrations`), and it stays until the forward is cancelled.
-/

namespace Narrowd.Executor

open Lib

/-! ## What a call is for -/

/-- The methods that only the sessions call. -/
def isForwarding : Operation → Bool
  | .startRemoteForward _ _ _ _ => true
  | .cancelRemoteForward _ => true
  | _ => false

variable {op : Operation}

theorem isForwarding_of_drawsToken (h : op.drawsToken = true) : isForwarding op = true := by
  cases op with
  | startRemoteForward => rfl
  | _ => cases h

/-- The method of a call that has begun. -/
def Call.op? : Call → Option Operation
  | .idle => none
  | .opened op _ => some op
  | .numbered op _ _ => some op
  | .refused op _ => some op
  | call => call.issued?.map Issued.op

/-- The token that the request has drawn. -/
def Issued.token? (i : Issued) : Option UInt64 := if i.op.drawsToken then some i.token else none

/-- The token of a call that has drawn one. -/
def Call.token? (call : Call) : Option UInt64 := call.issued?.bind Issued.token?

variable {i : Issued} {call : Call}

theorem Call.op?_of_issued (h : call.issued? = some i) : call.op? = some i.op := by
  cases call <;> cases h <;> rfl

theorem Call.token?_of_issued (h : call.issued? = some i) (hop : i.op.drawsToken = true) :
    call.token? = some i.token := by
  simp [Call.token?, Issued.token?, h, hop]

variable {e : ClientEvent} {c : CallId} {gone : Bool} {call' : Call}

/-- A call keeps its method from its first step on. -/
theorem CallMove.op? (hm : CallMove gone c e call call') (h : call'.op? = some op) :
    call.op? = some op ∨ e = .begin c op := by
  cases hm with
  | opens => cases h; exact Or.inr rfl
  | refused => cases h; exact Or.inr rfl
  | _ => exact Or.inl h

theorem CallMove.token? (hm : CallMove gone c e call call') :
    call'.token? = call.token? ∨ e = .build c := by
  cases hm with
  | builds => exact Or.inr rfl
  | _ => exact Or.inl rfl

/-- Whether a call has its id and not yet its request. -/
def Call.isNumbered : Call → Bool
  | .numbered _ _ _ => true
  | _ => false

theorem CallMove.isNumbered (hm : CallMove gone c e call call') :
    call'.isNumbered = call.isNumbered ∨ e = .drawId c ∨ e = .build c := by
  cases hm with
  | draws => exact Or.inr (Or.inl rfl)
  | builds => exact Or.inr (Or.inr rfl)
  | _ => exact Or.inl rfl

variable {s s' : System} {h : List SystemEvent} {d d' : Daemon} {hello : ExecutorHello}
  {token : UInt64} {result : Except CallError Reply} {event : RemoteForwardEvent}
  {response : ExecutorResponse} {registration : RemoteForwardRegistration} {client' : Client}
  {p : Process} {l : Link} {listener : Listener} {port : UInt32} {reply : Reply}

section

variable {requests : SerdeJson ExecutorRequest} {responses : SerdeJson ExecutorResponse}

/-! ## How many tokens are drawn -/

/-- How many requests an event builds. -/
def ClientEvent.builds : ClientEvent → Nat
  | .build _ => 1
  | _ => 0

/-- How many requests have been built. -/
def built : List SystemEvent → Nat
  | [] => 0
  | .client e :: h => e.builds + built h
  | .process _ :: h => built h

theorem ClientStep.isNumbered_eq (hs : ClientStep requests responses d e d') (hdraw : e ≠ .drawId c)
    (hbuild : e ≠ .build c) : (d'.client.calls c).isNumbered = (d.client.calls c).isNumbered := by
  rcases hs.call_cases c with heq | hm
  · rw [heq]
  · rcases hm.isNumbered with heq | h | h
    · exact heq
    · exact absurd h hdraw
    · exact absurd h hbuild

/-- What the events that are neither a draw nor a build count. -/
theorem ClientEvent.counts_zero (hdraw : ∀ c, e ≠ .drawId c) (hbuild : ∀ c, e ≠ .build c) :
    e.draws = 0 ∧ e.builds = 0 := by
  cases e with
  | drawId c => exact absurd rfl (hdraw c)
  | build c => exact absurd rfl (hbuild c)
  | _ => exact ⟨rfl, rfl⟩

/-- The calls that have an id and no request yet make up the difference of the two counts. -/
def Balanced (h : List SystemEvent) (client : Client) : Prop :=
  ∃ numbered : Finset CallId, (∀ c, c ∈ numbered ↔ (client.calls c).isNumbered = true) ∧
    built h + numbered.card = drawn h

/-- One more call has an id. -/
theorem Balanced.draw {client : Client} (hb : Balanced h client)
    (hbefore : (client.calls c).isNumbered = false) (hafter : (client'.calls c).isNumbered = true)
    (hothers : ∀ c' ≠ c, (client'.calls c').isNumbered = (client.calls c').isNumbered) :
    Balanced (.client (.drawId c) :: h) client' := by
  obtain ⟨numbered, hmem, hcount⟩ := hb
  have hnew : c ∉ numbered := by
    rw [hmem c, hbefore]
    exact Bool.false_ne_true
  refine ⟨insert c numbered, ?_, ?_⟩
  · intro c'
    rw [Finset.mem_insert]
    by_cases heq : c' = c
    · subst heq
      simp [hafter]
    · rw [hothers c' heq, hmem c', or_iff_right heq]
  · rw [Finset.card_insert_of_notMem hnew]
    show 0 + built h + (numbered.card + 1) = 1 + drawn h
    omega

/-- One of the calls with an id has its request. -/
theorem Balanced.build {client : Client} (hb : Balanced h client)
    (hbefore : (client.calls c).isNumbered = true) (hafter : (client'.calls c).isNumbered = false)
    (hothers : ∀ c' ≠ c, (client'.calls c').isNumbered = (client.calls c').isNumbered) :
    Balanced (.client (.build c) :: h) client' := by
  obtain ⟨numbered, hmem, hcount⟩ := hb
  have hold : c ∈ numbered := (hmem c).mpr hbefore
  refine ⟨numbered.erase c, ?_, ?_⟩
  · intro c'
    rw [Finset.mem_erase]
    by_cases heq : c' = c
    · subst heq
      simp [hafter]
    · rw [hothers c' heq, hmem c', and_iff_right heq]
  · have hcard := Finset.card_erase_add_one hold
    show 1 + built h + (numbered.erase c).card = 0 + drawn h
    omega

theorem Balanced.client (hb : Balanced h d.client) (hs : ClientStep requests responses d e d') :
    Balanced (.client e :: h) d'.client := by
  by_cases hdraw : ∃ c, e = .drawId c
  · obtain ⟨c, rfl⟩ := hdraw
    have hothers : ∀ c' ≠ c, (d'.client.calls c').isNumbered = (d.client.calls c').isNumbered := by
      intro c' hne
      exact hs.isNumbered_eq (fun heq => hne (by cases heq; rfl)) (fun heq => nomatch heq)
    cases hs with
    | @drawId s l _ op stream hc =>
        refine hb.draw ?_ ?_ hothers
        · show (s.calls c).isNumbered = false
          rw [hc]
          rfl
        · show ((s.setCall c _).calls c).isNumbered = true
          rw [Client.setCall_calls_self]
          rfl
  · by_cases hbuild : ∃ c, e = .build c
    · obtain ⟨c, rfl⟩ := hbuild
      have hothers : ∀ c' ≠ c,
          (d'.client.calls c').isNumbered = (d.client.calls c').isNumbered := by
        intro c' hne
        exact hs.isNumbered_eq (fun heq => nomatch heq) (fun heq => hne (by cases heq; rfl))
      obtain ⟨hbefore, hafter⟩ : (d.client.calls c).isNumbered = true ∧
          (d'.client.calls c).isNumbered = false := by
        cases hs with
        | @build s l _ op stream id hc =>
            refine ⟨by show (s.calls c).isNumbered = true; rw [hc]; rfl, ?_⟩
            show ((s.setCall c _).calls c).isNumbered = false
            rw [Client.setCall_calls_self]
            rfl
        | @drawToken s l _ op stream id hc =>
            refine ⟨by show (s.calls c).isNumbered = true; rw [hc]; rfl, ?_⟩
            show ((s.setCall c _).calls c).isNumbered = false
            rw [Client.setCall_calls_self]
            rfl
      exact hb.build hbefore hafter hothers
    · have hnoDraw : ∀ c, e ≠ .drawId c := fun c heq => hdraw ⟨c, heq⟩
      have hnoBuild : ∀ c, e ≠ .build c := fun c heq => hbuild ⟨c, heq⟩
      obtain ⟨hdraws, hbuilds⟩ := ClientEvent.counts_zero hnoDraw hnoBuild
      obtain ⟨numbered, hmem, hcount⟩ := hb
      refine ⟨numbered, fun c => ?_, ?_⟩
      · rw [hs.isNumbered_eq (hnoDraw c) (hnoBuild c), hmem c]
      · show e.builds + built h + numbered.card = e.draws + drawn h
        omega

/-! ## Tokens -/

/-- Only a forward draws a token, and it draws the next one. -/
theorem ClientStep.token_cases (hs : ClientStep requests responses d e d') :
    (d'.client.nextForwardToken = d.client.nextForwardToken ∧
      ∀ c, (d'.client.calls c).token? = (d.client.calls c).token?) ∨
    ∃ c, e = .build c ∧ d'.client.nextForwardToken = d.client.nextForwardToken + 1 ∧
      (d'.client.calls c).token? = some d.client.nextForwardToken ∧
      ∀ c' ≠ c, (d'.client.calls c').token? = (d.client.calls c').token? := by
  have hsame : (∀ c, e ≠ .build c) →
      ∀ c, (d'.client.calls c).token? = (d.client.calls c).token? := by
    intro hne c
    rcases hs.call_cases c with heq | hm
    · rw [heq]
    · exact hm.token?.resolve_right (hne c)
  cases hs with
  | @build s l c op stream id hc hop =>
      refine Or.inl ⟨rfl, fun c' => ?_⟩
      show ((s.setCall c _).calls c').token? = (s.calls c').token?
      by_cases heq : c' = c
      · subst heq
        rw [Client.setCall_calls_self, hc]
        simp [Call.token?, Call.issued?, Issued.token?, hop]
      · rw [Client.setCall_calls_of_ne heq]
  | @drawToken s l c op stream id hc hop =>
      refine Or.inr ⟨c, rfl, rfl, ?_, fun c' hne => ?_⟩
      · show ((s.setCall c _).calls c).token? = _
        rw [Client.setCall_calls_self]
        simp [Call.token?, Call.issued?, Issued.token?, hop]
      · show ((s.setCall c _).calls c').token? = (s.calls c').token?
        rw [Client.setCall_calls_of_ne hne]
  | @finish s l c i response =>
      obtain ⟨forwards, heq⟩ := s.complete_eq c i response
      refine Or.inl ⟨?_, hsame (fun _ h => nomatch h)⟩
      show (s.complete c i response).nextForwardToken = _
      rw [heq]
      rfl
  | @receive s l packet =>
      refine Or.inl ⟨?_, hsame (fun _ h => nomatch h)⟩
      show (s.receive packet).nextForwardToken = _
      rcases s.receive_cases packet with ⟨id, owner, -, -, heq⟩ | ⟨events, reader, heq, -⟩
      · rw [heq]
      · rw [heq]
  | _ => exact Or.inl ⟨rfl, hsame (fun _ h => nomatch h)⟩

/-- **Tokens are unique** as long as their counter has not wrapped. It is never ahead of the
requests that have been built. -/
def Tokens (h : List SystemEvent) (client : Client) : Prop :=
  ∃ n ≤ built h, client.nextForwardToken = UInt64.ofNat (n + 1) ∧
    Fresh (n + 1) (fun c => (client.calls c).token?.map UInt64.toNat)

theorem Tokens.client (ht : Tokens h d.client) (hs : ClientStep requests responses d e d')
    (hfew : built (.client e :: h) < 2 ^ 64) : Tokens (.client e :: h) d'.client := by
  obtain ⟨n, hn, hnext, hfresh⟩ := ht
  rcases hs.token_cases with ⟨hnext', hsame⟩ | ⟨c, rfl, hnext', hc, hothers⟩
  · refine ⟨n, Nat.le_trans hn (Nat.le_add_left ..), hnext'.trans hnext, hfresh.keep fun c => ?_⟩
    exact Or.inl (by rw [hsame c])
  · have hcount : built (.client (.build c) :: h) = built h + 1 := Nat.add_comm 1 (built h)
    have hlt : n + 1 < 2 ^ 64 := by omega
    refine ⟨n + 1, by omega, ?_, hfresh.draw (c := c) ?_ (fun c' hne => by rw [hothers c' hne])⟩
    · rw [hnext', hnext]
      exact (UInt64.ofNat_add ..).symm
    · rw [hc, hnext]
      exact congrArg some (UInt64.toNat_ofNat_of_lt hlt)

theorem tokens_of_run (hr : SystemRun requests responses hello h s) :
    Balanced h s.client ∧ (built h < 2 ^ 64 → Tokens h s.client) := by
  refine Run.invariant (P := fun h s => Balanced h s.client ∧
    (built h < 2 ^ 64 → Tokens h s.client)) ?_ ?_ hr
  · rintro s rfl
    refine ⟨⟨∅, fun c => ?_, rfl⟩, fun _ => ⟨0, Nat.le_refl _, rfl, Fresh.none _⟩⟩
    simp [System.new, Client.new, Call.isNumbered]
  · rintro h s e s' _ ⟨hb, ht⟩ hs
    cases hs with
    | client hs =>
        refine ⟨hb.client hs, fun hfew => ?_⟩
        exact (ht (Nat.lt_of_le_of_lt (Nat.le_add_left ..) hfew)).client hs hfew
    | process => exact ⟨hb, ht⟩

/-- **A token stands for the call that has drawn it**, as long as fewer than `2 ^ 64` requests have
been made. -/
theorem token_unique (hr : SystemRun requests responses hello h s) (hfew : drawn h < 2 ^ 64)
    {c' : CallId} {i' : Issued} (hc : (s.client.calls c).issued? = some i)
    (hc' : (s.client.calls c').issued? = some i') (hop : i.op.drawsToken = true)
    (hop' : i'.op.drawsToken = true) (htoken : i.token = i'.token) : c = c' := by
  obtain ⟨⟨numbered, -, hcount⟩, ht⟩ := tokens_of_run hr
  obtain ⟨n, -, -, hfresh⟩ := ht (by omega)
  apply hfresh.inj c c' i.token.toNat
  · rw [Call.token?_of_issued hc hop]
    rfl
  · rw [Call.token?_of_issued hc' hop', htoken]
    rfl

/-! ## What a step keeps -/

theorem SystemStep.issued?_of_issued {e : SystemEvent} (hs : SystemStep requests responses s e s')
    (hi : (s.client.calls c).issued? = some i) : (s'.client.calls c).issued? = some i := by
  cases hs with
  | client hs => exact hs.issued?_of_issued c i hi
  | process => exact hi

theorem SystemStep.sent_of_sent {e : SystemEvent} (hs : SystemStep requests responses s e s')
    (h : (s.client.calls c).sent = true) : (s'.client.calls c).sent = true := by
  cases hs with
  | client hs => exact hs.sent_of_sent c h
  | process => exact h

/-- The record of the requests that were handled only grows. -/
theorem ProcessStep.handled_subset {p' : Process} {l' : Link} {e : ProcessEvent}
    (hs : ProcessStep requests responses p l e p' l') : p.handled ⊆ p'.handled := by
  cases hs with
  | handle => exact List.subset_append_left ..
  | _ => exact List.Subset.refl _

theorem SystemStep.handled_subset {e : SystemEvent} (hs : SystemStep requests responses s e s') :
    s.process.handled ⊆ s'.process.handled := by
  cases hs with
  | client => exact List.Subset.refl _
  | process hs => exact hs.handled_subset

/-- A call that has returned stays where it is. -/
theorem CallMove.not_returned : ¬ CallMove gone c e (.returned i result) call' := by
  intro hm
  cases hm

theorem ClientStep.returned_of_returned (hs : ClientStep requests responses d e d')
    (h : d.client.calls c = .returned i result) : d'.client.calls c = .returned i result := by
  rcases hs.call_cases c with heq | hm
  · rw [heq, h]
  · rw [h] at hm
    exact absurd hm CallMove.not_returned

/-- A call that was abandoned stays so. -/
theorem ClientStep.abandoned_of_abandoned (hs : ClientStep requests responses d e d')
    (h : d.client.calls c = .abandoned i) : d'.client.calls c = .abandoned i := by
  rcases hs.call_cases c with heq | hm
  · rw [heq, h]
  · rw [h] at hm
    cases hm

/-- A call that has begun has done so in an event of the history. -/
theorem begun_of_run (hr : SystemRun requests responses hello h s) :
    ∀ c op, (s.client.calls c).op? = some op → .client (.begin c op) ∈ h := by
  refine Run.invariant (P := fun h s => ∀ c op, (s.client.calls c).op? = some op →
    SystemEvent.client (.begin c op) ∈ h) ?_ ?_ hr
  · rintro s rfl c op h
    cases h
  · intro h s e s' _ ih hs c op hop
    cases hs with
    | @client e d hs =>
        rcases hs.call_cases c with heq | hm
        · exact List.mem_cons_of_mem _ (ih c op (heq ▸ hop))
        · rcases hm.op? hop with hbefore | rfl
          · exact List.mem_cons_of_mem _ (ih c op hbefore)
          · exact List.mem_cons_self
    | process => exact List.mem_cons_of_mem _ (ih c op hop)

/-! ## Listeners -/

/-- The executor has bound the listener for the call `c`, under the token of that call. -/
structure Bound (s : System) (token : UInt64) (listener : Listener) (c : CallId) (i : Issued) :
    Prop where
  issued : (s.client.calls c).issued? = some i
  sent : (s.client.calls c).sent = true
  op : ∃ handle connected port,
    i.op = .startRemoteForward handle connected listener.bindAddress port
  token : i.token = token
  handled : (i.id, .ok (.bound listener.boundPort)) ∈ s.process.handled

theorem Bound.drawsToken (hb : Bound s token listener c i) : i.op.drawsToken = true := by
  obtain ⟨handle, connected, port, hop⟩ := hb.op
  rw [hop]
  rfl

theorem Bound.step {e : SystemEvent} (hb : Bound s token listener c i)
    (hs : SystemStep requests responses s e s') : Bound s' token listener c i :=
  ⟨hs.issued?_of_issued hb.issued, hs.sent_of_sent hb.sent, hb.op, hb.token,
    hs.handled_subset hb.handled⟩

/-- The first request in the executor's queue is that of a call that has sent it. -/
theorem InFlight.first (hf : InFlight requests s) {packet : TransportPacket ExecutorRequest Fd}
    {rest : List (TransportPacket ExecutorRequest Fd)} (hq : s.process.requests = packet :: rest) :
    ∃ c i, (s.client.calls c).issued? = some i ∧ (s.client.calls c).sent = true ∧
      packet = i.packet := by
  obtain ⟨hs, rs, qs, hf⟩ := hf
  have hread := hf.read
  rw [hq] at hread
  obtain ⟨c, later, ⟨i, hi, hp⟩, -, rfl⟩ := List.forall₂_cons_left_iff.mp hread
  exact ⟨c, i, hi, hf.sent c (by simp), hp⟩

/-- A forward that is started puts its listener into the table; nothing else changes. -/
theorem startRemoteForward_cases (os : Surroundings) (state : ExecutorState) (token : UInt64)
    (address : Text) (port : UInt16) :
    (∃ bound, state.startRemoteForward os token address port =
      ({ state with
          remoteForwards := state.remoteForwards.insert token ⟨address, bound, true⟩ },
        .ok (.bound bound))) ∨
    ∃ err, state.startRemoteForward os token address port = (state, .error err) := by
  simp only [ExecutorState.startRemoteForward]
  split
  · next bound _ => exact Or.inl ⟨bound, rfl⟩
  · next err _ => exact Or.inr ⟨err, rfl⟩

/-- A forward that is cancelled loses its listener, if it has one. -/
theorem cancelRemoteForward_cases (state : ExecutorState) (token : UInt64) :
    (state.cancelRemoteForward token =
      ({ state with remoteForwards := state.remoteForwards.erase token }, .ok .cancelled)) ∨
    (state.remoteForwards.lookup token = none ∧
      ∃ err, state.cancelRemoteForward token = (state, .error err)) := by
  unfold ExecutorState.cancelRemoteForward
  split
  · next hnone => exact Or.inr ⟨hnone, _, rfl⟩
  · exact Or.inl rfl

/-- **What handling a call's request does to the listeners.** -/
theorem handle_remoteForwards (os : Surroundings) (state : ExecutorState) (i : Issued) :
    (state.handle os i.packet).1.remoteForwards = state.remoteForwards ∨
    (∃ handle connected address port bound,
      i.op = .startRemoteForward handle connected address port ∧
      (state.handle os i.packet).1.remoteForwards =
        state.remoteForwards.insert i.token ⟨address, bound, true⟩ ∧
      (state.handle os i.packet).2.2 = some (i.id, .ok (.bound bound))) ∨
    ∃ token, i.op = .cancelRemoteForward token ∧
      (state.handle os i.packet).1.remoteForwards = state.remoteForwards.erase token := by
  obtain ⟨op, stream, id, token⟩ := i
  cases op with
  | startRemoteForward handle connected address port =>
      rcases startRemoteForward_cases os state token address port with ⟨bound, heq⟩ | ⟨err, heq⟩
      · refine Or.inr (Or.inl ⟨handle, connected, address, port, bound, rfl, ?_, ?_⟩)
        · show (state.startRemoteForward os token address port).1.remoteForwards = _
          rw [heq]
        · show some (id, (state.startRemoteForward os token address port).2) = _
          rw [heq]
      · refine Or.inl ?_
        show (state.startRemoteForward os token address port).1.remoteForwards = _
        rw [heq]
  | cancelRemoteForward cancelled =>
      rcases cancelRemoteForward_cases state cancelled with heq | ⟨-, err, heq⟩
      · refine Or.inr (Or.inr ⟨cancelled, rfl, ?_⟩)
        show (state.cancelRemoteForward cancelled).1.remoteForwards = _
        rw [heq]
      · refine Or.inl ?_
        show (state.cancelRemoteForward cancelled).1.remoteForwards = _
        rw [heq]
  | _ => exact Or.inl rfl

/-- A listener stays, unless the request cancels it. -/
theorem mem_handle_or_cancels (os : Surroundings) (state : ExecutorState) (i : Issued)
    (h : token ∈ state.remoteForwards) :
    token ∈ (state.handle os i.packet).1.remoteForwards ∨ i.op = .cancelRemoteForward token := by
  rcases handle_remoteForwards os state i with
    heq | ⟨handle, connected, address, port, bound, -, heq, -⟩ | ⟨gone, hop, heq⟩
  · exact Or.inl (heq ▸ h)
  · rw [heq, AList.mem_insert]
    exact Or.inl (Or.inr h)
  · by_cases htoken : token = gone
    · exact Or.inr (htoken ▸ hop)
    · rw [heq, AList.mem_erase]
      exact Or.inl ⟨htoken, h⟩

/-- A listener that is new is the one of the request. -/
theorem mem_of_mem_handle {os : Surroundings} {state : ExecutorState}
    (h : token ∈ (state.handle os i.packet).1.remoteForwards) :
    token ∈ state.remoteForwards ∨ (token = i.token ∧ i.op.drawsToken = true) := by
  rcases handle_remoteForwards os state i with
    heq | ⟨handle, connected, address, port, bound, hop, heq, -⟩ | ⟨gone, -, heq⟩
  · exact Or.inl (heq ▸ h)
  · rw [heq, AList.mem_insert] at h
    rcases h with htoken | hold
    · exact Or.inr ⟨htoken, by rw [hop]; rfl⟩
    · exact Or.inl hold
  · rw [heq, AList.mem_erase] at h
    exact Or.inl h.2

/-- Every listener is one that the executor has bound for a call. -/
def Hosted (s : System) : Prop :=
  ∀ token listener, s.process.state.remoteForwards.lookup token = some listener →
    ∃ c i, Bound s token listener c i

theorem Hosted.step {e : SystemEvent} (hh : Hosted s) (hf : InFlight requests s)
    (hs : SystemStep requests responses s e s') : Hosted s' := by
  have hold : ∀ token listener, s.process.state.remoteForwards.lookup token = some listener →
      ∃ c i, Bound s' token listener c i := by
    intro token listener h
    obtain ⟨c, i, hb⟩ := hh token listener h
    exact ⟨c, i, hb.step hs⟩
  intro token listener hlookup
  cases hs with
  | client => exact hold token listener hlookup
  | process hs =>
      cases hs with
      | @handle os packet rest _ _ hrequests =>
          obtain ⟨c, i, hi, hsent, rfl⟩ := hf.first hrequests
          rcases handle_remoteForwards os s.process.state i with
            heq | ⟨handle, connected, address, port, bound, hop, heq, hrecord⟩ | ⟨gone, -, heq⟩
          · exact hold token listener (heq ▸ hlookup)
          · simp only [heq, Table.lookup_insert_ite] at hlookup
            split at hlookup
            · next htoken =>
                cases hlookup
                refine ⟨c, i, hi, hsent, ⟨handle, connected, port, hop⟩, htoken.symm, ?_⟩
                show _ ∈ s.process.handled ++ (s.process.state.handle os i.packet).2.2.toList
                rw [hrecord]
                exact List.mem_append_right _ (List.mem_singleton_self _)
            · exact hold token listener hlookup
          · simp only [heq, Table.lookup_erase_ite] at hlookup
            split at hlookup
            · cases hlookup
            · exact hold token listener hlookup
      | @acceptEnds closed before _ hclosed =>
          simp only [Table.lookup_insert_ite] at hlookup
          split at hlookup
          · next htoken =>
              cases hlookup
              subst htoken
              obtain ⟨c, i, hb⟩ := hold token before hclosed
              exact ⟨c, i, hb.issued, hb.sent, hb.op, hb.token, hb.handled⟩
          · exact hold token listener hlookup
      | _ => exact hold token listener hlookup

/-! ## Connections -/

/-- The message that reports the connection. -/
def RemoteForwardEvent.packet (event : RemoteForwardEvent) : TransportPacket ExecutorResponse Fd :=
  ⟨.remoteForwardIncoming event.token event.originatorAddress event.originatorPort,
    some event.streamFd⟩

/-- **The executor has accepted the connection on the listener**: in a step of the history an accept
loop has reported it, and it was the loop of that listener. -/
inductive Accepted (requests : SerdeJson ExecutorRequest) (responses : SerdeJson ExecutorResponse)
    (hello : ExecutorHello) (event : RemoteForwardEvent) (listener : Listener) :
    List SystemEvent → Prop
  | here {h : List SystemEvent} {s s' : System} {dg : Datagram Fd}
      (hr : SystemRun requests responses hello h s)
      (hlistener : s.process.state.remoteForwards.lookup event.token = some listener)
      (hs : SystemStep requests responses s (.process (.accept event.token)) s')
      (hqueue : s'.link.toClient.queue = s.link.toClient.queue ++ [dg])
      (hd : Carries responses dg event.packet) :
      Accepted requests responses hello event listener (.process (.accept event.token) :: h)
  | later {h : List SystemEvent} {e : SystemEvent}
      (ha : Accepted requests responses hello event listener h) :
      Accepted requests responses hello event listener (e :: h)

/-- The connection was accepted on a listener that was bound for a call. -/
def Origin (requests : SerdeJson ExecutorRequest) (responses : SerdeJson ExecutorResponse)
    (hello : ExecutorHello) (h : List SystemEvent) (s : System) (event : RemoteForwardEvent) :
    Prop :=
  ∃ listener c i, Accepted requests responses hello event listener h ∧
    Bound s event.token listener c i

theorem Origin.step {e : SystemEvent} (ho : Origin requests responses hello h s event)
    (hs : SystemStep requests responses s e s') :
    Origin requests responses hello (e :: h) s' event := by
  obtain ⟨listener, c, i, ha, hb⟩ := ho
  exact ⟨listener, c, i, ha.later, hb.step hs⟩

/-- The response to a request reports no connection. -/
theorem handle_not_incoming (os : Surroundings) (state : ExecutorState)
    (packet : TransportPacket ExecutorRequest Fd) (token : UInt64) (address : Text)
    (port : UInt32) :
    (state.handle os packet).2.1 ≠ .remoteForwardIncoming token address port := by
  have hresult : ∀ id (result : Except AnyError Done),
      sendRequestResult id result ≠ .remoteForwardIncoming token address port := by
    intro id result
    cases result <;> exact fun h => nomatch h
  obtain ⟨message, attachedFd⟩ := packet
  cases message with
  | hello => exact fun h => nomatch h
  | _ => exact hresult _ _

/-- The reader thread passes on the connection of the packet, and no other. -/
theorem Client.receive_events {s : Client} {packet : TransportPacket ExecutorResponse Fd}
    (h : event ∈ (s.receive packet).events) : event ∈ s.events ∨ packet = event.packet := by
  obtain ⟨message, attachedFd⟩ := packet
  have hdeliver : ∀ id response, (s.deliver id response).events = s.events := by
    intro id response
    rcases s.deliver_cases id response with ⟨owner, -, heq⟩ | heq
    · rw [heq]
    · rw [heq]
  cases message with
  | requestOk id detail => exact Or.inl (hdeliver id (.requestOk id detail) ▸ h)
  | requestErr id message => exact Or.inl (hdeliver id (.requestErr id message) ▸ h)
  | helloAck => exact Or.inl h
  | remoteForwardIncoming token address port =>
      cases attachedFd with
      | none => exact Or.inl h
      | some fd =>
          by_cases hlive : s.dispatching = true
          · simp only [Client.receive, hlive, if_true] at h
            rcases List.mem_append.mp h with hold | hnew
            · exact Or.inl hold
            · rw [List.mem_singleton.mp hnew]
              exact Or.inr rfl
          · simp only [Client.receive, hlive] at h
            exact Or.inl h

/-- **Every connection that is on its way, waits for the dispatch task or has been dispatched was
accepted on a listener that was bound for a call.** -/
structure Reported (requests : SerdeJson ExecutorRequest) (responses : SerdeJson ExecutorResponse)
    (hello : ExecutorHello) (h : List SystemEvent) (s : System) : Prop where
  reply : ∀ response, s.process.reply = some response → ∀ token address port,
    response ≠ .remoteForwardIncoming token address port
  queued : ∀ dg ∈ s.link.toClient.queue, ∃ packet, Carries responses dg packet ∧
    ∀ event : RemoteForwardEvent, packet = event.packet →
      Origin requests responses hello h s event
  waiting : ∀ event ∈ s.client.events, Origin requests responses hello h s event
  dispatched : ∀ event found, (event, found) ∈ s.client.dispatched →
    Origin requests responses hello h s event

/-- The client's connections come from the reader thread, and go to the dispatch task. -/
theorem ClientStep.events_cases (hs : ClientStep requests responses d e d') :
    (∀ event ∈ d'.client.events, event ∈ d.client.events ∨
      ∃ packet pipe reception,
        ControlReader.recv responses reception d.link.toClient = some (.ok packet, pipe) ∧
        packet = event.packet) ∧
    ∀ event found, (event, found) ∈ d'.client.dispatched →
      (event, found) ∈ d.client.dispatched ∨
        (event ∈ d.client.events ∧ e = .dispatch ∧ (∃ rest, d.client.events = event :: rest) ∧
          found = d.client.remoteForwards.lookup event.token) := by
  cases hs with
  | @finish s l c i response =>
      obtain ⟨forwards, heq⟩ := s.complete_eq c i response
      refine ⟨fun event h => Or.inl ?_, fun event found h => Or.inl ?_⟩
      · change event ∈ (s.complete c i response).events at h
        rw [heq] at h
        exact h
      · change (event, found) ∈ (s.complete c i response).dispatched at h
        rw [heq] at h
        exact h
  | @receive s l packet pipe _ _ hrecv =>
      refine ⟨fun event h => ?_, fun event found h => Or.inl ?_⟩
      · rcases Client.receive_events h with hold | hpacket
        · exact Or.inl hold
        · exact Or.inr ⟨packet, pipe, _, hrecv, hpacket⟩
      · change (event, found) ∈ (s.receive packet).dispatched at h
        rcases s.receive_cases packet with ⟨id, owner, -, -, heq⟩ | ⟨events, reader, heq, -⟩
        · rw [heq] at h
          exact h
        · rw [heq] at h
          exact h
  | @dispatch s l event rest _ hevents =>
      have hmem : event ∈ s.events := by
        rw [hevents]
        exact List.mem_cons_self
      refine ⟨fun event' h => Or.inl ?_, fun event' found h => ?_⟩
      · show event' ∈ s.events
        rw [hevents]
        exact List.mem_cons_of_mem _ h
      · rcases List.mem_append.mp h with hold | hnew
        · exact Or.inl hold
        · cases List.mem_singleton.mp hnew
          exact Or.inr ⟨hmem, rfl, ⟨rest, hevents⟩, rfl⟩
  | _ => exact ⟨fun _ h => Or.inl h, fun _ _ h => Or.inl h⟩

/-- The dispatch task records what it has found. -/
theorem ClientStep.dispatched_cases (hs : ClientStep requests responses d e d') :
    d'.client.dispatched = d.client.dispatched ∨
      ∃ event, d'.client.dispatched =
        d.client.dispatched ++ [(event, d.client.remoteForwards.lookup event.token)] := by
  cases hs with
  | @finish s l c i response =>
      obtain ⟨forwards, heq⟩ := s.complete_eq c i response
      refine Or.inl ?_
      show (s.complete c i response).dispatched = _
      rw [heq]
      rfl
  | @receive s l packet =>
      refine Or.inl ?_
      show (s.receive packet).dispatched = _
      rcases s.receive_cases packet with ⟨id, owner, -, -, heq⟩ | ⟨events, reader, heq, -⟩
      · rw [heq]
      · rw [heq]
  | @dispatch s l event => exact Or.inr ⟨event, rfl⟩
  | _ => exact Or.inl rfl

theorem Reported.client (hlaw : responses.Lawful) (hp : Reported requests responses hello h s)
    (hs : ClientStep requests responses ⟨s.client, s.link⟩ e d) :
    Reported requests responses hello (.client e :: h) ⟨d.client, d.link, s.process⟩ := by
  have hstep : SystemStep requests responses s (.client e) ⟨d.client, d.link, s.process⟩ :=
    .client hs
  have hqueued : ∀ dg ∈ s.link.toClient.queue, ∃ packet, Carries responses dg packet ∧
      ∀ event : RemoteForwardEvent, packet = event.packet → Origin requests responses hello
        (.client e :: h) ⟨d.client, d.link, s.process⟩ event := by
    intro dg hdg
    obtain ⟨packet, hd, horigin⟩ := hp.queued dg hdg
    exact ⟨packet, hd, fun event heq => (horigin event heq).step hstep⟩
  obtain ⟨hevents, hdispatched⟩ := hs.events_cases
  refine ⟨hp.reply, fun dg hdg => hqueued dg (hs.toClient_subset hdg), ?_, ?_⟩
  · intro event hevent
    rcases hevents event hevent with hold | ⟨packet, pipe, _, hrecv, hpacket⟩
    · exact (hp.waiting event hold).step hstep
    · rcases recv_eq_some hrecv with ⟨dg, rest, hq, -⟩ | ⟨-, err, herr⟩
      · obtain ⟨packet', hd, horigin⟩ := hqueued dg (by
          show dg ∈ s.link.toClient.queue
          rw [hq]
          exact List.mem_cons_self)
        obtain ⟨rfl, -⟩ := eq_of_recv_eq_ok hlaw hq hd hrecv
        exact horigin event hpacket
      · cases herr
  · intro event found hmem
    rcases hdispatched event found hmem with hold | ⟨hwaiting, -⟩
    · exact (hp.dispatched event found hold).step hstep
    · exact (hp.waiting event hwaiting).step hstep

/-- A message that is written reports nothing, or a connection of known origin. -/
theorem Reported.write {e : SystemEvent} (hp : Reported requests responses hello h s)
    (hs : SystemStep requests responses s e s') (hclient : s'.client = s.client)
    (hreply : ∀ response, s'.process.reply = some response → ∀ token address port,
      response ≠ .remoteForwardIncoming token address port)
    (hqueue : ∀ dg ∈ s'.link.toClient.queue, dg ∈ s.link.toClient.queue ∨
      ∃ packet, Carries responses dg packet ∧ ∀ event : RemoteForwardEvent,
        packet = event.packet → Origin requests responses hello (e :: h) s' event) :
    Reported requests responses hello (e :: h) s' where
  reply := hreply
  queued dg hdg := by
    rcases hqueue dg hdg with hold | hnew
    · obtain ⟨packet, hd, horigin⟩ := hp.queued dg hold
      exact ⟨packet, hd, fun event heq => (horigin event heq).step hs⟩
    · exact hnew
  waiting event hevent := (hp.waiting event (hclient ▸ hevent)).step hs
  dispatched event found hmem := (hp.dispatched event found (hclient ▸ hmem)).step hs

theorem Reported.process {e : ProcessEvent} (hp : Reported requests responses hello h s)
    (hr : SystemRun requests responses hello h s) (hh : Hosted s)
    (hs : ProcessStep requests responses s.process s.link e p l) :
    Reported requests responses hello (.process e :: h) ⟨s.client, l, p⟩ := by
  have hstep : SystemStep requests responses s (.process e) ⟨s.client, l, p⟩ := .process hs
  cases hs with
  | handle =>
      refine hp.write hstep rfl ?_ (fun _ hdg => Or.inl hdg)
      intro response hresponse
      cases hresponse
      exact handle_not_incoming _ _ _
  | @reply response fault pipe _ hreply hsend =>
      obtain ⟨-, dg, hd, rfl⟩ := send_eq_ok hsend
      refine hp.write hstep rfl (fun _ hnone => nomatch hnone) ?_
      intro dg' hdg
      rcases List.mem_append.mp hdg with hold | hnew
      · exact Or.inl hold
      · rw [List.mem_singleton.mp hnew]
        refine Or.inr ⟨_, hd, fun event heq => ?_⟩
        cases heq
  | @accept token listener number address port fault pipe _ htoken _ hsend =>
      obtain ⟨-, dg, hd, rfl⟩ := send_eq_ok hsend
      refine hp.write hstep rfl hp.reply ?_
      intro dg' hdg
      rcases List.mem_append.mp hdg with hold | hnew
      · exact Or.inl hold
      · rw [List.mem_singleton.mp hnew]
        refine Or.inr ⟨_, hd, fun event heq => ?_⟩
        obtain ⟨token', address', port', fd'⟩ := event
        cases heq
        obtain ⟨c, i, hb⟩ := hh _ listener htoken
        exact ⟨listener, c, i, .here hr htoken hstep rfl hd, hb.step hstep⟩
  | _ => exact hp.write hstep rfl hp.reply (fun _ hdg => Or.inl hdg)

/-! ## Registrations -/

/-- A call that has returned, with success, has registered the forward. -/
def Registers (client : Client) (token : UInt64) (registration : RemoteForwardRegistration) :
    Prop :=
  ∃ c i bind port,
    client.calls c = .returned i (.ok (.started token registration.connectedPort)) ∧
    i.op = .startRemoteForward registration.sessionHandle registration.connectedAddress bind port ∧
    i.token = token

/-- What a forward returns is its own token and the port it was told. -/
theorem Issued.finish_eq_started (h : i.finish response = .ok (.started token port)) :
    i.op.drawsToken = true ∧ token = i.token ∧
      ∃ id bound, response = .requestOk id (.boundPort bound) ∧ port = bound.toUInt32 := by
  obtain ⟨id, detail, rfl⟩ := finish_eq_ok h
  obtain ⟨op, own, _, drawn⟩ := i
  cases op with
  | startRemoteForward handle connected bind bindPort =>
      cases detail with
      | empty => cases h
      | boundPort bound =>
          cases h
          exact ⟨rfl, rfl, id, bound, rfl, rfl⟩
  | cancelRemoteForward => cases detail <;> cases h
  | _ => cases own <;> cases detail <;> cases h

/-- A forward that returns a success returns its token. -/
theorem Issued.started_of_finish (hop : i.op.drawsToken = true) (h : i.finish response =
    .ok reply) :
    ∃ port, reply = .started i.token port := by
  obtain ⟨id, detail, rfl⟩ := finish_eq_ok h
  obtain ⟨op, own, _, drawn⟩ := i
  cases op with
  | startRemoteForward handle connected bind bindPort =>
      cases detail with
      | empty => cases h
      | boundPort bound =>
          cases h
          exact ⟨bound.toUInt32, rfl⟩
  | _ => cases hop

/-- A call registers a forward exactly when it returns one, under its own token. -/
theorem Client.complete_remoteForwards (s : Client) (c : CallId) (i : Issued)
    (response : ExecutorResponse) :
    (∃ handle connected bind port bound, i.op = .startRemoteForward handle connected bind port ∧
      i.finish response = .ok (.started i.token bound) ∧
      (s.complete c i response).remoteForwards =
        s.remoteForwards.insert i.token ⟨handle, connected, bound⟩) ∨
    ((s.complete c i response).remoteForwards = s.remoteForwards ∧
      ∀ token bound, i.finish response ≠ .ok (.started token bound)) := by
  by_cases hstarted : ∃ token bound, i.finish response = .ok (.started token bound)
  · obtain ⟨token, bound, hfinish⟩ := hstarted
    obtain ⟨hop, rfl, -⟩ := Issued.finish_eq_started hfinish
    obtain ⟨op, own, id, drawn⟩ := i
    cases op with
    | startRemoteForward handle connected bind port =>
        refine Or.inl ⟨handle, connected, bind, port, bound, rfl, hfinish, ?_⟩
        simp only [Client.complete, hfinish]
        rfl
    | _ => cases hop
  · refine Or.inr ⟨?_, fun token bound hfinish => hstarted ⟨token, bound, hfinish⟩⟩
    unfold Client.complete
    split
    · next handle connected bind port token bound _ hfinish =>
        exact absurd ⟨token, bound, hfinish⟩ hstarted
    · rfl

/-- **What a step does to the registrations.** A forward that returns enters its own, and whoever
cancels a forward takes it out before anything else. -/
theorem ClientStep.remoteForwards_cases (hs : ClientStep requests responses d e d') :
    d'.client.remoteForwards = d.client.remoteForwards ∨
    (∃ c token, e = .begin c (.cancelRemoteForward token) ∧
      d'.client.remoteForwards = d.client.remoteForwards.erase token) ∨
    ∃ c i handle connected bind port bound, e = .finish c ∧ d.client.calls c = .awaiting i ∧
      i.op = .startRemoteForward handle connected bind port ∧
      d'.client.calls c = .returned i (.ok (.started i.token bound)) ∧
      d'.client.remoteForwards =
        d.client.remoteForwards.insert i.token ⟨handle, connected, bound⟩ := by
  cases hs with
  | cancel => exact Or.inr (Or.inl ⟨_, _, rfl, rfl⟩)
  | @finish s l c i response hc hslot =>
      rcases s.complete_remoteForwards c i response with
        ⟨handle, connected, bind, port, bound, hop, hfinish, heq⟩ | ⟨heq, -⟩
      · refine Or.inr (Or.inr ⟨c, i, handle, connected, bind, port, bound, rfl, hc, hop, ?_, heq⟩)
        show (s.complete c i response).calls c = _
        rw [Client.complete_calls, Client.setCall_calls_self, hfinish]
      · exact Or.inl heq
  | @receive s l packet =>
      refine Or.inl ?_
      show (s.receive packet).remoteForwards = _
      rcases s.receive_cases packet with ⟨id, owner, -, -, heq⟩ | ⟨events, reader, heq, -⟩
      · rw [heq]
      · rw [heq]
  | _ => exact Or.inl rfl

/-- **What the end of a call does to the registrations.** -/
theorem ClientStep.return_registers (hs : ClientStep requests responses d e d')
    (he : e = .finish c ∨ e = .cleanUp c) (hc : d'.client.calls c = .returned i result) :
    (∃ handle connected bind port bound, d.client.calls c = .awaiting i ∧
      i.op = .startRemoteForward handle connected bind port ∧
      result = .ok (.started i.token bound) ∧
      d'.client.remoteForwards =
        d.client.remoteForwards.insert i.token ⟨handle, connected, bound⟩) ∨
    (d'.client.remoteForwards = d.client.remoteForwards ∧
      ∀ token bound, result ≠ .ok (.started token bound)) := by
  rcases he with rfl | rfl
  · cases hs with
    | @finish s l _ j response hwaits hslot =>
        change (s.complete c j response).calls c = _ at hc
        rw [Client.complete_calls, Client.setCall_calls_self] at hc
        obtain ⟨rfl, rfl⟩ := Call.returned.inj hc
        rcases s.complete_remoteForwards c j response with
          ⟨handle, connected, bind, port, bound, hop, hfinish, heq⟩ | hsame
        · exact Or.inl ⟨handle, connected, bind, port, bound, hwaits, hop, hfinish, heq⟩
        · exact Or.inr hsame
    | @finishDropped s l _ j hwaits hslot =>
        change (s.setCall c _).calls c = _ at hc
        rw [Client.setCall_calls_self] at hc
        obtain ⟨-, rfl⟩ := Call.returned.inj hc
        exact Or.inr ⟨rfl, nofun⟩
  · cases hs with
    | @cleanUp s l _ j err hfailed =>
        change ((s.unregister j.id).setCall c _).calls c = _ at hc
        rw [Client.setCall_calls_self] at hc
        obtain ⟨-, rfl⟩ := Call.returned.inj hc
        exact Or.inr ⟨rfl, nofun⟩

/-- **Every registration, and every one that the dispatch task has found, is that of a call which
has returned.** -/
structure Registrations (client : Client) : Prop where
  current : ∀ token registration, client.remoteForwards.lookup token = some registration →
    Registers client token registration
  found : ∀ event registration, (event, some registration) ∈ client.dispatched →
    Registers client event.token registration

theorem Registers.step (hreg : Registers d.client token registration)
    (hs : ClientStep requests responses d e d') : Registers d'.client token registration := by
  obtain ⟨c, i, bind, port, hc, hop, htoken⟩ := hreg
  exact ⟨c, i, bind, port, hs.returned_of_returned hc, hop, htoken⟩

theorem Registrations.client (hi : Registrations d.client)
    (hs : ClientStep requests responses d e d') : Registrations d'.client where
  current token registration hlookup := by
    rcases hs.remoteForwards_cases with
      heq | ⟨c, gone, -, heq⟩ | ⟨c, i, handle, connected, bind, port, bound, -, -, hop, hc, heq⟩
    · exact (hi.current token registration (heq ▸ hlookup)).step hs
    · rw [heq, Table.lookup_erase_ite] at hlookup
      split at hlookup
      · cases hlookup
      · exact (hi.current token registration hlookup).step hs
    · rw [heq, Table.lookup_insert_ite] at hlookup
      split at hlookup
      · next htoken =>
          cases hlookup
          subst htoken
          exact ⟨c, i, bind, port, hc, hop, rfl⟩
      · exact (hi.current token registration hlookup).step hs
  found event registration hmem := by
    rcases hs.events_cases.2 event _ hmem with hold | ⟨-, -, -, hfound⟩
    · exact (hi.found event registration hold).step hs
    · exact (hi.current event.token registration hfound.symm).step hs

/-! ## Along a run -/

/-- All that is kept about the forwards. -/
structure Forwarded (requests : SerdeJson ExecutorRequest) (responses : SerdeJson ExecutorResponse)
    (hello : ExecutorHello) (h : List SystemEvent) (s : System) : Prop where
  hosted : Hosted s
  reported : Reported requests responses hello h s
  registrations : Registrations s.client

theorem forwarded_of_run (hreq : requests.Lawful) (hresp : responses.Lawful)
    (hr : SystemRun requests responses hello h s) : Forwarded requests responses hello h s := by
  refine Run.invariant (P := Forwarded requests responses hello) ?_ ?_ hr
  · rintro s rfl
    refine ⟨(fun _ _ h => nomatch h), ⟨?_, ?_, ?_, ?_⟩, ⟨?_, ?_⟩⟩
    · exact fun _ h => nomatch h
    · exact fun _ h => nomatch h
    · exact fun _ h => nomatch h
    · exact fun _ _ h => nomatch h
    · exact fun _ _ h => nomatch h
    · exact fun _ _ h => nomatch h
  · intro h s e s' hr hi hs
    have hflight := (isolated_of_run hreq hresp hr).flight
    have hhosted := hi.hosted.step hflight hs
    cases hs with
    | client hs => exact ⟨hhosted, hi.reported.client hresp hs, hi.registrations.client hs⟩
    | process hs =>
        exact ⟨hhosted, hi.reported.process hr hi.hosted hs, hi.registrations⟩

/-! ## Whose connection it is -/

/-- A request is recorded with one result only. -/
theorem Isolated.result_unique (hi : Isolated requests responses h s) (hfew : drawn h < 2 ^ 64)
    {id : UInt64} {result result' : Except AnyError Done} (hmem : (id, result) ∈ s.process.handled)
    (hmem' : (id, result') ∈ s.process.handled) : result = result' := by
  have hsame := List.inj_on_of_nodup_map (hi.nodup_ids hfew) hmem hmem' rfl
  exact congrArg Prod.snd hsame

/-- A forward returns the port that the record has for it. -/
theorem bound_of_started {handled : List (UInt64 × Except AnyError Done)}
    (hanswers : Answers handled i response)
    (hfinish : i.finish response = .ok (.started token port)) :
    ∃ bound, (i.id, .ok (.bound bound)) ∈ handled ∧ port = bound.toUInt32 := by
  obtain ⟨hid, hjust⟩ := hanswers
  obtain ⟨-, -, id, bound, rfl, rfl⟩ := Issued.finish_eq_started hfinish
  cases hid
  obtain ⟨done, hmem, hdetail⟩ := hjust
  cases done with
  | bound port =>
      cases hdetail
      exact ⟨_, hmem, rfl⟩
  | service => cases hdetail
  | cancelled => cases hdetail

/-- **What the dispatch task finds is the registration of the call that the listener was bound
for**, with the arguments of that call and the port of that listener. -/
theorem registration_of_dispatched (hreq : requests.Lawful) (hresp : responses.Lawful)
    (hr : SystemRun requests responses hello h s) (hfew : drawn h < 2 ^ 64)
    (hmem : (event, some registration) ∈ s.client.dispatched) :
    ∃ listener c i, Accepted requests responses hello event listener h ∧
      Bound s event.token listener c i ∧
      (∃ bind port, i.op = .startRemoteForward registration.sessionHandle
        registration.connectedAddress bind port) ∧
      registration.connectedPort = listener.boundPort.toUInt32 := by
  have hi := isolated_of_run hreq hresp hr
  have hf := forwarded_of_run hreq hresp hr
  obtain ⟨listener, c, i, ha, hb⟩ := hf.reported.dispatched event _ hmem
  obtain ⟨c', i', bind, port, hreturned, hop, htoken⟩ := hf.registrations.found event _ hmem
  -- the token is that of both calls, so they are one
  have hissued : (s.client.calls c').issued? = some i' := by
    rw [hreturned]
    rfl
  have hdraws : i'.op.drawsToken = true := by
    rw [hop]
    rfl
  have hsame : c = c' :=
    token_unique hr hfew hb.issued hissued hb.drawsToken hdraws (hb.token.trans htoken.symm)
  subst hsame
  cases hb.issued.symm.trans hissued
  obtain ⟨response, hanswers, hfinish⟩ := hi.answered.returned c i _ hreturned
  obtain ⟨bound, hbound, hport⟩ := bound_of_started hanswers hfinish
  cases hi.result_unique hfew hbound hb.handled
  exact ⟨listener, c, i, ha, hb, ⟨bind, port, hop⟩, hport⟩

theorem drawn_le_cons (e : SystemEvent) (h : List SystemEvent) : drawn h ≤ drawn (e :: h) := by
  cases e with
  | client e => exact Nat.le_add_left ..
  | process e => exact Nat.le_refl _

/-- The token of a forward that has returned is not entered again. -/
theorem ClientStep.not_mem_of_returned (hr : SystemRun requests responses hello h s)
    (hfew : drawn h < 2 ^ 64) (hreturned : s.client.calls c = .returned i (.ok reply))
    (hdraws : i.op.drawsToken = true) (hs : ClientStep requests responses ⟨s.client, s.link⟩ e d)
    (hnone : i.token ∉ s.client.remoteForwards) : i.token ∉ d.client.remoteForwards := by
  rcases hs.remoteForwards_cases with heq | ⟨c', gone, -, heq⟩ |
    ⟨c', i', handle, connected, bind, port, bound, -, hawaiting, hop, -, heq⟩
  · rw [heq]
    exact hnone
  · rw [heq, AList.mem_erase]
    exact fun h => hnone h.2
  · rw [heq, AList.mem_insert]
    rintro (htoken | hin)
    · -- only the call under this token could enter it, and it does not wait any more
      have hawaiting' : s.client.calls c' = .awaiting i' := hawaiting
      have hsame : c = c' := token_unique hr hfew (by rw [hreturned]; rfl)
        (by rw [hawaiting']; rfl) hdraws (by rw [hop]; rfl) htoken
      rw [hsame, hawaiting'] at hreturned
      cases hreturned
    · exact hnone hin

/-- **A registration that was taken out does not come back.** Whoever begins to cancel a registered
forward takes the registration out, and the dispatch task never finds one under that token again. -/
theorem not_found_after_cancel {h' : List SystemEvent} {s₁ : System} (hreq : requests.Lawful)
    (hresp : responses.Lawful) (hr : SystemRun requests responses hello h s)
    (hfound : s.client.remoteForwards.lookup token = some registration)
    (hs : SystemStep requests responses s (.client (.begin c (.cancelRemoteForward token))) s₁)
    (hr' : Run (· = s₁) (SystemStep requests responses) h' s')
    (hfew : drawn (h' ++ .client (.begin c (.cancelRemoteForward token)) :: h) < 2 ^ 64) :
    s'.client.remoteForwards.lookup token = none ∧
      ∃ later, s'.client.dispatched = s.client.dispatched ++ later ∧
        ∀ event found, (event, found) ∈ later → event.token = token → found = none := by
  obtain ⟨c₀, i₀, bind, port, hreturned, hop, htoken⟩ :=
    (forwarded_of_run hreq hresp hr).registrations.current token registration hfound
  have hdraws : i₀.op.drawsToken = true := by
    rw [hop]
    rfl
  refine (Run.invariant (P := fun h' s' =>
    SystemRun requests responses hello
      (h' ++ .client (.begin c (.cancelRemoteForward token)) :: h) s' ∧
    s'.client.calls c₀ = .returned i₀ (.ok (.started token registration.connectedPort)) ∧
    (drawn (h' ++ .client (.begin c (.cancelRemoteForward token)) :: h) < 2 ^ 64 →
      s'.client.remoteForwards.lookup token = none ∧
      ∃ later, s'.client.dispatched = s.client.dispatched ++ later ∧
        ∀ event found, (event, found) ∈ later → event.token = token → found = none))
    ?_ ?_ hr').2.2 hfew
  · rintro s' rfl
    refine ⟨hr.cons hs, ?_, fun _ => ?_⟩
    · cases hs with
      | client hs => exact hs.returned_of_returned hreturned
    · cases hs with
      | client hs =>
          cases hs with
          | openChannel _ hop => cases hop
          | openChannelFails _ hop => cases hop
          | cancel =>
              exact ⟨AList.lookup_erase _ _, [], (List.append_nil _).symm, fun _ _ h => nomatch h⟩
  · rintro h' s' e s'' - ⟨hrun, hcall, ih⟩ hs
    have hrun' := hrun.cons hs
    cases hs with
    | process => exact ⟨hrun', hcall, ih⟩
    | @client e d hs =>
        refine ⟨hrun', hs.returned_of_returned hcall, fun hfew => ?_⟩
        have hbefore := Nat.lt_of_le_of_lt (drawn_le_cons _ _) hfew
        obtain ⟨hnone, later, hlater, hall⟩ := ih hbefore
        refine ⟨?_, ?_⟩
        · rw [AList.lookup_eq_none, ← htoken] at hnone ⊢
          exact hs.not_mem_of_returned hrun hbefore hcall hdraws hnone
        · rcases hs.dispatched_cases with heq | ⟨event, heq⟩
          · exact ⟨later, heq.trans hlater, hall⟩
          · refine ⟨later ++ [(event, s'.client.remoteForwards.lookup event.token)], ?_, ?_⟩
            · rw [heq]
              show s'.client.dispatched ++ _ = _
              rw [hlater, List.append_assoc]
            · intro event' found hmem htoken'
              rcases List.mem_append.mp hmem with hold | hnew
              · exact hall event' found hold htoken'
              · cases List.mem_singleton.mp hnew
                rw [htoken']
                exact hnone

end

end Narrowd.Executor
