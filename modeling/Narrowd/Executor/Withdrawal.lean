import Narrowd.Executor.Cancellation

set_option autoImplicit false

/-! # A registered forward can be cancelled

A request to cancel a forward fails at the executor when the forward has no listener. Only
registered forwards are cancelled, and whoever cancels one takes out its registration, so there is
one call that cancels it (`OneCancel`). Until the request of that call is handled the listener is
there (`Delivered`), so the request succeeds when it comes, and the call returns a success as long
as the daemon reads (`cancelled_of_returned`).
-/

namespace Narrowd.Executor

open Lib

variable {s : System} {h : List SystemEvent} {hello : ExecutorHello} {i : Issued} {token : UInt64}

section

variable {requests : SerdeJson ExecutorRequest} {responses : SerdeJson ExecutorResponse}

/-- A forward is cancelled by one call only. -/
def OneCancel (s : System) : Prop :=
  ∀ c c' token, (s.client.calls c).op? = some (.cancelRemoteForward token) →
    (s.client.calls c').op? = some (.cancelRemoteForward token) → c = c'

theorem OneCancel.client {d : Daemon} {e : ClientEvent} (ho : OneCancel s) (hw : Withdrawn s)
    (hs : ClientStep requests responses ⟨s.client, s.link⟩ e d) (horderly : Orderly s (.client e)) :
    OneCancel ⟨d.client, d.link, s.process⟩ := by
  have hbefore : ∀ c token, (d.client.calls c).op? = some (.cancelRemoteForward token) →
      (s.client.calls c).op? = some (.cancelRemoteForward token) ∨
        e = .begin c (.cancelRemoteForward token) := by
    intro c token hop
    rcases hs.call_cases c with heq | hm
    · exact Or.inl (heq ▸ hop)
    · exact hm.op? hop
  -- a forward that is being cancelled is not registered, so nobody begins to cancel it
  have hbegun : ∀ c c' token, (s.client.calls c).op? = some (.cancelRemoteForward token) →
      e ≠ .begin c' (.cancelRemoteForward token) := by
    rintro c c' token hold rfl
    exact (hw c token hold).1 horderly
  intro c c' token hop hop'
  rcases hbefore c token hop with hold | hnew
  · rcases hbefore c' token hop' with hold' | hnew'
    · exact ho c c' token hold hold'
    · exact absurd hnew' (hbegun c c' token hold)
  · rcases hbefore c' token hop' with hold' | hnew'
    · exact absurd hnew (hbegun c' c token hold')
    · cases hnew.symm.trans hnew'
      rfl

/-- What has become of the requests that were handled: a forward that was bound has its listener
until the request to cancel it is handled, and no request to cancel one has failed. -/
def Delivered (s : System) : Prop :=
  ∀ entry ∈ s.process.handled, ∃ c i, (s.client.calls c).issued? = some i ∧ i.id = entry.1 ∧
    (∀ port, entry.2 = .ok (.bound port) → i.token ∈ s.process.state.remoteForwards ∨
      ∃ c' i' result, (s.client.calls c').issued? = some i' ∧
        i'.op = .cancelRemoteForward i.token ∧ (i'.id, result) ∈ s.process.handled) ∧
    ∀ token, i.op = .cancelRemoteForward token → ∃ done, entry.2 = .ok done

theorem Delivered.client {d : Daemon} {e : ClientEvent} (hd : Delivered s)
    (hs : ClientStep requests responses ⟨s.client, s.link⟩ e d) :
    Delivered ⟨d.client, d.link, s.process⟩ := by
  intro entry hentry
  obtain ⟨c, i, hc, hid, hbound, hcancelled⟩ := hd entry hentry
  refine ⟨c, i, hs.issued?_of_issued c i hc, hid, fun port hport => ?_, hcancelled⟩
  rcases hbound port hport with hlistens | ⟨c', i', result, hc', hop, hmem⟩
  · exact Or.inl hlistens
  · exact Or.inr ⟨c', i', result, hs.issued?_of_issued c' i' hc', hop, hmem⟩

/-- The forward that a call cancels has its listener, if the request of that call was not
handled. -/
theorem listening_of_cancelling (hreq : requests.Lawful) (hresp : responses.Lawful)
    (hd : Delivered s) (hw : Withdrawn s) (ho : OneCancel s)
    (hr : SystemRun requests responses hello h s) (hfew : drawn h < 2 ^ 64) {c : CallId}
    (hc : (s.client.calls c).issued? = some i) (hop : i.op = .cancelRemoteForward token)
    (hnew : ∀ entry ∈ s.process.handled, entry.1 ≠ i.id) :
    token ∈ s.process.state.remoteForwards := by
  have hi := isolated_of_run hreq hresp hr
  have hcancels : (s.client.calls c).op? = some (.cancelRemoteForward token) :=
    hop ▸ Call.op?_of_issued hc
  obtain ⟨-, c₁, i₁, reply, hreturned, hdraws, rfl⟩ := hw c token hcancels
  -- the forward was bound, since the call that has started it returned a success
  obtain ⟨response, hanswers, hfinish⟩ := hi.answered.returned c₁ i₁ reply hreturned
  obtain ⟨port, rfl⟩ := Issued.started_of_finish hdraws hfinish
  obtain ⟨bound, hbound, -⟩ := bound_of_started hanswers hfinish
  obtain ⟨c₂, i₂, hc₂, hid, hlistens, -⟩ := hd _ hbound
  have hissued : (s.client.calls c₁).issued? = some i₁ := by
    rw [hreturned]
    rfl
  have hsame := (hi.named hfew).eq_of_id hc₂ hissued hid
  subst hsame
  cases hissued.symm.trans hc₂
  rcases hlistens bound rfl with hlistens | ⟨c', i', result, hc', hop', hmem⟩
  · exact hlistens
  · -- the one call that cancels it was handled already
    have hsame := ho c c' i₁.token hcancels (hop' ▸ Call.op?_of_issued hc')
    subst hsame
    cases hc.symm.trans hc'
    exact absurd rfl (hnew _ hmem)

/-- The executor answers a request to cancel a forward that has its listener with a success. -/
theorem cancelled_of_handle (os : Surroundings) (state : ExecutorState)
    (hop : i.op = .cancelRemoteForward token) (hlistens : token ∈ state.remoteForwards)
    {entry : UInt64 × Except AnyError Done} (h : (state.handle os i.packet).2.2 = some entry) :
    ∃ done, entry.2 = .ok done := by
  obtain ⟨op, stream, id, drawn⟩ := i
  cases hop
  have hanswer : some (id, (state.cancelRemoteForward token).2) = some entry := h
  cases hanswer
  rcases cancelRemoteForward_cases state token with heq | ⟨hnone, -⟩
  · rw [heq]
    exact ⟨.cancelled, rfl⟩
  · exact absurd hlistens (AList.lookup_eq_none.mp hnone)

theorem Delivered.process (hreq : requests.Lawful) (hresp : responses.Lawful) {p : Process}
    {l : Link} {e : ProcessEvent} (hd : Delivered s) (hw : Withdrawn s) (ho : OneCancel s)
    (hr : SystemRun requests responses hello h s) (hfew : drawn h < 2 ^ 64)
    (hs : ProcessStep requests responses s.process s.link e p l) : Delivered ⟨s.client, l, p⟩ := by
  cases hs with
  | @handle os packet rest _ _ hrequests =>
      obtain ⟨c₁, i₁, hc₁, rfl, hnew⟩ := (isolated_of_run hreq hresp hr).first hfew hrequests
      obtain ⟨result, hanswer, -⟩ := handle_packet os s.process.state i₁
      have hrecord : (s.process.state.handle os i₁.packet).2.2 = some (i₁.id, result) := by
        rw [hanswer]
      have hself : (i₁.id, result) ∈
          s.process.handled ++ (s.process.state.handle os i₁.packet).2.2.toList := by
        rw [hrecord]
        simp
      intro entry hentry
      change entry ∈ s.process.handled ++ (s.process.state.handle os i₁.packet).2.2.toList at hentry
      rw [hrecord] at hentry
      rcases List.mem_append.mp hentry with hold | hlast
      · obtain ⟨c, i, hc, hid, hbound, hcancelled⟩ := hd entry hold
        refine ⟨c, i, hc, hid, fun port hport => ?_, hcancelled⟩
        rcases hbound port hport with hlistens | ⟨c', i', result', hc', hop, hmem⟩
        · rcases mem_handle_or_cancels os s.process.state i₁ hlistens with hstays | hop
          · exact Or.inl hstays
          · exact Or.inr ⟨c₁, i₁, result, hc₁, hop, hself⟩
        · exact Or.inr ⟨c', i', result', hc', hop, List.mem_append_left _ hmem⟩
      · rw [List.mem_singleton.mp hlast]
        refine ⟨c₁, i₁, hc₁, rfl, fun port hport => ?_, fun token hop => ?_⟩
        · have hport : result = .ok (.bound port) := hport
          rw [hport] at hrecord
          exact Or.inl (listening_of_handle hrecord).2
        · exact cancelled_of_handle os s.process.state hop
            (listening_of_cancelling hreq hresp hd hw ho hr hfew hc₁ hop hnew) hrecord
  | @acceptEnds closed listener _ hclosed =>
      intro entry hentry
      obtain ⟨c, i, hc, hid, hbound, hcancelled⟩ := hd entry hentry
      refine ⟨c, i, hc, hid, fun port hport => ?_, hcancelled⟩
      exact (hbound port hport).imp_left fun hlistens => (AList.mem_insert _).mpr (Or.inr hlistens)
  | _ => exact hd

theorem delivered_of_run (hreq : requests.Lawful) (hresp : responses.Lawful)
    (hr : OrderlyRun requests responses hello h s) (hfew : drawn h < 2 ^ 64) :
    OneCancel s ∧ Delivered s := by
  refine Run.invariant (P := fun h s => drawn h < 2 ^ 64 → OneCancel s ∧ Delivered s) ?_ ?_ hr hfew
  · rintro s rfl _
    exact ⟨(fun _ _ _ hop => nomatch hop), (fun _ hentry => nomatch hentry)⟩
  · rintro h s e s' hr ih ⟨hs, horderly⟩ hfew
    have hbefore := Nat.lt_of_le_of_lt (drawn_le_cons e h) hfew
    obtain ⟨ho, hd⟩ := ih hbefore
    have hw := (tables_of_run hreq hresp hr hbefore).1
    cases hs with
    | client hs => exact ⟨ho.client hw hs horderly, hd.client hs⟩
    | process hs => exact ⟨ho, hd.process hreq hresp hw ho hr.of_restrict hbefore hs⟩

/-- The answer to a forward that was cancelled says so. -/
theorem Answers.finish_of_cancelled (hi : Isolated requests responses h s) (hfew : drawn h < 2 ^ 64)
    {response : ExecutorResponse} {done : Done} (ha : Answers s.process.handled i response)
    (hop : i.op = .cancelRemoteForward token) (hdone : (i.id, .ok done) ∈ s.process.handled) :
    i.finish response = .ok .cancelled := by
  obtain ⟨hid, hjust⟩ := ha
  cases response with
  | requestOk id detail =>
      obtain ⟨op, stream, id, drawn⟩ := i
      cases hop
      rfl
  | requestErr id message =>
      cases hid
      obtain ⟨err, hmem, -⟩ := hjust
      cases hi.result_unique hfew hmem hdone
  | _ => cases hid

/-- **A call that cancels a registered forward returns a success.** -/
theorem cancelled_of_returned (hreq : requests.Lawful) (hresp : responses.Lawful)
    (hr : OrderlyRun requests responses hello h s) (hfew : drawn h < 2 ^ 64)
    (hreader : s.client.reader ≠ .drained) {c : CallId} {result : Except CallError Reply}
    (hreturned : s.client.calls c = .returned i result) (hop : i.op = .cancelRemoteForward token) :
    result = .ok .cancelled := by
  have hi := isolated_of_run hreq hresp hr.of_restrict
  rcases settled_of_run hreq hresp hr hfew hreader c i result hreturned with
    ⟨-, hnot⟩ | ⟨response, hanswers, rfl⟩
  · exact absurd hop (hnot token)
  · obtain ⟨outcome, hmem⟩ := hanswers.handled
    obtain ⟨c', i', hc', hid, -, hdone⟩ := (delivered_of_run hreq hresp hr hfew).2 _ hmem
    have hissued : (s.client.calls c).issued? = some i := by
      rw [hreturned]
      rfl
    have hsame := (hi.named hfew).eq_of_id hc' hissued hid
    subst hsame
    cases hissued.symm.trans hc'
    obtain ⟨done, rfl⟩ := hdone token hop
    exact hanswers.finish_of_cancelled hi hfew hop hmem

end

end Narrowd.Executor
