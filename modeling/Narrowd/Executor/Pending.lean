import Narrowd.Executor.Isolation

set_option autoImplicit false

/-! # Requests that wait when the reader has ended

When the control-reader thread ends it answers every sender in `pending`. Whoever registers later
depends on its own `send` to fail, and that fails only once the executor has closed its end. As
long as the thread ends only then, no request is left waiting (`no_request_stranded`): what was
sent before the end is answered by the drain, and nothing can be sent after it.

The thread also ends at a message it cannot read, while the executor is still there. The executor
itself writes such messages: the error of a connection that fails repeats the name of the host, so
a name that just fits into the request no longer fits into the response. The drain then also fails
requests of other sessions that the executor has granted (`drain_fails_granted_request`), and from
then on the daemon sends requests whose responses nobody reads (`long_error_strands_requests`).
-/

namespace Narrowd.Executor

open Lib

variable {d d' : Daemon} {e : ClientEvent} {c : CallId} {i : Issued}

section

variable {requests : SerdeJson ExecutorRequest} {responses : SerdeJson ExecutorResponse}

theorem DaemonRun.registry_inv {h : List DaemonEvent} (hr : DaemonRun requests responses h d) :
    Registry.Inv d.client.registry := by
  refine Run.invariant (P := fun _ (d : Daemon) => Registry.Inv d.client.registry) ?_ ?_ hr
  · rintro d rfl
    exact registry_inv_new
  · intro h d e d' _ hi hs
    cases hs with
    | client hs => exact hi.step hs.registry
    | peer => exact hi

/-! ## What a step leaves alone -/

/-- Only the reader thread and the end of the dispatch task touch these. -/
theorem ClientStep.quiet (hs : ClientStep requests responses d e d')
    (hreceive : ∀ reception, e ≠ .receive reception) (hdrain : e ≠ .drain)
    (hend : e ≠ .endDispatch) :
    d'.client.reader = d.client.reader ∧ d'.client.dispatching = d.client.dispatching ∧
      d'.link.toClient = d.link.toClient ∧
      d'.link.toExecutor.readerGone = d.link.toExecutor.readerGone := by
  cases hs with
  | send _ hsend =>
      obtain ⟨-, dg, -, rfl⟩ := send_eq_ok hsend
      exact ⟨rfl, rfl, rfl, rfl⟩
  | @finish s l c i response hc hslot =>
      obtain ⟨forwards, heq⟩ := s.complete_eq c i response
      rw [heq]
      exact ⟨rfl, rfl, rfl, rfl⟩
  | receive => exact absurd rfl (hreceive _)
  | receiveFails => exact absurd rfl (hreceive _)
  | drain => exact absurd rfl hdrain
  | endDispatch => exact absurd rfl hend
  | _ => exact ⟨rfl, rfl, rfl, rfl⟩

/-- The loop goes on as long as there is a task to pass connections to. -/
theorem Client.receive_reader {s : Client} (packet : TransportPacket ExecutorResponse Fd)
    (hlive : s.dispatching = true) :
    (s.receive packet).reader = s.reader ∧ (s.receive packet).dispatching = s.dispatching := by
  rcases s.receive_cases packet with ⟨id, owner, -, -, heq⟩ | ⟨events, reader, heq, hsame⟩
  · rw [heq]
    exact ⟨rfl, rfl⟩
  · rw [heq]
    exact ⟨hsame hlive, rfl⟩

/-! ## A peer that keeps to the protocol -/

/-- Every message of the peer is a response whose text fits the reader's buffer, with at most one
descriptor; the reader's calls do not fail, and the daemon has room for the descriptor; the dispatch
task does not end before the reader. -/
def SoundPeer (responses : SerdeJson ExecutorResponse) (d : Daemon) : DaemonEvent → Prop
  | .peer (.deliver dg) =>
      ∃ packet, Carries responses dg packet ∧ Fits responses packet.message
  | .client (.receive reception) =>
      reception.Takes (d.link.toClient.queue.head?.elim [] Datagram.fds)
  | .client .endDispatch => False
  | _ => True

/-- The runs against such a peer. -/
abbrev SoundRun (requests : SerdeJson ExecutorRequest) (responses : SerdeJson ExecutorResponse) :
    List DaemonEvent → Daemon → Prop :=
  Run (· = Daemon.new) (restrict (DaemonStep requests responses) (SoundPeer responses))

/-- **The invariant of such runs.** The reader leaves its loop only when the executor's end is
closed, and once it has drained `pending` no call waits without an answer. -/
structure StopInv (responses : SerdeJson ExecutorResponse) (d : Daemon) : Prop where
  queued : ∀ dg ∈ d.link.toClient.queue,
    ∃ packet, Carries responses dg packet ∧ Fits responses packet.message
  dispatching : d.client.dispatching = true
  bothEnds : d.link.toClient.writerGone = true → d.link.toExecutor.readerGone = true
  closed : d.client.reader ≠ .running → d.link.toExecutor.readerGone = true
  answered : d.client.reader = .drained → ∀ c i, d.client.calls c = .awaiting i →
    d.client.slots c ≠ .empty

theorem stopInv_new (responses : SerdeJson ExecutorResponse) : StopInv responses Daemon.new where
  queued dg h := by cases h
  dispatching := rfl
  bothEnds h := by cases h
  closed h := absurd rfl h
  answered h := by cases h

/-- A call that waits after a step has waited before it, unless it has just sent its request. -/
theorem ClientStep.awaiting (hs : ClientStep requests responses d e d')
    (hc : d'.client.calls c = .awaiting i) :
    d.client.calls c = .awaiting i ∨ d.link.toExecutor.readerGone = false := by
  rcases hs.call_cases c with heq | hm
  · exact Or.inl (heq ▸ hc)
  · rw [hc] at hm
    generalize d.client.calls c = call at hm
    cases hm with
    | sends hopen => exact Or.inr hopen

/-- The steps of the calls: nothing can be sent once the reader has drained `pending`, and an
answer that is there stays. -/
theorem StopInv.quiet (hi : StopInv responses d) (hs : ClientStep requests responses d e d')
    (hreceive : ∀ reception, e ≠ .receive reception) (hdrain : e ≠ .drain)
    (hend : e ≠ .endDispatch) :
    StopInv responses d' := by
  obtain ⟨hreader, hlive, hclient, hgone⟩ := hs.quiet hreceive hdrain hend
  refine ⟨?_, ?_, ?_, ?_, ?_⟩
  · rw [hclient]
    exact hi.queued
  · rw [hlive]
    exact hi.dispatching
  · rw [hclient, hgone]
    exact hi.bothEnds
  · rw [hreader, hgone]
    exact hi.closed
  · intro hd c i hc
    rw [hreader] at hd
    have hclosed : d.link.toExecutor.readerGone = true :=
      hi.closed (by rw [hd]; exact nofun)
    rcases hs.awaiting hc with hbefore | hopen
    · exact hs.registry.slot_ne_empty (hi.answered hd c i hbefore)
    · rw [hclosed] at hopen
      cases hopen

/-- The reader ends at the end of the channel and nowhere else: every message that has been sent
to it can be read. -/
theorem StopInv.receive (hlaw : responses.Lawful) {reception : Reception} (hi : StopInv responses d)
    (hs : ClientStep requests responses d (.receive reception) d')
    (hsound : SoundPeer responses d (.client (.receive reception))) : StopInv responses d' := by
  cases hs with
  | @receive s l packet pipe _ hreader hrecv =>
      obtain ⟨hsame, hlive⟩ := Client.receive_reader packet hi.dispatching
      have hrunning : (s.receive packet).reader = .running := hsame.trans hreader
      have hpipe := recv_pipe hrecv
      refine ⟨?_, ?_, ?_, ?_, ?_⟩
      · intro dg hdg
        exact hi.queued dg (hpipe.1 hdg)
      · exact hlive.trans hi.dispatching
      · intro hgone
        exact hi.bothEnds (hpipe.2.symm.trans hgone)
      · intro hstop
        exact absurd hrunning hstop
      · intro hd
        rw [hrunning] at hd
        cases hd
  | @receiveFails s l err pipe _ hreader hrecv =>
      cases reception with
      | failed err => exact hsound.elim
      | room free =>
          rcases recv_room_eq_some hrecv with ⟨dg, rest, hq, -⟩ | ⟨hq, hgone, rfl, -⟩
          · obtain ⟨packet, hcarries, hfits⟩ := hi.queued dg (by
              show dg ∈ l.toClient.queue
              rw [hq]
              exact List.mem_cons_self ..)
            have htaken : (Reception.room free).Takes packet.attachedFd.toList := by
              rw [← hcarries.fds]
              simpa [SoundPeer, hq] using hsound
            rw [recv_of_arrives hlaw hq hcarries ⟨htaken, hfits⟩] at hrecv
            cases hrecv
          · exact ⟨hi.queued, hi.dispatching, hi.bothEnds, fun _ => hi.bothEnds hgone,
              fun hd => nomatch hd⟩

/-- The drain answers every call that waits: one without an answer has its sender in `pending`. -/
theorem StopInv.drain (hi : StopInv responses d) (hreg : Registry.Inv d.client.registry)
    (hs : ClientStep requests responses d .drain d') : StopInv responses d' := by
  have hreg' := hreg.step hs.registry
  cases hs with
  | @drain s l hreader =>
      refine ⟨hi.queued, hi.dispatching, hi.bothEnds, ?_, ?_⟩
      · intro _
        apply hi.closed
        rw [hreader]
        exact nofun
      · intro _ c i hc hempty
        have hphase : s.drain.registry.phase c = .waiting i.id := congrArg Call.phase hc
        have hheld := hreg'.held i.id c hphase hempty
        cases hheld

theorem StopInv.peer {l : Link} {e : PeerEvent} (hi : StopInv responses d)
    (hs : PeerStep d.link e l) (hsound : SoundPeer responses d (.peer e)) :
    StopInv responses ⟨d.client, l⟩ := by
  cases hs with
  | @deliver dg hopen =>
      refine ⟨?_, hi.dispatching, hi.bothEnds, hi.closed, hi.answered⟩
      intro dg' hdg'
      rcases List.mem_append.mp hdg' with hold | hnew
      · exact hi.queued dg' hold
      · rw [List.mem_singleton.mp hnew]
        exact hsound
  | consume => exact ⟨hi.queued, hi.dispatching, hi.bothEnds, hi.closed, hi.answered⟩
  | close => exact ⟨hi.queued, hi.dispatching, fun _ => rfl, fun _ => rfl, hi.answered⟩

theorem stopInv_of_run (hlaw : responses.Lawful) {h : List DaemonEvent}
    (hr : SoundRun requests responses h d) : StopInv responses d := by
  refine Run.invariant (P := fun _ d => StopInv responses d) ?_ ?_ hr
  · rintro d rfl
    exact stopInv_new responses
  · rintro h d e d' hr hi ⟨hs, hsound⟩
    cases hs with
    | @client _ e hs =>
        by_cases hreceive : ∃ reception, e = .receive reception
        · obtain ⟨reception, rfl⟩ := hreceive
          exact hi.receive hlaw hs hsound
        by_cases hdrain : e = .drain
        · subst hdrain
          exact hi.drain (DaemonRun.registry_inv hr.of_restrict) hs
        by_cases hend : e = .endDispatch
        · subst hend
          exact hsound.elim
        exact hi.quiet hs (not_exists.mp hreceive) hdrain hend
    | peer hs => exact hi.peer hs hsound

/-! ## No request is left waiting -/

/-- The request of a call that has registered and not returned. -/
def Call.requesting? : Call → Option Issued
  | .registered i => some i
  | .sendFailed i _ => some i
  | .awaiting i => some i
  | _ => none

/-- The call `c` goes on by itself: it sends, cleans up after a send, or takes its answer. -/
def Continues (requests : SerdeJson ExecutorRequest) (responses : SerdeJson ExecutorResponse)
    (c : CallId) : Daemon → Daemon → Prop :=
  Relation.ReflTransGen fun d d' =>
    ∃ e ∈ [ClientEvent.send c, .cleanUp c, .finish c], ClientStep requests responses d e d'

/-- The reader has drained `pending`, and a call waits whose sender stands there. -/
def Stranded (d : Daemon) : Prop :=
  d.client.reader = .drained ∧ ∃ c i, d.client.calls c = .awaiting i ∧
    d.client.pending.lookup i.id = some c

theorem send_closed {pipe : Pipe Fd} (hgone : pipe.readerGone = true) (fault : Option IoError)
    (packet : TransportPacket ExecutorRequest Fd) :
    ∃ err, ControlWriter.send requests fault pipe packet = .error err := by
  cases h : ControlWriter.send requests fault pipe packet with
  | error err => exact ⟨err, rfl⟩
  | ok pipe' =>
      have hopen := (send_eq_ok h).1
      rw [hgone] at hopen
      cases hopen

/-- A call whose send has failed returns the error. -/
theorem continues_sendFailed {err : AnyError} (hc : d.client.calls c = .sendFailed i err) :
    ∃ d', Continues requests responses c d d' ∧
      d'.client.calls c = .returned i (.error (.any err)) :=
  ⟨_, .single ⟨.cleanUp c, by simp, .cleanUp hc⟩, Client.setCall_calls_self ..⟩

/-- A call that has got an answer returns. -/
theorem continues_answered (hc : d.client.calls c = .awaiting i)
    (hslot : d.client.slots c ≠ .empty) :
    ∃ d' result, Continues requests responses c d d' ∧
      d'.client.calls c = .returned i result := by
  cases h : d.client.slots c with
  | empty => exact absurd h hslot
  | filled response =>
      refine ⟨_, i.finish response, .single ⟨.finish c, by simp, .finish hc h⟩, ?_⟩
      show (d.client.complete c i response).calls c = _
      rw [Client.complete_calls, Client.setCall_calls_self]
  | dropped =>
      exact ⟨_, _, .single ⟨.finish c, by simp, .finishDropped hc h⟩,
        Client.setCall_calls_self ..⟩

/-- **Against a peer that keeps to the protocol no request is left waiting.** No state is stranded,
and once the reader has drained `pending` every call that is in `request`, registered before the
end or after it, goes on by its own steps to a result. -/
theorem no_request_stranded (hlaw : responses.Lawful) {h : List DaemonEvent} {d : Daemon}
    (hr : SoundRun requests responses h d) :
    ¬ Stranded d ∧
      (d.client.reader = .drained → ∀ c i, (d.client.calls c).requesting? = some i →
        ∃ d' result, Continues requests responses c d d' ∧
          d'.client.calls c = .returned i result) := by
  have hi := stopInv_of_run hlaw hr
  have hreg := DaemonRun.registry_inv hr.of_restrict
  constructor
  · rintro ⟨hdrained, c, i, hc, hpending⟩
    exact hi.answered hdrained c i hc (hreg.owner i.id c hpending).2
  · intro hdrained c i hrequesting
    have hclosed : d.link.toExecutor.readerGone = true :=
      hi.closed (by rw [hdrained]; exact nofun)
    cases hc : d.client.calls c with
    | registered j =>
        rw [hc] at hrequesting
        cases hrequesting
        -- its send fails, and it returns the error
        obtain ⟨err, hsend⟩ := send_closed hclosed none i.packet
        have hstep : ClientStep requests responses d (.send c)
            ⟨d.client.setCall c (.sendFailed i err), d.link⟩ := .sendFails hc hsend
        have hfailed : (⟨d.client.setCall c (.sendFailed i err), d.link⟩ : Daemon).client.calls c =
            .sendFailed i err := Client.setCall_calls_self ..
        obtain ⟨d', hgo, hd'⟩ := continues_sendFailed hfailed
        exact ⟨d', _, .head ⟨.send c, by simp, hstep⟩ hgo, hd'⟩
    | sendFailed j err =>
        rw [hc] at hrequesting
        cases hrequesting
        obtain ⟨d', hgo, hd'⟩ := continues_sendFailed hc
        exact ⟨d', _, hgo, hd'⟩
    | awaiting j =>
        rw [hc] at hrequesting
        cases hrequesting
        exact continues_answered hc (hi.answered hdrained c i hc)
    | _ =>
        rw [hc] at hrequesting
        cases hrequesting

end

/-- The executor exits before anything is asked of it; a request that comes after the drain
returns the error of its send. -/
theorem late_request_returns :
    ∃ h d d' result, SoundRun requestJson responseJson h d ∧ d.client.reader = .drained ∧
      d.client.calls 0 = .registered ⟨.startSftp, some ⟨0⟩, 1, 0⟩ ∧ ¬ Stranded d ∧
      Continues requestJson responseJson 0 d d' ∧
      d'.client.calls 0 = .returned ⟨.startSftp, some ⟨0⟩, 1, 0⟩ result := by
  have hnew : SoundRun requestJson responseJson [] Daemon.new := .nil rfl
  have hclosed := hnew.cons ⟨.peer .close, trivial⟩
  have hstopped : SoundRun _ _ (.client (.receive (.room 0)) :: _) _ :=
    hclosed.cons ⟨.client (.receiveFails rfl rfl), Nat.le_refl 0⟩
  have hdrained := hstopped.cons ⟨.client (.drain rfl), trivial⟩
  have hidle : Daemon.new.client.drain.calls 0 = .idle := rfl
  have hop : Operation.startSftp.opensChannel = true := rfl
  have hopened := hdrained.cons ⟨.client (.openChannel hidle hop), trivial⟩
  have hnumbered := hopened.cons ⟨.client (.drawId (Client.setCall_calls_self ..)), trivial⟩
  have hbuilt := hnumbered.cons ⟨.client (.build (Client.setCall_calls_self ..) rfl), trivial⟩
  have hregistered := hbuilt.cons ⟨.client (.insert (Client.setCall_calls_self ..)), trivial⟩
  obtain ⟨hfree, hgo⟩ := no_request_stranded responseJson_lawful hregistered
  obtain ⟨d', result, hcontinues, hreturned⟩ := hgo rfl 0 _ rfl
  exact ⟨_, _, d', result, hregistered, rfl, rfl, hfree, hcontinues, hreturned⟩

/-! ## A message the reader cannot read

The name takes 65480 bytes. The request is 51 bytes longer and fits; the error of the connection
repeats the name between more text than that. -/

/-- The longest names fit into a request and no longer into the error that repeats them. -/
def longName : Text := List.replicate 65480 'a'

/-- The name cannot be resolved. -/
def noSuchHost : Surroundings where
  adopt := .ok ()
  start := .ok ()
  connect := .error ⟨.other, "failed to lookup address information: Name or service not known"⟩
  bind := .ok ()
  localAddr := .ok 0

/-- The size of a request for a host whose name has nothing to escape. -/
theorem length_connectTcp_of_plain {host : Text}
    (hplain : ∀ x ∈ host, Codec.escape x = [x] ∧ x.utf8Size = 1) :
    (Json.executorRequest.toBytes (.connectTcp 1 host 80)).length = host.length + 51 := by
  have hstr := Codec.print_str_of_plain (fun x hx => (hplain x hx).1)
  have hascii : ∀ x ∈ Json.executorRequest.print (.connectTcp 1 host 80), x.utf8Size = 1 := by
    have hname : ∀ x ∈ host, x.utf8Size = 1 := fun x hx => (hplain x hx).2
    -- as a test of each character: there are too many for a decision over all of them
    have htest : ∀ text : Text, (text.all fun x => x.utf8Size == 1) = true →
        ∀ x ∈ text, x.utf8Size = 1 := fun text h x hx => beq_iff_eq.mp (List.all_eq_true.mp h x hx)
    rw [Json.print_connectTcp, hstr]
    simp only [List.forall_mem_append, List.forall_mem_cons]
    exact ⟨htest _ rfl, htest _ rfl, htest _ rfl, ⟨rfl, hname, rfl, htest _ rfl⟩, htest _ rfl,
      htest _ rfl, htest _ rfl⟩
  have hhead : "\x7b\"ConnectTcp\":\x7b\"request_id\":".toList.length = 28 := rfl
  have hhost : ",\"host\":".toList.length = 8 := rfl
  have hport : ",\"port\":".toList.length = 8 := rfl
  have hend : "\x7d\x7d".toList.length = 2 := rfl
  have hid : (Nat.toDigits 10 (1 : UInt64).toNat).length = 1 := rfl
  have hnumber : (Nat.toDigits 10 (80 : UInt16).toNat).length = 2 := rfl
  rw [Codec.length_toBytes, Codec.byteLength_of_ascii hascii, Json.print_connectTcp, hstr]
  simp only [List.length_append, List.length_cons, List.length_nil, hhead, hhost, hport, hend, hid,
    hnumber]
  omega

theorem fits_longName : Fits requestJson (.connectTcp 1 longName 80) := by
  have hplain : ∀ x ∈ longName, Codec.escape x = [x] ∧ x.utf8Size = 1 := by
    intro x hx
    rw [List.eq_of_mem_replicate hx]
    exact ⟨rfl, rfl⟩
  have hlen : longName.length = 65480 := List.length_replicate ..
  intro payload hpayload
  cases hpayload
  rw [length_connectTcp_of_plain hplain, hlen]
  decide

theorem connectTcp_noSuchHost (host : Text) (port : UInt16) (fd : Fd) :
    ExecutorState.connectTcp noSuchHost host port (some fd) =
      .error ⟨"failed to connect to " ++ String.ofList host ++ ":" ++ toString port.toNat,
        ["failed to lookup address information: Name or service not known"]⟩ := rfl

/-- The executor's answer is too long for the daemon's buffer. -/
theorem not_fits_longName_error :
    ¬ Fits responseJson (sendRequestResult 1
      (ExecutorState.connectTcp noSuchHost longName 80 (some (.service 0)))) := by
  have hlen : longName.length = 65480 := List.length_replicate ..
  have hbefore : "failed to connect to ".toList.length = 21 := rfl
  have hcause : "failed to lookup address information: Name or service not known".toList.length =
      63 := rfl
  rw [connectTcp_noSuchHost]
  apply not_fits_of_long_error
  generalize longName = name at hlen
  rw [AnyError.alternate_of_cause]
  simp only [String.toList_append, String.toList_ofList, List.length_append, List.length_cons,
    hlen, hbefore, hcause, maxControlMessageSize]
  omega

/-- **A connection that fails can leave every later request waiting.** After the error for the long
name the reader has drained `pending` and ended, the executor is still there, and a request that
comes then is sent and waits for a response that nobody will read. -/
theorem long_error_strands_requests :
    ∃ hello h s, SystemRun requestJson responseJson hello h s ∧ s.process.running = true ∧
      (∃ h', DaemonRun requestJson responseJson h' ⟨s.client, s.link⟩) ∧
      Stranded ⟨s.client, s.link⟩ := by
  refine ⟨greeting, ?_⟩
  obtain ⟨client, dg, hanswered, hcarries, hreader, -, -, -, hothers⟩ :=
    SystemRun.connect greeting fits_longName noSuchHost
  have hq : (⟨[dg], false, false⟩ : Pipe Fd).queue = dg :: [] := rfl
  have htaken : (Reception.room 1).Takes ([] : List Fd) := Nat.zero_le _
  obtain ⟨cause, hrecv⟩ := recv_of_not_fits responseJson_lawful hq hcarries htaken
    not_fits_longName_error
  have hstopped := hanswered.cons (.client (.receiveFails hreader hrecv))
  have hdrained := hstopped.cons (.client (.drain rfl))
  -- the second call, from here on
  have hop : Operation.startSftp.opensChannel = true := rfl
  obtain ⟨client', hsent, hreader', hpending', -, hcall', -⟩ :=
    SystemRun.request hdrained (hothers 1 (by decide)) hop rfl rfl rfl
  refine ⟨_, _, hsent, rfl, SystemRun.daemonRun hsent, hreader', 1, _, hcall', ?_⟩
  show client'.pending.lookup _ = some 1
  rw [hpending']
  exact AList.lookup_insert _

/-- An answer that cannot be read, and a request behind it that is granted. -/
theorem drained_behind_long_answer {host : Text} {os : Surroundings}
    (hfits : Fits requestJson (.connectTcp 1 host 80))
    (hlong : ¬ Fits responseJson (sendRequestResult 1
      (ExecutorState.connectTcp os host 80 (some (.service 0))))) :
    ∃ h s channel, SystemRun requestJson responseJson greeting h s ∧ drawn h < 2 ^ 64 ∧
      s.client.calls 1 = .awaiting ⟨.startSftp, some ⟨channel⟩, 2, 0⟩ ∧
      s.process.handled = [(1, ExecutorState.connectTcp os host 80 (some (.service 0))),
        (2, .ok (.service (.sftp greeting.homeDir) (.service channel)))] ∧
      s.client.slots 1 = .filled Client.channelClosed := by
  obtain ⟨client, dg, hanswered, hcarries, hreader, -, hid, -, hothers⟩ :=
    SystemRun.connect greeting hfits os
  have hop : Operation.startSftp.opensChannel = true := rfl
  have hvec : requestJson.toVec (Operation.startSftp.request client.nextRequestId 0) =
      .ok (Json.executorRequest.toBytes (.startSftp 2)) := by
    rw [hid]
    rfl
  obtain ⟨client', hsent, hreader', hpending', -, hcall', -⟩ :=
    SystemRun.request hanswered (hothers 1 (by decide)) hop rfl rfl hvec
  have hsftp : Fits requestJson (.startSftp 2) := by
    intro payload hpayload
    cases hpayload
    decide
  have hsecond : Carries requestJson ⟨_, [Fd.service client.nextChannel]⟩
      ⟨.startSftp 2, some (.service client.nextChannel)⟩ := ⟨rfl, rfl⟩
  have hread := hsent.cons
    (.process (.receive rfl rfl (recv_of_fits requestJson_lawful rfl hsecond hsftp)))
  have hgranted := hread.cons
    (.process (@ProcessStep.handle _ _ _ _ allSucceeds _ _ rfl rfl rfl))
  have htaken : (Reception.room 1).Takes ([] : List Fd) := Nat.zero_le _
  obtain ⟨cause, hrecv⟩ := recv_of_not_fits responseJson_lawful
    (show (⟨[dg], false, false⟩ : Pipe Fd).queue = dg :: [] from rfl) hcarries htaken hlong
  have hstopped := hgranted.cons (.client (.receiveFails (hreader'.trans hreader) hrecv))
  have hdrained := hstopped.cons (.client (.drain rfl))
  refine ⟨_, _, client.nextChannel, hdrained, (by decide : 2 < 2 ^ 64), ?_, rfl, ?_⟩
  · rw [← hid]
    exact hcall'
  · refine Registry.answerAll_of_owner (k := client.nextRequestId) ?_
    show client'.pending.lookup _ = some 1
    rw [hpending']
    exact AList.lookup_insert _

/-- **The drain fails requests that were granted.** A second call asks for a service while the error
for the long name is on its way. The executor starts the service; the reader thread, which cannot
read the error, tells the call that its request has failed. -/
theorem drain_fails_granted_request :
    ∃ h s channel, SystemRun requestJson responseJson greeting h s ∧ drawn h < 2 ^ 64 ∧
      s.client.calls 1 = .awaiting ⟨.startSftp, some ⟨channel⟩, 2, 0⟩ ∧
      s.process.handled =
        [(1, ExecutorState.connectTcp noSuchHost longName 80 (some (.service 0))),
          (2, .ok (.service (.sftp greeting.homeDir) (.service channel)))] ∧
      s.client.slots 1 = .filled Client.channelClosed :=
  drained_behind_long_answer fits_longName not_fits_longName_error

end Narrowd.Executor
