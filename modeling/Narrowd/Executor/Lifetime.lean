import Narrowd.Executor.Isolation

set_option autoImplicit false

/-! # From the handshake to the end of the daemon

`System.new` is the state that `ExecutorClient::spawn` leaves, and the results about the two
processes start there. This file says how the processes come to that state, and what is left when
the daemon is gone.

* `spawn` sends a greeting over the new socket pair and waits for its acknowledgement, while the
  executor starts with nothing. If `spawn` returns `Ok`, the two are in `System.new`, except that
  the executor may have stopped reading or exited since (`handshake_leads_to_new`).
* A daemon that dies takes its ends of the socket with it. The executor then handles one more
  request at most, however many are queued, and has nothing left to wait for (`orphan_ends`).
-/

namespace Narrowd.Executor

open Lib

variable {requests : SerdeJson ExecutorRequest} {responses : SerdeJson ExecutorResponse}

/-! ## The handshake -/

/-- The executor when it has just been started. -/
def Process.spawned : Process where
  running := true
  reading := true
  requests := []
  state := ⟨none, ∅⟩
  reply := none
  handled := []

/-- Where `spawn` is, once it has started the executor. -/
inductive Spawn
  | sending
  | receiving
  | returned (result : Except AnyError Unit)

structure Startup where
  spawn : Spawn
  link : Link
  process : Process

def Startup.new : Startup := ⟨.sending, ⟨.new, .new⟩, .spawned⟩

/-- What `spawn` makes of the first message of the executor. -/
def acknowledged : ExecutorResponse → Except AnyError Unit
  | .helloAck => .ok ()
  | _ => .error ⟨"executor did not acknowledge startup handshake", []⟩

inductive StartupEvent
  | send
  | receive
  | process (e : ProcessEvent)

inductive StartupStep (requests : SerdeJson ExecutorRequest)
    (responses : SerdeJson ExecutorResponse) (hello : ExecutorHello) :
    Startup → StartupEvent → Startup → Prop
  | send {l : Link} {p : Process} {fault : Option IoError} {pipe : Pipe Fd}
      (hsend : ControlWriter.send requests fault l.toExecutor ⟨.hello hello, none⟩ = .ok pipe) :
      StartupStep requests responses hello ⟨.sending, l, p⟩ .send
        ⟨.receiving, { l with toExecutor := pipe }, p⟩
  | sendFails {l : Link} {p : Process} {fault : Option IoError} {err : AnyError}
      (hsend : ControlWriter.send requests fault l.toExecutor ⟨.hello hello, none⟩ = .error err) :
      StartupStep requests responses hello ⟨.sending, l, p⟩ .send ⟨.returned (.error err), l, p⟩
  | receive {l : Link} {p : Process} {packet : TransportPacket ExecutorResponse Fd} {pipe : Pipe Fd}
      {reception : Reception}
      (hrecv : ControlReader.recv responses reception l.toClient = some (.ok packet, pipe)) :
      StartupStep requests responses hello ⟨.receiving, l, p⟩ .receive
        ⟨.returned (acknowledged packet.message), { l with toClient := pipe }, p⟩
  | receiveFails {l : Link} {p : Process} {err : AnyError} {pipe : Pipe Fd} {reception : Reception}
      (hrecv : ControlReader.recv responses reception l.toClient = some (.error err, pipe)) :
      StartupStep requests responses hello ⟨.receiving, l, p⟩ .receive
        ⟨.returned (.error err), { l with toClient := pipe }, p⟩
  | process {spawn : Spawn} {l l' : Link} {p p' : Process} {e : ProcessEvent}
      (hs : ProcessStep requests responses p l e p' l') :
      StartupStep requests responses hello ⟨spawn, l, p⟩ (.process e) ⟨spawn, l', p'⟩

/-- A state of the system that the executor alone has led to. -/
def Launched (requests : SerdeJson ExecutorRequest) (responses : SerdeJson ExecutorResponse)
    (hello : ExecutorHello) (l : Link) (p : Process) : Prop :=
  ∃ h, (∀ e ∈ h, ∃ pe, e = .process pe) ∧ SystemRun requests responses hello h ⟨.new, l, p⟩

/-- **The stages of the handshake.** In each of them there is one message at most; the executor's
reader may have failed in any of them. -/
inductive Stage (requests : SerdeJson ExecutorRequest) (responses : SerdeJson ExecutorResponse)
    (hello : ExecutorHello) : Startup → Prop
  | unsent {reading : Bool} : Stage requests responses hello
      ⟨.sending, ⟨.new, .new⟩, { Process.spawned with reading := reading }⟩
  | sent {d : Datagram Fd} {reading : Bool} (hd : Carries requests d ⟨.hello hello, none⟩) :
      Stage requests responses hello
        ⟨.receiving, ⟨⟨[d], false, false⟩, .new⟩, { Process.spawned with reading := reading }⟩
  | unread : Stage requests responses hello
      ⟨.receiving, ⟨.new, .new⟩, { Process.spawned with reading := false }⟩
  | read {reading : Bool} : Stage requests responses hello
      ⟨.receiving, ⟨.new, .new⟩,
        { Process.spawned with reading := reading, requests := [⟨.hello hello, none⟩] }⟩
  | handled {reading : Bool} : Stage requests responses hello
      ⟨.receiving, ⟨.new, .new⟩,
        { Process.new hello with reading := reading, reply := some .helloAck }⟩
  | replied {d : Datagram Fd} {reading : Bool} (hd : Carries responses d ⟨.helloAck, none⟩) :
      Stage requests responses hello
        ⟨.receiving, ⟨.new, ⟨[d], false, false⟩⟩, { Process.new hello with reading := reading }⟩
  /-- The executor has exited before its answer. -/
  | mute {spawn : Spawn} {l : Link} {p : Process} (hrun : p.running = false)
      (hempty : l.toClient.queue = []) (hspawn : spawn = .sending ∨ spawn = .receiving) :
      Stage requests responses hello ⟨spawn, l, p⟩
  /-- The executor has exited after its answer. -/
  | farewell {d : Datagram Fd} {reading : Bool} (hd : Carries responses d ⟨.helloAck, none⟩) :
      Stage requests responses hello
        ⟨.receiving, Link.closeExecutor ⟨.new, ⟨[d], false, false⟩⟩,
          { Process.new hello with running := false, reading := reading }⟩
  | failed {err : AnyError} {l : Link} {p : Process} :
      Stage requests responses hello ⟨.returned (.error err), l, p⟩
  | done {l : Link} {p : Process} (hl : Launched requests responses hello l p) :
      Stage requests responses hello ⟨.returned (.ok ()), l, p⟩

variable {reception : Reception} {pipe : Pipe Fd} {packet : TransportPacket ExecutorResponse Fd}

section

variable {hello : ExecutorHello} {l l' : Link} {p p' : Process} {e : ProcessEvent}

/-- While both ends are open and nothing was written, a read can only fail. -/
theorem recv_new {T F : Type} {json : SerdeJson T} {pipe : Pipe F}
    {result : Except AnyError (TransportPacket T F)}
    (h : ControlReader.recv json reception (Pipe.new : Pipe F) = some (result, pipe)) :
    pipe = .new ∧ ∃ err, result = .error err := by
  cases reception with
  | failed err =>
      cases h
      exact ⟨rfl, _, rfl⟩
  | room free => cases h

/-- An executor with nothing to do: it can only exit, or stop reading. -/
structure AtRest (l : Link) (p : Process) : Prop where
  queue : l.toExecutor = .new
  requests : p.requests = []
  reply : p.reply = none
  forwards : p.state.remoteForwards = ∅

theorem AtRest.step (hrest : AtRest l p) (hs : ProcessStep requests responses p l e p' l') :
    (p' = { p with running := false } ∧ l' = l.closeExecutor) ∨
      (p' = { p with reading := false } ∧ l' = l) := by
  cases hs with
  | receive _ _ hrecv =>
      rw [hrest.queue] at hrecv
      obtain ⟨-, err, herr⟩ := recv_new hrecv
      cases herr
  | receiveFails _ _ hrecv =>
      rw [hrest.queue] at hrecv
      refine .inr ⟨rfl, ?_⟩
      rw [(recv_new hrecv).1, ← hrest.queue]
  | handle _ _ hrequests => cases hrest.requests.symm.trans hrequests
  | reply _ hreply => cases hrest.reply.symm.trans hreply
  | replyFails _ hreply => cases hrest.reply.symm.trans hreply
  | accept _ htoken =>
      rw [hrest.forwards] at htoken
      cases htoken
  | acceptEnds _ htoken =>
      rw [hrest.forwards] at htoken
      cases htoken
  | exit => exact .inl ⟨rfl, rfl⟩

/-- The executor gets on with the handshake, stops reading, or exits. -/
theorem Stage.process (hreq : requests.Lawful) {spawn : Spawn}
    (hi : Stage requests responses hello ⟨spawn, l, p⟩)
    (hs : ProcessStep requests responses p l e p' l') :
    Stage requests responses hello ⟨spawn, l', p'⟩ := by
  cases hi with
  | unsent =>
      rcases AtRest.step ⟨rfl, rfl, rfl, rfl⟩ hs with ⟨rfl, rfl⟩ | ⟨rfl, rfl⟩
      · exact .mute rfl rfl (.inl rfl)
      · exact .unsent
  | @sent d reading hd =>
      have hq : (⟨[d], false, false⟩ : Pipe Fd).queue = [d] := rfl
      cases hs with
      | receive _ _ hrecv =>
          obtain ⟨rfl, rfl⟩ := eq_of_recv_eq_ok hreq hq hd hrecv
          exact .read
      | receiveFails _ _ hrecv =>
          rcases recv_eq_some hrecv with ⟨d', rest, hq', rfl⟩ | ⟨rfl, -⟩
          · cases hq'
            exact .unread
          · exact .sent hd
      | handle _ _ hrequests => cases hrequests
      | reply _ hreply => cases hreply
      | replyFails _ hreply => cases hreply
      | accept _ htoken => cases htoken
      | acceptEnds _ htoken => cases htoken
      | exit => exact .mute rfl rfl (.inr rfl)
  | unread =>
      rcases AtRest.step ⟨rfl, rfl, rfl, rfl⟩ hs with ⟨rfl, rfl⟩ | ⟨rfl, rfl⟩
      · exact .mute rfl rfl (.inr rfl)
      · exact .unread
  | read =>
      cases hs with
      | receive _ _ hrecv => cases (recv_new hrecv).2.choose_spec
      | receiveFails _ _ hrecv =>
          cases (recv_new hrecv).1
          exact .read
      | handle _ _ hrequests =>
          cases hrequests
          exact .handled
      | reply _ hreply => cases hreply
      | replyFails _ hreply => cases hreply
      | accept _ htoken => cases htoken
      | acceptEnds _ htoken => cases htoken
      | exit => exact .mute rfl rfl (.inr rfl)
  | handled =>
      cases hs with
      | receive _ _ hrecv => cases (recv_new hrecv).2.choose_spec
      | receiveFails _ _ hrecv =>
          cases (recv_new hrecv).1
          exact .handled
      | handle _ hreply => cases hreply
      | reply _ hreply hsend =>
          cases hreply
          obtain ⟨-, d, hd, rfl⟩ := send_eq_ok hsend
          exact .replied hd
      | replyFails => exact .mute rfl rfl (.inr rfl)
      | accept _ htoken => cases htoken
      | acceptEnds _ htoken => cases htoken
      | exit => exact .mute rfl rfl (.inr rfl)
  | replied hd =>
      rcases AtRest.step ⟨rfl, rfl, rfl, rfl⟩ hs with ⟨rfl, rfl⟩ | ⟨rfl, rfl⟩
      · exact .farewell hd
      · exact .replied hd
  | mute hrun => cases hs.running.symm.trans hrun
  | farewell => cases hs.running
  | failed => exact .failed
  | done hl =>
      obtain ⟨h, hown, hr⟩ := hl
      refine .done ⟨.process e :: h, ?_, .cons hr (.process hs)⟩
      exact List.forall_mem_cons.mpr ⟨⟨e, rfl⟩, hown⟩

/-- The acknowledgement is what `spawn` reads. -/
theorem acknowledged_of_recv (hresp : responses.Lawful) {pipe' : Pipe Fd} {d : Datagram Fd}
    (hq : pipe.queue = [d]) (hd : Carries responses d ⟨.helloAck, none⟩)
    (hrecv : ControlReader.recv responses reception pipe = some (.ok packet, pipe')) :
    acknowledged packet.message = .ok () ∧ pipe' = { pipe with queue := [] } := by
  obtain ⟨rfl, rfl⟩ := eq_of_recv_eq_ok hresp hq hd hrecv
  exact ⟨rfl, rfl⟩

/-- A read that fails is a step of the executor's own. -/
theorem launched_new (reading : Bool) :
    Launched requests responses hello ⟨.new, .new⟩
      { Process.new hello with reading := reading } := by
  have hnew : SystemRun requests responses hello [] (System.new hello) := .nil rfl
  cases reading with
  | true => exact ⟨[], fun _ he => (by cases he), hnew⟩
  | false =>
      have hfailed : ControlReader.recv requests (.failed ⟨.other, ""⟩) (Pipe.new : Pipe Fd) =
          some (.error ⟨"failed to receive executor control message", [""]⟩, .new) := rfl
      exact ⟨[.process .receive], fun e he => ⟨.receive, List.mem_singleton.mp he⟩,
        hnew.cons (.process (.receiveFails rfl rfl hfailed))⟩

/-- The message that ends the wait of `spawn`. -/
theorem Stage.receive (hresp : responses.Lawful)
    (hi : Stage requests responses hello ⟨.receiving, l, p⟩)
    (hrecv : ControlReader.recv responses reception l.toClient = some (.ok packet, pipe)) :
    Stage requests responses hello
      ⟨.returned (acknowledged packet.message), { l with toClient := pipe }, p⟩ := by
  cases hi with
  | sent => cases (recv_new hrecv).2.choose_spec
  | unread => cases (recv_new hrecv).2.choose_spec
  | read => cases (recv_new hrecv).2.choose_spec
  | handled => cases (recv_new hrecv).2.choose_spec
  | replied hd =>
      obtain ⟨hack, rfl⟩ := acknowledged_of_recv hresp rfl hd hrecv
      rw [hack]
      exact .done (launched_new _)
  | @farewell d reading hd =>
      obtain ⟨hack, rfl⟩ := acknowledged_of_recv hresp rfl hd hrecv
      rw [hack]
      -- the executor has exited since, which is a step of its own
      obtain ⟨h, hown, hr⟩ := @launched_new requests responses hello reading
      exact .done ⟨.process .exit :: h, List.forall_mem_cons.mpr ⟨⟨.exit, rfl⟩, hown⟩,
        hr.cons (.process (.exit rfl))⟩
  | mute _ hempty =>
      rcases recv_eq_some hrecv with ⟨d, rest, hq, -⟩ | ⟨-, err, herr⟩
      · cases hempty.symm.trans hq
      · cases herr

theorem Stage.step (hreq : requests.Lawful) (hresp : responses.Lawful) {s s' : Startup}
    {e : StartupEvent} (hi : Stage requests responses hello s)
    (hs : StartupStep requests responses hello s e s') : Stage requests responses hello s' := by
  cases hs with
  | send hsend =>
      obtain ⟨-, d, hd, rfl⟩ := send_eq_ok hsend
      cases hi with
      | unsent => exact .sent hd
      | mute hrun hempty => exact .mute hrun hempty (.inr rfl)
  | sendFails => exact .failed
  | receive hrecv => exact hi.receive hresp hrecv
  | receiveFails => exact .failed
  | process hs => exact hi.process hreq hs

/-- **The handshake leads to `System.new`.** However the steps of `spawn` and of the executor
interleave and whatever fails in between: if `spawn` returns `Ok`, the two processes are in a state
that `System.new` reaches by steps of the executor alone. What holds of every run from `System.new`
holds from there on. -/
theorem handshake_leads_to_new (hreq : requests.Lawful) (hresp : responses.Lawful)
    {h : List StartupEvent} {s : Startup}
    (hr : Run (· = Startup.new) (StartupStep requests responses hello) h s)
    (hok : s.spawn = .returned (.ok ())) :
    ∃ h', (∀ e ∈ h', ∃ pe, e = .process pe) ∧
      SystemRun requests responses hello h' ⟨.new, s.link, s.process⟩ := by
  have hstage : Stage requests responses hello s := by
    refine hr.invariant (P := fun _ s => Stage requests responses hello s) ?_
      fun _ s e s' _ hi hs => hi.step hreq hresp hs
    rintro s rfl
    exact .unsent
  cases hstage with
  | done hl => exact hl
  | mute _ _ hspawn => rcases hspawn with rfl | rfl <;> cases hok
  | _ => cases hok

end

/-- The handshake succeeds when nothing fails. -/
theorem handshake_of_the_greeting :
    ∃ h', (∀ e ∈ h', ∃ pe, e = .process pe) ∧
      SystemRun requestJson responseJson greeting h' ⟨.new, ⟨.new, .new⟩, .new greeting⟩ := by
  have hhello : Fits requestJson (.hello greeting) := by
    intro payload hpayload
    cases hpayload
    decide
  have hack : Fits responseJson .helloAck := by
    intro payload hpayload
    cases hpayload
    decide
  let asked : Pipe Fd := ⟨[⟨Json.executorRequest.toBytes (.hello greeting), []⟩], false, false⟩
  let answered : Pipe Fd := ⟨[⟨Json.executorResponse.toBytes .helloAck, []⟩], false, false⟩
  have hread : ControlReader.recv requestJson (.room 1) asked =
      some (.ok ⟨.hello greeting, none⟩, .new) :=
    recv_of_fits requestJson_lawful rfl ⟨rfl, rfl⟩ hhello
  have hanswer : ControlReader.recv responseJson (.room 1) answered =
      some (.ok ⟨.helloAck, none⟩, .new) :=
    recv_of_fits responseJson_lawful rfl ⟨rfl, rfl⟩ hack
  have hsent : Run (· = Startup.new) (StartupStep requestJson responseJson greeting) [.send]
      ⟨.receiving, ⟨asked, .new⟩, .spawned⟩ :=
    .cons (.nil rfl) (@StartupStep.send _ _ _ _ _ none _ rfl)
  have hhandled := (hsent.cons (.process (.receive rfl rfl hread))).cons
    (.process (@ProcessStep.handle _ _ _ _ allSucceeds _ _ rfl rfl rfl))
  have hreplied := hhandled.cons (.process (@ProcessStep.reply _ _ _ _ _ none answered rfl rfl rfl))
  exact handshake_leads_to_new requestJson_lawful responseJson_lawful
    (hreplied.cons (.receive hanswer)) rfl

/-! ## The end of the daemon -/

/-- The daemon is gone, and its end of the channel with it. -/
def Link.closeDaemon (l : Link) : Link where
  toExecutor := { l.toExecutor with writerGone := true }
  toClient := { l.toClient with readerGone := true }

def ProcessEvent.isReceive : ProcessEvent → Bool
  | receive => true
  | _ => false

def ProcessEvent.isHandle : ProcessEvent → Bool
  | handle _ => true
  | _ => false

def ProcessEvent.isReply : ProcessEvent → Bool
  | reply => true
  | _ => false

/-- The executor's steps by themselves. -/
def AloneStep (requests : SerdeJson ExecutorRequest) (responses : SerdeJson ExecutorResponse)
    (s : Process × Link) (e : ProcessEvent) (s' : Process × Link) : Prop :=
  ProcessStep requests responses s.1 s.2 e s'.1 s'.2

/-- **The account of an orphan.** Each read takes a message off the queue or is the last one, and
the first answer that cannot be sent is the end. -/
structure Orphan (queued : Nat) (h : List ProcessEvent) (p : Process) (l : Link) : Prop where
  writerGone : l.toExecutor.writerGone = true
  readerGone : l.toClient.readerGone = true
  receives : h.countP ProcessEvent.isReceive + l.toExecutor.queue.length + p.reading.toNat ≤
    queued + 1
  handles : h.countP ProcessEvent.isHandle ≤ 1
  unhandled : p.running = true → p.reply = none → h.countP ProcessEvent.isHandle = 0
  replies : h.countP ProcessEvent.isReply ≤ 1
  unreplied : p.running = true → h.countP ProcessEvent.isReply = 0

theorem Orphan.start (p : Process) (l : Link) :
    Orphan l.toExecutor.queue.length [] p l.closeDaemon where
  writerGone := rfl
  readerGone := rfl
  receives := by
    have := p.reading.toNat_le
    simp only [List.countP_nil, Link.closeDaemon]
    omega
  handles := Nat.zero_le _
  unhandled _ _ := rfl
  replies := Nat.zero_le _
  unreplied _ := rfl

variable {h : List ProcessEvent}

/-- Nothing can be sent to a daemon that is gone. -/
theorem Orphan.send_ne_ok {queued : Nat} {p : Process} {l : Link} (ho : Orphan queued h p l)
    {fault : Option IoError} : ControlWriter.send responses fault l.toClient packet ≠ .ok pipe := by
  intro hsend
  cases ho.readerGone.symm.trans (send_eq_ok hsend).1

theorem Orphan.step {queued : Nat} {p p' : Process} {l l' : Link} {e : ProcessEvent}
    (ho : Orphan queued h p l) (hs : ProcessStep requests responses p l e p' l') :
    Orphan queued (e :: h) p' l' := by
  have hreceives := ho.receives
  cases hs with
  | receive hrun hread hrecv =>
      rcases recv_eq_some hrecv with ⟨d, rest, hq, rfl⟩ | ⟨-, err, herr⟩
      · refine ⟨ho.writerGone, ho.readerGone, ?_, ho.handles, ho.unhandled, ho.replies,
          ho.unreplied⟩
        rw [hq, List.length_cons] at hreceives
        rw [List.countP_cons_of_pos rfl]
        simp only
        omega
      · cases herr
  | receiveFails hrun hread hrecv =>
      refine ⟨(recv_pipe hrecv).2.trans ho.writerGone, ho.readerGone, ?_, ho.handles, ho.unhandled,
        ho.replies, ho.unreplied⟩
      rw [hread] at hreceives
      rw [List.countP_cons_of_pos rfl]
      rcases recv_eq_some hrecv with ⟨d, rest, hq, rfl⟩ | ⟨rfl, -⟩
      · simp only [hq, List.length_cons, Bool.toNat_true, Bool.toNat_false] at hreceives ⊢
        omega
      · simp only [Bool.toNat_true, Bool.toNat_false] at hreceives ⊢
        omega
  | handle hrun hreply hrequests =>
      have hnone := ho.unhandled hrun hreply
      refine ⟨ho.writerGone, ho.readerGone, hreceives, ?_, fun _ hreply => (by cases hreply),
        ho.replies, ho.unreplied⟩
      rw [List.countP_cons_of_pos rfl, hnone]
  | reply _ _ hok => exact absurd hok ho.send_ne_ok
  | replyFails hrun hreply =>
      -- the first answer that cannot be sent ends the loop
      have hnone := ho.unreplied hrun
      refine ⟨ho.writerGone, ho.readerGone, hreceives, ho.handles, fun hrun => (by cases hrun), ?_,
        fun hrun => by cases hrun⟩
      rw [List.countP_cons_of_pos rfl, hnone]
  | accept _ _ _ hok => exact absurd hok ho.send_ne_ok
  | acceptEnds hrun =>
      exact ⟨ho.writerGone, ho.readerGone, hreceives, ho.handles, ho.unhandled, ho.replies,
        ho.unreplied⟩
  | exit hrun =>
      exact ⟨ho.writerGone, ho.readerGone, hreceives, ho.handles, fun hrun => (by cases hrun),
        ho.replies, fun hrun => by cases hrun⟩

/-- The executor's loop has ended: nothing is left to handle, and no more requests can come. -/
def LoopEnded (p : Process) : Prop := p.reading = false ∧ p.requests = [] ∧ p.reply = none

/-- An orphan that runs has a step of its own until its loop has ended. -/
theorem Orphan.progress {queued : Nat} {h : List ProcessEvent} {p : Process} {l : Link}
    (ho : Orphan queued h p l) (os : Surroundings) (hrun : p.running = true) :
    LoopEnded p ∨ ∃ e p' l', (e = .receive ∨ e = .handle os ∨ e = .reply) ∧
      ProcessStep requests responses p l e p' l' := by
  cases hread : p.reading with
  | true =>
      refine .inr ⟨.receive, ?_⟩
      obtain ⟨⟨result, pipe⟩, hrecv⟩ :
          ∃ x, ControlReader.recv requests (.room 1) l.toExecutor = some x := by
        cases hq : l.toExecutor.queue with
        | cons d rest =>
            obtain ⟨result, hrecv⟩ := recv_cons requests 1 hq
            exact ⟨_, hrecv⟩
        | nil => simp [ControlReader.recv, recvmsg, hq, ho.writerGone]
      cases result with
      | ok packet => exact ⟨_, _, .inl rfl, .receive hrun hread hrecv⟩
      | error err => exact ⟨_, _, .inl rfl, .receiveFails hrun hread hrecv⟩
  | false =>
      cases hreply : p.reply with
      | some response =>
          cases hsend : ControlWriter.send responses none l.toClient ⟨response, none⟩ with
          | ok pipe => exact absurd hsend ho.send_ne_ok
          | error err => exact .inr ⟨.reply, _, _, .inr (.inr rfl), .replyFails hrun hreply hsend⟩
      | none =>
          cases hrequests : p.requests with
          | nil => exact .inl ⟨hread, hrequests, hreply⟩
          | cons packet rest =>
              exact .inr ⟨.handle os, _, _, .inr (.inl rfl), .handle hrun hreply hrequests⟩

/-- **An orphaned executor ends.** From any state of the executor, once the daemon is gone: it reads
what is in the socket and the end of file, and handles and answers one more request at most; and
until its loop has ended there is always a step for it to take. -/
theorem orphan_ends {p p' : Process} {l l' : Link} {h : List ProcessEvent}
    (hr : Run (· = (p, l.closeDaemon)) (AloneStep requests responses) h (p', l')) :
    h.countP ProcessEvent.isReceive ≤ l.toExecutor.queue.length + 1 ∧
    h.countP ProcessEvent.isHandle ≤ 1 ∧ h.countP ProcessEvent.isReply ≤ 1 ∧
    (p'.running = true → ∀ os, LoopEnded p' ∨
      ∃ e s', (e = .receive ∨ e = .handle os ∨ e = .reply) ∧
        AloneStep requests responses (p', l') e s') := by
  have ho : Orphan l.toExecutor.queue.length h p' l' := by
    refine hr.invariant (P := fun h s => Orphan l.toExecutor.queue.length h s.1 s.2) ?_
      fun _ _ _ _ _ hi hs => hi.step hs
    rintro s rfl
    exact .start p l
  have hreceives := ho.receives
  refine ⟨by omega, ho.handles, ho.replies, fun hrun os => ?_⟩
  refine (@Orphan.progress requests responses _ _ _ _ ho os hrun).imp_right ?_
  rintro ⟨e, p'', l'', he, hs⟩
  exact ⟨e, (p'', l''), he, hs⟩

/-- A request is queued when the daemon goes. -/
def leftBehind : Link :=
  ⟨⟨[⟨Json.executorRequest.toBytes (.startSftp 1), [.service 0]⟩], false, false⟩, .new⟩

/-- The executor reads the request and the end of file, and starts the service. It has its answer
left to send, which will fail. -/
theorem orphan_of_the_greeting_ends :
    ∃ h p' l', Run (· = (Process.new greeting, leftBehind.closeDaemon))
        (AloneStep requestJson responseJson) h (p', l') ∧ p'.running = true ∧ p'.reply.isSome ∧
      h.countP ProcessEvent.isReceive ≤ 2 ∧ h.countP ProcessEvent.isHandle ≤ 1 ∧
      ∀ os, LoopEnded p' ∨ ∃ e s', (e = .receive ∨ e = .handle os ∨ e = .reply) ∧
        AloneStep requestJson responseJson (p', l') e s' := by
  have hfits : Fits requestJson (.startSftp 1) := by
    intro payload hpayload
    cases hpayload
    decide
  have hread : ControlReader.recv requestJson (.room 1) leftBehind.closeDaemon.toExecutor =
      some (.ok ⟨.startSftp 1, some (.service 0)⟩, ⟨[], false, true⟩) :=
    recv_of_fits requestJson_lawful rfl ⟨rfl, rfl⟩ hfits
  have heof : ControlReader.recv requestJson (.room 1) (⟨[], false, true⟩ : Pipe Fd) =
      some (.error ⟨"executor control channel reached EOF", []⟩, ⟨[], false, true⟩) := rfl
  have hstart : Run (· = (Process.new greeting, leftBehind.closeDaemon))
      (AloneStep requestJson responseJson) [] _ := .nil rfl
  have hone := hstart.cons (show AloneStep _ _ _ .receive (_, _) from .receive rfl rfl hread)
  have htwo := hone.cons (show AloneStep _ _ _ .receive (_, _) from .receiveFails rfl rfl heof)
  have hrun := htwo.cons (show AloneStep _ _ _ (.handle allSucceeds) (_, _)
    from .handle rfl rfl rfl)
  obtain ⟨hreceives, hhandles, -, hprogress⟩ := orphan_ends hrun
  exact ⟨_, _, _, hrun, rfl, rfl, hreceives, hhandles, hprogress rfl⟩

end Narrowd.Executor
