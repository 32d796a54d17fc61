import Narrowd.Executor.Isolation

set_option autoImplicit false

/-! # One request and its answer

A stretch of a run, from any state: a call that has begun sends its request, the executor reads,
handles and answers it, and the reader thread passes the answer on. `path_exchange` is the whole way
for a channel that is idle otherwise (`System.Ready`), and the pieces before it are for requests
that meet on the way. `path_connection` is the way of a connection from its listener to the queue of
the dispatch task.

Messages are JSON here (`requestJson`, `responseJson`), and arrive when they fit the reader's
buffer.
-/

namespace Narrowd.Executor

open Lib Json Codec

/-! ## Messages that fit -/

variable {address : Text}

/-- The request of a forward, for any id and token. -/
theorem fits_startRemoteForward (id token : UInt64) (h : byteLength (str.print address) ≤ 1024)
    (port : UInt16) : Fits requestJson (.startRemoteForward id token address port) := by
  intro payload hpayload
  cases hpayload
  have hall : byteLength (executorRequest.print (.startRemoteForward id token address port)) =
      20 + byteLength ((requestFields .startRemoteForward).print (((id, token), address), port)) +
        3 := byteLength_tagged requestTag requestFields .startRemoteForward _
  have hfields : byteLength
      ((requestFields .startRemoteForward).print (((id, token), address), port)) =
      byteLength (((('\x7b' :: label "request_id" ++ uint64.print id) ++
        (',' :: label "token" ++ uint64.print token)) ++
        (',' :: label "bind_address" ++ str.print address) ++
        (',' :: label "bind_port" ++ uint16.print port)) ++ ['\x7d']) := rfl
  have hid := byteLength_uint64_le id
  have htoken := byteLength_uint64_le token
  have hport := byteLength_uint16_le port
  show byteLength _ ≤ 64 * 1024
  rw [hall, hfields]
  simp only [byteLength_append]
  show 20 + (14 + _ + (9 + _) + (16 + _) + (13 + _) + 1) + 3 ≤ 64 * 1024
  omega

/-- The answer to a forward that was bound. -/
theorem fits_boundPort (id : UInt64) (port : UInt16) :
    Fits responseJson (.requestOk id (.boundPort port)) := by
  intro payload hpayload
  cases hpayload
  have hall : byteLength (executorResponse.print (.requestOk id (.boundPort port))) =
      11 + byteLength ((responseFields .requestOk).print (id, .boundPort port)) + 3 :=
    byteLength_tagged responseTag responseFields .requestOk (id, .boundPort port)
  have hfields : byteLength ((responseFields .requestOk).print (id, .boundPort port)) =
      byteLength ((('\x7b' :: label "request_id" ++ uint64.print id) ++
        (',' :: label "detail" ++ ('\x7b' :: label "BoundPort" ++ uint16.print port ++
          ['\x7d']))) ++ ['\x7d']) := rfl
  have hid := byteLength_uint64_le id
  have hport := byteLength_uint16_le port
  show byteLength _ ≤ 64 * 1024
  rw [hall, hfields]
  simp only [byteLength_append]
  show 11 + (14 + _ + (10 + (13 + _ + 1)) + 1) + 3 ≤ 64 * 1024
  omega

/-- The answer to a request that has failed. -/
theorem fits_requestErr (id : UInt64) {message : Text}
    (h : byteLength (str.print message) ≤ 1024) : Fits responseJson (.requestErr id message) := by
  intro payload hpayload
  cases hpayload
  have hall : byteLength (executorResponse.print (.requestErr id message)) =
      12 + byteLength ((responseFields .requestErr).print (id, message)) + 3 :=
    byteLength_tagged responseTag responseFields .requestErr (id, message)
  have hfields : byteLength ((responseFields .requestErr).print (id, message)) =
      byteLength ((('\x7b' :: label "request_id" ++ uint64.print id) ++
        (',' :: label "message" ++ str.print message)) ++ ['\x7d']) := rfl
  have hid := byteLength_uint64_le id
  show byteLength _ ≤ 64 * 1024
  rw [hall, hfields]
  simp only [byteLength_append]
  show 12 + (14 + _ + (11 + _) + 1) + 3 ≤ 64 * 1024
  omega

/-- The report of a connection. -/
theorem fits_remoteForwardIncoming (token : UInt64) (h : byteLength (str.print address) ≤ 1024)
    (port : UInt32) : Fits responseJson (.remoteForwardIncoming token address port) := by
  intro payload hpayload
  cases hpayload
  have hall : byteLength (executorResponse.print (.remoteForwardIncoming token address port)) =
      23 + byteLength
        ((responseFields .remoteForwardIncoming).print ((token, address), port)) + 3 :=
    byteLength_tagged responseTag responseFields .remoteForwardIncoming ((token, address), port)
  have hfields : byteLength
      ((responseFields .remoteForwardIncoming).print ((token, address), port)) =
      byteLength ((('\x7b' :: label "token" ++ uint64.print token) ++
        (',' :: label "originator_address" ++ str.print address) ++
        (',' :: label "originator_port" ++ uint32.print port)) ++ ['\x7d']) := rfl
  have htoken := byteLength_uint64_le token
  have hport := byteLength_uint32_le port
  show byteLength _ ≤ 64 * 1024
  rw [hall, hfields]
  simp only [byteLength_append]
  show 23 + (9 + _ + (22 + _) + (19 + _) + 1) + 3 ≤ 64 * 1024
  omega

/-! ## The pieces -/

/-- What happens from the state `s` on. -/
abbrev Path (s : System) : List SystemEvent → System → Prop :=
  Run (· = s) (SystemStep requestJson responseJson)

/-- The request of the next call without a channel. -/
def Client.issue (s : Client) (op : Operation) : Issued :=
  ⟨op, none, s.nextRequestId, if op.drawsToken then s.nextForwardToken else 0⟩

/-- The client after the call `c` has sent its request. -/
def Client.asked (s : Client) (c : CallId) (op : Operation) : Client :=
  { s with
    pending := s.pending.insert s.nextRequestId c
    slots := Registry.dropSender s.slots (s.pending.lookup s.nextRequestId)
    nextRequestId := s.nextRequestId + 1
    nextForwardToken := if op.drawsToken then s.nextForwardToken + 1 else s.nextForwardToken
    calls := Function.update s.calls c (.awaiting (s.issue op)) }

def askEvents (c : CallId) : List SystemEvent :=
  [.client (.send c), .client (.insert c), .client (.build c), .client (.drawId c)]

/-- One more message in a direction of the channel. -/
def Pipe.push {F : Type} (pipe : Pipe F) (dg : Datagram F) : Pipe F :=
  { pipe with queue := pipe.queue ++ [dg] }

variable {payload : List UInt8}

/-- While the other end is open, a message can be written. -/
theorem send_of_open {T F : Type} (json : SerdeJson T) {pipe : Pipe F}
    (packet : TransportPacket T F) (hvec : json.toVec packet.message = .ok payload)
    (hopen : pipe.readerGone = false) :
    ∃ dg, Carries json dg packet ∧
      ControlWriter.send json none pipe packet = .ok (pipe.push dg) := by
  refine ⟨⟨payload, packet.attachedFd.toList⟩, ⟨hvec, rfl⟩, ?_⟩
  obtain ⟨message, attachedFd⟩ := packet
  change json.toVec message = .ok payload at hvec
  cases attachedFd <;>
    simp [ControlWriter.send, encodeMessage, hvec, Except.bind, sendmsg, hopen, withContext,
      Pipe.push]

variable {c : CallId} {op : Operation} {id : UInt64}

/-- A call that has drawn its id has its request next, with a token if it needs one. -/
theorem build_issue {requests : SerdeJson ExecutorRequest} {responses : SerdeJson ExecutorResponse}
    {s : Client} {l : Link} (hc : s.calls c = .numbered op none id) :
    ClientStep requests responses ⟨s, l⟩ (.build c)
      ⟨{ s.setCall c (.built ⟨op, none, id, if op.drawsToken then s.nextForwardToken else 0⟩) with
        nextForwardToken :=
          if op.drawsToken then s.nextForwardToken + 1 else s.nextForwardToken }, l⟩ := by
  cases htoken : op.drawsToken with
  | false => exact .build hc htoken
  | true => exact .drawToken hc htoken

variable {s : System}

/-- **A call that has begun sends its request.** -/
theorem path_ask (hc : s.client.calls c = .opened op none)
    (hopen : s.link.toExecutor.readerGone = false) :
    ∃ dg, Carries requestJson dg (s.client.issue op).packet ∧
      Path s (askEvents c) ⟨s.client.asked c op,
        { s.link with toExecutor := s.link.toExecutor.push dg }, s.process⟩ := by
  obtain ⟨dg, hd, hsend⟩ := send_of_open requestJson (s.client.issue op).packet rfl hopen
  have hnumbered := (Run.nil rfl : Path s [] s).cons (.client (.drawId hc))
  have hbuilt := hnumbered.cons (.client (build_issue (Client.setCall_calls_self ..)))
  have hregistered := hbuilt.cons (.client (.insert (Client.setCall_calls_self ..)))
  have hsent := hregistered.cons (.client (.send (Client.setCall_calls_self ..) hsend))
  refine ⟨dg, hd, ?_⟩
  simpa [askEvents, Client.setCall, Client.register, Client.asked, Client.issue,
    Function.update_idem] using hsent

variable {i : Issued} {dg : Datagram Fd} {rest : List (Datagram Fd)}

theorem read_step (hrun : s.process.running = true) (hread : s.process.reading = true)
    (hq : s.link.toExecutor.queue = dg :: rest) (hd : Carries requestJson dg i.packet)
    (hfits : Fits requestJson i.packet.message) :
    SystemStep requestJson responseJson s (.process .receive)
      ⟨s.client, { s.link with toExecutor := { s.link.toExecutor with queue := rest } },
        { s.process with requests := s.process.requests ++ [i.packet] }⟩ :=
  .process (.receive hrun hread (recv_of_fits requestJson_lawful hq hd hfits))

variable {response : ExecutorResponse}

theorem reply_step (hrun : s.process.running = true) (hreply : s.process.reply = some response)
    (hopen : s.link.toClient.readerGone = false) :
    ∃ dg, Carries responseJson dg ⟨response, none⟩ ∧
      SystemStep requestJson responseJson s (.process .reply)
        ⟨s.client, { s.link with toClient := s.link.toClient.push dg },
          { s.process with reply := none }⟩ := by
  obtain ⟨dg, hd, hsend⟩ := send_of_open responseJson ⟨response, none⟩ rfl hopen
  exact ⟨dg, hd, .process (.reply hrun hreply hsend)⟩

theorem receive_step {packet : TransportPacket ExecutorResponse Fd}
    (hreader : s.client.reader = .running) (hq : s.link.toClient.queue = dg :: rest)
    (hd : Carries responseJson dg packet) (hfits : Fits responseJson packet.message) :
    SystemStep requestJson responseJson s (.client (.receive (.room 1)))
      ⟨s.client.receive packet,
        { s.link with toClient := { s.link.toClient with queue := rest } }, s.process⟩ :=
  .client (.receive hreader (recv_of_fits responseJson_lawful hq hd hfits))

theorem finish_step (hc : s.client.calls c = .awaiting i)
    (hslot : s.client.slots c = .filled response) :
    SystemStep requestJson responseJson s (.client (.finish c))
      { s with client := s.client.complete c i response } :=
  .client (.finish hc hslot)

variable {listener : Listener} {token : UInt64}

theorem accept_step (address : Text) (port : UInt16) (number : Nat)
    (hrun : s.process.running = true)
    (hlistener : s.process.state.remoteForwards.lookup token = some listener)
    (hlive : listener.accepting = true) (hopen : s.link.toClient.readerGone = false) :
    ∃ dg, Carries responseJson dg
        ⟨.remoteForwardIncoming token address port.toUInt32, some (.connection number)⟩ ∧
      SystemStep requestJson responseJson s (.process (.accept token))
        ⟨s.client, { s.link with toClient := s.link.toClient.push dg }, s.process⟩ := by
  obtain ⟨dg, hd, hsend⟩ := send_of_open responseJson
    ⟨.remoteForwardIncoming token address port.toUInt32, some (.connection number)⟩ rfl hopen
  exact ⟨dg, hd, .process (.accept hrun hlistener hlive hsend)⟩

/-- **The executor reads a request, handles it and answers.** -/
theorem path_handle (os : Surroundings) (hrun : s.process.running = true)
    (hread : s.process.reading = true) (hrequests : s.process.requests = [])
    (hreply : s.process.reply = none) (hq : s.link.toExecutor.queue = dg :: rest)
    (hd : Carries requestJson dg i.packet) (hfits : Fits requestJson i.packet.message)
    (hopen : s.link.toClient.readerGone = false) :
    ∃ dg', Carries responseJson dg' ⟨(s.process.state.handle os i.packet).2.1, none⟩ ∧
      Path s [.process .reply, .process (.handle os), .process .receive]
        ⟨s.client, ⟨{ s.link.toExecutor with queue := rest }, s.link.toClient.push dg'⟩,
          { s.process with
            state := (s.process.state.handle os i.packet).1
            handled :=
              s.process.handled ++ (s.process.state.handle os i.packet).2.2.toList }⟩ := by
  obtain ⟨client, link, running, reading, waiting, state, reply, handled⟩ := s
  dsimp only at hrun hread hrequests hreply hq hopen ⊢
  subst hrun hread hrequests hreply
  have hread := (Run.nil rfl : Path ⟨client, link, true, true, [], state, none, handled⟩ [] _).cons
    (read_step rfl rfl hq hd hfits)
  have hhandled : Path _ (.process (.handle os) :: _) _ :=
    hread.cons (.process (.handle rfl rfl rfl))
  obtain ⟨dg', hd', hreplied⟩ := reply_step (s := ⟨client,
    { link with toExecutor := { link.toExecutor with queue := rest } }, true, true, [],
      (state.handle os i.packet).1, some (state.handle os i.packet).2.1,
      handled ++ (state.handle os i.packet).2.2.toList⟩) rfl rfl hopen
  exact ⟨dg', hd', hhandled.cons hreplied⟩

/-! ## An idle channel -/

/-- Both processes are up, and nothing is on its way between them. -/
structure System.Ready (s : System) : Prop where
  reader : s.client.reader = .running
  link : s.link = ⟨.new, .new⟩
  running : s.process.running = true
  reading : s.process.reading = true
  requests : s.process.requests = []
  reply : s.process.reply = none

theorem ready_new (hello : ExecutorHello) : (System.new hello).Ready :=
  ⟨rfl, rfl, rfl, rfl, rfl, rfl⟩

/-- The system after the call `c` has its answer. -/
def System.answered (s : System) (c : CallId) (op : Operation) (state : ExecutorState)
    (result : Except AnyError Done) : System :=
  ⟨{ s.client.asked c op with
      pending := (s.client.asked c op).pending.erase s.client.nextRequestId
      slots := Function.update (s.client.asked c op).slots c
        (.filled (sendRequestResult s.client.nextRequestId result)) },
    s.link,
    { s.process with
      state := state
      handled := s.process.handled ++ [(s.client.nextRequestId, result)] }⟩

theorem System.Ready.answered (hr : s.Ready) (c : CallId) (op : Operation) (state : ExecutorState)
    (result : Except AnyError Done) : (s.answered c op state result).Ready :=
  ⟨hr.reader, hr.link, hr.running, hr.reading, hr.requests, hr.reply⟩

def exchangeEvents (c : CallId) (os : Surroundings) : List SystemEvent :=
  .client (.receive (.room 1)) :: .process .reply :: .process (.handle os) ::
    .process .receive :: askEvents c

/-- The answer goes to the call that waits under its id. -/
theorem receive_answer {s : Client} (h : s.pending.lookup id = some c)
    (result : Except AnyError Done) :
    s.receive ⟨sendRequestResult id result, none⟩ = { s with
      pending := s.pending.erase id
      slots := Function.update s.slots c (.filled (sendRequestResult id result)) } := by
  cases result with
  | ok done => simp [Client.receive, Client.deliver, sendRequestResult, h]
  | error err => simp [Client.receive, Client.deliver, sendRequestResult, h]

/-- **Over an idle channel a call that has begun gets its answer.** -/
theorem path_exchange (hready : s.Ready) {os : Surroundings} {state : ExecutorState}
    {result : Except AnyError Done} (hc : s.client.calls c = .opened op none)
    (hhandle : s.process.state.handle os (s.client.issue op).packet =
      (state, sendRequestResult s.client.nextRequestId result,
        some (s.client.nextRequestId, result)))
    (hfits : Fits requestJson (s.client.issue op).packet.message)
    (hfitsAnswer : Fits responseJson (sendRequestResult s.client.nextRequestId result)) :
    Path s (exchangeEvents c os) (s.answered c op state result) := by
  obtain ⟨client, link, process⟩ := s
  obtain ⟨hreader, hlink, hrun, hread, hrequests, hreply⟩ := hready
  dsimp only at *
  subst hlink
  obtain ⟨dg, hd, hasked⟩ := path_ask (s := ⟨client, ⟨.new, .new⟩, process⟩) hc rfl
  obtain ⟨dg', hd', hhandled⟩ := path_handle
    (s := ⟨client.asked c op, ⟨Pipe.new.push dg, .new⟩, process⟩) os hrun hread hrequests
    hreply rfl hd hfits rfl
  rw [hhandle] at hd' hhandled
  have hreceived := receive_step (s := ⟨client.asked c op, ⟨.new, Pipe.new.push dg'⟩,
    { process with
      state := state
      handled := process.handled ++ [(client.nextRequestId, result)] }⟩) hreader rfl hd' hfitsAnswer
  have hlookup : (client.asked c op).pending.lookup client.nextRequestId = some c :=
    AList.lookup_insert _
  rw [receive_answer hlookup] at hreceived
  exact (hasked.append hhandled).cons hreceived

/-- The system with one more connection for the dispatch task. -/
def System.reported (s : System) (event : RemoteForwardEvent) : System :=
  { s with client := { s.client with events := s.client.events ++ [event] } }

theorem System.Ready.reported (hr : s.Ready) (event : RemoteForwardEvent) :
    (s.reported event).Ready :=
  ⟨hr.reader, hr.link, hr.running, hr.reading, hr.requests, hr.reply⟩

/-- **Over an idle channel a connection reaches the dispatch task's queue.** -/
theorem path_connection (hready : s.Ready) (address : Text) (port : UInt16) (number : Nat)
    (hlistener : s.process.state.remoteForwards.lookup token = some listener)
    (hlive : listener.accepting = true) (hdispatching : s.client.dispatching = true)
    (hfits : Fits responseJson (.remoteForwardIncoming token address port.toUInt32)) :
    Path s [.client (.receive (.room 1)), .process (.accept token)]
      (s.reported ⟨token, address, port.toUInt32, .connection number⟩) := by
  obtain ⟨client, link, process⟩ := s
  obtain ⟨hreader, hlink, hrun, -, -, -⟩ := hready
  dsimp only at *
  subst hlink
  obtain ⟨dg, hd, haccepted⟩ := accept_step (s := ⟨client, ⟨.new, .new⟩, process⟩) address port
    number hrun hlistener hlive rfl
  have hreceived := receive_step (s := ⟨client, ⟨.new, Pipe.new.push dg⟩, process⟩) hreader rfl hd
    hfits
  have hreported : client.receive ⟨.remoteForwardIncoming token address port.toUInt32,
      some (.connection number)⟩ =
        { client with
          events := client.events ++ [⟨token, address, port.toUInt32, .connection number⟩] } := by
    simp [Client.receive, hdispatching]
  rw [hreported] at hreceived
  exact ((Run.nil rfl : Path _ [] _).cons haccepted).cons hreceived

/-! ## Requests that are not sent

A request whose message the socket does not take fails at once, and leaves nothing behind except
that an id has been used. -/

theorem send_fault {T F : Type} {json : SerdeJson T} (err : IoError) (pipe : Pipe F)
    {packet : TransportPacket T F} (hvec : json.toVec packet.message = .ok payload) :
    ∃ cause, ControlWriter.send json (some err) pipe packet = .error cause := by
  obtain ⟨message, attachedFd⟩ := packet
  change json.toVec message = .ok payload at hvec
  have hfails : ∀ dg : Datagram F, ∃ cause, sendmsg (some err) pipe dg = .error cause := by
    intro dg
    unfold sendmsg
    split
    · exact ⟨_, rfl⟩
    · exact ⟨_, rfl⟩
  cases attachedFd with
  | none =>
      obtain ⟨cause, hcause⟩ := hfails ⟨payload, []⟩
      simp [ControlWriter.send, encodeMessage, hvec, Except.bind, hcause, withContext]
  | some fd =>
      obtain ⟨cause, hcause⟩ := hfails ⟨payload, [fd]⟩
      simp [ControlWriter.send, encodeMessage, hvec, Except.bind, hcause, withContext]

def failEvents (c : CallId) : List SystemEvent :=
  [.client (.cleanUp c), .client (.send c), .client (.insert c), .client (.build c),
    .client (.drawId c), .client (.begin c (.connectTcp "localhost".toList 80))]

/-- The failing requests of the calls from `c` on, the newest first. -/
def failsEvents (c : CallId) : Nat → List SystemEvent
  | 0 => []
  | n + 1 => failEvents (c + n) ++ failsEvents c n

/-- What is left of the client when `n` requests have failed, from the call `c` on. -/
structure Client.Passed (s : Client) (c n : Nat) (s' : Client) : Prop where
  nextRequestId : s'.nextRequestId = s.nextRequestId + UInt64.ofNat n
  nextForwardToken : s'.nextForwardToken = s.nextForwardToken
  remoteForwards : s'.remoteForwards = s.remoteForwards
  reader : s'.reader = s.reader
  events : s'.events = s.events
  dispatching : s'.dispatching = s.dispatching
  dispatched : s'.dispatched = s.dispatched
  calls : ∀ c', c' < c ∨ c + n ≤ c' → s'.calls c' = s.calls c'

theorem path_fail (hc : s.client.calls c = .idle) :
    ∃ client, Path s (failEvents c) ⟨client, s.link, s.process⟩ ∧ s.client.Passed c 1 client := by
  let i : Issued := ⟨.connectTcp "localhost".toList 80, some ⟨s.client.nextChannel⟩,
    s.client.nextRequestId, 0⟩
  have hvec : requestJson.toVec i.packet.message = .ok _ := rfl
  obtain ⟨cause, hsend⟩ := send_fault ⟨.other, "ENOBUFS: No buffer space available"⟩
    s.link.toExecutor hvec
  have hopened : Path s [.client (.begin c (.connectTcp "localhost".toList 80))] _ :=
    (Run.nil rfl : Path s [] s).cons (.client (.openChannel hc rfl))
  have hnumbered := hopened.cons (.client (.drawId (Client.setCall_calls_self ..)))
  have hbuilt := hnumbered.cons (.client (.build (Client.setCall_calls_self ..) rfl))
  have hregistered := hbuilt.cons (.client (.insert (Client.setCall_calls_self ..)))
  have hfailed := hregistered.cons (.client (.sendFails (Client.setCall_calls_self ..) hsend))
  have hcleaned := hfailed.cons (.client (.cleanUp (Client.setCall_calls_self ..)))
  refine ⟨_, hcleaned, rfl, rfl, rfl, rfl, rfl, rfl, rfl, ?_⟩
  intro c' hne
  have hne' : c' ≠ c := by omega
  simp [Client.setCall, Client.register, Client.unregister, hne']

/-- **Any number of requests can fail.** -/
theorem path_fails (hc : ∀ c' ≥ c, s.client.calls c' = .idle) (n : Nat) :
    ∃ client, Path s (failsEvents c n) ⟨client, s.link, s.process⟩ ∧
      s.client.Passed c n client := by
  induction n with
  | zero =>
      refine ⟨s.client, .nil rfl, ?_, rfl, rfl, rfl, rfl, rfl, rfl, fun _ _ => rfl⟩
      exact (UInt64.add_zero _).symm
  | succ n ih =>
      obtain ⟨client, hpath, hpassed⟩ := ih
      have hidle : client.calls (c + n) = .idle := by
        rw [hpassed.calls _ (Or.inr (Nat.le_refl _))]
        exact hc _ (Nat.le_add_right ..)
      obtain ⟨client', hpath', hpassed'⟩ := path_fail (s := ⟨client, s.link, s.process⟩) hidle
      refine ⟨client', hpath.append hpath', ?_, hpassed'.nextForwardToken.trans
        hpassed.nextForwardToken, hpassed'.remoteForwards.trans hpassed.remoteForwards,
        hpassed'.reader.trans hpassed.reader, hpassed'.events.trans hpassed.events,
        hpassed'.dispatching.trans hpassed.dispatching,
        hpassed'.dispatched.trans hpassed.dispatched, ?_⟩
      · rw [hpassed'.nextRequestId]
        show client.nextRequestId + 1 = _
        rw [hpassed.nextRequestId, UInt64.ofNat_add, UInt64.add_assoc]
        rfl
      · intro c' hc'
        rw [hpassed'.calls c' (by omega)]
        exact hpassed.calls c' (by omega)

end Narrowd.Executor
