import Narrowd.Lib.Registry
import Narrowd.Executor.Control

set_option autoImplicit false

/-! # The daemon's side of the executor protocol

`ExecutorClient` sends the requests of all sessions over one control channel. A call draws a
request id, registers the sender of a one-shot channel under it in `pending`, sends its request
and waits; a reader thread takes the responses off the channel and passes each to the sender
registered under its id. When the reader ends it answers every registered sender with an error.

The calls and the thread run concurrently, so the model is a step relation (`ClientStep`): one
constructor for each stretch of code between two points where another task may come in. Every
lock of the source is held within one step.
-/

namespace Narrowd.Executor

open Lib

/-! ## Calls -/

/-- The open files that travel with control messages: the executor's end of a service channel, or
a connection accepted for a remote forward. -/
inductive Fd
  | service (channel : Nat)
  | connection (number : Nat)
  deriving DecidableEq

/-- The daemon's end of a service channel. -/
structure ServiceStream where
  channel : Nat
  deriving DecidableEq

/-- The methods of `ExecutorClient`, with their arguments. -/
inductive Operation
  | startProcess (request : ProcessRequest)
  | startSftp
  | connectTcp (host : Text) (port : UInt16)
  | startRemoteForward (sessionHandle : Nat) (connectedAddress bindAddress : Text)
      (bindPort : UInt16)
  | cancelRemoteForward (token : UInt64)

namespace Operation

/-- The methods that open a service channel before they ask. -/
def opensChannel : Operation → Bool
  | startProcess _ => true
  | startSftp => true
  | connectTcp _ _ => true
  | startRemoteForward _ _ _ _ => false
  | cancelRemoteForward _ => false

/-- The methods that draw a token for the forward they ask for. -/
def drawsToken : Operation → Bool
  | startRemoteForward _ _ _ _ => true
  | _ => false

/-- The request of a call. -/
def request (id token : UInt64) : Operation → ExecutorRequest
  | startProcess request => .startProcess id request
  | startSftp => .startSftp id
  | connectTcp host port => .connectTcp id host port
  | startRemoteForward _ _ bindAddress bindPort => .startRemoteForward id token bindAddress bindPort
  | cancelRemoteForward token => .cancelRemoteForward id token

/-- Every request of a call carries its id, so `request` never refuses one. -/
theorem requestId_request (id token : UInt64) (op : Operation) :
    requestId (op.request id token) = some id := by
  cases op <;> rfl

end Operation

/-- A call that has its request: what it does, the channel it has opened, its id, and the token
if it draws one (`0` if not). -/
structure Issued where
  op : Operation
  stream : Option ServiceStream
  id : UInt64
  token : UInt64

/-- What the call sends: its request, with the other end of its channel. -/
def Issued.packet (i : Issued) : TransportPacket ExecutorRequest Fd :=
  ⟨i.op.request i.id i.token, i.stream.map fun stream => .service stream.channel⟩

/-- What a call returns. -/
inductive Reply
  | stream (stream : ServiceStream)
  | started (token : UInt64) (boundPort : UInt32)
  | cancelled
  deriving DecidableEq

/-- Why a call fails. The text of an unexpected response is kept as that response. -/
inductive CallError
  | any (err : AnyError)
  | unexpected (what : String) (other : ExecutorResponse)
  deriving DecidableEq

/-! ### What a call makes of its response -/

/-- The end of every method: `onOk` is what it takes from a success, `failed` and `what` begin its
two errors. -/
def answered (failed what : String) (onOk : ResponseDetail → Option Reply)
    (response : ExecutorResponse) : Except CallError Reply :=
  match response with
  | .requestOk _ detail =>
      match onOk detail with
      | some reply => .ok reply
      | none => .error (.unexpected what response)
  | .requestErr _ message => .error (.any ⟨failed ++ ": " ++ String.ofList message, []⟩)
  | other => .error (.unexpected what other)

namespace ExecutorClient

variable (stream : Option ServiceStream) (token : UInt64)

def startProcess : ExecutorResponse → Except CallError Reply :=
  answered "executor failed to start process session"
    "unexpected executor response to process request" (fun _ => stream.map .stream)

def startSftp : ExecutorResponse → Except CallError Reply :=
  answered "executor failed to start SFTP session"
    "unexpected executor response to SFTP request" (fun _ => stream.map .stream)

def connectTcp : ExecutorResponse → Except CallError Reply :=
  answered "executor failed to connect outbound TCP stream"
    "unexpected executor response to direct-tcpip request" (fun _ => stream.map .stream)

/-- A success must say which port was bound. -/
def startRemoteForward : ExecutorResponse → Except CallError Reply :=
  answered "executor failed to bind remote forward"
    "unexpected executor response to remote-forward request"
    (fun
      | .boundPort port => some (.started token port.toUInt32)
      | .empty => none)

def cancelRemoteForward : ExecutorResponse → Except CallError Reply :=
  answered "executor failed to cancel remote forward"
    "unexpected executor response to cancel-remote-forward request" (fun _ => some .cancelled)

end ExecutorClient

def Issued.finish (i : Issued) : ExecutorResponse → Except CallError Reply :=
  match i.op with
  | .startProcess _ => ExecutorClient.startProcess i.stream
  | .startSftp => ExecutorClient.startSftp i.stream
  | .connectTcp _ _ => ExecutorClient.connectTcp i.stream
  | .startRemoteForward _ _ _ _ => ExecutorClient.startRemoteForward i.token
  | .cancelRemoteForward _ => ExecutorClient.cancelRemoteForward

variable {i : Issued} {response : ExecutorResponse}

/-- A call succeeds only when its request has. -/
theorem Issued.finish_eq_ok {reply : Reply} (h : i.finish response = .ok reply) :
    ∃ id detail, response = .requestOk id detail := by
  obtain ⟨op, own, _, _⟩ := i
  cases response with
  | requestOk id detail => exact ⟨id, detail, rfl⟩
  | _ => cases op <;> cases h

/-- The calls that return a stream are those that open a channel, and the stream is their own. -/
theorem Issued.finish_eq_stream {stream : ServiceStream}
    (h : i.finish response = .ok (.stream stream)) :
    i.op.opensChannel = true ∧ i.stream = some stream := by
  obtain ⟨id, detail, rfl⟩ := finish_eq_ok h
  obtain ⟨op, own, _, _⟩ := i
  cases op <;> cases own <;> cases detail <;> cases h <;> exact ⟨rfl, rfl⟩

/-- How far a call has come. -/
inductive Call
  | idle
  /-- The channel is open, or there is none. -/
  | opened (op : Operation) (stream : Option ServiceStream)
  | numbered (op : Operation) (stream : Option ServiceStream) (id : UInt64)
  | built (i : Issued)
  /-- The sender stands in `pending`. -/
  | registered (i : Issued)
  /-- `send` has failed and `pending` still holds the sender. -/
  | sendFailed (i : Issued) (err : AnyError)
  | awaiting (i : Issued)
  /-- The task was dropped while it waited. -/
  | abandoned (i : Issued)
  /-- The service channel could not be created. -/
  | refused (op : Operation) (err : AnyError)
  | returned (i : Issued) (result : Except CallError Reply)

/-- The request of a call that has one. -/
def Call.issued? : Call → Option Issued
  | built i => some i
  | registered i => some i
  | sendFailed i _ => some i
  | awaiting i => some i
  | abandoned i => some i
  | returned i _ => some i
  | _ => none

/-! ## The state -/

abbrev CallId := Nat

/-- The control-reader thread: in its loop, past it, or ended. -/
inductive ReaderThread
  | running
  | stopped
  | drained
  deriving DecidableEq

structure RemoteForwardRegistration where
  sessionHandle : Nat
  connectedAddress : Text
  connectedPort : UInt32
  deriving DecidableEq

structure RemoteForwardEvent where
  token : UInt64
  originatorAddress : Text
  originatorPort : UInt32
  streamFd : Fd
  deriving DecidableEq

/-- `ExecutorClientInner`, with its calls and the tasks that work for it. A sender that stands in
`pending` is given by the call it belongs to. -/
structure Client where
  pending : Table UInt64 CallId
  remoteForwards : Table UInt64 RemoteForwardRegistration
  nextRequestId : UInt64
  nextForwardToken : UInt64
  /-- The number of the next socket pair. -/
  nextChannel : Nat
  calls : CallId → Call
  slots : CallId → Slot ExecutorResponse
  reader : ReaderThread
  /-- What the reader has passed to the dispatch task, and whether that task is still there. -/
  events : List RemoteForwardEvent
  dispatching : Bool
  /-- What the dispatch task has found registered for each of its events. -/
  dispatched : List (RemoteForwardEvent × Option RemoteForwardRegistration)

/-- The client after `spawn`. -/
def Client.new : Client where
  pending := ∅
  remoteForwards := ∅
  nextRequestId := 1
  nextForwardToken := 1
  nextChannel := 0
  calls _ := .idle
  slots _ := .empty
  reader := .running
  events := []
  dispatching := true
  dispatched := []

namespace Client

def setCall (s : Client) (c : CallId) (call : Call) : Client :=
  { s with calls := Function.update s.calls c call }

/-- `pending.insert(request_id, tx)`: a sender that stood there is dropped. -/
def register (s : Client) (c : CallId) (id : UInt64) : Client :=
  { s with
    pending := s.pending.insert id c
    slots := Registry.dropSender s.slots (s.pending.lookup id) }

/-- `pending.remove(&request_id)`: the sender that stood there is dropped. -/
def unregister (s : Client) (id : UInt64) : Client :=
  { s with
    pending := s.pending.erase id
    slots := Registry.dropSender s.slots (s.pending.lookup id) }

/-- A response goes to the sender registered under its id, if there is one. -/
def deliver (s : Client) (id : UInt64) (response : ExecutorResponse) : Client :=
  match s.pending.lookup id with
  | some owner =>
      { s with
        pending := s.pending.erase id
        slots := Function.update s.slots owner (.filled response) }
  | none => s

/-- The answer of the reader thread to the senders it leaves behind. -/
def channelClosed : ExecutorResponse :=
  .requestErr 0 "executor control channel closed".toList

/-- `pending.drain()`. -/
def drain (s : Client) : Client :=
  { s with
    pending := ∅
    slots := Registry.answerAll s.pending s.slots channelClosed
    reader := .drained }

/-- One round of the reader thread's loop. -/
def receive (s : Client) (packet : TransportPacket ExecutorResponse Fd) : Client :=
  match packet.message with
  | .requestOk id detail => s.deliver id (.requestOk id detail)
  | .requestErr id message => s.deliver id (.requestErr id message)
  | .remoteForwardIncoming token address port =>
      match packet.attachedFd with
      | none => s
      | some fd =>
          if s.dispatching then { s with events := s.events ++ [⟨token, address, port, fd⟩] }
          else { s with reader := .stopped }
  | .helloAck => s

/-- A call takes its response; a forward that was started is registered under its token. -/
def complete (s : Client) (c : CallId) (i : Issued) (response : ExecutorResponse) : Client :=
  let s := s.setCall c (.returned i (i.finish response))
  match i.op, i.finish response with
  | .startRemoteForward handle address _ _, .ok (.started token port) =>
      { s with remoteForwards := s.remoteForwards.insert token ⟨handle, address, port⟩ }
  | _, _ => s

end Client

/-- The two directions of the control channel. -/
structure Link where
  toExecutor : Pipe Fd
  toClient : Pipe Fd

/-- The daemon with its end of the channel. -/
structure Daemon where
  client : Client
  link : Link

def Daemon.new : Daemon := ⟨.new, ⟨.new, .new⟩⟩

/-! ## The steps -/

inductive ClientEvent
  | begin (c : CallId) (op : Operation)
  | drawId (c : CallId)
  | build (c : CallId)
  | insert (c : CallId)
  | send (c : CallId)
  | cleanUp (c : CallId)
  | finish (c : CallId)
  | abandon (c : CallId)
  | receive (reception : Reception)
  | drain
  | dispatch
  | endDispatch

/-- **The steps of the daemon.** -/
inductive ClientStep (requests : SerdeJson ExecutorRequest)
    (responses : SerdeJson ExecutorResponse) : Daemon → ClientEvent → Daemon → Prop
  | openChannel {s : Client} {l : Link} {c : CallId} {op : Operation} (hc : s.calls c = .idle)
      (hop : op.opensChannel = true) :
      ClientStep requests responses ⟨s, l⟩ (.begin c op)
        ⟨{ s.setCall c (.opened op (some ⟨s.nextChannel⟩)) with
            nextChannel := s.nextChannel + 1 }, l⟩
  | openChannelFails {s : Client} {l : Link} {c : CallId} {op : Operation} {err : IoError}
      (hc : s.calls c = .idle) (hop : op.opensChannel = true) :
      ClientStep requests responses ⟨s, l⟩ (.begin c op)
        ⟨s.setCall c (.refused op ⟨"failed to create Unix service stream", [err.text]⟩), l⟩
  | forward {s : Client} {l : Link} {c : CallId} {handle : Nat} {connected bind : Text}
      {port : UInt16} (hc : s.calls c = .idle) :
      ClientStep requests responses ⟨s, l⟩
        (.begin c (.startRemoteForward handle connected bind port))
        ⟨s.setCall c (.opened (.startRemoteForward handle connected bind port) none), l⟩
  | cancel {s : Client} {l : Link} {c : CallId} {token : UInt64} (hc : s.calls c = .idle) :
      ClientStep requests responses ⟨s, l⟩ (.begin c (.cancelRemoteForward token))
        ⟨{ s.setCall c (.opened (.cancelRemoteForward token) none) with
            remoteForwards := s.remoteForwards.erase token }, l⟩
  | drawId {s : Client} {l : Link} {c : CallId} {op : Operation} {stream : Option ServiceStream}
      (hc : s.calls c = .opened op stream) :
      ClientStep requests responses ⟨s, l⟩ (.drawId c)
        ⟨{ s.setCall c (.numbered op stream s.nextRequestId) with
            nextRequestId := s.nextRequestId + 1 }, l⟩
  | build {s : Client} {l : Link} {c : CallId} {op : Operation} {stream : Option ServiceStream}
      {id : UInt64} (hc : s.calls c = .numbered op stream id) (hop : op.drawsToken = false) :
      ClientStep requests responses ⟨s, l⟩ (.build c) ⟨s.setCall c (.built ⟨op, stream, id, 0⟩), l⟩
  | drawToken {s : Client} {l : Link} {c : CallId} {op : Operation}
      {stream : Option ServiceStream} {id : UInt64} (hc : s.calls c = .numbered op stream id)
      (hop : op.drawsToken = true) :
      ClientStep requests responses ⟨s, l⟩ (.build c)
        ⟨{ s.setCall c (.built ⟨op, stream, id, s.nextForwardToken⟩) with
            nextForwardToken := s.nextForwardToken + 1 }, l⟩
  | insert {s : Client} {l : Link} {c : CallId} {i : Issued} (hc : s.calls c = .built i) :
      ClientStep requests responses ⟨s, l⟩ (.insert c)
        ⟨(s.register c i.id).setCall c (.registered i), l⟩
  | send {s : Client} {l : Link} {c : CallId} {i : Issued} {fault : Option IoError}
      {pipe : Pipe Fd} (hc : s.calls c = .registered i)
      (hsend : ControlWriter.send requests fault l.toExecutor i.packet = .ok pipe) :
      ClientStep requests responses ⟨s, l⟩ (.send c)
        ⟨s.setCall c (.awaiting i), { l with toExecutor := pipe }⟩
  | sendFails {s : Client} {l : Link} {c : CallId} {i : Issued} {fault : Option IoError}
      {err : AnyError} (hc : s.calls c = .registered i)
      (hsend : ControlWriter.send requests fault l.toExecutor i.packet = .error err) :
      ClientStep requests responses ⟨s, l⟩ (.send c) ⟨s.setCall c (.sendFailed i err), l⟩
  | cleanUp {s : Client} {l : Link} {c : CallId} {i : Issued} {err : AnyError}
      (hc : s.calls c = .sendFailed i err) :
      ClientStep requests responses ⟨s, l⟩ (.cleanUp c)
        ⟨(s.unregister i.id).setCall c (.returned i (.error (.any err))), l⟩
  | finish {s : Client} {l : Link} {c : CallId} {i : Issued} {response : ExecutorResponse}
      (hc : s.calls c = .awaiting i) (hslot : s.slots c = .filled response) :
      ClientStep requests responses ⟨s, l⟩ (.finish c) ⟨s.complete c i response, l⟩
  | finishDropped {s : Client} {l : Link} {c : CallId} {i : Issued}
      (hc : s.calls c = .awaiting i) (hslot : s.slots c = .dropped) :
      ClientStep requests responses ⟨s, l⟩ (.finish c)
        ⟨s.setCall c (.returned i
          (.error (.any ⟨"executor control channel dropped the response", []⟩))), l⟩
  | abandon {s : Client} {l : Link} {c : CallId} {i : Issued} (hc : s.calls c = .awaiting i) :
      ClientStep requests responses ⟨s, l⟩ (.abandon c) ⟨s.setCall c (.abandoned i), l⟩
  | receive {s : Client} {l : Link} {packet : TransportPacket ExecutorResponse Fd}
      {pipe : Pipe Fd} {reception : Reception} (hreader : s.reader = .running)
      (hrecv : ControlReader.recv responses reception l.toClient = some (.ok packet, pipe)) :
      ClientStep requests responses ⟨s, l⟩ (.receive reception)
        ⟨s.receive packet, { l with toClient := pipe }⟩
  | receiveFails {s : Client} {l : Link} {err : AnyError} {pipe : Pipe Fd} {reception : Reception}
      (hreader : s.reader = .running)
      (hrecv : ControlReader.recv responses reception l.toClient = some (.error err, pipe)) :
      ClientStep requests responses ⟨s, l⟩ (.receive reception)
        ⟨{ s with reader := .stopped }, { l with toClient := pipe }⟩
  | drain {s : Client} {l : Link} (hreader : s.reader = .stopped) :
      ClientStep requests responses ⟨s, l⟩ .drain ⟨s.drain, l⟩
  | dispatch {s : Client} {l : Link} {event : RemoteForwardEvent}
      {rest : List RemoteForwardEvent} (hlive : s.dispatching = true)
      (hevents : s.events = event :: rest) :
      ClientStep requests responses ⟨s, l⟩ .dispatch
        ⟨{ s with
            events := rest
            dispatched := s.dispatched ++ [(event, s.remoteForwards.lookup event.token)] }, l⟩
  | endDispatch {s : Client} {l : Link} (hlive : s.dispatching = true) :
      ClientStep requests responses ⟨s, l⟩ .endDispatch ⟨{ s with dispatching := false }, l⟩

/-! ## How a call moves -/

/-- **The moves of the call `c`**, by the event they come with. It reaches `awaiting` only through
a send that succeeds, for which the executor's end must be open (`gone`). -/
inductive CallMove (gone : Bool) (c : CallId) : ClientEvent → Call → Call → Prop
  | opens {op : Operation} {stream : Option ServiceStream} :
      CallMove gone c (.begin c op) .idle (.opened op stream)
  | refused {op : Operation} {err : AnyError} :
      CallMove gone c (.begin c op) .idle (.refused op err)
  | draws {op : Operation} {stream : Option ServiceStream} {id : UInt64} :
      CallMove gone c (.drawId c) (.opened op stream) (.numbered op stream id)
  | builds {op : Operation} {stream : Option ServiceStream} {id token : UInt64} :
      CallMove gone c (.build c) (.numbered op stream id) (.built ⟨op, stream, id, token⟩)
  | registers {i : Issued} : CallMove gone c (.insert c) (.built i) (.registered i)
  | sends {i : Issued} (hopen : gone = false) :
      CallMove gone c (.send c) (.registered i) (.awaiting i)
  | fails {i : Issued} {err : AnyError} :
      CallMove gone c (.send c) (.registered i) (.sendFailed i err)
  | cleansUp {i : Issued} {err : AnyError} :
      CallMove gone c (.cleanUp c) (.sendFailed i err) (.returned i (.error (.any err)))
  | finishes {i : Issued} {result : Except CallError Reply} :
      CallMove gone c (.finish c) (.awaiting i) (.returned i result)
  | abandons {i : Issued} : CallMove gone c (.abandon c) (.awaiting i) (.abandoned i)

variable {e : ClientEvent} {call : Call}

/-- A call keeps the request it has. -/
theorem CallMove.issued? {gone : Bool} {c : CallId} {call' : Call}
    (hm : CallMove gone c e call call') (hi : call.issued? = some i) : call'.issued? = some i := by
  cases hm <;> first | exact hi | cases hi

theorem Client.setCall_calls_self (s : Client) (c : CallId) (call : Call) :
    (s.setCall c call).calls c = call := Function.update_self ..

theorem Client.setCall_calls_of_ne {s : Client} {c c' : CallId} (h : c' ≠ c) :
    (s.setCall c call).calls c' = s.calls c' := Function.update_of_ne h ..

theorem Client.deliver_cases (s : Client) (id : UInt64) (response : ExecutorResponse) :
    (∃ owner, s.pending.lookup id = some owner ∧
      s.deliver id response = { s with
        pending := s.pending.erase id
        slots := Function.update s.slots owner (.filled response) }) ∨
    s.deliver id response = s := by
  unfold deliver
  split
  · next owner howner => exact Or.inl ⟨owner, howner, rfl⟩
  · exact Or.inr rfl

/-- **What the reader does with a packet.** A response goes to the sender that stands in `pending`
under its id; everything else leaves the calls and their channels alone, and the loop goes on as
long as there is a task to pass connections to. -/
theorem Client.receive_cases (s : Client) (packet : TransportPacket ExecutorResponse Fd) :
    (∃ id owner, responseId packet.message = some id ∧ s.pending.lookup id = some owner ∧
      s.receive packet = { s with
        pending := s.pending.erase id
        slots := Function.update s.slots owner (.filled packet.message) }) ∨
    ∃ events reader, s.receive packet = { s with events := events, reader := reader } ∧
      (s.dispatching = true → reader = s.reader) := by
  obtain ⟨message, attachedFd⟩ := packet
  cases message with
  | requestOk id detail =>
      rcases s.deliver_cases id (.requestOk id detail) with ⟨owner, howner, heq⟩ | heq
      · exact Or.inl ⟨id, owner, rfl, howner, heq⟩
      · exact Or.inr ⟨s.events, s.reader, heq, fun _ => rfl⟩
  | requestErr id message =>
      rcases s.deliver_cases id (.requestErr id message) with ⟨owner, howner, heq⟩ | heq
      · exact Or.inl ⟨id, owner, rfl, howner, heq⟩
      · exact Or.inr ⟨s.events, s.reader, heq, fun _ => rfl⟩
  | helloAck => exact Or.inr ⟨s.events, s.reader, rfl, fun _ => rfl⟩
  | remoteForwardIncoming token address port =>
      cases attachedFd with
      | none => exact Or.inr ⟨s.events, s.reader, rfl, fun _ => rfl⟩
      | some fd =>
          by_cases hlive : s.dispatching = true
          · refine Or.inr ⟨s.events ++ [⟨token, address, port, fd⟩], s.reader, ?_, fun _ => rfl⟩
            simp [receive, hlive]
          · refine Or.inr ⟨s.events, .stopped, ?_, fun h => absurd h hlive⟩
            simp [receive, hlive]

/-- **What a call does with its response**: besides returning it may register a forward. -/
theorem Client.complete_eq (s : Client) (c : CallId) (i : Issued) (response : ExecutorResponse) :
    ∃ forwards, s.complete c i response =
      { s.setCall c (.returned i (i.finish response)) with remoteForwards := forwards } := by
  unfold complete
  split
  · exact ⟨_, rfl⟩
  · exact ⟨_, rfl⟩

theorem Client.receive_calls (s : Client) (packet : TransportPacket ExecutorResponse Fd) :
    (s.receive packet).calls = s.calls := by
  rcases s.receive_cases packet with ⟨id, owner, -, -, heq⟩ | ⟨events, reader, heq, -⟩
  · rw [heq]
  · rw [heq]

theorem Client.complete_calls (s : Client) (c : CallId) (i : Issued)
    (response : ExecutorResponse) :
    (s.complete c i response).calls = (s.setCall c (.returned i (i.finish response))).calls := by
  obtain ⟨forwards, heq⟩ := s.complete_eq c i response
  rw [heq]

variable {requests : SerdeJson ExecutorRequest} {responses : SerdeJson ExecutorResponse}

/-- A step moves one call at most. -/
theorem ClientStep.call_cases {d d' : Daemon} (hs : ClientStep requests responses d e d')
    (c : CallId) :
    d'.client.calls c = d.client.calls c ∨
      CallMove d.link.toExecutor.readerGone c e (d.client.calls c) (d'.client.calls c) := by
  have hone : ∀ {s : Client} {gone : Bool} {c' : CallId} {e : ClientEvent} {call call' : Call},
      s.calls c' = call → CallMove gone c' e call call' →
      (s.setCall c' call').calls c = s.calls c ∨
        CallMove gone c e (s.calls c) ((s.setCall c' call').calls c) := by
    intro s gone c' e call call' hc hm
    by_cases h : c = c'
    · subst h
      rw [Client.setCall_calls_self, hc]
      exact Or.inr hm
    · exact Or.inl (Client.setCall_calls_of_ne h)
  cases hs with
  | openChannel hc => exact hone hc .opens
  | openChannelFails hc => exact hone hc .refused
  | forward hc => exact hone hc .opens
  | cancel hc => exact hone hc .opens
  | drawId hc => exact hone hc .draws
  | build hc => exact hone hc .builds
  | drawToken hc => exact hone hc .builds
  | insert hc => exact hone hc .registers
  | send hc hsend => exact hone hc (.sends (send_eq_ok hsend).1)
  | sendFails hc => exact hone hc .fails
  | cleanUp hc => exact hone hc .cleansUp
  | finish hc =>
      rw [Client.complete_calls]
      exact hone hc .finishes
  | finishDropped hc => exact hone hc .finishes
  | abandon hc => exact hone hc .abandons
  | receive =>
      rw [Client.receive_calls]
      exact Or.inl rfl
  | _ => exact Or.inl rfl

/-! ## The calls as users of a registry -/

def Call.phase : Call → Phase UInt64
  | idle => .before
  | opened _ _ => .before
  | numbered _ _ _ => .before
  | built _ => .before
  | refused _ _ => .before
  | registered i => .waiting i.id
  | sendFailed i _ => .waiting i.id
  | awaiting i => .waiting i.id
  -- nobody receives any more, and the sender stays in `pending`
  | abandoned i => .waiting i.id
  | returned _ _ => .after

/-- What `pending`, the one-shot channels and the calls are together. -/
def Client.registry (s : Client) : Registry UInt64 CallId ExecutorResponse :=
  ⟨s.pending, s.slots, fun c => (s.calls c).phase⟩

theorem Client.registry_setCall (s : Client) (c : CallId) (call : Call) :
    (s.setCall c call).registry =
      ⟨s.pending, s.slots, Function.update s.registry.phase c call.phase⟩ := by
  have hphase : (fun c' => (Function.update s.calls c call c').phase) =
      Function.update s.registry.phase c call.phase := by
    funext c'
    by_cases h : c' = c
    · subst h
      simp
    · simp [h, registry]
  simp only [registry, setCall] at hphase ⊢
  rw [hphase]

/-- A call that stays in its phase leaves the registry as it is. -/
theorem Client.registry_setCall_same {s : Client} {c : CallId}
    (h : call.phase = s.registry.phase c) :
    (s.setCall c call).registry = s.registry := by
  rw [registry_setCall, h, Function.update_eq_self]
  rfl

theorem Client.registry_receive (s : Client) (packet : TransportPacket ExecutorResponse Fd) :
    Registry.Step s.registry (s.receive packet).registry := by
  rcases s.receive_cases packet with ⟨id, owner, -, howner, heq⟩ | ⟨events, reader, heq, -⟩
  · have hk : s.registry.pending.lookup id = some owner := howner
    rw [heq]
    exact .deliver hk
  · rw [heq]
    exact .idle

theorem Client.registry_complete (s : Client) (c : CallId) (i : Issued)
    (response : ExecutorResponse) :
    (s.complete c i response).registry =
      (s.setCall c (.returned i (i.finish response))).registry := by
  obtain ⟨forwards, heq⟩ := s.complete_eq c i response
  rw [heq]
  rfl

/-- **The daemon works on `pending` only through the operations of a registry.** -/
theorem ClientStep.registry {d d' : Daemon} (hs : ClientStep requests responses d e d') :
    Registry.Step d.client.registry d'.client.registry := by
  have hphase : ∀ {s : Client} {c : CallId} {call : Call}, s.calls c = call →
      s.registry.phase c = call.phase := fun h => congrArg Call.phase h
  -- a call that goes on within its phase, whatever else of the client changes
  have hidle : ∀ {s : Client} {c : CallId} {call call' : Call}, s.calls c = call →
      call'.phase = call.phase →
      Registry.Step s.registry (s.setCall c call').registry := by
    intro s c call call' hc hsame
    rw [Client.registry_setCall_same (hsame.trans (hphase hc).symm)]
    exact .idle
  cases hs with
  | openChannel hc => exact hidle hc rfl
  | openChannelFails hc => exact hidle hc rfl
  | forward hc => exact hidle hc rfl
  | cancel hc => exact hidle hc rfl
  | drawId hc => exact hidle hc rfl
  | build hc => exact hidle hc rfl
  | drawToken hc => exact hidle hc rfl
  | insert hc =>
      rw [Client.registry_setCall]
      exact .register (hphase hc)
  | send hc => exact hidle hc rfl
  | sendFails hc => exact hidle hc rfl
  | cleanUp hc =>
      rw [Client.registry_setCall]
      exact .retire (hphase hc)
  | @finish s l c i response hc hslot =>
      have hgot : s.registry.slots c ≠ .empty := by
        show s.slots c ≠ .empty
        rw [hslot]
        exact nofun
      rw [Client.registry_complete, Client.registry_setCall]
      exact .take hgot
  | @finishDropped s l c i hc hslot =>
      have hgot : s.registry.slots c ≠ .empty := by
        show s.slots c ≠ .empty
        rw [hslot]
        exact nofun
      rw [Client.registry_setCall]
      exact .take hgot
  | abandon hc => exact hidle hc rfl
  | receive => exact Client.registry_receive _ _
  | receiveFails => exact .idle
  | drain => exact .drain
  | dispatch => exact .idle
  | endDispatch => exact .idle

theorem registry_inv_new : Registry.Inv Client.new.registry where
  owner k c h := by cases h
  held k c h := by cases h
  fresh c _ := rfl

end Narrowd.Executor
