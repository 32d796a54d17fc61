import Narrowd.Executor.Client

set_option autoImplicit false

/-! # The executor process, and the whole system

The executor reads requests in a thread of its own, queues them and handles them one after the
other: it starts the service that is asked for on the descriptor that came with the request, or
binds or cancels a remote forward, and then answers under the request's id. The listeners of the
forwards report their connections through the same writer, between any two of these steps.

`System` puts the daemon and the executor at the two ends of one control channel. Seen from the
daemon the executor is only a peer that reads, writes and closes (`PeerStep`), which is all that
`SystemRun.daemonRun` keeps of it.
-/

namespace Narrowd.Executor

open Lib

/-! ## Handling a request -/

/-- The listener of a remote forward, and whether its accept loop still runs. -/
structure Listener where
  bindAddress : Text
  boundPort : UInt16
  accepting : Bool
  deriving DecidableEq

structure ExecutorState where
  hello : Option ExecutorHello
  remoteForwards : Table UInt64 Listener

/-- A service, with all that it was started from. -/
inductive ServiceKind
  | pty (hello : ExecutorHello) (request : ProcessRequest)
  | piped (hello : ExecutorHello) (request : ProcessRequest)
  | sftp (homeDir : PathBuf)
  | tcp (host : Text) (port : UInt16)
  deriving DecidableEq

/-- What the executor does for a request that succeeds. -/
inductive Done
  | service (kind : ServiceKind) (stream : Fd)
  | bound (port : UInt16)
  | cancelled
  deriving DecidableEq

def Done.detail : Done → ResponseDetail
  | service _ _ => .empty
  | bound port => .boundPort port
  | cancelled => .empty

/-- What the operating system answers while a request is handled: to adopting the descriptor, to
starting the process, to connecting, to binding, and to asking for the bound port. -/
structure Surroundings where
  adopt : Except AnyError Unit
  start : Except AnyError Unit
  connect : Except IoError Unit
  bind : Except IoError Unit
  localAddr : Except IoError UInt16

namespace ExecutorState

def startProcess (os : Surroundings) (state : ExecutorState) (request : ProcessRequest)
    (attachedFd : Option Fd) : Except AnyError Done :=
  match state.hello, attachedFd with
  | none, _ => .error ⟨"executor received a request before startup completed", []⟩
  | some _, none => .error ⟨"missing Unix service stream for process request", []⟩
  | some hello, some fd =>
      os.adopt.bind fun _ => os.start.bind fun _ =>
        .ok (.service (if request.pty.isSome then .pty hello request else .piped hello request) fd)

def startSftp (os : Surroundings) (state : ExecutorState) (attachedFd : Option Fd) :
    Except AnyError Done :=
  match state.hello, attachedFd with
  | none, _ => .error ⟨"executor received a request before startup completed", []⟩
  | some _, none => .error ⟨"missing Unix service stream for SFTP request", []⟩
  | some hello, some fd => os.adopt.bind fun _ => .ok (.service (.sftp hello.homeDir) fd)

/-- No greeting is needed to connect. -/
def connectTcp (os : Surroundings) (host : Text) (port : UInt16) (attachedFd : Option Fd) :
    Except AnyError Done :=
  match attachedFd with
  | none => .error ⟨"missing Unix service stream for direct-tcpip request", []⟩
  | some fd =>
      os.adopt.bind fun _ =>
        (withContext ("failed to connect to " ++ String.ofList host ++ ":" ++ toString port.toNat)
          os.connect).bind fun _ => .ok (.service (.tcp host port) fd)

def startRemoteForward (os : Surroundings) (state : ExecutorState) (token : UInt64)
    (bindAddress : Text) (bindPort : UInt16) : ExecutorState × Except AnyError Done :=
  let bound : Except AnyError UInt16 :=
    (withContext ("failed to bind remote forward " ++ String.ofList bindAddress ++ ":" ++
      toString bindPort.toNat) os.bind).bind fun _ =>
        withContext "failed to inspect remote-forward listener address" os.localAddr
  match bound with
  | .ok port =>
      ({ state with remoteForwards := state.remoteForwards.insert token ⟨bindAddress, port, true⟩ },
        .ok (.bound port))
  | .error err => (state, .error err)

def cancelRemoteForward (state : ExecutorState) (token : UInt64) :
    ExecutorState × Except AnyError Done :=
  match state.remoteForwards.lookup token with
  | none => (state, .error ⟨"unknown remote-forward token " ++ toString token.toNat, []⟩)
  | some _ =>
      ({ state with remoteForwards := state.remoteForwards.erase token }, .ok .cancelled)

end ExecutorState

/-- The answer to the request `id`. -/
def sendRequestResult (id : UInt64) : Except AnyError Done → ExecutorResponse
  | .ok done => .requestOk id done.detail
  | .error err => .requestErr id err.alternate

/-- One request: the state it leaves, its response, and what was done for it. A greeting is no
request of a call. -/
def ExecutorState.handle (os : Surroundings) (state : ExecutorState)
    (packet : TransportPacket ExecutorRequest Fd) :
    ExecutorState × ExecutorResponse × Option (UInt64 × Except AnyError Done) :=
  match packet.message with
  | .hello hello => ({ state with hello := some hello }, .helloAck, none)
  | .startProcess id request =>
      let result := state.startProcess os request packet.attachedFd
      (state, sendRequestResult id result, some (id, result))
  | .startSftp id =>
      let result := state.startSftp os packet.attachedFd
      (state, sendRequestResult id result, some (id, result))
  | .connectTcp id host port =>
      let result := connectTcp os host port packet.attachedFd
      (state, sendRequestResult id result, some (id, result))
  | .startRemoteForward id token bindAddress bindPort =>
      let (state, result) := state.startRemoteForward os token bindAddress bindPort
      (state, sendRequestResult id result, some (id, result))
  | .cancelRemoteForward id token =>
      let (state, result) := state.cancelRemoteForward token
      (state, sendRequestResult id result, some (id, result))

/-! ## The process -/

/-- The executor process. `handled` is the record of the requests it has handled, with what came of
each. -/
structure Process where
  running : Bool
  /-- The thread that reads requests. -/
  reading : Bool
  /-- Requests that were read and not yet handled. -/
  requests : List (TransportPacket ExecutorRequest Fd)
  state : ExecutorState
  /-- The response that has not been sent yet. -/
  reply : Option ExecutorResponse
  handled : List (UInt64 × Except AnyError Done)

/-- The process after the greeting of `spawn`. -/
def Process.new (hello : ExecutorHello) : Process where
  running := true
  reading := true
  requests := []
  state := ⟨some hello, ∅⟩
  reply := none
  handled := []

inductive ProcessEvent
  | receive
  | handle (os : Surroundings)
  | reply
  | accept (token : UInt64)
  | exit

/-- The process is gone, and its end of the channel with it. -/
def Link.closeExecutor (l : Link) : Link where
  toExecutor := { l.toExecutor with readerGone := true }
  toClient := { l.toClient with writerGone := true }

/-- **The steps of the executor.** It exits when a response cannot be sent, when there is nothing
left to handle and nobody reads, or when it is killed. -/
inductive ProcessStep (requests : SerdeJson ExecutorRequest)
    (responses : SerdeJson ExecutorResponse) :
    Process → Link → ProcessEvent → Process → Link → Prop
  | receive {p : Process} {l : Link} {packet : TransportPacket ExecutorRequest Fd}
      {pipe : Pipe Fd} {reception : Reception} (hrun : p.running = true) (hread : p.reading = true)
      (hrecv : ControlReader.recv requests reception l.toExecutor = some (.ok packet, pipe)) :
      ProcessStep requests responses p l .receive
        { p with requests := p.requests ++ [packet] } { l with toExecutor := pipe }
  | receiveFails {p : Process} {l : Link} {err : AnyError} {pipe : Pipe Fd} {reception : Reception}
      (hrun : p.running = true) (hread : p.reading = true)
      (hrecv : ControlReader.recv requests reception l.toExecutor = some (.error err, pipe)) :
      ProcessStep requests responses p l .receive
        { p with reading := false } { l with toExecutor := pipe }
  | handle {p : Process} {l : Link} {os : Surroundings}
      {packet : TransportPacket ExecutorRequest Fd}
      {rest : List (TransportPacket ExecutorRequest Fd)} (hrun : p.running = true)
      (hreply : p.reply = none) (hrequests : p.requests = packet :: rest) :
      ProcessStep requests responses p l (.handle os)
        { p with
          requests := rest
          state := (p.state.handle os packet).1
          reply := some (p.state.handle os packet).2.1
          handled := p.handled ++ (p.state.handle os packet).2.2.toList } l
  | reply {p : Process} {l : Link} {response : ExecutorResponse} {fault : Option IoError}
      {pipe : Pipe Fd} (hrun : p.running = true) (hreply : p.reply = some response)
      (hsend : ControlWriter.send responses fault l.toClient ⟨response, none⟩ = .ok pipe) :
      ProcessStep requests responses p l .reply
        { p with reply := none } { l with toClient := pipe }
  | replyFails {p : Process} {l : Link} {response : ExecutorResponse} {fault : Option IoError}
      {err : AnyError} (hrun : p.running = true) (hreply : p.reply = some response)
      (hsend : ControlWriter.send responses fault l.toClient ⟨response, none⟩ = .error err) :
      ProcessStep requests responses p l .reply { p with running := false } l.closeExecutor
  | accept {p : Process} {l : Link} {token : UInt64} {listener : Listener} {number : Nat}
      {address : Text} {port : UInt16} {fault : Option IoError} {pipe : Pipe Fd}
      (hrun : p.running = true) (htoken : p.state.remoteForwards.lookup token = some listener)
      (hlive : listener.accepting = true)
      (hsend : ControlWriter.send responses fault l.toClient
        ⟨.remoteForwardIncoming token address port.toUInt32, some (.connection number)⟩ =
          .ok pipe) :
      ProcessStep requests responses p l (.accept token) p { l with toClient := pipe }
  /-- The loop ends when `accept` fails or the connection cannot be reported. -/
  | acceptEnds {p : Process} {l : Link} {token : UInt64} {listener : Listener}
      (hrun : p.running = true) (htoken : p.state.remoteForwards.lookup token = some listener) :
      ProcessStep requests responses p l (.accept token)
        { p with
          state := { p.state with
            remoteForwards :=
              p.state.remoteForwards.insert token { listener with accepting := false } } } l
  | exit {p : Process} {l : Link} (hrun : p.running = true) :
      ProcessStep requests responses p l .exit { p with running := false } l.closeExecutor

/-! ## The system -/

structure System where
  client : Client
  link : Link
  process : Process

/-- The state that `ExecutorClient::spawn` leaves. -/
def System.new (hello : ExecutorHello) : System := ⟨.new, ⟨.new, .new⟩, .new hello⟩

inductive SystemEvent
  | client (e : ClientEvent)
  | process (e : ProcessEvent)

inductive SystemStep (requests : SerdeJson ExecutorRequest)
    (responses : SerdeJson ExecutorResponse) : System → SystemEvent → System → Prop
  | client {s : System} {e : ClientEvent} {d : Daemon}
      (hs : ClientStep requests responses ⟨s.client, s.link⟩ e d) :
      SystemStep requests responses s (.client e) ⟨d.client, d.link, s.process⟩
  | process {s : System} {e : ProcessEvent} {p : Process} {l : Link}
      (hs : ProcessStep requests responses s.process s.link e p l) :
      SystemStep requests responses s (.process e) ⟨s.client, l, p⟩

/-- The runs of the daemon and its executor. -/
abbrev SystemRun (requests : SerdeJson ExecutorRequest) (responses : SerdeJson ExecutorResponse)
    (hello : ExecutorHello) : List SystemEvent → System → Prop :=
  Run (· = System.new hello) (SystemStep requests responses)

/-! ## The executor as a peer -/

inductive PeerEvent
  | deliver (d : Datagram Fd)
  | consume
  | close

/-- What any process at the other end of the channel can do: write a message of any kind, read
one, close. -/
inductive PeerStep : Link → PeerEvent → Link → Prop
  | deliver {l : Link} {d : Datagram Fd} (hopen : l.toClient.writerGone = false) :
      PeerStep l (.deliver d)
        { l with toClient := { l.toClient with queue := l.toClient.queue ++ [d] } }
  | consume {l : Link} {d : Datagram Fd} {rest : List (Datagram Fd)}
      (hq : l.toExecutor.queue = d :: rest) :
      PeerStep l .consume { l with toExecutor := { l.toExecutor with queue := rest } }
  | close {l : Link} : PeerStep l .close l.closeExecutor

inductive DaemonEvent
  | client (e : ClientEvent)
  | peer (e : PeerEvent)

inductive DaemonStep (requests : SerdeJson ExecutorRequest)
    (responses : SerdeJson ExecutorResponse) : Daemon → DaemonEvent → Daemon → Prop
  | client {d d' : Daemon} {e : ClientEvent} (hs : ClientStep requests responses d e d') :
      DaemonStep requests responses d (.client e) d'
  | peer {d : Daemon} {e : PeerEvent} {l : Link} (hs : PeerStep d.link e l) :
      DaemonStep requests responses d (.peer e) ⟨d.client, l⟩

/-- The runs of the daemon against any peer. -/
abbrev DaemonRun (requests : SerdeJson ExecutorRequest) (responses : SerdeJson ExecutorResponse) :
    List DaemonEvent → Daemon → Prop :=
  Run (· = Daemon.new) (DaemonStep requests responses)

variable {requests : SerdeJson ExecutorRequest} {responses : SerdeJson ExecutorResponse}
  {e : ProcessEvent} {p p' : Process} {l l' : Link}

/-- **Whatever the executor does is something a peer can do, or nothing the daemon sees.** -/
theorem ProcessStep.peer (hs : ProcessStep requests responses p l e p' l')
    (hopen : l.toClient.writerGone = false) : l' = l ∨ ∃ e', PeerStep l e' l' := by
  have hread : ∀ {result} {pipe : Pipe Fd} {reception},
      ControlReader.recv requests reception l.toExecutor = some (result, pipe) →
      ({ l with toExecutor := pipe } : Link) = l ∨
        ∃ e', PeerStep l e' { l with toExecutor := pipe } := by
    intro result pipe reception hrecv
    rcases recv_eq_some hrecv with ⟨d, rest, hq, rfl⟩ | ⟨rfl, -⟩
    · exact Or.inr ⟨_, .consume hq⟩
    · exact Or.inl rfl
  have hwrite : ∀ {packet} {fault} {pipe : Pipe Fd},
      ControlWriter.send responses fault l.toClient packet = .ok pipe →
      ∃ e', PeerStep l e' { l with toClient := pipe } := by
    intro packet fault pipe hsend
    obtain ⟨-, d, -, rfl⟩ := send_eq_ok hsend
    exact ⟨_, .deliver hopen⟩
  cases hs with
  | receive _ _ hrecv => exact hread hrecv
  | receiveFails _ _ hrecv => exact hread hrecv
  | handle => exact Or.inl rfl
  | reply _ _ hsend => exact Or.inr (hwrite hsend)
  | replyFails => exact Or.inr ⟨_, .close⟩
  | accept _ _ _ hsend => exact Or.inr (hwrite hsend)
  | acceptEnds => exact Or.inl rfl
  | exit => exact Or.inr ⟨_, .close⟩

/-- The daemon never closes its ends. -/
theorem ClientStep.writerGone {d d' : Daemon} {e : ClientEvent}
    (hs : ClientStep requests responses d e d') :
    d'.link.toClient.writerGone = d.link.toClient.writerGone := by
  cases hs with
  | receive _ hrecv => exact (recv_pipe hrecv).2
  | receiveFails _ hrecv => exact (recv_pipe hrecv).2
  | _ => rfl

/-- While the executor runs, its end is open. -/
theorem ProcessStep.writerGone (hs : ProcessStep requests responses p l e p' l')
    (hrun : p'.running = true) :
    p.running = true ∧ l'.toClient.writerGone = l.toClient.writerGone := by
  have hwrite : ∀ {packet} {fault} {pipe : Pipe Fd},
      ControlWriter.send responses fault l.toClient packet = .ok pipe →
      pipe.writerGone = l.toClient.writerGone := by
    intro packet fault pipe hsend
    obtain ⟨-, d, -, rfl⟩ := send_eq_ok hsend
    rfl
  cases hs with
  | receive hp => exact ⟨hp, rfl⟩
  | receiveFails hp => exact ⟨hp, rfl⟩
  | handle hp => exact ⟨hp, rfl⟩
  | reply hp _ hsend => exact ⟨hp, hwrite hsend⟩
  | replyFails => cases hrun
  | accept hp _ _ hsend => exact ⟨hp, hwrite hsend⟩
  | acceptEnds hp => exact ⟨hp, rfl⟩
  | exit => cases hrun

/-- No step is left to an executor that has exited. -/
theorem ProcessStep.running (hs : ProcessStep requests responses p l e p' l') :
    p.running = true := by
  cases hs <;> assumption

variable {hello : ExecutorHello} {h : List SystemEvent} {s : System}

theorem SystemRun.writerGone (hr : SystemRun requests responses hello h s) :
    s.process.running = true → s.link.toClient.writerGone = false := by
  refine Run.invariant
    (P := fun _ s => s.process.running = true → s.link.toClient.writerGone = false) ?_ ?_ hr
  · rintro s rfl _
    rfl
  · intro h s e s' _ ih hs hrun
    cases hs with
    | client hs => rw [hs.writerGone]; exact ih hrun
    | process hs =>
        obtain ⟨hp, heq⟩ := hs.writerGone hrun
        rw [heq]
        exact ih hp

/-- **A run of the system is, for the daemon, a run against a peer.** -/
theorem SystemRun.daemonRun (hr : SystemRun requests responses hello h s) :
    ∃ h', DaemonRun requests responses h' ⟨s.client, s.link⟩ := by
  refine Run.invariant
    (P := fun _ s => ∃ h', DaemonRun requests responses h' ⟨s.client, s.link⟩) ?_ ?_ hr
  · rintro s rfl
    exact ⟨[], .nil rfl⟩
  · rintro h s e s' hr ⟨h', hd⟩ hs
    cases hs with
    | client hs => exact ⟨_, hd.cons (.client hs)⟩
    | process hs =>
        rcases hs.peer (SystemRun.writerGone hr hs.running) with heq | ⟨e', hpeer⟩
        · rw [heq]
          exact ⟨h', hd⟩
        · have hstep : DaemonStep requests responses ⟨s.client, s.link⟩ (.peer e') _ := .peer hpeer
          exact ⟨_, hd.cons hstep⟩

/-! ## How far a request gets -/

/-- What the call `c` does up to the send of its request, the newest event first. -/
def requestEvents (c : CallId) (op : Operation) : List SystemEvent :=
  [.client (.send c), .client (.insert c), .client (.build c), .client (.drawId c),
    .client (.begin c op)]

/-- **While the executor's end is open, any call can send its request.** -/
theorem SystemRun.request (hr : SystemRun requests responses hello h s) {c : CallId}
    {op : Operation} {payload : List UInt8} (hidle : s.client.calls c = .idle)
    (hop : op.opensChannel = true) (htoken : op.drawsToken = false)
    (hopen : s.link.toExecutor.readerGone = false)
    (hvec : requests.toVec (op.request s.client.nextRequestId 0) = .ok payload) :
    ∃ client', SystemRun requests responses hello (requestEvents c op ++ h)
        ⟨client', { s.link with toExecutor := { s.link.toExecutor with
          queue := s.link.toExecutor.queue ++ [⟨payload, [.service s.client.nextChannel]⟩] } },
          s.process⟩ ∧
      client'.reader = s.client.reader ∧
      client'.pending = s.client.pending.insert s.client.nextRequestId c ∧
      client'.nextRequestId = s.client.nextRequestId + 1 ∧
      client'.calls c = .awaiting ⟨op, some ⟨s.client.nextChannel⟩, s.client.nextRequestId, 0⟩ ∧
      ∀ c' ≠ c, client'.calls c' = s.client.calls c' := by
  have hsend : ControlWriter.send requests none s.link.toExecutor
      (⟨op, some ⟨s.client.nextChannel⟩, s.client.nextRequestId, 0⟩ : Issued).packet =
      .ok { s.link.toExecutor with
        queue := s.link.toExecutor.queue ++ [⟨payload, [.service s.client.nextChannel]⟩] } := by
    simp [ControlWriter.send, Issued.packet, encodeMessage, hvec, Except.bind, sendmsg, hopen,
      withContext]
  have hopened := hr.cons (.client (.openChannel hidle hop))
  have hnumbered := hopened.cons (.client (.drawId (Client.setCall_calls_self ..)))
  have hbuilt := hnumbered.cons (.client (.build (Client.setCall_calls_self ..) htoken))
  have hregistered := hbuilt.cons (.client (.insert (Client.setCall_calls_self ..)))
  have hsent := hregistered.cons (.client (.send (Client.setCall_calls_self ..) hsend))
  refine ⟨_, hsent, rfl, rfl, rfl, Client.setCall_calls_self .., ?_⟩
  intro c' hne
  simp [Client.setCall, Client.register, hne]

/-- A daemon that asks for one connection, up to the point where the executor has answered. -/
theorem SystemRun.connect (hello : ExecutorHello) {host : Text}
    (hfits : Fits requestJson (.connectTcp 1 host 80)) (os : Surroundings) :
    ∃ client dg,
      SystemRun requestJson responseJson hello
        (.process .reply :: .process (.handle os) :: .process .receive ::
          requestEvents 0 (.connectTcp host 80))
        ⟨client, ⟨.new, ⟨[dg], false, false⟩⟩, { Process.new hello with
          handled := [(1, ExecutorState.connectTcp os host 80 (some (.service 0)))] }⟩ ∧
      Carries responseJson dg ⟨sendRequestResult 1
        (ExecutorState.connectTcp os host 80 (some (.service 0))), none⟩ ∧
      client.reader = .running ∧ client.pending = AList.insert 1 0 ∅ ∧
      client.nextRequestId = 2 ∧
      client.calls 0 = .awaiting ⟨.connectTcp host 80, some ⟨0⟩, 1, 0⟩ ∧
      ∀ c ≠ 0, client.calls c = .idle := by
  have hnew : SystemRun requestJson responseJson hello [] (System.new hello) := .nil rfl
  obtain ⟨payload, hvec⟩ : ∃ payload, requestJson.toVec
      ((Operation.connectTcp host 80).request (System.new hello).client.nextRequestId 0) =
        .ok payload := ⟨_, rfl⟩
  have hidle : (System.new hello).client.calls 0 = .idle := rfl
  have hop : (Operation.connectTcp host 80).opensChannel = true := rfl
  obtain ⟨client, hsent, hreader, hpending, hid, hcall, hothers⟩ :=
    SystemRun.request hnew hidle hop rfl rfl hvec
  have hcarries : Carries requestJson (⟨payload, [.service 0]⟩ : Datagram Fd)
      ⟨.connectTcp 1 host 80, some (.service 0)⟩ := ⟨hvec, rfl⟩
  have hread : SystemRun requestJson responseJson hello _
      ⟨client, ⟨.new, .new⟩, { Process.new hello with
        requests := [⟨.connectTcp 1 host 80, some (.service 0)⟩] }⟩ :=
    hsent.cons (.process (.receive rfl rfl (recv_of_fits requestJson_lawful rfl hcarries hfits)))
  obtain ⟨result, hresult⟩ : ∃ result,
      ExecutorState.connectTcp os host 80 (some (.service 0)) = result := ⟨_, rfl⟩
  have hhandled : SystemRun requestJson responseJson hello
      (.process (.handle os) :: .process .receive :: requestEvents 0 (.connectTcp host 80))
      ⟨client, ⟨.new, .new⟩, { Process.new hello with
        reply := some (sendRequestResult 1 result)
        handled := [(1, result)] }⟩ := by
    subst hresult
    have hq : ({ Process.new hello with
        requests := [⟨.connectTcp 1 host 80, some (.service 0)⟩] } : Process).requests =
          ⟨.connectTcp 1 host 80, some (.service 0)⟩ :: [] := rfl
    exact hread.cons (.process (.handle rfl rfl hq))
  obtain ⟨text, htext⟩ : ∃ text, responseJson.toVec (sendRequestResult 1 result) = .ok text :=
    ⟨_, rfl⟩
  have hsend : ControlWriter.send responseJson none (Pipe.new : Pipe Fd)
      ⟨sendRequestResult 1 result, none⟩ = .ok ⟨[⟨text, []⟩], false, false⟩ := by
    simp [ControlWriter.send, encodeMessage, htext, Except.bind, sendmsg, withContext, Pipe.new]
  have hreplied := hhandled.cons (.process (.reply rfl rfl hsend))
  rw [hresult]
  exact ⟨client, ⟨text, []⟩, hreplied, ⟨htext, rfl⟩, hreader, hpending, hid, hcall, hothers⟩

end Narrowd.Executor
