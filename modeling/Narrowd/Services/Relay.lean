import Narrowd.Lib.Run
import Narrowd.Executor.Session

set_option autoImplicit false

/-! # From a child's output to the client's channel

In the executor one reader for each of the child's streams puts what it reads into a queue, a
waiter sends the exit status once, and the output loop selects between the two and writes a message
for each to the service stream. In the daemon `bridge_process_channel` reads the messages and writes
them to the client's channel. The loop goes on until the queue is closed *and* the status is there,
and the bridge keeps the status back until the stream ends.

The bytes that a child writes are fixed when it starts; everything else, how the reads cut them,
how far a write gets and who runs next, is the scheduler's choice.
-/

namespace Narrowd.Services

open Lib Executor

/-! ## The two processes -/

inductive ProcessStream
  | stdout
  | stderr
  deriving DecidableEq

def ProcessStream.message : ProcessStream → List UInt8 → ProcessOutput
  | .stdout, chunk => .stdout chunk
  | .stderr, chunk => .stderr chunk

/-- A reader (`read_process_stream`, `run_pty_reader`): the bytes that its stream still has for it,
and whether it holds its sender of the queue. -/
structure Reader where
  unread : List UInt8
  running : Bool

/-- Where the output loop is. While it sends, `encoded` says whether the message had an encoding; if
it had none, `send_session_message` can only fail. -/
inductive Phase
  | selecting
  | sending (encoded : Bool)
  /-- The loop has been left, and the exit status is being sent. -/
  | exiting (encoded : Bool)
  | shutting
  | ended
  deriving DecidableEq

/-- What the client receives on its channel. -/
inductive ChannelMsg
  | data (bytes : List UInt8)
  | extendedData (ext : UInt32) (bytes : List UInt8)
  | exitStatus (code : UInt32)
  | eof
  | close
  deriving DecidableEq

inductive BridgePhase
  | reading
  /-- The stream has ended, or a write has failed; what is still to be written. -/
  | closing (todo : List ChannelMsg)
  | failed (err : AnyError)

/-- `bridge_process_channel`, with what it has written. -/
structure Bridge where
  exitStatus : Option UInt32
  phase : BridgePhase
  channel : List ChannelMsg

structure Relay where
  reader : ProcessStream → Reader
  queue : List ProcessOutput
  /-- What the waiter has sent. -/
  exit : Option UInt32
  childExit : Option UInt32
  outputClosed : Bool
  phase : Phase
  /-- The bytes of the current message that have not been written yet. -/
  left : List UInt8
  /-- The bytes that have been written and not read. -/
  wire : List UInt8
  bridge : Bridge

def Relay.start (reader : ProcessStream → Reader) : Relay where
  reader := reader
  queue := []
  exit := none
  childExit := none
  outputClosed := false
  phase := .selecting
  left := []
  wire := []
  bridge := { exitStatus := none, phase := .reading, channel := [] }

section

variable (json : SerdeJson ProcessOutput)

/-- After the loop: the exit status is sent if it is known. -/
def Relay.leaveLoop (s : Relay) : Relay :=
  match s.childExit with
  | some code =>
      { s with
        phase := .exiting (beginSend (sendSessionMessage json) (.exitStatus code)).1
        left := (beginSend (sendSessionMessage json) (.exitStatus code)).2 }
  | none => { s with phase := .shutting, left := [] }

/-- A message that the bridge has read. -/
def Bridge.relay (b : Bridge) : ProcessOutput → Bridge
  | .stdout data => { b with channel := b.channel ++ [.data data] }
  | .stderr data => { b with channel := b.channel ++ [.extendedData 1 data] }
  | .exitStatus code => { b with exitStatus := some code }

/-- After the bridge's loop. -/
def Bridge.finish (b : Bridge) : Bridge :=
  { b with phase := .closing ((b.exitStatus.map ChannelMsg.exitStatus).toList ++ [.eof, .close]) }

/-- Whether a read has what it waits for; it waits on while the stream is open. -/
def frameComplete (wire : List UInt8) : Bool :=
  match (readFrame (1024 * 1024) (⟨[wire], none⟩ : Source UInt8 IoError)).1 with
  | .noLength _ | .noPayload _ => false
  | .tooLong _ | .payload _ => true

/-- The next read of the bridge, if it does not wait. -/
def Relay.nextMessage (s : Relay) :
    Option (Except AnyError (Option ProcessOutput) × Source UInt8 IoError) :=
  match s.bridge.phase with
  | .reading =>
      if s.phase = .ended ∨ frameComplete s.wire = true then
        some (readProcessMessage json ⟨[s.wire], none⟩)
      else none
  | _ => none

inductive RelayEvent
  | read (which : ProcessStream) (n : Nat)
  | readEnd (which : ProcessStream)
  | recv
  | exited
  | leave
  | write (n : Nat)
  | sent
  | sendFails
  | shutdown
  | waited (code : UInt32)
  | bridgeRead
  | bridgeSend
  | bridgeFails
  deriving DecidableEq

inductive RelayStep : Relay → RelayEvent → Relay → Prop
  | read {s : Relay} {which : ProcessStream} {n : Nat} (hrun : (s.reader which).running = true)
      (hpos : 0 < n) (hbuffer : n ≤ 8192) (hn : n ≤ (s.reader which).unread.length)
      (hphase : s.phase ≠ .ended) :
      RelayStep s (.read which n)
        { s with
          reader := Function.update s.reader which ⟨(s.reader which).unread.drop n, true⟩
          queue := s.queue ++ [which.message ((s.reader which).unread.take n)] }
  /-- The receiver of the queue is gone, and the reader stops. -/
  | readLast {s : Relay} {which : ProcessStream} {n : Nat}
      (hrun : (s.reader which).running = true) (hpos : 0 < n) (hbuffer : n ≤ 8192)
      (hn : n ≤ (s.reader which).unread.length) (hphase : s.phase = .ended) :
      RelayStep s (.read which n)
        { s with
          reader := Function.update s.reader which ⟨(s.reader which).unread.drop n, false⟩ }
  | readEnd {s : Relay} {which : ProcessStream} (hrun : (s.reader which).running = true)
      (hend : (s.reader which).unread = []) :
      RelayStep s (.readEnd which) { s with reader := Function.update s.reader which ⟨[], false⟩ }
  | recv {s : Relay} {output : ProcessOutput} {rest : List ProcessOutput}
      (hphase : s.phase = .selecting) (hopen : s.outputClosed = false)
      (hqueue : s.queue = output :: rest) :
      RelayStep s .recv
        { s with
          queue := rest
          phase := .sending (beginSend (sendSessionMessage json) output).1
          left := (beginSend (sendSessionMessage json) output).2 }
  /-- The queue is empty and every sender of it is gone. -/
  | recvNone {s : Relay} (hphase : s.phase = .selecting) (hopen : s.outputClosed = false)
      (hqueue : s.queue = []) (hreaders : ∀ which, (s.reader which).running = false) :
      RelayStep s .recv { s with outputClosed := true }
  | exited {s : Relay} {code : UInt32} (hphase : s.phase = .selecting)
      (hnone : s.childExit = none) (hexit : s.exit = some code) :
      RelayStep s .exited { s with childExit := some code }
  | leave {s : Relay} (hphase : s.phase = .selecting) (hclosed : s.outputClosed = true)
      (hexit : s.childExit.isSome = true) :
      RelayStep s .leave (s.leaveLoop json)
  | write {s : Relay} {n : Nat} (hpos : 0 < n) (hn : n ≤ s.left.length) :
      RelayStep s (.write n) { s with left := s.left.drop n, wire := s.wire ++ s.left.take n }
  | sent {s : Relay} (hphase : s.phase = .sending true) (hleft : s.left = []) :
      RelayStep s .sent { s with phase := .selecting }
  | sentExit {s : Relay} (hphase : s.phase = .exiting true) (hleft : s.left = []) :
      RelayStep s .sent { s with phase := .shutting }
  | sendFails {s : Relay} {encoded : Bool} (hphase : s.phase = .sending encoded) :
      RelayStep s .sendFails (s.leaveLoop json)
  | sendExitFails {s : Relay} {encoded : Bool} (hphase : s.phase = .exiting encoded) :
      RelayStep s .sendFails { s with phase := .shutting, left := [] }
  | shutdown {s : Relay} (hphase : s.phase = .shutting) :
      RelayStep s .shutdown { s with phase := .ended }
  | waited {s : Relay} {code : UInt32} (hexit : s.exit = none) :
      RelayStep s (.waited code) { s with exit := some code }
  | bridgeRead {s : Relay} {message : ProcessOutput} {r : Source UInt8 IoError}
      (hnext : s.nextMessage json = some (.ok (some message), r)) :
      RelayStep s .bridgeRead { s with wire := r.bytes, bridge := s.bridge.relay message }
  | bridgeEnd {s : Relay} {r : Source UInt8 IoError}
      (hnext : s.nextMessage json = some (.ok none, r)) :
      RelayStep s .bridgeRead { s with wire := r.bytes, bridge := s.bridge.finish }
  | bridgeError {s : Relay} {err : AnyError} {r : Source UInt8 IoError}
      (hnext : s.nextMessage json = some (.error err, r)) :
      RelayStep s .bridgeRead
        { s with wire := r.bytes, bridge := { s.bridge with phase := .failed err } }
  /-- The message was output, and the channel did not take it. -/
  | bridgeFails {s : Relay} {which : ProcessStream} {data : List UInt8}
      {r : Source UInt8 IoError}
      (hnext : s.nextMessage json = some (.ok (some (which.message data)), r)) :
      RelayStep s .bridgeFails { s with wire := r.bytes, bridge := s.bridge.finish }
  | bridgeSend {s : Relay} {message : ChannelMsg} {todo : List ChannelMsg}
      (hphase : s.bridge.phase = .closing (message :: todo)) :
      RelayStep s .bridgeSend
        { s with
          bridge := { s.bridge with
            phase := .closing todo
            channel := s.bridge.channel ++ [message] } }
  | bridgeSendFails {s : Relay} {message : ChannelMsg} {todo : List ChannelMsg}
      (hphase : s.bridge.phase = .closing (message :: todo)) :
      RelayStep s .bridgeFails { s with bridge := { s.bridge with phase := .closing todo } }

/-- No write to the service stream or to the channel fails. -/
def RelayEvent.Succeeds : RelayEvent → Prop
  | .sendFails | .bridgeFails => False
  | _ => True

end

end Narrowd.Services
