import Narrowd.Lib.Run
import Narrowd.Basic.AnyError
import Narrowd.Executor.Messages

set_option autoImplicit false

/-! # The control channel between the daemon and its executor

Messages travel as datagrams of a `SEQPACKET` socket pair: the JSON text of the message, and with
it at most one file descriptor. `ControlWriter.send` writes a text of any length, while
`ControlReader.recv` reads into a buffer of 64 KiB and the kernel drops what does not fit, as it
does with a descriptor that the process has no room for. A message arrives as it was sent exactly
when its text fits the buffer and its descriptor is taken (`round_trip_iff_arrives`); the first one
that does not, and a receive that fails, stop the reading loop of the peer.
-/

namespace Narrowd.Executor

open Lib

def maxControlMessageSize : Nat := 64 * 1024

section

variable {T F : Type}

/-! ## The JSON library -/

/-- `serde_json` on the values of a message type. The errors are its error texts. -/
structure SerdeJson (T : Type) where
  toVec : T → Except String (List UInt8)
  fromSlice : List UInt8 → Except String T

/-- What `serde_json` is relied on for: decoding undoes encoding, a text that has been cut off is
not a text, and no text is empty. -/
structure SerdeJson.Lawful (json : SerdeJson T) : Prop where
  fromSlice_toVec : ∀ m b, json.toVec m = .ok b → json.fromSlice b = .ok m
  fromSlice_part : ∀ m part rest, json.toVec m = .ok (part ++ rest) → rest ≠ [] →
    ∃ err, json.fromSlice part = .error err
  toVec_ne_nil : ∀ m, json.toVec m ≠ .ok []

def encodeMessage (json : SerdeJson T) (message : T) (context : String) :
    Except AnyError (List UInt8) :=
  match json.toVec message with
  | .ok payload => .ok payload
  | .error err => .error ⟨context, [err]⟩

def decodeMessage (json : SerdeJson T) (payload : List UInt8) (context : String) :
    Except AnyError T :=
  match json.fromSlice payload with
  | .ok message => .ok message
  | .error err => .error ⟨context, [err]⟩

/-! ## The socket -/

/-- One message of the socket: its bytes and the descriptors that travel with them. -/
structure Datagram (F : Type) where
  bytes : List UInt8
  fds : List F
  deriving DecidableEq

/-- One direction of the socket pair: what has been written and not yet been read, and which of
the two ends has been closed. -/
structure Pipe (F : Type) where
  queue : List (Datagram F)
  readerGone : Bool
  writerGone : Bool
  deriving DecidableEq

/-- A direction of a new socket pair. -/
def Pipe.new : Pipe F := ⟨[], false, false⟩

/-- `sendmsg`: it fails when the reading end is closed, or with a `fault` of the kernel's. -/
def sendmsg (fault : Option IoError) (pipe : Pipe F) (d : Datagram F) : Except IoError (Pipe F) :=
  if pipe.readerGone then .error ⟨.other, "EPIPE: Broken pipe"⟩
  else
    match fault with
    | some err => .error err
    | none => .ok { pipe with queue := pipe.queue ++ [d] }

/-- What `recvmsg` reports. -/
structure ReceivedMsg (F : Type) where
  bytes : List UInt8
  fds : List F
  ctrunc : Bool

/-- How the kernel meets a `recvmsg`: with an error, or with a table of the process that has room
for `free` more descriptors. -/
inductive Reception
  | failed (err : IoError)
  | room (free : Nat)

/-- The call does not fail, and there is room for these descriptors. -/
def Reception.Takes (fds : List F) : Reception → Prop
  | .failed _ => False
  | .room free => fds.length ≤ free

/-- `recvmsg` into a buffer of `size` bytes, with space for the numbers of `space` descriptors. Of a
longer message the rest is dropped; only lost descriptors are flagged. With nothing to read it waits
(`none`), unless the writing end is closed. -/
def recvmsg (reception : Reception) (size space : Nat) (pipe : Pipe F) :
    Option (Except IoError (ReceivedMsg F) × Pipe F) :=
  match reception, pipe.queue with
  | .failed err, _ => some (.error err, pipe)
  | .room free, d :: rest =>
      some (.ok ⟨d.bytes.take size, d.fds.take (min space free),
        decide (min space free < d.fds.length)⟩, { pipe with queue := rest })
  | .room _, [] => if pipe.writerGone then some (.ok ⟨[], [], false⟩, pipe) else none

/-! ## Sending and receiving -/

structure TransportPacket (T F : Type) where
  message : T
  attachedFd : Option F
  deriving DecidableEq

/-- The first descriptor is kept; any other one is closed and remembered. -/
def collectFds (fds : List F) : Option F × Bool :=
  fds.foldl (fun (acc : Option F × Bool) fd =>
    match acc.1 with
    | none => (some fd, acc.2)
    | some first => (some first, true)) (none, false)

def ControlReader.recv (json : SerdeJson T) (reception : Reception) (pipe : Pipe F) :
    Option (Except AnyError (TransportPacket T F) × Pipe F) :=
  (recvmsg reception maxControlMessageSize 8 pipe).map fun (received, pipe) =>
    let result : Except AnyError (TransportPacket T F) :=
      (withContext "failed to receive executor control message" received).bind fun message =>
        if message.bytes.length = 0 then
          .error ⟨"executor control channel reached EOF", []⟩
        else if message.ctrunc then
          .error ⟨"executor control ancillary data was truncated", []⟩
        else
          let (attachedFd, sawExtraFd) := collectFds message.fds
          if sawExtraFd then
            .error ⟨"executor control message carried more than one attached fd", []⟩
          else
            (decodeMessage json message.bytes "failed to decode executor control message").bind
              fun decoded => .ok ⟨decoded, attachedFd⟩
    (result, pipe)

def ControlWriter.send (json : SerdeJson T) (fault : Option IoError) (pipe : Pipe F)
    (packet : TransportPacket T F) : Except AnyError (Pipe F) :=
  (encodeMessage json packet.message "failed to encode executor control message").bind
    fun payload =>
      match packet.attachedFd with
      | some fd =>
          withContext "failed to send executor control message with fd"
            (sendmsg fault pipe ⟨payload, [fd]⟩)
      | none =>
          withContext "failed to send executor control message"
            (sendmsg fault pipe ⟨payload, []⟩)

/-! ## What a datagram carries -/

/-- The datagram `d` is what `send` writes for `packet`. -/
structure Carries (json : SerdeJson T) (d : Datagram F) (packet : TransportPacket T F) : Prop where
  bytes : json.toVec packet.message = .ok d.bytes
  fds : d.fds = packet.attachedFd.toList

/-- The text of the message fits the reader's buffer. -/
def Fits (json : SerdeJson T) (message : T) : Prop :=
  ∀ payload, json.toVec message = .ok payload → payload.length ≤ maxControlMessageSize

/-- What a packet needs to be read: its descriptor is taken, and its text fits. -/
structure Arrives (json : SerdeJson T) (reception : Reception) (packet : TransportPacket T F) :
    Prop where
  taken : reception.Takes packet.attachedFd.toList
  fits : Fits json packet.message

variable {json : SerdeJson T} {pipe pipe' : Pipe F} {packet : TransportPacket T F}

/-- **A send that succeeds queues the packet's datagram.** -/
theorem send_eq_ok {fault : Option IoError}
    (h : ControlWriter.send json fault pipe packet = .ok pipe') :
    pipe.readerGone = false ∧
      ∃ d, Carries json d packet ∧ pipe' = { pipe with queue := pipe.queue ++ [d] } := by
  obtain ⟨payload, hpayload, hsend⟩ := bind_eq_ok h
  have hvec : json.toVec packet.message = .ok payload := by
    unfold encodeMessage at hpayload
    split at hpayload
    · next b hb => cases hpayload; exact hb
    · cases hpayload
  have hmsg : ∃ d, Carries json d packet ∧ sendmsg fault pipe d = .ok pipe' := by
    split at hsend
    · next fd hfd =>
        exact ⟨⟨payload, [fd]⟩, ⟨hvec, by rw [hfd]; rfl⟩, withContext_eq_ok.mp hsend⟩
    · next hfd =>
        exact ⟨⟨payload, []⟩, ⟨hvec, by rw [hfd]; rfl⟩, withContext_eq_ok.mp hsend⟩
  obtain ⟨d, hd, hok⟩ := hmsg
  unfold sendmsg at hok
  split at hok
  · cases hok
  · next hopen =>
      split at hok
      · cases hok
      · cases hok
        exact ⟨by simpa using hopen, d, hd, rfl⟩

variable {rest : List (Datagram F)}

/-- What the reader makes of the datagram at the head of the queue. -/
theorem recv_cons (json : SerdeJson T) (free : Nat) {d : Datagram F} (hq : pipe.queue = d :: rest) :
    ∃ result, ControlReader.recv json (.room free) pipe =
      some (result, { pipe with queue := rest }) := by
  unfold ControlReader.recv recvmsg
  rw [hq]
  exact ⟨_, rfl⟩

variable {result : Except AnyError (TransportPacket T F)}

/-- A read that does not fail takes the first datagram off the queue, or finds the writing end
closed. -/
theorem recv_room_eq_some {free : Nat}
    (h : ControlReader.recv json (.room free) pipe = some (result, pipe')) :
    (∃ d rest, pipe.queue = d :: rest ∧ pipe' = { pipe with queue := rest }) ∨
      (pipe.queue = [] ∧ pipe.writerGone = true ∧ pipe' = pipe ∧ ∃ err, result = .error err) := by
  cases hq : pipe.queue with
  | cons d rest =>
      obtain ⟨result', hr⟩ := recv_cons json free hq
      rw [hr] at h
      cases h
      exact Or.inl ⟨d, rest, rfl, rfl⟩
  | nil =>
      by_cases hgone : pipe.writerGone = true
      · simp [ControlReader.recv, recvmsg, withContext, Except.bind, hq, hgone] at h
        exact Or.inr ⟨rfl, hgone, h.2.symm, _, h.1.symm⟩
      · simp [ControlReader.recv, recvmsg, hq, hgone] at h

variable {reception : Reception}

/-- A read takes the first datagram off the queue, or fails. -/
theorem recv_eq_some (h : ControlReader.recv json reception pipe = some (result, pipe')) :
    (∃ d rest, pipe.queue = d :: rest ∧ pipe' = { pipe with queue := rest }) ∨
      (pipe' = pipe ∧ ∃ err, result = .error err) := by
  cases reception with
  | failed err =>
      cases h
      exact Or.inr ⟨rfl, _, rfl⟩
  | room free => exact (recv_room_eq_some h).imp_right fun hend => hend.2.2

/-- Reading puts nothing into the queue and leaves the writing end as it is. -/
theorem recv_pipe (h : ControlReader.recv json reception pipe = some (result, pipe')) :
    pipe'.queue ⊆ pipe.queue ∧ pipe'.writerGone = pipe.writerGone := by
  rcases recv_eq_some h with ⟨d, rest, hq, rfl⟩ | ⟨rfl, -⟩
  · rw [hq]
    exact ⟨List.subset_cons_self _ _, rfl⟩
  · exact ⟨List.Subset.refl _, rfl⟩

theorem collectFds_toList (fd : Option F) : collectFds fd.toList = (fd, false) := by
  cases fd <;> rfl

section

variable {json : SerdeJson T} {reception : Reception} {pipe pipe' : Pipe F} {d : Datagram F}
  {rest : List (Datagram F)} {packet : TransportPacket T F}

/-- The bytes that are read of a packet's datagram are not the end of the channel. -/
theorem Carries.read_ne_nil (hjson : json.Lawful) (hd : Carries json d packet) :
    ¬ (d.bytes.take maxControlMessageSize).length = 0 := by
  have hne : d.bytes ≠ [] := fun h => hjson.toVec_ne_nil packet.message (h ▸ hd.bytes)
  have := List.length_pos_of_ne_nil hne
  rw [List.length_take]
  simp only [maxControlMessageSize]
  omega

/-- A packet's datagram passes the checks on its descriptors, and the reader goes on to decode
the bytes that fit. -/
theorem recv_carries (hjson : json.Lawful) (hq : pipe.queue = d :: rest)
    (hd : Carries json d packet) (htakes : reception.Takes packet.attachedFd.toList) :
    ControlReader.recv json reception pipe =
      some ((decodeMessage json (d.bytes.take maxControlMessageSize)
          "failed to decode executor control message").bind
        (fun decoded => .ok ⟨decoded, packet.attachedFd⟩), { pipe with queue := rest }) := by
  cases reception with
  | failed err => exact htakes.elim
  | room free =>
      have hfew : d.fds.length ≤ min 8 free := by
        rw [hd.fds]
        refine Nat.le_min.mpr ⟨?_, htakes⟩
        cases packet.attachedFd <;> simp
      have hctrunc : decide (min 8 free < d.fds.length) = false :=
        decide_eq_false (Nat.not_lt.mpr hfew)
      have hfds : collectFds (d.fds.take (min 8 free)) = (packet.attachedFd, false) := by
        rw [List.take_of_length_le hfew, hd.fds, collectFds_toList]
      unfold ControlReader.recv recvmsg
      rw [hq]
      simp only [Option.map_some, withContext, Except.bind, if_neg (hd.read_ne_nil hjson), hctrunc,
        hfds, Bool.false_eq_true, if_false]

/-- **A message that fits, and whose descriptor is taken, arrives as it was sent.** -/
theorem recv_of_arrives (hjson : json.Lawful) (hq : pipe.queue = d :: rest)
    (hd : Carries json d packet) (h : Arrives json reception packet) :
    ControlReader.recv json reception pipe = some (.ok packet, { pipe with queue := rest }) := by
  have htake : d.bytes.take maxControlMessageSize = d.bytes :=
    List.take_of_length_le (h.fits d.bytes hd.bytes)
  have hdecode := hjson.fromSlice_toVec packet.message d.bytes hd.bytes
  rw [recv_carries hjson hq hd h.taken, htake, decodeMessage, hdecode]
  rfl

/-- Room for one descriptor is enough. -/
theorem recv_of_fits (hjson : json.Lawful) (hq : pipe.queue = d :: rest)
    (hd : Carries json d packet) (hfits : Fits json packet.message) :
    ControlReader.recv json (.room 1) pipe = some (.ok packet, { pipe with queue := rest }) :=
  recv_of_arrives hjson hq hd
    ⟨by cases packet.attachedFd <;> simp [Reception.Takes], hfits⟩

/-- **A message that does not fit is cut off, and what is left of it is no message.** -/
theorem recv_of_not_fits (hjson : json.Lawful) (hq : pipe.queue = d :: rest)
    (hd : Carries json d packet) (htakes : reception.Takes packet.attachedFd.toList)
    (hfits : ¬ Fits json packet.message) :
    ∃ cause, ControlReader.recv json reception pipe =
      some (.error ⟨"failed to decode executor control message", [cause]⟩,
        { pipe with queue := rest }) := by
  have hlong : maxControlMessageSize < d.bytes.length := by
    apply Nat.lt_of_not_le
    intro hle
    apply hfits
    intro payload hpayload
    have hsame : d.bytes = payload := Except.ok.inj (hd.bytes.symm.trans hpayload)
    exact hsame ▸ hle
  have hsplit : json.toVec packet.message =
      .ok (d.bytes.take maxControlMessageSize ++ d.bytes.drop maxControlMessageSize) := by
    rw [List.take_append_drop, hd.bytes]
  have hrest : d.bytes.drop maxControlMessageSize ≠ [] := by
    rw [Ne, List.drop_eq_nil_iff]
    omega
  obtain ⟨cause, herr⟩ := hjson.fromSlice_part _ _ _ hsplit hrest
  refine ⟨cause, ?_⟩
  rw [recv_carries hjson hq hd htakes, decodeMessage, herr]
  rfl

/-- A descriptor that is not taken, like a call that fails, is an error of the reader. -/
theorem recv_of_not_takes (hjson : json.Lawful) (hq : pipe.queue = d :: rest)
    (hd : Carries json d packet) (htakes : ¬ reception.Takes packet.attachedFd.toList) :
    ∃ err pipe', ControlReader.recv json reception pipe = some (.error err, pipe') := by
  cases reception with
  | failed err => exact ⟨_, _, rfl⟩
  | room free =>
      have hlost : free < d.fds.length := by
        rw [hd.fds]
        exact Nat.lt_of_not_le htakes
      have hctrunc : decide (min 8 free < d.fds.length) = true :=
        decide_eq_true (Nat.lt_of_le_of_lt (Nat.min_le_right _ _) hlost)
      unfold ControlReader.recv recvmsg
      rw [hq]
      simp only [Option.map_some, withContext, Except.bind, if_neg (hd.read_ne_nil hjson), hctrunc,
        if_true]
      exact ⟨_, _, rfl⟩

theorem recv_of_not_arrives (hjson : json.Lawful) (hq : pipe.queue = d :: rest)
    (hd : Carries json d packet) (h : ¬ Arrives json reception packet) :
    ∃ err pipe', ControlReader.recv json reception pipe = some (.error err, pipe') := by
  by_cases htakes : reception.Takes packet.attachedFd.toList
  · obtain ⟨cause, herr⟩ := recv_of_not_fits hjson hq hd htakes fun hfits => h ⟨htakes, hfits⟩
    exact ⟨_, _, herr⟩
  · exact recv_of_not_takes hjson hq hd htakes

/-- Of a packet's datagram the reader returns that packet or nothing. -/
theorem eq_of_recv_eq_ok {received : TransportPacket T F} (hjson : json.Lawful)
    (hq : pipe.queue = d :: rest) (hd : Carries json d packet)
    (h : ControlReader.recv json reception pipe = some (.ok received, pipe')) :
    received = packet ∧ pipe' = { pipe with queue := rest } := by
  by_cases harrives : Arrives json reception packet
  · rw [recv_of_arrives hjson hq hd harrives] at h
    cases h
    exact ⟨rfl, rfl⟩
  · obtain ⟨err, pipe'', herr⟩ := recv_of_not_arrives hjson hq hd harrives
    rw [herr] at h
    cases h

end

/-! ## The reading loop

The packets that have been sent and those the loop has handed on; `stopped` is the error at which
the loop has ended. Sends and reads may come in any order. -/

structure Traffic (T F : Type) where
  pipe : Pipe F
  sent : List (TransportPacket T F)
  received : List (TransportPacket T F)
  stopped : Option AnyError

inductive TrafficEvent (T F : Type)
  | send (packet : TransportPacket T F) (fault : Option IoError)
  | recv (reception : Reception)

def Traffic.start : Traffic T F := ⟨.new, [], [], none⟩

/-- One send or one round of the loop; the loop waits while there is nothing to read, and does
not go on after an error. -/
def Traffic.step (json : SerdeJson T) (s : Traffic T F) : TrafficEvent T F → Option (Traffic T F)
  | .send packet fault =>
      match ControlWriter.send json fault s.pipe packet with
      | .ok pipe => some { s with pipe := pipe, sent := s.sent ++ [packet] }
      | .error _ => some s
  | .recv reception =>
      if s.stopped.isSome then none
      else
        match ControlReader.recv json reception s.pipe with
        | none => none
        | some (.ok packet, pipe) =>
            some { s with pipe := pipe, received := s.received ++ [packet] }
        | some (.error err, pipe) => some { s with pipe := pipe, stopped := some err }

/-- The runs of a channel whose two ends stay open. -/
abbrev TrafficRun (json : SerdeJson T) : List (TrafficEvent T F) → Traffic T F → Prop :=
  Run (· = Traffic.start) (fun s e s' => s.step json e = some s')

/-- How the kernel met the reads of the loop, the newest first. -/
def receptions : List (TrafficEvent T F) → List Reception
  | [] => []
  | .recv reception :: h => reception :: receptions h
  | .send _ _ :: h => receptions h

/-- How often the loop has read. -/
def receives (h : List (TrafficEvent T F)) : Nat := (receptions h).length

/-- What the loop has read was read as it was sent. -/
def AllArrive (json : SerdeJson T) (h : List (TrafficEvent T F))
    (sent : List (TransportPacket T F)) : Prop :=
  List.Forall₂ (Arrives json) (receptions h) (sent.take (receives h)).reverse

/-- A loop that runs has handed on all it has read, and what is queued is what has been sent and
not yet read. -/
structure Going (json : SerdeJson T) (h : List (TrafficEvent T F)) (s : Traffic T F) : Prop where
  count : receives h ≤ s.sent.length
  queued : List.Forall₂ (Carries json) s.pipe.queue (s.sent.drop (receives h))
  received : s.received = s.sent.take (receives h)
  arrived : AllArrive json h s.sent

/-- **The invariant of the channel.** The loop has stopped at something that did not arrive,
whatever is sent later. -/
structure TrafficInv (json : SerdeJson T) (h : List (TrafficEvent T F)) (s : Traffic T F) :
    Prop where
  writerHere : s.pipe.writerGone = false
  going : s.stopped = none → Going json h s
  ended : s.stopped ≠ none → ∀ later, ¬ AllArrive json h (s.sent ++ later)

theorem trafficInv_start (json : SerdeJson T) :
    TrafficInv json [] (Traffic.start : Traffic T F) where
  writerHere := rfl
  going _ := ⟨Nat.le_refl _, .nil, rfl, .nil⟩
  ended h := absurd rfl h

theorem TrafficInv.send {json : SerdeJson T} {h : List (TrafficEvent T F)} {s s' : Traffic T F}
    {packet : TransportPacket T F} {fault : Option IoError} (hi : TrafficInv json h s)
    (hs : s.step json (.send packet fault) = some s') :
    TrafficInv json (.send packet fault :: h) s' := by
  simp only [Traffic.step] at hs
  split at hs
  · next pipe hsend =>
      cases hs
      obtain ⟨-, d, hd, rfl⟩ := send_eq_ok hsend
      refine ⟨hi.writerHere, fun hgo => ?_, fun hend later => ?_⟩
      · have hg := hi.going hgo
        -- the new packet stands behind everything the loop has read
        have htake : (s.sent ++ [packet]).take (receives h) = s.sent.take (receives h) :=
          List.take_append_of_le_length hg.count
        have hdrop : (s.sent ++ [packet]).drop (receives h) =
            s.sent.drop (receives h) ++ [packet] := List.drop_append_of_le_length hg.count
        refine ⟨?_, ?_, hg.received.trans htake.symm, ?_⟩
        · show receives h ≤ (s.sent ++ [packet]).length
          have := hg.count
          simp only [List.length_append]
          omega
        · show List.Forall₂ _ (s.pipe.queue ++ [d]) ((s.sent ++ [packet]).drop (receives h))
          rw [hdrop]
          exact List.rel_append hg.queued (List.Forall₂.cons hd List.Forall₂.nil)
        · show List.Forall₂ _ (receptions h) ((s.sent ++ [packet]).take (receives h)).reverse
          rw [htake]
          exact hg.arrived
      · show ¬ AllArrive json h (s.sent ++ [packet] ++ later)
        rw [List.append_assoc]
        exact hi.ended hend _
  · cases hs
    exact ⟨hi.writerHere, fun hgo => ⟨(hi.going hgo).1, (hi.going hgo).2, (hi.going hgo).3,
      (hi.going hgo).4⟩, hi.ended⟩

variable {h : List (TrafficEvent T F)} {s : Traffic T F}

/-- The datagram at the head of the queue carries the first packet the loop has not read. -/
theorem Going.head (hg : Going json h s) {d : Datagram F} (hq : s.pipe.queue = d :: rest) :
    ∃ packet, Carries json d packet ∧ receives h < s.sent.length ∧
      s.sent.take (receives h + 1) = s.sent.take (receives h) ++ [packet] ∧
      List.Forall₂ (Carries json) rest (s.sent.drop (receives h + 1)) := by
  have hqueued := hg.queued
  rw [hq] at hqueued
  obtain ⟨packet, later, hd, hlater, hdrop⟩ := List.forall₂_cons_left_iff.mp hqueued
  refine ⟨packet, hd, ?_, ?_, ?_⟩
  · apply Nat.lt_of_not_le
    intro hle
    rw [List.drop_eq_nil_of_le hle] at hdrop
    cases hdrop
  · rw [List.take_add_one, ← List.head?_drop, hdrop]
    rfl
  · rw [← List.drop_drop, hdrop]
    exact hlater

/-- A call that fails takes nothing, whatever is sent later. -/
theorem not_allArrive_failed (err : IoError) (sent : List (TransportPacket T F)) :
    ¬ AllArrive json (.recv (.failed err) :: h) sent := by
  intro hall
  obtain ⟨packet, -, harrives, -⟩ := List.forall₂_cons_left_iff.mp hall
  exact harrives.taken

/-- The reads before the last one, and the last one. -/
theorem allArrive_recv {sent : List (TransportPacket T F)}
    (htake : sent.take (receives h + 1) = sent.take (receives h) ++ [packet]) :
    AllArrive json (.recv reception :: h) sent ↔
      Arrives json reception packet ∧ AllArrive json h sent := by
  show List.Forall₂ _ (reception :: receptions h) (sent.take (receives h + 1)).reverse ↔ _
  rw [htake, List.reverse_append]
  exact List.forall₂_cons

/-- The loop reads only what has been queued, and only while it has not stopped. -/
theorem TrafficInv.recv (hjson : json.Lawful) {s' : Traffic T F} (hi : TrafficInv json h s)
    (hs : s.step json (.recv reception) = some s') : TrafficInv json (.recv reception :: h) s' := by
  simp only [Traffic.step] at hs
  split at hs
  · cases hs
  next hgoing =>
  have hg := hi.going (by simpa using hgoing)
  cases hq : s.pipe.queue with
  | nil =>
      -- only a call that fails returns while there is nothing to read
      cases reception with
      | room free =>
          have hwait : ControlReader.recv json (.room free) s.pipe = none := by
            simp [ControlReader.recv, recvmsg, hq, hi.writerHere]
          rw [hwait] at hs
          cases hs
      | failed err =>
          cases hs
          exact ⟨hi.writerHere, (fun hgo => nomatch hgo), fun _ _ => not_allArrive_failed err _⟩
  | cons d rest =>
      obtain ⟨packet, hd, hlt, htake, hrest⟩ := hg.head hq
      by_cases harrives : Arrives json reception packet
      · rw [recv_of_arrives hjson hq hd harrives] at hs
        cases hs
        refine ⟨hi.writerHere, fun _ => ⟨hlt, hrest, ?_, (allArrive_recv htake).mpr
          ⟨harrives, hg.arrived⟩⟩, fun hend => absurd (by simpa using hgoing) hend⟩
        show s.received ++ [packet] = s.sent.take (receives h + 1)
        rw [htake, hg.received]
      · obtain ⟨err, pipe, herr⟩ := recv_of_not_arrives hjson hq hd harrives
        have hwriter := (recv_pipe herr).2.trans hi.writerHere
        rw [herr] at hs
        cases hs
        refine ⟨hwriter, (fun hgo => nomatch hgo), fun _ later hall => ?_⟩
        have htake' : (s.sent ++ later).take (receives h + 1) =
            (s.sent ++ later).take (receives h) ++ [packet] := by
          rw [List.take_append_of_le_length hlt, htake, List.take_append_of_le_length hg.count]
        exact harrives ((allArrive_recv htake').mp hall).1

theorem trafficInv_of_run (hjson : json.Lawful) (hr : TrafficRun json h s) :
    TrafficInv json h s := by
  refine Run.invariant (P := TrafficInv json) ?_ ?_ hr
  · rintro s rfl
    exact trafficInv_start json
  · intro h s e s' _ hi hs
    cases e with
    | send packet fault => exact hi.send hs
    | recv reception => exact hi.recv hjson hs

/-- **The control channel is faithful exactly for messages that arrive**: the read does not fail, it
takes the descriptor, and the text fits the reader's buffer. The next read after a send returns the
packet sent if and only if that is so; and over any order of sends and reads the loop is still
running and has handed on everything it has read, in order and unchanged, if and only if it is so of
every read. -/
theorem round_trip_iff_arrives (json : SerdeJson T) (hjson : json.Lawful) :
    (∀ (fault : Option IoError) (reception : Reception) (pipe pipe' : Pipe F)
      (packet : TransportPacket T F),
      pipe.queue = [] → ControlWriter.send json fault pipe packet = .ok pipe' →
      ((∃ pipe'', ControlReader.recv json reception pipe' = some (.ok packet, pipe'')) ↔
        Arrives json reception packet)) ∧
    ∀ (h : List (TrafficEvent T F)) (s : Traffic T F), TrafficRun json h s →
      ((s.stopped = none ∧ s.received = s.sent.take (receives h)) ↔ AllArrive json h s.sent) := by
  constructor
  · intro fault reception pipe pipe' packet hempty hsend
    obtain ⟨-, d, hd, rfl⟩ := send_eq_ok hsend
    have hq : ({ pipe with queue := pipe.queue ++ [d] } : Pipe F).queue = d :: [] := by
      rw [hempty]
      rfl
    constructor
    · rintro ⟨pipe'', hrecv⟩
      by_contra harrives
      obtain ⟨err, _, herr⟩ := recv_of_not_arrives hjson hq hd harrives
      rw [herr] at hrecv
      cases hrecv
    · intro harrives
      exact ⟨_, recv_of_arrives hjson hq hd harrives⟩
  · intro h s hr
    have hi := trafficInv_of_run hjson hr
    constructor
    · rintro ⟨hgo, -⟩
      exact (hi.going hgo).arrived
    · intro hall
      have hgo : s.stopped = none := by
        by_contra hend
        refine hi.ended hend [] ?_
        rw [List.append_nil]
        exact hall
      exact ⟨hgo, (hi.going hgo).received⟩

end

/-! ## Compact JSON

The codecs of `Messages` as a `serde_json`. -/

section

variable {T : Type}

/-- Compact JSON in UTF-8. The error is the one for a text that ends inside a string. -/
def serdeJson (c : Codec T) : SerdeJson T where
  toVec m := .ok (c.toBytes m)
  fromSlice b :=
    match c.ofBytes b with
    | some m => .ok m
    | none => .error s!"EOF while parsing a string at line 1 column {b.length}"

theorem serdeJson_lawful {c : Codec T} (hc : c.bare = false) (hne : ∀ m, c.print m ≠ []) :
    (serdeJson c).Lawful where
  fromSlice_toVec m b h := by
    cases h
    simp [serdeJson, Codec.ofBytes_toBytes]
  fromSlice_part m part rest h hrest := by
    have hpart : part ++ rest = c.toBytes m := (Except.ok.inj h).symm
    simp [serdeJson, Codec.ofBytes_eq_none_of_proper hc hpart hrest]
  toVec_ne_nil m h := by
    have hbytes : c.toBytes m = [] := Except.ok.inj h
    have hlen := c.length_print_le_toBytes m
    rw [hbytes] at hlen
    exact hne m (List.eq_nil_of_length_eq_zero (Nat.le_zero.mp hlen))

end

def requestJson : SerdeJson ExecutorRequest := serdeJson Json.executorRequest

def responseJson : SerdeJson ExecutorResponse := serdeJson Json.executorResponse

theorem requestJson_lawful : requestJson.Lawful :=
  serdeJson_lawful rfl (fun m => by cases m <;> exact List.cons_ne_nil _ _)

theorem responseJson_lawful : responseJson.Lawful :=
  serdeJson_lawful rfl (fun m => by cases m <;> exact List.cons_ne_nil _ _)

/-- A request to connect to an ordinary host, with the descriptor `3`, arrives as it was sent. -/
theorem round_trip_connectTcp :
    ∃ pipe pipe' : Pipe Nat,
      ControlWriter.send requestJson none .new
        ⟨.connectTcp 7 "localhost".toList 22, some 3⟩ = .ok pipe ∧
      ControlReader.recv requestJson (.room 1) pipe =
        some (.ok ⟨.connectTcp 7 "localhost".toList 22, some 3⟩, pipe') := by
  have hfits : Fits requestJson (.connectTcp 7 "localhost".toList 22) := by
    intro payload hpayload
    cases hpayload
    decide
  obtain ⟨pipe', hrecv⟩ := ((round_trip_iff_arrives requestJson requestJson_lawful).1 none (.room 1)
    .new _ ⟨.connectTcp 7 "localhost".toList 22, some 3⟩ rfl rfl).mpr ⟨Nat.le_refl 1, hfits⟩
  exact ⟨_, pipe', rfl, hrecv⟩

/-- A host name of 64 KiB already fills the buffer. -/
theorem not_fits_of_long_host (id : UInt64) {host : Text} (port : UInt16)
    (hlong : maxControlMessageSize ≤ host.length) :
    ¬ Fits requestJson (.connectTcp id host port) := by
  intro hfits
  have hle := hfits _ rfl
  have hbytes := Json.executorRequest.length_print_le_toBytes (.connectTcp id host port)
  have hhost := Codec.length_le_print_str host
  rw [Json.print_connectTcp] at hbytes
  simp only [List.length_append] at hbytes
  omega

/-- The same holds of an error text in a response. -/
theorem not_fits_of_long_error (id : UInt64) {message : Text}
    (hlong : maxControlMessageSize ≤ message.length) :
    ¬ Fits responseJson (.requestErr id message) := by
  intro hfits
  have hle := hfits _ rfl
  have hbytes := Json.executorResponse.length_print_le_toBytes (.requestErr id message)
  have hmessage := Codec.length_le_print_str message
  rw [Json.print_requestErr] at hbytes
  simp only [List.length_append] at hbytes
  omega

/-- A request to connect to a host whose name takes 64 KiB. -/
def longHostRequest : ExecutorRequest := .connectTcp 7 (List.replicate 65536 'a') 22

/-- The request is sent without an error, and the executor's reading loop ends with one. -/
theorem long_host_stops_reader :
    ∃ pipe pipe' : Pipe Nat, ∃ cause : String,
      ControlWriter.send requestJson none .new ⟨longHostRequest, some 3⟩ = .ok pipe ∧
      ControlReader.recv requestJson (.room 1) pipe =
        some (.error ⟨"failed to decode executor control message", [cause]⟩, pipe') := by
  have hlong : ¬ Fits requestJson longHostRequest := by
    apply not_fits_of_long_host
    rw [List.length_replicate]
    exact Nat.le_refl _
  have hsend : ControlWriter.send requestJson none .new ⟨longHostRequest, some 3⟩ =
      .ok (⟨[⟨Json.executorRequest.toBytes longHostRequest, [3]⟩], false, false⟩ : Pipe Nat) := rfl
  obtain ⟨-, d, hd, hpipe⟩ := send_eq_ok hsend
  have htaken : (Reception.room 1).Takes [3] := Nat.le_refl 1
  obtain ⟨cause, herr⟩ := recv_of_not_fits requestJson_lawful (congrArg Pipe.queue hpipe) hd htaken
    hlong
  exact ⟨_, _, cause, hsend, herr⟩

end Narrowd.Executor
