import Narrowd.Services.EndOfInput
import Narrowd.Sshd.Channels

set_option autoImplicit false

/-! # From the client's channel to a child's input

In the daemon `handle_process_input` (`sshd.rs`) takes the messages of the client's channel one by
one and writes a `ProcessInput` for each to the service stream. In the executor the input task of
the service (`Services/Piped.lean`, `Services/Pty.lean`) reads them. Between the two is a stream of
bytes: any write may fail after a part of its message, the bridge may abort the daemon's task at any
point of it, and the executor's reader may stop.

What the executor reads is always a beginning of what the client's messages ask for, up to and with
the first `Close` (`asked`), and so is what reaches the child's input. If nothing fails and the
reader comes to the end of the stream, it has read all of it.
-/

namespace Narrowd.Sshd.InputTask

open Lib Executor Executor.Json Services Channels

/-! ## Translating messages -/

/-- `russh::Sig`. -/
inductive Sig
  | ABRT | ALRM | FPE | HUP | ILL | INT | KILL | PIPE | QUIT | SEGV | TERM | USR1
  | Custom (name : Text)
  deriving DecidableEq

def mapSignal : Sig → Option ExecutorSignal
  | .ABRT => some .abrt
  | .ALRM => some .alrm
  | .FPE => some .fpe
  | .HUP => some .hup
  | .ILL => some .ill
  | .INT => some .int
  | .KILL => some .kill
  | .PIPE => some .pipe
  | .QUIT => some .quit
  | .SEGV => some .segv
  | .TERM => some .term
  | .USR1 => some .usr1
  | .Custom _ => none

/-- `russh::ChannelMsg`, as far as `handle_process_input` tells its values apart. -/
inductive Msg
  | data (bytes : List UInt8)
  | signal (sig : Sig)
  | windowChange (colWidth rowHeight pixWidth pixHeight : UInt32)
  | eof
  | close
  | other
  deriving DecidableEq

/-- What is sent to the executor for a message. -/
def Msg.toInput : Msg → Option ProcessInput
  | .data bytes => some (.data bytes)
  | .signal sig => (mapSignal sig).map .signal
  | .windowChange colWidth rowHeight pixWidth pixHeight =>
      some (.resize
        { rows := clampDimension rowHeight
          cols := clampDimension colWidth
          pixelWidth := clampDimension pixWidth
          pixelHeight := clampDimension pixHeight })
  | .eof => some .eof
  | .close => some .close
  | .other => none

/-- What the messages of the client ask for. Nothing counts after a `Close`. -/
def asked : List Msg → List ProcessInput
  | [] => []
  | m :: ms => m.toInput.toList ++ if m = .close then [] else asked ms

/-! ## The two processes -/

/-- Where `handle_process_input` is. While it sends, `encoded` says whether the message had an
encoding. -/
inductive Phase
  | waiting
  | sending (message : ProcessInput) (encoded : Bool)
  | shutting
  | ended
  deriving DecidableEq

structure Input where
  /-- The messages that `wait()` has yet to return, and whether it returns `None` after them. -/
  channel : List Msg
  channelEnded : Bool
  phase : Phase
  /-- The bytes of the current message that have not been written yet. -/
  left : List UInt8
  /-- The bytes that have been written and not read. -/
  wire : List UInt8
  /-- The daemon's side of the stream is closed. -/
  closed : Bool
  /-- The executor's task reads, or it has come to the end of the stream. -/
  reading : Bool
  atEnd : Bool
  /-- What the executor has read, and what the client has sent. -/
  received : List ProcessInput
  sent : List Msg

def Input.start : Input where
  channel := []
  channelEnded := false
  phase := .waiting
  left := []
  wire := []
  closed := false
  reading := true
  atEnd := false
  received := []
  sent := []

inductive InputEvent
  | arrive (m : Msg)
  | channelEnds
  | take
  | write (n : Nat)
  | sent
  | sendFails
  | shutdown
  | shutdownFails
  | abort
  | hangUp
  | receive
  | stop
  deriving DecidableEq

/-- Where a message leads that was sent, and one that was not. -/
def afterSent (message : ProcessInput) : Phase := if message = .close then .shutting else .waiting

def afterFailure (message : ProcessInput) : Phase := if message = .close then .shutting else .ended

section

variable (json : SerdeJson ProcessInput)

/-- The next read of the executor's task, if it does not wait. -/
def Input.nextMessage (s : Input) :
    Option (Except AnyError (Option ProcessInput) × Source UInt8 IoError) :=
  if s.reading = true ∧ (s.closed = true ∨ frameComplete s.wire = true) then
    some (readSessionMessage json ⟨[s.wire], none⟩)
  else none

inductive InputStep : Input → InputEvent → Input → Prop
  | arrive {s : Input} {m : Msg} (hopen : s.channelEnded = false) :
      InputStep s (.arrive m) { s with channel := s.channel ++ [m], sent := s.sent ++ [m] }
  | channelEnds {s : Input} : InputStep s .channelEnds { s with channelEnded := true }
  /-- A message that is not passed on. -/
  | skip {s : Input} {m : Msg} {rest : List Msg} (hphase : s.phase = .waiting)
      (hchannel : s.channel = m :: rest) (hnone : m.toInput = none) :
      InputStep s .take { s with channel := rest }
  | take {s : Input} {m : Msg} {rest : List Msg} {message : ProcessInput}
      (hphase : s.phase = .waiting) (hchannel : s.channel = m :: rest)
      (hsome : m.toInput = some message) :
      InputStep s .take
        { s with
          channel := rest
          phase := .sending message (beginSend (sendProcessMessage json) message).1
          left := (beginSend (sendProcessMessage json) message).2 }
  | takeNone {s : Input} (hphase : s.phase = .waiting) (hchannel : s.channel = [])
      (hended : s.channelEnded = true) : InputStep s .take { s with phase := .shutting }
  | write {s : Input} {n : Nat} (hpos : 0 < n) (hn : n ≤ s.left.length) :
      InputStep s (.write n) { s with left := s.left.drop n, wire := s.wire ++ s.left.take n }
  | sent {s : Input} {message : ProcessInput} (hphase : s.phase = .sending message true)
      (hleft : s.left = []) : InputStep s .sent { s with phase := afterSent message }
  /-- An error ends the task, unless the message was a `Close`. -/
  | sendFails {s : Input} {message : ProcessInput} {encoded : Bool}
      (hphase : s.phase = .sending message encoded) :
      InputStep s .sendFails { s with phase := afterFailure message, left := [] }
  | shutdown {s : Input} (hphase : s.phase = .shutting) :
      InputStep s .shutdown { s with phase := .ended, closed := true }
  | shutdownFails {s : Input} (hphase : s.phase = .shutting) :
      InputStep s .shutdownFails { s with phase := .ended }
  /-- The bridge has ended and aborts the task. -/
  | abort {s : Input} (hphase : s.phase ≠ .ended) :
      InputStep s .abort { s with phase := .ended, left := [] }
  /-- Both halves of the stream are dropped. -/
  | hangUp {s : Input} (hphase : s.phase = .ended) : InputStep s .hangUp { s with closed := true }
  | receive {s : Input} {message : ProcessInput} {r : Source UInt8 IoError}
      (hnext : s.nextMessage json = some (.ok (some message), r)) :
      InputStep s .receive { s with wire := r.bytes, received := s.received ++ [message] }
  | receiveNone {s : Input} {r : Source UInt8 IoError}
      (hnext : s.nextMessage json = some (.ok none, r)) :
      InputStep s .receive { s with wire := r.bytes, reading := false, atEnd := true }
  | receiveError {s : Input} {err : AnyError} {r : Source UInt8 IoError}
      (hnext : s.nextMessage json = some (.error err, r)) :
      InputStep s .receive { s with wire := r.bytes, reading := false }
  /-- The executor's task ends for another reason. -/
  | stop {s : Input} : InputStep s .stop { s with reading := false }

abbrev InputRun : List InputEvent → Input → Prop := Run (· = Input.start) (InputStep json)

end

/-! ## What is asked for -/

variable {m : Msg}

theorem toInput_eq_close_iff : m.toInput = some .close ↔ m = .close := by
  cases m with
  | signal sig => cases sig <;> simp [Msg.toInput, mapSignal]
  | _ => simp [Msg.toInput]

theorem asked_append (ms ms' : List Msg) :
    asked (ms ++ ms') = asked ms ++ if .close ∈ ms then [] else asked ms' := by
  induction ms with
  | nil => rfl
  | cons m ms ih =>
      rw [List.cons_append, asked, asked, ih]
      by_cases hm : m = .close
      · simp [hm]
      · simp [hm, Ne.symm hm]

variable {ms : List Msg}

theorem asked_concat (h : .close ∉ ms) (m : Msg) :
    asked (ms ++ [m]) = asked ms ++ m.toInput.toList := by
  rw [asked_append, if_neg h, asked]
  simp [asked]

theorem asked_append_of_mem (h : .close ∈ ms) (ms' : List Msg) : asked (ms ++ ms') = asked ms := by
  rw [asked_append, if_pos h, List.append_nil]

/-! ## Messages on the stream -/

/-- The data of the client fits in frames that the executor reads. -/
def Fits (ms : List Msg) : Prop := ∀ bytes, .data bytes ∈ ms → bytes.length ≤ 262141

/-- Small enough for the executor's reader. -/
theorem length_processInput_le_max {m : ProcessInput} (hm : m.payload.length ≤ 262141) :
    (processInput.toBytes m).length ≤ maxSessionMessageSize := by
  have h := length_processInput_le m
  unfold maxSessionMessageSize
  omega

variable {message : ProcessInput}

theorem payload_length_le (h : Fits ms) (hm : m ∈ ms) (hsome : m.toInput = some message) :
    message.payload.length ≤ 262141 := by
  cases m with
  | data bytes =>
      cases hsome
      exact h bytes hm
  | signal sig =>
      obtain ⟨_, -, rfl⟩ := Option.map_eq_some_iff.mp hsome
      exact Nat.zero_le _
  | windowChange _ _ _ _ => cases hsome; exact Nat.zero_le _
  | eof => cases hsome; exact Nat.zero_le _
  | close => cases hsome; exact Nat.zero_le _
  | other => cases hsome

variable {r : Source UInt8 IoError}

section

variable {json : SerdeJson ProcessInput}

theorem beginSend_input (hjson : json.Writes processInput) {m : ProcessInput}
    (hm : m.payload.length ≤ 262141) :
    beginSend (sendProcessMessage json) m = (true, frame (processInput.toBytes m)) := by
  have hlength := length_processInput_le_max hm
  unfold maxSessionMessageSize at hlength
  exact beginSend_eq hjson (by omega) _ _

/-! ## The invariant -/

/-- The task has left its loop. -/
def Phase.Over (phase : Phase) : Prop := phase = .shutting ∨ phase = .ended

theorem Phase.not_over_waiting : ¬ Phase.waiting.Over := by
  rintro (h | h) <;> cases h

theorem Phase.not_over_sending {encoded : Bool} : ¬ (Phase.sending message encoded).Over := by
  rintro (h | h) <;> cases h

/-- What holds between two steps: `taken` are the messages that the daemon's task has taken from the
channel, `transit` what the executor has yet to read, and `missing` what the stream does not have of
it. While nothing has gone wrong (`ok`) this is only what is still to be written. -/
structure InputInv (ok : Prop) (taken : List Msg) (transit : List ProcessInput)
    (missing : List UInt8) (s : Input) : Prop where
  sent : taken ++ s.channel = s.sent
  order : s.received ++ transit = asked taken
  framed : s.reading = true → s.wire ++ missing = frames processInput transit
  small : ∀ m ∈ transit, m.payload.length ≤ 262141
  written : (∀ message encoded, s.phase ≠ .sending message encoded) → s.left = []
  writing : ¬ s.phase.Over → missing = s.left
  waiting : s.phase = .waiting → .close ∉ taken
  sending : ∀ message encoded, s.phase = .sending message encoded →
    encoded = true ∧ (message = .close ↔ .close ∈ taken)
  closed : s.closed = true → s.phase = .ended
  whole : ok → missing = s.left
  done : ok → s.phase.Over →
    .close ∈ taken ∨ (s.channel = [] ∧ s.channelEnded = true)
  atEnd : ok → s.atEnd = true → transit = [] ∧ s.phase = .ended

theorem inputInv_start : InputInv True [] [] [] Input.start where
  sent := rfl
  order := rfl
  framed := fun _ => rfl
  small := fun _ h => nomatch h
  written := fun _ => rfl
  writing := fun _ => rfl
  waiting := fun _ => List.not_mem_nil
  sending := fun _ _ h => nomatch h
  closed := fun h => nomatch h
  whole := fun _ => rfl
  done := fun _ h => absurd h Phase.not_over_waiting
  atEnd := fun _ h => nomatch h

variable {ok : Prop} {taken : List Msg} {transit : List ProcessInput} {missing : List UInt8}
  {s s' : Input} {e : InputEvent}

/-! ## The daemon's task -/

theorem InputInv.arrive (hi : InputInv ok taken transit missing s)
    (hopen : s.channelEnded = false) :
    InputInv ok taken transit missing
      { s with channel := s.channel ++ [m], sent := s.sent ++ [m] } := by
  refine { hi with sent := ?_, done := ?_ }
  · show taken ++ (s.channel ++ [m]) = s.sent ++ [m]
    rw [← List.append_assoc, hi.sent]
  · intro hok hleft
    rcases hi.done hok hleft with hclose | ⟨-, hended⟩
    · exact .inl hclose
    · cases hopen.symm.trans hended

theorem InputInv.channelEnds (hi : InputInv ok taken transit missing s) :
    InputInv ok taken transit missing { s with channelEnded := true } :=
  { hi with done := fun hok hleft => (hi.done hok hleft).imp_right fun h => ⟨h.1, rfl⟩ }

theorem InputInv.skip (hi : InputInv ok taken transit missing s) {rest : List Msg}
    (hphase : s.phase = .waiting) (hchannel : s.channel = m :: rest) (hnone : m.toInput = none) :
    InputInv ok (taken ++ [m]) transit missing { s with channel := rest } := by
  have hclose := hi.waiting hphase
  refine { hi with sent := ?_, order := ?_, waiting := ?_, sending := ?_, done := ?_ }
  · rw [← hi.sent, hchannel, List.append_assoc, List.singleton_append]
  · rw [asked_concat hclose, hnone, Option.toList_none, List.append_nil]
    exact hi.order
  · intro _ hmem
    rcases List.mem_append.mp hmem with hmem | hmem
    · exact hclose hmem
    · rw [← List.mem_singleton.mp hmem] at hnone
      cases hnone
  · intro message encoded hsending
    cases hphase.symm.trans hsending
  · intro _ hover
    exact absurd (hphase ▸ hover) Phase.not_over_waiting

/-- **A message is taken from the channel**, and what it asks for is to be written. -/
theorem InputInv.take (hjson : json.Writes processInput) (hi : InputInv ok taken transit missing s)
    {rest : List Msg} (hphase : s.phase = .waiting) (hchannel : s.channel = m :: rest)
    (hsome : m.toInput = some message) (hsmall : message.payload.length ≤ 262141) :
    InputInv ok (taken ++ [m]) (transit ++ [message]) (frame (processInput.toBytes message))
      { s with
        channel := rest
        phase := .sending message (beginSend (sendProcessMessage json) message).1
        left := (beginSend (sendProcessMessage json) message).2 } := by
  have hclose := hi.waiting hphase
  -- the frame before this one has been written, or the task would not be waiting
  have hmissing : missing = [] := by
    rw [hi.writing (hphase ▸ Phase.not_over_waiting), hi.written (by simp [hphase])]
  rw [beginSend_input hjson hsmall]
  refine { hi with
    sent := ?_, order := ?_, framed := ?_, small := ?_, written := ?_, writing := ?_,
    waiting := ?_, sending := ?_, closed := ?_, whole := ?_, done := ?_, atEnd := ?_ }
  · rw [← hi.sent, hchannel, List.append_assoc, List.singleton_append]
  · rw [asked_concat hclose, hsome, ← hi.order, List.append_assoc]
    rfl
  · intro hreading
    have hframed := hi.framed hreading
    rw [hmissing, List.append_nil] at hframed
    rw [frames_concat, ← hframed]
  · intro m' hm'
    rcases List.mem_append.mp hm' with hm' | hm'
    · exact hi.small m' hm'
    · exact List.mem_singleton.mp hm' ▸ hsmall
  · exact fun h => absurd rfl (h _ _)
  · exact fun _ => rfl
  · exact fun h => nomatch h
  · intro message' encoded hsending
    cases hsending
    refine ⟨rfl, ?_⟩
    rw [List.mem_append, or_iff_right hclose, List.mem_singleton, eq_comm (a := Msg.close),
      ← toInput_eq_close_iff, hsome, Option.some_inj]
  · intro hclosed
    cases hphase.symm.trans (hi.closed hclosed)
  · exact fun _ => rfl
  · exact fun _ h => absurd h Phase.not_over_sending
  · intro hok hend
    cases hphase.symm.trans (hi.atEnd hok hend).2

theorem InputInv.takeNone (hi : InputInv ok taken transit missing s) (hphase : s.phase = .waiting)
    (hchannel : s.channel = []) (hended : s.channelEnded = true) :
    InputInv ok taken transit missing { s with phase := .shutting } := by
  refine { hi with
    written := ?_, writing := ?_, waiting := ?_, sending := ?_, closed := ?_, done := ?_,
    atEnd := ?_ }
  · exact fun _ => hi.written (by simp [hphase])
  · exact fun h => absurd (.inl rfl) h
  · exact fun h => nomatch h
  · exact fun _ _ h => nomatch h
  · intro hclosed
    cases hphase.symm.trans (hi.closed hclosed)
  · exact fun _ _ => .inr ⟨hchannel, hended⟩
  · intro hok hend
    cases hphase.symm.trans (hi.atEnd hok hend).2

/-- Writing moves bytes along; the frames are the same. -/
theorem InputInv.write (hi : InputInv ok taken transit missing s) {n : Nat} (hpos : 0 < n)
    (hn : n ≤ s.left.length) :
    InputInv ok taken transit (missing.drop n)
      { s with left := s.left.drop n, wire := s.wire ++ s.left.take n } := by
  -- only a task that is sending has bytes left
  obtain ⟨message, encoded, hphase⟩ : ∃ message encoded, s.phase = .sending message encoded := by
    by_contra hidle
    rw [hi.written fun m encoded h => hidle ⟨m, encoded, h⟩, List.length_nil] at hn
    omega
  have hmissing := hi.writing (hphase ▸ Phase.not_over_sending)
  subst hmissing
  refine { hi with framed := ?_, written := ?_, writing := ?_, whole := ?_ }
  · intro hreading
    rw [← hi.framed hreading, List.append_assoc, List.take_append_drop]
  · exact fun hidle => absurd hphase (hidle message encoded)
  · exact fun _ => rfl
  · exact fun _ => rfl

theorem InputInv.sentMessage (hi : InputInv ok taken transit missing s)
    (hphase : s.phase = .sending message true) (hleft : s.left = []) :
    InputInv ok taken transit missing { s with phase := afterSent message } := by
  have hclose := (hi.sending message true hphase).2
  have hmissing := hi.writing (hphase ▸ Phase.not_over_sending)
  have hnotEnded : s.phase ≠ .ended := by
    rw [hphase]
    exact fun h => nomatch h
  refine { hi with
    written := fun _ => hleft, writing := fun _ => hmissing, waiting := ?_, sending := ?_,
    closed := ?_, done := ?_, atEnd := ?_ }
  · intro hwaiting hmem
    dsimp only [afterSent] at hwaiting
    rw [if_pos (hclose.mpr hmem)] at hwaiting
    cases hwaiting
  · intro message' encoded hsending
    dsimp only [afterSent] at hsending
    split at hsending <;> cases hsending
  · exact fun hclosed => absurd (hi.closed hclosed) hnotEnded
  · intro _ hdone
    by_cases hmem : message = .close
    · exact .inl (hclose.mp hmem)
    · dsimp only [afterSent] at hdone
      rw [if_neg hmem] at hdone
      exact absurd hdone Phase.not_over_waiting
  · exact fun hok hend => absurd (hi.atEnd hok hend).2 hnotEnded

/-- **The task gives up**, and the rest of its message never comes. -/
theorem InputInv.giveUp (hi : InputInv ok taken transit missing s) {phase : Phase}
    (hphase : phase.Over) (hclosed : s.closed = false ∨ phase = .ended) :
    InputInv False taken transit missing { s with phase := phase, left := [] } := by
  refine { hi with
    written := fun _ => rfl, writing := ?_, waiting := ?_, sending := ?_, closed := ?_,
    whole := False.elim, done := False.elim, atEnd := False.elim }
  · exact fun hloop => absurd hphase hloop
  · rintro rfl
    exact absurd hphase Phase.not_over_waiting
  · rintro message encoded rfl
    exact absurd hphase Phase.not_over_sending
  · intro h
    rcases hclosed with hopen | hended
    · cases hopen.symm.trans h
    · exact hended

theorem InputInv.finish (hi : InputInv ok taken transit missing s) (hphase : s.phase = .shutting)
    (closed : Bool) :
    InputInv ok taken transit missing { s with phase := .ended, closed := closed } := by
  refine { hi with
    written := ?_, writing := ?_, waiting := ?_, sending := ?_, closed := fun _ => rfl,
    done := ?_, atEnd := ?_ }
  · exact fun _ => hi.written (by simp [hphase])
  · exact fun h => absurd (.inr rfl) h
  · exact fun h => nomatch h
  · exact fun _ _ h => nomatch h
  · exact fun hok _ => hi.done hok (.inl hphase)
  · exact fun hok hend => ⟨(hi.atEnd hok hend).1, rfl⟩

/-! ## The executor's reader -/

theorem readSessionMessage_of_next {result : Except AnyError (Option ProcessInput)}
    (hnext : s.nextMessage json = some (result, r)) :
    s.reading = true ∧ (s.closed = true ∨ frameComplete s.wire = true) ∧
      readSessionMessage json ⟨[s.wire], none⟩ = (result, r) := by
  unfold Input.nextMessage at hnext
  split at hnext
  · next hready => exact ⟨hready.1, hready.2, Option.some.inj hnext⟩
  · cases hnext

theorem bytes_wire (wire : List UInt8) : (⟨[wire], none⟩ : Source UInt8 IoError).bytes = wire :=
  List.append_nil wire

/-- **The executor reads the first message in transit.** -/
theorem InputInv.receive (hjson : json.Writes processInput)
    (hi : InputInv ok taken transit missing s)
    (hnext : s.nextMessage json = some (.ok (some message), r)) :
    ∃ rest, InputInv ok taken rest missing
      { s with wire := r.bytes, received := s.received ++ [message] } := by
  obtain ⟨hreading, -, hread⟩ := readSessionMessage_of_next hnext
  have hframed := hi.framed hreading
  rw [← bytes_wire s.wire] at hframed
  obtain ⟨rest, rfl, hrest⟩ := readMessage_of_cut hjson (by decide)
    (fun m hm => length_processInput_le_max (hi.small m hm)) hframed hread
  refine ⟨rest, { hi with
    order := ?_, framed := fun _ => hrest, small := ?_, atEnd := ?_ }⟩
  · rw [← hi.order, List.append_assoc, List.singleton_append]
  · exact fun m hm => hi.small m (List.mem_cons_of_mem _ hm)
  · intro hok hend
    cases (hi.atEnd hok hend).1

/-- A stream that ends on a whole frame has been read to its end. -/
theorem InputInv.transit_eq_nil (hjson : json.Writes processInput)
    (hi : InputInv ok taken transit missing s) (hok : ok)
    (hnext : s.nextMessage json = some (.ok none, r)) : transit = [] ∧ s.phase = .ended := by
  obtain ⟨hreading, hready, hread⟩ := readSessionMessage_of_next hnext
  have hframed := hi.framed hreading
  -- a frame that is complete is not the end, so the daemon has closed its side
  have hclosed : s.closed = true := by
    rcases hready with hclosed | hcomplete
    · exact hclosed
    · unfold frameComplete at hcomplete
      unfold readSessionMessage readMessage maxSessionMessageSize at hread
      split at hread
      · next hframe => rw [hframe] at hcomplete; cases hcomplete
      · next hframe => rw [hframe] at hcomplete; cases hcomplete
      · cases hread
      · cases hread
      · cases hread
      · split at hread <;> cases hread
  have hended := hi.closed hclosed
  refine ⟨?_, hended⟩
  rw [hi.whole hok, hi.written (by simp [hended]), List.append_nil] at hframed
  cases transit with
  | nil => rfl
  | cons m rest =>
      have hm := length_processInput_le_max (hi.small m List.mem_cons_self)
      obtain ⟨r', hr', -, -⟩ :
          ∃ r', readSessionMessage json ⟨[s.wire], none⟩ = (.ok (some m), r') ∧ _ ∧ _ :=
        readMessage_eq hjson _ ((bytes_wire s.wire).trans hframed) hm
          (Nat.lt_of_le_of_lt hm (by decide))
      cases hread.symm.trans hr'

/-- The reader stops, at the end of the stream if it is there. -/
theorem InputInv.stop (hi : InputInv ok taken transit missing s) (wire : List UInt8) (atEnd : Bool)
    (hend : ok → atEnd = true → transit = [] ∧ s.phase = .ended) :
    InputInv ok taken transit missing
      { s with wire := wire, reading := false, atEnd := atEnd } :=
  { hi with framed := (fun h => nomatch h), atEnd := hend }

/-! ## All steps -/

/-- The events in which no part of the daemon's message is given up. -/
def InputEvent.Succeeds : InputEvent → Prop
  | .sendFails | .abort => False
  | _ => True

theorem InputInv.mono {ok' : Prop} (hi : InputInv ok taken transit missing s) (h : ok' → ok) :
    InputInv ok' taken transit missing s :=
  { hi with
    whole := fun hok => hi.whole (h hok)
    done := fun hok => hi.done (h hok)
    atEnd := fun hok => hi.atEnd (h hok) }

theorem InputInv.step (hjson : json.Writes processInput) (hi : InputInv ok taken transit missing s)
    (hfits : Fits s.sent) (hs : InputStep json s e s') :
    ∃ taken' transit' missing', InputInv (ok ∧ e.Succeeds) taken' transit' missing' s' := by
  -- all steps but a failed write and an abort leave `ok` as it is
  have hok := fun {taken' : List Msg} {transit' : List ProcessInput} {missing' : List UInt8}
    (h : InputInv ok taken' transit' missing' s') => h.mono (And.left (b := e.Succeeds))
  cases hs with
  | arrive hopen => exact ⟨_, _, _, hok (hi.arrive hopen)⟩
  | channelEnds => exact ⟨_, _, _, hok hi.channelEnds⟩
  | skip hphase hchannel hnone => exact ⟨_, _, _, hok (hi.skip hphase hchannel hnone)⟩
  | @take m _ _ hphase hchannel hsome =>
      have hmem : m ∈ s.sent := by
        rw [← hi.sent, hchannel]
        exact List.mem_append_right _ List.mem_cons_self
      have hsmall := payload_length_le hfits hmem hsome
      exact ⟨_, _, _, hok (hi.take hjson hphase hchannel hsome hsmall)⟩
  | takeNone hphase hchannel hended => exact ⟨_, _, _, hok (hi.takeNone hphase hchannel hended)⟩
  | write hpos hn => exact ⟨_, _, _, hok (hi.write hpos hn)⟩
  | sent hphase hleft => exact ⟨_, _, _, hok (hi.sentMessage hphase hleft)⟩
  | @sendFails message encoded hphase =>
      have hopen : s.closed = false := by
        by_contra hclosed
        cases hphase.symm.trans (hi.closed (Bool.eq_true_of_not_eq_false hclosed))
      have hover : (afterFailure message).Over := by
        unfold afterFailure
        split
        · exact .inl rfl
        · exact .inr rfl
      exact ⟨_, _, _, (hi.giveUp hover (.inl hopen)).mono And.right⟩
  | shutdown hphase => exact ⟨_, _, _, hok (hi.finish hphase true)⟩
  | shutdownFails hphase => exact ⟨_, _, _, hok (hi.finish hphase s.closed)⟩
  | abort _ => exact ⟨_, _, _, (hi.giveUp (.inr rfl) (.inr rfl)).mono And.right⟩
  | hangUp hphase => exact ⟨_, _, _, hok { hi with closed := fun _ => hphase }⟩
  | receive hnext =>
      obtain ⟨rest, hrest⟩ := hi.receive hjson hnext
      exact ⟨_, _, _, hok hrest⟩
  | receiveNone hnext =>
      exact ⟨_, _, _, hok (hi.stop _ true fun h _ => hi.transit_eq_nil hjson h hnext)⟩
  | receiveError _ => exact ⟨_, _, _, hok (hi.stop _ s.atEnd hi.atEnd)⟩
  | stop => exact ⟨_, _, _, hok (hi.stop s.wire s.atEnd hi.atEnd)⟩

/-- What the client has sent stays. -/
theorem InputStep.sent_subset (hs : InputStep json s e s') : s.sent ⊆ s'.sent := by
  cases hs with
  | arrive _ => exact List.subset_append_left _ _
  | _ => exact List.Subset.refl _

theorem exists_inputInv (hjson : json.Writes processInput) {h : List InputEvent}
    (hr : InputRun json h s) (hfits : Fits s.sent) :
    ∃ taken transit missing, InputInv (∀ e ∈ h, e.Succeeds) taken transit missing s := by
  induction hr with
  | nil h0 =>
      subst h0
      refine ⟨[], [], [], ?_⟩
      simpa using inputInv_start
  | @cons h s s' e _ hs ih =>
      -- `hfits` is about the last state; what was sent before is part of it
      have hbefore : Fits s.sent := fun bytes hmem => hfits bytes (hs.sent_subset hmem)
      obtain ⟨taken, transit, missing, hi⟩ := ih hbefore
      obtain ⟨taken', transit', missing', hi'⟩ := hi.step hjson hbefore hs
      refine ⟨taken', transit', missing', ?_⟩
      simpa [List.forall_mem_cons, and_comm] using hi'

/-! ## Up to the child -/

/-- The data that the client has sent before it closed its channel. -/
def typed (ms : List Msg) : List UInt8 := (asked ms).flatMap payload

theorem asked_isPrefix (ms ms' : List Msg) : asked ms <+: asked (ms ++ ms') := by
  rw [asked_append]
  exact List.prefix_append _ _

theorem InputInv.received_isPrefix (hi : InputInv ok taken transit missing s) :
    s.received <+: asked s.sent := by
  rw [← hi.sent]
  refine List.IsPrefix.trans ?_ (asked_isPrefix taken s.channel)
  rw [← hi.order]
  exact List.prefix_append _ _

/-- At the end of the stream everything has been read. -/
theorem InputInv.received_eq (hi : InputInv ok taken transit missing s) (hok : ok)
    (hend : s.atEnd = true) : s.received = asked s.sent := by
  obtain ⟨htransit, hended⟩ := hi.atEnd hok hend
  have horder := hi.order
  rw [htransit, List.append_nil] at horder
  rw [horder, ← hi.sent]
  rcases hi.done hok (.inr hended) with hclose | ⟨hchannel, -⟩
  · exact (asked_append_of_mem hclose s.channel).symm
  · rw [hchannel, List.append_nil]

end

/-- The data before an `Eof` is data before a `Close`. -/
theorem inputOf_isPrefix (ms : List ProcessInput) :
    inputOf ms <+: (untilClose ms).flatMap payload := by
  have hsame : (untilClose ms).takeWhile (fun m => !isStop m) =
      ms.takeWhile fun m => !isStop m := by
    unfold untilClose
    rw [List.takeWhile_takeWhile]
    refine congrArg (List.takeWhile · ms) (funext fun m => ?_)
    cases m <;> rfl
  unfold inputOf
  rw [← hsame]
  exact (List.takeWhile_prefix _).flatMap payload

/-- **What a client types reaches the child in order.** Let the data of the client fit in its
frames. In every run of the two tasks, with writes that fail and an abort at any moment, what the
executor has read is a beginning of what the messages of the client ask for. It is all of it if
nothing has failed and the executor has come to the end of the stream. What either service has then
written to the child's input is a beginning of what the client has typed; on a terminal the writer's
last word may follow. -/
theorem typed_input_reaches_child (inputJson : SerdeJson ProcessInput)
    (hjson : inputJson.Writes processInput) {h : List InputEvent} {s : Input}
    (hr : InputRun inputJson h s) (hfits : Fits s.sent) :
    s.received <+: asked s.sent ∧
    (s.atEnd = true → (∀ e ∈ h, e.Succeeds) → s.received = asked s.sent) ∧
    (∀ json stdout stderr h' f, FedPipedRun json stdout stderr h' f →
      f.service.delivered <+: s.received → f.received <+: typed s.sent) ∧
    ∀ json farewell processGroup output h' f, FedPtyRun json farewell processGroup output h' f →
      f.service.delivered <+: s.received →
        ∃ input, input <+: typed s.sent ∧
          (f.received = input ∨ f.received = input ++ farewell) := by
  obtain ⟨taken, transit, missing, hi⟩ := exists_inputInv hjson hr hfits
  have hbeginning := hi.received_isPrefix
  refine ⟨hbeginning, fun hend hok => hi.received_eq hok hend, ?_, ?_⟩
  · intro json stdout stderr h' f hf hdelivered
    have hprocessed : f.processed <+: asked s.sent := by
      refine List.IsPrefix.trans ?_ (hdelivered.trans hbeginning)
      rw [← hf.inv.delivered]
      exact List.prefix_append _ _
    rw [hf.inv.received]
    exact hprocessed.flatMap payload
  · intro json farewell processGroup output h' f hf hdelivered
    -- the input of a terminal ends at an `Eof` already
    refine ⟨inputOf f.processed, (inputOf_isPrefix f.processed).trans ?_, ?_⟩
    · exact (hf.follows.part.trans (hdelivered.trans hbeginning)).flatMap payload
    · have hreceived := hf.inv.received
      split at hreceived
      · exact .inl (hreceived.trans (List.append_nil _))
      · exact .inr hreceived

/-- A byte and a `Close` are passed on and read, and the executor comes to the end. -/
theorem typed_byte_is_read :
    ∃ h s, InputRun (serdeJson processInput) h s ∧ s.sent = [.data [104], .close] ∧
      s.received = asked s.sent ∧ asked s.sent = [.data [104], .close] := by
  have hr : InputRun (serdeJson processInput)
      [.receive, .receive, .receive, .shutdown, .sent, .write 11, .take, .sent, .write 18, .take,
        .arrive .close, .arrive (.data [104])] _ :=
    .cons (.cons (.cons (.cons (.cons (.cons (.cons (.cons (.cons (.cons (.cons (.cons (.nil rfl)
      (.arrive rfl)) (.arrive rfl))
      (.take rfl rfl rfl)) (.write (by decide) (by decide))) (.sent rfl rfl))
      (.take rfl rfl rfl)) (.write (by decide) (by decide))) (.sent rfl rfl))
      (.shutdown rfl)) (.receive rfl)) (.receive rfl)) (.receiveNone rfl)
  have hfits : Fits [.data [104], .close] := by
    intro bytes hmem
    simp only [List.mem_cons, Msg.data.injEq, List.not_mem_nil, or_false, reduceCtorEq] at hmem
    rw [hmem]
    decide
  have hall := (typed_input_reaches_child _ (serdeJson_writes processInput) hr hfits).2.1 rfl (by
    simp [InputEvent.Succeeds])
  exact ⟨_, _, hr, rfl, hall, rfl⟩

end Narrowd.Sshd.InputTask
