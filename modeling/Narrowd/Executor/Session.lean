import Narrowd.Lib.Frames
import Narrowd.Executor.Control

set_option autoImplicit false

/-! # The messages of a process session

A session with a process has a stream of its own between the daemon and the executor. The daemon
writes `ProcessInput` messages to it and reads `ProcessOutput` messages, the executor the other way
round, each message as a frame of JSON. Bytes are written as arrays of decimal numbers, up to four
characters a byte, and the two readers, one in each process, refuse frames of more than a mebibyte.
`session_round_trip` says that payloads of up to 262141 bytes still fit; for output the bound is
met exactly.
-/

namespace Narrowd.Executor

open Lib

inductive ExecutorSignal
  | abrt | alrm | fpe | hup | ill | int | kill | pipe | quit | segv | term | usr1
  deriving DecidableEq

inductive ProcessInput
  | data (bytes : List UInt8)
  | signal (signal : ExecutorSignal)
  | resize (size : SerializablePtySize)
  | eof
  | close
  deriving DecidableEq

inductive ProcessOutput
  | stdout (bytes : List UInt8)
  | stderr (bytes : List UInt8)
  | exitStatus (code : UInt32)
  deriving DecidableEq

/-! ## Their JSON -/

namespace Json

open Codec

/-- `Vec<u8>`: the decimal numbers of the bytes. -/
def bytes : Codec (List UInt8) :=
  (separated uint8 ']' (fun a => by
      obtain ⟨x, t, hprint, hdigit⟩ := exists_digit_cons a.toNat
      refine ⟨x, t, hprint, ?_⟩
      rintro rfl
      cases hdigit) rfl (by decide)).after ['[']

def executorSignal : Codec ExecutorSignal :=
  names str [.abrt, .alrm, .fpe, .hup, .ill, .int, .kill, .pipe, .quit, .segv, .term, .usr1]
    (fun
      | .abrt => "Abrt".toList
      | .alrm => "Alrm".toList
      | .fpe => "Fpe".toList
      | .hup => "Hup".toList
      | .ill => "Ill".toList
      | .int => "Int".toList
      | .kill => "Kill".toList
      | .pipe => "Pipe".toList
      | .quit => "Quit".toList
      | .segv => "Segv".toList
      | .term => "Term".toList
      | .usr1 => "Usr1".toList)
    (fun signal => by cases signal <;> rfl)

/-- The variants of `ProcessInput` that carry data. -/
inductive InputTag
  | data | signal | resize
  deriving DecidableEq

def inputTag : Codec InputTag :=
  names str [.data, .signal, .resize]
    (fun
      | .data => "Data".toList
      | .signal => "Signal".toList
      | .resize => "Resize".toList)
    (fun tag => by cases tag <;> rfl)

def InputFields : InputTag → Type
  | .data => List UInt8
  | .signal => ExecutorSignal
  | .resize => SerializablePtySize

def inputFields : (tag : InputTag) → Codec (InputFields tag)
  | .data => bytes
  | .signal => executorSignal
  | .resize => ptySize

/-- The variants that are written as their names; `true` is `Eof`. -/
def inputUnit : Codec Bool :=
  names str [true, false]
    (fun
      | true => "Eof".toList
      | false => "Close".toList)
    (fun b => by cases b <;> rfl)

/-- `ProcessInput` as `serde_json` writes it. -/
def processInput : Codec ProcessInput :=
  (either inputUnit (tagged inputTag inputFields) (fun b _ _ _ h => by cases b <;> cases h)).refine
    (fun
      | .data bytes => .inr ⟨.data, bytes⟩
      | .signal signal => .inr ⟨.signal, signal⟩
      | .resize size => .inr ⟨.resize, size⟩
      | .eof => .inl true
      | .close => .inl false)
    (fun
      | .inr ⟨.data, bytes⟩ => some (.data bytes)
      | .inr ⟨.signal, signal⟩ => some (.signal signal)
      | .inr ⟨.resize, size⟩ => some (.resize size)
      | .inl true => some .eof
      | .inl false => some .close)
    (fun m => by cases m <;> rfl)
    (fun v m h => by
      cases v with
      | inl b => cases b <;> cases h <;> rfl
      | inr p => obtain ⟨tag, p⟩ := p; cases tag <;> cases h <;> rfl)

/-- The variants of `ProcessOutput`. -/
inductive OutputTag
  | stdout | stderr | exitStatus
  deriving DecidableEq

def outputTag : Codec OutputTag :=
  names str [.stdout, .stderr, .exitStatus]
    (fun
      | .stdout => "Stdout".toList
      | .stderr => "Stderr".toList
      | .exitStatus => "ExitStatus".toList)
    (fun tag => by cases tag <;> rfl)

def OutputFields : OutputTag → Type
  | .stdout => List UInt8
  | .stderr => List UInt8
  | .exitStatus => UInt32

def outputFields : (tag : OutputTag) → Codec (OutputFields tag)
  | .stdout => bytes
  | .stderr => bytes
  | .exitStatus => uint32

/-- `ProcessOutput` as `serde_json` writes it. -/
def processOutput : Codec ProcessOutput :=
  (tagged outputTag outputFields).refine
    (fun
      | .stdout bytes => ⟨.stdout, bytes⟩
      | .stderr bytes => ⟨.stderr, bytes⟩
      | .exitStatus code => ⟨.exitStatus, code⟩)
    (fun
      | ⟨.stdout, bytes⟩ => some (.stdout bytes)
      | ⟨.stderr, bytes⟩ => some (.stderr bytes)
      | ⟨.exitStatus, code⟩ => some (.exitStatus code))
    (fun m => by cases m <;> rfl)
    (fun p m h => by obtain ⟨tag, p⟩ := p; cases tag <;> cases h <;> rfl)

/-! ### How long they are -/

/-- A byte takes up to three digits, and a comma or the closing bracket. -/
theorem byteLength_bytes_le (l : List UInt8) :
    byteLength (bytes.print l) ≤ 1 + max 1 (l.length * 4) := by
  have hbyte : ∀ b : UInt8, byteLength (uint8.print b) ≤ 3 := fun b =>
    byteLength_toDigits_le (by decide) (Nat.lt_trans b.toNat_lt (by decide))
  show byteLength ('[' :: (separated uint8 ']' _ _ _).print l) ≤ _
  rw [byteLength_cons]
  exact Nat.add_le_add (Nat.le_refl 1) (byteLength_separated_le rfl hbyte l)

theorem byteLength_ptySize_le (size : SerializablePtySize) :
    byteLength (ptySize.print size) ≤ 68 := by
  show byteLength (((('\x7b' :: label "rows" ++ uint16.print size.rows) ++
    (',' :: label "cols" ++ uint16.print size.cols)) ++
    (',' :: label "pixel_width" ++ uint16.print size.pixelWidth) ++
    (',' :: label "pixel_height" ++ uint16.print size.pixelHeight)) ++ ['\x7d']) ≤ 68
  have hrows := byteLength_uint16_le size.rows
  have hcols := byteLength_uint16_le size.cols
  have hwidth := byteLength_uint16_le size.pixelWidth
  have hheight := byteLength_uint16_le size.pixelHeight
  have h₁ : byteLength ('\x7b' :: label "rows") = 8 := rfl
  have h₂ : byteLength (',' :: label "cols") = 8 := rfl
  have h₃ : byteLength (',' :: label "pixel_width") = 15 := rfl
  have h₄ : byteLength (',' :: label "pixel_height") = 16 := rfl
  have h₅ : byteLength ['\x7d'] = 1 := rfl
  simp only [byteLength_append]
  omega

end Json

open Json

/-- The bytes that a message carries. -/
def ProcessInput.payload : ProcessInput → List UInt8
  | .data bytes => bytes
  | .signal _ | .resize _ | .eof | .close => []

def ProcessOutput.payload : ProcessOutput → List UInt8
  | .stdout bytes | .stderr bytes => bytes
  | .exitStatus _ => []

/-- Around the array there is `{"Data":` with its brace; a size of four fields is at most 79
long. -/
theorem length_processInput_le (m : ProcessInput) :
    (processInput.toBytes m).length ≤ max 79 (m.payload.length * 4 + 10) := by
  rw [Codec.length_toBytes]
  cases m with
  | data bytes =>
      have hfield := byteLength_bytes_le bytes
      have hall : Codec.byteLength (processInput.print (.data bytes)) =
          6 + Codec.byteLength (Json.bytes.print bytes) + 3 :=
        byteLength_tagged inputTag inputFields .data bytes
      rw [hall, ProcessInput.payload]
      omega
  | signal signal =>
      apply Nat.le_trans _ (Nat.le_max_left _ _)
      cases signal <;> decide
  | resize size =>
      have hfield := byteLength_ptySize_le size
      have hall : Codec.byteLength (processInput.print (.resize size)) =
          8 + Codec.byteLength (ptySize.print size) + 3 :=
        byteLength_tagged inputTag inputFields .resize size
      omega
  | eof => exact Nat.le_trans (by decide) (Nat.le_max_left _ _)
  | close => exact Nat.le_trans (by decide) (Nat.le_max_left _ _)

theorem byteLength_stdout (bytes : List UInt8) :
    Codec.byteLength (processOutput.print (.stdout bytes)) =
      8 + Codec.byteLength (Json.bytes.print bytes) + 3 :=
  byteLength_tagged outputTag outputFields .stdout bytes

/-- The names of the streams are two characters longer than `Data`. -/
theorem length_processOutput_le (m : ProcessOutput) :
    (processOutput.toBytes m).length ≤ max 25 (m.payload.length * 4 + 12) := by
  rw [Codec.length_toBytes]
  cases m with
  | stdout bytes =>
      have hfield := byteLength_bytes_le bytes
      rw [byteLength_stdout, ProcessOutput.payload]
      omega
  | stderr bytes =>
      have hfield := byteLength_bytes_le bytes
      have hall : Codec.byteLength (processOutput.print (.stderr bytes)) =
          8 + Codec.byteLength (Json.bytes.print bytes) + 3 :=
        byteLength_tagged outputTag outputFields .stderr bytes
      rw [hall, ProcessOutput.payload]
      omega
  | exitStatus code =>
      have hfield := byteLength_uint32_le code
      have hall : Codec.byteLength (processOutput.print (.exitStatus code)) =
          12 + Codec.byteLength (Codec.uint32.print code) + 3 :=
        byteLength_tagged outputTag outputFields .exitStatus code
      omega

/-! ## Sending and reading

Each process has its own pair of functions, with the same steps and its own texts. -/

def maxSessionMessageSize : Nat := 1024 * 1024

variable {limit : Nat} {reader r : Source UInt8 IoError}

section

variable {T : Type}

/-- `std::io::Error` as an `anyhow::Error`, for a bare `?`. -/
def ofIoError (err : IoError) : AnyError := ⟨err.text, []⟩

/-- The message is encoded, and its length, which must fit in 32 bits, is written before it. -/
def sendMessage (json : SerdeJson T) (encodeContext tooLarge : String) (writer : Sink UInt8 IoError)
    (message : T) : Except AnyError Unit × Sink UInt8 IoError :=
  match encodeMessage json message encodeContext with
  | .error err => (.error err, writer)
  | .ok payload =>
      if payload.length < 2 ^ 32 then
        match writer.writeAll (bigEndian payload.length) with
        | (.error err, writer) => (.error (ofIoError err), writer)
        | (.ok _, writer) =>
            match writer.writeAll payload with
            | (.error err, writer) => (.error (ofIoError err), writer)
            | (.ok _, writer) => (.ok (), writer)
      else (.error ⟨tooLarge, ["out of range integral type conversion attempted"]⟩, writer)

/-- The texts of a reader's errors. -/
structure ReadTexts where
  length : String
  tooLong : Nat → String
  body : String
  decode : String

/-- A stream that ends before or within a length has no more messages. -/
def readMessage (json : SerdeJson T) (limit : Nat) (texts : ReadTexts)
    (reader : Source UInt8 IoError) : Except AnyError (Option T) × Source UInt8 IoError :=
  match readFrame limit reader with
  | (.noLength none, reader) => (.ok none, reader)
  | (.noLength (some err), reader) =>
      if err.kind = .unexpectedEof then (.ok none, reader)
      else (.error ⟨texts.length, [err.text]⟩, reader)
  | (.tooLong length, reader) => (.error ⟨texts.tooLong length, []⟩, reader)
  | (.noPayload none, reader) => (.error ⟨texts.body, ["early eof"]⟩, reader)
  | (.noPayload (some err), reader) => (.error ⟨texts.body, [err.text]⟩, reader)
  | (.payload buffer, reader) =>
      match decodeMessage json buffer texts.decode with
      | .error err => (.error err, reader)
      | .ok message => (.ok (some message), reader)

/-- The daemon's writer. -/
def sendProcessMessage (json : SerdeJson ProcessInput) :
    Sink UInt8 IoError → ProcessInput → Except AnyError Unit × Sink UInt8 IoError :=
  sendMessage json "failed to encode process input" "process input frame too large"

/-- The daemon's reader. Its limit is written out in the source. -/
def readProcessMessage (json : SerdeJson ProcessOutput) :
    Source UInt8 IoError → Except AnyError (Option ProcessOutput) × Source UInt8 IoError :=
  readMessage json (1024 * 1024)
    { length := "failed to read process output frame length"
      tooLong := fun length =>
        s!"process output frame length {length} exceeds the supported limit"
      body := "failed to read process output frame body"
      decode := "failed to decode process output frame" }

/-- The executor's writer. -/
def sendSessionMessage (json : SerdeJson T) :
    Sink UInt8 IoError → T → Except AnyError Unit × Sink UInt8 IoError :=
  sendMessage json "failed to encode session message" "session message too large"

/-- The executor's reader. -/
def readSessionMessage (json : SerdeJson T) :
    Source UInt8 IoError → Except AnyError (Option T) × Source UInt8 IoError :=
  readMessage json maxSessionMessageSize
    { length := "failed to read session message length"
      tooLong := fun length =>
        s!"session message length {length} exceeds the maximum supported size"
      body := "failed to read session message body"
      decode := "failed to decode session message" }

/-- How a call of a writer begins: whether the message is encoded, and the bytes to write. -/
def beginSend (send : Sink UInt8 IoError → T → Except AnyError Unit × Sink UInt8 IoError)
    (message : T) : Bool × List UInt8 :=
  match send ⟨[], none⟩ message with
  | (.ok _, writer) => (true, writer.written)
  | (.error _, writer) => (false, writer.written)

/-- Messages as they are written, one frame after the other. -/
def frames (c : Codec T) (messages : List T) : List UInt8 :=
  messages.flatMap fun m => frame (c.toBytes m)

theorem frames_cons (c : Codec T) (m : T) (l : List T) :
    frames c (m :: l) = frame (c.toBytes m) ++ frames c l := rfl

theorem frames_concat (c : Codec T) (l : List T) (m : T) :
    frames c (l ++ [m]) = frames c l ++ frame (c.toBytes m) := by
  simp [frames]

/-! ### One message -/

/-- What `serde_json` is relied on for here: it writes the texts of the codec, and reads them. -/
structure SerdeJson.Writes (json : SerdeJson T) (c : Codec T) : Prop where
  toVec : ∀ m, json.toVec m = .ok (c.toBytes m)
  fromSlice : ∀ m, json.fromSlice (c.toBytes m) = .ok m

theorem serdeJson_writes (c : Codec T) : (serdeJson c).Writes c where
  toVec _ := rfl
  fromSlice m := by simp [serdeJson, Codec.ofBytes_toBytes]

variable {json : SerdeJson T} {c : Codec T} {message : T}

theorem sendMessage_eq (hjson : json.Writes c) (hlength : (c.toBytes message).length < 2 ^ 32)
    (encodeContext tooLarge : String) (written : List UInt8) :
    sendMessage json encodeContext tooLarge ⟨written, none⟩ message =
      (.ok (), ⟨written ++ frame (c.toBytes message), none⟩) := by
  have hencode : encodeMessage json message encodeContext = .ok (c.toBytes message) := by
    rw [encodeMessage, hjson.toVec]
  simp only [sendMessage, hencode, if_pos hlength, Sink.writeAll, frame, List.append_assoc]

theorem beginSend_eq (hjson : json.Writes c) (hlength : (c.toBytes message).length < 2 ^ 32)
    (encodeContext tooLarge : String) :
    beginSend (sendMessage json encodeContext tooLarge) message =
      (true, frame (c.toBytes message)) := by
  rw [beginSend, sendMessage_eq hjson hlength, List.nil_append]

theorem readMessage_eq (hjson : json.Writes c) (texts : ReadTexts) {rest : List UInt8}
    (hbytes : reader.bytes = frame (c.toBytes message) ++ rest)
    (hlimit : (c.toBytes message).length ≤ limit) (hlength : (c.toBytes message).length < 2 ^ 32) :
    ∃ reader', readMessage json limit texts reader = (.ok (some message), reader') ∧
      reader'.bytes = rest ∧ reader'.failure = reader.failure := by
  obtain ⟨reader', hframe, hrest, hfailure⟩ := readFrame_frame hbytes hlimit hlength
  have hdecode : decodeMessage json (c.toBytes message) texts.decode = .ok message := by
    rw [decodeMessage, hjson.fromSlice]
  refine ⟨reader', ?_, hrest, hfailure⟩
  simp only [readMessage, hframe, hdecode]

theorem readMessage_end (json : SerdeJson T) (limit : Nat) (texts : ReadTexts)
    (hbytes : reader.bytes = []) (hend : reader.failure = none) :
    readMessage json limit texts reader = (.ok none, reader) := by
  rw [readMessage, readFrame_end hbytes, hend]

/-! ### Many messages -/

/-- Messages sent one after the other, up to the first that fails. -/
def sendAll (send : Sink UInt8 IoError → T → Except AnyError Unit × Sink UInt8 IoError) :
    Sink UInt8 IoError → List T → Except AnyError Unit × Sink UInt8 IoError
  | writer, [] => (.ok (), writer)
  | writer, message :: messages =>
      match send writer message with
      | (.ok _, writer) => sendAll send writer messages
      | (.error err, writer) => (.error err, writer)

/-- What `n` reads one after the other return. -/
def readTimes (read : Source UInt8 IoError → Except AnyError (Option T) × Source UInt8 IoError) :
    Nat → Source UInt8 IoError → List (Except AnyError (Option T))
  | 0, _ => []
  | n + 1, reader => (read reader).1 :: readTimes read n (read reader).2

variable {messages : List T}

theorem sendAll_eq (hjson : json.Writes c) (encodeContext tooLarge : String)
    (hlength : ∀ m ∈ messages, (c.toBytes m).length < 2 ^ 32) (written : List UInt8) :
    sendAll (sendMessage json encodeContext tooLarge) ⟨written, none⟩ messages =
      (.ok (), ⟨written ++ frames c messages, none⟩) := by
  induction messages generalizing written with
  | nil => simp [sendAll, frames]
  | cons m messages ih =>
      have hm := hlength m List.mem_cons_self
      have hrest := ih fun m' hm' => hlength m' (List.mem_cons_of_mem m hm')
      rw [sendAll, sendMessage_eq hjson hm]
      simp only [hrest, frames_cons, List.append_assoc]

/-- **The reader returns what the writer wrote**, message by message, and then the end. -/
theorem readTimes_eq (hjson : json.Writes c) (hlimit : limit < 2 ^ 32) (texts : ReadTexts)
    (hlength : ∀ m ∈ messages, (c.toBytes m).length ≤ limit)
    (hbytes : reader.bytes = frames c messages) (hend : reader.failure = none) :
    readTimes (readMessage json limit texts) (messages.length + 1) reader =
      messages.map (fun m => .ok (some m)) ++ [.ok none] := by
  induction messages generalizing reader with
  | nil => rw [List.length_nil, readTimes, readMessage_end json limit texts hbytes hend]; rfl
  | cons m messages ih =>
      have hm := hlength m List.mem_cons_self
      obtain ⟨reader', hread, hrest, hfailure⟩ :=
        readMessage_eq hjson texts hbytes hm (Nat.lt_of_le_of_lt hm hlimit)
      have hothers := ih (fun m' hm' => hlength m' (List.mem_cons_of_mem m hm')) hrest
        (hfailure.trans hend)
      rw [List.length_cons, readTimes, hread, hothers]
      rfl

/-! ### A stream that is cut off -/

/-- A message comes from a whole frame. -/
theorem readFrame_of_readMessage {texts : ReadTexts}
    (hread : readMessage json limit texts reader = (.ok (some message), r)) :
    ∃ buffer, readFrame limit reader = (.payload buffer, r) := by
  unfold readMessage at hread
  split at hread
  · cases hread
  · split at hread <;> cases hread
  · cases hread
  · cases hread
  · cases hread
  · next buffer reader' hframe =>
      split at hread
      · cases hread
      · cases hread
        exact ⟨buffer, hframe⟩

/-- **What is read of a stream that may have been cut off** is the next message: `missing` is what
the stream does not have, or not yet. -/
theorem readMessage_of_cut (hjson : json.Writes c) (hlimit : limit < 2 ^ 32) {texts : ReadTexts}
    (hlength : ∀ m ∈ messages, (c.toBytes m).length ≤ limit) {missing : List UInt8}
    (hbytes : reader.bytes ++ missing = frames c messages)
    (hread : readMessage json limit texts reader = (.ok (some message), r)) :
    ∃ rest, messages = message :: rest ∧ r.bytes ++ missing = frames c rest := by
  obtain ⟨buffer, hframe⟩ := readFrame_of_readMessage hread
  cases messages with
  | nil =>
      rw [readFrame_end (List.append_eq_nil_iff.mp hbytes).1] at hframe
      cases hframe
  | cons m rest =>
      have hm := hlength m List.mem_cons_self
      rw [frames_cons] at hbytes
      -- the whole frame has come, or there would be no message
      obtain ⟨more, hfull, hrest⟩ : ∃ more, reader.bytes = frame (c.toBytes m) ++ more ∧
          more ++ missing = frames c rest := by
        rcases List.append_eq_append_iff.mp hbytes with ⟨t, hcut, hmissing⟩ | ⟨more, hfull, hrest⟩
        · by_cases ht : t = []
          · subst ht
            exact ⟨[], by rw [hcut, List.append_nil, List.append_nil], hmissing⟩
          · rcases readFrame_cut hcut.symm ht hm (Nat.lt_of_le_of_lt hm hlimit) with h | h
            · rw [hframe] at h
              cases h
            · rw [hframe] at h
              cases h
        · exact ⟨more, hfull, hrest.symm⟩
      obtain ⟨r', hr', hmore, -⟩ :=
        readMessage_eq hjson texts hfull hm (Nat.lt_of_le_of_lt hm hlimit)
      cases hread.symm.trans hr'
      exact ⟨rest, rfl, by rw [hmore]; exact hrest⟩

/-- Every message of the list is sent, and however the transport cuts the bytes that were written,
reading them returns the list and then the end of the stream. -/
def RoundTrip (send : Sink UInt8 IoError → T → Except AnyError Unit × Sink UInt8 IoError)
    (read : Source UInt8 IoError → Except AnyError (Option T) × Source UInt8 IoError)
    (messages : List T) : Prop :=
  ∃ bytes, sendAll send ⟨[], none⟩ messages = (.ok (), ⟨bytes, none⟩) ∧
    ∀ reader : Source UInt8 IoError, reader.bytes = bytes → reader.failure = none →
      readTimes read (messages.length + 1) reader =
        messages.map (fun m => .ok (some m)) ++ [.ok none]

theorem roundTrip_of_length (hjson : json.Writes c) (encodeContext tooLarge : String)
    (hlimit : limit < 2 ^ 32) (texts : ReadTexts)
    (hlength : ∀ m ∈ messages, (c.toBytes m).length ≤ limit) :
    RoundTrip (sendMessage json encodeContext tooLarge) (readMessage json limit texts)
      messages := by
  refine ⟨frames c messages, ?_, ?_⟩
  · exact sendAll_eq hjson encodeContext tooLarge
      (fun m hm => Nat.lt_of_le_of_lt (hlength m hm) hlimit) []
  · intro reader hbytes hend
    exact readTimes_eq hjson hlimit texts hlength hbytes hend

end

/-- **Both directions of a session carry payloads of up to 262141 bytes.** -/
theorem session_round_trip (inputJson : SerdeJson ProcessInput)
    (outputJson : SerdeJson ProcessOutput) (hinput : inputJson.Writes processInput)
    (houtput : outputJson.Writes processOutput) :
    (∀ messages : List ProcessInput, (∀ m ∈ messages, m.payload.length ≤ 262141) →
      RoundTrip (sendProcessMessage inputJson) (readSessionMessage inputJson) messages) ∧
    ∀ messages : List ProcessOutput, (∀ m ∈ messages, m.payload.length ≤ 262141) →
      RoundTrip (sendSessionMessage outputJson) (readProcessMessage outputJson) messages := by
  constructor
  · intro messages hpayload
    apply roundTrip_of_length hinput _ _ (by decide)
    intro m hm
    have hm' := hpayload m hm
    have hlength := length_processInput_le m
    unfold maxSessionMessageSize
    omega
  · intro messages hpayload
    apply roundTrip_of_length houtput _ _ (by decide)
    intro m hm
    have hm' := hpayload m hm
    have hlength := length_processOutput_le m
    omega

/-- The longest text for a number of bytes is three digits for each. -/
theorem length_stdout_replicate (n : Nat) :
    (processOutput.toBytes (.stdout (List.replicate (n + 1) 255))).length = (n + 1) * 4 + 12 := by
  have hbyte : Codec.byteLength (Codec.uint8.print 255) = 3 := rfl
  have hopen : '['.utf8Size = 1 := rfl
  have hsum : Codec.byteLength (Json.bytes.print (List.replicate (n + 1) 255)) =
      1 + (n + 1) * 4 := by
    show Codec.byteLength ('[' :: (Codec.separated Codec.uint8 ']' _ _ _).print
      (255 :: List.replicate n 255)) = _
    rw [Codec.byteLength_cons, Codec.byteLength_separated_cons rfl, ← List.replicate_succ,
      List.map_replicate, List.sum_replicate, smul_eq_mul, hbyte, hopen]
  rw [Codec.length_toBytes, byteLength_stdout, hsum]
  omega

/-- A payload of the longest kind makes a frame of exactly the length that the daemon still
reads. -/
theorem longest_output_round_trip :
    (processOutput.toBytes (.stdout (List.replicate 262141 255))).length = 1024 * 1024 ∧
      RoundTrip (sendSessionMessage (serdeJson processOutput))
        (readProcessMessage (serdeJson processOutput))
        [.stdout (List.replicate 262141 255), .exitStatus 0] := by
  constructor
  · exact length_stdout_replicate 262140
  · apply (session_round_trip _ _ (serdeJson_writes processInput)
      (serdeJson_writes processOutput)).2
    intro m hm
    rcases List.mem_cons.mp hm with rfl | hm
    · rw [ProcessOutput.payload, List.length_replicate]
    · obtain rfl := List.mem_singleton.mp hm
      exact Nat.zero_le _

end Narrowd.Executor
