import Narrowd.Lib.Codec
import Narrowd.Config.Parse

set_option autoImplicit false

/-! # The executor's messages

The requests and responses that the daemon and its executor process exchange, and the compact
JSON in which `serde_json` writes them: a struct is an object with its fields in order, an
enumeration is tagged from outside, `None` is `null`, and a `BTreeMap` is an object with its keys
in order. Every codec below is put together from those of `Lib/Codec`, so that reading back what
was written needs no proof here.
-/

namespace Narrowd.Executor

open Lib Config

/-! ## Messages -/

/-- A `BTreeMap<String, String>`: the entries in the order of their keys. -/
def Env := { entries : List (Text × Text) // entries.Pairwise (fun a b => a.1 < b.1) }
  deriving DecidableEq

/-- The map without entries. -/
def Env.empty : Env := ⟨[], List.Pairwise.nil⟩

structure SerializablePtySize where
  rows : UInt16
  cols : UInt16
  pixelWidth : UInt16
  pixelHeight : UInt16
  deriving DecidableEq

structure SerializablePtyRequest where
  term : Text
  size : SerializablePtySize
  deriving DecidableEq

structure ProcessRequest where
  pty : Option SerializablePtyRequest
  env : Env
  command : Option Text
  deriving DecidableEq

structure ExecutorHello where
  homeDir : PathBuf
  shell : PathBuf
  execMode : ExecMode
  deriving DecidableEq

inductive ExecutorRequest
  | hello (hello : ExecutorHello)
  | startProcess (requestId : UInt64) (request : ProcessRequest)
  | startSftp (requestId : UInt64)
  | connectTcp (requestId : UInt64) (host : Text) (port : UInt16)
  | startRemoteForward (requestId token : UInt64) (bindAddress : Text) (bindPort : UInt16)
  | cancelRemoteForward (requestId token : UInt64)
  deriving DecidableEq

inductive ResponseDetail
  | empty
  | boundPort (port : UInt16)
  deriving DecidableEq

inductive ExecutorResponse
  | helloAck
  | requestOk (requestId : UInt64) (detail : ResponseDetail)
  | requestErr (requestId : UInt64) (message : Text)
  | remoteForwardIncoming (token : UInt64) (originatorAddress : Text) (originatorPort : UInt32)
  deriving DecidableEq

/-- The id under which a request waits for its response. -/
def requestId : ExecutorRequest → Option UInt64
  | .hello _ => none
  | .startProcess id _ => some id
  | .startSftp id => some id
  | .connectTcp id _ _ => some id
  | .startRemoteForward id _ _ _ => some id
  | .cancelRemoteForward id _ => some id

/-- The id of the request that a response answers. -/
def responseId : ExecutorResponse → Option UInt64
  | .requestOk id _ => some id
  | .requestErr id _ => some id
  | _ => none

/-! ## Their JSON -/

namespace Json

open Codec

variable {α β : Type}

/-- `"name":` -/
def label (name : String) : List Char := str.print name.toList ++ [':']

/-- The first field of an object. -/
def first (name : String) (c : Codec α) : Codec α := c.after ('\x7b' :: label name)

/-- A field after others. -/
def next (name : String) (c : Codec α) : Codec α := c.after (',' :: label name)

/-- The last field's object ends here. -/
def close (c : Codec α) : Codec α := c.closed '\x7d' rfl

/-- A field that delimits itself needs nothing more before the next one, and a number is ended by
the comma. -/
def fields (a : Codec α) (name : String) (b : Codec β) : Codec (α × β) :=
  seq a (next name b) (fun _ _ _ => noDigit_cons rfl)

/-- `Option<T>`, for a `T` whose texts do not begin as `null` does. -/
def option (c : Codec α) (hc : ∀ a r t, "null".toList ++ r ≠ c.print a ++ t) :
    Codec (Option α) :=
  (either (lit "null".toList) c (fun _ => hc)).refine
    (fun o => match o with
      | none => .inl ()
      | some a => .inr a)
    (fun v => match v with
      | .inl _ => some none
      | .inr a => some (some a))
    (fun o => by cases o <;> rfl)
    (fun v o h => by
      cases v with
      | inl u => cases h; rfl
      | inr a => cases h; rfl)

/-- The variants of an enumeration that carry data: the object with the variant's name as its only
key. -/
def tagged {ι : Type} {β : ι → Type} (tag : Codec ι) (k : (i : ι) → Codec (β i)) :
    Codec (Σ i, β i) :=
  sigma ((tag.closed ':' rfl).after ['\x7b']) (fun i => close (k i)) false
    (fun h => nomatch h) (fun _ h => nomatch h)

/-! ### Fields -/

def ptySize : Codec SerializablePtySize :=
  (close (fields (fields (fields (first "rows" uint16) "cols" uint16) "pixel_width" uint16)
      "pixel_height" uint16)).refine
    (fun s => (((s.rows, s.cols), s.pixelWidth), s.pixelHeight))
    (fun p => some ⟨p.1.1.1, p.1.1.2, p.1.2, p.2⟩) (fun _ => rfl) (fun _ _ h => by cases h; rfl)

def ptyRequest : Codec SerializablePtyRequest :=
  (close (fields (first "term" str) "size" ptySize)).refine
    (fun r => (r.term, r.size)) (fun p => some ⟨p.1, p.2⟩) (fun _ => rfl)
    (fun _ _ h => by cases h; rfl)

/-- One entry of a map. -/
def entry : Codec (Text × Text) :=
  seq (str.closed ':' rfl) str (fun h => nomatch h)

def env : Codec Env :=
  ((separated entry '\x7d' (fun a => ⟨quote, _, rfl, by decide⟩) rfl (by decide)).after
      ['\x7b']).refine
    (fun e => e.1)
    (fun l => if h : l.Pairwise (fun a b => a.1 < b.1) then some ⟨l, h⟩ else none)
    (fun e => by rw [dif_pos e.2]; rfl)
    (fun l e h => by
      split at h
      · cases h; rfl
      · cases h)

def processRequest : Codec ProcessRequest :=
  (close (fields (fields (first "pty" (option ptyRequest (fun _ _ _ h => nomatch h))) "env" env)
      "command" (option str (fun _ _ _ h => nomatch h)))).refine
    (fun r => ((r.pty, r.env), r.command)) (fun p => some ⟨p.1.1, p.1.2, p.2⟩) (fun _ => rfl)
    (fun _ _ h => by cases h; rfl)

/-! ### Enumerations -/

def execMode : Codec ExecMode :=
  names str [.shellLogin, .shellCommand, .powerShell, .cmd]
    (fun
      | .shellLogin => "ShellLogin".toList
      | .shellCommand => "ShellCommand".toList
      | .powerShell => "PowerShell".toList
      | .cmd => "Cmd".toList)
    (fun mode => by cases mode <;> rfl)

def executorHello : Codec ExecutorHello :=
  (close (fields (fields (first "home_dir" str) "shell" str) "exec_mode" execMode)).refine
    (fun h => ((h.homeDir, h.shell), h.execMode)) (fun p => some ⟨p.1.1, p.1.2, p.2⟩)
    (fun _ => rfl) (fun _ _ h => by cases h; rfl)

/-- The variants of `ExecutorRequest`. -/
inductive RequestTag
  | hello | startProcess | startSftp | connectTcp | startRemoteForward | cancelRemoteForward
  deriving DecidableEq

def requestTag : Codec RequestTag :=
  names str
    [.hello, .startProcess, .startSftp, .connectTcp, .startRemoteForward, .cancelRemoteForward]
    (fun
      | .hello => "Hello".toList
      | .startProcess => "StartProcess".toList
      | .startSftp => "StartSftp".toList
      | .connectTcp => "ConnectTcp".toList
      | .startRemoteForward => "StartRemoteForward".toList
      | .cancelRemoteForward => "CancelRemoteForward".toList)
    (fun tag => by cases tag <;> rfl)

/-- The fields of each variant. -/
def RequestFields : RequestTag → Type
  | .hello => ExecutorHello
  | .startProcess => UInt64 × ProcessRequest
  | .startSftp => UInt64
  | .connectTcp => (UInt64 × Text) × UInt16
  | .startRemoteForward => ((UInt64 × UInt64) × Text) × UInt16
  | .cancelRemoteForward => UInt64 × UInt64

def requestFields : (tag : RequestTag) → Codec (RequestFields tag)
  | .hello => executorHello
  | .startProcess => close (fields (first "request_id" uint64) "request" processRequest)
  | .startSftp => close (first "request_id" uint64)
  | .connectTcp => close (fields (fields (first "request_id" uint64) "host" str) "port" uint16)
  | .startRemoteForward =>
      close (fields (fields (fields (first "request_id" uint64) "token" uint64)
        "bind_address" str) "bind_port" uint16)
  | .cancelRemoteForward => close (fields (first "request_id" uint64) "token" uint64)

/-- `ExecutorRequest` as `serde_json` writes it. -/
def executorRequest : Codec ExecutorRequest :=
  (tagged requestTag requestFields).refine
    (fun
      | .hello h => ⟨.hello, h⟩
      | .startProcess id r => ⟨.startProcess, (id, r)⟩
      | .startSftp id => ⟨.startSftp, id⟩
      | .connectTcp id host port => ⟨.connectTcp, ((id, host), port)⟩
      | .startRemoteForward id token address port =>
          ⟨.startRemoteForward, (((id, token), address), port)⟩
      | .cancelRemoteForward id token => ⟨.cancelRemoteForward, (id, token)⟩)
    (fun
      | ⟨.hello, h⟩ => some (.hello h)
      | ⟨.startProcess, p⟩ => some (.startProcess p.1 p.2)
      | ⟨.startSftp, id⟩ => some (.startSftp id)
      | ⟨.connectTcp, p⟩ => some (.connectTcp p.1.1 p.1.2 p.2)
      | ⟨.startRemoteForward, p⟩ => some (.startRemoteForward p.1.1.1 p.1.1.2 p.1.2 p.2)
      | ⟨.cancelRemoteForward, p⟩ => some (.cancelRemoteForward p.1 p.2))
    (fun r => by cases r <;> rfl)
    (fun p r h => by obtain ⟨tag, p⟩ := p; cases tag <;> cases h <;> rfl)

def responseDetail : Codec ResponseDetail :=
  (either (lit (str.print "Empty".toList)) (close (first "BoundPort" uint16))
      (fun _ _ _ _ h => nomatch h)).refine
    (fun
      | .empty => .inl ()
      | .boundPort port => .inr port)
    (fun
      | .inl _ => some .empty
      | .inr port => some (.boundPort port))
    (fun d => by cases d <;> rfl)
    (fun v d h => by cases v <;> cases h <;> rfl)

/-- The variants of `ExecutorResponse` that carry data. -/
inductive ResponseTag
  | requestOk | requestErr | remoteForwardIncoming
  deriving DecidableEq

def responseTag : Codec ResponseTag :=
  names str [.requestOk, .requestErr, .remoteForwardIncoming]
    (fun
      | .requestOk => "RequestOk".toList
      | .requestErr => "RequestErr".toList
      | .remoteForwardIncoming => "RemoteForwardIncoming".toList)
    (fun tag => by cases tag <;> rfl)

def ResponseFields : ResponseTag → Type
  | .requestOk => UInt64 × ResponseDetail
  | .requestErr => UInt64 × Text
  | .remoteForwardIncoming => (UInt64 × Text) × UInt32

def responseFields : (tag : ResponseTag) → Codec (ResponseFields tag)
  | .requestOk => close (fields (first "request_id" uint64) "detail" responseDetail)
  | .requestErr => close (fields (first "request_id" uint64) "message" str)
  | .remoteForwardIncoming =>
      close (fields (fields (first "token" uint64) "originator_address" str)
        "originator_port" uint32)

/-- `ExecutorResponse` as `serde_json` writes it. -/
def executorResponse : Codec ExecutorResponse :=
  (either (lit (str.print "HelloAck".toList)) (tagged responseTag responseFields)
      (fun _ _ _ _ h => nomatch h)).refine
    (fun
      | .helloAck => .inl ()
      | .requestOk id detail => .inr ⟨.requestOk, (id, detail)⟩
      | .requestErr id message => .inr ⟨.requestErr, (id, message)⟩
      | .remoteForwardIncoming token address port =>
          .inr ⟨.remoteForwardIncoming, ((token, address), port)⟩)
    (fun
      | .inl _ => some .helloAck
      | .inr ⟨.requestOk, p⟩ => some (.requestOk p.1 p.2)
      | .inr ⟨.requestErr, p⟩ => some (.requestErr p.1 p.2)
      | .inr ⟨.remoteForwardIncoming, p⟩ => some (.remoteForwardIncoming p.1.1 p.1.2 p.2))
    (fun r => by cases r <;> rfl)
    (fun v r h => by
      cases v with
      | inl u => cases h; rfl
      | inr p => obtain ⟨tag, p⟩ := p; cases tag <;> cases h <;> rfl)

/-! ### How long the texts are -/

theorem byteLength_tagged {ι : Type} {β : ι → Type} (tag : Codec ι) (k : (i : ι) → Codec (β i))
    (i : ι) (b : β i) :
    byteLength ((tagged tag k).print ⟨i, b⟩) =
      byteLength (tag.print i) + byteLength ((k i).print b) + 3 := by
  show byteLength (['\x7b'] ++ (tag.print i ++ [':']) ++ ((k i).print b ++ ['\x7d'])) = _
  simp only [byteLength_append]
  have hopen : byteLength ['\x7b'] = 1 := rfl
  have hcolon : byteLength [':'] = 1 := rfl
  have hclose : byteLength ['\x7d'] = 1 := rfl
  omega

theorem byteLength_uint16_le (n : UInt16) : byteLength (uint16.print n) ≤ 5 :=
  byteLength_toDigits_le (by decide) (Nat.lt_trans n.toNat_lt (by decide))

theorem byteLength_uint32_le (n : UInt32) : byteLength (uint32.print n) ≤ 10 :=
  byteLength_toDigits_le (by decide) (Nat.lt_trans n.toNat_lt (by decide))

theorem byteLength_uint64_le (n : UInt64) : byteLength (uint64.print n) ≤ 20 :=
  byteLength_toDigits_le (by decide) (Nat.lt_trans n.toNat_lt (by decide))

/-! ### Two texts in full -/

theorem print_connectTcp (id : UInt64) (host : Text) (port : UInt16) :
    executorRequest.print (.connectTcp id host port) =
      "\x7b\"ConnectTcp\":\x7b\"request_id\":".toList ++ (Nat.toDigits 10 id.toNat ++
        (",\"host\":".toList ++ (str.print host ++ (",\"port\":".toList ++
          (Nat.toDigits 10 port.toNat ++ "\x7d\x7d".toList))))) := by
  show _ ++ ((((_ ++ Nat.toDigits 10 id.toNat) ++ (_ ++ str.print host)) ++
    (_ ++ Nat.toDigits 10 port.toNat) ++ _) ++ _) = _
  simp only [List.append_assoc]
  rfl

theorem print_requestErr (id : UInt64) (message : Text) :
    executorResponse.print (.requestErr id message) =
      "\x7b\"RequestErr\":\x7b\"request_id\":".toList ++ (Nat.toDigits 10 id.toNat ++
        (",\"message\":".toList ++ (str.print message ++ "\x7d\x7d".toList))) := by
  show _ ++ (((_ ++ Nat.toDigits 10 id.toNat) ++ (_ ++ str.print message) ++ _) ++ _) = _
  simp only [List.append_assoc]
  rfl

end Json

end Narrowd.Executor
