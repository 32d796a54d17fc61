import Narrowd.Lib.Ledger
import Narrowd.Lib.Numerals
import Narrowd.Lib.Run
import Narrowd.Sftp.Symlink

set_option autoImplicit false

/-! # The handles of an SFTP session

`LocalSftp` keeps what a client has opened in a map from handles to `HandleState`s. A handle is the
text `h1`, `h2`, …, drawn from a counter of the session, and a client may send any text where a
handle is expected. The requests are modelled with the system calls that they make: `Os` is the
answer that the operating system has for each call, a new one for each request, so that every call
may fail at any time and the files may change in between.

A handle is never given out twice, and a text that is no handle, or no longer one, is refused
without any effect. A request on a handle acts on the descriptor that was opened for it, with one
exception: `fstat` on a directory asks for the metadata of the *path* the directory was opened
under. `handles_never_alias_iff` says that every step of a session keeps to what was opened if and
only if these paths still lead there.
-/

namespace Narrowd.Sftp

open Lib

/-! ## The operating system -/

/-- An open file or directory. `object` is what was opened; one object may be opened several
times. -/
structure Descriptor (O : Type*) where
  number : Nat
  object : O
  deriving DecidableEq, Repr

/-- What a handle stands for. -/
inductive HandleState (O : Type*)
  | file (file : Descriptor O)
  | dir (path : PathBuf) (entries : Descriptor O)
  deriving DecidableEq, Repr

/-- The answers of the operating system to the calls made for one request. `A` are the attributes of
a file. -/
structure Os (O A : Type*) where
  openFile : PathBuf → UInt32 → Except IoError (Descriptor O)
  readDir : PathBuf → Except IoError (Descriptor O)
  seek : Descriptor O → UInt64 → Except IoError Unit
  read : Descriptor O → Nat → Except IoError (List UInt8)
  writeAll : Descriptor O → List UInt8 → Except IoError Unit
  flush : Descriptor O → Except IoError Unit
  fileMetadata : Descriptor O → Except IoError A
  /-- What a path leads to, all links followed. -/
  resolve : PathBuf → Except IoError O
  metadata : O → Except IoError A
  nextEntry : Descriptor O → Except IoError (Option Text)
  entryMetadata : Descriptor O → Text → Except IoError A

/-- The calls; the two that open something with their answers. `drop` closes what a handle stood
for. -/
inductive Call (O : Type*)
  | openFile (path : PathBuf) (pflags : UInt32) (file : Except IoError (Descriptor O))
  | readDir (path : PathBuf) (entries : Except IoError (Descriptor O))
  | seek (file : Descriptor O) (offset : UInt64)
  | read (file : Descriptor O) (len : Nat)
  | writeAll (file : Descriptor O) (data : List UInt8)
  | flush (file : Descriptor O)
  | fileMetadata (file : Descriptor O)
  | metadata (path : PathBuf)
  | nextEntry (entries : Descriptor O)
  | entryMetadata (entries : Descriptor O) (name : Text)
  | drop (state : HandleState O)

/-- What a request comes to: the calls made for it, in order, and its result. -/
structure Served (O X : Type*) where
  calls : List (Call O)
  result : Except StatusReply X

namespace Served

variable {O X Y : Type*}

def ok (x : X) : Served O X := { calls := [], result := .ok x }

def fail (reply : StatusReply) : Served O X := { calls := [], result := .error reply }

/-- `call.await.map_err(io_error_to_status)?`, and what follows it. -/
def attempt (call : Call O) (answer : Except IoError Y) (rest : Y → Served O X) : Served O X :=
  match answer with
  | .ok y => { calls := call :: (rest y).calls, result := (rest y).result }
  | .error err => { calls := [call], result := .error (ioErrorToStatus err) }

def map (f : X → Y) (served : Served O X) : Served O Y :=
  { calls := served.calls, result := served.result.map f }

end Served

/-! ## The handler -/

structure Handle where
  id : Nat
  handle : Text
  deriving DecidableEq, Repr

structure Data where
  id : Nat
  data : List UInt8
  deriving DecidableEq, Repr

structure Attrs (A : Type*) where
  id : Nat
  attrs : A
  deriving DecidableEq, Repr

/-- The files of a `Name` reply with their names. -/
structure Name (A : Type*) where
  id : Nat
  files : List (Text × A)
  deriving DecidableEq, Repr

structure LocalSftp (O : Type*) where
  rootDir : PathBuf
  handles : Table Text (HandleState O)
  nextHandleId : UInt64

def maxSftpReadLen : Nat := 2 ^ 20

def unknownHandle : StatusReply :=
  { code := .noSuchFile, message := some "unknown SFTP handle" }

/-- `format!("h{id}")`. -/
def handleName (id : Nat) : Text := 'h' :: Nat.toDigits 10 id

section

variable {O A X : Type*}

namespace HandleState

variable (os : Os O A) (id : Nat)

/-- `LocalSftp::read`, once the handle is found. -/
def read (offset : UInt64) (len : Nat) : HandleState O → Served O Data
  | .dir _ _ => .fail { code := .failure, message := some "handle is not a file" }
  | .file f =>
      let effectiveLen := min len maxSftpReadLen
      .attempt (.seek f offset) (os.seek f offset) fun _ =>
      .attempt (.read f effectiveLen) (os.read f effectiveLen) fun bytes =>
        -- the buffer has `effectiveLen` bytes, and is cut to what was read
        let buffer := bytes.take effectiveLen
        if buffer.length = 0 then .fail { code := .eof, message := none }
        else .ok { id := id, data := buffer }

/-- `LocalSftp::write`, once the handle is found. -/
def write (offset : UInt64) (data : List UInt8) : HandleState O → Served O Status
  | .dir _ _ => .fail { code := .failure, message := some "handle is not a file" }
  | .file f =>
      .attempt (.seek f offset) (os.seek f offset) fun _ =>
      .attempt (.writeAll f data) (os.writeAll f data) fun _ =>
      .attempt (.flush f) (os.flush f) fun _ =>
        .ok (okStatus id)

/-- `LocalSftp::fstat`, once the handle is found. -/
def fstat : HandleState O → Served O (Attrs A)
  | .file f =>
      .attempt (.fileMetadata f) (os.fileMetadata f) fun attrs =>
        .ok { id := id, attrs := attrs }
  | .dir path _ =>
      .attempt (.metadata path) ((os.resolve path).bind os.metadata) fun attrs =>
        .ok { id := id, attrs := attrs }

/-- `LocalSftp::readdir`, once the handle is found. -/
def readdir : HandleState O → Served O (Name A)
  | .file _ => .fail { code := .failure, message := some "handle is not a directory" }
  | .dir _ entries =>
      .attempt (.nextEntry entries) (os.nextEntry entries) fun
        | some filename =>
            .attempt (.entryMetadata entries filename)
              (os.entryMetadata entries filename) fun attrs =>
              .ok { id := id, files := [(filename, attrs)] }
        | none => .fail { code := .eof, message := none }

end HandleState

namespace LocalSftp

def new (rootDir : PathBuf) : LocalSftp O := { rootDir := rootDir, handles := ∅, nextHandleId := 0 }

def makeHandle (sftp : LocalSftp O) : LocalSftp O × Text :=
  let nextHandleId := sftp.nextHandleId + 1
  ({ sftp with nextHandleId := nextHandleId }, handleName nextHandleId.toNat)

/-- What `open` and `opendir` do with what they have opened. -/
def register (sftp : LocalSftp O) (id : Nat) (state : HandleState O) : LocalSftp O × Handle :=
  let (sftp, handle) := sftp.makeHandle
  ({ sftp with handles := sftp.handles.insert handle state }, { id := id, handle := handle })

/-- `LocalSftp::open`. -/
def openFile (p : Platform) (sftp : LocalSftp O) (os : Os O A) (id : Nat) (filename : Text)
    (pflags : UInt32) : LocalSftp O × Served O Handle :=
  let path := resolvePath p sftp.rootDir filename
  match os.openFile path pflags with
  | .error err =>
      (sftp, { calls := [.openFile path pflags (.error err)],
               result := .error (ioErrorToStatus err) })
  | .ok file =>
      let (sftp, handle) := sftp.register id (.file file)
      (sftp, { calls := [.openFile path pflags (.ok file)], result := .ok handle })

def opendir (p : Platform) (sftp : LocalSftp O) (os : Os O A) (id : Nat) (path : Text) :
    LocalSftp O × Served O Handle :=
  let path := resolvePath p sftp.rootDir path
  match os.readDir path with
  | .error err =>
      (sftp, { calls := [.readDir path (.error err)], result := .error (ioErrorToStatus err) })
  | .ok entries =>
      let (sftp, handle) := sftp.register id (.dir path entries)
      (sftp, { calls := [.readDir path (.ok entries)], result := .ok handle })

def close (sftp : LocalSftp O) (id : Nat) (handle : Text) : LocalSftp O × Served O Status :=
  match sftp.handles.lookup handle with
  | none => (sftp, .fail unknownHandle)
  | some state =>
      ({ sftp with handles := sftp.handles.erase handle },
        { calls := [.drop state], result := .ok (okStatus id) })

/-- `self.handles.get_mut(&handle).ok_or_else(..)?`, and what follows it. -/
def withHandle (sftp : LocalSftp O) (handle : Text) (rest : HandleState O → Served O X) :
    Served O X :=
  match sftp.handles.lookup handle with
  | none => .fail unknownHandle
  | some state => rest state

variable (sftp : LocalSftp O) (os : Os O A) (id : Nat) (handle : Text)

def read (offset : UInt64) (len : Nat) : Served O Data :=
  sftp.withHandle handle (HandleState.read os id offset len)

def write (offset : UInt64) (data : List UInt8) : Served O Status :=
  sftp.withHandle handle (HandleState.write os id offset data)

def fstat : Served O (Attrs A) := sftp.withHandle handle (HandleState.fstat os id)

def readdir : Served O (Name A) := sftp.withHandle handle (HandleState.readdir os id)

end LocalSftp

end

/-! ## A session -/

/-- The requests that name a handle. -/
inductive Operation
  | close
  | read (offset : UInt64) (len : Nat)
  | write (offset : UInt64) (data : List UInt8)
  | fstat
  | readdir
  deriving DecidableEq, Repr

inductive Request
  | openFile (id : Nat) (filename : Text) (pflags : UInt32)
  | opendir (id : Nat) (path : Text)
  | on (id : Nat) (handle : Text) (operation : Operation)
  deriving DecidableEq, Repr

inductive Reply (A : Type*)
  | handle (handle : Handle)
  | status (status : Status)
  | data (data : Data)
  | attrs (attrs : Attrs A)
  | name (name : Name A)
  deriving DecidableEq, Repr

variable {n : Text} {id : Nat} {op : Operation} {X Y : Type*} {answer : Except IoError Y}

section

variable {O A : Type*}

/-- The server answers the requests of a session one after the other. -/
def serve (p : Platform) (sftp : LocalSftp O) (os : Os O A) :
    Request → LocalSftp O × Served O (Reply A)
  | .openFile id filename pflags =>
      let (sftp', served) := sftp.openFile p os id filename pflags
      (sftp', served.map .handle)
  | .opendir id path =>
      let (sftp', served) := sftp.opendir p os id path
      (sftp', served.map .handle)
  | .on id handle .close =>
      let (sftp', served) := sftp.close id handle
      (sftp', served.map .status)
  | .on id handle (.read offset len) => (sftp, (sftp.read os id handle offset len).map .data)
  | .on id handle (.write offset data) => (sftp, (sftp.write os id handle offset data).map .status)
  | .on id handle .fstat => (sftp, (sftp.fstat os id handle).map .attrs)
  | .on id handle .readdir => (sftp, (sftp.readdir os id handle).map .name)

/-- A request with the answers of the operating system, and what it came to. -/
structure Event (O A : Type*) where
  request : Request
  os : Os O A
  served : Served O (Reply A)

namespace Event

/-- The handle that the reply returns. -/
def returned (e : Event O A) : Option Text :=
  match e.served.result with
  | .ok (.handle reply) => some reply.handle
  | _ => none

/-- The handle that the reply returns, with what was opened for it. -/
def opened (e : Event O A) : Option (Text × HandleState O) :=
  match e.served.calls, e.returned with
  | [.openFile _ _ (.ok file)], some handle => some (handle, .file file)
  | [.readDir path (.ok entries)], some handle => some (handle, .dir path entries)
  | _, _ => none

/-- The handle that the request closed. -/
def closed (e : Event O A) : Option Text :=
  match e.request, e.served.result with
  | .on _ handle .close, .ok _ => some handle
  | _, _ => none

end Event

/-- The number of successful opens. -/
def opens (h : List (Event O A)) : Nat := (h.filterMap Event.returned).length

/-- One request of a session. -/
def SessionStep (p : Platform) (sftp : LocalSftp O) (e : Event O A) (sftp' : LocalSftp O) : Prop :=
  serve p sftp e.os e.request = (sftp', e.served)

/-! ## What a handle has to keep to -/

/-- What a request does to what its handle stands for. -/
def HandleState.perform (os : Os O A) (id : Nat) (state : HandleState O) :
    Operation → Served O (Reply A)
  | .close => { calls := [.drop state], result := .ok (.status (okStatus id)) }
  | .read offset len => (state.read os id offset len).map .data
  | .write offset data => (state.write os id offset data).map .status
  | .fstat => (state.fstat os id).map .attrs
  | .readdir => (state.readdir os id).map .name

/-- The call acts on the very file or directory. A call that takes a path acts on what the path
leads to at the time. -/
def Call.On (os : Os O A) : Call O → HandleState O → Prop
  | .seek f _, .file file => f = file
  | .read f _, .file file => f = file
  | .writeAll f _, .file file => f = file
  | .flush f, .file file => f = file
  | .fileMetadata f, .file file => f = file
  | .metadata path, .dir _ entries => os.resolve path = .ok entries.object
  | .nextEntry d, .dir _ entries => d = entries
  | .entryMetadata d _, .dir _ entries => d = entries
  | .drop state', state => state' = state
  | _, _ => False

/-- A step after the events `h` keeps the handles apart: a returned handle is a new one; a request
on a handle acts on exactly what was opened for it; a request on another text fails and has no
effect; and the session then holds what was opened and not closed. -/
structure KeepsApart (h : List (Event O A)) (sftp : LocalSftp O) (e : Event O A)
    (sftp' : LocalSftp O) : Prop where
  fresh : ∀ n, e.returned = some n → ∀ e' ∈ h, e'.returned ≠ some n
  acts : ∀ id n op state, e.request = .on id n op → Issued Event.opened h n state →
    ¬ Released Event.closed h n →
      e.served = state.perform e.os id op ∧ ∀ c ∈ e.served.calls, c.On e.os state
  refuses : ∀ id n op, e.request = .on id n op →
    ((∀ e' ∈ h, e'.returned ≠ some n) ∨ Released Event.closed h n) →
      e.served = .fail unknownHandle ∧ sftp' = sftp
  holds : ∀ n state, sftp'.handles.lookup n = some state ↔
    Issued Event.opened (e :: h) n state ∧ ¬ Released Event.closed (e :: h) n

/-- A request `fstat` on the handle of a directory finds the directory under the path it was opened
under. -/
def InPlace (sftp : LocalSftp O) (e : Event O A) : Prop :=
  ∀ id n path entries, e.request = .on id n .fstat →
    sftp.handles.lookup n = some (.dir path entries) → e.os.resolve path = .ok entries.object

/-! ## Handle names -/

theorem handleName_injective : Function.Injective handleName := by
  intro a b h
  have hdigits : Nat.toDigits 10 a = Nat.toDigits 10 b := (List.cons.inj h).2
  exact toDigits_inj (by decide) (by decide) hdigits

/-- The handles in the order they are given out. -/
def nthHandle (k : Nat) : Text := handleName (k + 1)

theorem nthHandle_injective : Function.Injective nthHandle :=
  handleName_injective.comp (add_left_injective 1)

/-! ## What a request can do -/

variable {p : Platform} {sftp sftp' : LocalSftp O} {os : Os O A} {e : Event O A}
  {h : List (Event O A)}

theorem serve_on_of_none (hn : sftp.handles.lookup n = none) :
    serve p sftp os (.on id n op) = (sftp, .fail unknownHandle) := by
  cases op with
  | close => simp [serve, LocalSftp.close, hn, Served.map, Served.fail, Except.map]
  | read offset len =>
      simp [serve, LocalSftp.read, LocalSftp.withHandle, hn, Served.map, Served.fail, Except.map]
  | write offset data =>
      simp [serve, LocalSftp.write, LocalSftp.withHandle, hn, Served.map, Served.fail, Except.map]
  | fstat => simp [serve, LocalSftp.fstat, LocalSftp.withHandle, hn, Served.map,
      Served.fail, Except.map]
  | readdir =>
      simp [serve, LocalSftp.readdir, LocalSftp.withHandle, hn, Served.map, Served.fail, Except.map]

/-- The session after a request on a handle that leads somewhere. -/
def LocalSftp.after (sftp : LocalSftp O) (n : Text) : Operation → LocalSftp O
  | .close => { sftp with handles := sftp.handles.erase n }
  | _ => sftp

variable {state : HandleState O}

theorem serve_on_of_some (hn : sftp.handles.lookup n = some state) :
    serve p sftp os (.on id n op) = (sftp.after n op, state.perform os id op) := by
  cases op with
  | close => simp [serve, LocalSftp.close, hn, Served.map, LocalSftp.after,
      HandleState.perform, Except.map]
  | read offset len =>
      simp [serve, LocalSftp.read, LocalSftp.withHandle, hn, LocalSftp.after, HandleState.perform]
  | write offset data =>
      simp [serve, LocalSftp.write, LocalSftp.withHandle, hn, LocalSftp.after, HandleState.perform]
  | fstat => simp [serve, LocalSftp.fstat, LocalSftp.withHandle, hn, LocalSftp.after,
      HandleState.perform]
  | readdir =>
      simp [serve, LocalSftp.readdir, LocalSftp.withHandle, hn, LocalSftp.after,
        HandleState.perform]

theorem Served.map_result_ne {served : Served O X} {f : X → Y} {y : Y} (hf : ∀ x, f x ≠ y) :
    (served.map f).result ≠ .ok y := by
  intro heq
  unfold Served.map at heq
  cases hresult : served.result with
  | error err =>
      rw [hresult] at heq
      cases heq
  | ok x =>
      rw [hresult] at heq
      exact hf x (Except.ok.inj heq)

/-- A request on a handle returns no new one. -/
theorem perform_ne_handle (os : Os O A) (id : Nat) (state : HandleState O) (op : Operation)
    (reply : Handle) : (state.perform os id op).result ≠ .ok (.handle reply) := by
  cases op with
  | close => exact fun heq => nomatch heq
  | read offset len => exact Served.map_result_ne (f := Reply.data) fun _ hx => nomatch hx
  | write offset data => exact Served.map_result_ne (f := Reply.status) fun _ hx => nomatch hx
  | fstat => exact Served.map_result_ne (f := Reply.attrs) fun _ hx => nomatch hx
  | readdir => exact Served.map_result_ne (f := Reply.name) fun _ hx => nomatch hx

/-- **What a step does.** -/
inductive Effect (sftp : LocalSftp O) (e : Event O A) (sftp' : LocalSftp O) : Prop
  /-- Nothing could be opened. -/
  | notOpened (hrequest : ∀ id n op, e.request ≠ .on id n op) (hreturned : e.returned = none)
      (heq : sftp' = sftp)
  | opened (id : Nat) (state : HandleState O) (hrequest : ∀ id n op, e.request ≠ .on id n op)
      (hopened : e.opened = some (handleName (sftp.nextHandleId + 1).toNat, state))
      (heq : sftp' = (sftp.register id state).1)
  | unknown (id : Nat) (n : Text) (op : Operation) (hrequest : e.request = .on id n op)
      (hn : sftp.handles.lookup n = none) (hserved : e.served = .fail unknownHandle)
      (heq : sftp' = sftp)
  | performed (id : Nat) (n : Text) (op : Operation) (state : HandleState O)
      (hrequest : e.request = .on id n op) (hn : sftp.handles.lookup n = some state)
      (hserved : e.served = state.perform e.os id op) (heq : sftp' = sftp.after n op)

theorem SessionStep.openFile_cases {filename : Text} {pflags : UInt32}
    (hrequest : e.request = .openFile id filename pflags) (hs : SessionStep p sftp e sftp') :
    (∃ path err, e.served = ⟨[.openFile path pflags (.error err)], .error (ioErrorToStatus err)⟩ ∧
        sftp' = sftp) ∨
      ∃ path f, e.served = ⟨[.openFile path pflags (.ok f)],
          .ok (.handle ⟨id, handleName (sftp.nextHandleId + 1).toNat⟩)⟩ ∧
        sftp' = (sftp.register id (.file f)).1 := by
  unfold SessionStep at hs
  rw [hrequest] at hs
  simp only [serve, LocalSftp.openFile] at hs
  cases hanswer : e.os.openFile (resolvePath p sftp.rootDir filename) pflags with
  | error err =>
      rw [hanswer] at hs
      obtain ⟨hsftp, hserved⟩ := Prod.mk.inj hs
      exact .inl ⟨_, err, hserved.symm, hsftp.symm⟩
  | ok f =>
      rw [hanswer] at hs
      obtain ⟨hsftp, hserved⟩ := Prod.mk.inj hs
      exact .inr ⟨_, f, hserved.symm, hsftp.symm⟩

theorem SessionStep.opendir_cases {path : Text}
    (hrequest : e.request = .opendir id path) (hs : SessionStep p sftp e sftp') :
    (∃ path err, e.served = ⟨[.readDir path (.error err)], .error (ioErrorToStatus err)⟩ ∧
        sftp' = sftp) ∨
      ∃ path entries, e.served = ⟨[.readDir path (.ok entries)],
          .ok (.handle ⟨id, handleName (sftp.nextHandleId + 1).toNat⟩)⟩ ∧
        sftp' = (sftp.register id (.dir path entries)).1 := by
  unfold SessionStep at hs
  rw [hrequest] at hs
  simp only [serve, LocalSftp.opendir] at hs
  cases hanswer : e.os.readDir (resolvePath p sftp.rootDir path) with
  | error err =>
      rw [hanswer] at hs
      obtain ⟨hsftp, hserved⟩ := Prod.mk.inj hs
      exact .inl ⟨_, err, hserved.symm, hsftp.symm⟩
  | ok entries =>
      rw [hanswer] at hs
      obtain ⟨hsftp, hserved⟩ := Prod.mk.inj hs
      exact .inr ⟨_, entries, hserved.symm, hsftp.symm⟩

theorem SessionStep.effect (hs : SessionStep p sftp e sftp') : Effect sftp e sftp' := by
  obtain ⟨request, os, served⟩ := e
  cases request with
  | openFile id filename pflags =>
      obtain ⟨_, err, rfl, rfl⟩ | ⟨_, file, rfl, rfl⟩ := hs.openFile_cases rfl
      · exact .notOpened (fun _ _ _ hr => nomatch hr) rfl rfl
      · exact .opened id (.file file) (fun _ _ _ hr => nomatch hr) rfl rfl
  | opendir id path =>
      obtain ⟨_, err, rfl, rfl⟩ | ⟨path, entries, rfl, rfl⟩ := hs.opendir_cases rfl
      · exact .notOpened (fun _ _ _ hr => nomatch hr) rfl rfl
      · exact .opened id (.dir path entries) (fun _ _ _ hr => nomatch hr) rfl rfl
  | on id n op =>
      unfold SessionStep at hs
      cases hn : sftp.handles.lookup n with
      | none =>
          rw [serve_on_of_none hn] at hs
          obtain ⟨rfl, rfl⟩ := Prod.mk.inj hs
          exact .unknown id n op rfl hn rfl rfl
      | some state =>
          rw [serve_on_of_some hn] at hs
          obtain ⟨hafter, hserved⟩ := Prod.mk.inj hs
          exact .performed id n op state rfl hn hserved.symm hafter.symm

/-! ## What the events say -/

theorem Event.opened_eq_none (hr : e.returned = none) : e.opened = none := by
  unfold Event.opened
  rw [hr]
  split <;> simp_all

theorem Event.returned_of_opened (ho : e.opened = some (n, state)) : e.returned = some n := by
  unfold Event.opened at ho
  split at ho
  · next hr => rw [hr, (Prod.mk.inj (Option.some.inj ho)).1]
  · next hr => rw [hr, (Prod.mk.inj (Option.some.inj ho)).1]
  · cases ho

theorem Event.returned_eq_none (hr : ∀ reply, e.served.result ≠ .ok (.handle reply)) :
    e.returned = none := by
  unfold Event.returned
  split
  · next reply heq => exact absurd heq (hr reply)
  · rfl

theorem Event.closed_eq_none (hr : ∀ id n, e.request ≠ .on id n .close) : e.closed = none := by
  unfold Event.closed
  split
  · next id n _ heq _ => exact absurd heq (hr id n)
  · rfl

theorem opens_cons_of_none (hr : e.returned = none) : opens (e :: h) = opens h := by
  rw [opens, List.filterMap_cons_none hr, opens]

theorem opens_cons_of_some (hr : e.returned = some n) : opens (e :: h) = opens h + 1 := by
  rw [opens, List.filterMap_cons_some hr, List.length_cons, opens]

theorem opens_le_cons (e : Event O A) (h : List (Event O A)) : opens h ≤ opens (e :: h) := by
  cases hr : e.returned with
  | none => exact Nat.le_of_eq (opens_cons_of_none hr).symm
  | some n =>
      rw [opens_cons_of_some hr]
      exact Nat.le_succ _

/-! ## The session holds what was opened and not closed -/

/-- The session `sftp` is what the events `h` lead to. -/
structure Tracks (h : List (Event O A)) (sftp : LocalSftp O) : Prop where
  counted : sftp.nextHandleId.toNat = opens h
  returned : ∀ e ∈ h, ∀ n, e.returned = some n → ∃ state, e.opened = some (n, state)
  ledger : Ledger nthHandle Event.opened Event.closed h (opens h) sftp.handles

theorem Tracks.new (rootDir : PathBuf) :
    Tracks ([] : List (Event O A)) (LocalSftp.new rootDir : LocalSftp O) where
  counted := rfl
  returned _ he := nomatch he
  ledger := .nil

/-- An event that returns and closes no handle. -/
theorem Tracks.keep (ht : Tracks h sftp) (hr : e.returned = none) (hc : e.closed = none) :
    Tracks (e :: h) sftp := by
  constructor
  · rw [opens_cons_of_none hr]
    exact ht.counted
  · exact List.forall_mem_cons.mpr ⟨fun n hn => (nomatch hr.symm.trans hn), ht.returned⟩
  · rw [opens_cons_of_none hr]
    exact ht.ledger.keep (Event.opened_eq_none hr) hc

/-- The handle that the counter gives out next. -/
theorem Tracks.next (ht : Tracks h sftp) (hopens : opens h + 1 < 2 ^ 64) :
    (sftp.nextHandleId + 1).toNat = opens h + 1 := by
  rw [UInt64.toNat_add, ht.counted, UInt64.toNat_one, Nat.mod_eq_of_lt hopens]

/-- An event that returns the next handle. -/
theorem Tracks.opened (ht : Tracks h sftp)
    (hopened : e.opened = some (handleName (sftp.nextHandleId + 1).toNat, state))
    (hc : e.closed = none) (hopens : opens (e :: h) < 2 ^ 64) :
    Tracks (e :: h) (sftp.register id state).1 := by
  have hreturned := Event.returned_of_opened hopened
  rw [opens_cons_of_some hreturned] at hopens
  have hnext := ht.next hopens
  rw [hnext] at hopened
  constructor
  · rw [opens_cons_of_some hreturned]
    exact hnext
  · refine List.forall_mem_cons.mpr ⟨fun n hn => ⟨state, ?_⟩, ht.returned⟩
    rw [Event.returned_of_opened hopened] at hn
    rw [← Option.some.inj hn]
    exact hopened
  · have hledger := ht.ledger.issue nthHandle_injective hopened hc
    rw [opens_cons_of_some hreturned]
    simp only [LocalSftp.register, LocalSftp.makeHandle, hnext]
    exact hledger

/-- An event that closes a handle. -/
theorem Tracks.closed (ht : Tracks h sftp) (hr : e.returned = none) (hc : e.closed = some n)
    (hn : sftp.handles.lookup n = some state) : Tracks (e :: h) (sftp.after n .close) := by
  constructor
  · rw [opens_cons_of_none hr]
    exact ht.counted
  · exact List.forall_mem_cons.mpr ⟨fun m hm => (nomatch hr.symm.trans hm), ht.returned⟩
  · rw [opens_cons_of_none hr]
    exact ht.ledger.release (Event.opened_eq_none hr) hc hn

theorem LocalSftp.after_of_ne (hop : op ≠ .close) : sftp.after n op = sftp := by
  cases op with
  | close => exact absurd rfl hop
  | read offset len => rfl
  | write offset data => rfl
  | fstat => rfl
  | readdir => rfl

theorem Tracks.step (ht : Tracks h sftp) (hs : Effect sftp e sftp')
    (hopens : opens (e :: h) < 2 ^ 64) : Tracks (e :: h) sftp' := by
  cases hs with
  | notOpened hrequest hreturned heq =>
      subst heq
      exact ht.keep hreturned (Event.closed_eq_none fun id n => hrequest id n .close)
  | opened id state hrequest hopened heq =>
      subst heq
      exact ht.opened hopened (Event.closed_eq_none fun id n => hrequest id n .close) hopens
  | unknown id n op hrequest hn hserved heq =>
      subst heq
      refine ht.keep (Event.returned_eq_none fun reply hr => ?_) ?_
      · rw [hserved] at hr
        cases hr
      · simp [Event.closed, hserved, Served.fail]
  | performed id n op state hrequest hn hserved heq =>
      have hreturned : e.returned = none := Event.returned_eq_none fun reply => by
        rw [hserved]
        exact perform_ne_handle e.os id state op reply
      subst heq
      by_cases hop : op = .close
      · subst hop
        have hclosed : e.closed = some n := by
          simp [Event.closed, hrequest, hserved, HandleState.perform]
        exact ht.closed hreturned hclosed hn
      · rw [LocalSftp.after_of_ne hop]
        refine ht.keep hreturned (Event.closed_eq_none fun id' n' heq' => hop ?_)
        rw [hrequest] at heq'
        cases heq'
        rfl

theorem tracks_of_run {rootDir : PathBuf}
    (hr : Run (· = LocalSftp.new rootDir) (SessionStep p) h sftp)
    (hopens : opens h < 2 ^ 64) : Tracks h sftp := by
  induction hr with
  | nil h0 =>
      subst h0
      exact .new rootDir
  | @cons h s s' e _ hs ih =>
      have hbefore : opens h < 2 ^ 64 := Nat.lt_of_le_of_lt (opens_le_cons e h) hopens
      exact (ih hbefore).step hs.effect hopens

/-- What a text leads to was opened under it and is not closed. -/
theorem Tracks.lookup_eq_none (ht : Tracks h sftp)
    (hn : (∀ e' ∈ h, e'.returned ≠ some n) ∨ Released Event.closed h n) :
    sftp.handles.lookup n = none := by
  by_contra hsome
  obtain ⟨state, hstate⟩ := Option.ne_none_iff_exists'.mp hsome
  obtain ⟨⟨e', he', hopened⟩, hopen⟩ := (ht.ledger.lookup n state).mp hstate
  rcases hn with hnever | hclosed
  · exact hnever e' he' (Event.returned_of_opened hopened)
  · exact hopen hclosed

/-- A new handle differs from all earlier ones. -/
theorem Tracks.fresh (ht : Tracks h sftp) {e' : Event O A} (he' : e' ∈ h) :
    e'.returned ≠ some (nthHandle (opens h)) := by
  intro hn
  obtain ⟨state, hstate⟩ := ht.returned e' he' _ hn
  exact ht.ledger.fresh nthHandle_injective state ⟨e', he', hstate⟩

/-! ## What a request acts on -/

variable {P : Call O → Prop} {rest : Y → Served O X}

/-- A property of the first call and of all that may follow. -/
theorem Served.forall_attempt {call : Call O} (hcall : P call)
    (hrest : ∀ y, ∀ c ∈ (rest y).calls, P c) :
    ∀ c ∈ (Served.attempt call answer rest).calls, P c := by
  unfold Served.attempt
  cases answer with
  | error err => exact List.forall_mem_singleton.mpr hcall
  | ok y => exact List.forall_mem_cons.mpr ⟨hcall, hrest y⟩

/-- The first call is made in any case. -/
theorem Served.mem_attempt {call : Call O} : call ∈ (Served.attempt call answer rest).calls := by
  unfold Served.attempt
  cases answer <;> exact List.mem_cons_self

theorem Served.forall_fail {reply : StatusReply} :
    ∀ c ∈ (Served.fail reply : Served O X).calls, P c := nofun

theorem Served.forall_ok {x : X} :
    ∀ c ∈ (Served.ok x : Served O X).calls, P c := nofun

theorem HandleState.read_on (os : Os O A) (id : Nat) (offset : UInt64) (len : Nat)
    (state : HandleState O) : ∀ c ∈ (state.read os id offset len).calls, c.On os state := by
  cases state with
  | dir path entries => exact Served.forall_fail
  | file f =>
      refine Served.forall_attempt rfl fun _ => Served.forall_attempt rfl fun bytes => ?_
      dsimp only
      split
      · exact Served.forall_fail
      · exact Served.forall_ok

theorem HandleState.write_on (os : Os O A) (id : Nat) (offset : UInt64) (data : List UInt8)
    (state : HandleState O) : ∀ c ∈ (state.write os id offset data).calls, c.On os state := by
  cases state with
  | dir path entries => exact Served.forall_fail
  | file f =>
      refine Served.forall_attempt rfl fun _ => Served.forall_attempt rfl fun _ => ?_
      exact Served.forall_attempt rfl fun _ => Served.forall_ok

theorem HandleState.readdir_on (os : Os O A) (id : Nat) (state : HandleState O) :
    ∀ c ∈ (state.readdir os id).calls, c.On os state := by
  cases state with
  | file f => exact Served.forall_fail
  | dir path entries =>
      refine Served.forall_attempt rfl fun next => ?_
      cases next with
      | none => exact Served.forall_fail
      | some filename => exact Served.forall_attempt rfl fun _ => Served.forall_ok

/-- `fstat` asks the open file itself, but the path of a directory. -/
theorem HandleState.fstat_on_iff (os : Os O A) (id : Nat) (state : HandleState O) :
    (∀ c ∈ (state.fstat os id).calls, c.On os state) ↔
      ∀ path entries, state = .dir path entries → os.resolve path = .ok entries.object := by
  cases state with
  | file f =>
      refine iff_of_true (Served.forall_attempt rfl fun _ => Served.forall_ok) ?_
      exact fun _ _ hdir => nomatch hdir
  | dir path entries =>
      constructor
      · intro hon path' entries' hdir
        obtain ⟨rfl, rfl⟩ := HandleState.dir.inj hdir
        exact hon (.metadata path) Served.mem_attempt
      · intro hplace
        exact Served.forall_attempt (hplace path entries rfl) fun _ => Served.forall_ok

/-- A request acts on what its handle stands for, `fstat` on a directory if its path still leads
there. -/
theorem HandleState.perform_on_iff (os : Os O A) (id : Nat) (state : HandleState O)
    (op : Operation) :
    (∀ c ∈ (state.perform os id op).calls, c.On os state) ↔
      (op = .fstat → ∀ path entries, state = .dir path entries →
        os.resolve path = .ok entries.object) := by
  cases op with
  | close =>
      refine iff_of_true (List.forall_mem_singleton.mpr rfl) ?_
      exact fun hop => nomatch hop
  | read offset len => exact iff_of_true (state.read_on os id offset len) fun hop => nomatch hop
  | write offset data => exact iff_of_true (state.write_on os id offset data) fun hop => nomatch hop
  | readdir => exact iff_of_true (state.readdir_on os id) fun hop => nomatch hop
  | fstat =>
      constructor
      · intro hon _
        exact (state.fstat_on_iff os id).mp hon
      · intro hplace
        exact (state.fstat_on_iff os id).mpr (hplace rfl)

/-! ## The steps of a session -/

theorem SessionStep.of_some (hs : SessionStep p sftp e sftp') (hrequest : e.request = .on id n op)
    (hn : sftp.handles.lookup n = some state) : e.served = state.perform e.os id op := by
  unfold SessionStep at hs
  rw [hrequest, serve_on_of_some hn] at hs
  exact (Prod.mk.inj hs).2.symm

theorem SessionStep.of_none (hs : SessionStep p sftp e sftp') (hrequest : e.request = .on id n op)
    (hn : sftp.handles.lookup n = none) : e.served = .fail unknownHandle ∧ sftp' = sftp := by
  unfold SessionStep at hs
  rw [hrequest, serve_on_of_none hn] at hs
  exact ⟨(Prod.mk.inj hs).2.symm, (Prod.mk.inj hs).1.symm⟩

/-- A handle that a step returns is the next one. -/
theorem Effect.returned_eq (hs : Effect sftp e sftp') (hn : e.returned = some n) :
    n = handleName (sftp.nextHandleId + 1).toNat := by
  cases hs with
  | notOpened _ hreturned _ =>
      rw [hreturned] at hn
      cases hn
  | opened id state _ hopened _ =>
      rw [Event.returned_of_opened hopened] at hn
      exact (Option.some.inj hn).symm
  | unknown id m op _ _ hserved _ =>
      have hnone : e.returned = none := by simp [Event.returned, hserved, Served.fail]
      rw [hnone] at hn
      cases hn
  | performed id m op state _ _ hserved _ =>
      have hnone : e.returned = none := Event.returned_eq_none fun reply => by
        rw [hserved]
        exact perform_ne_handle e.os id state op reply
      rw [hnone] at hn
      cases hn

theorem Tracks.keepsApart_iff (ht : Tracks h sftp) (hs : SessionStep p sftp e sftp')
    (hopens : opens (e :: h) < 2 ^ 64) : KeepsApart h sftp e sftp' ↔ InPlace sftp e := by
  constructor
  · intro hk id n path entries hrequest hn
    obtain ⟨hissued, hopen⟩ := (ht.ledger.lookup n _).mp hn
    obtain ⟨hserved, hon⟩ := hk.acts id n .fstat _ hrequest hissued hopen
    rw [hserved] at hon
    exact (HandleState.perform_on_iff e.os id _ .fstat).mp hon rfl path entries rfl
  · intro hplace
    constructor
    · intro n hn e' he'
      have hsome := opens_cons_of_some (h := h) hn
      have hnext := ht.next (hsome ▸ hopens)
      have hname : n = nthHandle (opens h) := by rw [hs.effect.returned_eq hn, hnext, nthHandle]
      rw [hname]
      exact ht.fresh he'
    · intro id n op state hrequest hissued hopen
      have hn : sftp.handles.lookup n = some state :=
        (ht.ledger.lookup n state).mpr ⟨hissued, hopen⟩
      have hserved := hs.of_some hrequest hn
      refine ⟨hserved, ?_⟩
      rw [hserved, HandleState.perform_on_iff]
      rintro rfl path entries rfl
      exact hplace id n path entries hrequest hn
    · intro id n op hrequest hunknown
      exact hs.of_none hrequest (ht.lookup_eq_none hunknown)
    · intro n state
      exact (ht.step hs.effect hopens).ledger.lookup n state

/-- The session that a list of requests makes, each with the answers of the operating system, newest
first. -/
def replay (p : Platform) (rootDir : PathBuf) :
    List (Request × Os O A) → List (Event O A) × LocalSftp O
  | [] => ([], LocalSftp.new rootDir)
  | (request, os) :: requests =>
      let (h, sftp) := replay p rootDir requests
      let (sftp', served) := serve p sftp os request
      ({ request := request, os := os, served := served } :: h, sftp')

/-- Every list of requests makes a session, whatever the answers are. -/
theorem run_replay (p : Platform) (rootDir : PathBuf) (requests : List (Request × Os O A)) :
    Run (· = LocalSftp.new rootDir) (SessionStep p) (replay p rootDir requests).1
      (replay p rootDir requests).2 := by
  induction requests with
  | nil => exact .nil rfl
  | cons request requests ih => exact .cons ih rfl

/-- **Handles never alias, as long as directories stay in place.** In a session with fewer than
`2 ^ 64` successful opens, whatever the client sends and whatever the operating system answers,
every step keeps the handles apart if and only if every `fstat` on the handle of a directory is made
while the path it was opened under still leads to it. -/
theorem handles_never_alias_iff (p : Platform) (rootDir : PathBuf) (h : List (Event O A))
    (sftp : LocalSftp O) (hopens : opens h < 2 ^ 64) :
    EachStep (· = LocalSftp.new rootDir) (SessionStep p) KeepsApart h sftp ↔
      Run (· = LocalSftp.new rootDir) (restrict (SessionStep p) InPlace) h sftp := by
  refine EachStep.iff_restrict (H := fun h => opens h < 2 ^ 64) ?_ ?_ hopens
  · intro e h hopens
    exact Nat.lt_of_le_of_lt (opens_le_cons e h) hopens
  · intro h s e s' hr hopens hs
    have hbefore : opens h < 2 ^ 64 := Nat.lt_of_le_of_lt (opens_le_cons e h) hopens
    exact (tracks_of_run hr hbefore).keepsApart_iff hs hopens

end

/-- What a path leads to in a system with the directories `/srv/a` (object 1) and `/srv/b` (object
2); `inUse` is what descriptor 12 of the server is open on. -/
def sampleResolve (inUse : Nat) (path : PathBuf) : Except IoError Nat :=
  if path = "/srv/a".toList then .ok 1
  else if path = "/srv/b".toList then .ok 2
  else if path = "/proc/self/fd/12".toList then .ok inUse
  else .error { kind := .notFound, text := "No such file or directory (os error 2)" }

/-- The answers of this system; `next` is the lowest descriptor that is free, and the attributes of
an object are its number. -/
def sampleOs (inUse next : Nat) : Os Nat Nat where
  openFile path _ := (sampleResolve inUse path).map fun object =>
    { number := next, object := object }
  readDir path := (sampleResolve inUse path).map fun object => { number := next, object := object }
  seek _ _ := .ok ()
  read _ _ := .ok []
  writeAll _ _ := .ok ()
  flush _ := .ok ()
  fileMetadata file := .ok file.object
  resolve := sampleResolve inUse
  metadata object := .ok object
  nextEntry _ := .ok none
  entryMetadata entries _ := .ok entries.object

/-- A directory is opened and asked for its attributes. -/
def fstatInPlace : List (Request × Os Nat Nat) :=
  [(.on 2 "h1".toList .fstat, sampleOs 1 13), (.opendir 1 "/srv/a".toList, sampleOs 0 12)]

theorem handles_kept_apart_in_place :
    opens (replay .linux "/srv".toList fstatInPlace).1 < 2 ^ 64 ∧
    EachStep (· = LocalSftp.new "/srv".toList) (SessionStep .linux) KeepsApart
      (replay .linux "/srv".toList fstatInPlace).1
        (replay .linux "/srv".toList fstatInPlace).2 := by
  have hopens : opens (replay .linux "/srv".toList fstatInPlace).1 < 2 ^ 64 := by decide
  refine ⟨hopens, (handles_never_alias_iff _ _ _ _ hopens).mpr ?_⟩
  refine .cons (.cons (.nil rfl) ⟨rfl, ?_⟩) ⟨rfl, ?_⟩
  · intro id n path entries hrequest
    cases hrequest
  · intro id n path entries hrequest hn
    cases hrequest
    have hsome := hn.symm.trans (show _ = some (HandleState.dir "/srv/a".toList ⟨12, 1⟩) by decide)
    cases hsome
    decide

/-- The directory `/srv/a` is opened, as `h1`, with descriptor 12, and once more under the path
`/proc/self/fd/12`, as `h2`. Then `h1` is closed, and `/srv/b` is opened with the descriptor that is
free again. -/
def fstatElsewhere : List (Request × Os Nat Nat) :=
  [(.on 5 "h2".toList .fstat, sampleOs 2 14), (.opendir 4 "/srv/b".toList, sampleOs 0 12),
    (.on 3 "h1".toList .close, sampleOs 1 14),
    (.opendir 2 "/proc/self/fd/12".toList, sampleOs 1 13),
    (.opendir 1 "/srv/a".toList, sampleOs 0 12)]

/-- **`fstat` on another directory.** The handle `h2` was returned for `/srv/a` and is open, but the
attributes that `fstat` returns for it are those of `/srv/b`. -/
theorem fstat_on_other_directory :
    opens (replay .linux "/srv".toList fstatElsewhere).1 < 2 ^ 64 ∧
    Run (· = LocalSftp.new "/srv".toList) (SessionStep .linux)
      (replay .linux "/srv".toList fstatElsewhere).1
        (replay .linux "/srv".toList fstatElsewhere).2 ∧
    (replay .linux "/srv".toList fstatElsewhere).2.handles.lookup "h2".toList =
      some (.dir "/proc/self/fd/12".toList { number := 13, object := 1 }) ∧
    ((replay .linux "/srv".toList fstatElsewhere).1.map fun e => e.served.result)[0]? =
      some (.ok (.attrs { id := 5, attrs := 2 })) ∧
    ¬ EachStep (· = LocalSftp.new "/srv".toList) (SessionStep .linux) KeepsApart
      (replay .linux "/srv".toList fstatElsewhere).1
        (replay .linux "/srv".toList fstatElsewhere).2 := by
  refine ⟨by decide, run_replay _ _ _, by decide, rfl, ?_⟩
  intro hk
  obtain ⟨s, -, hlast⟩ := hk.head
  have hopen : ¬ Released Event.closed
      (replay .linux "/srv".toList fstatElsewhere.tail).1 "h2".toList := by
    rw [released_iff_mem]
    decide
  have hissued : Issued Event.opened (replay .linux "/srv".toList fstatElsewhere.tail).1 "h2".toList
      (.dir "/proc/self/fd/12".toList { number := 13, object := 1 }) := by
    rw [issued_iff_mem]
    decide
  -- the call is `metadata "/proc/self/fd/12"`, and this path leads to object 2 by now
  have hon := (hlast.acts 5 "h2".toList .fstat _ rfl hissued hopen).2 _ List.mem_cons_self
  exact nomatch hon

end Narrowd.Sftp
