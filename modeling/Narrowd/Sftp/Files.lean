import Narrowd.Lib.Extent
import Narrowd.Sftp.Handles

set_option autoImplicit false

/-! # The files behind the handles of an SFTP session

A request to read or write names a position in the file. The server has an open file with a cursor:
it moves the cursor to the position, reads or writes there, and after a write waits until the bytes
that the file has taken are written. `Disk` is what the operating system keeps, the contents of the
files and a description for each descriptor, and `CallStep` is what a call of the server does to it.
Reads may be short, every call may fail, and a write that fails may have written any part of its
data. Other programs may change the files between two requests.

`Positional` is what the server is for: open files have no cursors and no descriptors, a read is a
slice of the contents and a write puts its data where the request says, or at the end of a file that
was opened to append. Every session is a session of this server with the same replies and the same
contents (`sessions_are_positional`).
-/

namespace Narrowd.Sftp

open Lib
open Function (update update_self update_of_ne update_eq_self update_idem)

/-! ## The disk -/

/-- What the system keeps for a descriptor. -/
inductive Description (O : Type*)
  /-- `pending` are the bytes that the file has taken and that are not written yet. -/
  | file (object : O) (append : Bool) (cursor : Nat) (pending : List UInt8)
  /-- The entries that the directory stream will still return. -/
  | dir (entries : List Text)

structure Disk (O : Type*) where
  contents : O → List UInt8
  opened : Nat → Option (Description O)

/-- `OpenFlags::APPEND`. -/
def appends (pflags : UInt32) : Bool := pflags &&& 0x04 != 0

/-- The file that is opened is empty: `OpenFlags::TRUNCATE`, or `CREATE` with `EXCLUDE`. -/
def empties (pflags : UInt32) : Bool :=
  pflags &&& 0x10 != 0 || (pflags &&& 0x08 != 0 && pflags &&& 0x20 != 0)

section

variable {O : Type*} [DecidableEq O]

/-- The contents after a write: at the end of a file that is open to append, else at the
position. -/
def patch (contents : List UInt8) (append : Bool) (pos : Nat) (data : List UInt8) : List UInt8 :=
  overwrite 0 contents (if append then contents.length else pos) data

/-- The contents of all files after one was opened. -/
def afterOpen (contents : O → List UInt8) (object : O) (pflags : UInt32) : O → List UInt8 :=
  if empties pflags then update contents object [] else contents

namespace Disk

variable (disk : Disk O)

def describe (number : Nat) (description : Option (Description O)) : Disk O :=
  { disk with opened := update disk.opened number description }

def openFile (file : Descriptor O) (pflags : UInt32) : Disk O where
  contents := afterOpen disk.contents file.object pflags
  opened := update disk.opened file.number (some (.file file.object (appends pflags) 0 []))

/-- `data` is written through an open file, which has taken the bytes `pending` besides. -/
def writeOut (file : Descriptor O) (append : Bool) (cursor : Nat) (data pending : List UInt8) :
    Disk O :=
  let pos := if append then (disk.contents file.object).length else cursor
  { contents := update disk.contents file.object
      (patch (disk.contents file.object) append cursor data)
    opened := update disk.opened file.number
      (some (.file file.object append (pos + data.length) pending)) }

end Disk

/-- The descriptor of a handle. -/
def HandleState.number : HandleState O → Nat
  | .file f => f.number
  | .dir _ entries => entries.number

/-- **What a call does to the disk**, with the answer that the server gets. A descriptor that is
given out is free. -/
inductive CallStep {A : Type*} (os : Os O A) : Disk O → Call O → Disk O → Prop
  | openFile {disk : Disk O} {path : PathBuf} {pflags : UInt32} {file : Descriptor O}
      (hfree : disk.opened file.number = none) :
      CallStep os disk (.openFile path pflags (.ok file)) (disk.openFile file pflags)
  | openFileFails {disk : Disk O} {path : PathBuf} {pflags : UInt32} {err : IoError} :
      CallStep os disk (.openFile path pflags (.error err)) disk
  | readDir {disk : Disk O} {path : PathBuf} {entries : Descriptor O} {names : List Text}
      (hfree : disk.opened entries.number = none) :
      CallStep os disk (.readDir path (.ok entries))
        (disk.describe entries.number (some (.dir names)))
  | readDirFails {disk : Disk O} {path : PathBuf} {err : IoError} :
      CallStep os disk (.readDir path (.error err)) disk
  | seek {disk : Disk O} {file : Descriptor O} {offset : UInt64} {append : Bool} {cursor : Nat}
      {pending : List UInt8} (hok : os.seek file offset = .ok ())
      (hopen : disk.opened file.number = some (.file file.object append cursor pending)) :
      CallStep os disk (.seek file offset)
        (disk.describe file.number (some (.file file.object append offset.toNat pending)))
  | seekFails {disk : Disk O} {file : Descriptor O} {offset : UInt64} {err : IoError}
      (herr : os.seek file offset = .error err) : CallStep os disk (.seek file offset) disk
  /-- A read returns some of the bytes that there are, and none only if there are none. -/
  | read {disk : Disk O} {file : Descriptor O} {len : Nat} {append : Bool} {cursor : Nat}
      {pending bytes : List UInt8} (hok : os.read file len = .ok bytes)
      (hopen : disk.opened file.number = some (.file file.object append cursor pending))
      (hbytes : bytes <+: ((disk.contents file.object).drop cursor).take len)
      (hsome : bytes = [] → ((disk.contents file.object).drop cursor).take len = []) :
      CallStep os disk (.read file len)
        (disk.describe file.number
          (some (.file file.object append (cursor + bytes.length) pending)))
  | readFails {disk : Disk O} {file : Descriptor O} {len : Nat} {err : IoError}
      (herr : os.read file len = .error err) : CallStep os disk (.read file len) disk
  /-- The file has taken all of the data, and written the first `k` bytes of it. -/
  | writeAll {disk : Disk O} {file : Descriptor O} {data : List UInt8} {append : Bool}
      {cursor k : Nat}
      (hok : os.writeAll file data = .ok ())
      (hopen : disk.opened file.number = some (.file file.object append cursor [])) :
      CallStep os disk (.writeAll file data)
        (disk.writeOut file append cursor (data.take k) (data.drop k))
  | writeAllFails {disk : Disk O} {file : Descriptor O} {data : List UInt8} {append : Bool}
      {cursor k : Nat} {err : IoError} (herr : os.writeAll file data = .error err)
      (hopen : disk.opened file.number = some (.file file.object append cursor [])) :
      CallStep os disk (.writeAll file data) (disk.writeOut file append cursor (data.take k) [])
  | flush {disk : Disk O} {file : Descriptor O} {append : Bool} {cursor : Nat}
      {pending : List UInt8}
      (hok : os.flush file = .ok ())
      (hopen : disk.opened file.number = some (.file file.object append cursor pending)) :
      CallStep os disk (.flush file) (disk.writeOut file append cursor pending [])
  | flushFails {disk : Disk O} {file : Descriptor O} {append : Bool} {cursor k : Nat}
      {pending : List UInt8} {err : IoError} (herr : os.flush file = .error err)
      (hopen : disk.opened file.number = some (.file file.object append cursor pending)) :
      CallStep os disk (.flush file) (disk.writeOut file append cursor (pending.take k) [])
  | fileMetadata {disk : Disk O} {file : Descriptor O} : CallStep os disk (.fileMetadata file) disk
  | metadata {disk : Disk O} {path : PathBuf} : CallStep os disk (.metadata path) disk
  | nextEntry {disk : Disk O} {entries : Descriptor O} {name : Text} {names : List Text}
      (hok : os.nextEntry entries = .ok (some name))
      (hopen : disk.opened entries.number = some (.dir (name :: names))) :
      CallStep os disk (.nextEntry entries) (disk.describe entries.number (some (.dir names)))
  | lastEntry {disk : Disk O} {entries : Descriptor O} (hok : os.nextEntry entries = .ok none)
      (hopen : disk.opened entries.number = some (.dir [])) :
        CallStep os disk (.nextEntry entries) disk
  | nextEntryFails {disk : Disk O} {entries : Descriptor O} {err : IoError}
      (herr : os.nextEntry entries = .error err) : CallStep os disk (.nextEntry entries) disk
  | entryMetadata {disk : Disk O} {entries : Descriptor O} {name : Text} :
      CallStep os disk (.entryMetadata entries name) disk
  | drop {disk : Disk O} {state : HandleState O} :
      CallStep os disk (.drop state) (disk.describe state.number none)

/-- The calls of one request, in order. -/
inductive Calls {A : Type*} (os : Os O A) : Disk O → List (Call O) → Disk O → Prop
  | nil {disk : Disk O} : Calls os disk [] disk
  | cons {disk disk₁ disk₂ : Disk O} {call : Call O} {calls : List (Call O)}
      (hc : CallStep os disk call disk₁) (hcs : Calls os disk₁ calls disk₂) :
      Calls os disk (call :: calls) disk₂

/-! ## The host -/

/-- A session and the disk it works on. -/
structure Host (O : Type*) where
  sftp : LocalSftp O
  disk : Disk O

inductive HostEvent (O A : Type*)
  | request (e : Event O A)
  /-- Another program changes the contents of a file. -/
  | others (object : O) (bytes : List UInt8)

inductive HostStep {A : Type*} (p : Platform) : Host O → HostEvent O A → Host O → Prop
  | request {s : Host O} {e : Event O A} {sftp : LocalSftp O} {disk : Disk O}
      (hs : SessionStep p s.sftp e sftp) (hd : Calls e.os s.disk e.served.calls disk) :
      HostStep p s (.request e) ⟨sftp, disk⟩
  | others {s : Host O} {object : O} {bytes : List UInt8} :
      HostStep p s (.others object bytes)
        ⟨s.sftp, { s.disk with contents := update s.disk.contents object bytes }⟩

/-- A new session on any disk. -/
def Host.Initial (rootDir : PathBuf) (s : Host O) : Prop := s.sftp = LocalSftp.new rootDir

/-- The requests of a run. -/
def requests {A : Type*} (h : List (HostEvent O A)) : List (Event O A) :=
  h.filterMap fun
    | .request e => some e
    | .others _ _ => none

end

/-! ## The server without cursors -/

/-- What a handle of the abstract server stands for. -/
inductive Opened (O : Type*)
  | file (object : O) (append : Bool)
  | dir (left : List Text)
  deriving DecidableEq

structure Positional (O : Type*) where
  contents : O → List UInt8
  opened : Text → Option (Opened O)

variable {id len : Nat} {n : Text} {X : Type*} {offset : UInt64} {data pending : List UInt8}
  {names : List Text} {path rootDir : PathBuf} {op : Operation}

section

variable {O A : Type*} [DecidableEq O]

namespace Positional

/-- What a read of `len` bytes at `offset` may return at most. -/
def slice (a : Positional O) (object : O) (offset : UInt64) (len : Nat) : List UInt8 :=
  ((a.contents object).drop offset.toNat).take (min len maxSftpReadLen)

def hold (a : Positional O) (n : Text) (x : Option (Opened O)) : Positional O :=
  { a with opened := update a.opened n x }

def write (a : Positional O) (object : O) (append : Bool) (offset : UInt64) (data : List UInt8) :
    Positional O :=
  { a with
    contents := update a.contents object
      (patch (a.contents object) append offset.toNat data) }

/-- **The answers of the server** to a request, and what they leave. -/
inductive Answers (a : Positional O) : Request → Except StatusReply (Reply A) → Positional O → Prop
  | opened {id : Nat} {filename n : Text} {pflags : UInt32} {object : O}
      (hnew : a.opened n = none) :
      Answers a (.openFile id filename pflags) (.ok (.handle ⟨id, n⟩))
        (hold { a with contents := afterOpen a.contents object pflags } n
          (some (.file object (appends pflags))))
  | notOpened {id : Nat} {filename : Text} {pflags : UInt32} {err : IoError} :
      Answers a (.openFile id filename pflags) (.error (ioErrorToStatus err)) a
  | openedDir {id : Nat} {path n : Text} {names : List Text} (hnew : a.opened n = none) :
      Answers a (.opendir id path) (.ok (.handle ⟨id, n⟩)) (a.hold n (some (.dir names)))
  | notOpenedDir {id : Nat} {path : Text} {err : IoError} :
      Answers a (.opendir id path) (.error (ioErrorToStatus err)) a
  | unknown {id : Nat} {n : Text} {op : Operation} (hn : a.opened n = none) :
      Answers a (.on id n op) (.error unknownHandle) a
  | closed {id : Nat} {n : Text} {x : Opened O} (hn : a.opened n = some x) :
      Answers a (.on id n .close) (.ok (.status (okStatus id))) (a.hold n none)
  | data {id len : Nat} {n : Text} {offset : UInt64} {object : O} {append : Bool}
      {bytes : List UInt8}
      (hn : a.opened n = some (.file object append)) (hne : bytes ≠ [])
      (hbytes : bytes <+: a.slice object offset len) :
      Answers a (.on id n (.read offset len)) (.ok (.data ⟨id, bytes⟩)) a
  | endOfFile {id len : Nat} {n : Text} {offset : UInt64} {object : O} {append : Bool}
      (hn : a.opened n = some (.file object append)) (hend : a.slice object offset len = []) :
      Answers a (.on id n (.read offset len)) (.error ⟨.eof, none⟩) a
  | notRead {id len : Nat} {n : Text} {offset : UInt64} {object : O} {append : Bool} {err : IoError}
      (hn : a.opened n = some (.file object append)) :
      Answers a (.on id n (.read offset len)) (.error (ioErrorToStatus err)) a
  | written {id : Nat} {n : Text} {offset : UInt64} {object : O} {append : Bool}
      {bytes : List UInt8}
      (hn : a.opened n = some (.file object append)) :
      Answers a (.on id n (.write offset bytes)) (.ok (.status (okStatus id)))
        (a.write object append offset bytes)
  /-- A write that fails has written the first `k` bytes. -/
  | notWritten {id k : Nat} {n : Text} {offset : UInt64} {object : O} {append : Bool}
      {bytes : List UInt8}
      {err : IoError} (hn : a.opened n = some (.file object append)) :
      Answers a (.on id n (.write offset bytes)) (.error (ioErrorToStatus err))
        (a.write object append offset (bytes.take k))
  | notAFile {id : Nat} {n : Text} {op : Operation} {left : List Text}
      (hn : a.opened n = some (.dir left))
      (hop : (∃ offset len, op = .read offset len) ∨ ∃ offset bytes, op = .write offset bytes) :
      Answers a (.on id n op) (.error ⟨.failure, some "handle is not a file"⟩) a
  | attrs {id : Nat} {n : Text} {x : Opened O} {attrs : A} (hn : a.opened n = some x) :
      Answers a (.on id n .fstat) (.ok (.attrs ⟨id, attrs⟩)) a
  | noAttrs {id : Nat} {n : Text} {x : Opened O} {err : IoError} (hn : a.opened n = some x) :
      Answers a (.on id n .fstat) (.error (ioErrorToStatus err)) a
  | entry {id : Nat} {n name : Text} {left : List Text} {attrs : A}
      (hn : a.opened n = some (.dir (name :: left))) :
      Answers a (.on id n .readdir) (.ok (.name ⟨id, [(name, attrs)]⟩))
        (a.hold n (some (.dir left)))
  /-- An entry whose metadata cannot be read is left out. -/
  | noEntry {id : Nat} {n name : Text} {left : List Text} {err : IoError}
      (hn : a.opened n = some (.dir (name :: left))) :
      Answers a (.on id n .readdir) (.error (ioErrorToStatus err)) (a.hold n (some (.dir left)))
  | notListed {id : Nat} {n : Text} {left : List Text} {err : IoError}
      (hn : a.opened n = some (.dir left)) :
      Answers a (.on id n .readdir) (.error (ioErrorToStatus err)) a
  | listed {id : Nat} {n : Text} (hn : a.opened n = some (.dir [])) :
      Answers a (.on id n .readdir) (.error ⟨.eof, none⟩) a
  | notADirectory {id : Nat} {n : Text} {object : O} {append : Bool}
      (hn : a.opened n = some (.file object append)) :
      Answers a (.on id n .readdir) (.error ⟨.failure, some "handle is not a directory"⟩) a

end Positional

/-- A step of the abstract server: what a request is answered with is what the client gets. -/
inductive PositionalStep : Positional O → HostEvent O A → Positional O → Prop
  | request {a a' : Positional O} {e : Event O A} (ha : a.Answers e.request e.served.result a') :
      PositionalStep a (.request e) a'
  | others {a : Positional O} {object : O} {bytes : List UInt8} :
      PositionalStep a (.others object bytes)
        { a with contents := update a.contents object bytes }

/-- No handle is given out yet. -/
def Positional.Initial (a : Positional O) : Prop := a.opened = fun _ => none

/-! ## What a request does to the disk -/

variable {p : Platform} {os : Os O A} {disk disk' : Disk O} {f : Descriptor O} {append : Bool}
  {cursor : Nat}

theorem patch_append (contents : List UInt8) (append : Bool) (pos : Nat) (data data' : List UInt8) :
    patch (patch contents append pos data) append (pos + data.length) data' =
      patch contents append pos (data ++ data') := by
  unfold patch
  cases append with
  | false => exact overwrite_overwrite 0 contents pos data data'
  | true =>
      have hlen : (overwrite 0 contents contents.length data).length = contents.length +
        data.length := by
        cases data with
        | nil => rfl
        | cons b data =>
            rw [length_overwrite (List.cons_ne_nil b data)]
            omega
      simp only [if_true, hlen]
      exact overwrite_overwrite 0 contents contents.length data data'

theorem patch_nil (contents : List UInt8) (append : Bool) (pos : Nat) :
    patch contents append pos [] = contents := rfl

namespace Disk

theorem writeOut_contents (disk : Disk O) (f : Descriptor O) (append : Bool) (cursor : Nat)
    (data pending : List UInt8) :
    (disk.writeOut f append cursor data pending).contents =
      update disk.contents f.object (patch (disk.contents f.object) append cursor data) :=
        rfl

theorem writeOut_opened_self (disk : Disk O) (f : Descriptor O) (append : Bool) (cursor : Nat)
    (data pending : List UInt8) :
    ∃ cursor', (disk.writeOut f append cursor data pending).opened f.number =
      some (.file f.object append cursor' pending) :=
  ⟨_, update_self ..⟩

/-- What was written and what is still pending are written at the end as one. -/
theorem writeOut_writeOut (disk : Disk O) (f : Descriptor O) (append : Bool) (cursor cursor' : Nat)
    (data pending data' : List UInt8)
    (hopen : (disk.writeOut f append cursor data pending).opened f.number =
      some (.file f.object append cursor' pending)) :
    ((disk.writeOut f append cursor data pending).writeOut f append cursor' data' []).contents =
      update disk.contents f.object
        (patch (disk.contents f.object) append cursor (data ++ data')) := by
  have hcursor : cursor' = (if append then (disk.contents f.object).length else cursor) +
    data.length := by
    have hself : (disk.writeOut f append cursor data pending).opened f.number =
      some (.file f.object append
        ((if append then (disk.contents f.object).length else cursor) + data.length) pending) :=
      update_self ..
    rw [hself] at hopen
    exact (Description.file.inj (Option.some.inj hopen)).2.2.1.symm
  rw [writeOut_contents, writeOut_contents, update_self, update_idem]
  congr 1
  rw [hcursor, ← patch_append]
  unfold patch
  cases append <;> rfl

end Disk

/-- One request on an open file leaves the file open, with nothing pending, and every other
descriptor alone. -/
structure Keeps (f : Descriptor O) (append : Bool) (disk disk' : Disk O) : Prop where
  self : ∃ cursor, disk'.opened f.number = some (.file f.object append cursor [])
  others : ∀ k, k ≠ f.number → disk'.opened k = disk.opened k

omit [DecidableEq O] in
theorem Keeps.describe (disk : Disk O) (f : Descriptor O) (append : Bool) (cursor : Nat) :
    Keeps f append disk (disk.describe f.number (some (.file f.object append cursor []))) where
  self := ⟨cursor, update_self ..⟩
  others _ hk := update_of_ne hk ..

theorem Keeps.writeOut (disk : Disk O) (f : Descriptor O) (append : Bool) (cursor : Nat)
    (data : List UInt8) : Keeps f append disk (disk.writeOut f append cursor data []) where
  self := disk.writeOut_opened_self f append cursor data []
  others _ hk := update_of_ne hk ..

omit [DecidableEq O] in
theorem Keeps.trans {disk₁ disk₂ disk₃ : Disk O}
    (h : ∀ k, k ≠ f.number → disk₂.opened k = disk₁.opened k)
    (hk : Keeps f append disk₂ disk₃) : Keeps f append disk₁ disk₃ where
  self := hk.self
  others k hne := (hk.others k hne).trans (h k hne)

variable {call : Call O}

theorem Calls.of_cons {calls : List (Call O)} (hd : Calls os disk (call :: calls) disk') :
    ∃ disk₁, CallStep os disk call disk₁ ∧ Calls os disk₁ calls disk' := by
  cases hd with
  | cons hc hcs => exact ⟨_, hc, hcs⟩

theorem Calls.eq_of_nil (hd : Calls os disk [] disk') : disk' = disk := by
  cases hd
  rfl

/-- The first call of a request fails, or the rest of the request follows. -/
theorem Calls.of_attempt {Y : Type*} {answer : Except IoError Y} {rest : Y → Served O X}
    (hd : Calls os disk (Served.attempt call answer rest).calls disk') :
    ∃ disk₁, CallStep os disk call disk₁ ∧
      ((∃ err, answer = .error err ∧ disk' = disk₁ ∧
          (Served.attempt call answer rest).result = .error (ioErrorToStatus err)) ∨
        ∃ y, answer = .ok y ∧ Calls os disk₁ (rest y).calls disk' ∧
          (Served.attempt call answer rest).result = (rest y).result) := by
  cases answer with
  | error err =>
      obtain ⟨disk₁, hc, hcs⟩ := hd.of_cons
      exact ⟨disk₁, hc, .inl ⟨err, rfl, hcs.eq_of_nil, rfl⟩⟩
  | ok y =>
      obtain ⟨disk₁, hc, hcs⟩ := hd.of_cons
      exact ⟨disk₁, hc, .inr ⟨y, rfl, hcs, rfl⟩⟩

variable {rest : Unit → Served O X}

/-- A request starts by moving the cursor to its position, or it ends there. -/
theorem Calls.of_seek (hopen : disk.opened f.number = some (.file f.object append cursor []))
    (hd : Calls os disk (Served.attempt (.seek f offset) (os.seek f offset) rest).calls disk') :
    (∃ err, (Served.attempt (.seek f offset) (os.seek f offset) rest).result =
          .error (ioErrorToStatus err) ∧ disk' = disk) ∨
      (Calls os (disk.describe f.number (some (.file f.object append offset.toNat [])))
        (rest ()).calls
          disk' ∧
        (Served.attempt (.seek f offset) (os.seek f offset) rest).result = (rest ()).result) := by
  obtain ⟨disk₁, hseek, ⟨err, hanswer, rfl, hresult⟩ | ⟨_, hanswer, hd, hresult⟩⟩ := hd.of_attempt
  · cases hseek with
    | seekFails => exact .inl ⟨err, hresult, rfl⟩
    | seek hok => cases hanswer.symm.trans hok
  · cases hseek with
    | seekFails herr => cases hanswer.symm.trans herr
    | seek _ hopen' =>
        rw [hopen] at hopen'
        cases hopen'
        exact .inr ⟨hd, hresult⟩

theorem CallStep.read_cases
    (hopen : disk.opened f.number = some (.file f.object append cursor pending))
    (hc : CallStep os disk (.read f len) disk') :
    ((∃ err, os.read f len = .error err) ∧ disk' = disk) ∨
      ∃ bytes, os.read f len = .ok bytes ∧
        bytes <+: ((disk.contents f.object).drop cursor).take len ∧
        (bytes = [] → ((disk.contents f.object).drop cursor).take len = []) ∧
        disk' = disk.describe f.number
          (some (.file f.object append (cursor + bytes.length) pending)) := by
  cases hc with
  | readFails herr => exact .inl ⟨⟨_, herr⟩, rfl⟩
  | read hok hopen' hbytes hsome =>
      rw [hopen] at hopen'
      cases hopen'
      exact .inr ⟨_, hok, hbytes, hsome, rfl⟩

/-- What a read may return: a piece of the contents at the position it was asked for. -/
def ReadResult (id : Nat) (available : List UInt8) (result : Except StatusReply Data) : Prop :=
  (∃ err, result = .error (ioErrorToStatus err)) ∨ (result = .error ⟨.eof, none⟩ ∧ available = []) ∨
    ∃ bytes, result = .ok ⟨id, bytes⟩ ∧ bytes ≠ [] ∧ bytes <+: available

/-- **A read** moves cursors only. -/
theorem read_spec (hopen : disk.opened f.number = some (.file f.object append cursor []))
    (hd : Calls os disk (HandleState.read os id offset len (.file f)).calls disk') :
    disk'.contents = disk.contents ∧ Keeps f append disk disk' ∧
      ReadResult id (((disk.contents f.object).drop offset.toNat).take (min len maxSftpReadLen))
        (HandleState.read os id offset len (.file f)).result := by
  obtain ⟨err, hresult, rfl⟩ | ⟨hd, hresult⟩ := hd.of_seek hopen
  · exact ⟨rfl, ⟨⟨cursor, hopen⟩, fun _ _ => rfl⟩, .inl ⟨err, hresult⟩⟩
  have hseeked := Keeps.describe disk f append offset.toNat
  have hopen₁ :
      (disk.describe f.number (some (.file f.object append offset.toNat []))).opened f.number =
      some (.file f.object append offset.toNat []) := update_self ..
  obtain ⟨disk₂, hread, hrest⟩ := hd.of_attempt
  rcases hread.read_cases hopen₁ with ⟨⟨err, herr⟩, rfl⟩ | ⟨bytes, hok, hbytes, hsome, rfl⟩
  · obtain ⟨err', -, rfl, hresult'⟩ | ⟨_, hok, -, -⟩ := hrest
    · exact ⟨rfl, hseeked, .inl ⟨err', hresult.trans hresult'⟩⟩
    · cases hok.symm.trans herr
  · obtain ⟨err', herr, -, -⟩ | ⟨bytes', hok', hd, hresult'⟩ := hrest
    · cases hok.symm.trans herr
    cases hok.symm.trans hok'
    -- what was read fits the buffer
    have hfits : bytes.take (min len maxSftpReadLen) = bytes := by
      refine List.take_of_length_le (hbytes.length_le.trans ?_)
      exact List.length_take_le ..
    have hfinal := hresult.trans hresult'
    dsimp only at hd hfinal
    rw [hfits] at hd hfinal
    by_cases hempty : bytes = []
    · subst hempty
      cases hd.eq_of_nil
      exact ⟨rfl, .trans hseeked.others (.describe ..), .inr (.inl ⟨hfinal, hsome rfl⟩)⟩
    · have hlen : bytes.length ≠ 0 := fun h0 => hempty (List.length_eq_zero_iff.mp h0)
      rw [if_neg hlen] at hd hfinal
      cases hd.eq_of_nil
      exact ⟨rfl, .trans hseeked.others (.describe ..), .inr (.inr ⟨bytes, hfinal, hempty, hbytes⟩)⟩

theorem Calls.of_writeAll (hopen : disk.opened f.number = some (.file f.object append cursor []))
    (hd : Calls os disk (Served.attempt (.writeAll f data) (os.writeAll f data) rest).calls disk') :
    (∃ err k, (Served.attempt (.writeAll f data) (os.writeAll f data) rest).result =
          .error (ioErrorToStatus err) ∧ disk' = disk.writeOut f append cursor (data.take k) []) ∨
      ∃ k, Calls os (disk.writeOut f append cursor (data.take k) (data.drop k))
        (rest ()).calls disk' ∧
        (Served.attempt (.writeAll f data) (os.writeAll f data) rest).result =
          (rest ()).result := by
  obtain ⟨disk₁, hwrite, hrest⟩ := hd.of_attempt
  cases hwrite with
  | @writeAllFails _ _ _ _ k _ herr hopen' =>
      rw [hopen] at hopen'
      cases hopen'
      obtain ⟨err, -, rfl, hresult⟩ | ⟨_, hok, -, -⟩ := hrest
      · exact .inl ⟨err, k, hresult, rfl⟩
      · cases hok.symm.trans herr
  | @writeAll _ _ _ _ k hok hopen' =>
      rw [hopen] at hopen'
      cases hopen'
      obtain ⟨err, herr, -, -⟩ | ⟨_, -, hd, hresult⟩ := hrest
      · cases hok.symm.trans herr
      · exact .inr ⟨k, hd, hresult⟩

theorem Calls.of_flush (hopen : disk.opened f.number = some (.file f.object append cursor pending))
    (hd : Calls os disk (Served.attempt (.flush f) (os.flush f) rest).calls disk') :
    (∃ err k, (Served.attempt (.flush f) (os.flush f) rest).result = .error (ioErrorToStatus err) ∧
          disk' = disk.writeOut f append cursor (pending.take k) []) ∨
      (Calls os (disk.writeOut f append cursor pending []) (rest ()).calls disk' ∧
        (Served.attempt (.flush f) (os.flush f) rest).result = (rest ()).result) := by
  obtain ⟨disk₁, hflush, hrest⟩ := hd.of_attempt
  cases hflush with
  | @flushFails _ _ _ k _ _ herr hopen' =>
      rw [hopen] at hopen'
      cases hopen'
      obtain ⟨err, -, rfl, hresult⟩ | ⟨_, hok, -, -⟩ := hrest
      · exact .inl ⟨err, k, hresult, rfl⟩
      · cases hok.symm.trans herr
  | flush hok hopen' =>
      rw [hopen] at hopen'
      cases hopen'
      obtain ⟨err, herr, -, -⟩ | ⟨_, -, hd, hresult⟩ := hrest
      · cases hok.symm.trans herr
      · exact .inr ⟨hd, hresult⟩

/-- The contents of all files when the first `k` bytes of a write have been written. -/
def writtenUpTo (disk : Disk O) (f : Descriptor O) (append : Bool) (offset : UInt64)
    (data : List UInt8)
    (k : Nat) : O → List UInt8 :=
  update disk.contents f.object
    (patch (disk.contents f.object) append offset.toNat (data.take k))

/-- **A write** that is acknowledged has written all of its data at the position it was asked for,
and one that fails has written the beginning of it. -/
theorem write_spec (hopen : disk.opened f.number = some (.file f.object append cursor []))
    (hd : Calls os disk (HandleState.write os id offset data (.file f)).calls disk') :
    Keeps f append disk disk' ∧
      ((∃ err k, (HandleState.write os id offset data (.file f)).result =
        .error (ioErrorToStatus err) ∧
          disk'.contents = writtenUpTo disk f append offset data k) ∨
        ((HandleState.write os id offset data (.file f)).result = .ok (okStatus id) ∧
          disk'.contents = writtenUpTo disk f append offset data data.length)) := by
  obtain ⟨err, hresult, rfl⟩ | ⟨hd, hresult⟩ := hd.of_seek hopen
  · have hnothing : disk'.contents = writtenUpTo disk' f append offset data 0 := by
      rw [writtenUpTo, List.take_zero, patch_nil, update_eq_self]
    exact ⟨⟨⟨cursor, hopen⟩, fun _ _ => rfl⟩, .inl ⟨err, 0, hresult, hnothing⟩⟩
  have hseeked := Keeps.describe disk f append offset.toNat
  set disk₁ := disk.describe f.number (some (.file f.object append offset.toNat [])) with hdisk₁
  have hopen₁ : disk₁.opened f.number = some (.file f.object append offset.toNat []) :=
    update_self ..
  obtain ⟨err, k, hresult', rfl⟩ | ⟨k, hd, hresult'⟩ := hd.of_writeAll hopen₁
  · exact ⟨.trans hseeked.others (.writeOut ..), .inl ⟨err, k, hresult.trans hresult', rfl⟩⟩
  -- the file has taken all of the data, and the flush writes what is pending
  obtain ⟨cursor₂, hopen₂⟩ := disk₁.writeOut_opened_self f append offset.toNat (data.take k)
    (data.drop k)
  have hother : ∀ j, j ≠ f.number →
      (disk₁.writeOut f append offset.toNat (data.take k) (data.drop k)).opened j = disk.opened j :=
    fun j hj => (update_of_ne hj ..).trans (hseeked.others j hj)
  obtain ⟨err, k', hresult'', rfl⟩ | ⟨hd, hresult''⟩ := hd.of_flush hopen₂
  · refine ⟨.trans hother (.writeOut ..), .inl ⟨err, k + k', ?_, ?_⟩⟩
    · exact hresult.trans (hresult'.trans hresult'')
    · rw [Disk.writeOut_writeOut _ _ _ _ _ _ _ _ hopen₂, ← List.take_add]
      rfl
  · cases hd.eq_of_nil
    refine ⟨.trans hother (.writeOut ..), .inr ⟨?_, ?_⟩⟩
    · exact hresult.trans (hresult'.trans hresult'')
    · rw [Disk.writeOut_writeOut _ _ _ _ _ _ _ _ hopen₂, List.take_append_drop, writtenUpTo,
        List.take_length]
      rfl

variable {entries : Descriptor O}

theorem CallStep.nextEntry_cases (hopen : disk.opened entries.number = some (.dir names))
    (hc : CallStep os disk (.nextEntry entries) disk') :
    ((∃ err, os.nextEntry entries = .error err) ∧ disk' = disk) ∨
      (os.nextEntry entries = .ok none ∧ names = [] ∧ disk' = disk) ∨
        ∃ name left, os.nextEntry entries = .ok (some name) ∧ names = name :: left ∧
          disk' = disk.describe entries.number (some (.dir left)) := by
  cases hc with
  | nextEntryFails herr => exact .inl ⟨⟨_, herr⟩, rfl⟩
  | lastEntry hok hopen' =>
      rw [hopen] at hopen'
      cases hopen'
      exact .inr (.inl ⟨hok, rfl, rfl⟩)
  | nextEntry hok hopen' =>
      rw [hopen] at hopen'
      cases hopen'
      exact .inr (.inr ⟨_, _, hok, rfl, rfl⟩)

/-- What the next entry of a directory may be answered with, and the entries left then. -/
def ListResult (id : Nat) (names left : List Text) (result : Except StatusReply (Name A)) : Prop :=
  (left = names ∧ ∃ err, result = .error (ioErrorToStatus err)) ∨
    (names = [] ∧ left = [] ∧ result = .error ⟨.eof, none⟩) ∨
      ∃ name, names = name :: left ∧ ((∃ err, result = .error (ioErrorToStatus err)) ∨
        ∃ attrs, result = .ok ⟨id, [(name, attrs)]⟩)

/-- **The next entry** is taken off the stream, also if its metadata cannot be read. -/
theorem readdir_spec (hopen : disk.opened entries.number = some (.dir names))
    (hd : Calls os disk (HandleState.readdir os id (.dir path entries)).calls disk') :
    disk'.contents = disk.contents ∧ (∀ k, k ≠ entries.number → disk'.opened k = disk.opened k) ∧
      ∃ left, disk'.opened entries.number = some (.dir left) ∧
        ListResult id names left (HandleState.readdir os id (.dir path entries)).result := by
  obtain ⟨disk₁, hnext, hrest⟩ := hd.of_attempt
  rcases hnext.nextEntry_cases hopen with
    ⟨⟨err, herr⟩, rfl⟩ | ⟨hok, rfl, rfl⟩ | ⟨name, left, hok, rfl, rfl⟩
  · obtain ⟨err', -, rfl, hresult⟩ | ⟨_, hok, -, -⟩ := hrest
    · exact ⟨rfl, fun _ _ => rfl, names, hopen, .inl ⟨rfl, err', hresult⟩⟩
    · cases hok.symm.trans herr
  · obtain ⟨err', herr, -, -⟩ | ⟨next, hok', hd, hresult⟩ := hrest
    · cases hok.symm.trans herr
    · cases hok.symm.trans hok'
      cases hd.eq_of_nil
      exact ⟨rfl, fun _ _ => rfl, [], hopen, .inr (.inl ⟨rfl, rfl, hresult⟩)⟩
  · have hopen₁ : (disk.describe entries.number (some (.dir left))).opened entries.number =
        some (.dir left) := update_self ..
    have hother : ∀ k, k ≠ entries.number →
        (disk.describe entries.number (some (.dir left))).opened k = disk.opened k :=
      fun k hk => update_of_ne hk ..
    obtain ⟨err', herr, -, -⟩ | ⟨next, hok', hd, hresult⟩ := hrest
    · cases hok.symm.trans herr
    · cases hok.symm.trans hok'
      obtain ⟨disk₂, hmeta, hrest⟩ := hd.of_attempt
      cases hmeta
      obtain ⟨err, -, rfl, hresult'⟩ | ⟨attrs, -, hd, hresult'⟩ := hrest
      · exact ⟨rfl, hother, left, hopen₁,
          .inr (.inr ⟨name, rfl, .inl ⟨err, hresult.trans hresult'⟩⟩)⟩
      · cases hd.eq_of_nil
        exact ⟨rfl, hother, left, hopen₁,
          .inr (.inr ⟨name, rfl, .inr ⟨attrs, hresult.trans hresult'⟩⟩)⟩

variable {state : HandleState O} {x : Opened O}

/-- **Asking for attributes** changes nothing. -/
theorem fstat_spec {a : Positional O} (hx : a.opened n = some x)
    (hd : Calls os disk (HandleState.fstat os id state).calls disk') :
    disk' = disk ∧
      a.Answers (.on id n .fstat) ((HandleState.fstat os id state).result.map Reply.attrs) a := by
  cases state with
  | file f =>
      obtain ⟨disk₁, hmeta, hrest⟩ := hd.of_attempt
      cases hmeta
      obtain ⟨err, -, rfl, hresult⟩ | ⟨attrs, -, hd, hresult⟩ := hrest
      · exact ⟨rfl, (congrArg (Except.map Reply.attrs) hresult) ▸ .noAttrs hx⟩
      · exact ⟨hd.eq_of_nil, (congrArg (Except.map Reply.attrs) hresult) ▸ .attrs hx⟩
  | dir path entries =>
      obtain ⟨disk₁, hmeta, hrest⟩ := hd.of_attempt
      cases hmeta
      obtain ⟨err, -, rfl, hresult⟩ | ⟨attrs, -, hd, hresult⟩ := hrest
      · exact ⟨rfl, (congrArg (Except.map Reply.attrs) hresult) ▸ .noAttrs hx⟩
      · exact ⟨hd.eq_of_nil, (congrArg (Except.map Reply.attrs) hresult) ▸ .attrs hx⟩

/-! ## A session and its abstraction -/

/-- What the server holds under a handle, and the system under its descriptor, is `x`. -/
inductive Shows (disk : Disk O) : HandleState O → Opened O → Prop
  | file {f : Descriptor O} {append : Bool} {cursor : Nat}
      (hopen : disk.opened f.number = some (.file f.object append cursor [])) :
      Shows disk (.file f) (.file f.object append)
  | dir {path : PathBuf} {entries : Descriptor O} {names : List Text}
      (hopen : disk.opened entries.number = some (.dir names)) :
      Shows disk (.dir path entries) (.dir names)

omit [DecidableEq O] in
theorem Shows.congr (hs : Shows disk state x)
    (heq : disk'.opened state.number = disk.opened state.number) : Shows disk' state x := by
  cases hs with
  | file hopen => exact .file (heq.trans hopen)
  | dir hopen => exact .dir (heq.trans hopen)

/-- The abstract server `a` is in the state that the session is in. -/
structure Represents (h : List (HostEvent O A)) (s : Host O) (a : Positional O) : Prop where
  tracks : Tracks (requests h) s.sftp
  contents : a.contents = s.disk.contents
  closed : ∀ n, s.sftp.handles.lookup n = none → a.opened n = none
  holds : ∀ n state, s.sftp.handles.lookup n = some state →
    ∃ x, a.opened n = some x ∧ Shows s.disk state x
  apart : ∀ n m x y, s.sftp.handles.lookup n = some x → s.sftp.handles.lookup m = some y →
    x.number = y.number → n = m

variable {h : List (HostEvent O A)} {s : Host O} {a : Positional O} {e : Event O A}

omit [DecidableEq O] in
theorem Represents.new (hs : s.Initial rootDir) :
    Represents ([] : List (HostEvent O A)) s ⟨s.disk.contents, fun _ => none⟩ where
  tracks := hs ▸ Tracks.new rootDir
  contents := rfl
  closed _ _ := rfl
  holds n state hn := by
    rw [show s.sftp = LocalSftp.new rootDir from hs] at hn
    cases hn
  apart n m x y hn := by
    rw [show s.sftp = LocalSftp.new rootDir from hs] at hn
    cases hn

omit [DecidableEq O] in
/-- A request that changes neither the table nor the disk. -/
theorem Represents.stay (hr : Represents h s a) (ht : Tracks (e :: requests h) s.sftp) :
    Represents (.request e :: h) s a where
  tracks := ht
  contents := hr.contents
  closed := hr.closed
  holds := hr.holds
  apart := hr.apart

variable {a' : Positional O}

omit [DecidableEq O] in
/-- A request on the handle `n` that leaves every other descriptor alone. -/
theorem Represents.act (hr : Represents h s a) (ht : Tracks (e :: requests h) s.sftp)
    (hn : s.sftp.handles.lookup n = some state) (hcontents : a'.contents = disk'.contents)
    (hopened : a'.opened = update a.opened n (some x)) (hself : Shows disk' state x)
    (hother : ∀ k, k ≠ state.number → disk'.opened k = s.disk.opened k) :
    Represents (.request e :: h) ⟨s.sftp, disk'⟩ a' where
  tracks := ht
  contents := hcontents
  closed m hm := by
    have hne : m ≠ n := by
      rintro rfl
      cases hn.symm.trans hm
    rw [hopened, update_of_ne hne]
    exact hr.closed m hm
  holds m y hm := by
    by_cases heq : m = n
    · subst heq
      cases hn.symm.trans hm
      exact ⟨x, by rw [hopened, update_self], hself⟩
    · obtain ⟨z, hz, hshows⟩ := hr.holds m y hm
      refine ⟨z, by rw [hopened, update_of_ne heq, hz], hshows.congr (hother _ ?_)⟩
      -- no two handles share a descriptor
      intro hnumber
      exact heq (hr.apart m n y state hm hn hnumber)
  apart := hr.apart

omit [DecidableEq O] in
/-- A request that returns the next handle, for a descriptor that was free. -/
theorem Represents.register (hr : Represents h s a)
    (ht : Tracks (e :: requests h) (s.sftp.register id state).1)
    (hfree : s.disk.opened state.number = none) (hcontents : a'.contents = disk'.contents)
    (hopened : a'.opened = update a.opened (handleName (s.sftp.nextHandleId + 1).toNat) (some x))
    (hself : Shows disk' state x)
    (hother : ∀ k, k ≠ state.number → disk'.opened k = s.disk.opened k) :
    Represents (.request e :: h) ⟨(s.sftp.register id state).1, disk'⟩ a' := by
  set n := handleName (s.sftp.nextHandleId + 1).toNat with hname
  have hlookup : ∀ m, (s.sftp.register id state).1.handles.lookup m =
      if m = n then some state else s.sftp.handles.lookup m :=
    fun m => Table.lookup_insert_ite s.sftp.handles n m state
  -- the descriptors of the other handles are in use
  have hused : ∀ m y, s.sftp.handles.lookup m = some y → y.number ≠ state.number := by
    intro m y hm hnumber
    obtain ⟨z, -, hshows⟩ := hr.holds m y hm
    rw [← hnumber] at hfree
    cases hshows with
    | file hopen => cases hfree.symm.trans hopen
    | dir hopen => cases hfree.symm.trans hopen
  refine ⟨ht, hcontents, fun m hm => ?_, fun m y hm => ?_, fun m m' y y' hm hm' hnumber => ?_⟩
  · rw [hlookup] at hm
    split at hm
    · cases hm
    · next hne =>
        rw [hopened, update_of_ne hne]
        exact hr.closed m hm
  · rw [hlookup] at hm
    split at hm
    · next heq =>
        cases hm
        exact ⟨x, by rw [hopened, heq, update_self], hself⟩
    · next hne =>
        obtain ⟨z, hz, hshows⟩ := hr.holds m y hm
        exact ⟨z, by rw [hopened, update_of_ne hne, hz],
          hshows.congr (hother _ (hused m y hm))⟩
  · rw [hlookup] at hm hm'
    split at hm
    · next heq =>
        cases hm
        split at hm'
        · next heq' => exact heq.trans heq'.symm
        · exact absurd hnumber.symm (hused m' y' hm')
    · next hne =>
        split at hm'
        · cases hm'
          exact absurd hnumber (hused m y hm)
        · exact hr.apart m m' y y' hm hm' hnumber

omit [DecidableEq O] in
/-- A handle is closed, and its descriptor with it. -/
theorem Represents.close (hr : Represents h s a)
    (ht : Tracks (e :: requests h) (s.sftp.after n .close))
    (hn : s.sftp.handles.lookup n = some state) :
    Represents (.request e :: h) ⟨s.sftp.after n .close, s.disk.describe state.number none⟩
      (a.hold n none) := by
  have hlookup : ∀ m, (s.sftp.after n .close).handles.lookup m =
      if m = n then none else s.sftp.handles.lookup m :=
    fun m => Table.lookup_erase_ite s.sftp.handles n m
  refine ⟨ht, hr.contents, fun m hm => ?_, fun m y hm => ?_, fun m m' y y' hm hm' hnumber => ?_⟩
  · show update a.opened n none m = none
    by_cases heq : m = n
    · rw [heq, update_self]
    · rw [hlookup, if_neg heq] at hm
      rw [update_of_ne heq]
      exact hr.closed m hm
  · rw [hlookup] at hm
    split at hm
    · cases hm
    · next hne =>
        obtain ⟨z, hz, hshows⟩ := hr.holds m y hm
        refine ⟨z, (update_of_ne hne ..).trans hz, hshows.congr ?_⟩
        refine update_of_ne ?_ ..
        exact fun hnumber => hne (hr.apart m n y state hm hn hnumber)
  · rw [hlookup] at hm hm'
    split at hm
    · cases hm
    · split at hm'
      · cases hm'
      · exact hr.apart m m' y y' hm hm' hnumber

omit [DecidableEq O] in
/-- The next handle is not in the table. -/
theorem Represents.fresh (hr : Represents h s a) (hopens : opens (requests h) + 1 < 2 ^ 64) :
    s.sftp.handles.lookup (handleName (s.sftp.nextHandleId + 1).toNat) = none := by
  rw [hr.tracks.next hopens]
  exact hr.tracks.lookup_eq_none (.inl fun e' he' => hr.tracks.fresh he')

variable {sftp : LocalSftp O}

/-- What a request leads to, on both sides. -/
def Answered (h : List (HostEvent O A)) (s : Host O) (a : Positional O) (e : Event O A) : Prop :=
  ∃ a', a.Answers e.request e.served.result a' ∧ Represents (.request e :: h) s a'

omit [DecidableEq O] in
/-- A request that returns a handle counts. -/
theorem opens_of_handle {h : List (Event O A)} (hresult : e.served.result = .ok (.handle ⟨id, n⟩)) :
    opens (e :: h) = opens h + 1 := by
  refine opens_cons_of_some (n := n) ?_
  unfold Event.returned
  rw [hresult]

theorem Represents.openFile {filename : Text} {pflags : UInt32} (hr : Represents h s a)
    (hrequest : e.request = .openFile id filename pflags)
    (hopens : opens (e :: requests h) < 2 ^ 64) (hs : SessionStep p s.sftp e sftp)
    (hd : Calls e.os s.disk e.served.calls disk') : Answered h ⟨sftp, disk'⟩ a e := by
  have ht := hr.tracks.step hs.effect hopens
  obtain ⟨path, err, hserved, rfl⟩ | ⟨path, f, hserved, rfl⟩ := hs.openFile_cases hrequest
  · rw [hserved] at hd
    obtain ⟨disk₁, hc, hcs⟩ := hd.of_cons
    cases hc
    cases hcs.eq_of_nil
    refine ⟨a, ?_, hr.stay ht⟩
    rw [hrequest, hserved]
    exact .notOpened
  · have hcount : opens (e :: requests h) = opens (requests h) + 1 :=
      opens_of_handle (congrArg Served.result hserved)
    rw [hserved] at hd
    obtain ⟨disk₁, hc, hcs⟩ := hd.of_cons
    cases hcs.eq_of_nil
    cases hc with
    | openFile hfree =>
        refine ⟨Positional.hold { a with contents := afterOpen a.contents f.object pflags } _ _, ?_,
          hr.register ht hfree ?_ rfl (.file (update_self ..))
            fun k hk => update_of_ne hk ..⟩
        · rw [hrequest, hserved]
          exact .opened (hr.closed _ (hr.fresh (hcount ▸ hopens)))
        · show afterOpen a.contents f.object pflags = afterOpen s.disk.contents f.object pflags
          rw [hr.contents]

theorem Represents.opendir {path : Text} (hr : Represents h s a)
    (hrequest : e.request = .opendir id path) (hopens : opens (e :: requests h) < 2 ^ 64)
    (hs : SessionStep p s.sftp e sftp) (hd : Calls e.os s.disk e.served.calls disk') :
    Answered h ⟨sftp, disk'⟩ a e := by
  have ht := hr.tracks.step hs.effect hopens
  obtain ⟨path, err, hserved, rfl⟩ | ⟨path, entries, hserved, rfl⟩ := hs.opendir_cases hrequest
  · rw [hserved] at hd
    obtain ⟨disk₁, hc, hcs⟩ := hd.of_cons
    cases hc
    cases hcs.eq_of_nil
    refine ⟨a, ?_, hr.stay ht⟩
    rw [hrequest, hserved]
    exact .notOpenedDir
  · have hcount : opens (e :: requests h) = opens (requests h) + 1 :=
      opens_of_handle (congrArg Served.result hserved)
    rw [hserved] at hd
    obtain ⟨disk₁, hc, hcs⟩ := hd.of_cons
    cases hcs.eq_of_nil
    cases hc with
    | @readDir _ _ names hfree =>
        refine ⟨a.hold _ (some (.dir names)), ?_,
          hr.register ht hfree hr.contents rfl (.dir (update_self ..))
            fun k hk => update_of_ne hk ..⟩
        rw [hrequest, hserved]
        exact .openedDir (hr.closed _ (hr.fresh (hcount ▸ hopens)))

/-- A request on an open file. -/
theorem Represents.onFile (hr : Represents h s a)
    (ht : Tracks (e :: requests h) (s.sftp.after n op)) (hrequest : e.request = .on id n op)
    (hn : s.sftp.handles.lookup n = some (.file f))
    (hserved : e.served = (HandleState.file f).perform e.os id op)
    (hd : Calls e.os s.disk e.served.calls disk') : Answered h ⟨s.sftp.after n op, disk'⟩ a e := by
  obtain ⟨x, hx, hshows⟩ := hr.holds n _ hn
  cases hshows with
  | @file _ append cursor hopen =>
      rw [hserved] at hd
      unfold Answered
      rw [hrequest, hserved]
      have hsame : a.opened = update a.opened n (some (.file f.object append)) := by
        rw [← hx, update_eq_self]
      cases op with
      | close =>
          obtain ⟨disk₁, hc, hcs⟩ := hd.of_cons
          cases hc
          cases hcs.eq_of_nil
          exact ⟨_, .closed hx, hr.close ht hn⟩
      | read offset len =>
          obtain ⟨hcontents, ⟨⟨cursor', hself⟩, hother⟩, hresult⟩ := read_spec hopen hd
          refine ⟨a, ?_, hr.act ht hn (hr.contents.trans hcontents.symm) hsame (.file hself) hother⟩
          show a.Answers _ ((HandleState.read e.os id offset len (.file f)).result.map Reply.data) a
          rw [← hr.contents] at hresult
          rcases hresult with ⟨err, hresult⟩ | ⟨hresult, hend⟩ | ⟨bytes, hresult, hne, hbytes⟩
          · rw [hresult]
            exact .notRead hx
          · rw [hresult]
            exact .endOfFile hx hend
          · rw [hresult]
            exact .data hx hne hbytes
      | write offset bytes =>
          obtain ⟨⟨⟨cursor', hself⟩, hother⟩, hresult⟩ := write_spec hopen hd
          have hafter : ∀ k, (a.write f.object append offset (bytes.take k)).contents =
              writtenUpTo s.disk f append offset bytes k := by
            intro k
            rw [writtenUpTo, ← hr.contents]
            rfl
          rcases hresult with ⟨err, k, hresult, hcontents⟩ | ⟨hresult, hcontents⟩
          · refine ⟨a.write f.object append offset (bytes.take k), ?_,
              hr.act ht hn ((hafter k).trans hcontents.symm) hsame (.file hself) hother⟩
            show a.Answers _
              ((HandleState.write e.os id offset bytes (.file f)).result.map Reply.status) _
            rw [hresult]
            exact .notWritten hx
          · refine ⟨a.write f.object append offset (bytes.take bytes.length), ?_,
              hr.act ht hn ((hafter _).trans hcontents.symm) hsame (.file hself) hother⟩
            show a.Answers _
              ((HandleState.write e.os id offset bytes (.file f)).result.map Reply.status) _
            rw [hresult, List.take_length]
            exact .written hx
      | fstat =>
          obtain ⟨rfl, hanswers⟩ := fstat_spec hx hd
          exact ⟨a, hanswers, hr.stay ht⟩
      | readdir =>
          cases hd.eq_of_nil
          exact ⟨a, .notADirectory hx, hr.stay ht⟩

/-- A request on an open directory. -/
theorem Represents.onDir (hr : Represents h s a) (ht : Tracks (e :: requests h) (s.sftp.after n op))
    (hrequest : e.request = .on id n op) (hn : s.sftp.handles.lookup n = some (.dir path entries))
    (hserved : e.served = (HandleState.dir path entries).perform e.os id op)
    (hd : Calls e.os s.disk e.served.calls disk') : Answered h ⟨s.sftp.after n op, disk'⟩ a e := by
  obtain ⟨x, hx, hshows⟩ := hr.holds n _ hn
  cases hshows with
  | @dir _ _ names hopen =>
      rw [hserved] at hd
      unfold Answered
      rw [hrequest, hserved]
      cases op with
      | close =>
          obtain ⟨disk₁, hc, hcs⟩ := hd.of_cons
          cases hc
          cases hcs.eq_of_nil
          exact ⟨_, .closed hx, hr.close ht hn⟩
      | read offset len =>
          cases hd.eq_of_nil
          exact ⟨a, .notAFile hx (.inl ⟨offset, len, rfl⟩), hr.stay ht⟩
      | write offset bytes =>
          cases hd.eq_of_nil
          exact ⟨a, .notAFile hx (.inr ⟨offset, bytes, rfl⟩), hr.stay ht⟩
      | fstat =>
          obtain ⟨rfl, hanswers⟩ := fstat_spec hx hd
          exact ⟨a, hanswers, hr.stay ht⟩
      | readdir =>
          obtain ⟨hcontents, hother, left, hself, hresult⟩ := readdir_spec hopen hd
          have hkeeps : Represents (.request e :: h) ⟨s.sftp, disk'⟩
            (a.hold n (some (.dir left))) :=
            hr.act ht hn (hr.contents.trans hcontents.symm) rfl (.dir hself) hother
          have hheld : left = names → a.hold n (some (.dir left)) = a := by
            rintro rfl
            unfold Positional.hold
            rw [← hx, update_eq_self]
          refine ⟨_, ?_, hkeeps⟩
          show a.Answers _
            ((HandleState.readdir e.os id (.dir path entries)).result.map Reply.name) _
          rcases hresult with ⟨hleft, err, hresult⟩ | ⟨rfl, hleft, hresult⟩ |
            ⟨name, rfl, ⟨err, hresult⟩ | ⟨attrs, hresult⟩⟩
          · rw [hresult, hheld hleft]
            exact .notListed hx
          · rw [hresult, hheld hleft]
            exact .listed hx
          · rw [hresult]
            exact .noEntry hx
          · rw [hresult]
            exact .entry hx

/-- **One step** is matched by one of the abstract server. -/
theorem Represents.step {e : HostEvent O A} {s' : Host O} (hr : Represents h s a)
    (hopens : opens (requests (e :: h)) < 2 ^ 64) (hs : HostStep p s e s') :
    ∃ a', PositionalStep a e a' ∧ Represents (e :: h) s' a' := by
  cases hs with
  | @others object bytes =>
      refine ⟨_, .others, hr.tracks, congrArg (update · object bytes) hr.contents,
        hr.closed,
        fun n state hn => ?_, hr.apart⟩
      obtain ⟨x, hx, hshows⟩ := hr.holds n state hn
      exact ⟨x, hx, hshows.congr rfl⟩
  | @request e sftp disk' hs hd =>
      have hstep : Answered h ⟨sftp, disk'⟩ a e := by
        cases hrequest : e.request with
        | openFile id filename pflags => exact hr.openFile hrequest hopens hs hd
        | opendir id path => exact hr.opendir hrequest hopens hs hd
        | on id n op =>
            have ht := hr.tracks.step hs.effect hopens
            unfold SessionStep at hs
            rw [hrequest] at hs
            cases hn : s.sftp.handles.lookup n with
            | none =>
                rw [serve_on_of_none hn] at hs
                obtain ⟨rfl, hserved⟩ := Prod.mk.inj hs
                rw [← hserved] at hd
                cases hd.eq_of_nil
                refine ⟨a, ?_, hr.stay ht⟩
                rw [hrequest, ← hserved]
                exact .unknown (hr.closed n hn)
            | some state =>
                rw [serve_on_of_some hn] at hs
                obtain ⟨rfl, hserved⟩ := Prod.mk.inj hs
                cases state with
                | file f => exact hr.onFile ht hrequest hn hserved.symm hd
                | dir path entries => exact hr.onDir ht hrequest hn hserved.symm hd
      obtain ⟨a', hanswer, hr'⟩ := hstep
      exact ⟨a', .request hanswer, hr'⟩

theorem represents_of_run (hr : Run (Host.Initial rootDir) (HostStep p) h s)
    (hopens : opens (requests h) < 2 ^ 64) :
    ∃ a, Run Positional.Initial PositionalStep h a ∧ Represents h s a := by
  refine Run.simulate (H := fun h => opens (requests h) < 2 ^ 64) (R := Represents)
    ?_ ?_ ?_ hr hopens
  · intro e h hlt
    cases e with
    | others object bytes => exact hlt
    | request e => exact Nat.lt_of_le_of_lt (opens_le_cons e (requests h)) hlt
  · intro s h0
    exact ⟨⟨s.disk.contents, fun _ => none⟩, rfl, .new h0⟩
  · intro h s a e s' hlt hrep hs
    exact hrep.step hlt hs

/-- Every request is a step, with any calls of the system that go with it. -/
theorem HostStep.of_serve (p : Platform) (s : Host O) (os : Os O A) (request : Request)
    (hd : Calls os s.disk (serve p s.sftp os request).2.calls disk') :
    HostStep p s (.request ⟨request, os, (serve p s.sftp os request).2⟩)
      ⟨(serve p s.sftp os request).1, disk'⟩ := .request rfl hd

/-- **The sessions refine the server without cursors.** The abstract server gives the same replies,
its files have the same contents and it knows the same handles, whatever the order of the requests,
the failures of the system, the short reads and the changes that other programs make. -/
theorem sessions_are_positional (p : Platform) (rootDir : PathBuf) (h : List (HostEvent O A))
    (s : Host O)
    (hr : Run (Host.Initial rootDir) (HostStep p) h s) (hopens : opens (requests h) < 2 ^ 64) :
    ∃ a, Run Positional.Initial PositionalStep h a ∧ a.contents = s.disk.contents ∧
      ∀ n, a.opened n = none ↔ s.sftp.handles.lookup n = none := by
  obtain ⟨a, hrun, hrep⟩ := represents_of_run hr hopens
  refine ⟨a, hrun, hrep.contents, fun n => ⟨fun hnone => ?_, hrep.closed n⟩⟩
  by_contra hsome
  obtain ⟨state, hstate⟩ := Option.ne_none_iff_exists'.mp hsome
  obtain ⟨x, hx, -⟩ := hrep.holds n state hstate
  cases hnone.symm.trans hx

end

/-- A file is opened, truncated, written to and read. -/
def writeThenRead : List (Request × Os Nat Nat) :=
  [(.on 3 "h1".toList (.read 1 8), { sampleOs 0 13 with read := fun _ _ => .ok [7] }),
    (.on 2 "h1".toList (.write 1 [7]), sampleOs 0 13),
    (.openFile 1 "a".toList 0x1b, sampleOs 0 12)]

theorem write_then_read_is_positional :
    ∃ s, Run (Host.Initial "/srv".toList) (HostStep .linux)
        ((replay .linux "/srv".toList writeThenRead).1.map .request) s ∧
      s.disk.contents 1 = [0, 7] ∧
      ∃ a, Run Positional.Initial PositionalStep
        ((replay .linux "/srv".toList writeThenRead).1.map .request) a ∧
        a.contents = s.disk.contents ∧ ∀ n, a.opened n = none ↔ s.sftp.handles.lookup n = none := by
  have hstart : Run (Host.Initial "/srv".toList) (HostStep .linux) ([] : List (HostEvent Nat Nat))
      ⟨LocalSftp.new "/srv".toList, ⟨fun _ => [1], fun _ => none⟩⟩ := .nil rfl
  have hopened := hstart.cons (.of_serve .linux _ (sampleOs 0 12) (.openFile 1 "a".toList 0x1b)
    (.cons (.openFile rfl) .nil))
  have hwritten := hopened.cons (.of_serve .linux _ (sampleOs 0 13)
    (.on 2 "h1".toList (.write 1 [7]))
    (.cons (.seek rfl rfl) (.cons (.writeAll (k := 0) rfl rfl) (.cons (.flush rfl rfl) .nil))))
  have hread := hwritten.cons (.of_serve .linux _ { sampleOs 0 13 with read := fun _ _ => .ok [7] }
    (.on 3 "h1".toList (.read 1 8))
      (.cons (.seek rfl rfl) (.cons (.read rfl rfl ⟨[], rfl⟩ nofun) .nil)))
  exact ⟨_, hread, rfl, sessions_are_positional _ _ _ _ hread (by decide)⟩

end Narrowd.Sftp
