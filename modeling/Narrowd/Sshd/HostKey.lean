import Narrowd.Lib.Run
import Narrowd.Basic.Path
import Narrowd.AuthorizedKeys.Cache

set_option autoImplicit false

/-! # The host key over restarts

A client remembers the host key of a server, so the daemon has to come back with the same one.
`load_or_generate_host_key` (`sshd.rs`) reads the key file if there is one and makes a key
otherwise. This file follows it, as part of `AppState::bootstrap`, over any number of starts on
Unix: every call to the file system may fail, a write may stop after any number of bytes, and
between two starts others may do with the file what they like.

* The file decides: a start that sees a file never writes to it (`bootstrap_of_seen`), and a start
  that leaves the file as it is succeeds only with the key that it holds. So all starts that see the
  file of a successful one have its key, and a file that was left half written makes them all fail.
* A successful start leaves an Ed25519 key that is on the disk, in a file that nobody but its owner
  can access.

The one way to lose a key is in the word *sees*. `Path::exists` also answers `false` when the file
cannot be looked up; such a start opens up the directory, makes a new key and truncates the file.
-/

namespace Narrowd.Sshd.HostKey

open Lib AuthorizedKeys

variable {K : Type}

/-! ## The disk and the calls -/

/-- What the daemon uses of `ssh_key::PrivateKey`. What was written reads back. -/
structure KeyFormat (K : Type) where
  algorithm : K → Algorithm
  toOpenssh : K → List UInt8
  fromOpenssh : List UInt8 → Except AnyError K
  fromOpenssh_toOpenssh : ∀ key, fromOpenssh (toOpenssh key) = .ok key

structure KeyFile where
  bytes : List UInt8
  mode : UInt32
  deriving DecidableEq, Repr

/-- The file at the configured path, and the mode of its directory; `none` where there is none. -/
structure Disk where
  file : Option KeyFile
  directory : Option UInt32
  deriving DecidableEq, Repr

/-- What the surroundings answer to the steps of one start, as far as it gets to them. -/
structure StartIo (K : Type) where
  homeDir : Option PathBuf
  /-- The lookup behind `path.exists()`. -/
  lookup : Except IoError Unit
  read : Except IoError Unit
  createDirAll : Except IoError Unit
  setPermissions : Except IoError Unit
  random : Except AnyError K
  openFile : Except IoError Unit
  /-- The bytes that were written before an error. -/
  writeAll : Except (Nat × IoError) Unit
  umask : UInt32
  metadata : Except IoError Unit
  daemonUsername : Except AnyError Unit
  /-- `AuthorizedKeysStore::load`, if the file exists. -/
  authorizedKeys : Except AnyError Unit
  spawnExecutor : Except AnyError Unit

namespace Disk

/-- `Path::exists`: an error of the lookup counts as absence. -/
def pathExists (d : Disk) (io : StartIo K) : Bool :=
  match io.lookup with
  | .ok () => d.file.isSome
  | .error _ => false

def notFound : IoError := { kind := .notFound, text := "No such file or directory (os error 2)" }

/-- The mode in the metadata of the file. -/
def fileMode (d : Disk) (io : StartIo K) : Except IoError UInt32 := do
  io.metadata
  match d.file with
  | some file => .ok file.mode
  | none => .error notFound

def createDirAll (d : Disk) (io : StartIo K) : Except IoError Unit × Disk :=
  match io.createDirAll with
  | .error err => (.error err, d)
  | .ok () => (.ok (), { d with directory := some (d.directory.getD (0o777 &&& ~~~io.umask)) })

def setPermissions (d : Disk) (mode : UInt32) (io : StartIo K) : Except IoError Unit × Disk :=
  match io.setPermissions with
  | .error err => (.error err, d)
  | .ok () => (.ok (), { d with directory := some mode })

/-- `PrivateKey::write_openssh_file`. Opening the file truncates it, or creates it with mode
`0600`. -/
def writeOpensshFile (d : Disk) (fmt : KeyFormat K) (key : K) (io : StartIo K) :
    Except IoError Unit × Disk :=
  match io.openFile with
  | .error err => (.error err, d)
  | .ok () =>
      let mode := (d.file.map KeyFile.mode).getD (0o600 &&& ~~~io.umask)
      match io.writeAll with
      | .error (written, err) =>
          (.error err, { d with file := some ⟨(fmt.toOpenssh key).take written, mode⟩ })
      | .ok () => (.ok (), { d with file := some ⟨fmt.toOpenssh key, mode⟩ })

end Disk

/-! ## `load_or_generate_host_key` -/

/-- `{:03o}`. -/
def octal (mode : UInt32) : String :=
  let digits := Nat.toDigits 8 mode.toNat
  String.ofList (List.replicate (3 - digits.length) '0' ++ digits)

/-- Neither group nor others have access. -/
def IsPrivate (mode : UInt32) : Prop := mode &&& 0o777 &&& 0o077 = 0

instance (mode : UInt32) : Decidable (IsPrivate mode) := inferInstanceAs (Decidable (_ = _))

section

variable (path : PathBuf) (fmt : KeyFormat K) (io : StartIo K) (d : Disk)

def verifyPrivateHostKeyFilePermissions : Except AnyError Unit := do
  let mode ← withContext ("failed to stat host key " ++ String.ofList path) (d.fileMode io)
  if IsPrivate mode then .ok ()
  else
    .error ⟨"host key " ++ String.ofList path ++ " has insecure permissions " ++
      octal (mode &&& 0o777)
      ++ "; group/other access bits must be unset", []⟩

/-- `PrivateKey::read_openssh_file`. -/
def readOpensshFile : Except AnyError K :=
  match io.read, d.file with
  | .error err, _ => .error ⟨err.text, []⟩
  | .ok (), none => .error ⟨Disk.notFound.text, []⟩
  | .ok (), some file => fmt.fromOpenssh file.bytes

/-- The steps on a file that is there. -/
def loadHostKey : Except AnyError K := do
  let key ← (readOpensshFile fmt io d).mapError fun err =>
    err.context ("failed to read host key " ++ String.ofList path)
  verifyPrivateHostKeyFilePermissions path io d
  return key

def ensurePrivateHostKeyDirectory (parent : PathBuf) : Except AnyError Unit × Disk :=
  let (secured, d) := d.setPermissions 0o700 io
  (withContext ("failed to set directory mode 0700 on " ++ String.ofList parent) secured, d)

/-- The directory of a file that is not there. -/
def prepareDirectory : Except AnyError Unit × Disk :=
  match PathBuf.parent .linux path with
  | none => (.ok (), d)
  | some parent =>
      match d.createDirAll io with
      | (.error err, d) => (.error ⟨"failed to create " ++ String.ofList parent, [err.text]⟩, d)
      | (.ok (), d) =>
          let (secured, d) := ensurePrivateHostKeyDirectory io d parent
          (secured.mapError fun err => err.context ("failed to secure " ++ String.ofList parent), d)

def generateHostKey : Except AnyError K × Disk :=
  match io.random with
  | .error err => (.error (err.context "failed to generate host key"), d)
  | .ok key =>
      match d.writeOpensshFile fmt key io with
      | (.error err, d) =>
          (.error ⟨"failed to write host key " ++ String.ofList path, [err.text]⟩, d)
      | (.ok (), d) => ((verifyPrivateHostKeyFilePermissions path io d).map fun _ => key, d)

def loadOrGenerateHostKey : Except AnyError K × Disk :=
  if d.pathExists io then (loadHostKey path fmt io d, d)
  else
    match prepareDirectory path io d with
    | (.error err, d) => (.error err, d)
    | (.ok (), d) => generateHostKey path fmt io d

/-- What `AppState::bootstrap` does after it has the key. -/
def admitHostKey (key : K) : Except AnyError K := do
  io.daemonUsername
  io.authorizedKeys
  if fmt.algorithm key ≠ .ed25519 then
    .error ⟨"host key " ++ String.ofList path
      ++ " must be an Ed25519 key for the public exposure profile", []⟩
  io.spawnExecutor
  return key

/-- `AppState::bootstrap`, with the host key for its result. -/
def bootstrap : Except AnyError K × Disk :=
  match io.homeDir with
  | none => (.error ⟨"unable to determine home directory", []⟩, d)
  | some _ =>
      let (loaded, d) := loadOrGenerateHostKey path fmt io d
      (loaded.bind (admitHostKey path fmt io), d)

end

/-! ## Starts -/

inductive StartEvent (K : Type)
  | start (io : StartIo K) (result : Except AnyError K)
  /-- Anyone else leaves the file like this. -/
  | others (file : Option KeyFile)

variable (path : PathBuf) (fmt : KeyFormat K)

inductive StartStep : Disk → StartEvent K → Disk → Prop
  | start (io : StartIo K) (d : Disk) :
      StartStep d (.start io (bootstrap path fmt io d).1) (bootstrap path fmt io d).2
  | others (file : Option KeyFile) (d : Disk) : StartStep d (.others file) { d with file := file }

/-- An event that leaves the contents of the file as they are. -/
def KeepingStep (d : Disk) (e : StartEvent K) (d' : Disk) : Prop :=
  StartStep path fmt d e d' ∧ d'.file.map KeyFile.bytes = d.file.map KeyFile.bytes

variable {path fmt}

/-! ## What a start does -/

section

variable {io : StartIo K} {d d' : Disk} {key : K}

/-- The file holds `key`, and only its owner can access it. -/
def Holds (fmt : KeyFormat K) (d : Disk) (key : K) : Prop :=
  ∃ file, d.file = some file ∧ fmt.fromOpenssh file.bytes = .ok key ∧ IsPrivate file.mode

theorem verify_eq_ok (h : verifyPrivateHostKeyFilePermissions path io d = .ok ()) :
    ∃ file, d.file = some file ∧ IsPrivate file.mode := by
  obtain ⟨mode, hmode, hprivate⟩ := bind_eq_ok h
  rw [withContext_eq_ok] at hmode
  obtain ⟨-, -, hfile⟩ := bind_eq_ok hmode
  cases hd : d.file with
  | none =>
      rw [hd] at hfile
      cases hfile
  | some file =>
      rw [hd] at hfile
      cases hfile
      split at hprivate
      · next hp => exact ⟨file, rfl, hp⟩
      · cases hprivate

theorem mapError_eq_ok {ε ε' α : Type*} {f : ε → ε'} {x : Except ε α} {a : α}
    (h : x.mapError f = .ok a) : x = .ok a := by
  cases x with
  | ok b =>
      cases h
      rfl
  | error err => cases h

theorem readOpensshFile_eq_ok (h : readOpensshFile fmt io d = .ok key) :
    ∃ file, d.file = some file ∧ fmt.fromOpenssh file.bytes = .ok key := by
  unfold readOpensshFile at h
  split at h
  · cases h
  · cases h
  · next file _ hfile => exact ⟨file, hfile, h⟩

theorem loadHostKey_eq_ok (h : loadHostKey path fmt io d = .ok key) : Holds fmt d key := by
  obtain ⟨_, hread, h⟩ := bind_eq_ok h
  obtain ⟨_, hverify, hkey⟩ := bind_eq_ok h
  cases hkey
  obtain ⟨file, hfile, hbytes⟩ := readOpensshFile_eq_ok (mapError_eq_ok hread)
  obtain ⟨file', hfile', hprivate⟩ := verify_eq_ok hverify
  cases hfile.symm.trans hfile'
  exact ⟨file, hfile, hbytes, hprivate⟩

/-- A key file that was written without an error is complete. -/
theorem writeOpensshFile_eq_ok (h : d.writeOpensshFile fmt key io = (.ok (), d')) :
    ∃ mode, d'.file = some ⟨fmt.toOpenssh key, mode⟩ := by
  unfold Disk.writeOpensshFile at h
  split at h
  · cases h
  · split at h
    · cases h
    · cases h
      exact ⟨_, rfl⟩

theorem generateHostKey_eq_ok (h : generateHostKey path fmt io d = (.ok key, d')) :
    Holds fmt d' key := by
  unfold generateHostKey at h
  split at h
  · cases h
  · next generated _ =>
      split at h
      · cases h
      · next d₁ hwrite =>
          obtain ⟨hkey, rfl⟩ := Prod.mk.inj h
          cases hverify : verifyPrivateHostKeyFilePermissions path io d₁ with
          | error err =>
              rw [hverify] at hkey
              cases hkey
          | ok _ =>
              rw [hverify] at hkey
              cases hkey
              obtain ⟨mode, hfile⟩ := writeOpensshFile_eq_ok hwrite
              obtain ⟨file, hfile', hprivate⟩ := verify_eq_ok hverify
              cases hfile.symm.trans hfile'
              exact ⟨_, hfile, fmt.fromOpenssh_toOpenssh _, hprivate⟩

theorem loadOrGenerateHostKey_eq_ok (h : loadOrGenerateHostKey path fmt io d = (.ok key, d')) :
    Holds fmt d' key := by
  unfold loadOrGenerateHostKey at h
  split at h
  · obtain ⟨hload, rfl⟩ := Prod.mk.inj h
    exact loadHostKey_eq_ok hload
  · split at h
    · cases h
    · exact generateHostKey_eq_ok h

theorem admitHostKey_eq_ok {loaded : K} (h : admitHostKey path fmt io loaded = .ok key) :
    loaded = key ∧ fmt.algorithm key = .ed25519 := by
  obtain ⟨-, -, h⟩ := bind_eq_ok h
  obtain ⟨-, -, h⟩ := bind_eq_ok h
  by_cases halg : fmt.algorithm loaded = .ed25519
  · simp only [ne_eq, halg, not_true_eq_false, if_false] at h
    obtain ⟨-, -, hkey⟩ := bind_eq_ok h
    cases hkey
    exact ⟨rfl, halg⟩
  · simp only [ne_eq, halg, not_false_eq_true, if_true] at h
    cases h

/-- **A successful start** has an Ed25519 key, and the file holds it. -/
theorem bootstrap_eq_ok (h : bootstrap path fmt io d = (.ok key, d')) :
    Holds fmt d' key ∧ fmt.algorithm key = .ed25519 := by
  unfold bootstrap at h
  split at h
  · cases h
  · obtain ⟨hkey, rfl⟩ := Prod.mk.inj h
    obtain ⟨loaded, hload, hadmit⟩ := bind_eq_ok hkey
    obtain ⟨rfl, halg⟩ := admitHostKey_eq_ok hadmit
    exact ⟨loadOrGenerateHostKey_eq_ok (Prod.ext hload rfl), halg⟩

/-- **A start that sees a file** does not touch the disk. -/
theorem bootstrap_of_seen {file : KeyFile} (hfile : d.file = some file)
    (hseen : io.lookup = .ok ()) : (bootstrap path fmt io d).2 = d := by
  have hload : loadOrGenerateHostKey path fmt io d = (loadHostKey path fmt io d, d) := by
    rw [loadOrGenerateHostKey, if_pos]
    simp [Disk.pathExists, hseen, hfile]
  unfold bootstrap
  split
  · rfl
  · rw [hload]

end

/-! ## The file decides -/

/-- Every start of the history failed or has `key`. -/
def OnlyKey (key : K) (h : List (StartEvent K)) : Prop :=
  ∀ io result, .start io result ∈ h → (∃ err, result = .error err) ∨ result = .ok key

variable {key : K}

theorem OnlyKey.cons {h : List (StartEvent K)} {e : StartEvent K} (hh : OnlyKey key h)
    (he : ∀ io result, e = .start io result → (∃ err, result = .error err) ∨ result = .ok key) :
    OnlyKey key (e :: h) := by
  intro io result hmem
  rcases List.mem_cons.mp hmem with heq | hmem
  · exact he io result heq.symm
  · exact hh io result hmem

/-- A start that leaves the contents as they are has the key that they hold, or fails. -/
theorem KeepingStep.onlyKey {d d' : Disk} {e : StartEvent K} {bytes : List UInt8}
    (hfile : d.file.map KeyFile.bytes = some bytes) (hkey : fmt.fromOpenssh bytes = .ok key)
    (hs : KeepingStep path fmt d e d') :
    ∀ io result, e = .start io result → (∃ err, result = .error err) ∨ result = .ok key := by
  obtain ⟨hs, hkeeps⟩ := hs
  rintro io result rfl
  cases hs with
  | start =>
      cases hresult : (bootstrap path fmt io d).1 with
      | error err => exact .inl ⟨err, rfl⟩
      | ok key' =>
          obtain ⟨file, hfile', hbytes, -⟩ := (bootstrap_eq_ok (Prod.ext hresult rfl)).1
          rw [hfile', hfile] at hkeeps
          rw [Option.some.inj hkeeps, hkey] at hbytes
          exact .inr (congrArg _ (Except.ok.inj hbytes).symm)

theorem onlyKey_of_run {d d' : Disk} {later : List (StartEvent K)} {bytes : List UInt8}
    (hfile : d.file.map KeyFile.bytes = some bytes) (hkey : fmt.fromOpenssh bytes = .ok key)
    (hr : Run (· = d) (KeepingStep path fmt) later d') :
    d'.file.map KeyFile.bytes = some bytes ∧ OnlyKey key later := by
  induction hr with
  | nil h0 =>
      subst h0
      exact ⟨hfile, fun _ _ hmem => by cases hmem⟩
  | cons _ hs ih =>
      obtain ⟨hbytes, honly⟩ := ih
      exact ⟨hs.2.trans hbytes, honly.cons (hs.onlyKey hbytes hkey)⟩

/-! ## Starts that succeed -/

/-- Every call that a start makes on an existing file succeeds. -/
structure StartIo.Succeeds (io : StartIo K) : Prop where
  homeDir : io.homeDir.isSome
  lookup : io.lookup = .ok ()
  read : io.read = .ok ()
  metadata : io.metadata = .ok ()
  daemonUsername : io.daemonUsername = .ok ()
  authorizedKeys : io.authorizedKeys = .ok ()
  spawnExecutor : io.spawnExecutor = .ok ()

theorem admitHostKey_of_succeeds {io : StartIo K} (hio : io.Succeeds)
    (halg : fmt.algorithm key = .ed25519) : admitHostKey path fmt io key = .ok key := by
  simp only [admitHostKey, hio.daemonUsername, hio.authorizedKeys, halg, hio.spawnExecutor]
  rfl

theorem bootstrap_of_holds {io : StartIo K} {d : Disk} (hio : io.Succeeds) (hd : Holds fmt d key)
    (halg : fmt.algorithm key = .ed25519) : bootstrap path fmt io d = (.ok key, d) := by
  obtain ⟨file, hfile, hkey, hprivate⟩ := hd
  obtain ⟨home, hhome⟩ := Option.isSome_iff_exists.mp hio.homeDir
  have hexists : d.pathExists io = true := by simp [Disk.pathExists, hio.lookup, hfile]
  have hverify : verifyPrivateHostKeyFilePermissions path io d = .ok () := by
    simp only [verifyPrivateHostKeyFilePermissions, Disk.fileMode, hio.metadata, hfile]
    exact if_pos hprivate
  have hload : loadHostKey path fmt io d = .ok key := by
    simp only [loadHostKey, readOpensshFile, hio.read, hfile, hkey, hverify]
    rfl
  rw [bootstrap, hhome, loadOrGenerateHostKey, if_pos hexists, hload]
  exact Prod.ext (admitHostKey_of_succeeds hio halg) rfl

/-- **The host key survives restarts.** A successful start has an Ed25519 key, and leaves it in a
file that nobody but the owner can access. As long as no event changes the contents of that file,
which no start does that can look it up, every later start has this key or fails; and it does not
fail when its calls succeed and the file is still private. -/
theorem host_key_survives_restarts {io : StartIo K} {d d' : Disk} {key : K}
    {h later : List (StartEvent K)}
    (hr : Run (fun _ => True) (StartStep path fmt) (.start io (.ok key) :: h) d)
    (hlater : Run (· = d) (KeepingStep path fmt) later d') :
    fmt.algorithm key = .ed25519 ∧ Holds fmt d key ∧ OnlyKey key later ∧
      (∀ io' : StartIo K, io'.lookup = .ok () → KeepingStep path fmt d'
        (.start io' (bootstrap path fmt io' d').1) (bootstrap path fmt io' d').2) ∧
      ∀ io' : StartIo K, io'.Succeeds → (∀ file, d'.file = some file → IsPrivate file.mode) →
        bootstrap path fmt io' d' = (.ok key, d') := by
  cases hr with
  | @cons _ d₀ _ _ _ hs =>
      have hboot : bootstrap path fmt io d₀ = (.ok key, d) := by
        generalize he : StartEvent.start io (.ok key) = e at hs
        cases hs with
        | start io₀ =>
            obtain ⟨rfl, hkey⟩ := StartEvent.start.inj he
            exact Prod.ext hkey.symm rfl
        | others => cases he
      obtain ⟨hholds, halg⟩ := bootstrap_eq_ok hboot
      obtain ⟨file, hfile, hkey, hprivate⟩ := hholds
      have hbytes : d.file.map KeyFile.bytes = some file.bytes := by rw [hfile]; rfl
      obtain ⟨hkept, honly⟩ := onlyKey_of_run hbytes hkey hlater
      obtain ⟨file', hfile', hsame⟩ := Option.map_eq_some_iff.mp hkept
      refine ⟨halg, ⟨file, hfile, hkey, hprivate⟩, honly, fun io' hseen => ⟨.start io' d', ?_⟩,
        fun io' hio' hmode => ?_⟩
      · rw [bootstrap_of_seen hfile' hseen]
      · have hheld : Holds fmt d' key :=
          ⟨file', hfile', by rw [hsame]; exact hkey, hmode file' hfile'⟩
        exact bootstrap_of_holds hio' hheld halg

/-- Keys of one byte. -/
def byteKeys : KeyFormat UInt8 where
  algorithm _ := .ed25519
  toOpenssh key := [key]
  fromOpenssh
    | [key] => .ok key
    | _ => .error ⟨"length invalid", []⟩
  fromOpenssh_toOpenssh _ := rfl

/-- A start all of whose calls succeed and that would make `key`. -/
def quietStart (key : UInt8) : StartIo UInt8 where
  homeDir := some "/home/user".toList
  lookup := .ok ()
  read := .ok ()
  createDirAll := .ok ()
  setPermissions := .ok ()
  random := .ok key
  openFile := .ok ()
  writeAll := .ok ()
  umask := 0o022
  metadata := .ok ()
  daemonUsername := .ok ()
  authorizedKeys := .ok ()
  spawnExecutor := .ok ()

theorem quietStart_succeeds (key : UInt8) : (quietStart key).Succeeds :=
  ⟨rfl, rfl, rfl, rfl, rfl, rfl, rfl⟩

/-- Where the samples keep the key. -/
def samplePath : PathBuf := "/etc/narrowd/host_key".toList

def emptyDisk : Disk := { file := none, directory := none }

/-- The second start reads the key of the first. -/
theorem second_start_has_the_first_key :
    bootstrap samplePath byteKeys (quietStart 9)
      (bootstrap samplePath byteKeys (quietStart 7) emptyDisk).2
      = (.ok 7, (bootstrap samplePath byteKeys (quietStart 7) emptyDisk).2) := by
  have hfirst : (bootstrap samplePath byteKeys (quietStart 7) emptyDisk).1 = .ok 7 := by decide
  have hr : Run (fun _ => True) (StartStep samplePath byteKeys) [.start (quietStart 7) (.ok 7)]
      (bootstrap samplePath byteKeys (quietStart 7) emptyDisk).2 := by
    rw [← hfirst]
    exact .cons (.nil trivial) (.start _ _)
  obtain ⟨-, ⟨file, hfile, -, hprivate⟩, -, -, hagain⟩ :=
    host_key_survives_restarts hr (.nil rfl)
  refine hagain _ (quietStart_succeeds 9) fun file' hfile' => ?_
  cases hfile.symm.trans hfile'
  exact hprivate

/-- A start that cannot look up the file replaces its key. -/
example : bootstrap samplePath byteKeys { quietStart 9 with lookup := .error Disk.notFound }
    ⟨some ⟨[7], 0o600⟩, some 0⟩ = (.ok 9, ⟨some ⟨[9], 0o600⟩, some 0o700⟩) := by
  decide

end Narrowd.Sshd.HostKey
