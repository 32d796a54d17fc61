import Narrowd.Lib.Run
import Narrowd.Basic.Time
import Narrowd.Basic.AnyError

set_option autoImplicit false

/-! # The rotation of the log file

`RotatingLogFile` starts a new file when a message would make the current one too long. The rotation
gives up the handle of the file first, and then flushes it, removes the previous rotated file,
renames the current one and opens a new one. Each of these steps can fail; the handle is not taken
back then, and the length is not changed.

`write` and `flush` expect a handle. A call that comes after a failed rotation therefore panics
unless it is a write that tries to rotate again (`never_panics_iff`); a short message or a `flush`
is enough (`flush_after_failed_rotation`).
-/

namespace Narrowd.Logging

open Narrowd.Lib

/-- An open file. -/
structure File where
  fd : Nat
  deriving DecidableEq, Repr

/-- A call of a file system with the state `σ`. -/
abbrev FsCall (σ α : Type) := ExceptT IoError (StateM σ) α

/-- The calls that the log file makes. The two paths are fixed, so each concerns one file. -/
structure LogFs (σ : Type) where
  flush : FsCall σ Unit
  rotatedExists : σ → Bool
  removeRotated : FsCall σ Unit
  rename : FsCall σ Unit
  /-- `create_dir_all(parent)`; a path without a parent needs none. -/
  createDirAll : FsCall σ Unit
  openFile : FsCall σ File
  /-- The length of the opened file. -/
  metadata : FsCall σ Nat
  /-- The number of bytes that were written. -/
  write : List UInt8 → FsCall σ Nat

/-- What some file system answers to the steps of one call, as far as the call gets to them. -/
structure LogIo where
  flush : Except IoError Unit
  rotatedExists : Bool
  removeRotated : Except IoError Unit
  rename : Except IoError Unit
  createDirAll : Except IoError Unit
  openFile : Except IoError File
  metadata : Except IoError Nat
  write : Except IoError Nat

/-- The calls with these answers, where what they leave behind does not matter. -/
def LogIo.fs (io : LogIo) : LogFs Unit where
  flush := ExceptT.mk (pure io.flush)
  rotatedExists := fun _ => io.rotatedExists
  removeRotated := ExceptT.mk (pure io.removeRotated)
  rename := ExceptT.mk (pure io.rename)
  createDirAll := ExceptT.mk (pure io.createDirAll)
  openFile := ExceptT.mk (pure io.openFile)
  metadata := ExceptT.mk (pure io.metadata)
  write := fun _ => ExceptT.mk (pure io.write)

section

variable {σ : Type}

def openLogFile (fs : LogFs σ) : FsCall σ (File × Nat) := do
  fs.createDirAll
  let file ← fs.openFile
  let currentLen ← fs.metadata
  return (file, currentLen)

/-- `u64::saturating_add`. -/
def saturatingAdd (a b : Nat) : Nat := min (a + b) u64Max

structure RotatingLogFile where
  maxBytes : Nat
  currentLen : Nat
  file : Option File
  deriving DecidableEq, Repr

namespace RotatingLogFile

def newOn (maxBytes : Nat) (fs : LogFs σ) : FsCall σ RotatingLogFile := do
  let (file, currentLen) ← openLogFile fs
  return { maxBytes := maxBytes, currentLen := currentLen, file := some file }

/-- The condition under which `rotate_if_needed` returns at once. -/
def keepsFile (log : RotatingLogFile) (incomingLen : Nat) : Bool :=
  incomingLen == 0 || log.currentLen == 0 ||
    decide (saturatingAdd log.currentLen incomingLen ≤ log.maxBytes)

/-- The steps of a rotation. -/
def rotate (log : RotatingLogFile) (fs : LogFs σ) : FsCall σ (File × Nat) := do
  if log.file.isSome then fs.flush
  if fs.rotatedExists (← get) then fs.removeRotated
  fs.rename
  openLogFile fs

/-- The handle was taken for the flush, so whichever step fails leaves none. -/
def rotateIfNeeded (log : RotatingLogFile) (incomingLen : Nat) (fs : LogFs σ) (disk : σ) :
    Except IoError Unit × RotatingLogFile × σ :=
  if log.keepsFile incomingLen then (.ok (), log, disk)
  else
    match (log.rotate fs).run.run disk with
    | (.ok (file, currentLen), disk) =>
        (.ok (), { log with file := some file, currentLen := currentLen }, disk)
    | (.error err, disk) => (.error err, { log with file := none }, disk)

/-- The result is `none` when the call panics. -/
def writeOn (log : RotatingLogFile) (buf : List UInt8) (fs : LogFs σ) (disk : σ) :
    Option (Except IoError Nat) × RotatingLogFile × σ :=
  match log.rotateIfNeeded buf.length fs disk with
  | (.error err, log, disk) => (some (.error err), log, disk)
  | (.ok (), log, disk) =>
      match log.file with
      -- `expect("log file handle must be open")`
      | none => (none, log, disk)
      | some _ =>
          match (fs.write buf).run.run disk with
          | (.error err, disk) => (some (.error err), log, disk)
          | (.ok written, disk) =>
              (some (.ok written),
                { log with currentLen := saturatingAdd log.currentLen written }, disk)

def new (maxBytes : Nat) (io : LogIo) : Except IoError RotatingLogFile :=
  ((newOn maxBytes io.fs).run.run ()).1

def write (log : RotatingLogFile) (buf : List UInt8) (io : LogIo) :
    Option (Except IoError Nat) × RotatingLogFile :=
  match log.writeOn buf io.fs () with
  | (result, log, ()) => (result, log)

def flush (log : RotatingLogFile) (io : LogIo) : Option (Except IoError Unit) :=
  match log.file with
  | none => none
  | some _ => some io.flush

/-! ## When a call panics -/

variable {log log' : RotatingLogFile} {buf : List UInt8} {io : LogIo} {fs : LogFs σ}
  {disk disk' : σ}

theorem flush_eq_none_iff : log.flush io = none ↔ log.file = none := by
  unfold flush
  cases log.file with
  | none => simp
  | some file => simp

/-- A rotation that returns `Ok` ends with an open file, unless there was none to rotate. -/
theorem rotateIfNeeded_ok {n : Nat} (h : log.rotateIfNeeded n fs disk = (.ok (), log', disk')) :
    (log.keepsFile n = true ∧ log' = log) ∨ (log.keepsFile n = false ∧ log'.file.isSome) := by
  unfold rotateIfNeeded at h
  by_cases hkeep : log.keepsFile n = true
  · rw [if_pos hkeep] at h
    cases h
    exact Or.inl ⟨hkeep, rfl⟩
  · rw [if_neg hkeep] at h
    refine Or.inr ⟨by simpa using hkeep, ?_⟩
    split at h
    · cases h; rfl
    · cases h

/-- **A write panics exactly if the handle is lost and the message does not make it rotate.** -/
theorem writeOn_eq_none_iff :
    (log.writeOn buf fs disk).1 = none ↔ log.file = none ∧ log.keepsFile buf.length = true := by
  unfold writeOn
  rcases hrotate : log.rotateIfNeeded buf.length fs disk with ⟨result, log', disk'⟩
  cases result with
  | error err =>
      -- a failed rotation is an error of the call
      have hneeded : log.keepsFile buf.length = false := by
        by_contra hkeep
        rw [Bool.not_eq_false] at hkeep
        rw [rotateIfNeeded, if_pos hkeep] at hrotate
        cases hrotate
      simp [hneeded]
  | ok u =>
      have hwritten : ((log.writeOn buf fs disk).1 = none ↔ log'.file = none) := by
        rw [writeOn, hrotate]
        cases hfile : log'.file with
        | none => simp [hfile]
        | some file =>
            simp only [hfile]
            rcases (fs.write buf).run.run disk' with ⟨err | written, -⟩ <;> simp
      rw [writeOn, hrotate] at hwritten
      rw [hwritten]
      rcases rotateIfNeeded_ok hrotate with ⟨hkeep, rfl⟩ | ⟨hneeded, hopen⟩
      · simp [hkeep]
      · simp [hneeded, Option.isSome_iff_ne_none.mp hopen]

/-- A write that returns `Ok` has written to an open file, and leaves it open. -/
theorem isSome_file_of_write_ok {n : Nat} (h : log.write buf io = (some (.ok n), log')) :
    log'.file.isSome := by
  unfold write writeOn at h
  split at h
  rename_i hwrite
  cases h
  split at hwrite
  · cases hwrite
  · split at hwrite
    · cases hwrite
    · next file hfile =>
        split at hwrite
        · cases hwrite
        · cases hwrite
          exact hfile ▸ rfl

end RotatingLogFile

end

/-! ## Runs -/

/-- The log file in use, and whether a call has panicked. -/
structure Logger where
  log : RotatingLogFile
  panicked : Bool

inductive LogCall
  | write (buf : List UInt8) (io : LogIo)
  | flush (io : LogIo)

namespace Logger

def call (s : Logger) : LogCall → Logger
  | .write buf io =>
      { log := (s.log.write buf io).2
        panicked := s.panicked || (s.log.write buf io).1.isNone }
  | .flush io => { s with panicked := s.panicked || (s.log.flush io).isNone }

/-- A log file that was just opened, of any length. -/
def IsNew (s : Logger) : Prop :=
  s.panicked = false ∧ ∃ maxBytes io, RotatingLogFile.new maxBytes io = .ok s.log

def Step (s : Logger) (e : LogCall) (s' : Logger) : Prop := s' = s.call e

end Logger

abbrev LoggerRun : List LogCall → Logger → Prop := Run Logger.IsNew Logger.Step

/-- A call that finds no handle is a write that rotates. -/
def RotatesAgain (s : Logger) : LogCall → Prop
  | .write buf _ => s.log.file = none → s.log.keepsFile buf.length = false
  | .flush _ => s.log.file ≠ none

/-- **When the log never panics.** No call of a run reaches the `expect` if and only if every call
that finds the handle lost, by a rotation that failed, is a write that tries the rotation again. A
call that does not panic returns an error or has written to an open file. -/
theorem never_panics_iff {h : List LogCall} {s : Logger} (hr : LoggerRun h s) :
    (s.panicked = false ↔ Run Logger.IsNew (restrict Logger.Step RotatesAgain) h s) ∧
    (∀ buf io n log', s.log.write buf io = (some (.ok n), log') → log'.file.isSome) := by
  refine ⟨?_, fun buf io n log' hwrite => RotatingLogFile.isSome_file_of_write_ok hwrite⟩
  refine hr.iff_restrict (P := fun s => s.panicked = false) (fun s hnew => hnew.1) ?_
  rintro s e s' rfl
  cases e with
  | write buf io =>
      show (s.panicked || (s.log.writeOn buf io.fs ()).1.isNone) = false ↔ _
      rw [Bool.or_eq_false_iff]
      refine and_congr Iff.rfl ?_
      rw [← Bool.not_eq_true, Option.isNone_iff_eq_none, RotatingLogFile.writeOn_eq_none_iff,
        not_and, Bool.not_eq_true]
      rfl
  | flush io =>
      show (s.panicked || (s.log.flush io).isNone) = false ↔ _
      rw [Bool.or_eq_false_iff]
      refine and_congr Iff.rfl ?_
      rw [← Bool.not_eq_true, Option.isNone_iff_eq_none, RotatingLogFile.flush_eq_none_iff]
      rfl

/-- A file system on which everything works: the log file has eight bytes, and writes are
complete. -/
def healthyIo (written : Nat) : LogIo where
  flush := .ok ()
  rotatedExists := false
  removeRotated := .ok ()
  rename := .ok ()
  createDirAll := .ok ()
  openFile := .ok ⟨3⟩
  metadata := .ok 8
  write := .ok written

/-- The log file of eight bytes with a limit of ten, as it is opened. -/
def sampleLogger : Logger :=
  { log := { maxBytes := 10, currentLen := 8, file := some ⟨3⟩ }, panicked := false }

theorem isNew_sampleLogger : sampleLogger.IsNew := ⟨rfl, 10, healthyIo 0, rfl⟩

/-- The rename fails. -/
def failingRename : LogIo :=
  { healthyIo 0 with
    rename := .error { kind := .permissionDenied, text := "Permission denied (os error 13)" } }

/-- A message that fits, a rotation that fails, and a message that rotates again with success, after
which a `flush` finds the new file. -/
def recoveredCalls : List LogCall :=
  [.flush (healthyIo 0), .write [5, 6, 7, 8, 10] (healthyIo 5),
    .write [1, 2, 3, 4, 10] failingRename, .write [104, 10] (healthyIo 2)]

/-- The run of these calls. -/
theorem never_panics_after_recovery :
    ∃ s, LoggerRun recoveredCalls s ∧ s.panicked = false ∧
      (sampleLogger.call (.write [104, 10] (healthyIo 2))
        |>.call (.write [1, 2, 3, 4, 10] failingRename)).log.file = none := by
  have hrun : LoggerRun recoveredCalls _ :=
    .cons (.cons (.cons (.cons (.nil isNew_sampleLogger) rfl) rfl) rfl) rfl
  refine ⟨_, hrun, (never_panics_iff hrun).1.mpr ?_, rfl⟩
  refine .cons (.cons (.cons (.cons (.nil isNew_sampleLogger) ⟨rfl, ?_⟩) ⟨rfl, ?_⟩) ⟨rfl, ?_⟩)
    ⟨rfl, ?_⟩
  · exact fun hlost => nomatch hlost
  · exact fun hlost => nomatch hlost
  · exact fun _ => rfl
  · exact fun hlost => nomatch hlost

/-- **A failed rotation, and then a `flush`.** The log file has eight bytes of ten; a message of
five makes it rotate, and the rename fails. The write returns the error. The `flush` that follows
panics, and so does a message of one byte, for which there is room. -/
theorem flush_after_failed_rotation :
    ∃ s, LoggerRun [.write [1, 2, 3, 4, 10] failingRename] s ∧
      (sampleLogger.log.write [1, 2, 3, 4, 10] failingRename).1
        = some (.error { kind := .permissionDenied, text := "Permission denied (os error 13)" }) ∧
      s.panicked = false ∧
      (s.log.flush (healthyIo 0)) = none ∧ (s.call (.flush (healthyIo 0))).panicked = true ∧
      (s.log.write [10] (healthyIo 1)).1 = none ∧
      (s.call (.write [10] (healthyIo 1))).panicked = true :=
  ⟨_, .cons (.nil isNew_sampleLogger) rfl, rfl, rfl, rfl, rfl, rfl, rfl⟩

end Narrowd.Logging
