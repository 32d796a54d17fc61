import Narrowd.Basic.UnixPath
import Narrowd.Logging.Rotation

set_option autoImplicit false

/-! # What the log files hold

The files behind `RotatingLogFile`: the log, and the backup that the last rotation left. No other
process writes to them, and nothing fails that has something to act on. The calls of the log file
act on these files: a write appends what it accepts to the log, after it has made the log the backup
if it rotates.
-/

namespace Narrowd.Logging

open Narrowd.Lib

/-! ## The backup's path -/

/-- `rotated_log_path`. -/
def rotatedLogPath (p : Platform) (path : PathBuf) : PathBuf :=
  let rotatedName := (PathBuf.fileName p path).getD "narrowd.log".toList ++ ".1".toList
  match PathBuf.parent p path with
  | some parent => PathBuf.join p parent rotatedName
  | none => rotatedName

/-- On Unix the backup is next to the log, and is another file. -/
theorem components_rotatedLogPath {path : PathBuf} {name : Text}
    (h : PathBuf.fileName .linux path = some name) :
    PathBuf.components .linux (rotatedLogPath .linux path) =
      (PathBuf.components .linux path).dropLast ++ [.normal (name ++ ".1".toList)] ∧
    PathBuf.components .linux (rotatedLogPath .linux path) ≠ PathBuf.components .linux path := by
  have hlast : (PathBuf.components .linux path).getLast? = some (.normal name) := by
    unfold PathBuf.fileName at h
    split at h
    · rename_i hlast
      rw [hlast, Option.some.inj h]
    · cases h
  have hname := PathBuf.isName_of_mem_components (List.mem_of_getLast? hlast)
  have hrotated : PathBuf.IsName (name ++ ".1".toList) := by
    have hpos := List.length_pos_iff.mpr hname.ne_nil
    have hlength : (name ++ ".1".toList).length = name.length + 2 := List.length_append
    refine ⟨by simp, ?_, fun h => ?_, fun h => ?_⟩
    · simpa using hname.not_mem
    · rw [h, List.length_singleton] at hlength
      omega
    · rw [h, List.length_cons, List.length_singleton] at hlength
      omega
  have hparent := PathBuf.components_parent path
  rw [PathBuf.popComponents, hlast, if_neg (by simp)] at hparent
  obtain ⟨parent, hsome⟩ : ∃ parent, PathBuf.parent .linux path = some parent := by
    cases hnone : PathBuf.parent .linux path with
    | some parent => exact ⟨parent, rfl⟩
    | none =>
        -- the last component of a path is no part of what precedes it
        rw [hnone, Option.getD_none] at hparent
        have hlength := congrArg List.length hparent
        have hpos := List.length_pos_of_mem (List.mem_of_getLast? hlast)
        rw [List.length_dropLast] at hlength
        omega
  have hcomponents : PathBuf.components .linux (rotatedLogPath .linux path) =
      (PathBuf.components .linux path).dropLast ++ [.normal (name ++ ".1".toList)] := by
    rw [hsome, Option.getD_some] at hparent
    rw [rotatedLogPath, h, hsome, Option.getD_some, ← hparent]
    exact PathBuf.components_join parent hrotated
  refine ⟨hcomponents, fun heq => ?_⟩
  rw [← heq, hcomponents, List.getLast?_concat] at hlast
  simp at hlast

/-! ## The files -/

/-- The contents of a file, the length of which is a `u64`. -/
structure FileData where
  bytes : List UInt8
  fits : bytes.length ≤ u64Max

namespace FileData

def empty : FileData := ⟨[], Nat.zero_le _⟩

/-- A file system refuses a write that makes a file too long. -/
def append (data : FileData) (bytes : List UInt8) : Option FileData :=
  if h : (data.bytes ++ bytes).length ≤ u64Max then some ⟨data.bytes ++ bytes, h⟩ else none

theorem bytes_of_append {data data' : FileData} {bytes : List UInt8}
    (h : data.append bytes = some data') : data'.bytes = data.bytes ++ bytes := by
  unfold append at h
  split at h
  · rw [← Option.some.inj h]
  · cases h

end FileData

/-- The two files, if they exist. -/
structure Disk where
  log : Option FileData
  rotated : Option FileData

namespace Disk

variable (disk : Disk)

def logBytes : List UInt8 := (disk.log.map FileData.bytes).getD []

def rotatedBytes : List UInt8 := (disk.rotated.map FileData.bytes).getD []

/-- A log file that does not exist is created. -/
def openLog : Disk := { disk with log := some (disk.log.getD .empty) }

/-- The files after a rotation. -/
def rotate : Disk := { log := some .empty, rotated := disk.log }

def append (bytes : List UInt8) : Option Disk := do
  let log ← disk.log
  let log ← log.append bytes
  return { disk with log := some log }

@[simp]
theorem logBytes_openLog : disk.openLog.logBytes = disk.logBytes := by
  cases h : disk.log <;> simp [openLog, logBytes, h, FileData.empty]

@[simp]
theorem rotatedBytes_openLog : disk.openLog.rotatedBytes = disk.rotatedBytes := rfl

theorem length_logBytes_le : disk.logBytes.length ≤ u64Max := by
  cases h : disk.log with
  | none => simp [logBytes, h]
  | some data => simpa [logBytes, h] using data.fits

theorem append_eq_some {bytes : List UInt8} {disk' : Disk} (h : disk.append bytes = some disk') :
    disk'.logBytes = disk.logBytes ++ bytes ∧ disk'.rotatedBytes = disk.rotatedBytes ∧
      disk'.log.isSome := by
  obtain ⟨data, hlog, h⟩ := Option.bind_eq_some_iff.mp h
  obtain ⟨data', happend, h⟩ := Option.bind_eq_some_iff.mp h
  cases h
  refine ⟨?_, rfl, rfl⟩
  simp [logBytes, hlog, FileData.bytes_of_append happend]

theorem exists_append {bytes : List UInt8} (hlog : disk.log.isSome)
    (hfits : disk.logBytes.length + bytes.length ≤ u64Max) :
    ∃ disk', disk.append bytes = some disk' := by
  obtain ⟨data, hdata⟩ := Option.isSome_iff_exists.mp hlog
  have hfits' : (data.bytes ++ bytes).length ≤ u64Max := by
    simpa [logBytes, hdata] using hfits
  refine ⟨{ disk with log := some ⟨data.bytes ++ bytes, hfits'⟩ }, ?_⟩
  rw [append, hdata, Option.bind_eq_bind, Option.bind_some, FileData.append, dif_pos hfits']
  rfl

end Disk

/-! ## Writes -/

/-- A call of `write`, the number of bytes that it accepts, and the handle of the new file if it
rotates. -/
structure WriteCall where
  buf : List UInt8
  accepted : Nat
  le : accepted ≤ buf.length
  file : File

def WriteCall.bytes (e : WriteCall) : List UInt8 := e.buf.take e.accepted

theorem WriteCall.length_bytes (e : WriteCall) : e.bytes.length = e.accepted :=
  List.length_take_of_le e.le

def notFound : IoError := { kind := .notFound, text := "No such file or directory (os error 2)" }

def fileTooLarge : IoError := { kind := .other, text := "File too large (os error 27)" }

/-- What the calls do to the files. -/
def Disk.fs (file : File) (accepted : Nat) : LogFs Disk where
  flush := pure ()
  rotatedExists := fun disk => disk.rotated.isSome
  removeRotated := do
    if (← get).rotated.isNone then throw notFound
    modify fun disk => { disk with rotated := none }
  rename := do
    if (← get).log.isNone then throw notFound
    modify fun disk => { log := none, rotated := disk.log }
  createDirAll := pure ()
  openFile := do
    modify openLog
    return file
  metadata := do return (← get).logBytes.length
  write := fun buf => ExceptT.mk fun disk =>
    match disk.append (buf.take accepted) with
    | some disk' => (.ok accepted, disk')
    | none => (.error fileTooLarge, disk)

/-- The writer and its files. -/
structure LogFiles where
  log : RotatingLogFile
  disk : Disk
  /-- What was accepted since the last rotation. -/
  sinceRotation : List UInt8

namespace LogFiles

variable (s : LogFiles) (e : WriteCall)

def Keeps : Prop := s.log.keepsFile e.buf.length = true

instance : Decidable (s.Keeps e) := inferInstanceAs (Decidable (_ = true))

/-- The files when the bytes are written. -/
def opened : Disk := if s.Keeps e then s.disk else s.disk.rotate

/-- The call, if it returns `Ok`. -/
def write : Option LogFiles :=
  match s.log.writeOn e.buf (Disk.fs e.file e.accepted) s.disk with
  | (some (.ok _), log, disk) =>
      some { log := log
             disk := disk
             sinceRotation := (if s.Keeps e then s.sinceRotation else []) ++ e.bytes }
  | _ => none

/-- The log file was just opened, on a disk with any contents. -/
def Opened (maxBytes : Nat) (disk : Disk) (s : LogFiles) : Prop :=
  (∃ file, (RotatingLogFile.newOn maxBytes (Disk.fs file 0)).run.run disk = (.ok s.log, s.disk)) ∧
    s.sinceRotation = []

def Step (s : LogFiles) (e : WriteCall) (s' : LogFiles) : Prop := s.write e = some s'

end LogFiles

abbrev LogFilesRun (maxBytes : Nat) (disk : Disk) : List WriteCall → LogFiles → Prop :=
  Run (LogFiles.Opened maxBytes disk) LogFiles.Step

/-- The bytes that the calls of a run accepted, in order. -/
def acceptedBytes (h : List WriteCall) : List UInt8 := h.reverse.flatMap WriteCall.bytes

/-- The most that one call accepted. -/
def largestWrite (h : List WriteCall) : Nat := (h.map WriteCall.accepted).foldr max 0

theorem acceptedBytes_cons (e : WriteCall) (h : List WriteCall) :
    acceptedBytes (e :: h) = acceptedBytes h ++ e.bytes := by
  simp [acceptedBytes]

theorem suffix_append_right {l l' : List UInt8} (h : l <:+ l') (t : List UInt8) :
    l ++ t <:+ l' ++ t := by
  obtain ⟨front, rfl⟩ := h
  exact ⟨front, (List.append_assoc _ _ _).symm⟩

/-! ## One call -/

variable {disk : Disk}

section

variable {s s' : LogFiles} {e : WriteCall}

theorem keepsFile_iff {log : RotatingLogFile} {n : Nat} :
    log.keepsFile n = true ↔
      n = 0 ∨ log.currentLen = 0 ∨ saturatingAdd log.currentLen n ≤ log.maxBytes := by
  simp [RotatingLogFile.keepsFile, or_assoc]

/-- The steps of a rotation leave an empty log, and the log as the backup. -/
theorem RotatingLogFile.rotate_fs (log : RotatingLogFile) (hlog : disk.log.isSome) (file : File)
    (accepted : Nat) :
    (log.rotate (Disk.fs file accepted)).run.run disk = (.ok (file, 0), disk.rotate) := by
  obtain ⟨data, hdata⟩ := Option.isSome_iff_exists.mp hlog
  obtain ⟨_, rotated⟩ := disk
  cases hdata
  unfold RotatingLogFile.rotate
  cases rotated with
  | none => split <;> rfl
  | some backup => split <;> rfl

/-- **What a call does**: it fails only where the file would become too long. -/
theorem write_eq (hfile : s.log.file.isSome) (hlog : s.disk.log.isSome) :
    s.write e = ((s.opened e).append e.bytes).map fun disk =>
      { log :=
          { s.log with
            file := if s.Keeps e then s.log.file else some e.file
            currentLen := saturatingAdd (if s.Keeps e then s.log.currentLen else 0) e.accepted }
        disk := disk
        sinceRotation := (if s.Keeps e then s.sinceRotation else []) ++ e.bytes } := by
  have hrotate : s.log.rotateIfNeeded e.buf.length (Disk.fs e.file e.accepted) s.disk =
      (.ok (),
        { s.log with
          file := if s.Keeps e then s.log.file else some e.file
          currentLen := if s.Keeps e then s.log.currentLen else 0 },
        s.opened e) := by
    unfold RotatingLogFile.rotateIfNeeded LogFiles.opened
    by_cases hkeep : s.log.keepsFile e.buf.length = true
    · simp only [LogFiles.Keeps, hkeep, if_true]
    · simp only [LogFiles.Keeps, hkeep, if_false, s.log.rotate_fs hlog, reduceCtorEq]
  have hopen : (if s.Keeps e then s.log.file else some e.file).isSome := by
    split
    · exact hfile
    · rfl
  obtain ⟨file, hsome⟩ := Option.isSome_iff_exists.mp hopen
  unfold LogFiles.write RotatingLogFile.writeOn
  have hrun : ((Disk.fs e.file e.accepted).write e.buf).run.run (s.opened e) =
      match (s.opened e).append e.bytes with
      | some disk => (.ok e.accepted, disk)
      | none => (.error fileTooLarge, s.opened e) := rfl
  simp only [hrotate, hsome, hrun]
  cases (s.opened e).append e.bytes with
  | none => rfl
  | some disk => rfl

/-- What a call does to the writer and its files. -/
theorem write_spec (hfile : s.log.file.isSome) (hlog : s.disk.log.isSome)
    (h : s.write e = some s') :
    s'.log.maxBytes = s.log.maxBytes ∧ s'.log.file.isSome ∧ s'.disk.log.isSome ∧
      s'.log.currentLen = saturatingAdd
        (if s.Keeps e then s.log.currentLen else 0) e.accepted ∧
      s'.disk.logBytes = (if s.Keeps e then s.disk.logBytes else []) ++ e.bytes ∧
      s'.disk.rotatedBytes = (if s.Keeps e then s.disk.rotatedBytes else s.disk.logBytes) ∧
      s'.sinceRotation = (if s.Keeps e then s.sinceRotation else []) ++ e.bytes := by
  rw [write_eq hfile hlog] at h
  obtain ⟨disk', happend, rfl⟩ := Option.map_eq_some_iff.mp h
  obtain ⟨hbytes, hrotated, hexists⟩ := Disk.append_eq_some _ happend
  refine ⟨rfl, ?_, hexists, rfl, ?_, ?_, rfl⟩
  · dsimp only
    split
    · exact hfile
    · rfl
  · rw [hbytes, LogFiles.opened]
    split <;> rfl
  · rw [hrotated, LogFiles.opened]
    split <;> rfl

/-- A call is answered unless the file would become too long. -/
theorem exists_write (hfile : s.log.file.isSome) (hlog : s.disk.log.isSome)
    (hfits : (s.opened e).logBytes.length + e.accepted ≤ u64Max) : ∃ s', s.write e = some s' := by
  have hopened : (s.opened e).log.isSome := by
    unfold LogFiles.opened
    split
    · exact hlog
    · rfl
  obtain ⟨disk', happend⟩ := (s.opened e).exists_append hopened (by rwa [e.length_bytes])
  rw [write_eq hfile hlog, happend]
  exact ⟨_, rfl⟩

end

/-! ## Runs -/

/-- What holds of the writer and its files after the calls `h`. -/
structure FilesInv (maxBytes : Nat) (disk : Disk) (h : List WriteCall) (s : LogFiles) : Prop where
  maxBytes_eq : s.log.maxBytes = maxBytes
  file : s.log.file.isSome
  exists_log : s.disk.log.isSome
  currentLen : s.log.currentLen = s.disk.logBytes.length
  newest : s.disk.rotatedBytes ++ s.disk.logBytes <:+
    disk.rotatedBytes ++ disk.logBytes ++ acceptedBytes h
  sinceRotation : ∃ before, s.disk.logBytes = before ++ s.sinceRotation ∧
    (before = [] ∨ before = disk.logBytes)
  bounded : s.disk.logBytes.length ≤ max (max maxBytes disk.logBytes.length) (largestWrite h)

theorem filesInv_of_opened {maxBytes : Nat} {s : LogFiles} (h : s.Opened maxBytes disk) :
    FilesInv maxBytes disk [] s := by
  obtain ⟨⟨file, hnew⟩, hsince⟩ := h
  have hlog : s.log = { maxBytes := maxBytes
                        currentLen := disk.openLog.logBytes.length
                        file := some file } := (Except.ok.inj (congrArg Prod.fst hnew)).symm
  have hdisk : s.disk = disk.openLog := (congrArg Prod.snd hnew).symm
  refine ⟨?_, ?_, ?_, ?_, ?_, ?_, ?_⟩
  · rw [hlog]
  · rw [hlog]
    rfl
  · rw [hdisk]
    rfl
  · rw [hlog, hdisk]
  · simp [hdisk, acceptedBytes]
  · exact ⟨disk.logBytes, by simp [hdisk, hsince], .inr rfl⟩
  · rw [hdisk, Disk.logBytes_openLog]
    exact (le_max_right _ _).trans (le_max_left _ _)

/-- **One call keeps it.** -/
theorem FilesInv.step {maxBytes : Nat} {h : List WriteCall} {s s' : LogFiles} {e : WriteCall}
    (hinv : FilesInv maxBytes disk h s) (hstep : s.Step e s') :
    FilesInv maxBytes disk (e :: h) s' := by
  obtain ⟨hmax, hfile, hexists, hlen, hlog, hrotated, hsince⟩ :=
    write_spec hinv.file hinv.exists_log hstep
  have hfits := s'.disk.length_logBytes_le
  have haccepted := e.length_bytes
  refine ⟨hmax.trans hinv.maxBytes_eq, hfile, hexists, ?_, ?_, ?_, ?_⟩
  · -- the sum does not saturate, for the file has this length
    have hlength : s'.disk.logBytes.length =
        (if s.Keeps e then s.log.currentLen else 0) + e.accepted := by
      rw [hlog, List.length_append, haccepted, hinv.currentLen]
      split <;> rfl
    rw [hlen, saturatingAdd, ← hlength, min_eq_left hfits]
  · rw [hlog, hrotated, acceptedBytes_cons]
    split
    · rw [← List.append_assoc, ← List.append_assoc]
      exact suffix_append_right hinv.newest e.bytes
    · rw [List.nil_append, ← List.append_assoc]
      exact suffix_append_right ((List.suffix_append _ _).trans hinv.newest) e.bytes
  · rw [hlog, hsince]
    split
    · obtain ⟨before, hbefore, hcases⟩ := hinv.sinceRotation
      exact ⟨before, by rw [hbefore, List.append_assoc], hcases⟩
    · exact ⟨[], rfl, .inl rfl⟩
  · have hlargest : largestWrite (e :: h) = max e.accepted (largestWrite h) := rfl
    rw [hlargest]
    have hbound := hinv.bounded
    by_cases hkeep : s.Keeps e
    · have hlength : s'.disk.logBytes.length = s.disk.logBytes.length + e.accepted := by
        rw [hlog, if_pos hkeep, List.length_append, haccepted]
      have hle := e.le
      rcases keepsFile_iff.mp hkeep with hbuf | hzero | hroom
      · omega
      · rw [hinv.currentLen] at hzero
        omega
      · rw [hinv.currentLen, hinv.maxBytes_eq, saturatingAdd] at hroom
        omega
    · have hlength : s'.disk.logBytes.length = e.accepted := by
        rw [hlog, if_neg hkeep, List.nil_append, haccepted]
      omega

/-- **The log files hold the newest bytes and stay bounded.** After every run of writes the cached
length is the length of the log; the backup and the log are an end of all that there was and that
was accepted, and the log holds all that was accepted since the last rotation; the log is no longer
than the limit, than it was or than the largest write. A further call is answered, unless the file
would become longer than a `u64` can say. -/
theorem log_files_hold_newest {maxBytes : Nat} {disk : Disk} {h : List WriteCall} {s : LogFiles}
    (hr : LogFilesRun maxBytes disk h s) :
    s.log.currentLen = s.disk.logBytes.length ∧
      s.disk.rotatedBytes ++ s.disk.logBytes <:+
        disk.rotatedBytes ++ disk.logBytes ++ acceptedBytes h ∧
      (∃ before, s.disk.logBytes = before ++ s.sinceRotation ∧
        (before = [] ∨ before = disk.logBytes)) ∧
      s.disk.logBytes.length ≤ max (max maxBytes disk.logBytes.length) (largestWrite h) ∧
      ∀ e : WriteCall, (s.opened e).logBytes.length + e.accepted ≤ u64Max → ∃ s', s.Step e s' := by
  have hinv : FilesInv maxBytes disk h s :=
    hr.invariant (P := FilesInv maxBytes disk) (fun s hopened => filesInv_of_opened hopened)
      fun h s e s' _ hinv hstep => hinv.step hstep
  exact ⟨hinv.currentLen, hinv.newest, hinv.sinceRotation, hinv.bounded,
    fun e hfits => exists_write hinv.file hinv.exists_log hfits⟩

/-- A log of three bytes, with a backup of one. -/
def sampleDisk : Disk where
  log := some ⟨[1, 2, 3], by decide⟩
  rotated := some ⟨[9], by decide⟩

/-- A write of three bytes, of which two are accepted. -/
def sampleWrite : WriteCall := { buf := [4, 5, 6], accepted := 2, le := by decide, file := ⟨4⟩ }

/-- A rotation, with a limit of five bytes: the old backup goes, and the log becomes the backup. -/
theorem log_files_hold_newest_after_rotation :
    ∃ s, LogFilesRun 5 sampleDisk [sampleWrite] s ∧
      s.disk.rotatedBytes = [1, 2, 3] ∧ s.disk.logBytes = [4, 5] ∧
      s.log.currentLen = s.disk.logBytes.length := by
  have hopened : LogFiles.Opened 5 sampleDisk
      { log := { maxBytes := 5, currentLen := 3, file := some ⟨3⟩ }
        disk := sampleDisk.openLog
        sinceRotation := [] } := ⟨⟨⟨3⟩, rfl⟩, rfl⟩
  obtain ⟨s, hstep⟩ := (log_files_hold_newest (.nil hopened)).2.2.2.2 sampleWrite (by decide)
  have hrun : LogFilesRun 5 sampleDisk [sampleWrite] s := .cons (.nil hopened) hstep
  obtain ⟨-, -, -, -, hlog, hrotated, -⟩ := write_spec rfl rfl hstep
  exact ⟨s, hrun, hrotated, hlog, (log_files_hold_newest hrun).1⟩

end Narrowd.Logging
