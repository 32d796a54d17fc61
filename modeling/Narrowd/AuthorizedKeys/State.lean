import Narrowd.Basic.Time
import Narrowd.Lib.Lock
import Narrowd.AuthorizedKeys.Cache

set_option autoImplicit false

/-! # Reloading the authorized-keys file

`AuthorizedKeysState` keeps the last cache that was loaded and polls the file for changes, at
most once per reload interval. A change is a change of the fingerprint, modification time and
length; a file that could not be loaded is remembered by its fingerprint and not tried again
until that changes.

A call sees the file through a few system calls, each of which can fail on its own and between
which the file can change. `PathView` is what they return.

`Refreshed` lists the outcomes of `refresh_if_due`; the proofs about reloading go by its cases.
-/

namespace Narrowd.AuthorizedKeys

open Narrowd.Lib

/-! ## The file as the system calls show it -/

/-- `std::fs::Metadata`: `modified().ok()` in nanoseconds, and the length. -/
structure Metadata where
  modified : Option Int
  len : Nat
  deriving DecidableEq, Repr

/-- The answers of the system calls of one call: `metadata(path)`, `File::open(path)`, and on
the opened file `metadata` and `read_to_string` (which fails on text that is not UTF-8). -/
structure PathView where
  stat : Except IoError Metadata
  openFile : Except IoError Unit
  fstat : Except IoError Metadata
  readToString : Except IoError String

structure AuthorizedKeysFingerprint where
  modified : Option Int
  len : Option Nat
  missing : Bool
  deriving DecidableEq, Repr

namespace AuthorizedKeysFingerprint

def MISSING : AuthorizedKeysFingerprint := { modified := none, len := none, missing := true }

def fromMetadata (metadata : Metadata) : AuthorizedKeysFingerprint :=
  { modified := metadata.modified, len := some metadata.len, missing := false }

def fromPath (view : PathView) (path : String) : Except AnyError AuthorizedKeysFingerprint :=
  match view.stat with
  | .ok metadata => .ok (fromMetadata metadata)
  | .error err =>
      if err.kind = .notFound then .ok MISSING
      else .error ⟨"failed to stat " ++ path, [err.text]⟩

/-- A file that is there does not look missing. -/
theorem fromMetadata_ne_missing (metadata : Metadata) : fromMetadata metadata ≠ MISSING := by
  intro h
  cases congrArg missing h

end AuthorizedKeysFingerprint

variable {K : Type} {p : Platform} {ssh : SshKey K} {view : PathView} {path : String}
  {maxSize maxEntries : Nat} {cache : AuthorizedKeysCache} {fingerprint : AuthorizedKeysFingerprint}

namespace AuthorizedKeysCache

def load (ssh : SshKey K) (view : PathView) (path : String) (maxSize maxEntries : Nat) :
    Except AnyError (AuthorizedKeysCache × AuthorizedKeysFingerprint) := do
  withContext ("failed to read " ++ path) view.openFile
  let metadata ← withContext ("failed to stat " ++ path) view.fstat
  if maxSize < metadata.len then
    throw ⟨s!"authorized keys file {path} exceeds configured size limit of {maxSize} bytes", []⟩
  let text ← withContext ("failed to read " ++ path) view.readToString
  let cache ← fromText ssh text maxEntries
  return (cache, AuthorizedKeysFingerprint.fromMetadata metadata)

/-- **When `load` succeeds**: every system call does, and the text fits and is accepted. -/
theorem load_eq_ok_iff :
    load ssh view path maxSize maxEntries = .ok (cache, fingerprint) ↔
      view.openFile = .ok () ∧
      ∃ metadata text, view.fstat = .ok metadata ∧ metadata.len ≤ maxSize ∧
        view.readToString = .ok text ∧ fromText ssh text maxEntries = .ok cache ∧
        fingerprint = .fromMetadata metadata := by
  unfold load
  constructor
  · intro h
    obtain ⟨u, hopen, h⟩ := bind_eq_ok h
    obtain ⟨metadata, hfstat, h⟩ := bind_eq_ok h
    by_cases hlen : maxSize < metadata.len
    · rw [if_pos hlen] at h
      cases h
    · rw [if_neg hlen] at h
      obtain ⟨text, hread, h⟩ := bind_eq_ok h
      obtain ⟨cache', htext, h⟩ := bind_eq_ok h
      cases h
      exact ⟨withContext_eq_ok.mp hopen, metadata, text, withContext_eq_ok.mp hfstat,
        Nat.le_of_not_lt hlen, withContext_eq_ok.mp hread, htext, rfl⟩
  · rintro ⟨hopen, metadata, text, hfstat, hlen, hread, htext, rfl⟩
    rw [hopen, hfstat, hread]
    simp only [withContext, bind, Except.bind, if_neg (Nat.not_lt.mpr hlen), htext]
    rfl

end AuthorizedKeysCache

/-! ## The state -/

inductive AuthorizedKeysReloadStatus
  | loaded
  | missing
  | failed (message : String)
  deriving DecidableEq, Repr

inductive AuthorizedKeysReloadEvent
  | loaded (generation ignoredEntries : Nat)
  | missing
  | failed (message : String)
  deriving DecidableEq, Repr

structure AuthorizedKeysState (p : Platform) where
  path : String
  maxSize : Nat
  maxEntries : Nat
  reloadInterval : Duration
  cache : AuthorizedKeysCache
  generation : Nat
  observedFingerprint : AuthorizedKeysFingerprint
  lastFailedReloadFingerprint : Option AuthorizedKeysFingerprint
  lastReloadStatus : AuthorizedKeysReloadStatus
  nextReloadCheckAt : Instant p

variable {now : Instant p} {s s' : AuthorizedKeysState p}
  {r : Except AnyError (Option AuthorizedKeysReloadEvent)} {reloadInterval : Duration}

namespace AuthorizedKeysState

/-- `none` when the first reload check is after the end of the clock. -/
def loaded (path : String) (maxSize maxEntries : Nat) (reloadInterval : Duration)
    (cache : AuthorizedKeysCache) (fingerprint : AuthorizedKeysFingerprint) (now : Instant p) :
    Option (AuthorizedKeysState p) := do
  let nextReloadCheckAt ← now.checkedAdd reloadInterval
  return { path, maxSize, maxEntries, reloadInterval, cache
           generation := 1
           observedFingerprint := fingerprint
           lastFailedReloadFingerprint := none
           lastReloadStatus := .loaded
           nextReloadCheckAt }

def missing (path : String) (maxSize maxEntries : Nat) (reloadInterval : Duration)
    (now : Instant p) : Option (AuthorizedKeysState p) := do
  let nextReloadCheckAt ← now.checkedAdd reloadInterval
  return { path, maxSize, maxEntries, reloadInterval
           cache := .empty
           generation := 0
           observedFingerprint := .MISSING
           lastFailedReloadFingerprint := none
           lastReloadStatus := .missing
           nextReloadCheckAt }

theorem loaded_eq_some
    (h : loaded path maxSize maxEntries reloadInterval cache fingerprint now = some s) :
    s.maxEntries = maxEntries ∧ s.cache = cache ∧ s.generation = 1 ∧
      s.observedFingerprint = fingerprint ∧ s.lastFailedReloadFingerprint = none := by
  obtain ⟨next, -, h⟩ := Option.bind_eq_some_iff.mp h
  cases h
  exact ⟨rfl, rfl, rfl, rfl, rfl⟩

theorem missing_eq_some (h : missing path maxSize maxEntries reloadInterval now = some s) :
    s.maxEntries = maxEntries ∧ s.cache = .empty ∧ s.generation = 0 ∧
      s.observedFingerprint = .MISSING ∧ s.lastFailedReloadFingerprint = none := by
  obtain ⟨next, -, h⟩ := Option.bind_eq_some_iff.mp h
  cases h
  exact ⟨rfl, rfl, rfl, rfl, rfl⟩

/-- The end of `refresh_if_due`: the fingerprint is new, so the file is loaded. -/
def reload (s : AuthorizedKeysState p) (ssh : SshKey K) (view : PathView)
    (currentFingerprint : AuthorizedKeysFingerprint) :
    AuthorizedKeysReloadEvent × AuthorizedKeysState p :=
  match AuthorizedKeysCache.load ssh view s.path s.maxSize s.maxEntries with
  | .ok (cache, fingerprint) =>
      let generation := min (s.generation + 1) u64Max
      (.loaded generation cache.ignoredEntries,
        { s with
          cache := cache
          generation := generation
          observedFingerprint := fingerprint
          lastFailedReloadFingerprint := none
          lastReloadStatus := .loaded })
  | .error err =>
      if currentFingerprint = .MISSING then
        (.missing,
          { s with
            observedFingerprint := .MISSING
            lastFailedReloadFingerprint := none
            lastReloadStatus := .missing })
      else
        (.failed err.message,
          { s with
            lastFailedReloadFingerprint := some currentFingerprint
            lastReloadStatus := .failed err.message })

/-- `none` is the panic of `now + self.reload_interval`. -/
def refreshIfDue (s : AuthorizedKeysState p) (ssh : SshKey K) (view : PathView)
    (now : Instant p) :
    Option (Except AnyError (Option AuthorizedKeysReloadEvent) × AuthorizedKeysState p) :=
  if now < s.nextReloadCheckAt then some (.ok none, s)
  else
    match now.checkedAdd s.reloadInterval with
    | none => none
    | some next =>
        let s := { s with nextReloadCheckAt := next }
        match AuthorizedKeysFingerprint.fromPath view s.path with
        | .error err => some (.error err, s)
        | .ok currentFingerprint =>
            if currentFingerprint = s.observedFingerprint then some (.ok none, s)
            else if s.lastFailedReloadFingerprint = some currentFingerprint then
              some (.ok none, s)
            else
              let (event, s) := s.reload ssh view currentFingerprint
              some (.ok (some event), s)

/-! ## The outcomes of `refresh_if_due` -/

/-- **Every way a call of `refresh_if_due` can go**, with the condition for each. -/
inductive Refreshed (ssh : SshKey K) (view : PathView) (now : Instant p)
    (s : AuthorizedKeysState p) :
    Except AnyError (Option AuthorizedKeysReloadEvent) → AuthorizedKeysState p → Prop
  | notDue (hnow : now < s.nextReloadCheckAt) : Refreshed ssh view now s (.ok none) s
  | statFailed {next : Instant p} {err : AnyError} (hnow : s.nextReloadCheckAt ≤ now)
      (hnext : now.checkedAdd s.reloadInterval = some next)
      (hstat : AuthorizedKeysFingerprint.fromPath view s.path = .error err) :
      Refreshed ssh view now s (.error err) { s with nextReloadCheckAt := next }
  | skipped {next : Instant p} {current : AuthorizedKeysFingerprint}
      (hnow : s.nextReloadCheckAt ≤ now) (hnext : now.checkedAdd s.reloadInterval = some next)
      (hstat : AuthorizedKeysFingerprint.fromPath view s.path = .ok current)
      (hskip : current = s.observedFingerprint ∨ s.lastFailedReloadFingerprint = some current) :
      Refreshed ssh view now s (.ok none) { s with nextReloadCheckAt := next }
  | loaded {next : Instant p} {current fingerprint : AuthorizedKeysFingerprint}
      {cache : AuthorizedKeysCache}
      (hnow : s.nextReloadCheckAt ≤ now) (hnext : now.checkedAdd s.reloadInterval = some next)
      (hstat : AuthorizedKeysFingerprint.fromPath view s.path = .ok current)
      (hobserved : current ≠ s.observedFingerprint)
      (hfailed : s.lastFailedReloadFingerprint ≠ some current)
      (hload : AuthorizedKeysCache.load ssh view s.path s.maxSize s.maxEntries
        = .ok (cache, fingerprint)) :
      Refreshed ssh view now s
        (.ok (some (.loaded (min (s.generation + 1) u64Max) cache.ignoredEntries)))
        { s with
          cache := cache
          generation := min (s.generation + 1) u64Max
          observedFingerprint := fingerprint
          lastFailedReloadFingerprint := none
          lastReloadStatus := .loaded
          nextReloadCheckAt := next }
  | missing {next : Instant p} {err : AnyError}
      (hnow : s.nextReloadCheckAt ≤ now) (hnext : now.checkedAdd s.reloadInterval = some next)
      (hstat : AuthorizedKeysFingerprint.fromPath view s.path = .ok .MISSING)
      (hobserved : .MISSING ≠ s.observedFingerprint)
      (hfailed : s.lastFailedReloadFingerprint ≠ some .MISSING)
      (hload : AuthorizedKeysCache.load ssh view s.path s.maxSize s.maxEntries = .error err) :
      Refreshed ssh view now s (.ok (some .missing))
        { s with
          observedFingerprint := .MISSING
          lastFailedReloadFingerprint := none
          lastReloadStatus := .missing
          nextReloadCheckAt := next }
  | failed {next : Instant p} {current : AuthorizedKeysFingerprint} {err : AnyError}
      (hnow : s.nextReloadCheckAt ≤ now) (hnext : now.checkedAdd s.reloadInterval = some next)
      (hstat : AuthorizedKeysFingerprint.fromPath view s.path = .ok current)
      (hthere : current ≠ .MISSING)
      (hobserved : current ≠ s.observedFingerprint)
      (hfailed : s.lastFailedReloadFingerprint ≠ some current)
      (hload : AuthorizedKeysCache.load ssh view s.path s.maxSize s.maxEntries = .error err) :
      Refreshed ssh view now s (.ok (some (.failed err.message)))
        { s with
          lastFailedReloadFingerprint := some current
          lastReloadStatus := .failed err.message
          nextReloadCheckAt := next }

/-- A refresh loads a text, or it keeps the cache and the generation. -/
theorem Refreshed.loaded_or_kept (h : Refreshed ssh view now s r s') :
    (∃ text ignored, view.readToString = .ok text ∧
        AuthorizedKeysCache.fromText ssh text s.maxEntries = .ok s'.cache ∧
        s'.generation = min (s.generation + 1) u64Max ∧
        r = .ok (some (.loaded s'.generation ignored))) ∨
      ((∀ generation ignored, r ≠ .ok (some (.loaded generation ignored))) ∧
        s'.cache = s.cache ∧ s'.generation = s.generation) := by
  cases h with
  | loaded _ _ _ _ _ hload =>
      obtain ⟨-, metadata, text, -, -, hread, htext, -⟩ :=
        AuthorizedKeysCache.load_eq_ok_iff.mp hload
      exact Or.inl ⟨text, _, hread, htext, rfl, rfl⟩
  | _ => exact Or.inr ⟨by simp, rfl, rfl⟩

theorem Refreshed.maxEntries_eq (h : Refreshed ssh view now s r s') :
    s'.maxEntries = s.maxEntries := by
  cases h <;> rfl

/-- The three ways a load can go. -/
theorem reload_refreshed {next : Instant p} {current : AuthorizedKeysFingerprint}
    (hnow : s.nextReloadCheckAt ≤ now) (hnext : now.checkedAdd s.reloadInterval = some next)
    (hstat : AuthorizedKeysFingerprint.fromPath view s.path = .ok current)
    (hobserved : current ≠ s.observedFingerprint)
    (hfailed : s.lastFailedReloadFingerprint ≠ some current) :
    Refreshed ssh view now s
      (.ok (some (({ s with nextReloadCheckAt := next }).reload ssh view current).1))
      (({ s with nextReloadCheckAt := next }).reload ssh view current).2 := by
  unfold reload
  cases hload : AuthorizedKeysCache.load ssh view s.path s.maxSize s.maxEntries with
  | ok loaded =>
      obtain ⟨cache, fingerprint⟩ := loaded
      exact .loaded hnow hnext hstat hobserved hfailed hload
  | error err =>
      by_cases hmissing : current = .MISSING
      · subst hmissing
        exact .missing hnow hnext hstat hobserved hfailed hload
      · simp only [hmissing, if_false]
        exact .failed hnow hnext hstat hmissing hobserved hfailed hload

theorem refreshIfDue_refreshed (h : s.refreshIfDue ssh view now = some (r, s')) :
    Refreshed ssh view now s r s' := by
  unfold refreshIfDue at h
  by_cases hdue : now < s.nextReloadCheckAt
  · rw [if_pos hdue] at h
    cases h
    exact .notDue hdue
  · rw [if_neg hdue] at h
    have hnow := not_lt.mp hdue
    cases hnext : now.checkedAdd s.reloadInterval with
    | none =>
        rw [hnext] at h
        cases h
    | some next =>
        rw [hnext] at h
        cases hstat : AuthorizedKeysFingerprint.fromPath view s.path with
        | error err =>
            simp only [hstat, Option.some.injEq, Prod.mk.injEq] at h
            obtain ⟨rfl, rfl⟩ := h
            exact .statFailed hnow hnext hstat
        | ok current =>
            simp only [hstat] at h
            by_cases hobs : current = s.observedFingerprint
            · simp only [hobs, if_true, Option.some.injEq, Prod.mk.injEq] at h
              obtain ⟨rfl, rfl⟩ := h
              exact .skipped hnow hnext hstat (Or.inl hobs)
            · simp only [hobs, if_false] at h
              by_cases hfail : s.lastFailedReloadFingerprint = some current
              · simp only [hfail, if_true, Option.some.injEq, Prod.mk.injEq] at h
                obtain ⟨rfl, rfl⟩ := h
                exact hfail ▸ .skipped hnow hnext hstat (Or.inr hfail)
              · simp only [hfail, if_false, Option.some.injEq, Prod.mk.injEq] at h
                obtain ⟨rfl, rfl⟩ := h
                exact reload_refreshed hnow hnext hstat hobs hfail

/-- The call panics exactly when the next reload check is after the end of the clock. -/
theorem refreshIfDue_eq_none_iff :
    s.refreshIfDue ssh view now = none ↔
      s.nextReloadCheckAt ≤ now ∧ p.instantMax < now.ns + s.reloadInterval := by
  have hsome := Instant.checkedAdd_isSome (i := now) (d := s.reloadInterval)
  unfold refreshIfDue
  by_cases hdue : now < s.nextReloadCheckAt
  · simp [hdue]
  · rw [if_neg hdue]
    have hnow := not_lt.mp hdue
    cases hnext : now.checkedAdd s.reloadInterval with
    | none =>
        rw [hnext] at hsome
        simp only [Option.isSome_none, Bool.false_eq_true, false_iff, not_le] at hsome
        exact iff_of_true rfl ⟨hnow, hsome⟩
    | some next =>
        rw [hnext] at hsome
        refine iff_of_false ?_ fun h => absurd (hsome.mp rfl) (not_le.mpr h.2)
        cases hstat : AuthorizedKeysFingerprint.fromPath view s.path with
        | error err => simp [hstat]
        | ok current =>
            simp only [hstat]
            split
            · simp
            · split <;> simp

end AuthorizedKeysState

/-! ## The store -/

structure AuthorizedKeysStatus where
  generation : Nat
  ignoredEntries : Nat
  lastReloadStatus : AuthorizedKeysReloadStatus
  deriving DecidableEq, Repr

/-- `Arc<RwLock<AuthorizedKeysState>>`. -/
abbrev AuthorizedKeysStore (p : Platform) := Lock (AuthorizedKeysState p)

namespace AuthorizedKeysStore

/-- The outer `Option` is `none` when the call panics. -/
def load (ssh : SshKey K) (view : PathView) (path : String) (maxSize maxEntries : Nat)
    (reloadInterval : Duration) (now : Instant p) :
    Option (Except AnyError (AuthorizedKeysStore p)) :=
  match AuthorizedKeysCache.load ssh view path maxSize maxEntries with
  | .error err => some (.error err)
  | .ok (cache, fingerprint) =>
      (AuthorizedKeysState.loaded path maxSize maxEntries reloadInterval cache fingerprint now).map
        fun s => .ok (.healthy s)

def emptyMissing (path : String) (maxSize maxEntries : Nat) (reloadInterval : Duration)
    (now : Instant p) : Option (AuthorizedKeysStore p) :=
  (AuthorizedKeysState.missing path maxSize maxEntries reloadInterval now).map .healthy

def refreshIfDue (store : AuthorizedKeysStore p) (ssh : SshKey K) (view : PathView)
    (now : Instant p) :
    Option (Except AnyError (Option AuthorizedKeysReloadEvent)) × AuthorizedKeysStore p :=
  store.withLock fun s => s.refreshIfDue ssh view now

/-- Readers panic on a poisoned lock too. -/
def contains (store : AuthorizedKeysStore p) (ssh : SshKey K) (publicKey : K) :
    Option (Except AnyError Bool) :=
  store.state?.map fun s => s.cache.contains ssh publicKey

def status (store : AuthorizedKeysStore p) : Option AuthorizedKeysStatus :=
  store.state?.map fun s =>
    { generation := s.generation
      ignoredEntries := s.cache.ignoredEntries
      lastReloadStatus := s.lastReloadStatus }

end AuthorizedKeysStore

end Narrowd.AuthorizedKeys
