import Narrowd.Lib.Run
import Narrowd.AuthorizedKeys.State

set_option autoImplicit false

/-! # Do changes of the file take effect?

The authorized-keys file and the state that polls it, as one system: the file is edited and
removed, refreshes come at any time, and any of their system calls can fail although nothing is
wrong with the file. A refresh is short against the edits, so the system calls of one refresh see
one version of it.

Fingerprints stand for contents (`Faithful`): versions that differ have different fingerprints.
A due refresh of a file that can be read and parsed should then leave the cache of that file.

It need not. When `open`, `fstat` or `read` fails on a good file, `refresh_if_due` remembers the
file's fingerprint as that of a broken one, and skips it from then on: a key that was removed
from the file stays accepted until the file is touched again (`reload_skipped_after_read_error`).
Failures of the first `stat` are not remembered, and do no harm. In runs where no load of a good
file fails, every due refresh takes effect (`reloads_take_effect`).
-/

namespace Narrowd.AuthorizedKeys

open Narrowd.Lib

variable {K : Type} {p : Platform}

/-! ## The file -/

/-- The contents of a file: a text, or bytes that are not UTF-8. -/
inductive Contents
  | text (text : String)
  | notUtf8 (bytes : List UInt8)
  deriving DecidableEq

def Contents.len : Contents → Nat
  | text t => t.utf8ByteSize
  | notUtf8 bytes => bytes.length

/-- A version of the file. -/
structure FileVersion where
  modified : Option Int
  contents : Contents
  deriving DecidableEq

namespace FileVersion

def metadata (v : FileVersion) : Metadata := { modified := v.modified, len := v.contents.len }

def fingerprint (v : FileVersion) : AuthorizedKeysFingerprint := .fromMetadata v.metadata

end FileVersion

/-- The cache of the contents, when they are within the limits and `from_text` accepts them. -/
def Contents.cache? (ssh : SshKey K) (maxSize maxEntries : Nat) (c : Contents) :
    Option AuthorizedKeysCache :=
  if maxSize < c.len then none
  else
    match c with
    | .text t => (AuthorizedKeysCache.fromText ssh t maxEntries).toOption
    | .notUtf8 _ => none

/-- Failures of system calls that have nothing to do with the file. -/
structure Faults where
  stat : Option IoError
  openFile : Option IoError
  fstat : Option IoError
  read : Option IoError

def Faults.none : Faults := { stat := .none, openFile := .none, fstat := .none, read := .none }

/-- The failures that `load` would meet. -/
def Faults.SparesLoad (f : Faults) : Prop :=
  f.openFile = .none ∧ f.fstat = .none ∧ f.read = .none

/-- The answer of a system call, unless it fails. -/
def answer {α : Type} (fault : Option IoError) (r : Except IoError α) : Except IoError α :=
  match fault with
  | some err => .error err
  | none => r

def noSuchFile : IoError := { kind := .notFound, text := "No such file or directory (os error 2)" }

def invalidUtf8 : IoError := { kind := .other, text := "stream did not contain valid UTF-8" }

/-- What a refresh sees of the file. -/
def viewOf (file : Option FileVersion) (f : Faults) : PathView :=
  match file with
  | none =>
      { stat := answer f.stat (.error noSuchFile)
        openFile := answer f.openFile (.error noSuchFile)
        fstat := answer f.fstat (.error noSuchFile)
        readToString := answer f.read (.error noSuchFile) }
  | some v =>
      { stat := answer f.stat (.ok v.metadata)
        openFile := answer f.openFile (.ok ())
        fstat := answer f.fstat (.ok v.metadata)
        readToString := answer f.read
          (match v.contents with
           | .text t => .ok t
           | .notUtf8 _ => .error invalidUtf8) }

theorem answer_eq_ok {α : Type} {fault : Option IoError} {r : Except IoError α} {a : α} :
    answer fault r = .ok a ↔ fault = none ∧ r = .ok a := by
  cases fault with
  | none => simp [answer]
  | some err => simp [answer]

variable {f : Faults} {cache : AuthorizedKeysCache} {ssh : SshKey K} {path : String}
  {maxEntries maxSize : Nat}

/-- **Loading a version**: it succeeds when the version is good and no call fails. -/
theorem load_viewOf_eq_ok_iff {v : FileVersion} {fingerprint : AuthorizedKeysFingerprint} :
    AuthorizedKeysCache.load ssh (viewOf (some v) f) path maxSize maxEntries
        = .ok (cache, fingerprint) ↔
      f.SparesLoad ∧ v.contents.cache? ssh maxSize maxEntries = some cache ∧
        fingerprint = v.fingerprint := by
  rw [AuthorizedKeysCache.load_eq_ok_iff]
  simp only [viewOf, answer_eq_ok, Faults.SparesLoad, and_true]
  constructor
  · rintro ⟨hopen, metadata, t, ⟨hfstat, hmeta⟩, hlen, ⟨hread, htext⟩, hcache, rfl⟩
    cases hmeta
    refine ⟨⟨hopen, hfstat, hread⟩, ?_, rfl⟩
    replace hlen : v.contents.len ≤ maxSize := hlen
    unfold Contents.cache?
    rw [if_neg (Nat.not_lt.mpr hlen)]
    cases hc : v.contents with
    | text t' =>
        rw [hc] at htext
        cases htext
        simp only [hcache, Except.toOption]
    | notUtf8 bytes =>
        rw [hc] at htext
        cases htext
  · rintro ⟨⟨hopen, hfstat, hread⟩, hcache, rfl⟩
    unfold Contents.cache? at hcache
    split at hcache
    · cases hcache
    · next hlen =>
        cases hc : v.contents with
        | text t =>
            rw [hc] at hcache
            cases htext : AuthorizedKeysCache.fromText ssh t maxEntries with
            | error err => simp [htext, Except.toOption] at hcache
            | ok cache' =>
                simp only [htext, Except.toOption, Option.some.injEq] at hcache
                subst hcache
                exact ⟨hopen, v.metadata, t, ⟨hfstat, rfl⟩, Nat.le_of_not_lt hlen, ⟨hread, rfl⟩,
                  htext, rfl⟩
        | notUtf8 bytes =>
            rw [hc] at hcache
            cases hcache

variable {file : Option FileVersion}

/-- Only a file that is there has a fingerprint that is not `MISSING`. -/
theorem fromPath_viewOf {current : AuthorizedKeysFingerprint}
    (h : AuthorizedKeysFingerprint.fromPath (viewOf file f) path = .ok current)
    (hthere : current ≠ .MISSING) :
    f.stat = none ∧ ∃ v, file = some v ∧ current = v.fingerprint := by
  cases file with
  | none =>
      simp only [AuthorizedKeysFingerprint.fromPath, viewOf] at h
      cases hs : f.stat with
      | none =>
          simp only [hs, answer, noSuchFile, if_true, Except.ok.injEq] at h
          exact absurd h.symm hthere
      | some err =>
          simp only [hs, answer] at h
          split at h
          · exact absurd (Except.ok.inj h).symm hthere
          · cases h
  | some v =>
      simp only [AuthorizedKeysFingerprint.fromPath, viewOf] at h
      cases hs : f.stat with
      | none =>
          simp only [hs, answer, Except.ok.injEq] at h
          exact ⟨rfl, v, rfl, h.symm⟩
      | some err =>
          simp only [hs, answer] at h
          split at h
          · exact absurd (Except.ok.inj h).symm hthere
          · cases h

/-! ## The system -/

/-- The file and the state that polls it. -/
structure Polled (p : Platform) where
  file : Option FileVersion
  keys : AuthorizedKeysState p

inductive PollEvent (p : Platform)
  | edit (v : FileVersion)
  | remove
  | refresh (f : Faults) (now : Instant p)

inductive PollStep (ssh : SshKey K) : Polled p → PollEvent p → Polled p → Prop
  | edit {sys : Polled p} (v : FileVersion) :
      PollStep ssh sys (.edit v) { sys with file := some v }
  | remove {sys : Polled p} : PollStep ssh sys .remove { sys with file := none }
  | refresh {sys : Polled p} {f : Faults} {now : Instant p}
      {r : Except AnyError (Option AuthorizedKeysReloadEvent)} {keys : AuthorizedKeysState p}
      (h : sys.keys.refreshIfDue ssh (viewOf sys.file f) now = some (r, keys)) :
      PollStep ssh sys (.refresh f now) { sys with keys := keys }

/-- The daemon starts with the file as it is, or without one if it seems to be missing. -/
def IsStarted (ssh : SshKey K) (file : Option FileVersion) (maxSize maxEntries : Nat)
    (sys : Polled p) : Prop :=
  sys.file = file ∧ sys.keys.maxSize = maxSize ∧ sys.keys.maxEntries = maxEntries ∧
    ((∃ path interval now f cache fingerprint,
        AuthorizedKeysCache.load ssh (viewOf file f) path maxSize maxEntries
          = .ok (cache, fingerprint) ∧
        AuthorizedKeysState.loaded path maxSize maxEntries interval cache fingerprint now
          = some sys.keys) ∨
      ∃ path interval now,
        AuthorizedKeysState.missing path maxSize maxEntries interval now = some sys.keys)

/-- The versions the file has had. -/
def versions (file : Option FileVersion) : List (PollEvent p) → List FileVersion
  | [] => file.toList
  | .edit v :: h => v :: versions file h
  | _ :: h => versions file h

/-- Versions with different contents have different fingerprints. -/
def Faithful (vs : List FileVersion) : Prop :=
  ∀ v ∈ vs, ∀ v' ∈ vs, v.fingerprint = v'.fingerprint → v.contents = v'.contents

/-- The refresh would load the file: it is due, and the fingerprint is neither the observed one
nor that of the last failure. -/
def Loads (keys : AuthorizedKeysState p) (v : FileVersion) (now : Instant p) : Prop :=
  keys.nextReloadCheckAt ≤ now ∧ v.fingerprint ≠ keys.observedFingerprint ∧
    keys.lastFailedReloadFingerprint ≠ some v.fingerprint

/-- No load of a good file fails. -/
def LoadsGoodFiles (ssh : SshKey K) (sys : Polled p) : PollEvent p → Prop
  | .refresh f now => ∀ v, sys.file = some v →
      (v.contents.cache? ssh sys.keys.maxSize sys.keys.maxEntries).isSome →
      f.stat = none → Loads sys.keys v now → f.SparesLoad
  | _ => True

/-! ## What the two remembered fingerprints mean -/

/-- The observed fingerprint is that of a version whose keys are in the cache, and the failed one
that of a version that cannot be loaded. -/
structure PollInv (ssh : SshKey K) (maxSize maxEntries : Nat) (vs : List FileVersion)
    (sys : Polled p) : Prop where
  size_eq : sys.keys.maxSize = maxSize
  entries_eq : sys.keys.maxEntries = maxEntries
  current : ∀ v, sys.file = some v → v ∈ vs
  observed : sys.keys.observedFingerprint = .MISSING ∨
    ∃ u ∈ vs, u.fingerprint = sys.keys.observedFingerprint ∧
      u.contents.cache? ssh maxSize maxEntries = some sys.keys.cache
  failed : ∀ fp, sys.keys.lastFailedReloadFingerprint = some fp →
    ∃ u ∈ vs, u.fingerprint = fp ∧ u.contents.cache? ssh maxSize maxEntries = none

section

variable {ssh : SshKey K} {maxSize maxEntries : Nat} {vs : List FileVersion} {sys : Polled p}

/-- A new version of the file leaves the remembered fingerprints as they are. -/
theorem PollInv.edit (hi : PollInv ssh maxSize maxEntries vs sys) (v : FileVersion) :
    PollInv ssh maxSize maxEntries (v :: vs) { sys with file := some v } where
  size_eq := hi.size_eq
  entries_eq := hi.entries_eq
  current := by
    intro v' hv'
    cases hv'
    exact List.mem_cons_self ..
  observed := by
    rcases hi.observed with hm | ⟨u, hu, hfp, hcache⟩
    · exact Or.inl hm
    · exact Or.inr ⟨u, List.mem_cons_of_mem _ hu, hfp, hcache⟩
  failed := by
    intro fp hfp
    obtain ⟨u, hu, hfp, hcache⟩ := hi.failed fp hfp
    exact ⟨u, List.mem_cons_of_mem _ hu, hfp, hcache⟩

theorem PollInv.remove (hi : PollInv ssh maxSize maxEntries vs sys) :
    PollInv ssh maxSize maxEntries vs { sys with file := none } :=
  { hi with current := fun _ hv => by cases hv }

/-- Only the time of the next check changed. -/
theorem PollInv.waited (hi : PollInv ssh maxSize maxEntries vs sys) (next : Instant p) :
    PollInv ssh maxSize maxEntries vs
      { sys with keys := { sys.keys with nextReloadCheckAt := next } } :=
  { hi with }

/-- A load that succeeds reads a version of the file. -/
theorem PollInv.load_eq_ok (hi : PollInv ssh maxSize maxEntries vs sys)
    {fingerprint : AuthorizedKeysFingerprint}
    (hload : AuthorizedKeysCache.load ssh (viewOf sys.file f) sys.keys.path sys.keys.maxSize
      sys.keys.maxEntries = .ok (cache, fingerprint)) :
    ∃ u ∈ vs, u.fingerprint = fingerprint ∧
      u.contents.cache? ssh maxSize maxEntries = some cache := by
  rw [hi.size_eq, hi.entries_eq] at hload
  cases hfile : sys.file with
  | none =>
      -- there is nothing to open
      rw [hfile, AuthorizedKeysCache.load_eq_ok_iff] at hload
      have hopen := (answer_eq_ok.mp hload.1).2
      cases hopen
  | some v =>
      rw [hfile, load_viewOf_eq_ok_iff] at hload
      exact ⟨v, hi.current v hfile, hload.2.2.symm, hload.2.1⟩

/-- **A refresh** keeps the invariant, if it does not fail to load a good file. -/
theorem PollInv.refresh (hi : PollInv ssh maxSize maxEntries vs sys) {now : Instant p}
    {r : Except AnyError (Option AuthorizedKeysReloadEvent)} {keys : AuthorizedKeysState p}
    (h : sys.keys.refreshIfDue ssh (viewOf sys.file f) now = some (r, keys))
    (hgood : LoadsGoodFiles ssh sys (.refresh f now)) :
    PollInv ssh maxSize maxEntries vs { sys with keys := keys } := by
  cases AuthorizedKeysState.refreshIfDue_refreshed h with
  | notDue _ => exact hi
  | statFailed _ _ _ => exact hi.waited _
  | skipped _ _ _ _ => exact hi.waited _
  | loaded hnow _ hstat hobserved hfailed hload =>
      exact { size_eq := hi.size_eq, entries_eq := hi.entries_eq, current := hi.current
              observed := Or.inr (hi.load_eq_ok hload)
              failed := fun _ hfp => by cases hfp }
  | missing _ _ _ _ _ _ =>
      exact { size_eq := hi.size_eq, entries_eq := hi.entries_eq, current := hi.current
              observed := Or.inl rfl
              failed := fun _ hfp => by cases hfp }
  | failed hnow _ hstat hthere hobserved hfailed hload =>
      refine { size_eq := hi.size_eq, entries_eq := hi.entries_eq, current := hi.current
               observed := hi.observed
               failed := ?_ }
      intro fp hfp
      cases hfp
      obtain ⟨hf, v, hfile, rfl⟩ := fromPath_viewOf hstat hthere
      refine ⟨v, hi.current v hfile, rfl, ?_⟩
      -- were the version good, the load would have been spared, and succeeded
      cases hcache : v.contents.cache? ssh maxSize maxEntries with
      | none => rfl
      | some cache =>
          have hspared := hgood v hfile (by rw [hi.size_eq, hi.entries_eq, hcache]; rfl) hf
            ⟨hnow, hobserved, hfailed⟩
          rw [hfile, hi.size_eq, hi.entries_eq,
            load_viewOf_eq_ok_iff.mpr ⟨hspared, hcache, rfl⟩] at hload
          cases hload

end

theorem PollInv.start {sys : Polled p} (h : IsStarted ssh file maxSize maxEntries sys) :
    PollInv ssh maxSize maxEntries file.toList sys := by
  obtain ⟨rfl, hsize, hentries, hkeys⟩ := h
  have hcurrent : ∀ v, sys.file = some v → v ∈ sys.file.toList := by
    intro v hv
    rw [hv]
    exact List.mem_singleton_self v
  rcases hkeys with ⟨path, interval, now, f, cache, fingerprint, hload, hkeys⟩ |
    ⟨path, interval, now, hkeys⟩
  · obtain ⟨-, hcache, -, hobs, hfail⟩ := AuthorizedKeysState.loaded_eq_some hkeys
    cases hfile : sys.file with
    | none =>
        rw [hfile, AuthorizedKeysCache.load_eq_ok_iff] at hload
        cases (answer_eq_ok.mp hload.1).2
    | some v =>
        rw [hfile, load_viewOf_eq_ok_iff] at hload
        obtain ⟨-, hgood, rfl⟩ := hload
        refine ⟨hsize, hentries, hfile ▸ hcurrent, Or.inr ?_, ?_⟩
        · exact ⟨v, List.mem_singleton_self v, hobs.symm, hcache ▸ hgood⟩
        · intro fp hfp
          rw [hfail] at hfp
          cases hfp
  · obtain ⟨-, -, -, hobs, hfail⟩ := AuthorizedKeysState.missing_eq_some hkeys
    refine ⟨hsize, hentries, hcurrent, Or.inl hobs, ?_⟩
    intro fp hfp
    rw [hfail] at hfp
    cases hfp

/-! ## Runs -/

section

variable {ssh : SshKey K} {file : Option FileVersion} {maxSize maxEntries : Nat}
  {h : List (PollEvent p)} {sys : Polled p}

theorem PollInv.run
    (hr : Run (IsStarted ssh file maxSize maxEntries)
      (restrict (PollStep ssh) (LoadsGoodFiles ssh)) h sys) :
    PollInv ssh maxSize maxEntries (versions file h) sys := by
  refine hr.invariant (P := fun h sys => PollInv ssh maxSize maxEntries (versions file h) sys)
    (fun sys hs => PollInv.start hs) ?_
  rintro h sys e sys' - hi ⟨hs, hgood⟩
  cases hs with
  | edit v => exact hi.edit v
  | remove => exact hi.remove
  | refresh hrefresh => exact hi.refresh hrefresh hgood

/-- **Changes take effect.** In every run in which no load of a good file fails, a due refresh of
a good file that meets no failure leaves the cache of that file, or panics because the next check
would be after the end of the clock. -/
theorem reloads_take_effect
    (hr : Run (IsStarted ssh file maxSize maxEntries)
      (restrict (PollStep ssh) (LoadsGoodFiles ssh)) h sys)
    (hfaith : Faithful (versions file h)) {v : FileVersion} (hfile : sys.file = some v)
    {cache : AuthorizedKeysCache}
    (hcache : v.contents.cache? ssh maxSize maxEntries = some cache) {now : Instant p}
    (hdue : sys.keys.nextReloadCheckAt ≤ now) :
    match sys.keys.refreshIfDue ssh (viewOf sys.file Faults.none) now with
    | some (_, keys) => keys.cache = cache
    | none => p.instantMax < now.ns + sys.keys.reloadInterval := by
  have hi := PollInv.run hr
  have hstat : AuthorizedKeysFingerprint.fromPath (viewOf sys.file Faults.none) sys.keys.path
      = .ok v.fingerprint := by
    rw [hfile]
    rfl
  have hload : AuthorizedKeysCache.load ssh (viewOf sys.file Faults.none) sys.keys.path
      sys.keys.maxSize sys.keys.maxEntries = .ok (cache, v.fingerprint) := by
    rw [hfile, hi.size_eq, hi.entries_eq]
    exact load_viewOf_eq_ok_iff.mpr ⟨⟨rfl, rfl, rfl⟩, hcache, rfl⟩
  cases hrefresh : sys.keys.refreshIfDue ssh (viewOf sys.file Faults.none) now with
  | none => exact (AuthorizedKeysState.refreshIfDue_eq_none_iff.mp hrefresh).2
  | some result =>
      obtain ⟨r, keys⟩ := result
      show keys.cache = cache
      cases AuthorizedKeysState.refreshIfDue_refreshed hrefresh with
      | notDue hnow => exact absurd hnow (not_lt.mpr hdue)
      | statFailed _ _ hstat' =>
          rw [hstat] at hstat'
          cases hstat'
      | skipped _ _ hstat' hskip =>
          rw [hstat] at hstat'
          cases hstat'
          rcases hskip with hobs | hfail
          · -- the observed version has the contents of this one
            rcases hi.observed with hm | ⟨u, hu, hfp, hu'⟩
            · exact absurd (hobs.trans hm) (AuthorizedKeysFingerprint.fromMetadata_ne_missing _)
            · have hsame := hfaith u hu v (hi.current v hfile) (hfp.trans hobs.symm)
              rw [hsame, hcache] at hu'
              exact (Option.some.inj hu').symm
          · -- a version that fails to load is not a good one
            obtain ⟨u, hu, hfp, hu'⟩ := hi.failed _ hfail
            have hsame := hfaith u hu v (hi.current v hfile) hfp
            rw [hsame, hcache] at hu'
            cases hu'
      | loaded _ _ _ _ _ hload' =>
          rw [hload] at hload'
          cases hload'
          rfl
      | missing _ _ _ _ _ hload' =>
          rw [hload] at hload'
          cases hload'
      | failed _ _ _ _ _ _ hload' =>
          rw [hload] at hload'
          cases hload'

end

/-! ## One key replaced by another -/

def plainVersion : FileVersion := { modified := some 1, contents := .text plainEd25519Key }

def secondVersion : FileVersion := { modified := some 2, contents := .text secondEd25519Key }

/-- The state after the file with the first key was loaded, with a reload interval of zero. -/
def plainLoaded : AuthorizedKeysState .linux :=
  { path := "authorized_keys"
    maxSize := 1024
    maxEntries := 8
    reloadInterval := 0
    cache := SampleKey.plain.cache
    generation := 1
    observedFingerprint := plainVersion.fingerprint
    lastFailedReloadFingerprint := none
    lastReloadStatus := .loaded
    nextReloadCheckAt := .zero .linux }

theorem isStarted_plainLoaded :
    IsStarted sampleSsh (some plainVersion) 1024 8
      ({ file := some plainVersion, keys := plainLoaded } : Polled .linux) := by
  refine ⟨rfl, rfl, rfl, Or.inl ⟨"authorized_keys", 0, .zero .linux, Faults.none,
    SampleKey.plain.cache, plainVersion.fingerprint, ?_, rfl⟩⟩
  exact load_viewOf_eq_ok_iff.mpr ⟨⟨rfl, rfl, rfl⟩, rfl, rfl⟩

theorem faithful_samples : Faithful [secondVersion, plainVersion] := by
  intro v hv v' hv' hfp
  simp only [List.mem_cons, List.not_mem_nil, or_false] at hv hv'
  rcases hv with rfl | rfl <;> rcases hv' with rfl | rfl
  · rfl
  · cases congrArg AuthorizedKeysFingerprint.modified hfp
  · cases congrArg AuthorizedKeysFingerprint.modified hfp
  · rfl

/-- The refresh after the edit leaves the second key only. -/
theorem reloads_take_effect_second :
    match plainLoaded.refreshIfDue sampleSsh (viewOf (some secondVersion) Faults.none)
      (.zero .linux) with
    | some (_, keys) => keys.cache = SampleKey.second.cache
    | none => Platform.linux.instantMax < (Instant.zero .linux).ns + (0 : Nat) := by
  have h0 : Run (IsStarted sampleSsh (some plainVersion) 1024 8)
      (restrict (PollStep sampleSsh) (LoadsGoodFiles sampleSsh)) []
      ({ file := some plainVersion, keys := plainLoaded } : Polled .linux) :=
    .nil isStarted_plainLoaded
  have hkeep : LoadsGoodFiles sampleSsh
      ({ file := some plainVersion, keys := plainLoaded } : Polled .linux)
      (.edit secondVersion) := trivial
  have h1 := Run.cons h0 ⟨.edit secondVersion, hkeep⟩
  exact reloads_take_effect h1 faithful_samples rfl rfl (le_refl _)

/-- A read that fails once. -/
def readError : Faults :=
  { Faults.none with read := some { kind := .other, text := "Input/output error (os error 5)" } }

/-- **One failed read keeps a removed key alive.** The first key is replaced by the second; the
next refresh fails to read the file; the one after it could read it, but skips it, and the first
key is still accepted. -/
theorem reload_skipped_after_read_error :
    ∃ (h : List (PollEvent .linux)) (sys : Polled .linux) (keys : AuthorizedKeysState .linux),
      Run (IsStarted sampleSsh (some plainVersion) 1024 8) (PollStep sampleSsh) h sys ∧
      Faithful (versions (some plainVersion) h) ∧
      sys.file = some secondVersion ∧
      secondVersion.contents.cache? sampleSsh 1024 8 = some SampleKey.second.cache ∧
      sys.keys.nextReloadCheckAt ≤ .zero .linux ∧
      sys.keys.refreshIfDue sampleSsh (viewOf sys.file Faults.none) (.zero .linux)
        = some (.ok none, keys) ∧
      keys.cache ≠ SampleKey.second.cache ∧ SampleKey.plain.bytes ∈ keys.cache.acceptedKeys := by
  have h0 : Run (IsStarted sampleSsh (some plainVersion) 1024 8) (PollStep sampleSsh) []
      ({ file := some plainVersion, keys := plainLoaded } : Polled .linux) :=
    .nil isStarted_plainLoaded
  have h1 := Run.cons h0 (e := .edit secondVersion) (.edit secondVersion)
  have hfail : plainLoaded.refreshIfDue sampleSsh (viewOf (some secondVersion) readError)
      (.zero .linux)
      = some (.ok (some (.failed "failed to read authorized_keys")),
        { plainLoaded with
          lastFailedReloadFingerprint := some secondVersion.fingerprint
          lastReloadStatus := .failed "failed to read authorized_keys" }) := rfl
  have h2 := Run.cons h1 (e := .refresh readError (.zero .linux)) (.refresh hfail)
  refine ⟨_, _, _, h2, faithful_samples, rfl, rfl, le_refl _, rfl, ?_, ?_⟩
  · decide
  · decide

end Narrowd.AuthorizedKeys
