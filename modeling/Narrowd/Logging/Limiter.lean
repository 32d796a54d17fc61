import Narrowd.Lib.Run
import Narrowd.Lib.Table
import Narrowd.Lib.Eviction
import Narrowd.Admission.State

set_option autoImplicit false

/-! # The log limiter

`LogLimiterState::check` decides about a warning: the first one of a key is emitted, and then no
other of this key until a window of time has passed. The warnings in between are counted, and the
next one that is emitted reports their number.

A map holds the time of the last emission and the count of each key. Once per window, and whenever
it has grown beyond its limit, it is cleaned up: entries older than two windows go, and of the rest
the oldest, down to the limit. The eviction sorts the entries from the order in which the hash map
yields them, which is not known; `check` has that order as a parameter.
-/

namespace Narrowd.Logging

open Narrowd.Lib Narrowd.Admission

structure LogKey where
  peerIp : Option IpAddr
  category : String
  deriving DecidableEq, Repr

inductive LogDecision
  | emit (suppressed : Nat)
  | suppress
  deriving DecidableEq, Repr

structure LogLimiterConfig where
  window : Duration
  maxEntries : Nat
  deriving DecidableEq, Repr

structure LogEntry (p : Platform) where
  lastEmittedAt : Instant p
  suppressed : Nat
  deriving DecidableEq

structure LogLimiterState (p : Platform) where
  config : LogLimiterConfig
  entries : Table LogKey (LogEntry p)
  lastCleanup : Instant p

variable {p : Platform} {k : LogKey}

namespace LogLimiterState

def new (config : LogLimiterConfig) (now : Instant p) : LogLimiterState p :=
  { config := config, entries := ∅, lastCleanup := now }

/-- The time for which `maybe_cleanup` keeps an entry. -/
def retention (s : LogLimiterState p) : Duration := Duration.saturatingMul s.config.window 2

/-- `maybe_cleanup` does not return at once. -/
def cleanupDue (s : LogLimiterState p) (now : Instant p) : Bool :=
  !(decide (s.entries.len ≤ s.config.maxEntries) &&
    decide (now.saturatingDurationSince s.lastCleanup < s.config.window))

/-- The entries that are not too old. -/
def retained (s : LogLimiterState p) (now : Instant p) : Table LogKey (LogEntry p) :=
  s.entries.retain fun entry =>
    decide (now.saturatingDurationSince entry.lastEmittedAt ≤ s.retention)

/-- `order` is the order in which the map yields the entries that are left to sort. -/
def maybeCleanup (s : LogLimiterState p) (order : List (Σ _ : LogKey, LogEntry p))
    (now : Instant p) : LogLimiterState p :=
  if s.cleanupDue now = false then s
  else
    let s := { s with entries := s.retained now, lastCleanup := now }
    if s.entries.len ≤ s.config.maxEntries then s
    else
      let entries := order.map fun e => (e.1, e.2.lastEmittedAt)
      let entries := oldestFirst Prod.snd entries
      let toRemove := s.entries.len - s.config.maxEntries
      { s with entries := s.entries.eraseAll ((entries.take toRemove).map Prod.fst) }

/-- The part of `check` after the cleanup. The count is a `usize` and saturates. -/
def decideLog (s : LogLimiterState p) (key : LogKey) (now : Instant p) :
    LogDecision × LogLimiterState p :=
  match s.entries.lookup key with
  | some entry =>
      if s.config.window ≤ now.saturatingDurationSince entry.lastEmittedAt then
        (.emit entry.suppressed,
          { s with entries := s.entries.insert key { lastEmittedAt := now, suppressed := 0 } })
      else
        (.suppress,
          { s with
            entries := s.entries.insert key
              { entry with suppressed := min (entry.suppressed + 1) u64Max } })
  | none =>
      (.emit 0,
        { s with entries := s.entries.insert key { lastEmittedAt := now, suppressed := 0 } })

def check (s : LogLimiterState p) (order : List (Σ _ : LogKey, LogEntry p)) (key : LogKey)
    (now : Instant p) : LogDecision × LogLimiterState p :=
  (s.maybeCleanup order now).decideLog key now

/-! ## What a cleanup does -/

/-- The ways an entry can go: it is too old, or there are as many others as the map may hold, none
of them older. -/
def Dropped (s : LogLimiterState p) (now : Instant p) (k : LogKey) (entry : LogEntry p) : Prop :=
  s.cleanupDue now = true ∧
    (s.config.window * 2 < now.saturatingDurationSince entry.lastEmittedAt ∨
      ∃ keys : List LogKey, keys.Nodup ∧ s.config.maxEntries ≤ keys.length ∧
        ∀ k' ∈ keys, k' ≠ k ∧ ∃ entry', s.entries.lookup k' = some entry' ∧
          entry.lastEmittedAt ≤ entry'.lastEmittedAt)

section

variable {s : LogLimiterState p} {order : List (Σ _ : LogKey, LogEntry p)} {now : Instant p}

theorem maybeCleanup_config : (s.maybeCleanup order now).config = s.config := by
  unfold maybeCleanup
  split
  · rfl
  · simp only
    split <;> rfl

/-- An entry that is not retained is older than two windows: no two instants are further apart than
the longest `Duration`, so that the multiplication does not saturate where it matters. -/
theorem window_lt_of_not_retained {entry : LogEntry p}
    (h : ¬ now.saturatingDurationSince entry.lastEmittedAt ≤ s.retention) :
    s.config.window * 2 < now.saturatingDurationSince entry.lastEmittedAt := by
  have hmax := now.saturatingDurationSince_le_max entry.lastEmittedAt
  unfold retention Duration.saturatingMul at h
  rcases lt_or_ge (s.config.window * 2) (now.saturatingDurationSince entry.lastEmittedAt) with
    hlt | hge
  · exact hlt
  · exact absurd (le_min hge hmax) h

/-- What becomes of a single entry when the map is swept. -/
theorem retained_lookup (s : LogLimiterState p) (now : Instant p) (k : LogKey) :
    (s.retained now).lookup k = s.entries.lookup k ∨
      ((s.retained now).lookup k = none ∧ ∃ entry, s.entries.lookup k = some entry ∧
        s.config.window * 2 < now.saturatingDurationSince entry.lastEmittedAt) := by
  cases hk : s.entries.lookup k with
  | none =>
      refine Or.inl ?_
      by_contra hne
      obtain ⟨entry, hentry⟩ := Option.ne_none_iff_exists'.mp hne
      rw [(Table.lookup_retain_eq_some.mp hentry).1] at hk
      cases hk
  | some entry =>
      by_cases hold : now.saturatingDurationSince entry.lastEmittedAt ≤ s.retention
      · exact Or.inl (Table.lookup_retain_eq_some.mpr ⟨hk, decide_eq_true hold⟩)
      · refine Or.inr ⟨?_, entry, rfl, window_lt_of_not_retained hold⟩
        by_contra hne
        obtain ⟨entry', hentry'⟩ := Option.ne_none_iff_exists'.mp hne
        obtain ⟨hsame, hkept⟩ := Table.lookup_retain_eq_some.mp hentry'
        rw [hk] at hsame
        cases hsame
        exact hold (of_decide_eq_true hkept)

/-- The keys and times of an iteration, as they are sorted. -/
def stamps (order : List (Σ _ : LogKey, LogEntry p)) : List (LogKey × Instant p) :=
  order.map fun e => (e.1, e.2.lastEmittedAt)

/-- The keys that an eviction removes. -/
def evicted (s : LogLimiterState p) (order : List (Σ _ : LogKey, LogEntry p)) (now : Instant p) :
    List LogKey :=
  ((oldestFirst Prod.snd (stamps order)).take
    ((s.retained now).len - s.config.maxEntries)).map Prod.fst

/-- **Every way a cleanup can go.** -/
theorem maybeCleanup_cases (s : LogLimiterState p) (order : List (Σ _ : LogKey, LogEntry p))
    (now : Instant p) :
    (s.cleanupDue now = false ∧ s.maybeCleanup order now = s) ∨
    (s.cleanupDue now = true ∧ (s.retained now).len ≤ s.config.maxEntries ∧
      (s.maybeCleanup order now).entries = s.retained now) ∨
    (s.cleanupDue now = true ∧ s.config.maxEntries < (s.retained now).len ∧
      (s.maybeCleanup order now).entries = (s.retained now).eraseAll (s.evicted order now)) := by
  unfold maybeCleanup
  cases hdue : s.cleanupDue now with
  | false => exact Or.inl ⟨rfl, if_pos rfl⟩
  | true =>
      rw [if_neg (by simp)]
      refine Or.inr ?_
      by_cases hlen : (s.retained now).len ≤ s.config.maxEntries
      · exact Or.inl ⟨rfl, hlen, by simp only [if_pos hlen]⟩
      · exact Or.inr ⟨rfl, not_le.mp hlen, by simp only [if_neg hlen]; rfl⟩

section

variable {m : Table LogKey (LogEntry p)}

theorem nodup_stamps (horder : order.Perm m.entries) : ((stamps order).map Prod.fst).Nodup := by
  have hkeys : (stamps order).map Prod.fst = order.map Sigma.fst := List.map_map
  rw [hkeys]
  exact (horder.map Sigma.fst).nodup_iff.mpr m.nodupKeys

theorem length_stamps (horder : order.Perm m.entries) : (stamps order).length = m.len := by
  rw [stamps, List.length_map]
  exact horder.length_eq

/-- What is sorted are the entries of the map. -/
theorem lookup_of_mem_stamps (horder : order.Perm m.entries) {x : LogKey × Instant p}
    (hx : x ∈ stamps order) : ∃ entry, m.lookup x.1 = some entry ∧ entry.lastEmittedAt = x.2 := by
  obtain ⟨⟨k, entry⟩, he, rfl⟩ := List.mem_map.mp hx
  exact ⟨entry, AList.mem_lookup_iff.mpr (horder.mem_iff.mp he), rfl⟩

end

/-- **After a cleanup the map is within its limit.** -/
theorem maybeCleanup_len (horder : order.Perm (s.retained now).entries) :
    (s.maybeCleanup order now).entries.len ≤ s.config.maxEntries := by
  rcases s.maybeCleanup_cases order now with ⟨hdue, heq⟩ | ⟨-, hlen, heq⟩ | ⟨-, hlen, heq⟩
  · rw [heq]
    simp only [cleanupDue, Bool.not_eq_false', Bool.and_eq_true, decide_eq_true_eq] at hdue
    exact hdue.1
  · rw [heq]
    exact hlen
  · have hsorted := oldestFirst_perm Prod.snd (stamps order)
    have hthere : ∀ k ∈ s.evicted order now, k ∈ s.retained now := by
      intro k hk
      obtain ⟨x, hx, rfl⟩ := List.mem_map.mp hk
      obtain ⟨entry, hentry, -⟩ :=
        lookup_of_mem_stamps horder (hsorted.mem_iff.mp (List.mem_of_mem_take hx))
      exact AList.lookup_isSome.mp (by rw [hentry]; rfl)
    have hnodup : (s.evicted order now).Nodup := by
      refine List.Nodup.sublist ((List.take_sublist _ _).map _) ?_
      exact (hsorted.map Prod.fst).nodup_iff.mpr (nodup_stamps horder)
    have hlength : (s.evicted order now).length = (s.retained now).len - s.config.maxEntries := by
      rw [evicted, List.length_map, List.length_take, hsorted.length_eq, length_stamps horder]
      omega
    have hleft := Table.len_eraseAll hnodup hthere
    rw [heq]
    omega

/-- An entry that is evicted makes room for as many others as the map may hold. -/
theorem dropped_of_evicted (horder : order.Perm (s.retained now).entries)
    (hdue : s.cleanupDue now = true) (hlen : s.config.maxEntries < (s.retained now).len)
    (hk : k ∈ s.evicted order now) :
    ∃ entry, s.entries.lookup k = some entry ∧ s.Dropped now k entry := by
  have hkept : ∀ x ∈ stamps order, ∃ entry, s.entries.lookup x.1 = some entry ∧
      entry.lastEmittedAt = x.2 := by
    intro x hx
    obtain ⟨entry, hentry, htime⟩ := lookup_of_mem_stamps horder hx
    exact ⟨entry, (Table.lookup_retain_eq_some.mp hentry).1, htime⟩
  obtain ⟨x, hx, rfl, hnodup, hlength, hothers⟩ := oldest_evicted (nodup_stamps horder) hk
  obtain ⟨entry, hentry, htime⟩ := hkept x hx
  refine ⟨entry, hentry, hdue, Or.inr ⟨_, hnodup, ?_, ?_⟩⟩
  · rw [List.length_map, hlength, length_stamps horder]
    omega
  · intro k' hk'
    obtain ⟨y, hy, rfl⟩ := List.mem_map.mp hk'
    obtain ⟨hmem, hne, hle⟩ := hothers y hy
    obtain ⟨entry', hentry', htime'⟩ := hkept y hmem
    exact ⟨hne, entry', hentry', by rw [htime, htime']; exact hle⟩

/-- **What a cleanup leaves under each key**: the entry, unless it is dropped. -/
theorem maybeCleanup_lookup (horder : order.Perm (s.retained now).entries) (k : LogKey) :
    (s.maybeCleanup order now).entries.lookup k = s.entries.lookup k ∨
      ((s.maybeCleanup order now).entries.lookup k = none ∧
        ∃ entry, s.entries.lookup k = some entry ∧ s.Dropped now k entry) := by
  have hretained : s.cleanupDue now = true → (s.retained now).lookup k = s.entries.lookup k ∨
      ((s.retained now).lookup k = none ∧
        ∃ entry, s.entries.lookup k = some entry ∧ s.Dropped now k entry) := by
    intro hdue
    rcases s.retained_lookup now k with hsame | ⟨hnone, entry, hentry, hold⟩
    · exact Or.inl hsame
    · exact Or.inr ⟨hnone, entry, hentry, hdue, Or.inl hold⟩
  rcases s.maybeCleanup_cases order now with ⟨-, heq⟩ | ⟨hdue, -, heq⟩ | ⟨hdue, hlen, heq⟩
  · exact Or.inl (by rw [heq])
  · rw [heq]
    exact hretained hdue
  · rw [heq, Table.lookup_eraseAll]
    by_cases hk : k ∈ s.evicted order now
    · rw [if_pos hk]
      exact Or.inr ⟨rfl, dropped_of_evicted horder hdue hlen hk⟩
    · rw [if_neg hk]
      exact hretained hdue

/-! ## What a check does -/

/-- **Every way the decision can go.** -/
theorem decideLog_cases (s : LogLimiterState p) (key : LogKey) (now : Instant p) :
    (s.entries.lookup key = none ∧ s.decideLog key now =
      (.emit 0,
        { s with entries := s.entries.insert key { lastEmittedAt := now, suppressed := 0 } })) ∨
    ∃ entry, s.entries.lookup key = some entry ∧
      ((s.config.window ≤ now.saturatingDurationSince entry.lastEmittedAt ∧
        s.decideLog key now =
          (.emit entry.suppressed,
            { s with entries := s.entries.insert key { lastEmittedAt := now, suppressed := 0 } })) ∨
      s.decideLog key now =
          (.suppress,
            { s with
              entries := s.entries.insert key
                { entry with suppressed := min (entry.suppressed + 1) u64Max } })) := by
  unfold decideLog
  cases hkey : s.entries.lookup key with
  | none => exact Or.inl ⟨rfl, rfl⟩
  | some entry =>
      refine Or.inr ⟨entry, rfl, ?_⟩
      by_cases hwindow : s.config.window ≤ now.saturatingDurationSince entry.lastEmittedAt
      · exact Or.inl ⟨hwindow, if_pos hwindow⟩
      · exact Or.inr (if_neg hwindow)

end

end LogLimiterState

/-! ## Runs -/

/-- A check and its answer. -/
structure Check (p : Platform) where
  key : LogKey
  now : Instant p
  decision : LogDecision
  deriving DecidableEq

/-- The check is for `k`, and its warning is emitted. -/
def Check.emits (k : LogKey) (e : Check p) : Bool :=
  decide (e.key = k) && decide (e.decision ≠ .suppress)

/-- The check is for `k`, and its warning is suppressed. -/
def Check.suppresses (k : LogKey) (e : Check p) : Bool :=
  decide (e.key = k) && decide (e.decision = .suppress)

/-- A check, for some order in which the map yields its entries. -/
def LogLimiterState.Step (s : LogLimiterState p) (e : Check p) (s' : LogLimiterState p) : Prop :=
  ∃ order : List (Σ _ : LogKey, LogEntry p), order.Perm (s.retained e.now).entries ∧
    s.check order e.key e.now = (e.decision, s')

abbrev LimiterRun (config : LogLimiterConfig) : List (Check p) → LogLimiterState p → Prop :=
  Run (fun s => ∃ now, s = LogLimiterState.new config now) LogLimiterState.Step

/-- What a check can do, in terms of the entry of its key after the cleanup. -/
structure LogLimiterState.Checked (s : LogLimiterState p) (e : Check p) (c s' : LogLimiterState p) :
    Prop where
  config : c.config = s.config
  len : c.entries.len ≤ s.config.maxEntries
  cleaned : ∀ k, c.entries.lookup k = s.entries.lookup k ∨
    (c.entries.lookup k = none ∧
      ∃ entry, s.entries.lookup k = some entry ∧ s.Dropped e.now k entry)
  decided : c.decideLog e.key e.now = (e.decision, s')

variable {s s' : LogLimiterState p} {e : Check p}

theorem LogLimiterState.Step.checked (hs : s.Step e s') : ∃ c, s.Checked e c s' := by
  obtain ⟨order, horder, hcheck⟩ := hs
  exact ⟨_, maybeCleanup_config, maybeCleanup_len horder, maybeCleanup_lookup horder, hcheck⟩

/-- The entry that a check leaves, and the answer that goes with it. -/
theorem LogLimiterState.Checked.entry {c : LogLimiterState p} (h : s.Checked e c s') :
    s'.config = s.config ∧ ∃ entry, s'.entries = c.entries.insert e.key entry ∧
      ((c.entries.lookup e.key = none ∧ e.decision = .emit 0 ∧ entry = ⟨e.now, 0⟩) ∨
      ∃ old, c.entries.lookup e.key = some old ∧
        ((s.config.window ≤ e.now.saturatingDurationSince old.lastEmittedAt ∧
          e.decision = .emit old.suppressed ∧ entry = ⟨e.now, 0⟩) ∨
        (e.decision = .suppress ∧
          entry = ⟨old.lastEmittedAt, min (old.suppressed + 1) u64Max⟩))) := by
  have hdecided := h.decided
  rcases c.decideLog_cases e.key e.now with ⟨hnone, heq⟩ | ⟨old, hold, ⟨hwindow, heq⟩ | heq⟩
  · rw [heq] at hdecided
    obtain ⟨hd, rfl⟩ := Prod.mk.inj hdecided
    exact ⟨h.config, _, rfl, Or.inl ⟨hnone, hd.symm, rfl⟩⟩
  · rw [heq] at hdecided
    obtain ⟨hd, rfl⟩ := Prod.mk.inj hdecided
    rw [h.config] at hwindow
    exact ⟨h.config, _, rfl, Or.inr ⟨old, hold, Or.inl ⟨hwindow, hd.symm, rfl⟩⟩⟩
  · rw [heq] at hdecided
    obtain ⟨hd, rfl⟩ := Prod.mk.inj hdecided
    exact ⟨h.config, _, rfl, Or.inr ⟨old, hold, Or.inr ⟨hd.symm, rfl⟩⟩⟩

/-- An entry that is there after the cleanup was there before it. -/
theorem LogLimiterState.Checked.lookup_before {c : LogLimiterState p} (h : s.Checked e c s')
    {entry : LogEntry p} (hk : c.entries.lookup k = some entry) :
    s.entries.lookup k = some entry := by
  rcases h.cleaned k with hsame | ⟨hnone, -⟩
  · rw [← hsame]
    exact hk
  · rw [hnone] at hk
    cases hk

/-! ## The emissions of a key -/

/-- The time of the last emission for `k`. -/
def lastEmit (h : List (Check p)) (k : LogKey) : Option (Instant p) :=
  (h.find? (Check.emits k)).map Check.now

theorem lastEmit_cons (e : Check p) (h : List (Check p)) (k : LogKey) :
    lastEmit (e :: h) k = if e.emits k then some e.now else lastEmit h k := by
  unfold lastEmit
  rw [List.find?_cons]
  cases e.emits k <;> rfl

theorem Check.emits_of_ne (hk : k ≠ e.key) : e.emits k = false := by
  simp [Check.emits, Ne.symm hk]

variable {h : List (Check p)} {t : Instant p}

/-- The last emission is one of the emissions. -/
theorem mem_of_lastEmit (hlast : lastEmit h k = some t) : ∃ n, (⟨k, t, .emit n⟩ : Check p) ∈ h := by
  obtain ⟨⟨key, now, decision⟩, hfind, rfl⟩ := Option.map_eq_some_iff.mp hlast
  have hmem := List.mem_of_find?_eq_some hfind
  have hemits := List.find?_some hfind
  simp only [Check.emits, Bool.and_eq_true, decide_eq_true_eq] at hemits
  obtain ⟨rfl, hne⟩ := hemits
  cases decision with
  | emit n => exact ⟨n, hmem⟩
  | suppress => exact absurd rfl hne

/-- At least `maxEntries` other keys have an emission between `t` and `t'`. -/
def Crowded (config : LogLimiterConfig) (h : List (Check p)) (k : LogKey) (t t' : Instant p) :
    Prop :=
  ∃ keys : List LogKey, keys.Nodup ∧ config.maxEntries ≤ keys.length ∧
    ∀ k' ∈ keys, k' ≠ k ∧ ∃ u n, (⟨k', u, .emit n⟩ : Check p) ∈ h ∧ t ≤ u ∧ u ≤ t'

variable {config : LogLimiterConfig}

theorem Crowded.mono {h' : List (Check p)} {t₁ t₂ : Instant p} (hc : Crowded config h k t t₁)
    (hsub : ∀ e ∈ h, e ∈ h') (hle : t₁ ≤ t₂) : Crowded config h' k t t₂ := by
  obtain ⟨keys, hnodup, hlen, hkeys⟩ := hc
  refine ⟨keys, hnodup, hlen, fun k' hk' => ?_⟩
  obtain ⟨hne, u, n, hmem, htu, hut⟩ := hkeys k' hk'
  exact ⟨hne, u, n, hsub _ hmem, htu, hut.trans hle⟩

/-- The last emission of `k`, at `t`, no longer counts at the time of one of the checks. -/
def Gone (config : LogLimiterConfig) (h : List (Check p)) (k : LogKey) (t : Instant p) : Prop :=
  ∃ e ∈ h, config.window ≤ e.now.saturatingDurationSince t ∨ Crowded config h k t e.now

/-- **The invariant of the emissions.** An entry has the time of the last emission of its key, and
where an entry is missing although there was an emission, the emission no longer counts. -/
structure Spaced (config : LogLimiterConfig) (h : List (Check p)) (s : LogLimiterState p) :
    Prop where
  config_eq : s.config = config
  entry : ∀ k entry, s.entries.lookup k = some entry → lastEmit h k = some entry.lastEmittedAt
  gone : ∀ k t, lastEmit h k = some t → s.entries.lookup k = none → Gone config h k t

namespace Spaced

variable {config : LogLimiterConfig} {h : List (Check p)} {s s' : LogLimiterState p} {e : Check p}

/-- An entry that is dropped is two windows old, or as many others were emitted since. -/
theorem of_dropped (hi : Spaced config h s) (ho : Ordered Check.now (e :: h)) {entry : LogEntry p}
    (hdropped : s.Dropped e.now k entry) :
    config.window ≤ e.now.saturatingDurationSince entry.lastEmittedAt ∨
      Crowded config h k entry.lastEmittedAt e.now := by
  obtain ⟨-, hold | ⟨keys, hnodup, hlen, hkeys⟩⟩ := hdropped
  · rw [hi.config_eq] at hold
    exact Or.inl (le_trans (Nat.le_mul_of_pos_right _ Nat.two_pos) (le_of_lt hold))
  · rw [hi.config_eq] at hlen
    refine Or.inr ⟨keys, hnodup, hlen, fun k' hk' => ?_⟩
    obtain ⟨hne, entry', hentry', hle⟩ := hkeys k' hk'
    obtain ⟨n, hmem⟩ := mem_of_lastEmit (hi.entry k' entry' hentry')
    exact ⟨hne, _, n, hmem, hle, ho.le_head hmem⟩

theorem step (hi : Spaced config h s) (ho : Ordered Check.now (e :: h)) (hs : s.Step e s') :
    Spaced config (e :: h) s' := by
  obtain ⟨c, hc⟩ := hs.checked
  obtain ⟨hconfig, entry, hentries, hcases⟩ := hc.entry
  refine ⟨hconfig.trans hi.config_eq, ?_, ?_⟩
  · intro k entry' hk
    rw [hentries, Table.lookup_insert_ite] at hk
    rw [lastEmit_cons]
    by_cases hkey : k = e.key
    · subst hkey
      rw [if_pos rfl] at hk
      cases hk
      rcases hcases with ⟨-, hd, rfl⟩ | ⟨old, hold, ⟨-, hd, rfl⟩ | ⟨hd, rfl⟩⟩
      · simp [Check.emits, hd]
      · simp [Check.emits, hd]
      · have hlast := hi.entry _ old (hc.lookup_before hold)
        simp [Check.emits, hd, hlast]
    · rw [if_neg hkey] at hk
      rw [Check.emits_of_ne hkey]
      exact hi.entry k entry' (hc.lookup_before hk)
  · intro k t hlast hnone
    have hkey : k ≠ e.key := by
      rintro rfl
      rw [hentries, Table.lookup_insert_ite, if_pos rfl] at hnone
      cases hnone
    rw [lastEmit_cons, Check.emits_of_ne hkey] at hlast
    rw [hentries, Table.lookup_insert_ite, if_neg hkey] at hnone
    have hsub : ∀ e' ∈ h, e' ∈ e :: h := fun e' => List.mem_cons_of_mem e
    -- the entry was missing before, or this cleanup has dropped it
    rcases hc.cleaned k with hsame | ⟨-, entry', hentry', hdropped⟩
    · rw [hsame] at hnone
      obtain ⟨e', he', hgone⟩ := hi.gone k t hlast hnone
      exact ⟨e', hsub e' he', hgone.imp_right fun hcrowd => hcrowd.mono hsub le_rfl⟩
    · have htime := hi.entry k entry' hentry'
      rw [show lastEmit h k = some t from hlast] at htime
      cases htime
      exact ⟨e, List.mem_cons_self,
        (hi.of_dropped ho hdropped).imp_right fun hcrowd => hcrowd.mono hsub le_rfl⟩

/-- A check that emits finds the last emission of its key a window ago, or crowded out. -/
theorem emission (hi : Spaced config h s) (ho : Ordered Check.now (e :: h)) (hs : s.Step e s')
    {n : Nat} (hemit : e.decision = .emit n) (hlast : lastEmit h e.key = some t) :
    config.window ≤ e.now.saturatingDurationSince t ∨ Crowded config h e.key t e.now := by
  obtain ⟨c, hc⟩ := hs.checked
  have htime : ∀ {entry : LogEntry p}, s.entries.lookup e.key = some entry →
      entry.lastEmittedAt = t := by
    intro entry hentry
    exact Option.some.inj ((hi.entry _ entry hentry).symm.trans hlast)
  obtain ⟨-, -, -, ⟨hnone, -⟩ | ⟨old, hold, ⟨hwindow, -⟩ | ⟨hd, -⟩⟩⟩ := hc.entry
  · rcases hc.cleaned e.key with hsame | ⟨-, entry, hentry, hdropped⟩
    · -- the entry was gone before this check
      rw [hsame] at hnone
      obtain ⟨e', he', hgone⟩ := hi.gone _ t hlast hnone
      have hle : e'.now ≤ e.now := ho.le_head he'
      exact hgone.imp (fun hwindow => hwindow.trans (Instant.saturatingDurationSince_le hle t))
        fun hcrowd => hcrowd.mono (fun _ h => h) hle
    · -- it is dropped by the cleanup of this check
      rw [← htime hentry]
      exact hi.of_dropped ho hdropped
  · rw [hi.config_eq, htime (hc.lookup_before hold)] at hwindow
    exact Or.inl hwindow
  · cases hemit.symm.trans hd

end Spaced

theorem LimiterRun.spaced (hr : LimiterRun config h s) (ho : Ordered Check.now h) :
    Spaced config h s := by
  refine hr.invariant (P := fun h s => Ordered Check.now h → Spaced config h s) ?_ ?_ ho
  · rintro s ⟨now, rfl⟩ -
    exact ⟨rfl, (fun _ _ hk => nomatch hk), (fun _ _ hlast => nomatch hlast)⟩
  · intro h s e s' _ ih hs ho
    exact (ih ho.tail).step ho hs

theorem LimiterRun.len_le (hr : LimiterRun config h s) (ho : Ordered Check.now h) :
    s.entries.len ≤ config.maxEntries + 1 := by
  cases hr with
  | nil h0 =>
      obtain ⟨now, rfl⟩ := h0
      exact Nat.zero_le _
  | cons hr hs =>
      have hconf := (LimiterRun.spaced hr ho.tail).config_eq
      obtain ⟨c, hc⟩ := LogLimiterState.Step.checked hs
      obtain ⟨-, entry, hentries, -⟩ := hc.entry
      have hlen := hc.len
      rw [hconf] at hlen
      rw [hentries]
      exact (Table.len_insert_le _ _ _).trans (Nat.succ_le_succ hlen)

/-! ## Two emissions of a key -/

theorem lastEmit_of_silent {mid : List (Check p)} (hmid : ∀ e ∈ mid, e.emits k = false)
    (t : Instant p) (n : Nat) (older : List (Check p)) :
    lastEmit (mid ++ ⟨k, t, .emit n⟩ :: older) k = some t := by
  induction mid with
  | nil => simp [lastEmit_cons, Check.emits]
  | cons e mid ih =>
      rw [List.cons_append, lastEmit_cons, hmid e List.mem_cons_self]
      exact ih fun e' he' => hmid e' (List.mem_cons_of_mem _ he')

/-- **The limiter is effective and bounded.** After every check the map has at most one entry more
than its limit. And two successive emissions of a key are a window apart, unless at least
`maxEntries` other keys were emitted in between. -/
theorem emissions_spaced {config : LogLimiterConfig} {h : List (Check p)} {s : LogLimiterState p}
    (hr : LimiterRun config h s) (ho : Ordered Check.now h) :
    s.entries.len ≤ config.maxEntries + 1 ∧
    ∀ (newer mid older : List (Check p)) (k : LogKey) (t₁ t₂ : Instant p) (n₁ n₂ : Nat),
      h = newer ++ ⟨k, t₂, .emit n₂⟩ :: (mid ++ ⟨k, t₁, .emit n₁⟩ :: older) →
      (∀ e ∈ mid, e.emits k = false) →
      config.window ≤ t₂.saturatingDurationSince t₁ ∨ Crowded config h k t₁ t₂ := by
  refine ⟨hr.len_le ho, ?_⟩
  rintro newer mid older k t₁ t₂ n₁ n₂ rfl hmid
  obtain ⟨s₂, hr₂⟩ := hr.of_append
  have ho₂ := ho.of_append
  have hlast := lastEmit_of_silent hmid t₁ n₁ older
  generalize hbefore : mid ++ (⟨k, t₁, .emit n₁⟩ : Check p) :: older = before at hr₂ ho₂ hlast
  cases hr₂ with
  | cons hr₁ hs =>
      have hspaced := (LimiterRun.spaced hr₁ ho₂.tail).emission ho₂ hs rfl hlast
      refine hspaced.imp_right fun hcrowd => hcrowd.mono ?_ le_rfl
      exact fun e he => List.mem_append_right _ (List.mem_cons_of_mem _ he)

/-- The configuration of the unit test. -/
def testLimiterConfig : LogLimiterConfig := { window := Duration.fromSecs 30, maxEntries := 64 }

/-- The key of the unit tests. -/
def testKey : LogKey := { peerIp := some testPeer, category := "auth-failure" }

/-- A check that evicts nothing: the order of the entries does not matter. -/
theorem LogLimiterState.step_of_check
    (h : s.check (s.retained e.now).entries e.key e.now = (e.decision, s')) : s.Step e s' :=
  ⟨_, List.Perm.refl _, h⟩

theorem emissions_spaced_two :
    ∃ s, LimiterRun testLimiterConfig
        [⟨testKey, linuxAt 31, .emit 0⟩, ⟨testKey, linuxAt 0, .emit 0⟩] s ∧
      s.entries.len ≤ testLimiterConfig.maxEntries + 1 ∧
      (testLimiterConfig.window ≤ (linuxAt 31).saturatingDurationSince (linuxAt 0) ∨
        Crowded testLimiterConfig [⟨testKey, linuxAt 31, .emit 0⟩, ⟨testKey, linuxAt 0, .emit 0⟩]
          testKey (linuxAt 0) (linuxAt 31)) := by
  have hnew : LimiterRun testLimiterConfig [] (LogLimiterState.new testLimiterConfig (linuxAt 0)) :=
    .nil ⟨linuxAt 0, rfl⟩
  have hfirst : LimiterRun testLimiterConfig [⟨testKey, linuxAt 0, .emit 0⟩] _ :=
    hnew.cons (LogLimiterState.step_of_check rfl)
  have hrun : LimiterRun testLimiterConfig
      [⟨testKey, linuxAt 31, .emit 0⟩, ⟨testKey, linuxAt 0, .emit 0⟩] _ :=
    hfirst.cons (LogLimiterState.step_of_check rfl)
  have ho : Ordered Check.now
      [(⟨testKey, linuxAt 31, .emit 0⟩ : Check .linux), ⟨testKey, linuxAt 0, .emit 0⟩] :=
    List.pairwise_pair.mpr (by decide)
  obtain ⟨hlen, hspaced⟩ := emissions_spaced hrun ho
  exact ⟨_, hrun, hlen,
    hspaced [] [] [] testKey (linuxAt 0) (linuxAt 31) 0 0 rfl (fun _ h => nomatch h)⟩

end Narrowd.Logging
