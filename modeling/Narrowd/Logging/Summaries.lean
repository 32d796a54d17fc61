import Mathlib.Data.Finset.Card
import Narrowd.Logging.Limiter

set_option autoImplicit false

/-! # The summaries of the log limiter

An emitted warning reports how many of its kind were suppressed since the last one. The count is
kept in the entry of the key, and a cleanup drops entries that are older than two windows, whatever
they have counted. A key that is checked again only later starts with a new entry, and its summary
misses what was suppressed (`summary_lost_by_cleanup`).

With few enough keys nothing else drops an entry; so the summaries are complete in every run in
which no cleanup finds an old entry with a count (`summaries_complete`).
-/

namespace Narrowd.Logging

open Narrowd.Lib Narrowd.Admission

variable {p : Platform}

/-- The number of suppressed checks of `k` since its last emission. -/
def suppressedSince (h : List (Check p)) (k : LogKey) : Nat :=
  (h.takeWhile fun e => !e.emits k).countP (Check.suppresses k)

theorem suppressedSince_cons (e : Check p) (h : List (Check p)) (k : LogKey) :
    suppressedSince (e :: h) k
      = if e.emits k then 0 else suppressedSince h k + if e.suppresses k then 1 else 0 := by
  unfold suppressedSince
  rw [List.takeWhile_cons]
  cases e.emits k with
  | true => rfl
  | false =>
      simp only [Bool.not_false, if_true, Bool.false_eq_true, if_false]
      exact List.countP_cons

variable {k : LogKey}

/-- A check of another key does not change the number. -/
theorem suppressedSince_of_ne {e : Check p} (hk : k ≠ e.key) (h : List (Check p)) :
    suppressedSince (e :: h) k = suppressedSince h k := by
  rw [suppressedSince_cons, Check.emits_of_ne hk]
  simp [Check.suppresses, Ne.symm hk]

/-- If a cleanup is due, no entry that has counted something is older than it keeps entries. -/
def SparesCounts (s : LogLimiterState p) (e : Check p) : Prop :=
  s.cleanupDue e.now = true → ∀ k entry, s.entries.lookup k = some entry → 0 < entry.suppressed →
    e.now.saturatingDurationSince entry.lastEmittedAt ≤ s.retention

/-- The runs whose cleanups drop no count. -/
abbrev SparingRun (config : LogLimiterConfig) : List (Check p) → LogLimiterState p → Prop :=
  Run (fun s => ∃ now, s = LogLimiterState.new config now)
    (restrict LogLimiterState.Step SparesCounts)

/-- The keys of a history. -/
def keysOf (h : List (Check p)) : Finset LogKey := (h.map Check.key).toFinset

theorem mem_keysOf_cons {e : Check p} {h : List (Check p)} :
    k ∈ keysOf (e :: h) ↔ k = e.key ∨ k ∈ keysOf h := by
  simp [keysOf]

theorem card_keysOf_tail_le (e : Check p) (h : List (Check p)) :
    (keysOf h).card ≤ (keysOf (e :: h)).card :=
  Finset.card_le_card fun _ hk => mem_keysOf_cons.mpr (Or.inr hk)

/-! ## The invariant -/

/-- **The invariant of the counts.** An entry counts the suppressed checks of its key, as far as a
`usize` can; a key without an entry has none to count. -/
structure Counted (config : LogLimiterConfig) (h : List (Check p)) (s : LogLimiterState p) :
    Prop where
  config_eq : s.config = config
  entry : ∀ k entry, s.entries.lookup k = some entry →
    k ∈ keysOf h ∧ entry.suppressed = min (suppressedSince h k) u64Max
  absent : ∀ k, s.entries.lookup k = none → suppressedSince h k = 0

namespace Counted

variable {config : LogLimiterConfig} {h : List (Check p)} {s c s' : LogLimiterState p} {e : Check p}

/-- An entry that is dropped has counted nothing: it would have been spared for its age, and there
are not enough keys to evict it. -/
theorem of_dropped (hi : Counted config h s) (hkeys : (keysOf h).card ≤ config.maxEntries)
    (hspares : SparesCounts s e) {entry : LogEntry p} (hentry : s.entries.lookup k = some entry)
    (hdropped : s.Dropped e.now k entry) : suppressedSince h k = 0 := by
  obtain ⟨hdue, hold | ⟨keys, hnodup, hlen, hothers⟩⟩ := hdropped
  · have hzero : entry.suppressed = 0 := by
      by_contra hpos
      have hspared := hspares hdue k entry hentry (Nat.pos_of_ne_zero hpos)
      have hle : s.retention ≤ s.config.window * 2 := min_le_left _ _
      exact absurd (hspared.trans hle) (not_le.mpr hold)
    have hcount := (hi.entry k entry hentry).2
    rw [hzero] at hcount
    unfold u64Max at hcount
    omega
  · exfalso
    rw [hi.config_eq] at hlen
    have hfresh : k ∉ keys := fun hmem => (hothers k hmem).1 rfl
    have hsub : (k :: keys).toFinset ⊆ keysOf h := by
      intro k' hk'
      rcases List.mem_cons.mp (List.mem_toFinset.mp hk') with rfl | hmem
      · exact (hi.entry k' entry hentry).1
      · obtain ⟨-, entry', hentry', -⟩ := hothers k' hmem
        exact (hi.entry k' entry' hentry').1
    have hcard := Finset.card_le_card hsub
    rw [List.toFinset_card_of_nodup (List.nodup_cons.mpr ⟨hfresh, hnodup⟩),
      List.length_cons] at hcard
    omega

/-- A key without an entry after the cleanup has nothing to count. -/
theorem absent_cleaned (hi : Counted config h s) (hkeys : (keysOf h).card ≤ config.maxEntries)
    (hspares : SparesCounts s e) (hc : s.Checked e c s') (hnone : c.entries.lookup k = none) :
    suppressedSince h k = 0 := by
  rcases hc.cleaned k with hsame | ⟨-, entry, hentry, hdropped⟩
  · exact hi.absent k (hsame ▸ hnone)
  · exact hi.of_dropped hkeys hspares hentry hdropped

theorem step (hi : Counted config h s) (hkeys : (keysOf h).card ≤ config.maxEntries)
    (hspares : SparesCounts s e) (hs : s.Step e s') : Counted config (e :: h) s' := by
  obtain ⟨c, hc⟩ := hs.checked
  obtain ⟨hconfig, entry, hentries, hcases⟩ := hc.entry
  refine ⟨hconfig.trans hi.config_eq, ?_, ?_⟩
  · intro k entry' hk
    rw [hentries, Table.lookup_insert_ite] at hk
    by_cases hkey : k = e.key
    · subst hkey
      rw [if_pos rfl] at hk
      cases hk
      refine ⟨mem_keysOf_cons.mpr (Or.inl rfl), ?_⟩
      rw [suppressedSince_cons]
      rcases hcases with ⟨-, hd, rfl⟩ | ⟨old, hold, ⟨-, hd, rfl⟩ | ⟨hd, rfl⟩⟩
      · simp [Check.emits, hd]
      · simp [Check.emits, hd]
      · have hcount := (hi.entry _ old (hc.lookup_before hold)).2
        have hemits : e.emits e.key = false := by simp [Check.emits, hd]
        have hsuppresses : e.suppresses e.key = true := by simp [Check.suppresses, hd]
        rw [hemits, hsuppresses]
        simp only [hcount, Bool.false_eq_true, if_false, if_true]
        omega
    · rw [if_neg hkey] at hk
      rw [suppressedSince_of_ne hkey]
      obtain ⟨hmem, hcount⟩ := hi.entry k entry' (hc.lookup_before hk)
      exact ⟨mem_keysOf_cons.mpr (Or.inr hmem), hcount⟩
  · intro k hnone
    have hkey : k ≠ e.key := by
      rintro rfl
      rw [hentries, Table.lookup_insert_ite, if_pos rfl] at hnone
      cases hnone
    rw [hentries, Table.lookup_insert_ite, if_neg hkey] at hnone
    rw [suppressedSince_of_ne hkey]
    exact hi.absent_cleaned hkeys hspares hc hnone

end Counted

theorem SparingRun.counted {config : LogLimiterConfig} {h : List (Check p)} {s : LogLimiterState p}
    (hr : SparingRun config h s) (hkeys : (keysOf h).card ≤ config.maxEntries) :
    Counted config h s := by
  refine hr.invariant
    (P := fun h s => (keysOf h).card ≤ config.maxEntries → Counted config h s) ?_ ?_ hkeys
  · rintro s ⟨now, rfl⟩ -
    exact ⟨rfl, (fun _ _ hk => nomatch hk), fun _ _ => rfl⟩
  · rintro h s e s' - ih ⟨hs, hspares⟩ hkeys
    have hbefore := (card_keysOf_tail_le e h).trans hkeys
    exact (ih hbefore).step hbefore hspares hs

/-- **The summaries are complete** in every run over at most `maxEntries` keys in which no cleanup
finds an entry that is older than two windows and has counted something: an emission reports the
number of checks that were suppressed since the last one, as long as a `usize` can hold it. -/
theorem summaries_complete {config : LogLimiterConfig} {h : List (Check p)}
    {s : LogLimiterState p} (hr : SparingRun config h s)
    (hkeys : (keysOf h).card ≤ config.maxEntries) :
    ∀ (newer older : List (Check p)) (k : LogKey) (t : Instant p) (n : Nat),
      h = newer ++ ⟨k, t, .emit n⟩ :: older → suppressedSince older k < 2 ^ 64 →
      n = suppressedSince older k := by
  rintro newer older k t n rfl hfew
  obtain ⟨s₂, hr₂⟩ := hr.of_append
  have hsub : keysOf older ⊆ keysOf (newer ++ ⟨k, t, .emit n⟩ :: older) := by
    intro k' hk'
    simp only [keysOf, List.map_append, List.map_cons, List.toFinset_append, List.toFinset_cons,
      Finset.mem_union, Finset.mem_insert] at hk' ⊢
    exact Or.inr (Or.inr hk')
  have hbefore := (Finset.card_le_card hsub).trans hkeys
  cases hr₂ with
  | cons hr₁ hs =>
      obtain ⟨hstep, hspares⟩ := hs
      have hi := SparingRun.counted hr₁ hbefore
      obtain ⟨c, hc⟩ := LogLimiterState.Step.checked hstep
      obtain ⟨-, -, -, ⟨hnone, hd, -⟩ | ⟨old, hold, ⟨-, hd, -⟩ | ⟨hd, -⟩⟩⟩ := hc.entry
      · cases hd
        exact (hi.absent_cleaned hbefore hspares hc hnone).symm
      · cases hd
        have hcount := (hi.entry k old (hc.lookup_before hold)).2
        unfold u64Max at hcount
        omega
      · cases hd

/-- The limiter after a warning, with so many more suppressed. -/
def afterWarning (suppressed : Nat) : LogLimiterState .linux :=
  { config := testLimiterConfig
    entries := AList.singleton testKey { lastEmittedAt := linuxAt 0, suppressed := suppressed }
    lastCleanup := linuxAt 0 }

theorem step_to_afterWarning :
    LogLimiterState.Step (.new testLimiterConfig (linuxAt 0)) ⟨testKey, linuxAt 0, .emit 0⟩
      (afterWarning 0) := LogLimiterState.step_of_check rfl

theorem step_to_afterSuppressed :
    LogLimiterState.Step (afterWarning 0) ⟨testKey, linuxAt 1, .suppress⟩ (afterWarning 1) :=
  LogLimiterState.step_of_check rfl

/-- The unit test: a warning, one that is suppressed a second later, and one after the window. -/
theorem summaries_complete_unit_test :
    ∃ s, SparingRun testLimiterConfig
        [⟨testKey, linuxAt 31, .emit 1⟩, ⟨testKey, linuxAt 1, .suppress⟩,
          ⟨testKey, linuxAt 0, .emit 0⟩] s ∧
      1 = suppressedSince
        [(⟨testKey, linuxAt 1, .suppress⟩ : Check .linux), ⟨testKey, linuxAt 0, .emit 0⟩]
          testKey := by
  have hnew : SparingRun testLimiterConfig [] (.new testLimiterConfig (linuxAt 0)) :=
    .nil ⟨linuxAt 0, rfl⟩
  have hfirst := hnew.cons ⟨step_to_afterWarning, fun _ _ _ hk => nomatch hk⟩
  have hsecond := hfirst.cons ⟨step_to_afterSuppressed, fun hdue => nomatch hdue⟩
  have hspares : SparesCounts (afterWarning 1) ⟨testKey, linuxAt 31, .emit 1⟩ := by
    intro _ k entry hk _
    obtain ⟨rfl, hentry⟩ :
        k = testKey ∧ entry = { lastEmittedAt := linuxAt 0, suppressed := 1 } := by
      have hmem : Sigma.mk k entry ∈ (afterWarning 1).entries.entries := AList.mem_lookup_iff.mp hk
      cases List.mem_singleton.mp hmem
      exact ⟨rfl, rfl⟩
    rw [hentry]
    decide
  have hrun : SparingRun testLimiterConfig _ _ :=
    hsecond.cons (e := ⟨testKey, linuxAt 31, .emit 1⟩)
      ⟨LogLimiterState.step_of_check rfl, hspares⟩
  exact ⟨_, hrun, summaries_complete hrun (by decide) [] _ testKey (linuxAt 31) 1 rfl (by decide)⟩

/-- **A summary that is lost.** A warning, one that is suppressed a second later, and the next one
more than two windows after the first: the cleanup drops the entry with its count, and the warning
is emitted without a summary. -/
theorem summary_lost_by_cleanup :
    ∃ s, LimiterRun testLimiterConfig
        [⟨testKey, linuxAt 70, .emit 0⟩, ⟨testKey, linuxAt 1, .suppress⟩,
          ⟨testKey, linuxAt 0, .emit 0⟩] s ∧
      suppressedSince
        [(⟨testKey, linuxAt 1, .suppress⟩ : Check .linux), ⟨testKey, linuxAt 0, .emit 0⟩] testKey
          = 1 := by
  have hnew : LimiterRun testLimiterConfig [] (.new testLimiterConfig (linuxAt 0)) :=
    .nil ⟨linuxAt 0, rfl⟩
  have hsecond := (hnew.cons step_to_afterWarning).cons step_to_afterSuppressed
  exact ⟨_, hsecond.cons (LogLimiterState.step_of_check rfl), by decide⟩

end Narrowd.Logging
