import Mathlib.Logic.Function.Basic
import Narrowd.Lib.Table

set_option autoImplicit false

/-! # Registries of one-shot receivers

Callers that wait for a response register the sender of a one-shot channel under a key; whoever
has the response for a key takes the sender out and uses it. A sender that leaves the table
unused tells its receiver so. The senders are given by the callers they belong to.

`Registry.Step` has the operations on such a table: a caller registers, a caller gives up its
key, a response is delivered under a key, all senders are answered at once, a caller takes what
it was answered. The invariant `Registry.Inv` ties the table to the receivers: a receiver that
still waits is the one registered under its key, whatever keys have been used twice.
-/

namespace Narrowd.Lib

open Function

/-- A one-shot channel, as its receiver sees it. -/
inductive Slot (R : Type*)
  | empty
  | filled (response : R)
  /-- The sender is gone without an answer. -/
  | dropped
  deriving DecidableEq

/-- Where a caller stands: it has not registered yet, it has registered under a key, or it is
done. -/
inductive Phase (K : Type*)
  | before
  | waiting (key : K)
  | after
  deriving DecidableEq

/-- The table, the receivers and the callers. -/
structure Registry (K C R : Type*) where
  pending : Table K C
  slots : C → Slot R
  phase : C → Phase K

namespace Registry

variable {K C R : Type*} [DecidableEq C]

/-- A sender that is taken out of the table and not used. -/
def dropSender (slots : C → Slot R) : Option C → C → Slot R
  | none => slots
  | some owner => update slots owner .dropped

/-- Every sender in the table is used for the same response. -/
def answerAll (pending : Table K C) (slots : C → Slot R) (response : R) : C → Slot R :=
  fun c => if pending.entries.any (fun entry => entry.2 == c) then .filled response else slots c

variable [DecidableEq K]

/-- **The operations.** -/
inductive Step : Registry K C R → Registry K C R → Prop
  /-- A caller registers; a sender that stood under the same key is dropped. -/
  | register {r : Registry K C R} {c : C} {k : K} (hc : r.phase c = .before) :
      Step r ⟨r.pending.insert k c, dropSender r.slots (r.pending.lookup k),
        update r.phase c (.waiting k)⟩
  /-- A caller gives up, and with it whatever stands under its key. -/
  | retire {r : Registry K C R} {c : C} {k : K} (hc : r.phase c = .waiting k) :
      Step r ⟨r.pending.erase k, dropSender r.slots (r.pending.lookup k),
        update r.phase c .after⟩
  | deliver {r : Registry K C R} {c : C} {k : K} {response : R}
      (hk : r.pending.lookup k = some c) :
      Step r ⟨r.pending.erase k, update r.slots c (.filled response), r.phase⟩
  | drain {r : Registry K C R} {response : R} :
      Step r ⟨∅, answerAll r.pending r.slots response, r.phase⟩
  /-- A caller takes what its receiver has got. -/
  | take {r : Registry K C R} {c : C} (hc : r.slots c ≠ .empty) :
      Step r ⟨r.pending, r.slots, update r.phase c .after⟩
  | idle {r : Registry K C R} : Step r r

/-- **The invariant.** A registered sender's receiver waits under that key; a receiver that waits
without an answer is registered; one that has not registered has got nothing. -/
structure Inv (r : Registry K C R) : Prop where
  owner : ∀ k c, r.pending.lookup k = some c → r.phase c = .waiting k ∧ r.slots c = .empty
  held : ∀ k c, r.phase c = .waiting k → r.slots c = .empty → r.pending.lookup k = some c
  fresh : ∀ c, r.phase c = .before → r.slots c = .empty

/-! ## What the operations do to a receiver -/

variable {c : C} {slots : C → Slot R} {o : Option C}

theorem dropSender_eq_empty_iff :
    dropSender slots o c = .empty ↔ slots c = .empty ∧ o ≠ some c := by
  cases o with
  | none => simp [dropSender]
  | some owner =>
      by_cases h : c = owner
      · subst h
        simp [dropSender]
      · have hne : owner ≠ c := fun heq => h heq.symm
        simp [dropSender, h, hne]

variable {response : R}

theorem dropSender_eq_filled (h : dropSender slots o c = .filled response) :
    slots c = .filled response := by
  cases o with
  | none => exact h
  | some owner =>
      by_cases hc : c = owner
      · subst hc
        simp [dropSender] at h
      · simpa [dropSender, hc] using h

theorem dropSender_eq_dropped (h : dropSender slots o c = .dropped) :
    slots c = .dropped ∨ o = some c := by
  cases o with
  | none => exact Or.inl h
  | some owner =>
      by_cases hc : c = owner
      · exact Or.inr (congrArg some hc.symm)
      · simp only [dropSender, update_of_ne hc] at h
        exact Or.inl h

variable {pending : Table K C}

theorem any_owner_iff :
    pending.entries.any (fun entry => entry.2 == c) = true ↔ ∃ k, pending.lookup k = some c := by
  rw [List.any_eq_true]
  constructor
  · rintro ⟨⟨k, c'⟩, hmem, heq⟩
    have hc : c' = c := by simpa using heq
    subst hc
    exact ⟨k, AList.mem_lookup_iff.mpr hmem⟩
  · rintro ⟨k, hk⟩
    exact ⟨⟨k, c⟩, AList.mem_lookup_iff.mp hk, by simp⟩

theorem answerAll_of_owner {k : K} (hk : pending.lookup k = some c) :
    answerAll pending slots response c = .filled response := by
  rw [answerAll, if_pos (any_owner_iff.mpr ⟨k, hk⟩)]

theorem answerAll_of_no_owner (hk : ∀ k, pending.lookup k ≠ some c) :
    answerAll pending slots response c = slots c := by
  rw [answerAll, if_neg]
  rw [any_owner_iff]
  rintro ⟨k, h⟩
  exact hk k h

/-! ## The invariant over the operations -/

section

variable {r r' : Registry K C R}

theorem Inv.register (hi : Inv r) {k : K} (hc : r.phase c = .before) :
    Inv (⟨r.pending.insert k c, dropSender r.slots (r.pending.lookup k),
      update r.phase c (.waiting k)⟩ : Registry K C R) where
  owner k' c' h := by
    simp only [Table.lookup_insert_ite] at h
    split at h
    · next hk =>
        cases h
        subst hk
        refine ⟨update_self .., dropSender_eq_empty_iff.mpr ⟨hi.fresh c hc, ?_⟩⟩
        intro hold
        have := (hi.owner k' c hold).1
        rw [hc] at this
        cases this
    · next hk =>
        obtain ⟨hphase, hslot⟩ := hi.owner k' c' h
        have hne : c' ≠ c := by
          rintro rfl
          rw [hc] at hphase
          cases hphase
        refine ⟨by simp only [update_of_ne hne, hphase],
          dropSender_eq_empty_iff.mpr ⟨hslot, ?_⟩⟩
        -- the sender that is dropped waits under another key
        intro hold
        have hsame := (hi.owner k c' hold).1
        rw [hphase] at hsame
        cases hsame
        exact hk rfl
  held k' c' hphase hslot := by
    obtain ⟨hslot, hold⟩ := dropSender_eq_empty_iff.mp hslot
    simp only [Table.lookup_insert_ite]
    by_cases hne : c' = c
    · subst hne
      simp only [update_self] at hphase
      cases hphase
      rw [if_pos rfl]
    · simp only [update_of_ne hne] at hphase
      have hlookup := hi.held k' c' hphase hslot
      rw [if_neg, hlookup]
      rintro rfl
      exact hold hlookup
  fresh c' hphase := by
    have hne : c' ≠ c := by
      rintro rfl
      simp only [update_self] at hphase
      cases hphase
    simp only [update_of_ne hne] at hphase
    refine dropSender_eq_empty_iff.mpr ⟨hi.fresh c' hphase, ?_⟩
    intro hold
    have := (hi.owner k c' hold).1
    rw [hphase] at this
    cases this

omit [DecidableEq C] in
/-- Once a key is given up, no sender under another one is touched. -/
theorem Inv.erase (hi : Inv r) {k : K}
    (hslots : ∀ c, slots c = .empty ↔ r.slots c = .empty ∧ r.pending.lookup k ≠ some c) :
    Inv (⟨r.pending.erase k, slots, r.phase⟩ : Registry K C R) where
  owner k' c' h := by
    simp only [Table.lookup_erase_ite] at h
    split at h
    · cases h
    · next hk =>
        obtain ⟨hphase, hslot⟩ := hi.owner k' c' h
        refine ⟨hphase, (hslots c').mpr ⟨hslot, ?_⟩⟩
        intro hold
        have hsame := (hi.owner k c' hold).1
        rw [hphase] at hsame
        cases hsame
        exact hk rfl
  held k' c' hphase hslot := by
    obtain ⟨hslot, hold⟩ := (hslots c').mp hslot
    have hlookup := hi.held k' c' hphase hslot
    simp only [Table.lookup_erase_ite]
    rw [if_neg, hlookup]
    rintro rfl
    exact hold hlookup
  fresh c' hphase := by
    refine (hslots c').mpr ⟨hi.fresh c' hphase, ?_⟩
    intro hold
    have := (hi.owner k c' hold).1
    rw [hphase] at this
    cases this

theorem Inv.drain (hi : Inv r) (response : R) :
    Inv (⟨∅, answerAll r.pending r.slots response, r.phase⟩ : Registry K C R) where
  owner k c h := by
    rw [AList.lookup_empty] at h
    cases h
  held k c hphase hslot := by
    change answerAll r.pending r.slots response c = .empty at hslot
    by_cases hempty : r.slots c = .empty
    · rw [answerAll_of_owner (hi.held k c hphase hempty)] at hslot
      cases hslot
    · rw [answerAll_of_no_owner] at hslot
      · exact absurd hslot hempty
      · intro k' hk'
        exact hempty (hi.owner k' c hk').2
  fresh c hphase := by
    show answerAll r.pending r.slots response c = .empty
    rw [answerAll_of_no_owner]
    · exact hi.fresh c hphase
    · intro k hk
      have := (hi.owner k c hk).1
      rw [hphase] at this
      cases this

/-- A caller whose receiver has got something is registered nowhere, so that it may leave. -/
theorem Inv.take (hi : Inv r) (hc : r.slots c ≠ .empty) :
    Inv (⟨r.pending, r.slots, update r.phase c .after⟩ : Registry K C R) where
  owner k c' h := by
    obtain ⟨hphase, hslot⟩ := hi.owner k c' h
    have hne : c' ≠ c := by
      rintro rfl
      exact hc hslot
    exact ⟨by simp only [update_of_ne hne, hphase], hslot⟩
  held k c' hphase hslot := by
    have hne : c' ≠ c := by
      rintro rfl
      exact hc hslot
    simp only [update_of_ne hne] at hphase
    exact hi.held k c' hphase hslot
  fresh c' hphase := by
    have hne : c' ≠ c := by
      rintro rfl
      simp only [update_self] at hphase
      cases hphase
    simp only [update_of_ne hne] at hphase
    exact hi.fresh c' hphase

/-- **Every operation keeps the invariant.** -/
theorem Inv.step (hi : Inv r) (hs : Step r r') : Inv r' := by
  cases hs with
  | register hc => exact hi.register hc
  | @retire c k hc =>
      have herased : Inv (⟨r.pending.erase k, dropSender r.slots (r.pending.lookup k),
          r.phase⟩ : Registry K C R) := hi.erase (fun _ => dropSender_eq_empty_iff)
      refine herased.take ?_
      intro hempty
      obtain ⟨hslot, hold⟩ := dropSender_eq_empty_iff.mp hempty
      exact hold (hi.held k c hc hslot)
  | @deliver c k response hk =>
      apply hi.erase
      intro c'
      by_cases hne : c' = c
      · subst hne
        simp [hk]
      · have hne' : c ≠ c' := fun h => hne h.symm
        simp [hk, hne, hne']
  | drain => exact hi.drain _
  | take hc => exact hi.take hc
  | idle => exact hi

/-- **A receiver that has got something keeps it.** -/
theorem Step.slot_ne_empty (hs : Step r r') (hc : r.slots c ≠ .empty) : r'.slots c ≠ .empty := by
  have hdrop : ∀ o, dropSender r.slots o c ≠ .empty :=
    fun o h => hc (dropSender_eq_empty_iff.mp h).1
  cases hs with
  | register => exact hdrop _
  | retire => exact hdrop _
  | @deliver owner k response hk =>
      by_cases hne : c = owner
      · subst hne
        simp
      · simpa [hne] using hc
  | drain =>
      simp only [answerAll]
      split
      · simp
      · exact hc
  | take => exact hc
  | idle => exact hc

end

end Registry

end Narrowd.Lib
