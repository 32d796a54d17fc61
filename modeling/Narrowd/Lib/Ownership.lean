import Mathlib.Data.Set.Insert
import Mathlib.Data.List.Nodup
import Mathlib.Logic.Function.Basic

set_option autoImplicit false

/-! # Owners of registered resources

Resources stand in a register, and each of them belongs to a holder who can give it up. A holder may
also leave; then what it holds is released, and waits for somebody else to give it up.

`Ownership.Move` has the operations: a holder enters a resource, a holder gives one up, some holders
leave, a released resource is given up. None of them gives a resource to two owners
(`Ownership.Exclusive`). Where a holder enters a resource only when it has none, they lose none
either (`Ownership.Inv`): what is registered is held by exactly one holder, or waits once among the
released.
-/

namespace Narrowd.Lib

open Function

/-- What each holder has, what has been released, and what is registered. -/
@[ext]
structure Ownership (K T : Type*) where
  held : K → Option T
  released : List T
  registered : Set T

namespace Ownership

variable {K T : Type*}

/-- What has an owner is registered, and has no other owner. -/
structure Exclusive (o : Ownership K T) : Prop where
  registered : ∀ t, (∃ k, o.held k = some t) ∨ t ∈ o.released → t ∈ o.registered
  holder : ∀ k k' t, o.held k = some t → o.held k' = some t → k = k'
  apart : ∀ k t, o.held k = some t → t ∉ o.released
  nodup : o.released.Nodup

/-- **The invariant.** -/
structure Inv (o : Ownership K T) : Prop where
  registered : ∀ t, t ∈ o.registered ↔ (∃ k, o.held k = some t) ∨ t ∈ o.released
  holder : ∀ k k' t, o.held k = some t → o.held k' = some t → k = k'
  apart : ∀ k t, o.held k = some t → t ∉ o.released
  nodup : o.released.Nodup

variable {t : T} {held : K → Option T}

section

variable {o : Ownership K T}

theorem Inv.exclusive (hi : Inv o) : Exclusive o where
  registered t := (hi.registered t).mpr
  holder := hi.holder
  apart := hi.apart
  nodup := hi.nodup

/-- What is owned exclusively and never lost. -/
theorem Exclusive.inv (he : Exclusive o)
    (howned : ∀ t, t ∈ o.registered → (∃ k, o.held k = some t) ∨ t ∈ o.released) : Inv o where
  registered t := ⟨howned t, he.registered t⟩
  holder := he.holder
  apart := he.apart
  nodup := he.nodup

/-- When nothing waits, every registered resource has its one holder. -/
theorem Inv.existsUnique_holder (hi : Inv o) (hnone : o.released = []) (ht : t ∈ o.registered) :
    ∃! k, o.held k = some t := by
  rcases (hi.registered t).mp ht with ⟨k, hk⟩ | hreleased
  · exact ⟨k, hk, fun k' hk' => hi.holder k' k t hk' hk⟩
  · rw [hnone] at hreleased
    cases hreleased

/-! ## The operations give nothing to two owners -/

/-- What is held when some holders have left. -/
theorem held_leave {gone : K → Prop} (hkeep : ∀ k, ¬ gone k → held k = o.held k)
    (hgone : ∀ k, gone k → held k = none) (k : K) (t : T) :
    held k = some t ↔ ¬ gone k ∧ o.held k = some t := by
  by_cases h : gone k
  · simp [hgone k h, h]
  · simp [hkeep k h, h]

theorem Exclusive.leave (he : Exclusive o) {gone : K → Prop} {ts : List T}
    (hkeep : ∀ k, ¬ gone k → held k = o.held k) (hgone : ∀ k, gone k → held k = none)
    (hts : ∀ t, t ∈ ts ↔ ∃ k, gone k ∧ o.held k = some t) (hnodup : ts.Nodup) :
    Exclusive (⟨held, o.released ++ ts, o.registered⟩ : Ownership K T) := by
  have hiff := held_leave hkeep hgone
  refine ⟨fun t => ?_, ?_, ?_, ?_⟩
  · simp only [List.mem_append, hts t, hiff]
    rintro (⟨k, -, hk⟩ | hreleased | ⟨k, -, hk⟩)
    · exact he.registered t (Or.inl ⟨k, hk⟩)
    · exact he.registered t (Or.inr hreleased)
    · exact he.registered t (Or.inl ⟨k, hk⟩)
  · intro k k' t h h'
    exact he.holder k k' t ((hiff k t).mp h).2 ((hiff k' t).mp h').2
  · intro k t h hmem
    obtain ⟨hstays, hk⟩ := (hiff k t).mp h
    rcases List.mem_append.mp hmem with hreleased | hleft
    · exact he.apart k t hk hreleased
    · obtain ⟨k', hleaves, hk'⟩ := (hts t).mp hleft
      exact hstays (he.holder k k' t hk hk' ▸ hleaves)
  · refine List.nodup_append.mpr ⟨he.nodup, hnodup, ?_⟩
    rintro t hreleased t' hleft rfl
    obtain ⟨k, -, hk⟩ := (hts t).mp hleft
    exact he.apart k t hk hreleased

/-- What waits when one of the released resources is taken out. -/
theorem mem_released {before after : List T} (h : o.released = before ++ t :: after) (t' : T) :
    t' ∈ o.released ↔ t' = t ∨ t' ∈ before ++ after := by
  rw [h]
  simp only [List.mem_append, List.mem_cons]
  tauto

theorem Exclusive.finish (he : Exclusive o) {before after : List T}
    (h : o.released = before ++ t :: after) :
    Exclusive ⟨o.held, before ++ after, o.registered \ {t}⟩ := by
  have hnodup := he.nodup
  rw [h, List.nodup_middle, List.nodup_cons] at hnodup
  obtain ⟨honce, hrest⟩ := hnodup
  have hiff := mem_released h
  refine ⟨fun t' => ?_, he.holder, ?_, hrest⟩
  · rintro (⟨k, hk⟩ | hlater)
    · refine ⟨he.registered t' (Or.inl ⟨k, hk⟩), ?_⟩
      rintro rfl
      exact he.apart k t' hk ((hiff t').mpr (Or.inl rfl))
    · refine ⟨he.registered t' (Or.inr ((hiff t').mpr (Or.inr hlater))), ?_⟩
      rintro rfl
      exact honce hlater
  · intro k t' hk hlater
    exact he.apart k t' hk ((hiff t').mpr (Or.inr hlater))

variable [DecidableEq K]

theorem Exclusive.enter (he : Exclusive o) {k : K} (ht : t ∉ o.registered) :
    Exclusive ⟨update o.held k (some t), o.released, insert t o.registered⟩ := by
  have hcases : ∀ k' t', update o.held k (some t) k' = some t' →
      (k' = k ∧ t' = t) ∨ (k' ≠ k ∧ o.held k' = some t') := by
    intro k' t' h
    by_cases hne : k' = k
    · subst hne
      rw [update_self] at h
      exact Or.inl ⟨rfl, (Option.some.inj h).symm⟩
    · rw [update_of_ne hne] at h
      exact Or.inr ⟨hne, h⟩
  -- nobody had the new resource
  have hnew : ∀ k', o.held k' ≠ some t := fun k' h => ht (he.registered t (Or.inl ⟨k', h⟩))
  refine ⟨fun t' => ?_, ?_, ?_, he.nodup⟩
  · rw [Set.mem_insert_iff]
    rintro (⟨k', hk'⟩ | hreleased)
    · rcases hcases k' t' hk' with ⟨-, rfl⟩ | ⟨-, hold⟩
      · exact Or.inl rfl
      · exact Or.inr (he.registered t' (Or.inl ⟨k', hold⟩))
    · exact Or.inr (he.registered t' (Or.inr hreleased))
  · intro k₁ k₂ t' h₁ h₂
    rcases hcases k₁ t' h₁ with ⟨rfl, rfl⟩ | ⟨-, hold₁⟩
    · rcases hcases k₂ _ h₂ with ⟨rfl, -⟩ | ⟨-, hold₂⟩
      · rfl
      · exact absurd hold₂ (hnew k₂)
    · rcases hcases k₂ t' h₂ with ⟨-, rfl⟩ | ⟨-, hold₂⟩
      · exact absurd hold₁ (hnew k₁)
      · exact he.holder k₁ k₂ t' hold₁ hold₂
  · intro k' t' h hreleased
    rcases hcases k' t' h with ⟨-, rfl⟩ | ⟨-, hold⟩
    · exact ht (he.registered t' (Or.inr hreleased))
    · exact he.apart k' t' hold hreleased

/-- What is held when one holder has given up its resource. -/
theorem Exclusive.held_giveUp (he : Exclusive o) {k : K} (hk : o.held k = some t)
    (k' : K) (t' : T) :
    update o.held k none k' = some t' ↔ o.held k' = some t' ∧ t' ≠ t := by
  by_cases hne : k' = k
  · subst hne
    rw [update_self, hk]
    simp [eq_comm]
  · rw [update_of_ne hne]
    refine ⟨fun h => ⟨h, ?_⟩, And.left⟩
    rintro rfl
    exact hne (he.holder k' k t' h hk)

theorem Exclusive.giveUp (he : Exclusive o) {k : K} (hk : o.held k = some t) :
    Exclusive ⟨update o.held k none, o.released, o.registered \ {t}⟩ := by
  have hiff := he.held_giveUp hk
  refine ⟨fun t' => ?_, ?_, ?_, he.nodup⟩
  · simp only [hiff]
    rintro (⟨k', hk', hne⟩ | hreleased)
    · exact ⟨he.registered t' (Or.inl ⟨k', hk'⟩), hne⟩
    · refine ⟨he.registered t' (Or.inr hreleased), ?_⟩
      rintro rfl
      exact he.apart k t' hk hreleased
  · intro k₁ k₂ t' h₁ h₂
    exact he.holder k₁ k₂ t' ((hiff k₁ t').mp h₁).1 ((hiff k₂ t').mp h₂).1
  · intro k' t' h
    exact he.apart k' t' ((hiff k' t').mp h).1

end

variable [DecidableEq K]

/-- **The operations**, where a resource may be entered if `E` allows it. -/
inductive Move (E : K → T → Prop) : Ownership K T → Ownership K T → Prop
  | idle {o : Ownership K T} : Move E o o
  /-- A new resource, in the place of what the holder has. -/
  | enter {o : Ownership K T} {k : K} {t : T} (hk : E k t) (ht : t ∉ o.registered) :
      Move E o ⟨update o.held k (some t), o.released, insert t o.registered⟩
  | giveUp {o : Ownership K T} {k : K} {t : T} (hk : o.held k = some t) :
      Move E o ⟨update o.held k none, o.released, o.registered \ {t}⟩
  /-- The holders in `gone` leave, and `ts` is what they had. -/
  | leave {o : Ownership K T} {gone : K → Prop} {held : K → Option T} {ts : List T}
      (hkeep : ∀ k, ¬ gone k → held k = o.held k) (hgone : ∀ k, gone k → held k = none)
      (hts : ∀ t, t ∈ ts ↔ ∃ k, gone k ∧ o.held k = some t) (hnodup : ts.Nodup) :
      Move E o ⟨held, o.released ++ ts, o.registered⟩
  /-- A released resource is given up. -/
  | finish {o : Ownership K T} {before after : List T} {t : T}
      (h : o.released = before ++ t :: after) :
      Move E o ⟨o.held, before ++ after, o.registered \ {t}⟩

/-- **No operation gives a resource to a second owner.** -/
theorem Exclusive.move {E : K → T → Prop} {o o' : Ownership K T} (he : Exclusive o)
    (hm : Move E o o') : Exclusive o' := by
  cases hm with
  | idle => exact he
  | enter _ ht => exact he.enter ht
  | giveUp hk => exact he.giveUp hk
  | leave hkeep hgone hts hnodup => exact he.leave hkeep hgone hts hnodup
  | finish h => exact he.finish h

/-- **An operation loses no resource**, when a holder enters one only if it has none. -/
theorem Inv.move {o o' : Ownership K T} (hi : Inv o)
    (hm : Move (fun k _ => o.held k = none) o o') : Inv o' := by
  cases hm with
  | idle => exact hi
  | @enter k t hk ht =>
      refine (hi.exclusive.enter ht).inv fun t' => ?_
      rw [Set.mem_insert_iff, hi.registered t']
      rintro (rfl | ⟨k', hk'⟩ | hreleased)
      · exact Or.inl ⟨k, update_self ..⟩
      · have hne : k' ≠ k := by
          rintro rfl
          rw [hk] at hk'
          cases hk'
        exact Or.inl ⟨k', (update_of_ne hne ..).trans hk'⟩
      · exact Or.inr hreleased
  | @giveUp k t hk =>
      refine (hi.exclusive.giveUp hk).inv fun t' => ?_
      simp only [Set.mem_sdiff, Set.mem_singleton_iff, hi.registered t',
        hi.exclusive.held_giveUp hk]
      rintro ⟨⟨k', hk'⟩ | hreleased, hne⟩
      · exact Or.inl ⟨k', hk', hne⟩
      · exact Or.inr hreleased
  | @leave gone held ts hkeep hgone hts hnodup =>
      refine (hi.exclusive.leave hkeep hgone hts hnodup).inv fun t => ?_
      simp only [hi.registered t, List.mem_append, hts t, held_leave hkeep hgone]
      rintro (⟨k, hk⟩ | hreleased)
      · by_cases h : gone k
        · exact Or.inr (Or.inr ⟨k, h, hk⟩)
        · exact Or.inl ⟨k, h, hk⟩
      · exact Or.inr (Or.inl hreleased)
  | @finish before after t h =>
      refine (hi.exclusive.finish h).inv fun t' => ?_
      simp only [Set.mem_sdiff, Set.mem_singleton_iff, hi.registered t', mem_released h]
      rintro ⟨hk | hsame | hlater, hne⟩
      · exact Or.inl hk
      · exact absurd hsame hne
      · exact Or.inr hlater

end Ownership

end Narrowd.Lib
