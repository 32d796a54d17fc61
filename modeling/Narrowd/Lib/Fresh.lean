import Mathlib.Tactic

set_option autoImplicit false

/-! # Fresh names

Holders draw names from a counter. As long as every name comes from the counter, names below it
are taken at most once, so that a name stands for its holder.
-/

namespace Narrowd.Lib

variable {C : Type*} {next : Nat} {name name' : C → Option Nat}

/-- Every name is below the counter, and no two holders have the same. -/
structure Fresh (next : Nat) (name : C → Option Nat) : Prop where
  lt : ∀ c n, name c = some n → n < next
  inj : ∀ c c' n, name c = some n → name c' = some n → c = c'

theorem Fresh.none (next : Nat) : Fresh next (fun _ : C => Option.none) where
  lt _ _ h := nomatch h
  inj _ _ _ h := nomatch h

/-- Names may be given back. -/
theorem Fresh.keep (hf : Fresh next name) (hsame : ∀ c, name' c = name c ∨ name' c = Option.none) :
    Fresh next name' := by
  have hold : ∀ c n, name' c = some n → name c = some n := by
    intro c n h
    rcases hsame c with heq | hnone
    · rw [← heq, h]
    · rw [hnone] at h
      cases h
  exact ⟨fun c n h => hf.lt c n (hold c n h), fun c c' n h h' =>
    hf.inj c c' n (hold c n h) (hold c' n h')⟩

/-- **The next name is nobody's.** -/
theorem Fresh.draw (hf : Fresh next name) {c : C} (hc : name' c = some next)
    (hothers : ∀ c' ≠ c, name' c' = name c') : Fresh (next + 1) name' := by
  have hold : ∀ c' n, name' c' = some n → (c' = c ∧ n = next) ∨ (c' ≠ c ∧ n < next) := by
    intro c' n h
    by_cases heq : c' = c
    · subst heq
      rw [hc] at h
      exact Or.inl ⟨rfl, (Option.some.inj h).symm⟩
    · rw [hothers c' heq] at h
      exact Or.inr ⟨heq, hf.lt c' n h⟩
  constructor
  · intro c' n h
    rcases hold c' n h with ⟨-, rfl⟩ | ⟨-, hlt⟩
    · exact Nat.lt_succ_self _
    · exact Nat.lt_succ_of_lt hlt
  · intro c₁ c₂ n h₁ h₂
    rcases hold c₁ n h₁ with ⟨rfl, rfl⟩ | ⟨hne₁, hlt₁⟩
    · rcases hold c₂ _ h₂ with ⟨rfl, -⟩ | ⟨-, hlt⟩
      · rfl
      · exact absurd hlt (Nat.lt_irrefl _)
    · rcases hold c₂ n h₂ with ⟨-, rfl⟩ | ⟨hne₂, -⟩
      · exact absurd hlt₁ (Nat.lt_irrefl _)
      · rw [hothers c₁ hne₁] at h₁
        rw [hothers c₂ hne₂] at h₂
        exact hf.inj c₁ c₂ n h₁ h₂

end Narrowd.Lib
