import Mathlib.Data.List.Basic
import Mathlib.Tactic

set_option autoImplicit false

/-! # Sliding windows over sorted queues

A sliding window keeps a queue of times and drops the expired ones from its front. On a sorted
queue dropping from the front is filtering (`dropWhile_lt_eq_filter`), so what was dropped early
is what would be dropped later anyway (`filter_le_filter_le`; on any queue
`dropWhile_dropWhile_of_imp`).
-/

namespace Narrowd.Lib

section

variable {α : Type*} (key : α → Int)

/-- On a queue sorted by `key`, dropping the small keys from the front keeps exactly the
large ones. -/
theorem dropWhile_lt_eq_filter {l : List α} (hl : l.Pairwise fun a b => key a ≤ key b)
    (c : Int) :
    l.dropWhile (fun a => decide (key a < c)) = l.filter fun a => decide (c ≤ key a) := by
  induction l with
  | nil => rfl
  | cons a l ih =>
      obtain ⟨hhead, htail⟩ := List.pairwise_cons.mp hl
      by_cases ha : key a < c
      · have hna : ¬ c ≤ key a := by omega
        rw [List.dropWhile_cons_of_pos (by simpa using ha), ih htail,
          List.filter_cons_of_neg (by simpa using hna)]
      · -- the head stays, and so does everything behind it
        have hall : ∀ b ∈ a :: l, c ≤ key b := by
          intro b hb
          rcases List.mem_cons.mp hb with rfl | hb
          · omega
          · have := hhead b hb
            omega
        rw [List.dropWhile_cons_of_neg (by simpa using ha), List.filter_eq_self.mpr]
        intro b hb
        simpa using hall b hb

omit key in
/-- Dropping less from the front first makes no difference. -/
theorem dropWhile_dropWhile_of_imp {P Q : α → Bool} (himp : ∀ a, P a = true → Q a = true)
    (l : List α) : (l.dropWhile P).dropWhile Q = l.dropWhile Q := by
  induction l with
  | nil => rfl
  | cons a l ih =>
      by_cases ha : P a = true
      · rw [List.dropWhile_cons_of_pos ha, ih, List.dropWhile_cons_of_pos (himp a ha)]
      · rw [List.dropWhile_cons_of_neg ha]

/-- Filtering below a smaller bound first makes no difference. -/
theorem filter_le_filter_le (l : List α) {c c' : Int} (hc : c ≤ c') :
    (l.filter fun a => decide (c ≤ key a)).filter (fun a => decide (c' ≤ key a))
      = l.filter fun a => decide (c' ≤ key a) := by
  rw [List.filter_filter]
  refine List.filter_congr fun a _ => ?_
  by_cases ha : c' ≤ key a
  · have : c ≤ key a := le_trans hc ha
    simp [ha, this]
  · simp [ha]

end

end Narrowd.Lib
