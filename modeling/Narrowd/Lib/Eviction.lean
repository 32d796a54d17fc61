import Mathlib.Data.List.Nodup
import Mathlib.Order.Basic
import Mathlib.Tactic

set_option autoImplicit false

/-! # Evicting the oldest

A store that has grown too large sorts what it holds by age and drops the oldest. The sort is stable
but starts from an order that nobody knows, so among equally old elements anyone can go. What can be
said is that everything that stays is at least as young as what goes (`oldest_evicted`).
-/

namespace Narrowd.Lib

variable {α κ τ : Type*} [LinearOrder τ]

/-- The elements, the oldest first. -/
def oldestFirst (time : α → τ) (l : List α) : List α :=
  l.mergeSort fun a b => decide (time a ≤ time b)

theorem oldestFirst_perm (time : α → τ) (l : List α) : (oldestFirst time l).Perm l :=
  List.mergeSort_perm l _

theorem oldestFirst_pairwise (time : α → τ) (l : List α) :
    (oldestFirst time l).Pairwise fun a b => time a ≤ time b := by
  have hsorted : (oldestFirst time l).Pairwise fun a b => decide (time a ≤ time b) = true := by
    refine List.pairwise_mergeSort ?_ ?_ l
    · intro a b c hab hbc
      exact decide_eq_true (le_trans (of_decide_eq_true hab) (of_decide_eq_true hbc))
    · intro a b
      rcases le_total (time a) (time b) with h | h
      · simp [h]
      · simp [h]
  exact hsorted.imp of_decide_eq_true

/-- **What goes is the oldest.** If the key `k` is among the `n` oldest of a list without duplicate
keys, then the others, all but `n`, have other keys and are no older. -/
theorem oldest_evicted {time : α → τ} {key : α → κ} {l : List α} (hnodup : (l.map key).Nodup)
    {n : Nat} {k : κ} (hk : k ∈ ((oldestFirst time l).take n).map key) :
    ∃ x ∈ l, key x = k ∧ (((oldestFirst time l).drop n).map key).Nodup ∧
      ((oldestFirst time l).drop n).length = l.length - n ∧
      ∀ y ∈ (oldestFirst time l).drop n, y ∈ l ∧ key y ≠ k ∧ time x ≤ time y := by
  have hperm := oldestFirst_perm time l
  obtain ⟨x, hx, rfl⟩ := List.mem_map.mp hk
  -- cut the sorted list: neither the order nor the distinctness is lost across the cut
  have hcut := List.take_append_drop n (oldestFirst time l)
  have hkeys : (((oldestFirst time l).take n).map key ++
      ((oldestFirst time l).drop n).map key).Nodup := by
    rw [← List.map_append, hcut]
    exact (hperm.map key).nodup_iff.mpr hnodup
  have hsorted := oldestFirst_pairwise time l
  rw [← hcut] at hsorted
  obtain ⟨-, hdrop, happart⟩ := List.nodup_append.mp hkeys
  refine ⟨x, hperm.mem_iff.mp (List.mem_of_mem_take hx), rfl, hdrop, ?_, ?_⟩
  · rw [List.length_drop, hperm.length_eq]
  · intro y hy
    refine ⟨hperm.mem_iff.mp (List.mem_of_mem_drop hy), ?_,
      (List.pairwise_append.mp hsorted).2.2 x hx y hy⟩
    exact (happart _ (List.mem_map_of_mem hx) _ (List.mem_map_of_mem hy)).symm

end Narrowd.Lib
