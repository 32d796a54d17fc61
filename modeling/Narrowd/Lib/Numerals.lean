import Mathlib.Tactic

set_option autoImplicit false

/-! # Numbers with a separator between them

`numerals b sep ns` writes the numbers `ns` in base `b`, at most sixteen, with the character `sep`
between them. If `sep` is no digit, the text can be cut at it again (`splitOn_numerals`), so that
the numbers can be read off it (`numerals_inj`).
-/

namespace Narrowd.Lib

/-! ## Digits -/

theorem digitChar_inj {m n : Nat} (hm : m < 16) (hn : n < 16) (h : m.digitChar = n.digitChar) :
    m = n := by
  have hall : ∀ m < 16, ∀ n < 16, m.digitChar = n.digitChar → m = n := by decide
  exact hall m hm n hn h

/-- A numeral names its number. -/
theorem toDigits_inj {b : Nat} (hb : 1 < b) (hb16 : b ≤ 16) {m n : Nat}
    (h : Nat.toDigits b m = Nat.toDigits b n) : m = n := by
  induction m using Nat.strongRecOn generalizing n with
  | _ m ih =>
      rw [Nat.toDigits_eq_if hb, Nat.toDigits_eq_if (n := n) hb] at h
      have hlast : ∀ k, k % b < 16 := fun k => (Nat.mod_lt k (by omega)).trans_le hb16
      split at h
      · next hm =>
          split at h
          · next hn => exact digitChar_inj (hm.trans_le hb16) (hn.trans_le hb16) (List.cons.inj h).1
          · -- one digit against at least two
            have hlength := congrArg List.length h
            have hpos := Nat.length_toDigits_pos (b := b) (n := n / b)
            rw [List.length_singleton, List.length_append, List.length_singleton] at hlength
            omega
      · next hm =>
          split at h
          · have hlength := congrArg List.length h
            have hpos := Nat.length_toDigits_pos (b := b) (n := m / b)
            rw [List.length_append, List.length_singleton, List.length_singleton] at hlength
            omega
          · obtain ⟨hfront, hback⟩ := List.append_inj' h rfl
            have hdiv : m / b = n / b := ih (m / b) (Nat.div_lt_self (by omega) hb) hfront
            have hmod : m % b = n % b := digitChar_inj (hlast m) (hlast n) (List.cons.inj hback).1
            calc m = b * (m / b) + m % b := (Nat.div_add_mod m b).symm
              _ = b * (n / b) + n % b := by rw [hdiv, hmod]
              _ = n := Nat.div_add_mod n b

theorem exists_digitChar_of_mem {b : Nat} (hb : 1 < b) {n : Nat} {c : Char}
    (h : c ∈ Nat.toDigits b n) : ∃ d, c = Nat.digitChar d := by
  induction n using Nat.strongRecOn with
  | _ n ih =>
      rw [Nat.toDigits_eq_if hb] at h
      split at h
      · exact ⟨n, List.mem_singleton.mp h⟩
      · rcases List.mem_append.mp h with h | h
        · exact ih (n / b) (Nat.div_lt_self (by omega) hb) h
        · exact ⟨n % b, List.mem_singleton.mp h⟩

/-- A character that is no digit. -/
def SeparatorChar (c : Char) : Prop := ∀ d, Nat.digitChar d ≠ c

theorem SeparatorChar.not_mem {c : Char} (hc : SeparatorChar c) {b : Nat} (hb : 1 < b) (n : Nat) :
    c ∉ Nat.toDigits b n := by
  intro h
  obtain ⟨d, hd⟩ := exists_digitChar_of_mem hb h
  exact hc d hd.symm

/-! ## Numerals -/

def numerals (b : Nat) (sep : Char) (ns : List Nat) : List Char :=
  [sep].intercalate (ns.map (Nat.toDigits b))

variable {b : Nat} {sep : Char}

theorem splitOn_numerals (hb : 1 < b) (hsep : SeparatorChar sep) {ns : List Nat} (hne : ns ≠ []) :
    (numerals b sep ns).splitOn sep = ns.map (Nat.toDigits b) := by
  refine List.splitOn_intercalate sep ?_ (by simpa using hne)
  intro word hword
  obtain ⟨n, -, rfl⟩ := List.mem_map.mp hword
  exact hsep.not_mem hb n

theorem map_toDigits_inj (hb : 1 < b) (hb16 : b ≤ 16) {ns ms : List Nat}
    (h : ns.map (Nat.toDigits b) = ms.map (Nat.toDigits b)) : ns = ms :=
  List.map_injective_iff.mpr (fun _ _ => toDigits_inj hb hb16) h

/-- **The numbers can be read off their text.** -/
theorem numerals_inj (hb : 1 < b) (hb16 : b ≤ 16) (hsep : SeparatorChar sep) {ns ms : List Nat}
    (hns : ns ≠ []) (hms : ms ≠ []) (h : numerals b sep ns = numerals b sep ms) : ns = ms := by
  have hsplit := congrArg (List.splitOn sep) h
  rw [splitOn_numerals hb hsep hns, splitOn_numerals hb hsep hms] at hsplit
  exact map_toDigits_inj hb hb16 hsplit

/-- Numerals hold no character but digits and the separator. -/
theorem not_mem_numerals (hb : 1 < b) {c : Char} (hc : SeparatorChar c) (hne : c ≠ sep)
    (ns : List Nat) :
    c ∉ numerals b sep ns := by
  unfold numerals
  induction ns with
  | nil => simp
  | cons n ns ih =>
      cases ns with
      | nil => simpa using hc.not_mem hb n
      | cons m ns =>
          rw [List.map_cons, List.map_cons, List.intercalate_cons_cons, ← List.map_cons]
          simp only [List.mem_append, List.mem_singleton, not_or]
          exact ⟨⟨hc.not_mem hb n, hne⟩, ih⟩

end Narrowd.Lib
