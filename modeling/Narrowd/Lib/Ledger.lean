import Narrowd.Lib.Table

set_option autoImplicit false

/-! # Tables whose names come from a counter

A table hands out names: each new entry is stored under the next one, `name 0`, `name 1`, …, and an
entry may be taken out again by its name. The events of a history say which entry they put in
(`issued`) and which name they take out (`released`). `Ledger` ties the table to its history: a name
leads to a value if and only if it was handed out for this value and not taken out since. Since the
names are different and the counter only grows, a name that was taken out never comes back.
-/

namespace Narrowd.Lib

section

variable {ε N V : Type*}

/-- Some event put in `v` under the name `n`. -/
def Issued (issued : ε → Option (N × V)) (h : List ε) (n : N) (v : V) : Prop :=
  ∃ e ∈ h, issued e = some (n, v)

/-- Some event took out the name `n`. -/
def Released (released : ε → Option N) (h : List ε) (n : N) : Prop := ∃ e ∈ h, released e = some n

variable {issued : ε → Option (N × V)} {released : ε → Option N} {h : List ε} {e : ε}
  {n : N} {v : V}

theorem issued_cons :
    Issued issued (e :: h) n v ↔ issued e = some (n, v) ∨ Issued issued h n v := by
  simp [Issued]

theorem released_cons : Released released (e :: h) n ↔ released e = some n ∨
    Released released h n := by
  simp [Released]

theorem issued_iff_mem : Issued issued h n v ↔ some (n, v) ∈ h.map issued := by
  simp [Issued]

theorem released_iff_mem : Released released h n ↔ some n ∈ h.map released := by
  simp [Released]

theorem issued_cons_none (hi : issued e = none) :
    Issued issued (e :: h) n v ↔ Issued issued h n v := by
  simp [issued_cons, hi]

theorem released_cons_none (hr : released e = none) :
    Released released (e :: h) n ↔ Released released h n := by
  simp [released_cons, hr]

variable [DecidableEq N]

/-- The table `t` is what the events `h` leave of it, and they used the first `next` names. -/
structure Ledger (name : Nat → N) (issued : ε → Option (N × V)) (released : ε → Option N)
    (h : List ε)
    (next : Nat) (t : Table N V) : Prop where
  numbered : ∀ n v, Issued issued h n v → ∃ k < next, n = name k
  handedOut : ∀ n, Released released h n → ∃ v, Issued issued h n v
  lookup : ∀ n v, t.lookup n = some v ↔ Issued issued h n v ∧ ¬ Released released h n

variable {name : Nat → N} {next : Nat} {t : Table N V}

theorem Ledger.nil : Ledger name issued released [] 0 (∅ : Table N V) where
  numbered _ _ hi := nomatch hi
  handedOut _ hr := nomatch hr
  lookup n v := by
    constructor
    · intro hl
      simp at hl
    · rintro ⟨hi, -⟩
      nomatch hi

/-- The next name was never handed out. -/
theorem Ledger.fresh (hl : Ledger name issued released h next t) (hname : Function.Injective name)
    (v : V) : ¬ Issued issued h (name next) v := by
  intro hi
  obtain ⟨k, hk, heq⟩ := hl.numbered _ _ hi
  exact absurd (hname heq) (Nat.ne_of_gt hk)

/-- An event that puts in and takes out nothing. -/
theorem Ledger.keep (hl : Ledger name issued released h next t) (hi : issued e = none)
    (hr : released e = none) : Ledger name issued released (e :: h) next t := by
  constructor
  · intro n v hn
    exact hl.numbered n v ((issued_cons_none hi).mp hn)
  · intro n hn
    obtain ⟨v, hv⟩ := hl.handedOut n ((released_cons_none hr).mp hn)
    exact ⟨v, (issued_cons_none hi).mpr hv⟩
  · intro n v
    rw [hl.lookup, issued_cons_none hi, released_cons_none hr]

/-- An event that puts in a value under the next name. -/
theorem Ledger.issue (hl : Ledger name issued released h next t) (hname : Function.Injective name)
    (hi : issued e = some (name next, v)) (hr : released e = none) :
    Ledger name issued released (e :: h) (next + 1) (t.insert (name next) v) := by
  have hissued : ∀ n w, Issued issued (e :: h) n w ↔ (name next = n ∧ v = w) ∨
    Issued issued h n w := by
    intro n w
    rw [issued_cons, hi]
    simp
  have hnever : ¬ Released released h (name next) := by
    intro hout
    obtain ⟨w, hw⟩ := hl.handedOut _ hout
    exact hl.fresh hname w hw
  constructor
  · intro n w hn
    rcases (hissued n w).mp hn with ⟨rfl, -⟩ | hold
    · exact ⟨next, Nat.lt_succ_self _, rfl⟩
    · obtain ⟨k, hk, heq⟩ := hl.numbered n w hold
      exact ⟨k, Nat.lt_succ_of_lt hk, heq⟩
  · intro n hn
    obtain ⟨w, hw⟩ := hl.handedOut n ((released_cons_none hr).mp hn)
    exact ⟨w, (hissued n w).mpr (Or.inr hw)⟩
  · intro n w
    rw [Table.lookup_insert_ite, hissued, released_cons_none hr]
    by_cases heq : n = name next
    · subst heq
      have hold := hl.fresh hname w
      simp [hnever, hold]
    · rw [if_neg heq, hl.lookup]
      simp [Ne.symm heq]

/-- An event that takes out an entry. -/
theorem Ledger.release (hl : Ledger name issued released h next t) (hi : issued e = none)
    (hr : released e = some n) (hn : t.lookup n = some v) :
    Ledger name issued released (e :: h) next (t.erase n) := by
  have hreleased : ∀ m, Released released (e :: h) m ↔ n = m ∨ Released released h m := by
    intro m
    rw [released_cons, hr, Option.some.injEq]
  constructor
  · intro m w hm
    exact hl.numbered m w ((issued_cons_none hi).mp hm)
  · intro m hm
    rcases (hreleased m).mp hm with rfl | hold
    · exact ⟨v, (issued_cons_none hi).mpr ((hl.lookup n v).mp hn).1⟩
    · obtain ⟨w, hw⟩ := hl.handedOut m hold
      exact ⟨w, (issued_cons_none hi).mpr hw⟩
  · intro m w
    rw [Table.lookup_erase_ite, issued_cons_none hi, hreleased]
    by_cases heq : m = n
    · simp [heq]
    · rw [if_neg heq, hl.lookup]
      simp [Ne.symm heq]

end

end Narrowd.Lib
