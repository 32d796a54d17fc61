import Mathlib.Order.Lex
import Mathlib.Tactic

set_option autoImplicit false

/-! # Sorted maps

A map that is iterated in the order of its keys, as the list of its entries: the keys increase.
`insert` and `orInsert` keep the order, and `lookup_insert` and `lookup_orInsert` say what is found
afterwards. A map that is filled with the entries of another one that pass a test holds those
entries (`lookup_insertAll`). `collect` makes a map of a list of entries.
-/

namespace Narrowd.Lib

/-- The entries of a map, by increasing keys. -/
abbrev SortedMap (K V : Type*) [LT K] :=
  { entries : List (K × V) // entries.Pairwise fun a b => a.1 < b.1 }

namespace SortedMap

variable {K V : Type*} [LinearOrder K]

def lookupEntry (k : K) : List (K × V) → Option V
  | [] => none
  | (a, v) :: l => if k = a then some v else lookupEntry k l

def insertEntry (k : K) (v : V) : List (K × V) → List (K × V)
  | [] => [(k, v)]
  | (a, w) :: l =>
      if k < a then (k, v) :: (a, w) :: l
      else if k = a then (k, v) :: l
      else (a, w) :: insertEntry k v l

variable {l : List (K × V)}

theorem mem_insertEntry {k : K} {v : V} {e : K × V} (h : e ∈ insertEntry k v l) :
    e = (k, v) ∨ e ∈ l := by
  induction l with
  | nil => exact .inl (List.mem_singleton.mp h)
  | cons a l ih =>
      unfold insertEntry at h
      split at h
      · exact List.mem_cons.mp h
      · split at h
        · exact (List.mem_cons.mp h).imp_right (List.mem_cons_of_mem a)
        · rcases List.mem_cons.mp h with rfl | h
          · exact .inr List.mem_cons_self
          · exact (ih h).imp_right (List.mem_cons_of_mem a)

theorem pairwise_insertEntry (k : K) (v : V) (h : l.Pairwise fun a b => a.1 < b.1) :
    (insertEntry k v l).Pairwise fun a b => a.1 < b.1 := by
  induction l with
  | nil => exact List.pairwise_singleton _ _
  | cons a l ih =>
      obtain ⟨hhead, htail⟩ := List.pairwise_cons.mp h
      unfold insertEntry
      split
      · rename_i hlt
        refine List.pairwise_cons.mpr ⟨fun e he => ?_, h⟩
        rcases List.mem_cons.mp he with rfl | he
        · exact hlt
        · exact hlt.trans (hhead e he)
      · split
        · rename_i heq
          exact List.pairwise_cons.mpr ⟨fun e he => heq ▸ hhead e he, htail⟩
        · rename_i hlt hne
          refine List.pairwise_cons.mpr ⟨fun e he => ?_, ih htail⟩
          rcases mem_insertEntry he with rfl | he
          · exact lt_of_le_of_ne (not_lt.mp hlt) (Ne.symm hne)
          · exact hhead e he

def lookup (k : K) (m : SortedMap K V) : Option V := lookupEntry k m.1

def insert (k : K) (v : V) (m : SortedMap K V) : SortedMap K V :=
  ⟨insertEntry k v m.1, pairwise_insertEntry k v m.2⟩

/-- `entry(k).or_insert(v)`. -/
def orInsert (k : K) (v : V) (m : SortedMap K V) : SortedMap K V :=
  if (m.lookup k).isSome then m else m.insert k v

theorem lookup_insert (k k' : K) (v : V) (m : SortedMap K V) :
    (m.insert k v).lookup k' = if k' = k then some v else m.lookup k' := by
  obtain ⟨l, hl⟩ := m
  change lookupEntry k' (insertEntry k v l) = if k' = k then some v else lookupEntry k' l
  clear hl
  induction l with
  | nil => rfl
  | cons a l ih =>
      unfold insertEntry
      split
      · rfl
      · split
        · rename_i heq
          subst heq
          by_cases hk : k' = a.1 <;> simp [lookupEntry, hk]
        · rename_i hne
          by_cases hk : k' = a.1
          · have hk' : a.1 ≠ k := Ne.symm hne
            simp [lookupEntry, hk, hk']
          · simp [lookupEntry, hk, ih]

theorem lookup_orInsert (k k' : K) (v : V) (m : SortedMap K V) :
    (m.orInsert k v).lookup k' = if k' = k then some ((m.lookup k).getD v) else m.lookup k' := by
  unfold orInsert
  split
  · rename_i hsome
    obtain ⟨w, hw⟩ := Option.isSome_iff_exists.mp hsome
    by_cases hk : k' = k
    · rw [if_pos hk, hk, hw, Option.getD_some]
    · rw [if_neg hk]
  · rename_i hnone
    rw [lookup_insert, Option.not_isSome_iff_eq_none.mp hnone, Option.getD_none]

theorem lookup_of_mem {m : SortedMap K V} {e : K × V} (h : e ∈ m.1) : m.lookup e.1 = some e.2 := by
  obtain ⟨l, hl⟩ := m
  unfold lookup
  dsimp only at h ⊢
  induction l with
  | nil => cases h
  | cons a l ih =>
      obtain ⟨hhead, htail⟩ := List.pairwise_cons.mp hl
      rcases List.mem_cons.mp h with rfl | h
      · rw [lookupEntry, if_pos rfl]
      · rw [lookupEntry, if_neg (hhead e h).ne', ih htail h]

theorem lookupEntry_eq_none {k : K} (h : ∀ e ∈ l, k < e.1) : lookupEntry k l = none := by
  induction l with
  | nil => rfl
  | cons a l ih =>
      obtain ⟨ha, hl⟩ := List.forall_mem_cons.mp h
      rw [lookupEntry, if_neg ha.ne, ih hl]

/-- The entries of a map that pass a test, entered into another one. -/
def insertAll (test : K → Bool) (m into : SortedMap K V) : SortedMap K V :=
  m.1.foldl (fun acc e => if test e.1 then acc.insert e.1 e.2 else acc) into

theorem lookup_insertAll (test : K → Bool) (m into : SortedMap K V) (k : K) :
    (insertAll test m into).lookup k =
      if test k then (m.lookup k).or (into.lookup k) else into.lookup k := by
  obtain ⟨l, hl⟩ := m
  unfold insertAll lookup
  dsimp only
  induction l generalizing into with
  | nil => simp [lookupEntry]
  | cons a l ih =>
      obtain ⟨hhead, htail⟩ := List.pairwise_cons.mp hl
      rw [List.foldl_cons, ih _ htail]
      by_cases hk : k = a.1
      · -- the key comes once
        have hnone : lookupEntry k l = none := lookupEntry_eq_none fun e he => hk ▸ hhead e he
        have hinsert := lookup_insert a.1 k a.2 into
        rw [if_pos hk] at hinsert
        subst hk
        by_cases htest : test a.1 = true
        · rw [if_pos htest, if_pos htest, if_pos htest, hnone, Option.none_or]
          exact hinsert.trans (by simp [lookupEntry])
        · rw [if_neg htest, if_neg htest, if_neg htest]
      · have hinsert := lookup_insert a.1 k a.2 into
        rw [if_neg hk] at hinsert
        have hinto : lookupEntry k (if test a.1 = true then into.insert a.1 a.2 else into).1 =
            lookupEntry k into.1 := by
          split
          · exact hinsert
          · rfl
        rw [hinto]
        simp [lookupEntry, hk]

/-! ## Collecting entries -/

/-- `iter.collect::<BTreeMap<_, _>>()`. -/
def collect (l : List (K × V)) : SortedMap K V :=
  l.foldl (fun m e => m.insert e.1 e.2) ⟨[], .nil⟩

theorem lookup_foldl_insert (hnodup : (l.map Prod.fst).Nodup) (m : SortedMap K V) (k : K) (v : V) :
    (l.foldl (fun m e => m.insert e.1 e.2) m).lookup k = some v ↔
      (k, v) ∈ l ∨ (k ∉ l.map Prod.fst ∧ m.lookup k = some v) := by
  induction l generalizing m with
  | nil => simp
  | cons e l ih =>
      obtain ⟨a, w⟩ := e
      obtain ⟨hfresh, hnodup⟩ := List.nodup_cons.mp hnodup
      rw [List.foldl_cons, ih hnodup, lookup_insert]
      by_cases hk : k = a
      · -- the key does not come again
        subst hk
        have hfresh' : k ∉ l.map Prod.fst := hfresh
        have hnot : (k, v) ∉ l := fun hmem => hfresh' (List.mem_map.mpr ⟨(k, v), hmem, rfl⟩)
        rw [if_pos rfl]
        simp [hnot, hfresh', eq_comm]
      · rw [if_neg hk]
        simp [hk]

theorem lookup_collect (hnodup : (l.map Prod.fst).Nodup) (k : K) (v : V) :
    (collect l).lookup k = some v ↔ (k, v) ∈ l := by
  have hempty : lookup k (⟨[], .nil⟩ : SortedMap K V) = none := rfl
  unfold collect
  rw [lookup_foldl_insert hnodup, hempty]
  simp

theorem length_insert {k : K} {m : SortedMap K V} (hk : m.lookup k = none) (v : V) :
    (m.insert k v).1.length = m.1.length + 1 := by
  obtain ⟨l, hl⟩ := m
  change (insertEntry k v l).length = l.length + 1
  change lookupEntry k l = none at hk
  clear hl
  induction l with
  | nil => rfl
  | cons a l ih =>
      have hne : k ≠ a.1 := by
        rintro rfl
        rw [lookupEntry, if_pos rfl] at hk
        cases hk
      rw [lookupEntry, if_neg hne] at hk
      unfold insertEntry
      split
      · rfl
      · rw [List.length_cons, ih hk, List.length_cons]

theorem length_foldl_insert (hnodup : (l.map Prod.fst).Nodup) (m : SortedMap K V)
    (hm : ∀ k ∈ l.map Prod.fst, m.lookup k = none) :
    (l.foldl (fun m e => m.insert e.1 e.2) m).1.length = m.1.length + l.length := by
  induction l generalizing m with
  | nil => rfl
  | cons e l ih =>
      obtain ⟨hfresh, hnodup⟩ := List.nodup_cons.mp hnodup
      rw [List.map_cons, List.forall_mem_cons] at hm
      have hrest : ∀ k ∈ l.map Prod.fst, (m.insert e.1 e.2).lookup k = none := by
        intro k hk
        have hne : k ≠ e.1 := fun heq => hfresh (heq ▸ hk)
        rw [lookup_insert, if_neg hne]
        exact hm.2 k hk
      rw [List.foldl_cons, ih hnodup _ hrest, length_insert hm.1, List.length_cons]
      omega

theorem length_collect (hnodup : (l.map Prod.fst).Nodup) : (collect l).1.length = l.length := by
  unfold collect
  rw [length_foldl_insert hnodup _ fun _ _ => rfl]
  exact Nat.zero_add _

end SortedMap

end Narrowd.Lib
