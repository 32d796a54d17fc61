import Mathlib.Data.List.AList
import Mathlib.Tactic

set_option autoImplicit false

/-! # Finite tables

A hash map is modelled by an association list without duplicate keys, Mathlib's `AList`: only
lookups are observable, so the order of the entries plays no role. What `AList` lacks is the
in-place sweep `retain`, which updates every entry and drops those that fail a test.
`Table.retain?` is that sweep for an update that may fail; it fails when one of the updates
does, and `lookup_of_retain?` says what it leaves under each key. `Table.retain` is the sweep that
only drops entries, `Table.eraseAll` removes the keys of a list, and `Table.len` counts.
-/

namespace Narrowd.Lib

/-- A finite map from `K` to `V`. -/
abbrev Table (K V : Type*) := AList (fun _ : K => V)

namespace Table

variable {K V : Type*}

/-! ## The sweep on a list of entries -/

/-- Update every entry with `f`; an entry whose update is `none` is dropped. The sweep fails
when one update fails. -/
def retainEntries (f : V → Option (Option V)) : List (Σ _ : K, V) → Option (List (Σ _ : K, V))
  | [] => some []
  | ⟨k, v⟩ :: l =>
      match f v, retainEntries f l with
      | some (some v'), some l' => some (⟨k, v'⟩ :: l')
      | some none, some l' => some l'
      | _, _ => none

variable {f : V → Option (Option V)} {l l' : List (Σ _ : K, V)} {k : K}

/-- One entry of a successful sweep. -/
theorem retainEntries_cons {v : V} (h : retainEntries f (⟨k, v⟩ :: l) = some l') :
    ∃ t, retainEntries f l = some t ∧
      ((f v = some none ∧ l' = t) ∨ ∃ v', f v = some (some v') ∧ l' = ⟨k, v'⟩ :: t) := by
  simp only [retainEntries] at h
  split at h
  · next v' t hv ht => exact ⟨t, ht, Or.inr ⟨v', hv, (Option.some.inj h).symm⟩⟩
  · next t hv ht => exact ⟨t, ht, Or.inl ⟨hv, (Option.some.inj h).symm⟩⟩
  · cases h

theorem keys_retainEntries (h : retainEntries f l = some l') : l'.keys.Sublist l.keys := by
  induction l generalizing l' with
  | nil => cases h; exact List.Sublist.refl _
  | cons e l ih =>
      obtain ⟨k, v⟩ := e
      obtain ⟨t, ht, ⟨-, rfl⟩ | ⟨v', -, rfl⟩⟩ := retainEntries_cons h
      · exact (ih ht).cons k
      · exact (ih ht).cons_cons k

theorem nodupKeys_retainEntries (hl : l.NodupKeys) (h : retainEntries f l = some l') :
    l'.NodupKeys :=
  List.Nodup.sublist (keys_retainEntries h) hl

/-- A sweep succeeds exactly when every update does. -/
theorem retainEntries_isSome : (retainEntries f l).isSome ↔ ∀ e ∈ l, (f e.2).isSome := by
  induction l with
  | nil => simp [retainEntries]
  | cons e l ih =>
      obtain ⟨k, v⟩ := e
      simp only [List.forall_mem_cons, ← ih, retainEntries]
      rcases f v with _ | _ | v' <;> rcases retainEntries f l with _ | t <;> simp

/-! ## The sweep on a table -/

/-- `HashMap::retain` with an update that may fail. -/
def retain? (f : V → Option (Option V)) (m : Table K V) : Option (Table K V) :=
  match h : retainEntries f m.entries with
  | some l => some ⟨l, nodupKeys_retainEntries m.nodupKeys h⟩
  | none => none

variable {m : Table K V}

theorem retain?_eq_some {m' : Table K V} (h : retain? f m = some m') :
    retainEntries f m.entries = some m'.entries := by
  unfold retain? at h
  split at h
  · next l hl => cases h; exact hl
  · cases h

variable [DecidableEq K]

theorem dlookup_retainEntries (hl : l.NodupKeys) (h : retainEntries f l = some l') (a : K) :
    l'.dlookup a = (l.dlookup a).bind fun v => (f v).join := by
  induction l generalizing l' with
  | nil => cases h; rfl
  | cons e l ih =>
      obtain ⟨k, v⟩ := e
      rw [List.nodupKeys_cons] at hl
      obtain ⟨t, ht, hcase⟩ := retainEntries_cons h
      have ih' := ih hl.2 ht
      by_cases hak : a = k
      · subst hak
        rw [List.dlookup_cons_eq]
        rcases hcase with ⟨hv, rfl⟩ | ⟨v', hv, rfl⟩
        · have hnone : l.dlookup a = none := List.dlookup_eq_none.mpr hl.1
          rw [ih', hnone]
          simp [hv]
        · rw [List.dlookup_cons_eq]
          simp [hv]
      · rw [List.dlookup_cons_ne _ _ hak]
        rcases hcase with ⟨-, rfl⟩ | ⟨v', -, rfl⟩
        · exact ih'
        · rw [List.dlookup_cons_ne _ _ hak]
          exact ih'

/-- **What a sweep leaves under each key.** -/
theorem lookup_of_retain? {m' : Table K V} (h : retain? f m = some m') (a : K) :
    m'.lookup a = (m.lookup a).bind fun v => (f v).join :=
  dlookup_retainEntries m.nodupKeys (retain?_eq_some h) a

/-- A sweep succeeds exactly when the update of every entry does. -/
theorem retain?_isSome : (retain? f m).isSome ↔ ∀ a v, m.lookup a = some v → (f v).isSome := by
  have hkey : (retain? f m).isSome ↔ (retainEntries f m.entries).isSome := by
    unfold retain?
    split
    · next l hl => simp [hl]
    · next hl => simp [hl]
  rw [hkey, retainEntries_isSome]
  constructor
  · intro h a v hv
    exact h ⟨a, v⟩ (AList.mem_lookup_iff.mp hv)
  · rintro h ⟨a, v⟩ he
    exact h a v (AList.mem_lookup_iff.mpr he)

/-! ## Lookups -/

theorem exists_lookup_of_mem {a : K} (h : a ∈ m) : ∃ v, m.lookup a = some v :=
  Option.isSome_iff_exists.mp (AList.lookup_isSome.mpr h)

theorem lookup_insert_ite (m : Table K V) (a b : K) (v : V) :
    (m.insert a v).lookup b = if b = a then some v else m.lookup b := by
  by_cases h : b = a
  · subst h; rw [AList.lookup_insert, if_pos rfl]
  · rw [AList.lookup_insert_ne h, if_neg h]

theorem lookup_erase_ite (m : Table K V) (a b : K) :
    (m.erase a).lookup b = if b = a then none else m.lookup b := by
  by_cases h : b = a
  · subst h; rw [AList.lookup_erase, if_pos rfl]
  · rw [AList.lookup_erase_ne h, if_neg h]

/-! ## Dropping entries -/

/-- `HashMap::len`. -/
def len (m : Table K V) : Nat := m.entries.length

omit [DecidableEq K] in
theorem length_keys (m : Table K V) : m.keys.length = m.len := List.length_map _

/-- `HashMap::retain` with a test. -/
def retain (f : V → Bool) (m : Table K V) : Table K V :=
  ⟨m.entries.filter fun e => f e.2, m.nodupKeys.sublist List.filter_sublist⟩

theorem lookup_retain_eq_some {f : V → Bool} {a : K} {v : V} :
    (m.retain f).lookup a = some v ↔ m.lookup a = some v ∧ f v = true := by
  have hmem : ∀ m : Table K V, m.lookup a = some v ↔ ⟨a, v⟩ ∈ m.entries :=
    fun m => AList.mem_lookup_iff
  rw [hmem, hmem]
  exact List.mem_filter

/-- Remove the keys of the list. -/
def eraseAll (m : Table K V) (ks : List K) : Table K V := ks.foldl (fun m k => m.erase k) m

theorem lookup_eraseAll (m : Table K V) (ks : List K) (a : K) :
    (m.eraseAll ks).lookup a = if a ∈ ks then none else m.lookup a := by
  induction ks generalizing m with
  | nil => rfl
  | cons k ks ih =>
      rw [eraseAll, List.foldl_cons, ← eraseAll, ih, lookup_erase_ite]
      by_cases hmem : a ∈ ks
      · simp [hmem]
      · by_cases hk : a = k
        · simp [hk]
        · simp [hmem, hk]

theorem len_erase (hk : k ∈ m) : len (m.erase k) + 1 = m.len := by
  rw [← length_keys, ← length_keys, AList.keys_erase]
  have hpos : 0 < m.keys.length := List.length_pos_of_mem (AList.mem_keys.mp hk)
  rw [List.length_erase_of_mem (AList.mem_keys.mp hk)]
  omega

/-- Removing distinct keys that are there makes the table that much smaller. -/
theorem len_eraseAll {ks : List K} (hnodup : ks.Nodup) (hks : ∀ k ∈ ks, k ∈ m) :
    len (m.eraseAll ks) + ks.length = m.len := by
  induction ks generalizing m with
  | nil => rfl
  | cons k ks ih =>
      obtain ⟨hfresh, hnodup⟩ := List.nodup_cons.mp hnodup
      have hthere : ∀ k' ∈ ks, k' ∈ m.erase k := by
        intro k' hk'
        refine AList.mem_erase.mpr ⟨?_, hks k' (List.mem_cons_of_mem _ hk')⟩
        rintro rfl
        exact hfresh hk'
      have hrest := ih hnodup hthere
      have hone := len_erase (hks k List.mem_cons_self)
      rw [eraseAll, List.foldl_cons, ← eraseAll, List.length_cons]
      omega

theorem len_insert_of_mem (hk : k ∈ m) (v : V) : len (m.insert k v) = m.len := by
  have hpos : 0 < m.keys.length := List.length_pos_of_mem (AList.mem_keys.mp hk)
  rw [← length_keys, ← length_keys, AList.keys_insert, List.length_cons,
    List.length_erase_of_mem (AList.mem_keys.mp hk)]
  omega

theorem len_insert_of_not_mem (hk : k ∉ m) (v : V) : len (m.insert k v) = m.len + 1 := by
  rw [← length_keys, ← length_keys, AList.keys_insert, List.length_cons,
    List.erase_of_not_mem (fun hmem => hk (AList.mem_keys.mpr hmem))]

theorem len_insert_le (m : Table K V) (k : K) (v : V) : len (m.insert k v) ≤ m.len + 1 := by
  rw [← length_keys, ← length_keys, AList.keys_insert, List.length_cons]
  exact Nat.succ_le_succ List.length_erase_le

end Table

end Narrowd.Lib
