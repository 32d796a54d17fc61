import Mathlib.Data.List.Chain
import Mathlib.Tactic

set_option autoImplicit false

/-! # Words

The words of a list are its longest stretches without a separator. A separator cuts a list into two
parts whose words are found apart (`words_append_cons`), and a list is nothing, a separator and a
list, a word, or a word and a separator and a list (`words_induction`); the other lemmas follow from
these two.

`intercalate_words_iff` says when the words, joined again by one separator, are the list: when each
of its separators is that one, stands alone and stands between words.
-/

namespace Narrowd.Lib

variable {α : Type*} {sep : α → Bool}

def words (sep : α → Bool) (l : List α) : List (List α) :=
  (l.splitOnP sep).filter fun part => !part.isEmpty

@[simp]
theorem words_nil : words sep [] = [] := by
  simp [words, List.splitOnP_nil]

variable {c : α}

theorem words_append_cons (l l' : List α) (hc : sep c = true) :
    words sep (l ++ c :: l') = words sep l ++ words sep l' := by
  rw [words, List.splitOnP_append_cons l l' hc, List.filter_append]
  rfl

theorem words_cons_of_sep (hc : sep c = true) (l : List α) : words sep (c :: l) = words sep l := by
  have h := words_append_cons [] l hc
  simpa using h

/-- A list that has no separators and is not empty. -/
structure IsWord (sep : α → Bool) (w : List α) : Prop where
  ne_nil : w ≠ []
  letters : ∀ c ∈ w, sep c = false

variable {w : List α}

theorem IsWord.words_eq (hw : IsWord sep w) : words sep w = [w] := by
  rw [words, List.splitOnP_eq_singleton hw.letters]
  simp [hw.ne_nil]

theorem IsWord.words_append_cons (hw : IsWord sep w) (hc : sep c = true) (l : List α) :
    words sep (w ++ c :: l) = w :: words sep l := by
  rw [Lib.words_append_cons w l hc, hw.words_eq]
  rfl

/-- **The induction over the words of a list.** -/
theorem words_induction (sep : α → Bool) {P : List α → Prop} (nil : P [])
    (separator : ∀ c l, sep c = true → P l → P (c :: l))
    (word : ∀ w, IsWord sep w → P w)
    (cons : ∀ w c l, IsWord sep w → sep c = true → P l → P (w ++ c :: l)) (l : List α) : P l := by
  induction hn : l.length using Nat.strongRecOn generalizing l with
  | _ n ih =>
      cases l with
      | nil => exact nil
      | cons c l =>
          by_cases hc : sep c = true
          · exact separator c l hc (ih l.length (by simp [← hn]) l rfl)
          · -- the word is what comes before the first separator
            have hsplit : c :: l =
                (c :: l.takeWhile fun d => !sep d) ++ l.dropWhile fun d => !sep d := by
              rw [List.cons_append, List.takeWhile_append_dropWhile]
            have hw : IsWord sep (c :: l.takeWhile fun d => !sep d) := by
              refine ⟨List.cons_ne_nil _ _, ?_⟩
              intro d hd
              rcases List.mem_cons.mp hd with rfl | hd
              · simpa using hc
              · have hall := List.all_eq_true.mp List.all_takeWhile d hd
                simpa using hall
            have hlen : (l.dropWhile fun d => !sep d).length ≤ l.length :=
              (List.dropWhile_suffix _).length_le
            have hhead := List.head?_dropWhile_not (fun d => !sep d) l
            rw [hsplit]
            cases hrest : l.dropWhile fun d => !sep d with
            | nil =>
                rw [List.append_nil]
                exact word _ hw
            | cons d rest =>
                rw [hrest] at hlen hhead
                refine cons _ d rest hw (by simpa using hhead) (ih rest.length ?_ rest rfl)
                simp only [List.length_cons] at hlen hn
                omega

theorem words_seps_append {s : List α} (hs : ∀ c ∈ s, sep c = true) (l : List α) :
    words sep (s ++ l) = words sep l := by
  induction s with
  | nil => rfl
  | cons c s ih =>
      rw [List.cons_append, words_cons_of_sep (hs c List.mem_cons_self)]
      exact ih fun d hd => hs d (List.mem_cons_of_mem c hd)

theorem words_append_seps (l : List α) {s : List α} (hs : ∀ c ∈ s, sep c = true) :
    words sep (l ++ s) = words sep l := by
  cases s with
  | nil => rw [List.append_nil]
  | cons c s =>
      have hrest : words sep s = [] := by
        have h := words_seps_append (fun d hd => hs d (List.mem_cons_of_mem c hd)) []
        simpa using h
      rw [words_append_cons l s (hs c List.mem_cons_self), hrest, List.append_nil]

variable {l : List α}

theorem isWord_of_mem_words (h : w ∈ words sep l) : IsWord sep w := by
  induction l using words_induction sep with
  | nil => simp at h
  | separator c l hc ih => exact ih (words_cons_of_sep hc l ▸ h)
  | word w' hw' =>
      rw [hw'.words_eq, List.mem_singleton] at h
      exact h ▸ hw'
  | cons w' c l hw' hc ih =>
      rw [hw'.words_append_cons hc] at h
      rcases List.mem_cons.mp h with rfl | h
      · exact hw'
      · exact ih h

/-- The parts between separators hold none. -/
theorem not_sep_of_mem_splitOnP {part : List α} (h : part ∈ l.splitOnP sep) :
    ∀ c ∈ part, sep c = false := by
  intro c hc
  have hword : part ∈ words sep l :=
    List.mem_filter.mpr ⟨h, by simp [List.ne_nil_of_mem hc]⟩
  exact (isWord_of_mem_words hword).letters c hc

/-- A list that does not start with a separator starts with its first word. -/
theorem words_cons_of_not_sep (hc : sep c = false) (l : List α) :
    ∃ w ws, words sep (c :: l) = (c :: w) :: ws := by
  have hword : IsWord sep (c :: l.takeWhile fun d => !sep d) := by
    refine ⟨List.cons_ne_nil _ _, List.forall_mem_cons.mpr ⟨hc, fun d hd => ?_⟩⟩
    simpa using List.all_eq_true.mp List.all_takeWhile d hd
  have hl : (l.takeWhile fun d => !sep d) ++ (l.dropWhile fun d => !sep d) = l :=
    List.takeWhile_append_dropWhile
  cases hrest : l.dropWhile fun d => !sep d with
  | nil =>
      rw [hrest, List.append_nil] at hl
      rw [hl] at hword
      exact ⟨l, [], hword.words_eq⟩
  | cons d rest =>
      have hd : sep d = true := by
        have := List.head?_dropWhile_not (fun d => !sep d) l
        rw [hrest] at this
        simpa using this
      refine ⟨l.takeWhile fun d => !sep d, words sep rest, ?_⟩
      rw [← hword.words_append_cons hd, List.cons_append, ← hrest, hl]

/-- The lists without words are those of separators. -/
theorem words_eq_nil_iff : words sep l = [] ↔ ∀ c ∈ l, sep c = true := by
  constructor
  · intro h
    induction l using words_induction sep with
    | nil => simp
    | separator c l hc ih =>
        rw [words_cons_of_sep hc] at h
        exact List.forall_mem_cons.mpr ⟨hc, ih h⟩
    | word w hw =>
        rw [hw.words_eq] at h
        cases h
    | cons w c l hw hc ih =>
        rw [hw.words_append_cons hc] at h
        cases h
  · intro h
    have hw := words_seps_append h []
    simpa using hw

/-! ## Joining the words again -/

/-- Every separator of the list is `x`, and stands alone between two words. -/
structure SinglySpaced (sep : α → Bool) (x : α) (l : List α) : Prop where
  only : ∀ c ∈ l, sep c = true → c = x
  first : ∀ c ∈ l.head?, sep c = false
  last : ∀ c ∈ l.getLast?, sep c = false
  apart : l.IsChain fun c d => sep c = false ∨ sep d = false

theorem IsWord.singlySpaced (hw : IsWord sep w) (x : α) : SinglySpaced sep x w where
  only c hc hsep := by
    rw [hw.letters c hc] at hsep
    cases hsep
  first c hc := hw.letters c (List.mem_of_mem_head? hc)
  last c hc := hw.letters c (List.mem_of_mem_getLast? hc)
  apart := by
    have hall : w.Pairwise fun c d => sep c = false ∨ sep d = false :=
      List.pairwise_of_forall_mem_list fun c hc d _ => Or.inl (hw.letters c hc)
    exact hall.isChain

variable {x : α}

theorem SinglySpaced.cons (hw : IsWord sep w) (hx : sep x = true) (hl : SinglySpaced sep x l)
    (hne : l ≠ []) : SinglySpaced sep x (w ++ x :: l) := by
  have hword := hw.singlySpaced x
  refine ⟨?_, ?_, ?_, ?_⟩
  · intro c hc hsep
    rcases List.mem_append.mp hc with hc | hc
    · exact hword.only c hc hsep
    · rcases List.mem_cons.mp hc with rfl | hc
      · rfl
      · exact hl.only c hc hsep
  · intro c hc
    rw [List.head?_append_of_ne_nil _ hw.ne_nil] at hc
    exact hword.first c hc
  · intro c hc
    rw [List.getLast?_append_of_ne_nil _ (List.cons_ne_nil _ _),
      List.getLast?_cons_of_ne_nil hne] at hc
    exact hl.last c hc
  · refine List.isChain_append.mpr ⟨hword.apart, List.isChain_cons.mpr ⟨?_, hl.apart⟩, ?_⟩
    · exact fun d hd => Or.inr (hl.first d hd)
    · exact fun c hc d _ => Or.inl (hword.last c hc)

/-- Words joined by `x` are spaced by `x`. -/
theorem singlySpaced_intercalate (hx : sep x = true) {ws : List (List α)}
    (hws : ∀ w ∈ ws, IsWord sep w) : SinglySpaced sep x ([x].intercalate ws) := by
  induction ws with
  | nil => exact ⟨by simp, by simp, by simp, List.IsChain.nil⟩
  | cons w ws ih =>
      obtain ⟨hw, hrest⟩ := List.forall_mem_cons.mp hws
      cases ws with
      | nil =>
          rw [List.intercalate_singleton]
          exact hw.singlySpaced x
      | cons w' ws =>
          rw [List.intercalate_cons_cons, List.append_assoc, List.singleton_append]
          refine (ih hrest).cons hw hx ?_
          have hne := (List.forall_mem_cons.mp hrest).1.ne_nil
          cases ws with
          | nil => simpa using hne
          | cons w'' ws => simp

/-- Joined words hold no more than the list and `x`. -/
theorem mem_of_mem_intercalate_words (h : c ∈ [x].intercalate (words sep l)) : c = x ∨ c ∈ l := by
  induction l using words_induction sep with
  | nil => simp at h
  | separator d l hd ih =>
      rw [words_cons_of_sep hd] at h
      exact (ih h).imp_right (List.mem_cons_of_mem d)
  | word w hw =>
      rw [hw.words_eq, List.intercalate_singleton] at h
      exact .inr h
  | cons w d l hw hd ih =>
      rw [hw.words_append_cons hd] at h
      by_cases hws : words sep l = []
      · rw [hws, List.intercalate_singleton] at h
        exact .inr (List.mem_append_left _ h)
      · rw [List.intercalate_cons_of_ne_nil hws, List.append_assoc, List.mem_append,
          List.singleton_append, List.mem_cons] at h
        rcases h with h | rfl | h
        · exact .inr (List.mem_append_left _ h)
        · exact .inl rfl
        · exact (ih h).imp_right fun hc => List.mem_append_right _ (List.mem_cons_of_mem d hc)

/-- **When the words joined by `x` are the list.** -/
theorem intercalate_words_iff (hx : sep x = true) :
    [x].intercalate (words sep l) = l ↔ SinglySpaced sep x l := by
  constructor
  · intro h
    rw [← h]
    exact singlySpaced_intercalate hx fun w hw => isWord_of_mem_words hw
  · intro h
    induction l using words_induction sep with
    | nil => simp
    | separator c l hc ih =>
        have hfirst := h.first c rfl
        rw [hc] at hfirst
        cases hfirst
    | word w hw => rw [hw.words_eq, List.intercalate_singleton]
    | cons w c l hw hc ih =>
        obtain rfl := h.only c (by simp) hc
        obtain ⟨-, hchain, -⟩ := List.isChain_append.mp h.apart
        obtain ⟨hnext, hapart⟩ := List.isChain_cons.mp hchain
        -- something follows the separator, for a list does not end with one
        have hne : l ≠ [] := by
          rintro rfl
          have hlast := h.last c (by simp)
          rw [hc] at hlast
          cases hlast
        have hl : SinglySpaced sep c l := by
          refine ⟨?_, ?_, ?_, hapart⟩
          · exact fun d hd => h.only d (by simp [hd])
          · exact fun d hd => (hnext d hd).resolve_left (by simp [hc])
          · intro d hd
            refine h.last d ?_
            rw [List.getLast?_append_of_ne_nil _ (List.cons_ne_nil _ _),
              List.getLast?_cons_of_ne_nil hne]
            exact hd
        have hjoin := ih hl
        have hwords : words sep l ≠ [] := by
          intro hnil
          rw [hnil] at hjoin
          exact hne hjoin.symm
        rw [hw.words_append_cons hc, List.intercalate_cons_of_ne_nil hwords, hjoin]
        simp

end Narrowd.Lib
