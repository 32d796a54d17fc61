import Narrowd.Basic.Path
import Narrowd.Lib.Words

set_option autoImplicit false

/-! # Paths on Unix

On Unix a path has no prefix and one separator. Its components are the root or a leading dot, if it
has one, and those of its body (`components_slash`, `components_dot`, `components_relative`). Adding
a name adds a component (`components_join`), and the parent is the path without the last one
(`components_parent`).
-/

namespace Narrowd.PathBuf

/-- The component of one part of the body. -/
def partComponent (part : Text) : Option Component := bodyComponent .linux [] part

/-- The components of the body. -/
def bodyComponents (body : Text) : List Component := (body.splitOn '/').filterMap partComponent

@[simp]
theorem bodyComponents_nil : bodyComponents [] = [] := by
  rw [bodyComponents, List.splitOn_nil]
  rfl

theorem bodyComponents_append (body q : Text) :
    bodyComponents (body ++ '/' :: q) = bodyComponents body ++ bodyComponents q := by
  rw [bodyComponents, List.splitOn_append_cons_self, List.filterMap_append]
  rfl

variable {parts : List Text}

theorem bodyComponents_intercalate (h : ∀ part ∈ parts, '/' ∉ part) :
    bodyComponents (['/'].intercalate parts) = parts.filterMap partComponent := by
  by_cases hne : parts = []
  · rw [hne, List.intercalate_nil, bodyComponents_nil, List.filterMap_nil]
  · rw [bodyComponents, List.splitOn_intercalate '/' h hne]

/-! ## The beginning of a path -/

variable {path : PathBuf}

theorem isAbsolute_iff : isAbsolute .linux path = true ↔ ∃ body, path = '/' :: body := by
  cases path with
  | nil => simp [isAbsolute, hasRoot, hasPhysicalRoot, parsePrefix]
  | cons c body =>
      simp [isAbsolute, hasRoot, hasPhysicalRoot, parsePrefix, prefixLen, isSeparator]

theorem startsWithCurDir_iff :
    startsWithCurDir .linux path = true ↔
      ∃ body, path = '.' :: body ∧ ∀ c ∈ body.head?, c = '/' := by
  match path with
  | [] => simp [startsWithCurDir, prefixLen, parsePrefix]
  | [c] =>
      by_cases hc : c = '.'
      · subst hc
        simp [startsWithCurDir, prefixLen, parsePrefix, hasRoot, hasPhysicalRoot, isSeparator]
      · simp [startsWithCurDir, prefixLen, parsePrefix, hc]
  | c :: d :: rest =>
      by_cases hc : c = '.'
      · subst hc
        simp [startsWithCurDir, prefixLen, parsePrefix, hasRoot, hasPhysicalRoot, isSeparator]
      · simp [startsWithCurDir, prefixLen, parsePrefix, hc]

/-- A path has a root, starts with a dot or is all body. -/
theorem path_cases (path : PathBuf) :
    (∃ body, path = '/' :: body) ∨ (∃ body, path = '.' :: body ∧ ∀ c ∈ body.head?, c = '/') ∨
      (isAbsolute .linux path = false ∧ startsWithCurDir .linux path = false) := by
  by_cases habs : isAbsolute .linux path = true
  · exact .inl (isAbsolute_iff.mp habs)
  · by_cases hdot : startsWithCurDir .linux path = true
    · exact .inr (.inl (startsWithCurDir_iff.mp hdot))
    · exact .inr (.inr ⟨by simpa using habs, by simpa using hdot⟩)

theorem components_linux (path : PathBuf) :
    components .linux path =
      (if isAbsolute .linux path then [.rootDir]
        else if startsWithCurDir .linux path then [.curDir] else []) ++ bodyComponents path := by
  have hroot : hasPhysicalRoot .linux path = isAbsolute .linux path := by
    simp [isAbsolute, hasRoot, parsePrefix]
  unfold components
  rw [hroot]
  rfl

theorem components_slash (body : Text) :
    components .linux ('/' :: body) = .rootDir :: bodyComponents body := by
  rw [components_linux, if_pos (isAbsolute_iff.mpr ⟨body, rfl⟩)]
  exact congrArg _ (bodyComponents_append [] body)

variable {body : Text}

theorem components_dot (h : ∀ c ∈ body.head?, c = '/') :
    components .linux ('.' :: body) = .curDir :: bodyComponents body := by
  have habs : ¬ isAbsolute .linux ('.' :: body) = true := by simp [isAbsolute_iff]
  have hbody : bodyComponents ('.' :: body) = bodyComponents body := by
    cases body with
    | nil => rfl
    | cons c body =>
        obtain rfl := h c rfl
        exact (bodyComponents_append ['.'] body).trans (bodyComponents_append [] body).symm
  rw [components_linux, if_neg habs, if_pos (startsWithCurDir_iff.mpr ⟨body, rfl, h⟩), hbody]
  rfl

theorem components_relative (habs : isAbsolute .linux path = false)
    (hdot : startsWithCurDir .linux path = false) :
    components .linux path = bodyComponents path := by
  rw [components_linux, habs, hdot]
  rfl

theorem components_append (hne : path ≠ []) (q : Text) :
    components .linux (path ++ '/' :: q) = components .linux path ++ bodyComponents q := by
  rcases path_cases path with ⟨body, rfl⟩ | ⟨body, rfl, hbody⟩ | ⟨habs, hdot⟩
  · rw [List.cons_append, components_slash, components_slash, bodyComponents_append,
      List.cons_append]
  · have hbody' : ∀ c ∈ (body ++ '/' :: q).head?, c = '/' := by
      cases body with
      | nil => simp
      | cons c body => exact hbody
    rw [List.cons_append, components_dot hbody, components_dot hbody', bodyComponents_append,
      List.cons_append]
  · -- the path is not empty, so what is added does not change how it starts
    have habs' : isAbsolute .linux (path ++ '/' :: q) = false := by
      rw [← Bool.not_eq_true, isAbsolute_iff] at habs ⊢
      rintro ⟨body, hbody⟩
      cases path with
      | nil => exact hne rfl
      | cons c path => exact habs ⟨path, by rw [(List.cons.inj hbody).1]⟩
    have hdot' : startsWithCurDir .linux (path ++ '/' :: q) = false := by
      rw [← Bool.not_eq_true, startsWithCurDir_iff] at hdot ⊢
      rintro ⟨body, hbody, hhead⟩
      match path, hne with
      | [c], _ => exact hdot ⟨[], by rw [(List.cons.inj hbody).1], by simp⟩
      | c :: d :: path, _ =>
          obtain ⟨hc, rfl⟩ := List.cons.inj hbody
          exact hdot ⟨d :: path, by rw [hc], hhead⟩
    rw [components_relative habs' hdot', components_relative habs hdot, bodyComponents_append]

theorem components_append_slash (hne : path ≠ []) :
    components .linux (path ++ ['/']) = components .linux path := by
  rw [components_append hne, bodyComponents_nil, List.append_nil]

/-! ## Adding a name -/

/-- The text of a normal component. -/
structure IsName (part : Text) : Prop where
  ne_nil : part ≠ []
  not_mem : '/' ∉ part
  ne_dot : part ≠ ['.']
  ne_dots : part ≠ ['.', '.']

variable {part : Text}

theorem IsName.partComponent_eq (h : IsName part) : partComponent part = some (.normal part) := by
  simp [partComponent, bodyComponent, h.ne_nil, h.ne_dot, h.ne_dots]

theorem IsName.bodyComponents_eq (h : IsName part) : bodyComponents part = [.normal part] := by
  rw [bodyComponents, List.splitOn_eq_singleton h.not_mem]
  simp [h.partComponent_eq]

theorem IsName.components_eq (h : IsName part) : components .linux part = [.normal part] := by
  rw [components_relative, h.bodyComponents_eq]
  · rw [← Bool.not_eq_true, isAbsolute_iff]
    rintro ⟨body, rfl⟩
    exact h.not_mem List.mem_cons_self
  · rw [← Bool.not_eq_true, startsWithCurDir_iff]
    rintro ⟨body, rfl, hbody⟩
    cases body with
    | nil => exact h.ne_dot rfl
    | cons c body =>
        obtain rfl := hbody c rfl
        exact h.not_mem (by simp)

theorem not_mem_of_mem_splitOn (h : part ∈ body.splitOn '/') : '/' ∉ part := by
  intro hmem
  rw [List.splitOn_eq_splitOnP] at h
  simpa using Lib.not_sep_of_mem_splitOnP h _ hmem

/-- The components of the body are names and double dots. -/
theorem mem_bodyComponents {c : Component} (h : c ∈ bodyComponents body) :
    c = .parentDir ∨ ∃ part, c = .normal part ∧ IsName part := by
  obtain ⟨part, hpart, hc⟩ := List.mem_filterMap.mp h
  have hslash := not_mem_of_mem_splitOn hpart
  unfold partComponent bodyComponent at hc
  split at hc
  · cases hc
  · rename_i hdot
    split at hc
    · exact .inl (Option.some.inj hc).symm
    · rename_i hdots
      split at hc
      · cases hc
      · rename_i hempty
        refine .inr ⟨part, (Option.some.inj hc).symm, ?_, hslash, ?_, ?_⟩
        · simpa using hempty
        · simpa using hdot
        · simpa using hdots

/-- The components of a path on Unix. -/
theorem mem_components {c : Component} (h : c ∈ components .linux path) :
    c = .rootDir ∨ c = .curDir ∨ c = .parentDir ∨ ∃ part, c = .normal part ∧ IsName part := by
  rw [components_linux, List.mem_append] at h
  rcases h with h | h
  · split at h
    · exact .inl (List.mem_singleton.mp h)
    · split at h
      · exact .inr (.inl (List.mem_singleton.mp h))
      · cases h
  · exact .inr (.inr (mem_bodyComponents h))

theorem isName_of_mem_components (h : .normal part ∈ components .linux path) : IsName part := by
  rcases mem_components h with h | h | h | ⟨part, h, hpart⟩
  · cases h
  · cases h
  · cases h
  · cases h
    exact hpart

theorem join_linux (base : PathBuf) (h : isAbsolute .linux part = false) :
    join .linux base part =
      if base.getLast?.any (· != '/') then base ++ '/' :: part else base ++ part := by
  have hroot : hasRoot .linux part = false := h
  simp [join, h, hroot, parsePrefix, isSeparator, mainSeparator]
  rfl

theorem components_join (base : PathBuf) (h : IsName part) :
    components .linux (join .linux base part) = components .linux base ++ [.normal part] := by
  have habs : isAbsolute .linux part = false := by
    rw [← Bool.not_eq_true, isAbsolute_iff]
    rintro ⟨body, rfl⟩
    exact h.not_mem List.mem_cons_self
  rw [join_linux base habs]
  rcases List.eq_nil_or_concat' base with rfl | ⟨base, c, rfl⟩
  · exact h.components_eq
  · rw [List.getLast?_concat]
    by_cases hc : c = '/'
    · -- the separator is already there
      subst hc
      rw [if_neg (by simp), List.append_assoc, List.singleton_append]
      by_cases hne : base = []
      · subst hne
        rw [List.nil_append, List.nil_append, components_slash, components_slash,
          bodyComponents_nil, h.bodyComponents_eq]
        rfl
      · rw [components_append hne, components_append_slash hne, h.bodyComponents_eq]
    · rw [if_pos (by simpa using hc), components_append (by simp), h.bodyComponents_eq]

/-! ## The parent -/

/-- What a path is left with when its last component is taken away; the root stays. -/
def popComponents (cs : List Component) : List Component :=
  if cs.getLast? = some .rootDir then cs else cs.dropLast

/-- What `trim_right` leaves ends with a component, and holds all of them. -/
theorem trimParts_cases (path : PathBuf) (parts : List Text) :
    (trimParts .linux path parts = [] ∧ parts.filterMap partComponent = []) ∨
      ∃ front part c, trimParts .linux path parts = front ++ [part] ∧
        partComponent part = some c ∧
        parts.filterMap partComponent = front.filterMap partComponent ++ [c] := by
  change (parts.rdropWhile fun part => (partComponent part).isNone) = [] ∧ _ ∨
    ∃ front part c, (parts.rdropWhile fun part => (partComponent part).isNone) = front ++ [part] ∧ _
  induction parts using List.reverseRecOn with
  | nil => exact .inl ⟨rfl, rfl⟩
  | append_singleton parts part ih =>
      rw [List.rdropWhile_concat, List.filterMap_append]
      cases hpart : partComponent part with
      | none => simpa [hpart] using ih
      | some c => exact .inr ⟨parts, part, c, by simp, hpart, by simp [hpart]⟩

theorem intercalate_isPrefix (x : Char) (parts rest : List Text) :
    [x].intercalate parts <+: [x].intercalate (parts ++ rest) := by
  induction parts with
  | nil => simp
  | cons part parts ih =>
      cases parts with
      | nil =>
          cases rest with
          | nil => simp
          | cons r rest => simp [List.intercalate_cons_cons, List.append_assoc]
      | cons part' parts =>
          rw [List.intercalate_cons_cons, List.cons_append, List.cons_append,
            List.intercalate_cons_cons]
          exact (List.prefix_append_right_inj _).mpr ih

theorem intercalate_prefix_of_splitOn {rest : List Text} (h : body.splitOn '/' = parts ++ rest) :
    ['/'].intercalate parts <+: body := by
  have hbody : ['/'].intercalate (parts ++ rest) = body := by
    rw [← h, List.intercalate_splitOn]
  exact hbody ▸ intercalate_isPrefix '/' parts rest

/-- The text of the first parts of a body. -/
theorem take_partsLen {rest : List Text} (h : body.splitOn '/' = parts ++ rest) :
    body.take (partsLen .linux parts) = ['/'].intercalate parts :=
  (List.prefix_iff_eq_take.mp (intercalate_prefix_of_splitOn h)).symm

theorem head?_of_isPrefix {body' : Text} (h : body <+: body') {c : Char} (hc : c ∈ body.head?) :
    c ∈ body'.head? := by
  obtain ⟨rest, rfl⟩ := h
  cases body with
  | nil => cases hc
  | cons d body => exact hc

theorem lenBeforeBody_linux (path : PathBuf) :
    lenBeforeBody .linux path = (if isAbsolute .linux path then 1 else 0) +
      if startsWithCurDir .linux path then 1 else 0 := by
  simp [lenBeforeBody, prefixLen, parsePrefix, isAbsolute, hasRoot]

theorem lenBeforeBody_slash (body : Text) : lenBeforeBody .linux ('/' :: body) = 1 := by
  have hdot : ¬ startsWithCurDir .linux ('/' :: body) = true := by simp [startsWithCurDir_iff]
  rw [lenBeforeBody_linux, if_pos (isAbsolute_iff.mpr ⟨body, rfl⟩), if_neg hdot]

/-- The components before the body, of a path and of every path that shares its beginning and the
first parts of its body. -/
theorem exists_lead (path : PathBuf) : ∃ lead : List Component,
    components .linux path =
      lead ++ bodyComponents (path.drop (lenBeforeBody .linux path)) ∧
    (∀ parts rest, (path.drop (lenBeforeBody .linux path)).splitOn '/' = parts ++ rest →
      (∀ part ∈ parts.getLast?, (partComponent part).isSome) →
      components .linux (path.take (lenBeforeBody .linux path + partsLen .linux parts)) =
        lead ++ parts.filterMap partComponent) ∧
    if startsWithCurDir .linux path then
      lead = [.curDir] ∧ path.take (lenBeforeBody .linux path - 1) = []
    else lead = [] ∨ lead = [.rootDir] := by
  have hfree : ∀ {body : Text} {parts rest : List Text}, body.splitOn '/' = parts ++ rest →
      ∀ part ∈ parts, '/' ∉ part := fun h part hpart =>
    not_mem_of_mem_splitOn (h ▸ List.mem_append_left _ hpart)
  rcases path_cases path with ⟨body, rfl⟩ | ⟨body, rfl, hbody⟩ | ⟨habs, hdot⟩
  · have hdot : ¬ startsWithCurDir .linux ('/' :: body) = true := by simp [startsWithCurDir_iff]
    rw [lenBeforeBody_slash]
    refine ⟨[.rootDir], components_slash body, fun parts rest hparts _ => ?_, by simp [hdot]⟩
    rw [List.drop_one, List.tail_cons] at hparts
    rw [Nat.add_comm, List.take_succ_cons, take_partsLen hparts, components_slash,
      bodyComponents_intercalate (hfree hparts)]
    rfl
  · have habs : ¬ isAbsolute .linux ('.' :: body) = true := by simp [isAbsolute_iff]
    have hdot : startsWithCurDir .linux ('.' :: body) = true :=
      startsWithCurDir_iff.mpr ⟨body, rfl, hbody⟩
    have hlen : lenBeforeBody .linux ('.' :: body) = 1 := by
      rw [lenBeforeBody_linux, if_neg habs, if_pos hdot]
    rw [hlen]
    refine ⟨[.curDir], components_dot hbody, fun parts rest hparts _ => ?_, by simp [hdot]⟩
    rw [List.drop_one, List.tail_cons] at hparts
    have hpre : ∀ c ∈ (['/'].intercalate parts).head?, c = '/' := fun c hc =>
      hbody c (head?_of_isPrefix (intercalate_prefix_of_splitOn hparts) hc)
    rw [Nat.add_comm, List.take_succ_cons, take_partsLen hparts, components_dot hpre,
      bodyComponents_intercalate (hfree hparts)]
    rfl
  · have hlen : lenBeforeBody .linux path = 0 := by
      rw [lenBeforeBody_linux, habs, hdot]
      rfl
    rw [hlen]
    refine ⟨[], components_relative habs hdot, fun parts rest hparts hlast => ?_, by simp [hdot]⟩
    have hpre : ['/'].intercalate parts <+: path := intercalate_prefix_of_splitOn hparts
    have htake : path.take (partsLen .linux parts) = ['/'].intercalate parts := take_partsLen hparts
    rw [Nat.zero_add, htake, List.nil_append, ← bodyComponents_intercalate (hfree hparts)]
    rw [← Bool.not_eq_true, isAbsolute_iff] at habs
    rw [← Bool.not_eq_true, startsWithCurDir_iff] at hdot
    refine components_relative ?_ ?_
    · rw [← Bool.not_eq_true, isAbsolute_iff]
      rintro ⟨body, hbody⟩
      obtain ⟨rest', rfl⟩ := hbody ▸ hpre
      exact habs ⟨body ++ rest', rfl⟩
    · rw [← Bool.not_eq_true, startsWithCurDir_iff]
      rintro ⟨body, hbody, hhead⟩
      obtain ⟨rest', rfl⟩ := hbody ▸ hpre
      cases body with
      | cons c body => exact hdot ⟨c :: body ++ rest', rfl, hhead⟩
      | nil =>
          -- a dot alone is no component
          have hdotPart : parts = [['.']] := by
            have hsplit := List.splitOn_intercalate '/' (hfree hparts) (by rintro rfl; cases hbody)
            rw [← hsplit, hbody]
            rfl
          rw [hdotPart] at hlast
          exact Bool.false_ne_true (hlast ['.'] rfl)

theorem parent_linux (path : PathBuf) :
    parent .linux path =
      if (trimParts .linux path ((path.drop (lenBeforeBody .linux path)).splitOn '/')).isEmpty then
        if startsWithCurDir .linux path then some (path.take (lenBeforeBody .linux path - 1))
        else none
      else some (path.take (lenBeforeBody .linux path + partsLen .linux (trimParts .linux path
        (trimParts .linux path
          ((path.drop (lenBeforeBody .linux path)).splitOn '/')).dropLast))) := rfl

/-- **The parent is the path without its last component**, if that is not the root. -/
theorem components_parent (path : PathBuf) :
    components .linux ((parent .linux path).getD path) =
      popComponents (components .linux path) := by
  obtain ⟨lead, hpath, htake, hlead⟩ := exists_lead path
  rw [parent_linux]
  set parts := (path.drop (lenBeforeBody .linux path)).splitOn '/' with hparts
  have hbody : bodyComponents (path.drop (lenBeforeBody .linux path)) =
      parts.filterMap partComponent := rfl
  rw [hpath, hbody]
  rcases trimParts_cases path parts with ⟨htrim, hnone⟩ | ⟨front, part, c, htrim, hpart, hsome⟩
  · -- the body has no component: the last one is what precedes it
    rw [htrim, if_pos List.isEmpty_nil, hnone, List.append_nil]
    by_cases hdot : startsWithCurDir .linux path = true
    · rw [if_pos hdot] at hlead ⊢
      rw [Option.getD_some, hlead.1, hlead.2]
      rfl
    · rw [if_neg hdot] at hlead ⊢
      rw [Option.getD_none, hpath, hbody, hnone, List.append_nil]
      rcases hlead with rfl | rfl <;> rfl
  · have hc : c ≠ .rootDir := by
      have hmem : c ∈ bodyComponents (path.drop (lenBeforeBody .linux path)) := by
        rw [hbody, hsome]
        simp
      rcases mem_bodyComponents hmem with rfl | ⟨name, rfl, -⟩ <;> simp
    have hpop : popComponents (lead ++ (front.filterMap partComponent ++ [c])) =
        lead ++ front.filterMap partComponent := by
      rw [← List.append_assoc, popComponents, List.getLast?_concat, if_neg (by simpa using hc),
        List.dropLast_concat]
    obtain ⟨rest, hrest⟩ : trimParts .linux path front <+: parts :=
      calc trimParts .linux path front <+: front := List.rdropWhile_prefix _ _
        _ <+: front ++ [part] := List.prefix_append _ _
        _ <+: parts := htrim ▸ List.rdropWhile_prefix _ _
    have hkept : (∀ part ∈ (trimParts .linux path front).getLast?, (partComponent part).isSome) ∧
        (trimParts .linux path front).filterMap partComponent = front.filterMap partComponent := by
      rcases trimParts_cases path front with
        ⟨hkept, hfront⟩ | ⟨front', part', c', hkept, hc', hfront⟩
      · rw [hkept, hfront]
        simp
      · rw [hkept, hfront]
        simp [hc']
    rw [htrim, if_neg (by simp), Option.getD_some, List.dropLast_concat,
      htake _ rest hrest.symm hkept.1, hkept.2, hsome, hpop]

end Narrowd.PathBuf
