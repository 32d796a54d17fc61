import Narrowd.Basic.UnixPath
import Narrowd.Lib.Lexical

set_option autoImplicit false

/-! # The paths of SFTP requests

`resolve_path` starts from the root directory of the session, or from `/` if the path is absolute,
and follows the components of the path one by one. It does so on the text of the path.

On Unix this is a walk in the tree of directories (`components_resolvePath`): a place is the list of
the names that lead to it from `/`, a double dot goes up and a name goes down.
-/

namespace Narrowd.Sftp

open PathBuf Lib

section

variable (p : Platform)

/-- How `normalize_path` follows one component. -/
def follow (out : PathBuf) : Component → PathBuf
  | .pathPrefix text _ => join p out text
  | .rootDir => ['/']
  | .curDir => out
  -- `pop` leaves a path without a parent as it is
  | .parentDir => (parent p out).getD out
  | .normal part => join p out part

def normalizePath (base input : PathBuf) : PathBuf :=
  let out := (components p input).foldl (follow p) base
  if out.isEmpty then ['/'] else out

/-- `LocalSftp::resolve_path`. -/
def resolvePath (rootDir : PathBuf) (path : Text) : PathBuf :=
  if isAbsolute p path then normalizePath p ['/'] path else normalizePath p rootDir path

end

/-! ## Following components -/

/-- What following a component does to the components of a path. -/
def followComponents (cs : List Component) : Component → List Component
  | .rootDir => [.rootDir]
  | .parentDir => popComponents cs
  | .normal part => cs ++ [.normal part]
  | _ => cs

variable {path : PathBuf}

theorem components_follow (out : PathBuf) {c : Component} (h : c ∈ components .linux path) :
    components .linux (follow .linux out c) = followComponents (components .linux out) c := by
  rcases mem_components h with rfl | rfl | rfl | ⟨part, rfl, hpart⟩
  · exact components_slash []
  · rfl
  · exact components_parent out
  · exact components_join out hpart

theorem components_foldl_follow (out path : PathBuf) {cs : List Component}
    (h : ∀ c ∈ cs, c ∈ components .linux path) :
    components .linux (cs.foldl (follow .linux) out) =
      cs.foldl followComponents (components .linux out) := by
  induction cs generalizing out with
  | nil => rfl
  | cons c cs ih =>
      obtain ⟨hc, hcs⟩ := List.forall_mem_cons.mp h
      rw [List.foldl_cons, List.foldl_cons, ih _ hcs, components_follow out hc]

theorem exists_first_part (path : PathBuf) : ∃ part rest, '/' ∉ part ∧ path = part ++ rest ∧
    (rest = [] ∨ ∃ rest', rest = '/' :: rest') := by
  refine ⟨path.takeWhile (· != '/'), path.dropWhile (· != '/'), ?_,
    List.takeWhile_append_dropWhile.symm, ?_⟩
  · intro h
    simpa using List.all_eq_true.mp List.all_takeWhile _ h
  · cases hrest : path.dropWhile (· != '/') with
    | nil => exact .inl rfl
    | cons c rest =>
        have hc := List.head?_dropWhile_not (· != '/') path
        rw [hrest] at hc
        have hslash : c = '/' := by simpa using hc
        exact .inr ⟨rest, by rw [hslash]⟩

/-- Only the empty path has no components. -/
theorem components_eq_nil_iff : components .linux path = [] ↔ path = [] := by
  constructor
  · intro h
    by_contra hne
    rcases path_cases path with ⟨body, rfl⟩ | ⟨body, rfl, hbody⟩ | ⟨habs, hdot⟩
    · rw [components_slash] at h
      cases h
    · rw [components_dot hbody] at h
      cases h
    · -- what precedes the first separator is a component, unless it is empty or a dot
      rw [components_relative habs hdot] at h
      rw [← Bool.not_eq_true, isAbsolute_iff] at habs
      rw [← Bool.not_eq_true, startsWithCurDir_iff] at hdot
      obtain ⟨part, rest, hslash, hpath, hrest⟩ := exists_first_part path
      have hpart : part ∈ path.splitOn '/' := by
        rcases hrest with rfl | ⟨rest, rfl⟩
        · rw [hpath, List.append_nil, List.splitOn_eq_singleton hslash]
          exact List.mem_singleton_self part
        · rw [hpath, List.splitOn_append_cons_self_of_not_mem hslash]
          exact List.mem_cons_self
      have hnone : partComponent part = none := List.filterMap_eq_nil_iff.mp h part hpart
      by_cases hempty : part = []
      · subst hempty
        rcases hrest with rfl | ⟨rest, rfl⟩
        · exact hne hpath
        · exact habs ⟨rest, hpath⟩
      · by_cases hpoint : part = ['.']
        · subst hpoint
          rcases hrest with rfl | ⟨rest, rfl⟩
          · exact hdot ⟨[], hpath, by simp⟩
          · exact hdot ⟨'/' :: rest, hpath, by simp⟩
        · by_cases hdots : part = ['.', '.'] <;>
            simp [partComponent, bodyComponent, hempty, hpoint, hdots] at hnone
  · rintro rfl
    rfl

theorem components_normalizePath (base input : PathBuf) :
    components .linux (normalizePath .linux base input) =
      let cs := (components .linux input).foldl followComponents (components .linux base)
      if cs = [] then [.rootDir] else cs := by
  have hfold := components_foldl_follow base input fun c hc => hc
  unfold normalizePath
  dsimp only
  rw [← hfold]
  by_cases hout : (components .linux input).foldl (follow .linux) base = []
  · rw [if_pos (List.isEmpty_iff.mpr hout), if_pos (components_eq_nil_iff.mpr hout)]
    exact components_slash []
  · rw [if_neg (by simpa using hout), if_neg (by simpa [components_eq_nil_iff] using hout)]

/-! ## Walks -/

/-- The moves that components stand for. -/
def moves (cs : List Component) : List (Move Component) :=
  cs.filterMap fun
    | .parentDir => some .up
    | .normal part => some (.down (.normal part))
    | _ => none

/-- What precedes the components that can be taken away. -/
def IsFloor (floor : List Component) : Prop := floor = [] ∨ floor = [.rootDir]

theorem popComponents_append {floor rest : List Component} (hfloor : IsFloor floor)
    (hrest : .rootDir ∉ rest) : popComponents (floor ++ rest) = floor ++ rest.dropLast := by
  rcases List.eq_nil_or_concat' rest with rfl | ⟨rest, c, rfl⟩
  · rcases hfloor with rfl | rfl <;> rfl
  · have hc : some c ≠ some Component.rootDir := by
      rintro h
      exact hrest (by simp [Option.some.inj h])
    rw [← List.append_assoc, popComponents, List.getLast?_concat, if_neg hc, List.dropLast_concat,
      List.dropLast_concat]

/-- **To follow components is to walk.** -/
theorem foldl_followComponents {floor rest cs : List Component} (hfloor : IsFloor floor)
    (hrest : .rootDir ∉ rest) (hcs : .rootDir ∉ cs) :
    cs.foldl followComponents (floor ++ rest) = floor ++ walk rest (moves cs) := by
  induction cs generalizing rest with
  | nil => rfl
  | cons c cs ih =>
      have hcs' : .rootDir ∉ cs := fun h => hcs (List.mem_cons_of_mem c h)
      rw [List.foldl_cons]
      cases c with
      | rootDir => exact absurd List.mem_cons_self hcs
      | pathPrefix text kind => exact ih hrest hcs'
      | curDir => exact ih hrest hcs'
      | parentDir =>
          rw [followComponents, popComponents_append hfloor hrest]
          exact ih (fun h => hrest (List.mem_of_mem_dropLast h)) hcs'
      | normal part =>
          rw [followComponents, List.append_assoc]
          exact ih (by simpa using hrest) hcs'

/-- The components of a path: the root, if it has one, and others. -/
theorem exists_floor (path : PathBuf) : ∃ rest, .rootDir ∉ rest ∧
    components .linux path = (if isAbsolute .linux path then [.rootDir] else []) ++ rest := by
  have hbody : .rootDir ∉ bodyComponents path := by
    intro h
    rcases mem_bodyComponents h with h | ⟨part, h, -⟩ <;> cases h
  rw [components_linux]
  split
  · exact ⟨bodyComponents path, hbody, rfl⟩
  · split
    · exact ⟨.curDir :: bodyComponents path, by simpa using hbody, rfl⟩
    · exact ⟨bodyComponents path, hbody, rfl⟩

/-! ## Places -/

/-- The names that lead from `/` to a place. -/
def IsPlace (place : List Component) : Prop := ∀ c ∈ place, ∃ part, c = .normal part ∧ IsName part

variable {place : List Component}

theorem IsPlace.not_mem_rootDir (h : IsPlace place) : .rootDir ∉ place := by
  intro hmem
  obtain ⟨part, hpart, -⟩ := h _ hmem
  cases hpart

theorem IsPlace.apply (h : IsPlace place) (move : Move Component)
    (hmove : ∀ c, move = .down c → ∃ part, c = .normal part ∧ IsName part) :
    IsPlace (move.apply place) := by
  cases move with
  | up => exact fun c hc => h c (List.mem_of_mem_dropLast hc)
  | down c =>
      intro d hd
      rcases List.mem_append.mp hd with hd | hd
      · exact h d hd
      · exact List.mem_singleton.mp hd ▸ hmove c rfl

/-- A walk leads from a place to a place. -/
theorem IsPlace.walk (h : IsPlace place) (path : PathBuf) :
    IsPlace (walk place (moves (components .linux path))) := by
  have hmoves : ∀ move ∈ moves (components .linux path), ∀ c, move = .down c →
      ∃ part, c = .normal part ∧ IsName part := by
    rintro move hmove c rfl
    obtain ⟨d, hd, hdown⟩ := List.mem_filterMap.mp hmove
    rcases mem_components hd with rfl | rfl | rfl | ⟨part, rfl, hpart⟩
    · cases hdown
    · cases hdown
    · cases hdown
    · obtain rfl := Move.down.inj (Option.some.inj hdown)
      exact ⟨part, rfl, hpart⟩
  revert hmoves
  generalize moves (components .linux path) = ms
  intro hmoves
  induction ms generalizing place with
  | nil => exact h
  | cons move ms ih =>
      obtain ⟨hmove, hrest⟩ := List.forall_mem_cons.mp hmoves
      exact ih (h.apply move hmove) hrest

theorem moves_place (h : IsPlace place) : moves place = place.map Move.down := by
  induction place with
  | nil => rfl
  | cons c place ih =>
      obtain ⟨⟨part, rfl, -⟩, hplace⟩ := List.forall_mem_cons.mp h
      change Move.down _ :: moves place = _
      rw [ih hplace, List.map_cons]

theorem walk_moves_place (h : IsPlace place) : walk [] (moves (.rootDir :: place)) = place := by
  change walk [] (moves place) = place
  rw [moves_place h, walk_downs, List.nil_append]

/-- The path leads from `/` to the place, and holds nothing else. -/
structure At (path : PathBuf) (place : List Component) : Prop where
  isPlace : IsPlace place
  components_eq : components .linux path = .rootDir :: place

theorem At.absolute (h : At path place) : isAbsolute .linux path = true := by
  by_contra habs
  obtain ⟨rest, hrest, hpath⟩ := exists_floor path
  rw [h.components_eq, if_neg habs, List.nil_append] at hpath
  exact hrest (hpath ▸ List.mem_cons_self)

theorem at_slash : At ['/'] [] := ⟨by simp [IsPlace], components_slash []⟩

variable {base : PathBuf}

theorem foldl_followComponents_at (h : At base place) (input : PathBuf) :
    (components .linux input).foldl followComponents (components .linux base) =
      .rootDir :: walk (if isAbsolute .linux input then [] else place)
        (moves (components .linux input)) := by
  obtain ⟨rest, hrest, hinput⟩ := exists_floor input
  have hwalk := fun (place : List Component) (hplace : IsPlace place) =>
    foldl_followComponents (.inr rfl : IsFloor [Component.rootDir]) hplace.not_mem_rootDir hrest
  rw [h.components_eq, hinput]
  split
  · exact hwalk [] at_slash.isPlace
  · exact hwalk place h.isPlace

/-- **`normalize_path` walks**, from the base or, if the input is absolute, from `/`. -/
theorem at_normalizePath (h : At base place) (input : PathBuf) :
    At (normalizePath .linux base input)
      (walk (if isAbsolute .linux input then [] else place)
        (moves (components .linux input))) := by
  refine ⟨?_, ?_⟩
  · split
    · exact at_slash.isPlace.walk input
    · exact h.isPlace.walk input
  · rw [components_normalizePath, foldl_followComponents_at h]
    rfl

/-- From an absolute path `normalize_path` never comes to the empty one. -/
theorem normalizePath_eq_foldl (h : At base place) (input : PathBuf) :
    normalizePath .linux base input = (components .linux input).foldl (follow .linux) base := by
  refine if_neg ?_
  rw [List.isEmpty_iff, ← components_eq_nil_iff,
    components_foldl_follow base input fun c hc => hc, foldl_followComponents_at h]
  exact List.cons_ne_nil _ _

variable {rootDir : PathBuf}

/-- **`resolve_path` walks**, from the root directory of the session or from `/`. -/
theorem at_resolvePath (h : At rootDir place) (path : Text) :
    At (resolvePath .linux rootDir path)
      (walk (if isAbsolute .linux path then [] else place)
        (moves (components .linux path))) := by
  unfold resolvePath
  split
  · rename_i habs
    have hwalk := at_normalizePath at_slash path
    rwa [if_pos habs] at hwalk
  · rename_i habs
    have hwalk := at_normalizePath h path
    rwa [if_neg habs] at hwalk

/-- To resolve a path that holds nothing but names leads where it does. -/
theorem at_resolvePath_self (h : At path place) (rootDir : PathBuf) :
    At (resolvePath .linux rootDir path) place := by
  have hwalk := at_normalizePath at_slash path
  rw [if_pos h.absolute, h.components_eq] at hwalk
  rw [walk_moves_place h.isPlace] at hwalk
  rw [resolvePath, if_pos h.absolute]
  exact hwalk

/-! ## The text of a path -/

/-- The path to a place, as it is written: a separator before each name. -/
def pathText (place : List Component) : PathBuf :=
  '/' :: ['/'].intercalate (place.map (componentText .linux))

theorem componentText_of_isPlace (h : IsPlace place) {part : Text}
    (hpart : part ∈ place.map (componentText .linux)) : IsName part := by
  obtain ⟨c, hc, rfl⟩ := List.mem_map.mp hpart
  obtain ⟨part, rfl, hname⟩ := h c hc
  exact hname

theorem filterMap_partComponent (h : IsPlace place) :
    (place.map (componentText .linux)).filterMap partComponent = place := by
  induction place with
  | nil => rfl
  | cons c place ih =>
      obtain ⟨⟨part, rfl, hpart⟩, hplace⟩ := List.forall_mem_cons.mp h
      rw [List.map_cons, List.filterMap_cons_some (b := .normal part) hpart.partComponent_eq,
        ih hplace]

theorem at_pathText (h : IsPlace place) : At (pathText place) place := by
  refine ⟨h, ?_⟩
  rw [pathText, components_slash, bodyComponents_intercalate, filterMap_partComponent h]
  exact fun part hpart => (componentText_of_isPlace h hpart).not_mem

theorem intercalate_concat {x : Char} {parts : List Text} (hne : parts ≠ []) (part : Text) :
    [x].intercalate (parts ++ [part]) = [x].intercalate parts ++ x :: part := by
  induction parts with
  | nil => exact absurd rfl hne
  | cons a parts ih =>
      cases parts with
      | nil => simp [List.intercalate_cons_cons]
      | cons b parts =>
          rw [List.cons_append, List.cons_append, List.intercalate_cons_cons, ← List.cons_append,
            ih (List.cons_ne_nil b parts), List.intercalate_cons_cons]
          simp

theorem join_pathText (h : IsPlace place) {part : Text} (hpart : IsName part) :
    join .linux (pathText place) part = pathText (place ++ [.normal part]) := by
  have habs : isAbsolute .linux part = false := by
    rw [← Bool.not_eq_true, isAbsolute_iff]
    rintro ⟨body, rfl⟩
    exact hpart.not_mem List.mem_cons_self
  rw [join_linux _ habs]
  by_cases hne : place = []
  · subst hne
    simp [pathText, componentText]
  · have hparts : place.map (componentText .linux) ≠ [] := by simpa using hne
    -- the text ends with a name, and a separator is needed
    have hlast : (pathText place).getLast?.any (· != '/') = true := by
      obtain ⟨front, c, rfl⟩ := (List.eq_nil_or_concat' place).resolve_left hne
      obtain ⟨name, rfl, hname⟩ := h c (by simp)
      obtain ⟨pre, hpre⟩ : ∃ pre, pathText (front ++ [.normal name]) = pre ++ name := by
        by_cases hfront : front = []
        · exact ⟨['/'], by simp [hfront, pathText, componentText]⟩
        · refine ⟨'/' :: ['/'].intercalate (front.map (componentText .linux)) ++ ['/'], ?_⟩
          rw [pathText, List.map_append, List.map_singleton,
            intercalate_concat (by simpa using hfront)]
          simp [componentText]
      rw [hpre, List.getLast?_append_of_ne_nil _ hname.ne_nil,
        List.getLast?_eq_some_getLast hname.ne_nil, Option.any_some, bne_iff_ne]
      intro hslash
      exact hname.not_mem (hslash ▸ List.getLast_mem hname.ne_nil)
    rw [if_pos hlast, pathText, pathText, List.map_append, List.map_singleton,
      intercalate_concat hparts]
    rfl

theorem trimParts_eq_self (path : PathBuf) {parts : List Text} (h : ∀ part ∈ parts, IsName part) :
    trimParts .linux path parts = parts := by
  refine List.rdropWhile_eq_self_iff.mpr fun hne => ?_
  have hsome : bodyComponent .linux path (parts.getLast hne) = _ :=
    (h _ (List.getLast_mem hne)).partComponent_eq
  rw [hsome]
  simp

theorem parent_pathText (h : IsPlace place) :
    (parent .linux (pathText place)).getD (pathText place) = pathText place.dropLast := by
  rcases List.eq_nil_or_concat' place with rfl | ⟨front, c, rfl⟩
  · rfl
  · set parts := front.map (componentText .linux) with hparts
    have hnames : ∀ part ∈ parts ++ [componentText .linux c], IsName part := by
      intro part hpart
      refine componentText_of_isPlace h ?_
      rwa [List.map_append, List.map_singleton]
    have htext : pathText (front ++ [c]) =
        '/' :: ['/'].intercalate (parts ++ [componentText .linux c]) := by
      rw [pathText, List.map_append, List.map_singleton]
    have hsplit := List.splitOn_intercalate '/' (fun part hpart => (hnames part hpart).not_mem)
      (by simp : parts ++ [componentText .linux c] ≠ [])
    rw [htext, parent_linux, lenBeforeBody_slash, List.drop_one, List.tail_cons, hsplit,
      trimParts_eq_self _ hnames, if_neg (by simp), List.dropLast_concat,
      trimParts_eq_self _ fun part hpart => hnames part (List.mem_append_left _ hpart),
      Option.getD_some, List.dropLast_concat, Nat.add_comm, List.take_succ_cons,
      take_partsLen hsplit]
    rfl

/-- `normalize_path` keeps a text of this form. -/
theorem normalizePath_pathText (h : IsPlace place) (input : PathBuf) :
    normalizePath .linux (pathText place) input =
      pathText (walk (if isAbsolute .linux input then [] else place)
        (moves (components .linux input))) := by
  have hfold : ∀ cs : List Component, (∀ c ∈ cs, c ∈ components .linux input) → .rootDir ∉ cs →
      ∀ place, IsPlace place →
      cs.foldl (follow .linux) (pathText place) = pathText (walk place (moves cs)) := by
    intro cs
    induction cs with
    | nil => exact fun _ _ _ _ => rfl
    | cons c cs ih =>
        intro hmem hroot place hplace
        obtain ⟨hc, hcs⟩ := List.forall_mem_cons.mp hmem
        have hroot' : .rootDir ∉ cs := fun hr => hroot (List.mem_cons_of_mem c hr)
        rw [List.foldl_cons]
        rcases mem_components hc with rfl | rfl | rfl | ⟨part, rfl, hpart⟩
        · exact absurd List.mem_cons_self hroot
        · exact ih hcs hroot' place hplace
        · rw [follow, parent_pathText hplace]
          exact ih hcs hroot' _ (hplace.apply .up (by simp))
        · rw [follow, join_pathText hplace hpart]
          refine ih hcs hroot' _ (hplace.apply (.down (.normal part)) ?_)
          rintro d hd
          cases hd
          exact ⟨part, rfl, hpart⟩
  obtain ⟨rest, hrest, hinput⟩ := exists_floor input
  have hmem : ∀ c ∈ rest, c ∈ components .linux input := fun c hc =>
    hinput ▸ List.mem_append_right _ hc
  unfold normalizePath
  split
  · rename_i habs
    rw [if_pos habs] at hinput
    have hout : (components .linux input).foldl (follow .linux) (pathText place) =
        pathText (walk [] (moves rest)) := by
      rw [hinput]
      exact hfold rest hmem hrest [] at_slash.isPlace
    rw [hout, hinput]
    rfl
  · rename_i habs
    rw [if_neg habs, List.nil_append] at hinput
    have hout := hfold rest hmem hrest place h
    rw [hinput, hout]
    rfl

/-! ## The laws of `resolve_path` -/

/-- A directory from which sessions are served. -/
theorem exists_place (habs : isAbsolute .linux rootDir = true)
    (hdots : ∀ c ∈ components .linux rootDir, c ≠ .curDir ∧ c ≠ .parentDir) :
    ∃ place, At rootDir place := by
  obtain ⟨rest, hrest, hroot⟩ := exists_floor rootDir
  rw [if_pos habs] at hroot
  refine ⟨rest, fun c hc => ?_, hroot⟩
  have hmem : c ∈ components .linux rootDir := hroot ▸ List.mem_append_right _ hc
  rcases mem_components hmem with rfl | rfl | rfl | hname
  · exact absurd hc hrest
  · exact absurd rfl (hdots _ hmem).1
  · exact absurd rfl (hdots _ hmem).2
  · exact hname

/-- To resolve a path and then follow another one from there is to resolve both at once. -/
theorem resolvePath_append (h : At rootDir place) {path q : Text} (hne : path ≠ [])
    (hq : isAbsolute .linux q = false) :
    resolvePath .linux rootDir (path ++ '/' :: q) =
      normalizePath .linux (resolvePath .linux rootDir path) q := by
  have habs : isAbsolute .linux (path ++ '/' :: q) = isAbsolute .linux path := by
    rw [Bool.eq_iff_iff, isAbsolute_iff, isAbsolute_iff]
    cases path with
    | nil => exact absurd rfl hne
    | cons c path => simp
  have hbody : ∀ out : PathBuf, (bodyComponents q).foldl (follow .linux) out =
      (components .linux q).foldl (follow .linux) out := by
    intro out
    rw [components_linux, hq, List.foldl_append]
    split
    · exact absurd ‹false = true› Bool.false_ne_true
    · split <;> rfl
  have hbase : ∀ {base place}, At base place →
      normalizePath .linux base (path ++ '/' :: q) =
        normalizePath .linux (normalizePath .linux base path) q := by
    intro base place hat
    rw [normalizePath_eq_foldl hat, components_append hne, List.foldl_append, hbody,
      ← normalizePath_eq_foldl hat, ← normalizePath_eq_foldl (at_normalizePath hat path)]
  unfold resolvePath
  rw [habs]
  split
  · exact hbase at_slash
  · exact hbase h

theorem resolvePath_pathText (h : IsPlace place) (path : Text) :
    resolvePath .linux (pathText place) path =
      pathText (walk (if isAbsolute .linux path then [] else place)
        (moves (components .linux path))) := by
  unfold resolvePath
  split
  · rename_i habs
    have hwalk := normalizePath_pathText at_slash.isPlace path
    rwa [if_pos habs] at hwalk
  · rename_i habs
    have hwalk := normalizePath_pathText h path
    rwa [if_neg habs] at hwalk

/-- **The resolution of a path is lexical.** The result leads from `/` along names alone; to resolve
it again changes nothing, as paths are compared or, if the root directory is written without empty
parts, as a text; the root directory matters to relative paths only; and step by step or at once is
the same. -/
theorem resolve_path_is_lexical (rootDir : PathBuf) (habs : isAbsolute .linux rootDir = true)
    (hdots : ∀ c ∈ components .linux rootDir, c ≠ .curDir ∧ c ≠ .parentDir) (path : Text) :
    isAbsolute .linux (resolvePath .linux rootDir path) = true ∧
      (∀ c ∈ components .linux (resolvePath .linux rootDir path),
        c = .rootDir ∨ ∃ part, c = .normal part ∧ IsName part) ∧
      components .linux (resolvePath .linux rootDir (resolvePath .linux rootDir path)) =
        components .linux (resolvePath .linux rootDir path) ∧
      (isAbsolute .linux path = true → ∀ rootDir',
        resolvePath .linux rootDir' path = resolvePath .linux rootDir path) ∧
      (∀ q, path ≠ [] → isAbsolute .linux q = false →
        resolvePath .linux rootDir (path ++ '/' :: q) =
          normalizePath .linux (resolvePath .linux rootDir path) q) ∧
      (∀ place, IsPlace place → rootDir = pathText place →
        (∃ place', IsPlace place' ∧ resolvePath .linux rootDir path = pathText place') ∧
        resolvePath .linux rootDir (resolvePath .linux rootDir path) =
          resolvePath .linux rootDir path) := by
  obtain ⟨place, hroot⟩ := exists_place habs hdots
  have hpath := at_resolvePath hroot path
  have hagain := at_resolvePath_self hpath rootDir
  refine ⟨hpath.absolute, ?_, ?_, ?_, ?_, ?_⟩
  · intro c hc
    rw [hpath.components_eq] at hc
    rcases List.mem_cons.mp hc with rfl | hc
    · exact .inl rfl
    · exact .inr (hpath.isPlace c hc)
  · rw [hagain.components_eq, hpath.components_eq]
  · intro hpathabs rootDir'
    rw [resolvePath, if_pos hpathabs, resolvePath, if_pos hpathabs]
  · exact fun q hne hq => resolvePath_append hroot hne hq
  · rintro place hplace rfl
    have htext := resolvePath_pathText hplace path
    have hplace' : IsPlace (walk (if isAbsolute .linux path then [] else place)
        (moves (components .linux path))) := (at_resolvePath (at_pathText hplace) path).isPlace
    refine ⟨⟨_, hplace', htext⟩, ?_⟩
    rw [htext, resolvePath_pathText hplace, if_pos (at_pathText hplace').absolute,
      (at_pathText hplace').components_eq]
    exact congrArg pathText (walk_moves_place hplace')

theorem resolve_path_from_srv :
    resolvePath .linux "/srv/sftp".toList "a/../../b//.".toList = "/srv/b".toList ∧
    isAbsolute .linux "/srv/sftp".toList = true ∧
    isAbsolute .linux (resolvePath .linux "/srv/sftp".toList "a/../../b//.".toList) = true :=
  ⟨by decide, by decide,
    (resolve_path_is_lexical "/srv/sftp".toList (by decide) (by decide) "a/../../b//.".toList).1⟩

end Narrowd.Sftp
