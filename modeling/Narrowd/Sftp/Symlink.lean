import Narrowd.Basic.AnyError
import Narrowd.Sftp.Paths

set_option autoImplicit false

/-! # The SFTP request `symlink`

`LocalSftp::symlink` resolves the target of the link as it resolves the path of every request: from
the root directory of the session. The link is created with the result as its text. A symbolic link
with a relative text is read from the directory that contains the link, and this is what the client
asks for; the two agree if and only if the double dots of the target lead from both directories to
the same one (`symlink_keeps_meaning_iff`).
-/

namespace Narrowd.Sftp

open PathBuf Lib

/-- The codes of `russh_sftp` that the server answers with here. -/
inductive StatusCode
  | ok
  | eof
  | noSuchFile
  | permissionDenied
  | failure
  | opUnsupported
  deriving DecidableEq, Repr

/-- An error reply; `with_message` gives it a text. -/
structure StatusReply where
  code : StatusCode
  message : Option String
  deriving DecidableEq, Repr

structure Status where
  id : Nat
  statusCode : StatusCode
  errorMessage : String
  languageTag : String
  deriving DecidableEq, Repr

def okStatus (id : Nat) : Status :=
  { id := id, statusCode := .ok, errorMessage := "Ok", languageTag := "en-US" }

def ioErrorToStatus (err : IoError) : StatusReply :=
  let code :=
    match err.kind with
    | .notFound => StatusCode.noSuchFile
    | .permissionDenied => .permissionDenied
    | .alreadyExists => .failure
    | .unexpectedEof => .eof
    | _ => .failure
  { code := code, message := some err.text }

/-- A symbolic link: where it is, and its text. -/
structure Link where
  path : PathBuf
  text : PathBuf
  deriving DecidableEq, Repr

/-- `LocalSftp::symlink`: the reply, and the link that is created. `os` is the answer of the system
call. -/
def symlink (p : Platform) (rootDir : PathBuf) (id : Nat) (linkpath targetpath : Text)
    (os : Except IoError Unit) : Except StatusReply Status × Option Link :=
  let linkpath := resolvePath p rootDir linkpath
  let targetpath := resolvePath p rootDir targetpath
  match p with
  | .linux =>
      match os with
      | .ok () => (.ok (okStatus id), some { path := linkpath, text := targetpath })
      | .error err => (.error (ioErrorToStatus err), none)
  | .windows => (.error { code := .opUnsupported, message := none }, none)

/-! ## Where a link leads -/

/-- The place that a path leads to from a directory. -/
def locate (dir : List Component) (path : PathBuf) : List Component :=
  walk (if isAbsolute .linux path then [] else dir) (moves (components .linux path))

namespace Link

variable (cwd : List Component) (link : Link)

/-- The directory that contains the link, for a server that runs in `cwd`. -/
def dir : List Component := locate cwd ((parent .linux link.path).getD link.path)

def leadsTo : List Component := locate (link.dir cwd) link.text

/-- Where a link with the text of the request would lead. -/
def asked (target : Text) : List Component := locate (link.dir cwd) target

end Link

/-! ## The two directories -/

theorem iterate_popComponents {floor rest : List Component} (hfloor : IsFloor floor)
    (hrest : .rootDir ∉ rest) (n : Nat) :
    popComponents^[n] (floor ++ rest) = floor ++ rest.rdrop n := by
  induction n with
  | zero => simp
  | succ n ih =>
      have hnot : .rootDir ∉ rest.rdrop n := fun h => hrest (List.mem_of_mem_take h)
      have hone : (rest.rdrop n).dropLast = (rest.rdrop n).rdrop 1 := by
        simp [List.rdrop, List.dropLast_eq_take]
      rw [Function.iterate_succ_apply', ih, popComponents_append hfloor hnot, hone, List.rdrop_add]

theorem isFloor_ite (rootDir : PathBuf) :
    IsFloor (if isAbsolute .linux rootDir then [.rootDir] else []) := by
  split
  · exact .inr rfl
  · exact .inl rfl

theorem mem_iterate_popComponents (rootDir : PathBuf) (n : Nat) :
    .rootDir ∈ popComponents^[n] (components .linux rootDir) ↔
      isAbsolute .linux rootDir = true := by
  obtain ⟨rest, hrest, hroot⟩ := exists_floor rootDir
  have hnot : .rootDir ∉ rest.rdrop n := fun h => hrest (List.mem_of_mem_take h)
  rw [hroot, iterate_popComponents (isFloor_ite rootDir) hrest, List.mem_append, or_iff_left hnot]
  split
  · rename_i habs
    simp [habs]
  · rename_i habs
    simpa using habs

/-- What the double dots of a target lead to from the root directory of the session, when the text
of the link is read from `dir`. A path of which nothing is left becomes `/`. -/
def climbedFrom (dir : List Component) (rootDir : PathBuf) (n : Net Component) : List Component :=
  let left := popComponents^[n.climbs] (components .linux rootDir)
  if left = [] ∧ n.names = [] then []
  else walk (if isAbsolute .linux rootDir then [] else dir) (moves left)

/-- What a target climbs and descends. -/
def netOf (target : Text) : Net Component := net (moves (components .linux target))

variable {path : PathBuf}

theorem locate_of_relative (dir : List Component) (h : isAbsolute .linux path = false) :
    locate dir path = dir.rdrop (netOf path).climbs ++ (netOf path).names := by
  rw [locate, if_neg (by simp [h]), walk_eq_net]
  rfl

theorem isPlace_names (target : Text) : IsPlace (netOf target).names := by
  have hwalk := walk_eq_net [] (moves (components .linux target))
  have hnil : ([] : List Component).rdrop (net (moves (components .linux target))).climbs = [] := by
    simp [List.rdrop]
  rw [hnil, List.nil_append] at hwalk
  exact hwalk ▸ at_slash.isPlace.walk target

theorem isAbsolute_iff_mem : isAbsolute .linux path = true ↔ .rootDir ∈ components .linux path := by
  obtain ⟨rest, hrest, hpath⟩ := exists_floor path
  rw [hpath]
  split
  · rename_i habs
    simp [habs]
  · rename_i habs
    simpa [habs] using hrest

/-- Where a path leads, by its components. -/
theorem locate_eq (dir : List Component) {cs : List Component} (h : components .linux path = cs) :
    locate dir path = walk (if .rootDir ∈ cs then [] else dir) (moves cs) := by
  unfold locate
  rw [h]
  exact congrArg (walk · _) (if_congr (by rw [isAbsolute_iff_mem, h]) rfl rfl)

/-- The components of a relative path, resolved. -/
theorem components_resolvePath_of_relative (rootDir : PathBuf) {target : Text}
    (h : isAbsolute .linux target = false) :
    components .linux (resolvePath .linux rootDir target) =
      let cs := popComponents^[(netOf target).climbs] (components .linux rootDir) ++
        (netOf target).names
      if cs = [] then [.rootDir] else cs := by
  obtain ⟨rest, hrest, hroot⟩ := exists_floor rootDir
  obtain ⟨rest', hrest', htarget⟩ := exists_floor target
  rw [h, if_neg Bool.false_ne_true, List.nil_append] at htarget
  have hfloor := isFloor_ite rootDir
  have hfold : (components .linux target).foldl followComponents (components .linux rootDir) =
      popComponents^[(netOf target).climbs] (components .linux rootDir) ++
        (netOf target).names := by
    rw [hroot, iterate_popComponents hfloor hrest, htarget,
      foldl_followComponents hfloor hrest hrest', walk_eq_net, List.append_assoc, netOf, htarget]
  rw [resolvePath, if_neg (by simp [h]), components_normalizePath, hfold]

/-- **Where the created link leads**, for a relative target. -/
theorem locate_resolvePath (dir : List Component) (rootDir : PathBuf) {target : Text}
    (h : isAbsolute .linux target = false) :
    locate dir (resolvePath .linux rootDir target) =
      climbedFrom dir rootDir (netOf target) ++ (netOf target).names := by
  have hnames := isPlace_names target
  rw [locate_eq dir (components_resolvePath_of_relative rootDir h)]
  unfold climbedFrom
  dsimp only
  set left := popComponents^[(netOf target).climbs] (components .linux rootDir) with hleft
  by_cases hempty : left = [] ∧ (netOf target).names = []
  · rw [if_pos hempty, hempty.1, hempty.2]
    rfl
  · have hne : left ++ (netOf target).names ≠ [] := by simpa [List.append_eq_nil_iff] using hempty
    have hroot : .rootDir ∈ left ++ (netOf target).names ↔ isAbsolute .linux rootDir = true := by
      rw [List.mem_append, or_iff_left hnames.not_mem_rootDir, hleft, mem_iterate_popComponents]
    rw [if_neg hempty, if_neg hne]
    have hmoves : moves (left ++ (netOf target).names) =
        moves left ++ (netOf target).names.map Move.down := by
      rw [← moves_place hnames]
      exact List.filterMap_append
    rw [hmoves, walk_append, walk_downs]
    exact congrArg (walk · _ ++ _) (if_congr hroot rfl rfl)

/-- From a root directory without dots, the double dots lead to its ancestor. -/
theorem climbedFrom_at (dir : List Component) {rootDir : PathBuf} {place : List Component}
    (h : At rootDir place) (n : Net Component) :
    climbedFrom dir rootDir n = place.rdrop n.climbs := by
  have hleft : popComponents^[n.climbs] (components .linux rootDir) =
      .rootDir :: place.rdrop n.climbs := by
    rw [h.components_eq]
    exact iterate_popComponents (.inr rfl : IsFloor [Component.rootDir]) h.isPlace.not_mem_rootDir
      n.climbs
  have hplace : IsPlace (place.rdrop n.climbs) := fun c hc => h.isPlace c (List.mem_of_mem_take hc)
  unfold climbedFrom
  rw [hleft, if_neg (by simp), if_pos h.absolute, walk_moves_place hplace]

/-- **When a symbolic link keeps its meaning**: when its target is absolute, or when the double dots
of the target lead to the same directory from the root directory of the session and from the
directory of the link. -/
theorem symlink_keeps_meaning_iff (cwd : List Component) {rootDir : PathBuf} {id : Nat}
    {linkpath targetpath : Text} {os : Except IoError Unit} {link : Link}
    (h : (symlink .linux rootDir id linkpath targetpath os).2 = some link) :
    (link.leadsTo cwd = link.asked cwd targetpath ↔
      isAbsolute .linux targetpath = true ∨
        climbedFrom (link.dir cwd) rootDir (netOf targetpath) =
          (link.dir cwd).rdrop (netOf targetpath).climbs) ∧
    ∀ place, At rootDir place →
      (link.leadsTo cwd = link.asked cwd targetpath ↔
        isAbsolute .linux targetpath = true ∨
          place.rdrop (netOf targetpath).climbs =
            (link.dir cwd).rdrop (netOf targetpath).climbs) := by
  have hlink : link.text = resolvePath .linux rootDir targetpath := by
    cases os with
    | ok u => exact congrArg Link.text (Option.some.inj h).symm
    | error err => cases h
  have hmeaning : link.leadsTo cwd = link.asked cwd targetpath ↔
      isAbsolute .linux targetpath = true ∨
        climbedFrom (link.dir cwd) rootDir (netOf targetpath) =
          (link.dir cwd).rdrop (netOf targetpath).climbs := by
    unfold Link.leadsTo Link.asked
    rw [hlink]
    by_cases habs : isAbsolute .linux targetpath = true
    · -- the text of the link is the target, normalized
      have hat := at_normalizePath at_slash targetpath
      rw [if_pos habs] at hat
      have hsame : locate (link.dir cwd) (resolvePath .linux rootDir targetpath) =
          locate (link.dir cwd) targetpath := by
        rw [resolvePath, if_pos habs, locate, if_pos hat.absolute, hat.components_eq,
          walk_moves_place hat.isPlace, locate, if_pos habs]
      simp [hsame, habs]
    · have hrel : isAbsolute .linux targetpath = false := by simpa using habs
      rw [locate_resolvePath _ _ hrel, locate_of_relative _ hrel, List.append_left_inj,
        or_iff_right habs]
  refine ⟨hmeaning, fun place hplace => ?_⟩
  rw [hmeaning, climbedFrom_at _ hplace]

/-- A link in the root directory of the session. -/
theorem symlink_in_root_directory :
    (symlink .linux "/srv".toList 1 "current".toList "releases/7".toList (.ok ())).2 =
      some { path := "/srv/current".toList, text := "/srv/releases/7".toList } ∧
    Link.leadsTo [] { path := "/srv/current".toList, text := "/srv/releases/7".toList } =
      Link.asked [] { path := "/srv/current".toList, text := "/srv/releases/7".toList }
        "releases/7".toList := by
  have hlink : (symlink .linux "/srv".toList 1 "current".toList "releases/7".toList (.ok ())).2 =
      some { path := "/srv/current".toList, text := "/srv/releases/7".toList } := by decide
  exact ⟨hlink, (symlink_keeps_meaning_iff [] hlink).1.mpr (.inr (by decide))⟩

/-- **A link in another directory.** The client asks for a link `/srv/app/current` to `releases/7`,
which is `/srv/app/releases/7`. The link that is created leads to `/srv/releases/7`. -/
theorem symlink_in_subdirectory :
    (symlink .linux "/srv".toList 1 "app/current".toList "releases/7".toList (.ok ())).2 =
      some { path := "/srv/app/current".toList, text := "/srv/releases/7".toList } ∧
    Link.leadsTo [] { path := "/srv/app/current".toList, text := "/srv/releases/7".toList } =
      [.normal "srv".toList, .normal "releases".toList, .normal "7".toList] ∧
    Link.asked [] { path := "/srv/app/current".toList, text := "/srv/releases/7".toList }
        "releases/7".toList =
      [.normal "srv".toList, .normal "app".toList, .normal "releases".toList,
        .normal "7".toList] := by
  decide

end Narrowd.Sftp
