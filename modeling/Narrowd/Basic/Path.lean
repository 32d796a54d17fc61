import Mathlib.Data.List.DropRight
import Narrowd.Basic.Time
import Narrowd.Basic.Text

set_option autoImplicit false

/-! # Paths

`std::path` on the two platforms, on the characters of the path. Windows knows a second
separator and prefixes: drives, UNC shares, device names and the verbatim form of each.
-/

namespace Narrowd

/-- A `PathBuf`, as its characters. -/
abbrev PathBuf := Text

namespace PathBuf

def isSeparator : Platform → Char → Bool
  | .linux, c => c == '/'
  | .windows, c => c == '/' || c == '\\'

def mainSeparator : Platform → Char
  | .linux => '/'
  | .windows => '\\'

/-! ## Windows prefixes -/

/-- `std::path::Prefix`, as far as the daemon depends on it. -/
inductive PrefixKind
  | verbatim
  | verbatimUnc
  | verbatimDisk
  | deviceNs
  | unc
  | disk
  deriving DecidableEq, Repr

/-- A prefix and the number of characters it takes. -/
structure PathPrefix where
  kind : PrefixKind
  len : Nat
  deriving DecidableEq, Repr

def PathPrefix.isVerbatim (x : PathPrefix) : Bool :=
  x.kind == .verbatim || x.kind == .verbatimUnc || x.kind == .verbatimDisk

/-- All prefixes but a drive letter make the path rooted. -/
def PathPrefix.hasImplicitRoot (x : PathPrefix) : Bool := x.kind != .disk

/-- The first component, and what follows its separator. -/
def nextComponent (isSep : Char → Bool) (t : Text) : Text × Text :=
  (t.takeWhile fun c => !isSep c, (t.dropWhile fun c => !isSep c).drop 1)

def isDrive : Text → Bool
  | letter :: ':' :: _ => letter.isAlpha
  | _ => false

/-- A drive with nothing but a separator after it. -/
def isDriveExact (t : Text) : Bool :=
  isDrive t &&
    match t.drop 2 with
    | [] => true
    | c :: _ => isSeparator .windows c

/-- The length of `server\share`; a share that is missing takes no separator. -/
def serverShareLen (server share : Text) : Nat :=
  server.length + if share.isEmpty then 0 else 1 + share.length

def verbatimPrefix (rest : Text) : PathPrefix :=
  let isSep := (· == '\\')
  if rest.take 4 == ['U', 'N', 'C', '\\'] || rest.take 4 == ['U', 'N', 'C', '/'] then
    let (server, path) := nextComponent isSep (rest.drop 4)
    let (share, _) := nextComponent isSep path
    { kind := .verbatimUnc, len := 8 + serverShareLen server share }
  else if isDriveExact rest then { kind := .verbatimDisk, len := 6 }
  else { kind := .verbatim, len := 4 + (nextComponent isSep rest).1.length }

def parsePrefix : Platform → Text → Option PathPrefix
  | .linux, _ => none
  | .windows, t =>
      match t with
      | a :: b :: rest =>
          if isSeparator .windows a && isSeparator .windows b then
            if t.take 4 == ['\\', '\\', '?', '\\'] then some (verbatimPrefix (t.drop 4))
            else if rest.take 1 == ['.'] && (rest.drop 1).head?.any (isSeparator .windows) then
              some { kind := .deviceNs
                     len := 4 + (nextComponent (isSeparator .windows) (rest.drop 2)).1.length }
            else
              let (server, path) := nextComponent (isSeparator .windows) rest
              let (share, _) := nextComponent (isSeparator .windows) path
              if !server.isEmpty && !share.isEmpty then
                some { kind := .unc, len := 2 + serverShareLen server share }
              else none
          else if isDrive t then some { kind := .disk, len := 2 }
          else none
      | _ => none

/-! ## Components -/

inductive Component
  | pathPrefix (text : Text) (kind : PrefixKind)
  | rootDir
  | curDir
  | parentDir
  | normal (text : Text)
  deriving DecidableEq, Repr

section

variable (p : Platform) (path : PathBuf)

def prefixLen : Nat := ((parsePrefix p path).map PathPrefix.len).getD 0

def hasPhysicalRoot : Bool := (path.drop (prefixLen p path)).head?.any (isSeparator p)

def hasRoot : Bool :=
  hasPhysicalRoot p path || ((parsePrefix p path).map PathPrefix.hasImplicitRoot).getD false

def isAbsolute : Bool :=
  match p with
  | .linux => hasRoot p path
  | .windows => hasRoot p path && (parsePrefix p path).isSome

/-- In a verbatim path only the backslash separates. -/
def bodySeparator (c : Char) : Bool :=
  if ((parsePrefix p path).map PathPrefix.isVerbatim).getD false then c == '\\'
  else isSeparator p c

/-- The component of one part of the body; empty parts and, outside of verbatim paths, dots are
none. -/
def bodyComponent (part : Text) : Option Component :=
  if part == ['.'] then
    if ((parsePrefix p path).map PathPrefix.isVerbatim).getD false then some .curDir else none
  else if part == ['.', '.'] then some .parentDir
  else if part.isEmpty then none
  else some (.normal part)

/-- A dot at the beginning of a path without a root is a component. -/
def startsWithCurDir : Bool :=
  !hasRoot p path &&
    match path.drop (prefixLen p path) with
    | ['.'] => true
    | '.' :: c :: _ => isSeparator p c
    | _ => false

def components : List Component :=
  let body := path.drop (prefixLen p path)
  let start :=
    if hasPhysicalRoot p path then [.rootDir]
    else
      match parsePrefix p path with
      | some x =>
          if x.hasImplicitRoot && !x.isVerbatim then [.rootDir]
          else if startsWithCurDir p path then [.curDir] else []
      | none => if startsWithCurDir p path then [.curDir] else []
  (parsePrefix p path).toList.map (fun x => .pathPrefix (path.take x.len) x.kind) ++ start ++
    (body.splitOnP (bodySeparator p path)).filterMap (bodyComponent p path)

/-- The length of what precedes the body: the prefix, and the root or the dot after it. -/
def lenBeforeBody : Nat :=
  prefixLen p path + (if hasPhysicalRoot p path then 1 else 0) +
    if startsWithCurDir p path then 1 else 0

/-- The length of parts of the body with the separators between them. -/
def partsLen (parts : List Text) : Nat := (List.intercalate [mainSeparator p] parts).length

/-- `Components::trim_right`: parts at the end that are no components are left out. -/
def trimParts (parts : List Text) : List Text :=
  parts.rdropWhile fun part => (bodyComponent p path part).isNone

/-- `Path::parent`: the path up to its last component, without the separators and dots before that.
There is none if the last component is a prefix or the root. -/
def parent : Option PathBuf :=
  let start := lenBeforeBody p path
  let parts := trimParts p path ((path.drop start).splitOnP (bodySeparator p path))
  if parts.isEmpty then
    if startsWithCurDir p path then some (path.take (start - 1)) else none
  else some (path.take (start + partsLen p (trimParts p path parts.dropLast)))

/-- `Path::file_name`. -/
def fileName : Option Text :=
  match (components p path).getLast? with
  | some (.normal text) => some text
  | _ => none

/-- `Path::file_stem`: the name up to its last dot, unless that is its first character. -/
def fileStem : Option Text :=
  (fileName p path).map fun name =>
    match (name.reverse.dropWhile (· != '.')).drop 1 with
    | [] => name
    | before => before.reverse

end

/-! ## Joining -/

/-- How a path is added to the components of a verbatim one. -/
def pushVerbatim (buf : List Component) : Component → List Component
  | .rootDir => buf.take 1 ++ [.rootDir]
  | .curDir => buf
  | .parentDir =>
      match buf.getLast? with
      | some (.normal _) => buf.dropLast
      | _ => buf
  | c => buf ++ [c]

def componentText (p : Platform) : Component → Text
  | .pathPrefix text _ => text
  | .rootDir => [mainSeparator p]
  | .curDir => ['.']
  | .parentDir => ['.', '.']
  | .normal text => text

/-- The text of the components of a verbatim path, `needSep` if one is due before the next. -/
def renderVerbatim (p : Platform) (needSep : Bool) : List Component → Text
  | [] => []
  | c :: rest =>
      let next :=
        match c with
        | .rootDir => false
        | .pathPrefix text kind => kind != .disk && !text.isEmpty
        | _ => true
      (if needSep && c != .rootDir then [mainSeparator p] else []) ++ componentText p c ++
        renderVerbatim p next rest

/-- `Path::join`. -/
def join (p : Platform) (base path : PathBuf) : PathBuf :=
  let onlyDrive := (parsePrefix p base).any fun x => x.kind == .disk && x.len == base.length
  let needSep := base.getLast?.any (fun c => !isSeparator p c) && !onlyDrive
  if isAbsolute p path || (parsePrefix p path).isSome then path
  else if ((parsePrefix p base).map PathPrefix.isVerbatim).getD false && !path.isEmpty then
    renderVerbatim p false ((components p path).foldl pushVerbatim (components p base))
  else if hasRoot p path then base.take (prefixLen p base) ++ path
  else if needSep then base ++ [mainSeparator p] ++ path
  else base ++ path

end PathBuf

end Narrowd
