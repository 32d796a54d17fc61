import Narrowd.Lib.FileTree
import Narrowd.Sftp.Paths

set_option autoImplicit false

/-! # What the paths of SFTP requests name

`resolve_path` (`sftp.rs`) works on the text of a path, and the system then looks up what is left of
it. This file compares the two with the lookup that the client asks for: the one that a process
makes which runs in the root directory of the session and passes the path as it is.

They agree on everything that follows the double dots of the path, links included, as long as the
double dots only leave directories. So they always agree in a tree without symbolic links, on every
path that names anything. What they do not agree on is the parent of a link (`parent_of_link`): for
the system it is the parent of the directory that the link leads to, for `resolve_path` the
directory of the link.

A path that ends in a separator or a dot asks for a directory. `resolve_path` drops the end, so a
file is found where the system reports that it is not a directory (`file_with_separator`).
-/

namespace Narrowd.Sftp

open PathBuf Lib FileTree

/-- The last part of a text, which is empty after a separator, asks for a directory if it is no
name. -/
def asksDirectory (text : PathBuf) : Bool :=
  (text.splitOn '/').getLastD [] ∈ [[], ['.']]

def routeOf (text : PathBuf) : Route Component where
  fromTop := isAbsolute .linux text
  moves := moves (components .linux text)
  asksDir := asksDirectory text

/-- The lookup of a path by a process that runs in `cwd`. `follow` says whether a link at the end of
the path is followed, as by `open` and `stat`, or is what the path names, as for `lstat` and
`readlink`. The empty path names nothing. -/
def lookupPath (tree : FileTree Component) (follow : Bool) (links : Nat) (cwd : List Component)
    (path : PathBuf) : Except LookupError (Found Component) :=
  if path = [] then .error .notFound
  else lookup tree follow links (routeOf path).asksDir (if (routeOf path).fromTop then [] else cwd)
    (routeOf path).moves

variable {place : List Component}

/-- A tree with a link from `/srv/current` to `/data/new`. -/
def sampleTree : FileTree Component := fun place =>
  if place = [.normal "srv".toList] ∨ place = [.normal "srv".toList, .normal "app".toList] ∨
      place = [.normal "data".toList] ∨ place = [.normal "data".toList, .normal "new".toList] then
    some .dir
  else if place = [.normal "srv".toList, .normal "current".toList] then
    some (.link (routeOf "/data/new/".toList))
  else if place = [.normal "data".toList, .normal "new".toList, .normal "log".toList] ∨
      place = [.normal "srv".toList, .normal "log".toList] then
    some .file
  else none

/-- **A file with a separator after its name.** The client asks for the directory `log`, and gets
the file. -/
theorem file_with_separator :
    lookupPath sampleTree true 40 [.normal "srv".toList] "log/".toList = .error .notADirectory ∧
    lookupPath sampleTree true 40 [] (resolvePath .linux "/srv".toList "log/".toList) =
      .ok (.existing [.normal "srv".toList, .normal "log".toList]) := by
  decide

/-- **The parent of a link.** The client asks for `/data/log`, by way of the link, and gets
`/srv/log`. -/
theorem parent_of_link :
    lookupPath sampleTree true 40 [.normal "srv".toList] "current/../log".toList =
      .ok (.fresh [.normal "data".toList, .normal "log".toList]) ∧
    lookupPath sampleTree true 40 [] (resolvePath .linux "/srv".toList "current/../log".toList) =
      .ok (.existing [.normal "srv".toList, .normal "log".toList]) := by
  decide

end Narrowd.Sftp
