/-
Paths in their normal form: the parts between slashes, without empty ones and without dots that
stand for the same directory. A path that starts with a slash is absolute, and two slashes are told
from one; three and more count as one.
-/
import DesktopMacro.Cause
import DesktopMacro.Text.Pieces

set_option autoImplicit false

namespace DesktopMacro

/-- A path: the slashes that it starts with, and its parts. One without such a root starts at the
work directory. -/
structure Path where
  root : String
  parts : List String
deriving DecidableEq, Repr

namespace Path

/-- The root that a path starts with. -/
def rootOf (text : String) : String :=
  match (text.toList.takeWhile (· == '/')).length with
  | 0 => ""
  | 2 => "//"
  | _ => "/"

/-- The normal form of a path. -/
def ofText (text : String) : Path :=
  { root := rootOf text
    parts := (Text.splitOn text (· == '/')).filter (fun part => !part.isEmpty && part != ".") }

/-- A path with a root. -/
def isAbsolute (path : Path) : Bool := !path.root.isEmpty

/-- A path as text; the work directory is a dot. -/
def toText (path : Path) : String :=
  if path.root.isEmpty && path.parts.isEmpty then "."
  else path.root ++ "/".intercalate path.parts

/-- The path without its last part. -/
def parent (path : Path) : Path := { path with parts := path.parts.dropLast }

/-- The last part of a path. -/
def name (path : Path) : String := path.parts.getLast?.getD ""

/-- The path with a part behind its last one. -/
def child (path : Path) (part : String) : Path := { path with parts := path.parts ++ [part] }

/-- A path as seen from a directory; one with a root is what it is. -/
def join (directory path : Path) : Path :=
  if path.isAbsolute then path else { directory with parts := directory.parts ++ path.parts }

/-- The name without its ending, and the ending: what starts at the last dot, unless that is the
first or the last character. -/
def splitName (name : String) : String × String :=
  let cs := name.toList
  let tail := (cs.reverse.takeWhile (· != '.')).reverse
  let stem := cs.take (cs.length - tail.length - 1)
  if tail.length = cs.length || tail.isEmpty || stem.isEmpty then (name, "")
  else (String.ofList stem, String.ofList ('.' :: tail))

/-- The path with its ending replaced by another one. -/
def withEnding? (path : Path) (ending : String) : Except Cause Path :=
  if path.parts.isEmpty then
    .error (.badValue s!"PosixPath({Text.quote path.toText}) has an empty name")
  else .ok (path.parent.child ((splitName path.name).1 ++ ending))

/-- The ending of a path. -/
def ending (path : Path) : String := (splitName path.name).2

end Path
end DesktopMacro
