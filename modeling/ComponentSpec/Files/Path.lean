import ComponentSpec.Text.Scan

/-!
# Paths

A path is a root and the names on the way from it.  Empty names and single points say nothing and
are dropped, so equal ways have equal paths; two points are kept, because the directory before them
need not exist.

Main statements: a path joined to an absolute one is that one (`join_absolute`), and joining goes on
from a relative one (`parts_join`).
-/

namespace ComponentSpec

/-- A path: the slashes of its root, and its names. -/
structure Path where
  root : String
  parts : List String
  deriving DecidableEq, Repr

namespace Path

open Text

/-- The root of a text: two slashes are a root of their own, more are one. -/
def rootOf (s : List Char) : String :=
  match (s.takeWhile (· == '/')).length with
  | 0 => ""
  | 2 => "//"
  | _ => "/"

/-- The path that a text denotes. -/
def ofText (s : String) : Path :=
  { root := rootOf s.toList
    parts :=
      ((pieces '/' s.toList).map String.ofList).filter fun part => part != "" && part != "." }

/-- The text of a path; a single point stands for the path without names. -/
def toText (path : Path) : String :=
  if path.root.isEmpty && path.parts.isEmpty then "."
  else path.root ++ "/".intercalate path.parts

/-- Whether the path begins at a root. -/
def isAbsolute (path : Path) : Bool :=
  !path.root.isEmpty

/-- The path that leads on from the first path along the second. -/
def join (path other : Path) : Path :=
  if other.isAbsolute then other else { path with parts := path.parts ++ other.parts }

/-- The last name of a path, empty if there is none. -/
def name (path : Path) : String :=
  path.parts.getLast?.getD ""

/-- The part of the last name from its last point on.  A point at either end of the name gives no
suffix. -/
def suffix (path : Path) : String :=
  let reversed := path.name.toList.reverse
  let tail := reversed.takeWhile (· != '.')
  match reversed.drop tail.length with
  -- The point and one character before it at least.
  | _ :: _ :: _ => if tail.isEmpty then "" else String.ofList ('.' :: tail.reverse)
  | _ => ""

theorem join_absolute (path : Path) {other : Path} (h : other.isAbsolute = true) :
    path.join other = other := by
  simp [join, h]

theorem parts_join (path : Path) {other : Path} (h : other.isAbsolute = false) :
    (path.join other).parts = path.parts ++ other.parts := by
  simp [join, h]

end Path
end ComponentSpec
