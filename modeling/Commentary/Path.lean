import Commentary.Text.Basic

/-!
# Paths

A path is a list of names, relative or below a root. Reading a path drops empty parts and single
dots; two dots stay, since what they mean depends on the file tree.
-/

namespace Commentary

/-- A path as a list of names. -/
structure Path where
  /-- The slashes of an absolute path: none, one, or exactly two. -/
  root : Text
  /-- The names, the outermost first. -/
  parts : List Text
  deriving DecidableEq, Repr

namespace Path

/-- The root of a path: two slashes stay two, any other number counts as one. -/
def rootOf (t : Text) : Text :=
  match (t.takeWhile (· == '/')).length with
  | 0 => []
  | 2 => ['/', '/']
  | _ => ['/']

/-- A path from its text. -/
def ofText (t : Text) : Path :=
  ⟨rootOf t, (List.splitOn '/' t).filter fun part => part != [] && part != ['.']⟩

/-- The text of a path; a path without root and names is the single dot. -/
def toText (p : Path) : Text :=
  if p.root == [] && p.parts == [] then ['.'] else p.root ++ List.intercalate ['/'] p.parts

/-- The path without its last name; a path without names is its own parent. -/
def parent (p : Path) : Path := { p with parts := p.parts.dropLast }

/-- The last name, empty if there is none. -/
def name (p : Path) : Text := p.parts.getLast?.getD []

/-- A path inside a directory. -/
def child (p : Path) (part : Text) : Path := { p with parts := p.parts ++ [part] }

/-- The README beside a source file. -/
def readme (source : Path) : Path := source.parent.child "README.md".toList

end Path

end Commentary
