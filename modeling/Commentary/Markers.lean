import Commentary.Text.Basic

/-!
# Comment markers

A family of characters that start a comment line. The first one is canonical: the leading run of
family members of a line is turned into it, so that later stages know one marker only.
-/

namespace Commentary

/-- A non-empty family of comment characters. -/
structure Markers where
  /-- The character that stands for the whole family. -/
  canonical : Char
  /-- The characters that are read like the canonical one. -/
  others : List Char
  deriving DecidableEq, Repr

namespace Markers

/-- The family written as a text, the canonical marker first. -/
def toText (ms : Markers) : Text := ms.canonical :: ms.others

/-- A family from its text; the empty text names none. -/
def ofText? : Text → Option Markers
  | [] => none
  | c :: others => some ⟨c, others⟩

/-- Whether `c` belongs to the family. -/
def contains (ms : Markers) (c : Char) : Bool := ms.toText.contains c

/-- Turn the leading run of family members into canonical markers, keeping its length. -/
def unify (ms : Markers) (line : Text) : Text :=
  List.replicate (line.takeWhile ms.contains).length ms.canonical ++ line.dropWhile ms.contains

/-- Unify the leading markers of a line by the family that a text names. Only the empty line can do
without a family. -/
def unifyBy? (family line : Text) : Option Text :=
  if line == [] then some [] else (ofText? family).map (·.unify line)

/-- A line as later stages see it: no blanks at the end, and only canonical markers in front. -/
def cleanLine (ms : Markers) (line : Text) : Text := ms.unify (Text.trimEnd line)

/-- Clean every line. -/
def cleanLines (ms : Markers) (lines : List Text) : List Text := lines.map ms.cleanLine

@[simp] theorem ofText?_toText (ms : Markers) : ofText? ms.toText = some ms := rfl

@[simp] theorem length_unify (ms : Markers) (line : Text) :
    (ms.unify line).length = line.length := by
  rw [unify, List.length_append, List.length_replicate, ← List.length_append,
    List.takeWhile_append_dropWhile]

@[simp] theorem length_cleanLines (ms : Markers) (lines : List Text) :
    (ms.cleanLines lines).length = lines.length := by simp [cleanLines]

end Markers

end Commentary
