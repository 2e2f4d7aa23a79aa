import Commentary.Text.Lines

/-!
# Comment lines

What a line is as a comment: its markers and its text, whether it is blank, and whether it is one of
the lines that open a section. The marker `m` is the canonical one of the family.
-/

namespace Commentary.Line

/-- A comment line taken apart. -/
structure Comment where
  /-- How many markers the line starts with. -/
  markers : Nat
  /-- The text behind the markers and at most one space. -/
  text : Text
  deriving DecidableEq, Repr

/-- How many markers `line` starts with. -/
def markerRun (m : Char) (line : Text) : Nat := (line.takeWhile (· == m)).length

/-- What follows the markers of `line`. -/
def afterMarkers (m : Char) (line : Text) : Text := line.dropWhile (· == m)

/-- A comment line starts with two markers or more and holds no newline but a final one. -/
def comment? (m : Char) (line : Text) : Option Comment :=
  if markerRun m line < 2 then none
  else (Text.singleLine? (Text.dropOneSpace (afterMarkers m line))).map (Comment.mk (markerRun m line))

/-- The comment text of a line, its tabs expanded. -/
def commentText? (m : Char) (line : Text) : Option Text :=
  (comment? m (Text.expandTabs line)).map Comment.text

/-- The two characters that repeated make a folding mark. -/
def foldMarks : List Char := ['\x7b', '\x7d']

/-- `t` without a folding mark in front: a run of one folding character and the decimal digits
behind it. -/
def dropFold : Text → Text
  | [] => []
  | c :: t =>
    if foldMarks.contains c then (t.dropWhile (· == c)).dropWhile Char.isDigit else c :: t

/-- What stands behind the spaces and the folding mark that may follow the markers of a blank
line. -/
def afterFold (t : Text) : Text := Text.dropIndent (dropFold (Text.dropIndent t))

/-- Two markers or more, then nothing but spaces around at most one folding mark. A folding character
that is itself the marker gives its last one to the folding mark. -/
def isBareComment (m : Char) (line : Text) : Bool :=
  2 ≤ markerRun m line && Text.isEnd (afterFold (afterMarkers m line)) ||
    3 ≤ markerRun m line && Text.isEnd (afterFold (m :: afterMarkers m line))

/-- A blank line: bare markers, or no character but blanks. -/
def isBlank (m : Char) (line : Text) : Bool := isBareComment m line || Text.isBlank line

/-- A line that starts with three markers. -/
def isTopLevel (m : Char) (line : Text) : Bool := [m, m, m].isPrefixOf line

/-- The sections that a marker line opens. -/
inductive Section where
  | commentary
  | code
  | license
  deriving DecidableEq, Repr

/-- The word that a section's marker line carries. -/
def Section.title : Section → Text
  | .commentary => "Commentary:".toList
  | .code => "Code:".toList
  | .license => "License:".toList

/-- The line that opens a section. -/
def Section.line (m : Char) (s : Section) : Text := m :: m :: m :: ' ' :: s.title

/-- Whether `line` opens section `s`; one final newline may follow. -/
def opens (m : Char) (s : Section) (line : Text) : Bool :=
  line == s.line m || line == s.line m ++ ['\n']

/-- Whether `line` opens any section. -/
def opensSection (m : Char) (line : Text) : Bool :=
  opens m .commentary line || opens m .code line || opens m .license line

end Commentary.Line
