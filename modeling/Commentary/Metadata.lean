import Commentary.Cursor
import Commentary.Document
import Commentary.Line.Comment
import Commentary.Line.Trailing
import Commentary.Settings

/-!
# Metadata

The title line of a source file and the fields that it declares before its commentary. A title line
reads `;;; name.el --- Title`, a field `;; Author: Name`.
-/

namespace Commentary

/-- What the header of a source file says about it. -/
structure Metadata where
  /-- The title, without mode annotation. -/
  title : Option Text := none
  /-- The file name of the title line, without its extension. -/
  packageName : Option Text := none
  /-- The declared author. -/
  author : Option Text := none
  /-- The declared version. -/
  version : Option Text := none
  /-- The declared address, as a link. -/
  url : Option Text := none
  /-- Whether a commentary follows the header. -/
  hasCommentary : Bool := false
  deriving DecidableEq, Repr

namespace Metadata

/-- The fields that a header declares. -/
inductive Field where
  | author
  | version
  | url
  deriving DecidableEq, Repr

/-- How a field is spelled. -/
def Field.label : Field → Text
  | .author => "Author".toList
  | .version => "Version".toList
  | .url => "URL".toList

/-- The declared fields that are present, in the order in which they are written. -/
def declared (md : Metadata) : List (Field × Text) :=
  [(Field.author, md.author), (.version, md.version), (.url, md.url)].filterMap fun field =>
    field.2.map (field.1, ·)

/-- What follows one or more markers and a space. Where the marker is itself a space, the last of the
run is that space. -/
def afterMarkersAndSpace? (m : Char) (line : Text) : Option Text :=
  if m == ' ' then
    if 2 ≤ Line.markerRun m line then some (Line.afterMarkers m line) else none
  else if 1 ≤ Line.markerRun m line then List.isPrefixOf? [' '] (Line.afterMarkers m line)
  else none

/-- A title line taken apart. -/
structure TitleLine where
  /-- The file name without its extension. -/
  stem : Text
  /-- What stands behind the dashes. -/
  rest : Text
  deriving DecidableEq, Repr

/-- Take a title line apart: markers, a space, a file name without spaces in front of the extension,
two dashes or more between spaces, and the rest of the line. -/
def titleLine? (s : Settings) (line : Text) : Option TitleLine := do
  let body ← afterMarkersAndSpace? s.marker line
  let ending := '.' :: s.extension
  let word := body.takeWhile (· != ' ')
  let stem := word.take (word.length - (ending.takeWhile (· != ' ')).length)
  if stem == [] then none
  else do
    let dashes ← List.isPrefixOf? (ending ++ [' ']) (body.drop stem.length)
    if (dashes.takeWhile (· == '-')).length < 2 then none
    else do
      let rest ← List.isPrefixOf? [' '] (dashes.dropWhile (· == '-'))
      let rest ← Text.singleLine? rest
      some ⟨stem, rest⟩

/-- The title that a title line ends in; a line that holds a mode annotation only has none. -/
def TitleLine.title? (t : TitleLine) : Option Text :=
  let title := Text.trim (Line.withoutMode t.rest)
  if title == [] then none else some title

/-- Record the name and the title of a title line. -/
def recordTitle (md : Metadata) (t : TitleLine) : Metadata :=
  { md with packageName := some t.stem, title := t.title? }

/-- Read the title line at a cursor. On success the title and the name are recorded and the cursor
moves on; the third part tells whether the line was a title line. A cursor that stands before the
first line has no line to read. -/
def readTitle (s : Settings) (c : Cursor) (md : Metadata) :
    Except OutOfRange (Metadata × Cursor × Bool) :=
  c.peek.map fun line =>
    match line.bind (titleLine? s) with
    | some t => (md.recordTitle t, c.advance 1, true)
    | none => (md, c, false)

/-- The value that a line declares for a field: what follows the colon, without the spaces before it
and the blanks behind it. -/
def fieldValue? (m : Char) (field : Field) (line : Text) : Option Text := do
  let rest ← afterMarkersAndSpace? m line
  let rest ← List.isPrefixOf? (field.label ++ [':']) rest
  let value := Text.trimEnd (Text.dropIndent rest)
  if value.contains '\n' then none else some value

/-- The value of a field in a list of header lines: the first line that declares it counts. -/
def headerField? (m : Char) (field : Field) (header : List Text) : Option Text :=
  header.findSome? (fieldValue? m field)

/-- An address as a link to itself. -/
def link (address : Text) : Text := '[' :: address ++ "](".toList ++ address ++ [')']

/-- The index of the line that opens the commentary. -/
def commentaryIndex? (m : Char) (lines : List Text) : Option Nat :=
  lines.findIdx? (Line.opens m .commentary)

/-- Record the fields that are declared before the commentary. Without a commentary there is no
header. -/
def readFields (m : Char) (lines : List Text) (md : Metadata) : Metadata :=
  match commentaryIndex? m lines with
  | none => md
  | some stop =>
    let header := lines.take stop
    { md with
      author := headerField? m .author header <|> md.author
      version := headerField? m .version header <|> md.version
      url := (headerField? m .url header).map link <|> md.url
      hasCommentary := true }

/-- Read the metadata of a document; the cursor is behind its title line then. -/
def read (s : Settings) (doc : Document) : Except OutOfRange (Metadata × Cursor) :=
  (readTitle s (Cursor.start doc.lines) {}).map fun (md, c, _) =>
    (readFields s.marker doc.lines md, c)

/-- The metadata of a document. A new cursor has its line if there is one, so that reading them
never fails. -/
def ofDocument (s : Settings) (doc : Document) : Metadata :=
  readFields s.marker doc.lines ((doc.lines.head?.bind (titleLine? s)).elim {} (recordTitle {}))

end Metadata

end Commentary
