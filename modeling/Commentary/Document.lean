import Commentary.Markers
import Commentary.Text.Lines

/-!
# Documents

A document is the cleaned lines of a source file and the name that the footer gives to it.
-/

namespace Commentary

/-- The lines of a source file. -/
structure Document where
  /-- The lines, cleaned. -/
  lines : List Text
  /-- The name of the file, if it has one. -/
  sourceName : Option Text
  deriving DecidableEq, Repr

namespace Document

/-- A document from raw lines. -/
def ofLines (ms : Markers) (lines : List Text) (sourceName : Option Text) : Document :=
  ⟨ms.cleanLines lines, sourceName⟩

/-- A document from the text of a file. -/
def ofText (ms : Markers) (text : Text) (sourceName : Option Text) : Document :=
  ofLines ms (Text.lines text) sourceName

end Document

end Commentary
