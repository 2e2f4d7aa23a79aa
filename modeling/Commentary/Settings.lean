import Commentary.Markers

/-!
# Settings

What a conversion can be told: how comments are written, which quoted names are keys, and what the
footer says.
-/

namespace Commentary

/-- The settings of a conversion. -/
structure Settings where
  /-- Whether a quoted span may also end in a backtick. -/
  symmetricQuotes : Bool := false
  /-- Names that are keys although they are no chords. -/
  keyNames : List Text := ["RET".toList, "TAB".toList]
  /-- The characters that start a comment line. -/
  markers : Markers := ⟨';', []⟩
  /-- The file extension that a title line names. -/
  extension : Text := "el".toList
  /-- The name that the footer gives to the tool. -/
  toolName : Text := "el2md".toList
  /-- The address that the footer links to. -/
  toolUrl : Text := "https://gitlab.com/thomasluquet/el2md".toList
  /-- The name of the footer's template. -/
  footerTemplate : Text := "footer.md.j2".toList
  /-- The directory that holds the template, if it is not the built-in one. -/
  templateDir : Option Text := none
  deriving DecidableEq, Repr

/-- The settings that hold when nothing is said. -/
def Settings.default : Settings := {}

/-- The marker that cleaned lines start with. -/
def Settings.marker (s : Settings) : Char := s.markers.canonical

end Commentary
