import Commentary.Text.Basic

/-!
# Trailing parts of a title

A title loses the periods at its end and the mode annotation `-*- … -*-` that editors read.
-/

namespace Commentary.Line

/-- A period or a blank. -/
def isPeriodOrSpace (c : Char) : Bool := c == '.' || Text.isSpace c

/-- A text without the periods and blanks at its end. -/
def withoutPeriods (t : Text) : Text := Text.dropEndWhile isPeriodOrSpace t

/-- The mark at both ends of a mode annotation. -/
def modeMark : Text := ['-', '*', '-']

/-- Whether a mode annotation starts right here: a mark, a text without newlines, and a second mark
with nothing but blanks behind it. -/
def opensMode (t : Text) : Bool :=
  match List.isPrefixOf? modeMark t with
  | none => false
  | some rest =>
    let inside := Text.trimEnd rest
    modeMark.isSuffixOf inside && !(inside.take (inside.length - modeMark.length)).contains '\n'

/-- Whether a mode annotation starts here or behind the blanks that stand here. -/
def startsMode (t : Text) : Bool := opensMode (Text.trimStart t)

/-- A text up to its mode annotation and the blanks before that. -/
def withoutMode : Text → Text
  | [] => []
  | c :: t => if startsMode (c :: t) then [] else c :: withoutMode t

end Commentary.Line
