import Commentary.Block

/-!
# Shapes of comment texts

How the first text of a block decides what the block is: a heading ends in a colon, a bullet starts
with a dash or an asterisk, code is indented or opens a parenthesis.
-/

namespace Commentary.Line

/-- Indentation from which on a comment text is code. -/
def codeIndent : Nat := 4

/-- Characters that start a bullet. -/
def isBulletMark (c : Char) : Bool := c == '-' || c == '*'

/-- Characters that no heading starts with, blanks apart. -/
def isHeadingStopper (c : Char) : Bool := isBulletMark c || c == '(' || Text.isSpace c

/-- A heading without its colon: it stands on one line, starts with no bullet mark, parenthesis or
blank, and has a character that is not blank right before the colon. -/
def heading? (t : Text) : Option Text := do
  let line ← Text.singleLine? t
  let title := line.dropLast
  let first ← title.head?
  let last ← title.getLast?
  if line.getLast? == some ':' && !isHeadingStopper first && !Text.isSpace last then some title
  else none

/-- A bullet: at most three spaces, a bullet mark, and then a blank or the end. -/
def isBullet (t : Text) : Bool :=
  match Text.dropIndent t with
  | [] => false
  | c :: rest => Text.indent t < codeIndent && isBulletMark c && (rest.head?.all Text.isSpace)

/-- A text that opens a parenthesis after any spaces. -/
def isParen (t : Text) : Bool := (Text.dropIndent t).head? == some '('

/-- A text indented like code: four spaces or more, then a character that is not blank. -/
def isIndented (t : Text) : Bool :=
  codeIndent ≤ Text.indent t && (Text.dropIndent t).head?.any (!Text.isSpace ·)

/-- What a block that is no heading is, decided from its first text. -/
def blockKind (t : Text) : BlockKind :=
  if isParen t || isIndented t then .codeBlock
  else if isBullet t then .bulletList
  else .paragraph

end Commentary.Line
