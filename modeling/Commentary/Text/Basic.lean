/-!
# Texts

A text is a list of characters, so every index and every length counts characters.
This module holds the blank characters, trimming, splitting and the order of texts.
-/

namespace Commentary

/-- A sequence of characters. -/
abbrev Text := List Char

namespace Text

/-- Whether the code point of `c` lies in one of the inclusive ranges. -/
def inRanges (ranges : List (Nat × Nat)) (c : Char) : Bool :=
  ranges.any fun range => range.1 ≤ c.toNat && c.toNat ≤ range.2

/-- The code points of the blank characters, line breaks included. -/
def spaceRanges : List (Nat × Nat) :=
  [(0x09, 0x0D), (0x1C, 0x20), (0x85, 0x85), (0xA0, 0xA0), (0x1680, 0x1680), (0x2000, 0x200A),
    (0x2028, 0x2029), (0x202F, 0x202F), (0x205F, 0x205F), (0x3000, 0x3000)]

/-- A blank character. Zero-width characters such as U+200B are not blank. -/
def isSpace (c : Char) : Bool := inRanges spaceRanges c

/-- The plain space, the only character that counts as indentation. -/
def isBlankSpace (c : Char) : Bool := c == ' '

/-- Drop the longest suffix whose characters all satisfy `p`, as Mathlib's `List.rdropWhile` does. -/
def dropEndWhile (p : Char → Bool) (t : Text) : Text := (t.reverse.dropWhile p).reverse

/-- Drop the blank characters in front. -/
def trimStart (t : Text) : Text := t.dropWhile isSpace

/-- Drop the blank characters at the end. -/
def trimEnd (t : Text) : Text := dropEndWhile isSpace t

/-- Drop the blank characters on both sides. -/
def trim (t : Text) : Text := trimEnd (trimStart t)

/-- A text that holds no character but blanks; the empty text is one. -/
def isBlank (t : Text) : Bool := t.all isSpace

/-- How many plain spaces `t` starts with. -/
def indent (t : Text) : Nat := (t.takeWhile isBlankSpace).length

/-- `t` without the plain spaces in front. -/
def dropIndent (t : Text) : Text := t.dropWhile isBlankSpace

/-- `t` without one plain space in front, if there is one. -/
def dropOneSpace : Text → Text
  | ' ' :: t => t
  | t => t

/-- The end of a text, or the place right before its one final newline. -/
def isEnd (t : Text) : Bool := t == [] || t == ['\n']

/-- The text up to its end, where one final newline may follow and no other newline may occur. -/
def singleLine? (t : Text) : Option Text :=
  if isEnd (t.dropWhile (· != '\n')) then some (t.takeWhile (· != '\n')) else none

/-- The maximal runs of characters that are not blank. -/
def words (t : Text) : List Text := (List.splitOnP isSpace t).filter (· != [])

/-- Texts ordered by their first different character, a proper beginning coming first. -/
def le : Text → Text → Bool
  | [], _ => true
  | _ :: _, [] => false
  | a :: s, b :: t => decide (a < b) || (a == b && le s t)

/-- Small letters in place of the capitals `A` to `Z`. -/
def lower (t : Text) : Text := t.map Char.toLower

/-- A number in decimal digits. -/
def ofNat (n : Nat) : Text := Nat.toDigits 10 n

/-- A signed number in decimal digits. -/
def ofInt : Int → Text
  | .ofNat n => ofNat n
  | .negSucc n => '-' :: ofNat (n + 1)

/-- A number in hexadecimal digits, zeros in front up to `width`. -/
def hex (width n : Nat) : Text :=
  let digits := Nat.toDigits 16 n
  List.replicate (width - digits.length) '0' ++ digits

end Text

end Commentary
