import Commentary.Text.Basic

/-!
# Lines and tabs

Splitting a text into lines, one spelling for newlines, and the columns that a tab stands for.
-/

namespace Commentary.Text

/-- The characters that end a line. -/
def breakRanges : List (Nat × Nat) :=
  [(0x0A, 0x0D), (0x1C, 0x1E), (0x85, 0x85), (0x2028, 0x2029)]

/-- A character that ends a line. -/
def isBreak (c : Char) : Bool := inRanges breakRanges c

/-- The lines of a text without their breaks. A carriage return and the newline behind it are one
break, and a break at the very end opens no further line. -/
def lines : Text → List Text
  | [] => []
  | '\r' :: '\n' :: t => [] :: lines t
  | c :: t =>
    if isBreak c then [] :: lines t
    else match lines t with
      | [] => [[c]]
      | line :: rest => (c :: line) :: rest

/-- Carriage returns, alone or before a newline, become newlines. -/
def unifyNewlines : Text → Text
  | [] => []
  | '\r' :: '\n' :: t => '\n' :: unifyNewlines t
  | c :: t => (if c == '\r' then '\n' else c) :: unifyNewlines t

/-- Tab stops stand this many columns apart. -/
def tabWidth : Nat := 8

/-- The spaces that a tab at column `col` stands for. -/
def tabSpaces (col : Nat) : Nat := tabWidth - col % tabWidth

/-- Tabs become spaces up to the next tab stop, counting from column `col`; a newline or a carriage
return goes back to column 0. -/
def expandTabsFrom (col : Nat) : Text → Text
  | [] => []
  | c :: t =>
    if c == '\t' then
      List.replicate (tabSpaces col) ' ' ++ expandTabsFrom (col + tabSpaces col) t
    else if c == '\n' || c == '\r' then c :: expandTabsFrom 0 t
    else c :: expandTabsFrom (col + 1) t

/-- Tabs become spaces up to the next tab stop. -/
def expandTabs (t : Text) : Text := expandTabsFrom 0 t

end Commentary.Text
