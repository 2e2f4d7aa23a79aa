import Commentary.Index
import Commentary.Text.Basic

/-!
# Cursors

A cursor is a position in a list of lines together with the place where reading stops. Positions are
integers: a negative one counts from the end of the lines, and reading before their start fails.
-/

namespace Commentary

/-- A position in a list of lines. -/
structure Cursor where
  /-- The lines that are read. -/
  lines : List Text
  /-- The index of the current line. -/
  position : Int
  /-- The index at which reading stops. -/
  stop : Int
  deriving DecidableEq, Repr

namespace Cursor

/-- A cursor at `position` that stops at `stop`, or at the end of the lines. Neither the stop nor the
position lies behind the end, and the position lies neither behind the stop nor before 0, unless the
stop itself does. -/
def make (lines : List Text) (position : Int) (stop : Option Int) : Cursor :=
  let stop := stop.elim (lines.length : Int) (min · lines.length)
  ⟨lines, min (max position 0) stop, stop⟩

/-- A cursor over all lines, at the first. -/
def start (lines : List Text) : Cursor := make lines 0 none

/-- Whether nothing is left to read. -/
def atEnd (c : Cursor) : Bool := c.stop ≤ c.position

/-- The line at an index, which counts from the end if it is negative. -/
def line (c : Cursor) (index : Int) : Except OutOfRange Text :=
  match placeOf c.lines.length index with
  | .error e => .error e
  | .ok place => .ok (c.lines[place]?.getD [])

/-- The current line, or nothing at the end. -/
def peek (c : Cursor) : Except OutOfRange (Option Text) :=
  if c.atEnd then .ok none else (c.line c.position).map some

/-- Whether there is a current line and it satisfies `p`. -/
def peekIs (c : Cursor) (p : Text → Bool) : Except OutOfRange Bool :=
  c.peek.map (·.any p)

/-- Move by `n` lines, at most to the stop. -/
def advance (c : Cursor) (n : Int) : Cursor := { c with position := min (c.position + n) c.stop }

/-- The number of lines that are left. -/
def remaining (c : Cursor) : Nat := (c.stop - c.position).toNat

/-- Move past at most `count` lines that satisfy `p`; the result counts them. -/
def skipAtMost (p : Text → Bool) : Nat → Cursor → Except OutOfRange (Nat × Cursor)
  | 0, c => .ok (0, c)
  | count + 1, c =>
    match c.peekIs p with
    | .error e => .error e
    | .ok false => .ok (0, c)
    | .ok true => (skipAtMost p count (c.advance 1)).map fun r => (r.1 + 1, r.2)

/-- Move past the lines that satisfy `p`, up to the first that does not; the result counts them. -/
def skipWhile (c : Cursor) (p : Text → Bool) : Except OutOfRange (Nat × Cursor) :=
  skipAtMost p c.remaining c

/-- The first of `count` indices from `index` on whose line satisfies `p`. -/
def findAmong (c : Cursor) (p : Text → Bool) : Nat → Int → Except OutOfRange (Option Int)
  | 0, _ => .ok none
  | count + 1, index =>
    match c.line index with
    | .error e => .error e
    | .ok line => if p line then .ok (some index) else findAmong c p count (index + 1)

/-- The index of the next line that satisfies `p`. -/
def find? (c : Cursor) (p : Text → Bool) : Except OutOfRange (Option Int) :=
  c.findAmong p c.remaining c.position

/-- A cursor at the same place. -/
def copy (c : Cursor) : Cursor := make c.lines c.position (some c.stop)

/-- A cursor at the same place that stops at `stop`. -/
def bounded (c : Cursor) (stop : Int) : Cursor := make c.lines c.position (some stop)

/-- The lines from the current one up to the stop. -/
def rest (c : Cursor) : List Text := (c.lines.drop c.position.toNat).take c.remaining

/-- A cursor in words. -/
def describe (c : Cursor) : Text :=
  "Cursor(position=".toList ++ Text.ofInt c.position ++ ", stop=".toList ++ Text.ofInt c.stop ++ [')']

/-- A new cursor stops inside its lines. -/
theorem stop_make_le (lines : List Text) (position : Int) (stop : Option Int) :
    (make lines position stop).stop ≤ lines.length := by
  cases stop with
  | none => simp [make]
  | some s => simp only [make, Option.elim]; omega

/-- A new cursor does not stand behind its stop. -/
theorem position_make_le (lines : List Text) (position : Int) (stop : Option Int) :
    (make lines position stop).position ≤ (make lines position stop).stop := by
  cases stop with
  | none => simp only [make, Option.elim]; omega
  | some s => simp only [make, Option.elim]; omega

end Cursor

end Commentary
