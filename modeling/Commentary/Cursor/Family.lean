import Commentary.Cursor

/-!
# Families of cursors

Several cursors over the same lines, each known by its number. A copy joins the family at its end;
every other operation looks at one cursor or moves it.
-/

namespace Commentary

/-- An operation on one cursor. -/
inductive CursorOp where
  /-- Move by that many lines. -/
  | advance (n : Int)
  /-- Read the current line. -/
  | peek
  /-- Ask whether nothing is left to read. -/
  | atEnd
  /-- Put the cursor into words. -/
  | describe
  /-- Ask whether the current line satisfies `p`. -/
  | peekIs (p : Text → Bool)
  /-- Move past the lines that satisfy `p`. -/
  | skipWhile (p : Text → Bool)
  /-- Look for the next line that satisfies `p`. -/
  | find (p : Text → Bool)
  /-- Add a cursor at the same place. -/
  | copy
  /-- Add a cursor at the same place that stops at `stop`. -/
  | bounded (stop : Int)

/-- What an operation on a cursor answers. -/
inductive CursorReply where
  | nothing
  | line (line : Option Text)
  | truth (b : Bool)
  | words (t : Text)
  | count (n : Nat)
  | index (i : Option Int)
  deriving DecidableEq, Repr

/-- What an operation on a cursor leads to. -/
structure CursorEffect where
  /-- The answer. -/
  reply : CursorReply
  /-- The cursor after the operation. -/
  cursor : Cursor
  /-- The cursor that the operation adds. -/
  added : Option Cursor := none
  deriving DecidableEq, Repr

/-- Perform an operation on a cursor. -/
def CursorOp.apply (c : Cursor) : CursorOp → Except OutOfRange CursorEffect
  | .advance n => .ok ⟨.nothing, c.advance n, none⟩
  | .peek => c.peek.map fun line => ⟨.line line, c, none⟩
  | .atEnd => .ok ⟨.truth c.atEnd, c, none⟩
  | .describe => .ok ⟨.words c.describe, c, none⟩
  | .peekIs p => (c.peekIs p).map fun b => ⟨.truth b, c, none⟩
  | .skipWhile p => (c.skipWhile p).map fun r => ⟨.count r.1, r.2, none⟩
  | .find p => (c.find? p).map fun i => ⟨.index i, c, none⟩
  | .copy => .ok ⟨.nothing, c, some c.copy⟩
  | .bounded stop => .ok ⟨.nothing, c, some (c.bounded stop)⟩

/-- Cursors by their numbers, the first one being 0. A negative number counts from the last one. -/
abbrev CursorFamily := List Cursor

namespace CursorFamily

/-- Perform an operation on the cursor of that number. -/
def perform (family : CursorFamily) (number : Int) (op : CursorOp) :
    Except OutOfRange (CursorReply × CursorFamily) :=
  match placeOf family.length number with
  | .error e => .error e
  | .ok place =>
    match family[place]? with
    | none => .error .outside
    | some c => (op.apply c).map fun e => (e.reply, family.set place e.cursor ++ e.added.toList)

/-- Perform operations in order, each on the cursor whose number stands before it. The result lists
every reply with the family after it. -/
def performAll (family : CursorFamily) :
    List (Int × CursorOp) → Except OutOfRange (List (CursorReply × CursorFamily))
  | [] => .ok []
  | (number, op) :: later =>
    match family.perform number op with
    | .error e => .error e
    | .ok (reply, family) => (performAll family later).map ((reply, family) :: ·)

end CursorFamily

end Commentary
