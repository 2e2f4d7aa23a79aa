import Commentary.Scan

/-!
# Scan sessions

A session scans one cursor after another. Between two scans it remembers whether it has read a
heading: a scan that goes step by step builds on that, and a whole run starts afresh.
-/

namespace Commentary

/-- What stays between two scans. -/
structure Session where
  /-- Whether a heading has been read. -/
  afterHeading : Bool := false
  deriving DecidableEq, Repr

namespace Session

/-- A cursor after the lines that a scan of it has used up. -/
def moved (c : Cursor) (s : Scan) : Cursor := { c with position := c.stop - s.rest.length }

/-- A step as it looks from outside. -/
structure Progress where
  /-- What the scan is about to do after the step. -/
  state : ScanState
  /-- The cursor after the step. -/
  cursor : Cursor
  /-- The block that the step has read. -/
  block : Option Block
  deriving DecidableEq, Repr

/-- A scan that came to its end. -/
structure Segmentation where
  /-- What the scan is about to do, which is nothing. -/
  state : ScanState
  /-- The cursor after the last step. -/
  cursor : Cursor
  /-- The blocks in the order in which they were read. -/
  blocks : List Block
  deriving DecidableEq, Repr

/-- Scan a cursor step by step, until the scan is done or fails. A heading that was read before still
counts. -/
def walk (m : Char) (session : Session) (c : Cursor) (state : ScanState) :
    (List Progress × Option NoCommentText) × Session :=
  let scan := Scan.ofCursor c state session.afterHeading
  let (steps, failure) := scan.trace m
  ((steps.map fun step => ⟨step.scan.state, moved c step.scan, step.block?⟩, failure),
    ⟨(scan.final m).afterHeading⟩)

/-- A session that has forgotten what was read before. -/
def restarted (session : Session) : Session := { session with afterHeading := false }

/-- Scan a cursor as a whole. What was read before does not count. -/
def run (m : Char) (session : Session) (c : Cursor) (state : ScanState) :
    Except NoCommentText Segmentation × Session :=
  let scan := Scan.ofCursor c state session.restarted.afterHeading
  let final := scan.final m
  ((scan.blocks m).map fun blocks => ⟨final.state, moved c final, blocks⟩, ⟨final.afterHeading⟩)

/-- A whole run gives the same whatever has been scanned before. -/
theorem run_eq_run (m : Char) (session fresh : Session) (c : Cursor) (state : ScanState) :
    session.run m c state = fresh.run m c state := rfl

end Session

end Commentary
