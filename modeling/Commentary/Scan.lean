import Commentary.Cursor
import Commentary.Line.Comment
import Commentary.Line.Shape

/-!
# Scanning a commentary

A scan walks over the lines that are left and groups the comment lines of the body into blocks. It
looks for the Commentary line, skips blank lines and licenses, reads one block at a time, and is done
at the Code line or when no line is left.
-/

namespace Commentary

/-- What a scan is about to do. -/
inductive ScanState where
  | header
  | body
  | license
  | block
  | done
  deriving DecidableEq, Repr

/-- A scan between two steps. -/
structure Scan where
  /-- What the scan is about to do. -/
  state : ScanState
  /-- The lines that are left. -/
  rest : List Text
  /-- Whether a heading has been read, so that the next one stands deeper. -/
  afterHeading : Bool
  deriving DecidableEq, Repr

/-- A block was to be read where no comment line stands. -/
structure NoCommentText where
  deriving DecidableEq, Repr

/-- What a step of a scan has to tell. -/
inductive ScanEvent where
  /-- No line opens the commentary. -/
  | noCommentary
  /-- That many lines of a license were skipped. -/
  | licenseSkipped (count : Nat)
  /-- A block was read. -/
  | blockRead (block : Block)
  deriving DecidableEq, Repr

/-- A step of a scan: what it has to tell and where it leads. -/
structure ScanStep where
  /-- What the step has to tell. -/
  event : Option ScanEvent
  /-- The scan after the step. -/
  scan : Scan
  deriving DecidableEq, Repr

/-- The block that a step has read. -/
def ScanStep.block? (s : ScanStep) : Option Block :=
  match s.event with
  | some (.blockRead b) => some b
  | _ => none

namespace Scan

/-- Whether the first line that is not blank, if it is a comment, starts a paragraph. -/
def paragraphFollows (m : Char) (lines : List Text) : Bool :=
  match (lines.dropWhile (Line.isBlank m)).head? with
  | none => true
  | some line => (Line.commentText? m line).all (Line.blockKind · == .paragraph)

/-- The title of the heading that `lines` start with. A heading is followed by a blank line, and then
by no bullet and no code. -/
def headingAt? (m : Char) : List Text → Option Text
  | [] => none
  | line :: after =>
    if after.head?.any (Line.isBlank m) && paragraphFollows m after then
      (Line.commentText? m line).bind Line.heading?
    else none

/-- A line that belongs to the block it stands in: a comment that is not blank. -/
def isMember (m : Char) (line : Text) : Bool :=
  (Line.commentText? m line).isSome && !Line.isBlank m line

/-- A line that can follow the first line of a block: a member that opens no section. -/
def continuesBlock (m : Char) (line : Text) : Bool := isMember m line && !Line.opensSection m line

/-- The lines of the block that starts here. -/
def blockLines (m : Char) : List Text → List Text
  | [] => []
  | line :: after => if isMember m line then line :: after.takeWhile (continuesBlock m) else []

/-- The lines behind the block that starts here. -/
def afterBlock (m : Char) : List Text → List Text
  | [] => []
  | line :: after => if isMember m line then after.dropWhile (continuesBlock m) else line :: after

/-- The level of the next heading. -/
def nextLevel (afterHeading : Bool) : HeadingLevel := if afterHeading then .three else .two

/-- Read the block at the current line. -/
def takeBlock (m : Char) (s : Scan) : Except NoCommentText ScanStep :=
  match headingAt? m s.rest with
  | some title =>
    .ok ⟨some (.blockRead ⟨.heading, [title], some (nextLevel s.afterHeading)⟩),
      ⟨.body, s.rest.tail, true⟩⟩
  | none =>
    match s.rest.head?.bind (Line.commentText? m) with
    | none => .error {}
    | some text =>
      .ok ⟨some (.blockRead
          ⟨Line.blockKind text, (blockLines m s.rest).filterMap (Line.commentText? m), none⟩),
        { s with state := .body, rest := afterBlock m s.rest }⟩

/-- Skip blank lines and see what the body goes on with. -/
def enterBody (m : Char) (s : Scan) : Scan :=
  match s.rest.dropWhile (Line.isBlank m) with
  | [] => { s with state := .done, rest := [] }
  | line :: after =>
    if Line.opens m .code line then { s with state := .done, rest := line :: after }
    else if Line.opens m .license line then { s with state := .license, rest := after }
    else if (Line.commentText? m line).isNone then { s with rest := after }
    else { s with state := .block, rest := line :: after }

/-- One step of a scan. A scan that is done stays as it is. -/
def step (m : Char) (s : Scan) : Except NoCommentText ScanStep :=
  match s.state with
  | .header =>
    match s.rest.dropWhile (!Line.opens m .commentary ·) with
    | [] => .ok ⟨some .noCommentary, { s with state := .done }⟩
    | _ :: after => .ok ⟨none, { s with state := .body, rest := after }⟩
  | .body => .ok ⟨none, enterBody m s⟩
  | .license =>
    let rest := s.rest.dropWhile (!Line.isTopLevel m ·)
    .ok ⟨some (.licenseSkipped (s.rest.length - rest.length)), { s with state := .body, rest := rest }⟩
  | .block => takeBlock m s
  | .done => .ok ⟨none, s⟩

/-- How far a scan is from its end, where a line counts twice. A body steps down to a block, and a
block that starts with a member uses that line up. -/
def weight (m : Char) (s : Scan) : Nat :=
  2 * s.rest.length +
    match s.state with
    | .done => 0
    | .body => 1
    | .header | .license => 2
    | .block => if s.rest.head?.any (isMember m) then 0 else 2

/-- A block that starts with a member uses up a line, and any other uses up none. -/
theorem length_afterBlock (m : Char) (lines : List Text) :
    2 * (afterBlock m lines).length + 1 <
      2 * lines.length + if lines.head?.any (isMember m) then 0 else 2 := by
  cases lines with
  | nil => simp [afterBlock]
  | cons line after =>
    have h := (List.dropWhile_suffix (continuesBlock m) (l := after)).length_le
    cases hm : isMember m line with
    | false => simp [afterBlock, hm]
    | true =>
      simp only [afterBlock, hm, ite_true, List.length_cons, List.head?_cons, Option.any_some]
      omega

/-- A heading stands on a line. -/
theorem ne_nil_of_headingAt? {m : Char} {lines : List Text} {title : Text}
    (h : headingAt? m lines = some title) : lines ≠ [] := by
  rintro rfl
  simp [headingAt?] at h

/-- Reading a block brings a scan closer to its end. -/
theorem weight_takeBlock_lt {m : Char} {s : Scan} {next : ScanStep} (hs : s.state = .block)
    (h : takeBlock m s = .ok next) : weight m next.scan < weight m s := by
  simp only [takeBlock] at h
  split at h
  · next title ht =>
    obtain rfl := Except.ok.inj h
    have hpos := List.length_pos_iff.2 (ne_nil_of_headingAt? ht)
    simp only [weight, hs, List.length_tail]
    omega
  · split at h
    · simp at h
    · obtain rfl := Except.ok.inj h
      simpa only [weight, hs] using length_afterBlock m s.rest

/-- Looking for the next block brings a scan closer to its end. -/
theorem weight_enterBody_lt {m : Char} {s : Scan} (hs : s.state = .body) :
    weight m (enterBody m s) < weight m s := by
  have hle := (List.dropWhile_suffix (Line.isBlank m) (l := s.rest)).length_le
  have hhead := List.head?_dropWhile_not (Line.isBlank m) s.rest
  simp only [enterBody]
  split
  · simp only [weight, hs, List.length_nil]
    omega
  · next line after hd =>
    rw [hd] at hle hhead
    simp only [List.length_cons] at hle
    split
    · simp only [weight, hs, List.length_cons]
      omega
    · split
      · simp only [weight, hs]
        omega
      · split
        · simp only [weight, hs]
          omega
        · next hc =>
          have hm : isMember m line = true := by
            simp_all [isMember, Option.isSome_iff_ne_none]
          simp only [weight, hs, List.length_cons, List.head?_cons, Option.any_some, hm, ite_true]
          omega

/-- Every step of a scan that is not done leads closer to its end. -/
theorem weight_step_lt {m : Char} {s : Scan} {next : ScanStep} (hs : s.state ≠ .done)
    (h : step m s = .ok next) : weight m next.scan < weight m s := by
  simp only [step] at h
  split at h
  · next he =>
    have hle := (List.dropWhile_suffix (!Line.opens m .commentary ·) (l := s.rest)).length_le
    split at h
    · obtain rfl := Except.ok.inj h
      simp only [weight, he]
      omega
    · next hd =>
      rw [hd, List.length_cons] at hle
      obtain rfl := Except.ok.inj h
      simp only [weight, he]
      omega
  · next he =>
    obtain rfl := Except.ok.inj h
    exact weight_enterBody_lt he
  · next he =>
    obtain rfl := Except.ok.inj h
    have hle := (List.dropWhile_suffix (!Line.isTopLevel m ·) (l := s.rest)).length_le
    simp only [weight, he]
    omega
  · next he => exact weight_takeBlock_lt he h
  · next he => exact absurd he hs

/-- The steps of a scan until it is done or fails, at most `count` of them. -/
def traceAtMost (m : Char) : (count : Nat) → Scan → List ScanStep × Option NoCommentText
  | 0, _ => ([], none)
  | count + 1, s =>
    if s.state = .done then ([], none)
    else match step m s with
      | .error e => ([], some e)
      | .ok next =>
        let later := traceAtMost m count next.scan
        (next :: later.1, later.2)

/-- The steps of a scan until it is done or fails. Its weight is a bound on their number. -/
def trace (m : Char) (s : Scan) : List ScanStep × Option NoCommentText :=
  traceAtMost m (weight m s) s

/-- Nothing but the end has no weight. -/
theorem state_eq_done_of_weight_eq_zero {m : Char} {s : Scan} (h : weight m s = 0) :
    s.state = .done := by
  have hrest : s.rest = [] := by
    rw [← List.length_eq_zero_iff]
    unfold weight at h
    omega
  cases hs : s.state <;> simp [weight, hs, hrest] at h ⊢

/-- More steps than the weight add nothing. -/
theorem traceAtMost_eq_trace {m : Char} {count : Nat} {s : Scan} (h : weight m s ≤ count) :
    traceAtMost m count s = trace m s := by
  suffices general : ∀ bound, weight m s ≤ bound → traceAtMost m count s = traceAtMost m bound s by
    exact general _ (Nat.le_refl _)
  induction count generalizing s with
  | zero =>
    intro bound _
    have hs := state_eq_done_of_weight_eq_zero (Nat.le_zero.1 h)
    cases bound <;> simp [traceAtMost, hs]
  | succ count ih =>
    intro bound hb
    by_cases hs : s.state = .done
    · cases bound <;> simp [traceAtMost, hs]
    · cases bound with
      | zero => exact absurd (state_eq_done_of_weight_eq_zero (Nat.le_zero.1 hb)) hs
      | succ bound =>
        cases hn : step m s with
        | error e => simp [traceAtMost, hn]
        | ok next =>
          have hlt := weight_step_lt hs hn
          simp only [traceAtMost, hs, hn, ite_false]
          rw [ih (by omega) bound (by omega)]

/-- A scan that is done takes no step. -/
theorem trace_of_done {m : Char} {s : Scan} (hs : s.state = .done) : trace m s = ([], none) := by
  rw [← traceAtMost_eq_trace (Nat.le_succ _), traceAtMost, if_pos hs]

/-- A scan whose first step fails takes none. -/
theorem trace_of_error {m : Char} {s : Scan} {e : NoCommentText} (hs : s.state ≠ .done)
    (h : step m s = .error e) : trace m s = ([], some e) := by
  rw [← traceAtMost_eq_trace (Nat.le_succ _), traceAtMost, if_neg hs, h]

/-- The trace of a scan is its next step and the trace of the scan behind it. -/
theorem trace_of_ok {m : Char} {s : Scan} {next : ScanStep} (hs : s.state ≠ .done)
    (h : step m s = .ok next) :
    trace m s = (next :: (trace m next.scan).1, (trace m next.scan).2) := by
  have hle := Nat.le_of_lt (weight_step_lt hs h)
  rw [← traceAtMost_eq_trace (Nat.le_succ _), traceAtMost, if_neg hs, h]
  simp only [traceAtMost_eq_trace hle]

/-- The scan after all steps of its trace. -/
def final (m : Char) (s : Scan) : Scan := ((trace m s).1.getLast?.map ScanStep.scan).getD s

/-- The blocks of a scan. -/
def blocks (m : Char) (s : Scan) : Except NoCommentText (List Block) :=
  match trace m s with
  | (steps, none) => .ok (steps.filterMap ScanStep.block?)
  | (_, some e) => .error e

/-- A scan of what a cursor has left to read. -/
def ofCursor (c : Cursor) (state : ScanState) (afterHeading : Bool) : Scan := ⟨state, c.rest, afterHeading⟩

/-- A scan of a whole document. -/
def ofDocument (lines : List Text) : Scan := ⟨.header, lines, false⟩

/-- A scan of lines that are known to be the body. -/
def ofBody (lines : List Text) : Scan := ⟨.body, lines, false⟩

end Scan

end Commentary
