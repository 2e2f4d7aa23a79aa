import Commentary.Proofs.CursorPlacement
import Commentary.Proofs.Reading
import Commentary.Session

/-!
# Every run comes to its end

A scan fails only where a block is to be read and no comment text stands; every other scan runs
until it is done. Along a run the lines that are left only get fewer, and a scan of a body leaves
the Code line and what follows it. Seen from a session, whatever was scanned before makes no
difference.
-/

namespace Commentary.Scan

variable {m : Char} {s : Scan}

/-- A scan that is to read a block where no comment text stands. -/
def Stuck (m : Char) (s : Scan) : Prop :=
  s.state = .block ∧ s.rest.head?.bind (Line.commentText? m) = none

/-- A heading has a comment text. -/
theorem exists_text_of_headingAt? {lines : List Text} {title : Text}
    (h : headingAt? m lines = some title) :
    ∃ text, lines.head?.bind (Line.commentText? m) = some text := by
  cases lines with
  | nil => simp [headingAt?] at h
  | cons line after =>
    simp only [headingAt?] at h
    split at h
    · obtain ⟨text, htext, _⟩ := Option.bind_eq_some_iff.1 h
      exact ⟨text, htext⟩
    · simp at h

/-- A scan that is stuck takes no step. -/
theorem step_of_stuck (h : Stuck m s) : step m s = .error {} := by
  have hheading : headingAt? m s.rest = none := by
    cases hh : headingAt? m s.rest with
    | none => rfl
    | some title =>
      obtain ⟨text, htext⟩ := exists_text_of_headingAt? hh
      simp [h.2] at htext
  simp only [step, h.1, takeBlock, hheading, h.2]

/-- A block that starts with a comment is read, and the scan goes on in the body. -/
theorem step_of_text {text : Text} (hs : s.state = .block)
    (h : s.rest.head?.bind (Line.commentText? m) = some text) :
    ∃ next, step m s = .ok next ∧ next.scan.state = .body := by
  simp only [step, hs, takeBlock]
  cases headingAt? m s.rest with
  | some title => exact ⟨_, rfl, rfl⟩
  | none =>
    simp only [h]
    exact ⟨_, rfl, rfl⟩

/-- A license is skipped up to the next line that starts with three markers. -/
theorem step_of_license (hs : s.state = .license) : step m s =
    .ok ⟨some (.licenseSkipped
        (s.rest.length - (s.rest.dropWhile (!Line.isTopLevel m ·)).length)),
      ⟨.body, s.rest.dropWhile (!Line.isTopLevel m ·), s.afterHeading⟩⟩ := by
  simp only [step, hs]

private theorem exists_completes_of_body (hs : s.state = .body) :
    ∃ steps last, Completes m s steps last := by
  obtain ⟨bs, rest, hreading⟩ := exists_reading m s.afterHeading s.rest
  obtain ⟨steps, last, hrun, _⟩ := hreading.completes
  have hscan : (⟨.body, s.rest, s.afterHeading⟩ : Scan) = s := by rw [← hs]
  exact ⟨steps, last, hscan ▸ hrun⟩

private theorem exists_completes_of_step {next : ScanStep} (hs : s.state ≠ .done)
    (hstep : step m s = .ok next) (hnext : next.scan.state = .body) :
    ∃ steps last, Completes m s steps last := by
  obtain ⟨steps, last, hrun⟩ := exists_completes_of_body (m := m) hnext
  exact ⟨_, last, .step hs hstep hrun⟩

/-- A scan that is not stuck runs until it is done. -/
theorem exists_completes (h : ¬ Stuck m s) : ∃ steps last, Completes m s steps last := by
  cases hs : s.state with
  | header =>
    have hne : s.state ≠ .done := by rw [hs]; exact ScanState.noConfusion
    cases hd : s.rest.dropWhile (!Line.opens m .commentary ·) with
    | nil =>
      have hstep : step m s = .ok ⟨some .noCommentary, { s with state := .done }⟩ := by
        simp only [step, hs, hd]
      exact ⟨_, _, .step hne hstep (.done rfl)⟩
    | cons line after =>
      have hstep : step m s = .ok ⟨none, { s with state := .body, rest := after }⟩ := by
        simp only [step, hs, hd]
      exact exists_completes_of_step hne hstep rfl
  | body => exact exists_completes_of_body hs
  | license =>
    have hne : s.state ≠ .done := by rw [hs]; exact ScanState.noConfusion
    exact exists_completes_of_step hne (step_of_license hs) rfl
  | block =>
    have hne : s.state ≠ .done := by rw [hs]; exact ScanState.noConfusion
    cases htext : s.rest.head?.bind (Line.commentText? m) with
    | none => exact absurd ⟨hs, htext⟩ h
    | some text =>
      obtain ⟨next, hstep, hnext⟩ := step_of_text hs htext
      exact exists_completes_of_step hne hstep hnext
  | done => exact ⟨[], s, .done hs⟩

/-- A scan gives blocks unless it is stuck from the start. -/
theorem blocks_eq_error_iff : blocks m s = .error {} ↔ Stuck m s := by
  constructor
  · intro h
    by_contra hnot
    obtain ⟨steps, last, hrun⟩ := exists_completes hnot
    rw [hrun.blocks_eq] at h
    cases h
  · intro h
    have hne : s.state ≠ .done := by rw [h.1]; exact ScanState.noConfusion
    rw [blocks, trace_of_error hne (step_of_stuck h)]

/-! ## The lines that are left -/

/-- The lines behind a block are the last ones of all. -/
theorem afterBlock_suffix (m : Char) (lines : List Text) : afterBlock m lines <:+ lines := by
  cases lines with
  | nil => exact List.suffix_refl _
  | cons line after =>
    simp only [afterBlock]
    split
    · exact (List.dropWhile_suffix _).trans (List.suffix_cons line after)
    · exact List.suffix_refl _

/-- A scan of the body gives up lines in front only. -/
theorem enterBody_suffix (m : Char) (s : Scan) : (enterBody m s).rest <:+ s.rest := by
  have hdrop := List.dropWhile_suffix (l := s.rest) (Line.isBlank m)
  simp only [enterBody]
  split
  · exact List.nil_suffix
  · next line after hd =>
    rw [hd] at hdrop
    have hafter := (List.suffix_cons line after).trans hdrop
    split
    · exact hdrop
    · split
      · exact hafter
      · split
        · exact hafter
        · exact hdrop

/-- A block takes lines in front only. -/
theorem takeBlock_suffix {next : ScanStep} (h : takeBlock m s = .ok next) :
    next.scan.rest <:+ s.rest := by
  simp only [takeBlock] at h
  split at h
  · obtain rfl := Except.ok.inj h
    exact List.tail_suffix _
  · split at h
    · cases h
    · obtain rfl := Except.ok.inj h
      exact afterBlock_suffix m s.rest

/-- No step goes back. -/
theorem step_suffix {next : ScanStep} (h : step m s = .ok next) : next.scan.rest <:+ s.rest := by
  simp only [step] at h
  split at h
  · have hdrop := List.dropWhile_suffix (l := s.rest) (!Line.opens m .commentary ·)
    split at h
    · obtain rfl := Except.ok.inj h
      exact List.suffix_refl _
    · next line after hd =>
      obtain rfl := Except.ok.inj h
      rw [hd] at hdrop
      exact (List.suffix_cons line after).trans hdrop
  · obtain rfl := Except.ok.inj h
    exact enterBody_suffix m s
  · obtain rfl := Except.ok.inj h
    exact List.dropWhile_suffix _
  · exact takeBlock_suffix h
  · obtain rfl := Except.ok.inj h
    exact List.suffix_refl _

/-- Along a run the lines that are left at one step are among those left before it. -/
theorem Completes.pairwise_suffix {last : Scan} {steps : List ScanStep}
    (h : Completes m s steps last) :
    (s.rest :: steps.map (·.scan.rest)).Pairwise fun before after => after <:+ before := by
  induction h with
  | done => exact List.pairwise_singleton _ _
  | step _ hstep _ ih =>
    rw [List.map_cons]
    refine List.pairwise_cons.2 ⟨?_, ih⟩
    intro rest hrest
    have hnext := step_suffix hstep
    rcases List.mem_cons.1 hrest with rfl | hlater
    · exact hnext
    · exact ((List.pairwise_cons.1 ih).1 rest hlater).trans hnext

/-- What a scan leaves over are the last ones of its lines. -/
theorem Completes.rest_suffix {last : Scan} {steps : List ScanStep}
    (h : Completes m s steps last) : last.rest <:+ s.rest := by
  induction h with
  | done => exact List.suffix_refl _
  | step _ hstep _ ih => exact ih.trans (step_suffix hstep)

/-! ## The Code line -/

/-- The lines from the first Code line on. -/
def fromCode (m : Char) (lines : List Text) : List Text := lines.dropWhile (!Line.opens m .code ·)

/-- A line that is no Code line stands before the Code line. -/
theorem fromCode_cons {line : Text} (h : Line.opens m .code line = false) (after : List Text) :
    fromCode m (line :: after) = fromCode m after :=
  List.dropWhile_cons_of_pos (by simp [h])

/-- Lines that can be passed without passing the Code line do not matter. -/
theorem fromCode_dropWhile {p : Text → Bool}
    (h : ∀ line, p line = true → Line.opens m .code line = false) (lines : List Text) :
    fromCode m (lines.dropWhile p) = fromCode m lines := by
  induction lines with
  | nil => rfl
  | cons line after ih =>
    by_cases hp : p line = true
    · rw [List.dropWhile_cons_of_pos hp, fromCode_cons (h line hp), ih]
    · rw [List.dropWhile_cons_of_neg hp]

/-- Lines are split at the first of them that opens the code. -/
theorem exists_append_fromCode (m : Char) (lines : List Text) :
    ∃ before, lines = before ++ fromCode m lines ∧
      (∀ line ∈ before, Line.opens m .code line = false) ∧
      ∀ line ∈ (fromCode m lines).head?, Line.opens m .code line = true := by
  refine ⟨lines.takeWhile (!Line.opens m .code ·), List.takeWhile_append_dropWhile.symm, ?_, ?_⟩
  · intro line hline
    simpa using List.mem_takeWhile_imp hline
  · intro line hline
    have hhead := List.head?_dropWhile_not (!Line.opens m .code ·) lines
    rw [show (lines.dropWhile (!Line.opens m .code ·)).head? = some line from hline] at hhead
    simpa using hhead

private theorem not_code_of_not_isTopLevel {line : Text} (h : (!Line.isTopLevel m line) = true) :
    Line.opens m .code line = false :=
  Line.opens_of_not_isTopLevel (by simpa using h) .code

private theorem not_code_of_continuesBlock {line : Text} (h : continuesBlock m line = true) :
    Line.opens m .code line = false := by
  simp only [continuesBlock, Line.opensSection, Bool.and_eq_true, Bool.not_eq_true',
    Bool.or_eq_false_iff] at h
  exact h.2.1.2

/-- A reading leaves the Code line and what follows it. -/
theorem Reading.rest_eq {deep : Bool} {lines rest : List Text} {bs : List Block}
    (h : Reading m deep lines bs rest) : rest = fromCode m lines := by
  induction h with
  | nil => rfl
  | code hcode => exact (List.dropWhile_cons_of_neg (by simp [hcode])).symm
  | blank hblank _ ih => rw [fromCode_cons (Line.opens_of_isBlank hblank .code), ih]
  | license hlicense _ ih =>
    rw [fromCode_cons (Line.opens_of_ne hlicense (by decide)), ih,
      fromCode_dropWhile fun _ => not_code_of_not_isTopLevel]
  | stray _ hcode _ _ _ ih => rw [fromCode_cons hcode, ih]
  | heading hstart _ _ ih => rw [fromCode_cons hstart.notCode, ih]
  | block hstart _ _ _ ih =>
    rw [fromCode_cons hstart.notCode, ih, fromCode_dropWhile fun _ => not_code_of_continuesBlock]

private theorem Completes.rest_eq_of_body {last : Scan} {steps : List ScanStep}
    (h : Completes m s steps last) (hs : s.state = .body) : last.rest = fromCode m s.rest := by
  obtain ⟨bs, rest, hreading⟩ := exists_reading m s.afterHeading s.rest
  obtain ⟨steps', last', hrun, _, hrest⟩ := hreading.completes
  have hscan : (⟨.body, s.rest, s.afterHeading⟩ : Scan) = s := by rw [← hs]
  rw [hscan] at hrun
  rw [← h.final_eq, hrun.final_eq, hrest, hreading.rest_eq]

/-- A scan of a body or of a license leaves the Code line and what follows it. -/
theorem Completes.rest_eq {last : Scan} {steps : List ScanStep} (h : Completes m s steps last)
    (hs : s.state = .body ∨ s.state = .license) : last.rest = fromCode m s.rest := by
  rcases hs with hs | hs
  · exact h.rest_eq_of_body hs
  · cases h with
    | done hdone => rw [hs] at hdone; exact ScanState.noConfusion hdone
    | step _ hstep hlater =>
      rw [step_of_license hs] at hstep
      obtain rfl := Except.ok.inj hstep
      rw [hlater.rest_eq_of_body rfl, fromCode_dropWhile fun _ => not_code_of_not_isTopLevel]

end Commentary.Scan

namespace Commentary.Session

variable {m : Char} {c : Cursor}

/-- Where the scan of a body comes to its end: at the first Code line from the cursor's position on,
or at its stop if there is none. -/
structure EndsAtCode (m : Char) (c : Cursor) (position : Int) : Prop where
  /-- The end lies neither before the start nor behind the stop. -/
  between : c.position ≤ position ∧ position ≤ c.stop
  /-- No line before the end opens the code. -/
  before : ∀ (i : Nat) (line : Text), c.position ≤ i → i < position → c.lines[i]? = some line →
    Line.opens m .code line = false
  /-- The end is the stop, or the line there opens the code. -/
  reached : position = c.stop ∨
    ∃ (i : Nat) (line : Text), position = i ∧ position < c.stop ∧ c.lines[i]? = some line ∧
      Line.opens m .code line = true

/-- A cursor that has moved with a scan has as many lines before its stop as the scan has left. -/
theorem position_moved (c : Cursor) (s : Scan) :
    (moved c s).position = c.stop - s.rest.length := rfl

/-- A scan that leaves the lines from the first Code line on has moved the cursor there. -/
theorem endsAtCode_moved (hc : c.Placed) {last : Scan} (h : last.rest = Scan.fromCode m c.rest) :
    EndsAtCode m c (moved c last).position := by
  obtain ⟨before, hsplit, hbefore, hhead⟩ := Scan.exists_append_fromCode m c.rest
  rw [← h] at hsplit hhead
  have hlength := hc.length_rest
  have hnonneg := hc.nonneg
  have hsum := congrArg List.length hsplit
  rw [List.length_append] at hsum
  have hposition : (moved c last).position = c.position + before.length := by
    rw [position_moved]
    omega
  rw [hposition]
  refine ⟨by omega, ?_, ?_⟩
  · intro i line hi hlt hline
    have hk : i - c.position.toNat < before.length := by omega
    have hindex : c.position.toNat + (i - c.position.toNat) = i := by omega
    apply hbefore
    apply List.mem_of_getElem? (i := i - c.position.toNat)
    rw [← List.getElem?_append_left hk, ← hsplit, Cursor.getElem?_rest c (by omega), hindex, hline]
  · cases hlast : last.rest with
    | nil =>
      left
      rw [hlast, List.length_nil] at hsum
      omega
    | cons line after =>
      right
      have hline : c.rest[before.length]? = some line := by simp [hsplit, hlast]
      rw [hlast, List.length_cons] at hsum
      rw [Cursor.getElem?_rest c (by omega)] at hline
      refine ⟨_, line, by omega, by omega, hline, hhead line ?_⟩
      simp [hlast]

/-- A scan of a cursor is stuck where the cursor is at its end or at a line without comment text. -/
theorem stuck_ofCursor_iff (hc : c.Placed) {state : ScanState} {deep : Bool} :
    Scan.Stuck m (Scan.ofCursor c state deep) ↔ state = .block ∧ (c.atEnd = true ∨
      ∃ line, c.lines[c.position.toNat]? = some line ∧ Line.commentText? m line = none) := by
  simp only [Scan.Stuck, Scan.ofCursor, and_congr_right_iff]
  intro _
  cases hend : c.atEnd with
  | true => simp [hc.rest_eq_nil_iff.2 hend]
  | false =>
    have hne : c.rest ≠ [] := by simp [hc.rest_eq_nil_iff, hend]
    obtain ⟨line, after, hrest⟩ := List.exists_cons_of_ne_nil hne
    have hhead := hc.head?_rest hend
    rw [hrest, List.head?_cons] at hhead
    simp [hrest, ← hhead]

/-- A session ends where its scan completes, with the blocks of the scan. -/
theorem run_of_completes (session : Session) {state : ScanState} {steps : List ScanStep}
    {last : Scan} (h : Scan.Completes m (Scan.ofCursor c state false) steps last) :
    (session.run m c state).1 = .ok ⟨.done, moved c last, steps.filterMap ScanStep.block?⟩ := by
  simp only [run, restarted, h.blocks_eq, h.final_eq, h.state_eq_done]
  rfl

/-- A session fails if its scan is stuck at the start, and only then. -/
theorem run_eq_error_iff (session : Session) {state : ScanState} :
    (session.run m c state).1 = .error {} ↔ Scan.Stuck m (Scan.ofCursor c state false) := by
  rw [← Scan.blocks_eq_error_iff]
  simp only [run, restarted]
  cases Scan.blocks m (Scan.ofCursor c state false) with
  | error e => simp [Except.map]
  | ok bs => simp [Except.map]

/-- Along a run of a cursor its position never goes back. -/
theorem pairwise_position (hc : c.Placed) {state : ScanState} {deep : Bool} {steps : List ScanStep}
    {last : Scan} (h : Scan.Completes m (Scan.ofCursor c state deep) steps last) :
    (c.position :: steps.map fun step => (moved c step.scan).position).Pairwise (· ≤ ·) := by
  have hlength := hc.length_rest
  have hstart : c.position = c.stop - c.rest.length := by omega
  have hmap : (c.position :: steps.map fun step => (moved c step.scan).position) =
      ((c.rest :: steps.map (·.scan.rest)).map fun rest => c.stop - (rest.length : Int)) := by
    rw [List.map_cons, ← hstart, List.map_map]
    rfl
  rw [hmap, List.pairwise_map]
  apply h.pairwise_suffix.imp
  intro before after hsuffix
  have := hsuffix.length_le
  omega

/-- A whole run of any cursor, in any state and whatever the session has scanned before, gives what
a new session gives. It fails exactly where a block is to be read and no comment text stands.
Otherwise it goes on step by step until it is done, never moves back, and from the body or a license
on it ends at the first Code line. -/
theorem run_ends (m : Char) (session : Session) (lines : List Text) (position : Int)
    (stop : Option Int) (state : ScanState) :
    let c := Cursor.make lines position stop
    let result := (session.run m c state).1
    let lacksText := state = .block ∧ (c.atEnd = true ∨
      ∃ line, c.lines[c.position.toNat]? = some line ∧ Line.commentText? m line = none)
    result = (({} : Session).run m c state).1 ∧
    (result = .error {} ↔ lacksText) ∧
    (¬ lacksText → ∃ found, result = .ok found ∧
      found.state = .done ∧ c.position ≤ found.cursor.position ∧
      (state = .body ∨ state = .license → EndsAtCode m c found.cursor.position) ∧
      ∃ steps last, Scan.Completes m (Scan.ofCursor c state false) steps last ∧
        found.cursor = moved c last ∧ found.blocks = steps.filterMap ScanStep.block? ∧
        (c.position :: steps.map fun step => (moved c step.scan).position).Pairwise (· ≤ ·)) := by
  intro c result lacksText
  have hc : c.Placed := Cursor.placed_make lines position stop
  have hstuck : Scan.Stuck m (Scan.ofCursor c state false) ↔ lacksText := stuck_ofCursor_iff hc
  refine ⟨congrArg Prod.fst (run_eq_run m session {} c state), ?_, ?_⟩
  · rw [← hstuck]
    exact run_eq_error_iff session
  · intro hfree
    rw [← hstuck] at hfree
    obtain ⟨steps, last, hrun⟩ := Scan.exists_completes hfree
    have hle : last.rest.length ≤ c.rest.length := hrun.rest_suffix.length_le
    have hlength := hc.length_rest
    refine ⟨_, run_of_completes session hrun, rfl, ?_, ?_, steps, last, hrun, rfl, rfl,
      pairwise_position hc hrun⟩
    · rw [position_moved]
      omega
    · intro hstate
      exact endsAtCode_moved hc (hrun.rest_eq hstate)

end Commentary.Session
