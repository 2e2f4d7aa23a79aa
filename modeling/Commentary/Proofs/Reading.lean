import Commentary.Proofs.SectionLines
import Commentary.Scan

/-!
# Readings of a body

A complete run of a scan is a list of steps that ends in a scan that is done. What such a run finds
in a body is described by a derivation over the lines, one rule for each kind of line that the body
can go on with. Every list of lines has a reading, and the reading is what the scan gives.
-/

namespace Commentary.Scan

/-- A scan that goes step by step until it is done. -/
inductive Completes (m : Char) : Scan → List ScanStep → Scan → Prop
  | done {s : Scan} : s.state = .done → Completes m s [] s
  | step {s last : Scan} {next : ScanStep} {steps : List ScanStep} : s.state ≠ .done →
      step m s = .ok next → Completes m next.scan steps last → Completes m s (next :: steps) last

namespace Completes

variable {m : Char} {s last : Scan} {steps : List ScanStep}

/-- A scan that completes is done at its end. -/
theorem state_eq_done (h : Completes m s steps last) : last.state = .done := by
  induction h with
  | done hs => exact hs
  | step _ _ _ ih => exact ih

/-- The trace of a scan holds the steps of its complete run. -/
theorem trace_eq (h : Completes m s steps last) : trace m s = (steps, none) := by
  induction h with
  | done hs => exact trace_of_done hs
  | step hs hstep _ ih => rw [trace_of_ok hs hstep, ih]

/-- The blocks of a scan that completes are those of its steps. -/
theorem blocks_eq (h : Completes m s steps last) :
    blocks m s = .ok (steps.filterMap ScanStep.block?) := by
  rw [blocks, h.trace_eq]

private theorem getLast_scan_eq (h : Completes m s steps last) :
    (steps.getLast?.map ScanStep.scan).getD s = last := by
  induction h with
  | done => rfl
  | @step s last next steps _ _ _ ih =>
    cases steps with
    | nil => exact ih
    | cons first later =>
      rw [List.getLast?_cons_cons]
      rw [List.getLast?_eq_some_getLast (List.cons_ne_nil first later)] at ih ⊢
      exact ih

/-- A scan that completes ends where its last step has led. -/
theorem final_eq (h : Completes m s steps last) : final m s = last := by
  rw [final, h.trace_eq]
  exact h.getLast_scan_eq

end Completes

/-- A line of a body at which a block starts. -/
structure StartsBlock (m : Char) (line : Text) : Prop where
  /-- The line is a comment and not blank. -/
  member : isMember m line = true
  /-- The body does not end here. -/
  notCode : Line.opens m .code line = false
  /-- No license is skipped from here on. -/
  notLicense : Line.opens m .license line = false

/-- What a body is read as: `Reading m deep lines blocks rest` says that `lines` give `blocks` and
leave `rest`, where `deep` tells that a heading has been read before. -/
inductive Reading (m : Char) : Bool → List Text → List Block → List Text → Prop
  | nil {deep : Bool} : Reading m deep [] [] []
  | code {deep : Bool} {line : Text} {after : List Text} : Line.opens m .code line = true →
      Reading m deep (line :: after) [] (line :: after)
  | blank {deep : Bool} {line : Text} {after rest : List Text} {bs : List Block} :
      Line.isBlank m line = true → Reading m deep after bs rest →
      Reading m deep (line :: after) bs rest
  | license {deep : Bool} {line : Text} {after rest : List Text} {bs : List Block} :
      Line.opens m .license line = true →
      Reading m deep (after.dropWhile (!Line.isTopLevel m ·)) bs rest →
      Reading m deep (line :: after) bs rest
  | stray {deep : Bool} {line : Text} {after rest : List Text} {bs : List Block} :
      Line.isBlank m line = false → Line.opens m .code line = false →
      Line.opens m .license line = false → Line.commentText? m line = none →
      Reading m deep after bs rest → Reading m deep (line :: after) bs rest
  | heading {deep : Bool} {line title : Text} {after rest : List Text} {bs : List Block} :
      StartsBlock m line → headingAt? m (line :: after) = some title →
      Reading m true after bs rest →
      Reading m deep (line :: after) (⟨.heading, [title], some (nextLevel deep)⟩ :: bs) rest
  | block {deep : Bool} {line text : Text} {after rest : List Text} {bs : List Block} :
      StartsBlock m line → headingAt? m (line :: after) = none →
      Line.commentText? m line = some text →
      Reading m deep (after.dropWhile (continuesBlock m)) bs rest →
      Reading m deep (line :: after)
        (⟨Line.blockKind text,
          text :: (after.takeWhile (continuesBlock m)).filterMap (Line.commentText? m), none⟩ :: bs)
        rest

/-- A member has a comment text. -/
theorem exists_text_of_isMember {m : Char} {line : Text} (h : isMember m line = true) :
    ∃ text, Line.commentText? m line = some text := by
  simp only [isMember, Bool.and_eq_true] at h
  exact Option.isSome_iff_exists.1 h.1

/-- A member of a block is not blank. -/
theorem isBlank_of_isMember {m : Char} {line : Text} (h : isMember m line = true) :
    Line.isBlank m line = false := by
  simp only [isMember, Bool.and_eq_true, Bool.not_eq_true'] at h
  exact h.2

/-- No section is opened inside a block. -/
theorem continuesBlock_of_opens {m : Char} {s : Line.Section} {line : Text}
    (h : Line.opens m s line = true) : continuesBlock m line = false := by
  cases s <;> simp [continuesBlock, Line.opensSection, h]

/-- Every list of lines has a reading. -/
theorem exists_reading (m : Char) (deep : Bool) (lines : List Text) :
    ∃ bs rest, Reading m deep lines bs rest := by
  -- a block and a license may take many lines at once, so the induction is on the number of lines
  induction hn : lines.length using Nat.strong_induction_on generalizing deep lines with
  | _ n ih =>
    have shorter (deep : Bool) {later : List Text} (h : later.length < lines.length) :
        ∃ bs rest, Reading m deep later bs rest := ih _ (hn ▸ h) deep later rfl
    cases lines with
    | nil => exact ⟨[], [], .nil⟩
    | cons line after =>
      have hdrop (p : Text → Bool) : (after.dropWhile p).length < (line :: after).length := by
        have := List.length_dropWhile_le p after
        rw [List.length_cons]
        omega
      have hafter : after.length < (line :: after).length := by rw [List.length_cons]; omega
      cases hblank : Line.isBlank m line with
      | true =>
        obtain ⟨bs, rest, h⟩ := shorter deep hafter
        exact ⟨bs, rest, .blank hblank h⟩
      | false =>
        cases hcode : Line.opens m .code line with
        | true => exact ⟨[], _, .code hcode⟩
        | false =>
          cases hlicense : Line.opens m .license line with
          | true =>
            obtain ⟨bs, rest, h⟩ := shorter deep (hdrop (!Line.isTopLevel m ·))
            exact ⟨bs, rest, .license hlicense h⟩
          | false =>
            cases htext : Line.commentText? m line with
            | none =>
              obtain ⟨bs, rest, h⟩ := shorter deep hafter
              exact ⟨bs, rest, .stray hblank hcode hlicense htext h⟩
            | some text =>
              have hstart : StartsBlock m line :=
                ⟨by simp [isMember, htext, hblank], hcode, hlicense⟩
              cases hheading : headingAt? m (line :: after) with
              | some title =>
                obtain ⟨bs, rest, h⟩ := shorter true hafter
                exact ⟨_, rest, .heading hstart hheading h⟩
              | none =>
                obtain ⟨bs, rest, h⟩ := shorter deep (hdrop (continuesBlock m))
                exact ⟨_, rest, .block hstart hheading htext h⟩

/-! ## Looking ahead -/

/-- A blank line does not decide whether a paragraph follows. -/
theorem paragraphFollows_cons_of_blank {m : Char} {line : Text} (h : Line.isBlank m line = true)
    (after : List Text) : paragraphFollows m (line :: after) = paragraphFollows m after := by
  rw [paragraphFollows, paragraphFollows, List.dropWhile_cons_of_pos h]

/-- The first line that is not blank decides whether a paragraph follows. -/
theorem paragraphFollows_cons_of_not_blank {m : Char} {line : Text}
    (h : ¬ Line.isBlank m line = true) (after : List Text) :
    paragraphFollows m (line :: after) =
      (Line.commentText? m line).all (Line.blockKind · == .paragraph) := by
  rw [paragraphFollows, List.dropWhile_cons_of_neg h]
  rfl

/-! ## Lines up to a border -/

section Border

variable {border : Text}

/-- What is dropped before a line that stays does not depend on what follows it. -/
theorem dropWhile_append_border {f : Text → Bool} (h : f border = false)
    (lines after : List Text) :
    (lines ++ border :: after).dropWhile f = lines.dropWhile f ++ border :: after := by
  induction lines with
  | nil => exact List.dropWhile_cons_of_neg (by simp [h])
  | cons line lines ih =>
    by_cases hf : f line = true
    · rw [List.cons_append, List.dropWhile_cons_of_pos hf, List.dropWhile_cons_of_pos hf, ih]
    · rw [List.cons_append, List.dropWhile_cons_of_neg hf, List.dropWhile_cons_of_neg hf,
        List.cons_append]

/-- What is taken before a line that is not taken does not depend on what follows it. -/
theorem takeWhile_append_border {f : Text → Bool} (h : f border = false)
    (lines after : List Text) : (lines ++ border :: after).takeWhile f = lines.takeWhile f := by
  induction lines with
  | nil => exact List.takeWhile_cons_of_neg (by simp [h])
  | cons line lines ih =>
    by_cases hf : f line = true
    · rw [List.cons_append, List.takeWhile_cons_of_pos hf, List.takeWhile_cons_of_pos hf, ih]
    · rw [List.cons_append, List.takeWhile_cons_of_neg hf, List.takeWhile_cons_of_neg hf]

end Border

/-! ## The scan of a body gives its reading -/

section Body

variable {m : Char} {deep : Bool} {line : Text} {after : List Text}

/-- A blank line is passed over. -/
theorem enterBody_of_blank (h : Line.isBlank m line = true) :
    enterBody m ⟨.body, line :: after, deep⟩ = enterBody m ⟨.body, after, deep⟩ := by
  simp only [enterBody, List.dropWhile_cons_of_pos h]

/-- At the Code line a scan is done. -/
theorem enterBody_of_code (h : Line.opens m .code line = true) :
    enterBody m ⟨.body, line :: after, deep⟩ = ⟨.done, line :: after, deep⟩ := by
  have hblank : ¬ Line.isBlank m line = true := by simp [Line.isBlank_of_opens h]
  simp only [enterBody, List.dropWhile_cons_of_neg hblank, h, ite_true]

/-- At a line that opens a license a scan is about to skip the license. -/
theorem enterBody_of_license (h : Line.opens m .license line = true) :
    enterBody m ⟨.body, line :: after, deep⟩ = ⟨.license, after, deep⟩ := by
  have hblank : ¬ Line.isBlank m line = true := by simp [Line.isBlank_of_opens h]
  have hcode : Line.opens m .code line = false := Line.opens_of_ne h (by decide)
  simp only [enterBody, List.dropWhile_cons_of_neg hblank, h, hcode, ite_true, Bool.false_eq_true,
    ite_false]

/-- A line that is no comment is passed over. -/
theorem enterBody_of_stray (hblank : Line.isBlank m line = false)
    (hcode : Line.opens m .code line = false) (hlicense : Line.opens m .license line = false)
    (htext : Line.commentText? m line = none) :
    enterBody m ⟨.body, line :: after, deep⟩ = ⟨.body, after, deep⟩ := by
  have hblank' : ¬ Line.isBlank m line = true := by simp [hblank]
  simp only [enterBody, List.dropWhile_cons_of_neg hblank', hcode, hlicense, htext,
    Option.isNone_none, ite_true, Bool.false_eq_true, ite_false]

/-- At the first line of a block a scan is about to read the block. -/
theorem enterBody_of_startsBlock (h : StartsBlock m line) :
    enterBody m ⟨.body, line :: after, deep⟩ = ⟨.block, line :: after, deep⟩ := by
  obtain ⟨text, htext⟩ := exists_text_of_isMember h.member
  have hblank : ¬ Line.isBlank m line = true := by simp [isBlank_of_isMember h.member]
  simp only [enterBody, List.dropWhile_cons_of_neg hblank, h.notCode, h.notLicense, htext,
    Option.isNone_some, Bool.false_eq_true, ite_false]

/-- A heading is one line, and the headings behind it lie deeper. -/
theorem step_of_heading {title : Text} (h : headingAt? m (line :: after) = some title) :
    step m ⟨.block, line :: after, deep⟩ =
      .ok ⟨some (.blockRead ⟨.heading, [title], some (nextLevel deep)⟩),
        ⟨.body, after, true⟩⟩ := by
  simp only [step, takeBlock, h, List.tail_cons]

/-- Any other block takes its first line and the lines that continue it. -/
theorem step_of_startsBlock {text : Text} (h : StartsBlock m line)
    (hheading : headingAt? m (line :: after) = none)
    (htext : Line.commentText? m line = some text) :
    step m ⟨.block, line :: after, deep⟩ = .ok ⟨some (.blockRead ⟨Line.blockKind text,
        text :: (after.takeWhile (continuesBlock m)).filterMap (Line.commentText? m), none⟩),
      ⟨.body, after.dropWhile (continuesBlock m), deep⟩⟩ := by
  simp only [step, takeBlock, hheading, List.head?_cons, Option.bind_some, htext, blockLines,
    afterBlock, h.member, ite_true, List.filterMap_cons]

end Body

variable {m : Char} {deep : Bool} {lines rest : List Text} {bs : List Block}

private theorem Completes.of_enterBody {last : Scan} {steps : List ScanStep} {next : Scan}
    (he : enterBody m ⟨.body, lines, deep⟩ = next) (h : Completes m next steps last) :
    Completes m ⟨.body, lines, deep⟩ (⟨none, next⟩ :: steps) last :=
  .step ScanState.noConfusion (by rw [← he]; rfl) h

/-- A reading is what a complete run of the scan finds, and its rest is what the run leaves. -/
theorem Reading.completes (h : Reading m deep lines bs rest) :
    ∃ steps last, Completes m ⟨.body, lines, deep⟩ steps last ∧
      steps.filterMap ScanStep.block? = bs ∧ last.rest = rest := by
  induction h with
  | nil => exact ⟨_, _, .of_enterBody rfl (.done rfl), rfl, rfl⟩
  | code hcode => exact ⟨_, _, .of_enterBody (enterBody_of_code hcode) (.done rfl), rfl, rfl⟩
  | blank hblank _ ih =>
    -- blank lines are skipped within the step that the scan makes behind them
    obtain ⟨steps, last, hrun, hbs, hrest⟩ := ih
    cases hrun with
    | done hs => exact ScanState.noConfusion hs
    | step hs hstep hlater =>
      refine ⟨_, last, .step ScanState.noConfusion ?_ hlater, hbs, hrest⟩
      rw [← hstep]
      exact congrArg (fun next => Except.ok (ScanStep.mk none next)) (enterBody_of_blank hblank)
  | license hlicense _ ih =>
    obtain ⟨steps, last, hrun, hbs, hrest⟩ := ih
    exact ⟨_, last, .of_enterBody (enterBody_of_license hlicense)
      (.step ScanState.noConfusion rfl hrun), hbs, hrest⟩
  | stray hblank hcode hlicense htext _ ih =>
    obtain ⟨steps, last, hrun, hbs, hrest⟩ := ih
    exact ⟨_, last, .of_enterBody (enterBody_of_stray hblank hcode hlicense htext) hrun, hbs, hrest⟩
  | heading hstart hheading _ ih =>
    obtain ⟨steps, last, hrun, hbs, hrest⟩ := ih
    exact ⟨_, last, .of_enterBody (enterBody_of_startsBlock hstart)
      (.step ScanState.noConfusion (step_of_heading hheading) hrun), congrArg (List.cons _) hbs,
      hrest⟩
  | block hstart hheading htext _ ih =>
    obtain ⟨steps, last, hrun, hbs, hrest⟩ := ih
    exact ⟨_, last, .of_enterBody (enterBody_of_startsBlock hstart)
      (.step ScanState.noConfusion (step_of_startsBlock hstart hheading htext) hrun),
      congrArg (List.cons _) hbs, hrest⟩

/-- A body has one list of blocks, that of its reading. -/
theorem Reading.blocks_eq (h : Reading m deep lines bs rest) :
    blocks m ⟨.body, lines, deep⟩ = .ok bs := by
  obtain ⟨steps, last, hrun, hbs, _⟩ := h.completes
  rw [hrun.blocks_eq, hbs]

/-- Lines are read in one way only. -/
theorem Reading.unique {rest' : List Text} {bs' : List Block} (h : Reading m deep lines bs rest)
    (h' : Reading m deep lines bs' rest') : bs = bs' :=
  Except.ok.inj (h.blocks_eq.symm.trans h'.blocks_eq)

/-- A document is read as the body behind its first Commentary line; without one it has no blocks.
-/
theorem blocks_ofDocument (m : Char) (lines : List Text) : blocks m (ofDocument lines) =
    blocks m (ofBody (lines.dropWhile (!Line.opens m .commentary ·)).tail) := by
  obtain ⟨bs, rest, hreading⟩ :=
    exists_reading m false (lines.dropWhile (!Line.opens m .commentary ·)).tail
  rw [ofBody, hreading.blocks_eq]
  cases hd : lines.dropWhile (!Line.opens m .commentary ·) with
  | nil =>
    rw [hd, List.tail_nil] at hreading
    cases hreading
    have hstep : step m (ofDocument lines) = .ok ⟨some .noCommentary, ⟨.done, lines, false⟩⟩ := by
      simp only [step, ofDocument, hd]
    exact (Completes.step ScanState.noConfusion hstep (.done rfl)).blocks_eq
  | cons line after =>
    rw [hd, List.tail_cons] at hreading
    obtain ⟨steps, last, hrun, hbs, _⟩ := hreading.completes
    have hstep : step m (ofDocument lines) = .ok ⟨none, ⟨.body, after, false⟩⟩ := by
      simp only [step, ofDocument, hd]
    rw [(Completes.step ScanState.noConfusion hstep hrun).blocks_eq, ← hbs]
    rfl

end Commentary.Scan
