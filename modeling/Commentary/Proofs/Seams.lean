import Commentary.Conversion
import Commentary.Proofs.Reading
import Mathlib.Data.List.Basic

/-!
# Bodies read in two parts

Behind a blank line a body can be cut in two. No block goes over the cut, and a heading that looks
over it for what follows finds no bullet and no code. The two parts are then read as if each stood
alone, but for one thing that is carried over: behind a heading every later one stands deeper.
-/

namespace Commentary

/-- Whether a block is a heading. -/
def Block.isHeading (b : Block) : Bool := b.kind == .heading

/-- A block as it is read behind a heading. -/
def Block.deepened (b : Block) : Block := if b.isHeading then { b with level := some .three } else b

namespace Scan

variable {m : Char} {border : Text} {deep : Bool} {lines after rest : List Text}
  {bs cs : List Block}

/-! ## The level of later headings -/

/-- A block with the kind of its first line is no heading. -/
theorem isHeading_blockKind (t : Text) (lines : List Text) (level : Option HeadingLevel) :
    Block.isHeading ⟨Line.blockKind t, lines, level⟩ = false := by
  simp only [Block.isHeading, Line.blockKind]
  split
  · rfl
  · split <;> rfl

/-- Lines that are read behind a heading give the blocks they give alone, the headings deepened. -/
theorem Reading.deepen (h : Reading m deep lines bs rest) :
    Reading m true lines (bs.map Block.deepened) rest := by
  induction h with
  | nil => exact .nil
  | code hcode => exact .code hcode
  | blank hblank _ ih => exact .blank hblank ih
  | license hlicense _ ih => exact .license hlicense ih
  | stray hblank hcode hlicense htext _ ih => exact .stray hblank hcode hlicense htext ih
  | heading hstart hheading _ ih => exact .heading hstart hheading ih
  | block hstart hheading htext _ ih =>
    rw [List.map_cons, Block.deepened, isHeading_blockKind]
    exact .block hstart hheading htext ih

/-! ## Reading over a blank line -/

/-- A blank line does not continue a block. -/
theorem continuesBlock_of_isBlank (h : Line.isBlank m border = true) :
    continuesBlock m border = false := by
  simp [continuesBlock, isMember, h]

/-- A look ahead over a blank line finds what it finds where the lines end there, if no bullet and
no code follows. -/
theorem paragraphFollows_append (hborder : Line.isBlank m border = true)
    (hafter : paragraphFollows m after = true) (lines : List Text) :
    paragraphFollows m (lines ++ border :: after) = paragraphFollows m (lines ++ [border]) := by
  induction lines with
  | nil =>
    rw [List.nil_append, List.nil_append, paragraphFollows_cons_of_blank hborder,
      paragraphFollows_cons_of_blank hborder, hafter]
    rfl
  | cons line lines ih =>
    rw [List.cons_append, List.cons_append]
    by_cases hblank : Line.isBlank m line = true
    · rw [paragraphFollows_cons_of_blank hblank, paragraphFollows_cons_of_blank hblank, ih]
    · rw [paragraphFollows_cons_of_not_blank hblank, paragraphFollows_cons_of_not_blank hblank]

/-- A heading before a blank line is recognised from the lines up to there. -/
theorem headingAt?_append (hborder : Line.isBlank m border = true)
    (hafter : paragraphFollows m after = true) (line : Text) (lines : List Text) :
    headingAt? m (line :: (lines ++ border :: after)) =
      headingAt? m (line :: (lines ++ [border])) := by
  have hhead : (lines ++ border :: after).head? = (lines ++ [border]).head? := by
    cases lines <;> rfl
  rw [headingAt?, headingAt?, hhead, paragraphFollows_append hborder hafter]

/-- Lines up to a blank one, with no Code line and no License line among them, are read as if
nothing followed, and what follows is read behind their blocks. -/
theorem Reading.append_blank (h : Reading m deep (lines ++ [border]) bs rest)
    (hborder : Line.isBlank m border = true)
    (hlines : ∀ line ∈ lines, Line.opens m .code line = false ∧ Line.opens m .license line = false)
    (hfollows : paragraphFollows m after = true) {rest' : List Text}
    (hafter : Reading m (deep || bs.any Block.isHeading) after cs rest') :
    Reading m deep (lines ++ border :: after) (bs ++ cs) rest' := by
  -- a block uses up several lines before the blank one, so the induction is on their number
  induction hn : lines.length using Nat.strong_induction_on generalizing lines deep bs rest with
  | _ n ih =>
    cases lines with
    | nil =>
      have hnone : bs = [] := h.unique (.blank hborder .nil)
      rw [hnone, List.any_nil, Bool.or_false] at hafter
      rw [hnone]
      exact .blank hborder hafter
    | cons line lines =>
      obtain ⟨⟨hcode, hlicense⟩, hlater⟩ := List.forall_mem_cons.1 hlines
      have hlt : lines.length < n := by
        rw [← hn, List.length_cons]
        omega
      rw [List.cons_append] at h ⊢
      cases h with
      | code hopens =>
        rw [hcode] at hopens
        exact absurd hopens Bool.false_ne_true
      | license hopens =>
        rw [hlicense] at hopens
        exact absurd hopens Bool.false_ne_true
      | blank hblank h => exact .blank hblank (ih _ hlt h hlater hafter rfl)
      | stray hblank _ _ htext h =>
        exact .stray hblank hcode hlicense htext (ih _ hlt h hlater hafter rfl)
      | heading hstart hheading h =>
        rw [← headingAt?_append hborder hfollows] at hheading
        -- from here on every heading is a later one
        rw [List.any_cons, Block.isHeading, beq_self_eq_true, Bool.true_or, Bool.or_true] at hafter
        exact .heading hstart hheading (ih _ hlt h hlater (by rwa [Bool.true_or]) rfl)
      | block hstart hheading htext h =>
        have hstop := continuesBlock_of_isBlank hborder
        rw [← headingAt?_append hborder hfollows] at hheading
        rw [List.any_cons, isHeading_blockKind, Bool.false_or] at hafter
        rw [dropWhile_append_border hstop] at h
        have hshort : (lines.dropWhile (continuesBlock m)).length < n :=
          Nat.lt_of_le_of_lt (List.length_dropWhile_le _ lines) hlt
        have hdropped : ∀ line ∈ lines.dropWhile (continuesBlock m),
            Line.opens m .code line = false ∧ Line.opens m .license line = false :=
          fun line hline => hlater line ((List.dropWhile_suffix _).subset hline)
        have hread := ih _ hshort h hdropped hafter rfl
        rw [← dropWhile_append_border hstop] at hread
        have hblock := Reading.block hstart hheading htext hread
        rwa [takeWhile_append_border hstop, ← takeWhile_append_border hstop lines []] at hblock

/-- Lines that are empty or end in a blank one are read as if nothing followed. -/
theorem Reading.append (h : Reading m deep lines bs rest)
    (hlast : ∀ line ∈ lines.getLast?, Line.isBlank m line = true)
    (hlines : ∀ line ∈ lines, Line.opens m .code line = false ∧ Line.opens m .license line = false)
    (hfollows : paragraphFollows m after = true) {rest' : List Text}
    (hafter : Reading m (deep || bs.any Block.isHeading) after cs rest') :
    Reading m deep (lines ++ after) (bs ++ cs) rest' := by
  rcases List.eq_nil_or_concat' lines with rfl | ⟨earlier, border, rfl⟩
  · have hnone : bs = [] := h.unique .nil
    rw [hnone, List.any_nil, Bool.or_false] at hafter
    rwa [hnone]
  · have hborder : Line.isBlank m border = true := hlast border (by simp)
    rw [List.append_assoc]
    exact h.append_blank hborder (fun line hline => hlines line (List.mem_append_left _ hline))
      hfollows hafter

end Scan

/-! ## The two parts of a body -/

/-- A text starts a paragraph if it is no bullet, opens no parenthesis and is not indented like
code. -/
theorem Line.blockKind_eq_paragraph_iff {t : Text} : blockKind t = .paragraph ↔
    isBullet t = false ∧ isParen t = false ∧ isIndented t = false := by
  rw [blockKind]
  cases isBullet t <;> cases isParen t <;> cases isIndented t <;> simp

/-- A look ahead finds a paragraph, or no comment at all, unless the first line that is not blank
starts a bullet list or code. -/
theorem Scan.paragraphFollows_iff {m : Char} {lines : List Text} :
    paragraphFollows m lines = true ↔ ∀ line ∈ (lines.dropWhile (Line.isBlank m)).head?,
      ∀ text ∈ Line.commentText? m line,
        Line.isBullet text = false ∧ Line.isParen text = false ∧ Line.isIndented text = false := by
  rw [paragraphFollows]
  cases (lines.dropWhile (Line.isBlank m)).head? with
  | none => simp
  | some line =>
    cases htext : Line.commentText? m line with
    | none => simp [htext]
    | some text => simp [htext, Line.blockKind_eq_paragraph_iff]

/-- A body whose first part ends in a blank line and opens neither license nor code, and whose
second part starts with no bullet and no code, gives the blocks of the two parts one after another.
The headings of the second part stand deeper if the first part has one. -/
theorem bodyBlocks_append (s : Settings) {before after : List Text}
    (hlast : ∀ line ∈ before.getLast?, Line.isBlank s.marker (s.markers.cleanLine line) = true)
    (hplain : ∀ line ∈ before, Line.opens s.marker .code (s.markers.cleanLine line) = false ∧
      Line.opens s.marker .license (s.markers.cleanLine line) = false)
    (hfirst : ∀ line ∈ ((s.markers.cleanLines after).dropWhile (Line.isBlank s.marker)).head?,
      ∀ text ∈ Line.commentText? s.marker line,
        Line.isBullet text = false ∧ Line.isParen text = false ∧ Line.isIndented text = false) :
    ∃ bs cs, bodyBlocks s before = .ok bs ∧ bodyBlocks s after = .ok cs ∧
      bodyBlocks s (before ++ after) =
        .ok (bs ++ if bs.any Block.isHeading then cs.map Block.deepened else cs) := by
  obtain ⟨bs, rest, hbs⟩ := Scan.exists_reading s.marker false (s.markers.cleanLines before)
  obtain ⟨cs, rest', hcs⟩ := Scan.exists_reading s.marker false (s.markers.cleanLines after)
  refine ⟨bs, cs, hbs.blocks_eq, hcs.blocks_eq, ?_⟩
  have hafter : Scan.Reading s.marker (false || bs.any Block.isHeading) (s.markers.cleanLines after)
      (if bs.any Block.isHeading then cs.map Block.deepened else cs) rest' := by
    cases bs.any Block.isHeading with
    | true => exact hcs.deepen
    | false => exact hcs
  have hblank : ∀ line ∈ (s.markers.cleanLines before).getLast?,
      Line.isBlank s.marker line = true := by
    intro line hline
    rw [Markers.cleanLines, List.getLast?_map] at hline
    obtain ⟨raw, hraw, rfl⟩ := Option.map_eq_some_iff.1 hline
    exact hlast raw hraw
  have hopens : ∀ line ∈ s.markers.cleanLines before,
      Line.opens s.marker .code line = false ∧ Line.opens s.marker .license line = false := by
    intro line hline
    obtain ⟨raw, hraw, rfl⟩ := List.mem_map.1 hline
    exact hplain raw hraw
  have hread := hbs.append hblank hopens (Scan.paragraphFollows_iff.2 hfirst) hafter
  have hclean : s.markers.cleanLines (before ++ after) =
      s.markers.cleanLines before ++ s.markers.cleanLines after := List.map_append
  rw [bodyBlocks, hclean]
  exact hread.blocks_eq

/-- A heading that looks over the cut, and a heading behind it that is no longer the first one. -/
theorem bodyBlocks_append_headings :
    let before := [";; Usage:".toList, ";;".toList, []]
    let after := [";;".toList, ";; Notes:".toList, ";;".toList, ";;; License:".toList]
    (∀ line ∈ before.getLast?, Line.isBlank ';' (Settings.default.markers.cleanLine line) = true) ∧
    bodyBlocks .default before = .ok [⟨.heading, ["Usage".toList], some .two⟩] ∧
    bodyBlocks .default after = .ok [⟨.heading, ["Notes".toList], some .two⟩] ∧
    bodyBlocks .default (before ++ after) = .ok [⟨.heading, ["Usage".toList], some .two⟩,
      ⟨.heading, ["Notes".toList], some .three⟩] := by
  intro before after
  have hlast : ∀ line ∈ before.getLast?,
      Line.isBlank ';' (Settings.default.markers.cleanLine line) = true := by
    intro line hline
    obtain rfl := Option.some.inj hline
    decide
  have hfirst : ∀ line ∈
      ((Settings.default.markers.cleanLines after).dropWhile (Line.isBlank ';')).head?,
      ∀ text ∈ Line.commentText? ';' line, Line.isBullet text = false ∧
        Line.isParen text = false ∧ Line.isIndented text = false := by
    intro line hline text htext
    obtain rfl := Option.some.inj hline
    obtain rfl := Option.some.inj htext
    decide
  have hbefore : bodyBlocks .default before = .ok [⟨.heading, ["Usage".toList], some .two⟩] := by
    decide +kernel
  have hafter : bodyBlocks .default after = .ok [⟨.heading, ["Notes".toList], some .two⟩] := by
    decide +kernel
  obtain ⟨bs, cs, hbs, hcs, happend⟩ := bodyBlocks_append .default hlast (by decide) hfirst
  obtain rfl := Except.ok.inj (hbefore.symm.trans hbs)
  obtain rfl := Except.ok.inj (hafter.symm.trans hcs)
  exact ⟨hlast, hbefore, hafter, happend⟩

end Commentary
