import Commentary.Proofs.Blanks
import Commentary.Proofs.Grouping
import Commentary.Proofs.LiveLines
import Commentary.Proofs.Seams

/-!
# What a heading sees ahead

Whether a line is a heading is decided by a look over the blank lines behind it, long before the
scan comes to the line that the look has found. Every block is therefore given the place where it
was read. A heading is followed by a list or by code only if a line stands between them that the
look stops at and the scan goes over, and a paragraph that looks like a heading stands right before
the list or the code that kept it from being one.
-/

namespace Commentary

/-- Whether a block is a list or code, which no heading introduces. -/
def Block.IsListOrCode (b : Block) : Prop := b.kind = .bulletList ∨ b.kind = .codeBlock

/-- A block that is neither a heading nor a paragraph is a list or code. -/
theorem Block.isListOrCode_of_blockKind {t : Text} {lines : List Text}
    {level : Option HeadingLevel} (h : Line.blockKind t ≠ .paragraph) :
    Block.IsListOrCode ⟨Line.blockKind t, lines, level⟩ := by
  rw [Block.IsListOrCode]
  revert h
  rw [Line.blockKind]
  split
  · exact fun _ => .inr rfl
  · split
    · exact fun _ => .inl rfl
    · exact fun h => absurd rfl h

namespace Line

/-- A line that keeps a heading apart from what follows: it opens a license, or it is neither blank
nor a comment. -/
def Interrupts (m : Char) (line : Text) : Prop :=
  opens m .license line = true ∨ isBlank m line = false ∧ commentText? m line = none

/-- What has the shape of a heading starts no list and no code. -/
theorem blockKind_of_hasHeadingShape {t : Text} (h : Grouping.hasHeadingShape t = true) :
    blockKind t = .paragraph := by
  cases t with
  | nil => simp [Grouping.hasHeadingShape] at h
  | cons c t =>
    have hstops : isBulletMark c = false ∧ c ≠ '(' ∧ Text.isSpace c = false := by
      simp only [Grouping.hasHeadingShape, List.head?_cons, Option.any_some, isHeadingStopper,
        Bool.and_eq_true, Bool.not_eq_true', Bool.or_eq_false_iff, beq_eq_false_iff_ne] at h
      exact ⟨h.1.1.1.1, h.1.1.1.2, h.1.1.2⟩
    have hspace : Text.isBlankSpace c = false := by
      simpa [Text.isBlankSpace] using Text.ne_of_isSpace hstops.2.2 (d := ' ') (by decide)
    have hindent : Text.dropIndent (c :: t) = c :: t :=
      List.dropWhile_cons_of_neg (by simp [hspace])
    have hzero : Text.indent (c :: t) = 0 := by
      rw [Text.indent, List.takeWhile_cons_of_neg (by simp [hspace])]
      rfl
    rw [blockKind_eq_paragraph_iff]
    refine ⟨?_, ?_, ?_⟩
    · simp [isBullet, hindent, hstops.1]
    · simpa [isParen, hindent] using hstops.2.1
    · simp [isIndented, hzero, codeIndent]

end Line

namespace Scan

/-- A block and the place where it was read. -/
structure Site where
  /-- The lines that were left, the first line of the block in front. -/
  rest : List Text
  /-- The block that was read there. -/
  block : Block
  deriving DecidableEq, Repr

/-- The blocks of a scan with their places: each step that reads a block is taken together with the
lines that were left before it. -/
def sites (m : Char) (s : Scan) : List Site :=
  let steps := (trace m s).1
  ((s :: steps.map ScanStep.scan).zip steps).filterMap fun step =>
    step.2.block?.map (Site.mk step.1.rest)

/-! ## The places along a scan -/

section Steps

variable {m : Char} {s : Scan}

/-- A scan that is done reads no more blocks. -/
theorem sites_of_done (hs : s.state = .done) : sites m s = [] := by
  rw [sites, trace_of_done hs]
  rfl

/-- The places of a scan are that of its next step, if it reads a block, and those behind it. -/
theorem sites_of_step {next : ScanStep} (hs : s.state ≠ .done) (h : step m s = .ok next) :
    sites m s = (next.block?.map (Site.mk s.rest)).toList ++ sites m next.scan := by
  simp only [sites, trace_of_ok hs h, List.map_cons, List.zip_cons_cons, List.filterMap_cons]
  cases next.block? <;> rfl

/-- Without the places, the blocks of a run are left. -/
theorem Completes.map_block_sites {last : Scan} {steps : List ScanStep}
    (h : Completes m s steps last) :
    (sites m s).map Site.block = steps.filterMap ScanStep.block? := by
  induction h with
  | done hs => rw [sites_of_done hs]; rfl
  | @step s last next steps hs hstep _ ih =>
    rw [sites_of_step hs hstep, List.map_append, ih, List.filterMap_cons]
    cases next.block? <;> rfl

variable {deep : Bool} {line : Text} {lines after : List Text}

/-- Looking for the next block reads none. -/
theorem sites_body (m : Char) (deep : Bool) (lines : List Text) :
    sites m ⟨.body, lines, deep⟩ = sites m (enterBody m ⟨.body, lines, deep⟩) := by
  have hstep : step m ⟨.body, lines, deep⟩ = .ok ⟨none, enterBody m ⟨.body, lines, deep⟩⟩ := rfl
  exact sites_of_step ScanState.noConfusion hstep

/-- Without lines no block is read. -/
theorem sites_nil : sites m ⟨.body, [], deep⟩ = [] := by
  rw [sites_body]
  exact sites_of_done rfl

/-- From the Code line on no block is read. -/
theorem sites_of_code (h : Line.opens m .code line = true) :
    sites m ⟨.body, line :: after, deep⟩ = [] := by
  rw [sites_body, enterBody_of_code h]
  exact sites_of_done rfl

/-- A blank line is passed over. -/
theorem sites_of_blank (h : Line.isBlank m line = true) :
    sites m ⟨.body, line :: after, deep⟩ = sites m ⟨.body, after, deep⟩ := by
  rw [sites_body, enterBody_of_blank h, ← sites_body]

/-- A license is passed over. -/
theorem sites_of_license (h : Line.opens m .license line = true) :
    sites m ⟨.body, line :: after, deep⟩ =
      sites m ⟨.body, after.dropWhile (!Line.isTopLevel m ·), deep⟩ := by
  rw [sites_body, enterBody_of_license h]
  exact sites_of_step ScanState.noConfusion (step_of_license rfl)

/-- A line that is no comment is passed over. -/
theorem sites_of_stray (hblank : Line.isBlank m line = false)
    (hcode : Line.opens m .code line = false) (hlicense : Line.opens m .license line = false)
    (htext : Line.commentText? m line = none) :
    sites m ⟨.body, line :: after, deep⟩ = sites m ⟨.body, after, deep⟩ := by
  rw [sites_body, enterBody_of_stray hblank hcode hlicense htext]

/-- A heading is read at its line, and the headings behind it lie deeper. -/
theorem sites_of_heading {title : Text} (hstart : StartsBlock m line)
    (h : headingAt? m (line :: after) = some title) :
    sites m ⟨.body, line :: after, deep⟩ =
      ⟨line :: after, ⟨.heading, [title], some (nextLevel deep)⟩⟩ ::
        sites m ⟨.body, after, true⟩ := by
  rw [sites_body, enterBody_of_startsBlock hstart]
  exact sites_of_step ScanState.noConfusion (step_of_heading h)

/-- Any other block is read at its first line, with the lines that continue it. -/
theorem sites_of_startsBlock {text : Text} (hstart : StartsBlock m line)
    (h : headingAt? m (line :: after) = none) (htext : Line.commentText? m line = some text) :
    sites m ⟨.body, line :: after, deep⟩ =
      ⟨line :: after, ⟨Line.blockKind text,
        text :: (after.takeWhile (continuesBlock m)).filterMap (Line.commentText? m), none⟩⟩ ::
        sites m ⟨.body, after.dropWhile (continuesBlock m), deep⟩ := by
  rw [sites_body, enterBody_of_startsBlock hstart]
  exact sites_of_step ScanState.noConfusion (step_of_startsBlock hstart h htext)

end Steps

/-! ## What stands at a place -/

/-- How a block was read, and what is read behind it: `ReadAt m site later` says that the first line
of `site` is a heading or starts the block of `site`, and that `later` are the places behind it. -/
inductive ReadAt (m : Char) : Site → List Site → Prop
  | heading {line title : Text} {after : List Text} {level : HeadingLevel} : StartsBlock m line →
      headingAt? m (line :: after) = some title →
      ReadAt m ⟨line :: after, ⟨.heading, [title], some level⟩⟩ (sites m ⟨.body, after, true⟩)
  | block {deep : Bool} {line text : Text} {after : List Text} : StartsBlock m line →
      headingAt? m (line :: after) = none → Line.commentText? m line = some text →
      ReadAt m ⟨line :: after, ⟨Line.blockKind text,
          text :: (after.takeWhile (continuesBlock m)).filterMap (Line.commentText? m), none⟩⟩
        (sites m ⟨.body, after.dropWhile (continuesBlock m), deep⟩)

variable {m : Char} {deep : Bool} {lines rest : List Text} {bs : List Block} {site next : Site}
  {before later : List Site}

/-- Each place of a body is one of its lines and those behind it, and its block was read there. -/
theorem Reading.readAt (h : Reading m deep lines bs rest)
    (hsites : sites m ⟨.body, lines, deep⟩ = before ++ site :: later) :
    site.rest <:+ lines ∧ ReadAt m site later := by
  induction h generalizing before with
  | nil => simp [sites_nil] at hsites
  | code hcode => simp [sites_of_code hcode] at hsites
  | blank hblank _ ih =>
    rw [sites_of_blank hblank] at hsites
    exact (ih hsites).imp_left fun hsuffix => hsuffix.trans (List.suffix_cons _ _)
  | license hlicense _ ih =>
    rw [sites_of_license hlicense] at hsites
    exact (ih hsites).imp_left fun hsuffix =>
      (hsuffix.trans (List.dropWhile_suffix _)).trans (List.suffix_cons _ _)
  | stray hblank hcode hlicense htext _ ih =>
    rw [sites_of_stray hblank hcode hlicense htext] at hsites
    exact (ih hsites).imp_left fun hsuffix => hsuffix.trans (List.suffix_cons _ _)
  | heading hstart hheading _ ih =>
    rw [sites_of_heading hstart hheading] at hsites
    rcases List.cons_eq_append_iff.1 hsites with ⟨rfl, hfirst⟩ | ⟨earlier, rfl, hlater⟩
    · obtain ⟨rfl, rfl⟩ := List.cons.inj hfirst
      exact ⟨List.suffix_refl _, .heading hstart hheading⟩
    · exact (ih hlater).imp_left fun hsuffix => hsuffix.trans (List.suffix_cons _ _)
  | block hstart hheading htext _ ih =>
    rw [sites_of_startsBlock hstart hheading htext] at hsites
    rcases List.cons_eq_append_iff.1 hsites with ⟨rfl, hfirst⟩ | ⟨earlier, rfl, hlater⟩
    · obtain ⟨rfl, rfl⟩ := List.cons.inj hfirst
      exact ⟨List.suffix_refl _, .block hstart hheading htext⟩
    · exact (ih hlater).imp_left fun hsuffix =>
        (hsuffix.trans (List.dropWhile_suffix _)).trans (List.suffix_cons _ _)

/-- The first line at a place shows in the first line of the block. -/
theorem ReadAt.shows (h : ReadAt m site later) :
    ∃ line after shown, site.rest = line :: after ∧ site.block.lines.head? = some shown ∧
      Shows m line shown := by
  cases h with
  | heading _ hheading => exact ⟨_, _, _, rfl, rfl, shows_of_headingAt? hheading⟩
  | block _ _ htext => exact ⟨_, _, _, rfl, rfl, _, htext, .inl rfl⟩

/-! ## The first place behind a look ahead -/

/-- A comment is a heading if it has the shape of one, a blank line follows, and the look over the
blank lines finds no list and no code. -/
theorem headingAt?_of_text {line text : Text} (htext : Line.commentText? m line = some text)
    (after : List Text) : headingAt? m (line :: after) =
      if after.head?.any (Line.isBlank m) && paragraphFollows m after &&
        Grouping.hasHeadingShape text then some text.dropLast else none := by
  rw [headingAt?, htext, Option.bind_some,
    Grouping.heading?_eq (Line.not_mem_of_commentText? htext)]
  cases after.head?.any (Line.isBlank m) && paragraphFollows m after <;>
    cases Grouping.hasHeadingShape text <;> rfl

/-- What makes a heading: the shape of its text, and a look ahead that finds no list and no code. -/
theorem StartsBlock.of_headingAt? {line title : Text} {after : List Text}
    (hstart : StartsBlock m line) (h : headingAt? m (line :: after) = some title) :
    ∃ text, Line.commentText? m line = some text ∧ paragraphFollows m after = true ∧
      Grouping.hasHeadingShape text = true := by
  obtain ⟨text, htext⟩ := exists_text_of_isMember hstart.member
  rw [headingAt?_of_text htext] at h
  split at h
  · next hseen =>
    simp only [Bool.and_eq_true] at hseen
    exact ⟨text, htext, hseen.1.2, hseen.2⟩
  · simp at h

/-- A look ahead that comes to the first line of a block finds the kind of its text. -/
theorem StartsBlock.paragraphFollows_eq {line text : Text} (hstart : StartsBlock m line)
    (htext : Line.commentText? m line = some text) (after : List Text) :
    paragraphFollows m (line :: after) = (Line.blockKind text == .paragraph) := by
  rw [paragraphFollows_cons_of_not_blank (by simp [isBlank_of_isMember hstart.member]), htext,
    Option.all_some]

/-- A line that opens a section is neither list nor code to a look ahead. -/
theorem paragraphFollows_of_opens {line : Text} {sec : Line.Section}
    (h : Line.opens m sec line = true) (after : List Text) :
    paragraphFollows m (line :: after) = true := by
  rw [paragraphFollows_cons_of_not_blank (by simp [Line.isBlank_of_opens h]),
    Line.paragraph_of_opens h]

/-- Where a look ahead finds no list and no code, a list or code comes first only behind a line that
interrupts. -/
theorem Reading.exists_gap (h : Reading m deep lines bs rest)
    (hsites : sites m ⟨.body, lines, deep⟩ = site :: later) :
    ∃ gap, lines = gap ++ site.rest ∧ (paragraphFollows m lines = true →
      site.block.IsListOrCode → ∃ line ∈ gap, Line.Interrupts m line) := by
  induction h with
  | nil => simp [sites_nil] at hsites
  | code hcode => simp [sites_of_code hcode] at hsites
  | @blank _ line after _ _ hblank _ ih =>
    rw [sites_of_blank hblank] at hsites
    obtain ⟨gap, rfl, hgap⟩ := ih hsites
    refine ⟨line :: gap, rfl, ?_⟩
    rw [paragraphFollows_cons_of_blank hblank]
    intro hfollows hkind
    obtain ⟨l, hl, hinterrupts⟩ := hgap hfollows hkind
    exact ⟨l, List.mem_cons_of_mem _ hl, hinterrupts⟩
  | @license _ line after _ _ hlicense _ ih =>
    rw [sites_of_license hlicense] at hsites
    obtain ⟨gap, hrest, -⟩ := ih hsites
    refine ⟨line :: (after.takeWhile (!Line.isTopLevel m ·) ++ gap), ?_, ?_⟩
    · rw [List.cons_append, List.append_assoc, ← hrest, List.takeWhile_append_dropWhile]
    · exact fun _ _ => ⟨line, List.mem_cons_self, .inl hlicense⟩
  | @stray _ line after _ _ hblank hcode hlicense htext _ ih =>
    rw [sites_of_stray hblank hcode hlicense htext] at hsites
    obtain ⟨gap, rfl, -⟩ := ih hsites
    exact ⟨line :: gap, rfl, fun _ _ => ⟨line, List.mem_cons_self, .inr ⟨hblank, htext⟩⟩⟩
  | heading hstart hheading _ _ =>
    rw [sites_of_heading hstart hheading] at hsites
    obtain ⟨rfl, -⟩ := List.cons.inj hsites
    refine ⟨[], rfl, ?_⟩
    rintro - (hkind | hkind) <;> exact BlockKind.noConfusion hkind
  | block hstart hheading htext _ _ =>
    rw [sites_of_startsBlock hstart hheading htext] at hsites
    obtain ⟨rfl, -⟩ := List.cons.inj hsites
    refine ⟨[], rfl, ?_⟩
    -- the line that the look ahead has found is this one, and it starts a paragraph
    rw [hstart.paragraphFollows_eq htext, beq_iff_eq]
    rintro hparagraph (hkind | hkind) <;>
      exact BlockKind.noConfusion (hparagraph.symm.trans hkind)

/-- Where a look ahead finds a list or code, that comes first, and only blank lines stand before
it. -/
theorem Reading.exists_next (h : Reading m deep lines bs rest)
    (hfollows : paragraphFollows m lines = false) :
    ∃ gap next later, sites m ⟨.body, lines, deep⟩ = next :: later ∧ lines = gap ++ next.rest ∧
      next.block.IsListOrCode ∧ ∀ line ∈ gap, Line.isBlank m line = true := by
  induction h with
  | nil => simp [paragraphFollows] at hfollows
  | code hcode =>
    rw [paragraphFollows_of_opens hcode] at hfollows
    exact Bool.noConfusion hfollows
  | @blank _ line after _ _ hblank _ ih =>
    rw [paragraphFollows_cons_of_blank hblank] at hfollows
    obtain ⟨gap, next, later, hsites, rfl, hkind, hgap⟩ := ih hfollows
    exact ⟨line :: gap, next, later, (sites_of_blank hblank).trans hsites, rfl, hkind,
      List.forall_mem_cons.2 ⟨hblank, hgap⟩⟩
  | license hlicense _ _ =>
    rw [paragraphFollows_of_opens hlicense] at hfollows
    exact Bool.noConfusion hfollows
  | stray hblank _ _ htext _ _ =>
    rw [paragraphFollows_cons_of_not_blank (by simp [hblank]), htext] at hfollows
    exact Bool.noConfusion hfollows
  | heading hstart hheading _ _ =>
    obtain ⟨text, htext, -, hshape⟩ := hstart.of_headingAt? hheading
    rw [hstart.paragraphFollows_eq htext, Line.blockKind_of_hasHeadingShape hshape] at hfollows
    exact Bool.noConfusion hfollows
  | block hstart hheading htext _ _ =>
    refine ⟨[], _, _, sites_of_startsBlock hstart hheading htext, rfl, ?_, by simp⟩
    rw [hstart.paragraphFollows_eq htext, beq_eq_false_iff_ne] at hfollows
    exact Block.isListOrCode_of_blockKind hfollows

/-! ## Neighbours -/

/-- Between a heading and a list or code behind it stands a line that interrupts. -/
theorem ReadAt.exists_interrupts (h : ReadAt m site (next :: later))
    (hkind : site.block.kind = .heading) (hnext : next.block.IsListOrCode) :
    ∃ line gap, site.rest = line :: (gap ++ next.rest) ∧ ∃ l ∈ gap, Line.Interrupts m l := by
  generalize hbehind : next :: later = behind at h
  cases h with
  | @heading line title after level hstart hheading =>
    obtain ⟨text, -, hfollows, -⟩ := hstart.of_headingAt? hheading
    obtain ⟨bs, rest, hreading⟩ := exists_reading m true after
    obtain ⟨gap, hafter, hgap⟩ := hreading.exists_gap hbehind.symm
    exact ⟨line, gap, congrArg (List.cons line) hafter, hgap hfollows hnext⟩
  | @block deep line text after hstart hheading htext =>
    have hnone := isHeading_blockKind text [] none
    rw [Block.isHeading, beq_eq_false_iff_ne] at hnone
    exact absurd hkind hnone

/-- A lone line with the shape of a heading before a blank line is kept from being one by the list
or the code that comes next. -/
theorem ReadAt.exists_next (h : ReadAt m site later) (hkind : site.block.kind = .paragraph)
    {text line second : Text} {after : List Text} (hlines : site.block.lines = [text])
    (hshape : Grouping.hasHeadingShape text = true) (hrest : site.rest = line :: second :: after)
    (hblank : Line.isBlank m second = true) :
    ∃ next further gap, later = next :: further ∧ next.block.IsListOrCode ∧
      site.rest = line :: (gap ++ next.rest) ∧ ∀ l ∈ gap, Line.isBlank m l = true := by
  cases h with
  | heading => exact BlockKind.noConfusion hkind
  | @block deep first text' behind hstart hheading htext =>
    obtain ⟨rfl, rfl⟩ := List.cons.inj hrest
    obtain rfl : text' = text := (List.cons.inj hlines).1
    -- the block ends at the blank line, and the look over it has found what kept the heading away
    rw [List.dropWhile_cons_of_neg (by simp [continuesBlock_of_isBlank hblank])]
    have hfollows : paragraphFollows m (second :: after) = false := by
      rw [headingAt?_of_text htext, List.head?_cons, Option.any_some, hblank, hshape] at hheading
      cases hf : paragraphFollows m (second :: after) with
      | false => rfl
      | true => simp [hf] at hheading
    obtain ⟨bs, rest, hreading⟩ := exists_reading m deep (second :: after)
    obtain ⟨gap, next, further, hsites, hgap, hnext, hblanks⟩ := hreading.exists_next hfollows
    exact ⟨next, further, gap, hsites, hnext, congrArg (List.cons first) hgap, hblanks⟩

end Scan

/-- The look ahead that decides about headings agrees with the blocks that are read later. If a list
or code follows a heading, a line stands between them that opens a license or is neither blank nor a
comment. If a lone line with the shape of a heading is read as a paragraph although a blank line
follows it, then a list or code comes next, and only blank lines stand between the two. -/
theorem bodyBlocks_agree_with_lookahead (s : Settings) (lines : List Text) :
    let body := s.markers.cleanLines lines
    let sites := Scan.sites s.marker (.ofBody body)
    bodyBlocks s lines = .ok (sites.map Scan.Site.block) ∧
    (∀ site ∈ sites, site.rest <:+ body ∧ ∃ line after shown, site.rest = line :: after ∧
      site.block.lines.head? = some shown ∧ Scan.Shows s.marker line shown) ∧
    (∀ site next, [site, next] <:+: sites → site.block.kind = .heading →
      next.block.kind = .bulletList ∨ next.block.kind = .codeBlock →
      ∃ line gap, site.rest = line :: (gap ++ next.rest) ∧
        ∃ l ∈ gap, Line.opens s.marker .license l = true ∨
          Line.isBlank s.marker l = false ∧ Line.commentText? s.marker l = none) ∧
    ∀ site ∈ sites, ∀ text line second after, site.block.kind = .paragraph →
      site.block.lines = [text] → Grouping.hasHeadingShape text = true →
      site.rest = line :: second :: after → Line.isBlank s.marker second = true →
      ∃ next gap, [site, next] <:+: sites ∧
        (next.block.kind = .bulletList ∨ next.block.kind = .codeBlock) ∧
        site.rest = line :: (gap ++ next.rest) ∧ ∀ l ∈ gap, Line.isBlank s.marker l = true := by
  intro body sites
  obtain ⟨bs, rest, hreading⟩ := Scan.exists_reading s.marker false body
  obtain ⟨steps, last, hrun, -, -⟩ := hreading.completes
  refine ⟨?_, ?_, ?_, ?_⟩
  · exact hrun.blocks_eq.trans (congrArg Except.ok hrun.map_block_sites.symm)
  · intro site hsite
    obtain ⟨before, later, hsplit⟩ := List.append_of_mem hsite
    obtain ⟨hsuffix, hread⟩ := hreading.readAt hsplit
    exact ⟨hsuffix, hread.shows⟩
  · rintro site next ⟨before, later, hsplit⟩ hkind hnext
    rw [List.append_assoc] at hsplit
    exact (hreading.readAt hsplit.symm).2.exists_interrupts hkind hnext
  · intro site hsite text line second after hkind hlines hshape hrest hblank
    obtain ⟨before, later, hsplit⟩ := List.append_of_mem hsite
    obtain ⟨next, further, gap, rfl, hnext, hgap, hblanks⟩ :=
      (hreading.readAt hsplit).2.exists_next hkind hlines hshape hrest hblank
    refine ⟨next, gap, ⟨before, further, ?_⟩, hnext, hgap, hblanks⟩
    rw [List.append_assoc]
    exact hsplit.symm

/-- A line that is no comment lets a list follow a heading; without it the heading is none. -/
example :
    (bodyBlocks .default [";; Usage:".toList, ";;".toList, "(".toList, ";; - a".toList]).map
        (List.map Block.kind) = .ok [.heading, .bulletList] ∧
      (bodyBlocks .default [";; Usage:".toList, ";;".toList, ";; - a".toList]).map
        (List.map Block.kind) = .ok [.paragraph, .bulletList] := by
  decide +kernel

end Commentary
