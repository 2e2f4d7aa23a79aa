import Commentary.Conversion
import Commentary.Proofs.Folding
import Commentary.Proofs.LiveLines

/-!
# Tabs and the spaces they stand for

The comment text of a line is taken after its tabs are expanded, while the other questions of a scan
are asked of the line as it is. The two agree for visible markers, with one exception: a folding
mark that a tab keeps away from its markers is a text, and behind the spaces that the tab stands for
it is blank. So a body is read like its expansion exactly if no line that is read is of that kind.
-/

namespace Commentary

namespace Text

/-- Expanding tabs does not change whether a text is blank. -/
theorem isBlank_expandTabsFrom (col : Nat) (t : Text) :
    isBlank (expandTabsFrom col t) = isBlank t := by
  induction t generalizing col with
  | nil => rfl
  | cons c t ih =>
    have hchar : isBlank (expandChar col c) = isSpace c := by
      by_cases htab : c = '\t'
      · have hspace : isSpace ' ' = true := by decide
        have htabSpace : isSpace '\t' = true := by decide
        simp [isBlank, expandChar, htab, hspace, htabSpace]
      · simp [isBlank, expandChar_of_ne htab]
    rw [expandTabsFrom_cons, isBlank_append, ih, hchar]
    rfl

/-- A trimmed text stays trimmed where tabs are expanded. -/
theorem Trimmed.expandTabsFrom {t : Text} (h : Trimmed t) (col : Nat) :
    Trimmed (expandTabsFrom col t) := by
  rcases List.eq_nil_or_concat' t with rfl | ⟨front, d, rfl⟩
  · exact h
  · have hd : isSpace d = false := h d (by simp)
    have hlast := getLast?_expandTabsFrom (t := front ++ [d]) (by simp)
      (ne_of_isSpace hd (by decide)) col
    intro c hc
    obtain rfl := Option.some.inj (hlast.symm.trans hc)
    exact hd

/-- Tabs at the end are blank before and after their expansion. -/
theorem trimEnd_expandTabsFrom (col : Nat) (t : Text) :
    trimEnd (expandTabsFrom col t) = expandTabsFrom col (trimEnd t) := by
  obtain ⟨blanks, hblanks, ht⟩ := exists_eq_dropEndWhile_append isSpace t
  have hexpanded : isBlank (expandTabsFrom (columnAfter col (trimEnd t)) blanks) = true :=
    (isBlank_expandTabsFrom _ _).trans hblanks
  calc trimEnd (expandTabsFrom col t)
      = trimEnd (expandTabsFrom col (trimEnd t) ++
          expandTabsFrom (columnAfter col (trimEnd t)) blanks) := by
        rw [← expandTabsFrom_append]
        exact congrArg (fun t => trimEnd (expandTabsFrom col t)) ht
    _ = trimEnd (expandTabsFrom col (trimEnd t)) := trimEnd_append_blank _ hexpanded
    _ = expandTabsFrom col (trimEnd t) := ((trimmed_trimEnd t).expandTabsFrom col).trimEnd_eq

/-- A text behind one space that holds no further space is no expansion but its own. -/
theorem expandTabsFrom_three_eq_cons_iff {t w : Text} (htab : '\t' ∉ w) (hspace : ' ' ∉ w) :
    expandTabsFrom 3 t = ' ' :: w ↔ t = ' ' :: w := by
  constructor
  · intro h
    cases t with
    | nil => exact h
    | cons c t =>
      rw [expandTabsFrom_cons] at h
      by_cases hc : c = '\t'
      · -- a tab behind three markers stands for five spaces
        rw [hc] at h
        obtain rfl := (List.cons.inj h).2
        exact absurd List.mem_cons_self hspace
      · rw [expandChar_of_ne hc] at h
        obtain ⟨rfl, hword⟩ := List.cons.inj h
        have ht : '\t' ∉ t := fun hmem =>
          hspace (hword ▸ space_mem_expandTabsFrom hmem _)
        exact congrArg (' ' :: ·) ((expandTabsFrom_of_not_mem ht _).symm.trans hword)
  · rintro rfl
    exact expandTabsFrom_of_not_mem (by simp [htab]) 3

end Text

namespace Line

/-- A space or a tab. -/
def isIndentation (c : Char) : Bool := c == ' ' || c == '\t'

/-- A line whose text is a folding mark and that has a tab among the spaces before it. -/
def isTabbedFold (m : Char) (line : Text) : Bool :=
  let rest := afterMarkers m line
  2 ≤ markerRun m line && (rest.takeWhile isIndentation).contains '\t' &&
    isFoldRun (rest.dropWhile isIndentation)

variable {m : Char} {line : Text}

/-! ## Markers and sections -/

section Markers

variable (hm : Text.isSpace m = false)
include hm

/-- Tabs are expanded behind the markers only, from the column there on. -/
theorem expandTabs_eq (line : Text) : Text.expandTabs line =
    List.replicate (markerRun m line) m ++
      Text.expandTabsFrom (markerRun m line) (afterMarkers m line) := by
  conv => lhs; rw [eq_replicate_append m line]
  exact expandTabs_replicate hm

/-- Expanding tabs keeps the markers. -/
theorem markerRun_expandTabs (line : Text) :
    markerRun m (Text.expandTabs line) = markerRun m line := by
  rw [expandTabs_eq hm,
    markerRun_replicate (head?_expandTabsFrom_ne hm (head?_afterMarkers m line) _)]

/-- Behind the markers tabs are expanded from the column there on. -/
theorem afterMarkers_expandTabs (line : Text) : afterMarkers m (Text.expandTabs line) =
    Text.expandTabsFrom (markerRun m line) (afterMarkers m line) := by
  rw [expandTabs_eq hm,
    afterMarkers_replicate (head?_expandTabsFrom_ne hm (head?_afterMarkers m line) _)]

/-- Expanding tabs does not change whether a line starts with three markers. -/
theorem isTopLevel_expandTabs (line : Text) :
    isTopLevel m (Text.expandTabs line) = isTopLevel m line := by
  have h (line : Text) : isTopLevel m line = decide (3 ≤ markerRun m line) :=
    isPrefixOf_replicate m 3 line
  rw [h, h, markerRun_expandTabs hm]

/-- Expanding tabs does not change which section a line opens. -/
theorem opens_expandTabs (line : Text) (s : Section) :
    opens m s (Text.expandTabs line) = opens m s line := by
  have hplain := Text.expandTabsFrom_three_eq_cons_iff (t := afterMarkers m line)
    (w := s.title) (by cases s <;> decide) (by cases s <;> decide)
  have hended := Text.expandTabsFrom_three_eq_cons_iff (t := afterMarkers m line)
    (w := s.title ++ ['\n']) (by cases s <;> decide) (by cases s <;> decide)
  have hstops := head?_afterMarkers m line
  rw [expandTabs_eq hm, opens_replicate hm (head?_expandTabsFrom_ne hm hstops _)]
  conv => rhs; rw [eq_replicate_append m line, opens_replicate hm hstops]
  rw [Bool.eq_iff_iff]
  simp only [Bool.and_eq_true, Bool.or_eq_true, decide_eq_true_eq, beq_iff_eq]
  refine and_congr_right fun hthree => ?_
  rw [hthree, hplain, hended]

end Markers

/-- Expanding tabs does not change the text of a comment. -/
theorem commentText?_expandTabs (m : Char) (line : Text) :
    commentText? m (Text.expandTabs line) = commentText? m line := by
  have htab : '\t' ∉ Text.expandTabs line := Text.tab_not_mem_expandTabsFrom 0 line
  rw [commentText?, commentText?, Text.expandTabs_of_not_mem htab]

/-! ## Blank lines -/

/-- Spaces and tabs in front are expanded to spaces, and the rest is expanded behind them. -/
theorem dropIndent_expandTabsFrom (col : Nat) (t : Text) : ∃ col',
    Text.dropIndent (Text.expandTabsFrom col t) =
      Text.expandTabsFrom col' (t.dropWhile isIndentation) := by
  induction t generalizing col with
  | nil => exact ⟨col, rfl⟩
  | cons c t ih =>
    rw [Text.expandTabsFrom_cons]
    by_cases hc : isIndentation c = true
    · obtain ⟨col', hcol'⟩ := ih (Text.nextColumn col c)
      have hspaces : ∀ d ∈ Text.expandChar col c, Text.isBlankSpace d = true := by
        intro d hd
        by_cases htab : c = '\t'
        · rw [Text.expandChar, htab] at hd
          rw [List.eq_of_mem_replicate hd]
          rfl
        · rw [Text.expandChar_of_ne htab, List.mem_singleton] at hd
          simpa [isIndentation, htab, hd, Text.isBlankSpace] using hc
      rw [List.dropWhile_cons_of_pos hc]
      exact ⟨col', (List.dropWhile_append_of_pos hspaces).trans hcol'⟩
    · have hother : c ≠ ' ' ∧ c ≠ '\t' := by simpa [isIndentation] using hc
      refine ⟨col, ?_⟩
      rw [List.dropWhile_cons_of_neg hc, Text.expandTabsFrom_cons,
        Text.expandChar_of_ne hother.2]
      exact List.dropWhile_cons_of_neg (by simpa [Text.isBlankSpace] using hother.1)

/-- A tab is not taken for a space. -/
theorem tab_mem_dropIndent {t : Text} (h : '\t' ∈ t) : '\t' ∈ Text.dropIndent t := by
  rw [← List.takeWhile_append_dropWhile (p := Text.isBlankSpace) (l := t), List.mem_append] at h
  exact h.resolve_left fun hspace => absurd (List.mem_takeWhile_imp hspace) (by decide)

/-- Behind the spaces that tabs stand for, the same folding marks are found, and besides those that
a tab kept away. -/
theorem isFoldRun_dropIndent_expandTabsFrom (col : Nat) (t : Text) :
    isFoldRun (Text.dropIndent (Text.expandTabsFrom col t)) =
      (isFoldRun (Text.dropIndent t) ||
        (t.takeWhile isIndentation).contains '\t' && isFoldRun (t.dropWhile isIndentation)) := by
  obtain ⟨col', hcol'⟩ := dropIndent_expandTabsFrom col t
  have hfold : isFoldRun (Text.dropIndent (Text.expandTabsFrom col t)) =
      isFoldRun (t.dropWhile isIndentation) := by
    rw [hcol']
    exact isFoldRun_append_expandTabsFrom [] col' _
  rw [hfold]
  have hsplit : t.takeWhile isIndentation ++ t.dropWhile isIndentation = t :=
    List.takeWhile_append_dropWhile
  by_cases htab : '\t' ∈ t.takeWhile isIndentation
  · -- a tab is left in front of the mark
    have hmem : '\t' ∈ t := hsplit ▸ List.mem_append_left _ htab
    rw [isFoldRun_of_mem (tab_mem_dropIndent hmem) (by decide), List.contains_iff_mem.2 htab,
      Bool.true_and, Bool.false_or]
  · have hspaces : ∀ c ∈ t.takeWhile isIndentation, Text.isBlankSpace c = true := by
      intro c hc
      have hne : c ≠ '\t' := fun heq => htab (heq ▸ hc)
      simpa [isIndentation, hne, Text.isBlankSpace] using List.mem_takeWhile_imp hc
    have hstops : ∀ c ∈ (t.dropWhile isIndentation).head?, Text.isBlankSpace c = false := by
      intro c hc
      have hother := Text.head?_dropWhile isIndentation t c hc
      rw [isIndentation, Bool.or_eq_false_iff] at hother
      exact hother.1
    have hindent : Text.dropIndent t = t.dropWhile isIndentation := by
      conv => lhs; rw [← hsplit]
      exact Text.dropWhile_run hspaces hstops
    have hcontains : (t.takeWhile isIndentation).contains '\t' = false := by simpa using htab
    rw [hindent, hcontains, Bool.false_and, Bool.or_false]

/-- A line is blank behind its tabs' expansion if it is blank or a tabbed folding mark. -/
theorem isBlank_expandTabs (hm : Text.isSpace m = false)
    (ht : Text.Trimmed (afterMarkers m line)) :
    isBlank m (Text.expandTabs line) = (isBlank m line || isTabbedFold m line) := by
  have hrun := markerRun_expandTabs hm line
  have hafter := afterMarkers_expandTabs hm line
  have hexpanded : Text.Trimmed (afterMarkers m (Text.expandTabs line)) := by
    rw [hafter]
    exact ht.expandTabsFrom _
  have hown : isFoldRun (m :: Text.expandTabsFrom (markerRun m line) (afterMarkers m line)) =
      isFoldRun (m :: afterMarkers m line) := isFoldRun_append_expandTabsFrom [m] _ _
  rw [Bool.eq_iff_iff, isBlank_iff hm hexpanded, hrun, hafter, Bool.or_eq_true, isBlank_iff hm ht,
    hown, Text.expandTabsFrom_eq_nil_iff, Text.isBlank_expandTabsFrom,
    isFoldRun_dropIndent_expandTabsFrom, isTabbedFold]
  simp only [Bool.or_eq_true, Bool.and_eq_true, decide_eq_true_eq]
  tauto

/-- A tabbed folding mark is a comment, and not blank as it is. -/
theorem isMember_of_isTabbedFold (hm : Text.isSpace m = false)
    (ht : Text.Trimmed (afterMarkers m line)) (h : isTabbedFold m line = true) :
    Scan.isMember m line = true := by
  rw [isTabbedFold, Bool.and_eq_true, Bool.and_eq_true, decide_eq_true_eq] at h
  obtain ⟨⟨hmany, htab⟩, hfold⟩ := h
  have hsplit : (afterMarkers m line).takeWhile isIndentation ++
      (afterMarkers m line).dropWhile isIndentation = afterMarkers m line :=
    List.takeWhile_append_dropWhile
  have hmem : '\t' ∈ afterMarkers m line :=
    hsplit ▸ List.mem_append_left _ (List.contains_iff_mem.1 htab)
  have hbreak : '\n' ∉ afterMarkers m line := by
    rw [← hsplit, List.mem_append, not_or]
    exact ⟨fun hindent => absurd (List.mem_takeWhile_imp hindent) (by decide),
      fun hmark => absurd (isSpace_of_mem_isFoldRun hfold hmark) (by decide)⟩
  have hcomment : (commentText? m line).isSome = true := by
    rw [eq_replicate_append m line,
      isSome_commentText?_replicate hm (head?_afterMarkers m line) hbreak]
    exact decide_eq_true hmany
  have hblank : isBlank m line = false := by
    rw [Bool.eq_false_iff, Ne, isBlank_iff hm ht]
    rintro (⟨-, hempty | hmark⟩ | ⟨-, hmark⟩ | ⟨hnone, -⟩)
    · rw [hempty] at hmem
      exact List.not_mem_nil hmem
    · rw [isFoldRun_of_mem (tab_mem_dropIndent hmem) (by decide)] at hmark
      exact Bool.noConfusion hmark
    · rw [isFoldRun_of_mem (List.mem_cons_of_mem m hmem) (by decide)] at hmark
      exact Bool.noConfusion hmark
    · omega
  rw [Scan.isMember, hcomment, hblank]
  rfl

/-- Expanding tabs makes a blank line of a member that is a tabbed folding mark, and keeps every
other line a member or none. -/
theorem isMember_expandTabs (hm : Text.isSpace m = false)
    (ht : Text.Trimmed (afterMarkers m line)) :
    Scan.isMember m (Text.expandTabs line) =
      (Scan.isMember m line && !isTabbedFold m line) := by
  rw [Scan.isMember, Scan.isMember, commentText?_expandTabs, isBlank_expandTabs hm ht,
    Bool.not_or, Bool.and_assoc]

/-- Without tabbed folding marks, no line can be told from its expansion. -/
theorem sameView_expandTabs (hm : Text.isSpace m = false)
    (ht : Text.Trimmed (afterMarkers m line)) (h : isTabbedFold m line = false) :
    Scan.SameView m m line (Text.expandTabs line) where
  text := (commentText?_expandTabs m line).symm
  blank := by rw [isBlank_expandTabs hm ht, h, Bool.or_false]
  topLevel := (isTopLevel_expandTabs hm line).symm
  opens s := (opens_expandTabs hm line s).symm

end Line

namespace Markers

variable {ms : Markers} (hvisible : ∀ c ∈ ms.toText, Text.isSpace c = false)
include hvisible

/-- What follows the markers of a clean line is trimmed. -/
theorem trimmed_afterMarkers_cleanLine (line : Text) :
    Text.Trimmed (Line.afterMarkers ms.canonical (ms.cleanLine line)) := by
  have hstops : ∀ c ∈ (Text.trimEnd (line.dropWhile ms.contains)).head?, c ≠ ms.canonical :=
    fun c hc => ne_canonical (Text.head?_dropWhile _ _ c (Text.head?_trimEnd hc))
  rw [cleanLine_eq hvisible, Line.afterMarkers_replicate hstops]
  exact Text.trimmed_trimEnd _

/-- Lines are cleaned alike before and after the expansion of their tabs. -/
theorem cleanLine_expandTabs (line : Text) :
    ms.cleanLine (Text.expandTabs line) = Text.expandTabs (ms.cleanLine line) := by
  have hrun : ∀ c ∈ line.takeWhile ms.contains, ms.contains c = true := fun _ hc =>
    List.mem_takeWhile_imp hc
  have hshown : ∀ c ∈ line.takeWhile ms.contains, Text.isSpace c = false := fun c hc =>
    hvisible c (mem_toText_of_contains (hrun c hc))
  have hspace : ms.contains ' ' = false := by
    rw [Bool.eq_false_iff]
    exact fun h => absurd (hvisible ' ' (mem_toText_of_contains h)) (by decide)
  have hstops := Text.head?_expandTabsFrom (P := (ms.contains · = false)) hspace
    (Text.head?_dropWhile ms.contains line) (line.takeWhile ms.contains).length
  calc ms.cleanLine (Text.expandTabs line)
      = ms.cleanLine (line.takeWhile ms.contains ++ Text.expandTabsFrom
          (line.takeWhile ms.contains).length (line.dropWhile ms.contains)) := by
        rw [← Text.expandTabs_append hshown, List.takeWhile_append_dropWhile]
    _ = List.replicate (line.takeWhile ms.contains).length ms.canonical ++
          Text.expandTabsFrom (line.takeWhile ms.contains).length
            (Text.trimEnd (line.dropWhile ms.contains)) := by
        rw [cleanLine_append hvisible hrun hstops, Text.trimEnd_expandTabsFrom]
    _ = Text.expandTabs (ms.cleanLine line) := by
        rw [cleanLine_eq hvisible,
          Line.expandTabs_replicate (hvisible _ ms.canonical_mem_toText)]

end Markers

/-- The markers that hold when nothing is said are not blank. -/
theorem visible_default : ∀ c ∈ Settings.default.markers.toText, Text.isSpace c = false := by
  intro c hc
  rw [List.mem_singleton.1 hc]
  decide

/-- With visible markers, a body is read like the body with its tabs expanded exactly if no line
that is read is a folding mark with a tab in front. -/
theorem bodyBlocks_expandTabs_iff (s : Settings)
    (hvisible : ∀ c ∈ s.markers.toText, Text.isSpace c = false) (lines : List Text) :
    bodyBlocks s (lines.map Text.expandTabs) = bodyBlocks s lines ↔
      ∀ line ∈ Scan.liveLines s.marker false (s.markers.cleanLines lines),
        Line.isTabbedFold s.marker line = false := by
  have hm : Text.isSpace s.marker = false := hvisible _ s.markers.canonical_mem_toText
  have htrimmed : ∀ line ∈ Scan.liveLines s.marker false (s.markers.cleanLines lines),
      Text.Trimmed (Line.afterMarkers s.marker line) := by
    intro line hline
    obtain ⟨raw, _, rfl⟩ := List.mem_map.1 (Scan.mem_of_mem_liveLines hline)
    exact Markers.trimmed_afterMarkers_cleanLine hvisible raw
  have hclean : s.markers.cleanLines (lines.map Text.expandTabs) =
      (s.markers.cleanLines lines).map Text.expandTabs := by
    rw [Markers.cleanLines, Markers.cleanLines, List.map_map, List.map_map]
    exact List.map_congr_left fun line _ => Markers.cleanLine_expandTabs hvisible line
  have hframe : ∀ line ∈ s.markers.cleanLines lines,
      Line.isTopLevel s.marker (Text.expandTabs line) = Line.isTopLevel s.marker line ∧
        ∀ sec, Line.opens s.marker sec (Text.expandTabs line) = Line.opens s.marker sec line :=
    fun line _ => ⟨Line.isTopLevel_expandTabs hm line, Line.opens_expandTabs hm line⟩
  rw [bodyBlocks, bodyBlocks, hclean]
  constructor
  · -- the blocks show as many lines of the one body as of the other
    intro hsame
    obtain ⟨bs, _, hreading⟩ := Scan.exists_reading s.marker false (s.markers.cleanLines lines)
    obtain ⟨bs', _, hreading'⟩ := Scan.exists_reading s.marker false
      ((s.markers.cleanLines lines).map Text.expandTabs)
    obtain rfl : bs' = bs :=
      Except.ok.inj (hreading'.blocks_eq.symm.trans (hsame.trans hreading.blocks_eq))
    have hlength := hreading'.shows.length_eq.trans hreading.shows.length_eq.symm
    rw [Scan.liveLines_map hframe, List.filter_map, List.length_map] at hlength
    have hkept := Scan.forall_of_length_filter_eq (fun line hline h => by
      rw [Function.comp_apply, Line.isMember_expandTabs hm (htrimmed line hline)] at h
      exact (Bool.and_eq_true_iff.1 h).1) hlength
    intro line hline
    rw [Bool.eq_false_iff]
    intro htabbed
    have hmember := hkept line hline
      (Line.isMember_of_isTabbedFold hm (htrimmed line hline) htabbed)
    rw [Function.comp_apply, Line.isMember_expandTabs hm (htrimmed line hline), htabbed,
      Bool.not_true, Bool.and_false] at hmember
    exact Bool.noConfusion hmember
  · intro hnone
    refine (Scan.blocks_body_eq (Scan.readAlike_map hframe fun line hline => ?_)).symm
    exact Line.sameView_expandTabs hm (htrimmed line hline) (hnone line hline)

/-- A folding mark behind a tab is read as code, and behind the spaces it is dropped. -/
theorem bodyBlocks_expandTabs_fold : ¬ ∀ s : Settings,
    (∀ c ∈ s.markers.toText, Text.isSpace c = false) → ∀ lines : List Text,
      bodyBlocks s (lines.map Text.expandTabs) = bodyBlocks s lines := by
  intro h
  have hsame := h .default visible_default [";;\t\x7b\x7b\x7b".toList]
  have hcode : bodyBlocks .default [";;\t\x7b\x7b\x7b".toList] =
      .ok [⟨.codeBlock, ["     \x7b\x7b\x7b".toList], none⟩] := by decide +kernel
  have hdropped :
      bodyBlocks .default ([";;\t\x7b\x7b\x7b".toList].map Text.expandTabs) = .ok [] := by
    decide +kernel
  rw [hcode, hdropped] at hsame
  exact absurd (Except.ok.inj hsame) (List.cons_ne_nil _ _).symm

/-- Tabs in front of a text and inside it, and a folding mark behind a tab that a license hides. -/
theorem bodyBlocks_expandTabs_license :
    let lines := [";;\ta\tb".toList, ";;; License:".toList, ";;\t\x7b\x7b\x7b".toList,
      ";;;\tc".toList]
    (∀ c ∈ Settings.default.markers.toText, Text.isSpace c = false) ∧
    (∀ line ∈ Scan.liveLines ';' false (Settings.default.markers.cleanLines lines),
      Line.isTabbedFold ';' line = false) ∧
    bodyBlocks .default (lines.map Text.expandTabs) = bodyBlocks .default lines := by
  intro lines
  have hnone : ∀ line ∈ Scan.liveLines ';' false (Settings.default.markers.cleanLines lines),
      Line.isTabbedFold ';' line = false := by decide +kernel
  exact ⟨visible_default, hnone,
    (bodyBlocks_expandTabs_iff .default visible_default lines).2 hnone⟩

end Commentary
