import Commentary.Conversion
import Commentary.Proofs.Folding
import Commentary.Proofs.LiveLines

/-!
# Which lines a body keeps

A comment line is meant to be dropped if it is blank or a folding mark: three folding characters of
one kind, and at most one digit. All other comment lines are meant to be shown. The scan takes more
lines for folding marks than that, runs of any length with any digits, and these lines are lost. So
a body is shown as it is meant to be exactly if it has no such line.
-/

namespace Commentary

namespace Line

/-- A folding mark with nothing but spaces around: three folding characters of one kind, and at most
one digit behind them. -/
def isFoldingMark (t : Text) : Bool :=
  foldMarks.any fun c => (List.isPrefixOf? [c, c, c] (Text.dropIndent t)).any fun behind =>
    let digits := Text.dropEndWhile Text.isBlankSpace behind
    digits.length ≤ 1 && digits.all Char.isDigit

/-- A line with a text: two markers or more, and behind them neither blanks only nor a folding mark.
-/
def hasText (m : Char) (line : Text) : Bool :=
  let rest := afterMarkers m line
  2 ≤ markerRun m line && !Text.isBlank rest && !isFoldingMark rest

/-- A line that has, spaces in front and blanks behind apart, nothing but a run of one folding
character and digits behind its markers. -/
def isFoldLine (m : Char) (line : Text) : Bool :=
  isFoldRun (Text.dropIndent (Text.trimEnd (afterMarkers m line)))

/-- A visible text is what is left between spaces in front and blanks behind. -/
theorem dropIndent_trimEnd_append {front core blanks : Text}
    (hfront : ∀ c ∈ front, Text.isBlankSpace c = true) (hcore : ∀ c ∈ core, Text.isSpace c = false)
    (hne : core ≠ []) (hblanks : Text.isBlank blanks = true) :
    Text.dropIndent (Text.trimEnd (front ++ core ++ blanks)) = core := by
  have htrimmed : Text.Trimmed (front ++ core) := by
    intro c hc
    rw [List.getLast?_append_of_ne_nil front hne] at hc
    exact hcore c (List.mem_of_getLast? hc)
  rw [Text.trimEnd_append_blank _ hblanks, htrimmed.trimEnd_eq]
  refine Text.dropWhile_run hfront fun c hc => ?_
  have hspace := Text.ne_of_isSpace (hcore c (List.mem_of_mem_head? hc)) (d := ' ') (by decide)
  simpa [Text.isBlankSpace] using hspace

/-- Every folding mark is a run of one folding character with digits behind it. -/
theorem isFoldRun_of_isFoldingMark {t : Text} (h : isFoldingMark t = true) :
    isFoldRun (Text.dropIndent (Text.trimEnd t)) = true := by
  obtain ⟨c, hc, h⟩ := List.any_eq_true.1 h
  obtain ⟨behind, hafter, h⟩ := (Option.any_eq_true _ _).1 h
  obtain ⟨spaces, hspaces, hbehind⟩ :=
    Text.exists_eq_dropEndWhile_append Text.isBlankSpace behind
  generalize Text.dropEndWhile Text.isBlankSpace behind = digits at h hbehind
  have hdigits : ∀ d ∈ digits, d.isDigit = true :=
    List.all_eq_true.1 (Bool.and_eq_true_iff.1 h).2
  have hfold : isFoldRun ([c, c, c] ++ digits) = true := by
    rw [List.cons_append, isFoldRun, Bool.and_eq_true, List.all_eq_true]
    refine ⟨List.contains_iff_mem.2 hc, fun d hd => ?_⟩
    have hd : d ∈ digits.dropWhile (· == c) := by simpa using hd
    exact hdigits d ((List.dropWhile_suffix _).subset hd)
  have hsplit : t = t.takeWhile Text.isBlankSpace ++ ([c, c, c] ++ digits) ++ spaces := by
    rw [List.append_assoc, List.append_assoc, ← hbehind,
      List.append_eq_of_isPrefixOf?_eq_some hafter]
    exact List.takeWhile_append_dropWhile.symm
  have hblank : Text.isBlank spaces = true := by
    rw [Text.isBlank, List.all_eq_true]
    intro d hd
    obtain rfl : d = ' ' := by simpa [Text.isBlankSpace] using List.all_eq_true.1 hspaces d hd
    decide
  have hcore : Text.dropIndent (Text.trimEnd t) = [c, c, c] ++ digits := by
    conv => lhs; rw [hsplit]
    exact dropIndent_trimEnd_append (fun d hd => List.mem_takeWhile_imp hd)
      (fun d hd => isSpace_of_mem_isFoldRun hfold hd) (by simp) hblank
  rw [hcore]
  exact hfold

/-! ## Members of a body -/

/-- A line without newlines becomes a member if it has a text and is not taken for a folding mark.
-/
theorem isMember_cleanLine {m : Char} (hm : Neutral m) {line : Text} (hbreak : '\n' ∉ line) :
    Scan.isMember m (Markers.cleanLine ⟨m, []⟩ line) = (hasText m line && !isFoldLine m line) := by
  have hstops := head?_afterMarkers m line
  have hcontains (c : Char) : Markers.contains ⟨m, []⟩ c = (c == m) := by
    rw [Bool.eq_iff_iff]
    simp [Markers.contains, Markers.toText]
  have hclean : Markers.cleanLine ⟨m, []⟩ line =
      List.replicate (markerRun m line) m ++ Text.trimEnd (afterMarkers m line) := by
    have hvisible : ∀ c ∈ Markers.toText ⟨m, []⟩, Text.isSpace c = false := by
      simpa [Markers.toText] using hm.visible
    rw [Markers.cleanLine_eq hvisible, funext hcontains]
    rfl
  have hends : ∀ c ∈ (Text.trimEnd (afterMarkers m line)).head?, c ≠ m := fun c hc =>
    hstops c (Text.head?_trimEnd hc)
  have hnone : '\n' ∉ Text.trimEnd (afterMarkers m line) := fun hmem =>
    hbreak ((List.dropWhile_suffix _).subset ((Text.prefix_dropEndWhile _ _).subset hmem))
  have hblank : Text.isEnd (afterFold (Text.trimEnd (afterMarkers m line))) =
      (Text.isBlank (afterMarkers m line) || isFoldLine m line) := by
    rw [Bool.eq_iff_iff, isEnd_afterFold_iff (Text.trimmed_trimEnd _), Text.trimEnd_eq_nil_iff,
      Bool.or_eq_true, isFoldLine]
  rw [hclean, Scan.isMember, isSome_commentText?_replicate hm.visible hends hnone,
    isBlank_replicate hm hends, hblank]
  by_cases hrun : markerRun m line < 2
  · have hfew : ¬ 2 ≤ markerRun m line := by omega
    simp [hasText, hfew]
  · have hmany : 2 ≤ markerRun m line := by omega
    have hsome : markerRun m line ≠ 0 := by omega
    rw [hasText]
    cases hfold : isFoldLine m line with
    | true => simp [hmany]
    | false =>
      have hmark : isFoldingMark (afterMarkers m line) = false := by
        rw [Bool.eq_false_iff]
        intro hmark
        rw [isFoldLine, isFoldRun_of_isFoldingMark hmark] at hfold
        exact Bool.noConfusion hfold
      simp [hmany, hsome, hmark]

end Line

/-! ## The default settings -/

/-- With the default settings, lines without newlines that open no section are shown one to one and
in their order by the lines of the blocks, if they have a text and are not taken for folding marks.
So every line with a text is shown exactly if none of them is taken for a folding mark. -/
theorem bodyBlocks_shows_iff {lines : List Text} (hbreak : ∀ line ∈ lines, '\n' ∉ line)
    (hplain : ∀ line ∈ lines, ∀ s : Line.Section,
      Line.opens ';' s (Settings.default.markers.cleanLine line) = false) :
    let shows := fun line => Scan.Shows ';' (Settings.default.markers.cleanLine line)
    ∃ bs, bodyBlocks .default lines = .ok bs ∧
      List.Forall₂ shows
        (lines.filter fun line => Line.hasText ';' line && !Line.isFoldLine ';' line)
        (bs.flatMap Block.lines) ∧
      (List.Forall₂ shows (lines.filter (Line.hasText ';')) (bs.flatMap Block.lines) ↔
        ∀ line ∈ lines, Line.hasText ';' line = true → Line.isFoldLine ';' line = false) := by
  intro shows
  obtain ⟨bs, rest, hreading⟩ :=
    Scan.exists_reading ';' false (Settings.default.markers.cleanLines lines)
  have hlive : Scan.liveLines ';' false (Settings.default.markers.cleanLines lines) =
      Settings.default.markers.cleanLines lines := by
    refine Scan.liveLines_eq_self fun line hline => ?_
    obtain ⟨raw, hraw, rfl⟩ := List.mem_map.1 hline
    exact ⟨hplain raw hraw _, hplain raw hraw _⟩
  have hmembers : (Settings.default.markers.cleanLines lines).filter (Scan.isMember ';') =
      (lines.filter fun line => Line.hasText ';' line && !Line.isFoldLine ';' line).map
        Settings.default.markers.cleanLine := by
    rw [Markers.cleanLines, List.filter_map]
    refine congrArg _ (List.filter_congr fun line hline => ?_)
    exact Line.isMember_cleanLine (by decide) (hbreak line hline)
  have hshows := hreading.shows
  rw [hlive, hmembers, List.forall₂_map_left_iff] at hshows
  refine ⟨bs, hreading.blocks_eq, hshows, fun hall => ?_, fun hnone => ?_⟩
  · -- as many lines are shown as have a text, so none of these is lost
    have hlength := hshows.length_eq.trans hall.length_eq.symm
    have hkept := Scan.forall_of_length_filter_eq
      (fun line _ h => (Bool.and_eq_true_iff.1 h).1) hlength
    intro line hline htext
    simpa [htext] using hkept line hline htext
  · have hsame : lines.filter (Line.hasText ';') =
        lines.filter fun line => Line.hasText ';' line && !Line.isFoldLine ';' line := by
      refine List.filter_congr fun line hline => ?_
      cases htext : Line.hasText ';' line with
      | true => simp [hnone line hline htext]
      | false => rfl
    rw [hsame]
    exact hshows

/-- A line of text loses its place: behind its markers it has a closing brace alone. -/
theorem bodyBlocks_drops_brace : ¬ ∀ lines : List Text, (∀ line ∈ lines, '\n' ∉ line) →
    (∀ line ∈ lines, ∀ s : Line.Section,
      Line.opens ';' s (Settings.default.markers.cleanLine line) = false) →
    ∃ bs, bodyBlocks .default lines = .ok bs ∧
      List.Forall₂ (fun line => Scan.Shows ';' (Settings.default.markers.cleanLine line))
        (lines.filter (Line.hasText ';')) (bs.flatMap Block.lines) := by
  intro h
  have hplain : ∀ line ∈ [";; \x7d".toList], ∀ s : Line.Section,
      Line.opens ';' s (Settings.default.markers.cleanLine line) = false := by
    intro line hline s
    rw [List.mem_singleton.1 hline]
    cases s <;> decide
  obtain ⟨bs, hbs, hshows⟩ := h [";; \x7d".toList] (by decide) hplain
  have hnone : bodyBlocks .default [";; \x7d".toList] = .ok [] := by decide +kernel
  obtain rfl := Except.ok.inj (hnone.symm.trans hbs)
  have hlength := hshows.length_eq
  revert hlength
  decide

/-- A folding mark between a heading and its text, and a brace that a tab keeps from being one. -/
theorem bodyBlocks_shows_iff_heading :
    let lines := [";; Use:".toList, ";;  \x7b\x7b\x7b1".toList, ";; a".toList, ";;\t\x7d".toList]
    let shown := ["Use".toList, "a".toList, "     \x7d".toList]
    (∀ line ∈ lines, '\n' ∉ line) ∧
    (∀ line ∈ lines, ∀ s : Line.Section,
      Line.opens ';' s (Settings.default.markers.cleanLine line) = false) ∧
    (∀ line ∈ lines, Line.hasText ';' line = true → Line.isFoldLine ';' line = false) ∧
    bodyBlocks .default lines = .ok [⟨.heading, ["Use".toList], some .two⟩,
      ⟨.paragraph, ["a".toList, "     \x7d".toList], none⟩] ∧
    List.Forall₂ (fun line => Scan.Shows ';' (Settings.default.markers.cleanLine line))
      [";; Use:".toList, ";; a".toList, ";;\t\x7d".toList] shown := by
  intro lines shown
  have hbreak : ∀ line ∈ lines, '\n' ∉ line := by decide
  have hplain : ∀ line ∈ lines, ∀ s : Line.Section,
      Line.opens ';' s (Settings.default.markers.cleanLine line) = false := by
    have hall : ∀ s : Line.Section, ∀ line ∈ lines,
        Line.opens ';' s (Settings.default.markers.cleanLine line) = false := by
      intro s
      cases s <;> decide
    exact fun line hline s => hall s line hline
  have hkept : ∀ line ∈ lines, Line.hasText ';' line = true → Line.isFoldLine ';' line = false := by
    decide
  have hblocks : bodyBlocks .default lines = .ok [⟨.heading, ["Use".toList], some .two⟩,
      ⟨.paragraph, ["a".toList, "     \x7d".toList], none⟩] := by decide +kernel
  obtain ⟨bs, hbs, _, hiff⟩ := bodyBlocks_shows_iff hbreak hplain
  obtain rfl := Except.ok.inj (hblocks.symm.trans hbs)
  have htexts : lines.filter (Line.hasText ';') =
      [";; Use:".toList, ";; a".toList, ";;\t\x7d".toList] := by decide +kernel
  have hshows := hiff.2 hkept
  rw [htexts] at hshows
  exact ⟨hbreak, hplain, hkept, hblocks, hshows⟩

end Commentary
