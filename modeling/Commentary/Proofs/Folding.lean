import Commentary.Proofs.LineParts

/-!
# Folding marks

What counts as a folding mark on a blank line: a run of one folding character, however long, and any
digits behind it. On a trimmed line nothing else leaves nothing behind, so a line of markers and a
trimmed rest is blank exactly if the rest is empty or such a mark behind spaces.
-/

namespace Commentary.Line

/-- A run of one folding character, and nothing but digits behind it. -/
def isFoldRun : Text → Bool
  | [] => false
  | c :: t => foldMarks.contains c && (t.dropWhile (· == c)).all Char.isDigit

/-- A digit is not blank. -/
theorem isSpace_of_isDigit {c : Char} (h : c.isDigit = true) : Text.isSpace c = false := by
  have hrange : 48 ≤ c.toNat ∧ c.toNat ≤ 57 := by
    simpa [Char.isDigit, UInt32.le_iff_toNat_le] using h
  rw [Bool.eq_false_iff, Text.isSpace, Text.inRanges]
  intro hspace
  obtain ⟨range, hmem, hc⟩ := List.any_eq_true.1 hspace
  simp only [Bool.and_eq_true, decide_eq_true_eq] at hc
  have hapart : ∀ range ∈ Text.spaceRanges, range.2 < 48 ∨ 57 < range.1 := by decide
  have := hapart range hmem
  omega

/-- A folding character is not blank. -/
theorem isSpace_of_mem_foldMarks {c : Char} (h : c ∈ foldMarks) : Text.isSpace c = false := by
  rcases List.mem_cons.1 h with rfl | h
  · decide
  · rw [List.mem_singleton.1 h]
    decide

/-- Dropping a folding mark leaves the end of a text. -/
theorem dropFold_suffix (t : Text) : dropFold t <:+ t := by
  cases t with
  | nil => exact List.suffix_refl _
  | cons c t =>
    rw [dropFold]
    split
    · exact ((List.dropWhile_suffix _).trans (List.dropWhile_suffix _)).trans
        (List.suffix_cons c t)
    · exact List.suffix_refl _

/-- Nothing is left of an empty text and of a folding mark, and something of any other text. -/
theorem dropFold_eq_nil_iff {t : Text} : dropFold t = [] ↔ t = [] ∨ isFoldRun t = true := by
  cases t with
  | nil => simp [dropFold]
  | cons c t =>
    rw [dropFold, isFoldRun]
    cases foldMarks.contains c with
    | true =>
      rw [if_pos rfl, Bool.true_and, List.dropWhile_eq_nil_iff, List.all_eq_true]
      exact (or_iff_right (List.cons_ne_nil c t)).symm
    | false => simp

/-- Spaces alone never end a trimmed text. -/
theorem dropIndent_eq_nil_iff {t : Text} (ht : Text.Trimmed t) :
    Text.dropIndent t = [] ↔ t = [] := by
  constructor
  · intro h
    rcases List.eq_nil_or_concat' t with rfl | ⟨front, c, rfl⟩
    · rfl
    · have hspace : c = ' ' := by
        simpa [Text.isBlankSpace] using List.dropWhile_eq_nil_iff.1 h c (by simp)
      have hc : Text.isSpace c = false := ht c (by simp)
      exact absurd hspace (Text.ne_of_isSpace hc (by decide))
  · rintro rfl
    rfl

/-- A trimmed text ends right here only if it is empty. -/
theorem isEnd_iff_of_trimmed {t : Text} (ht : Text.Trimmed t) : Text.isEnd t = true ↔ t = [] := by
  rw [Text.isEnd_iff, or_iff_left_iff_imp]
  rintro rfl
  exact absurd (ht '\n' rfl) (by decide)

/-- Nothing is left of a trimmed text behind spaces and a folding mark, if it holds nothing else. -/
theorem isEnd_afterFold_iff {t : Text} (ht : Text.Trimmed t) :
    Text.isEnd (afterFold t) = true ↔ t = [] ∨ isFoldRun (Text.dropIndent t) = true := by
  have hindent : Text.dropIndent t <:+ t := List.dropWhile_suffix _
  have hfold : Text.Trimmed (dropFold (Text.dropIndent t)) :=
    ht.of_suffix ((dropFold_suffix _).trans hindent)
  have hafter : Text.Trimmed (afterFold t) := hfold.of_suffix (List.dropWhile_suffix _)
  rw [isEnd_iff_of_trimmed hafter, afterFold, dropIndent_eq_nil_iff hfold, dropFold_eq_nil_iff,
    dropIndent_eq_nil_iff ht]

/-- A folding mark holds no blank. -/
theorem isSpace_of_mem_isFoldRun {t : Text} {d : Char} (h : isFoldRun t = true) (hd : d ∈ t) :
    Text.isSpace d = false := by
  cases t with
  | nil => exact absurd hd List.not_mem_nil
  | cons c t =>
    rw [isFoldRun, Bool.and_eq_true, List.all_eq_true] at h
    have hc : Text.isSpace c = false := isSpace_of_mem_foldMarks (List.contains_iff_mem.1 h.1)
    rcases List.mem_cons.1 hd with rfl | hd
    · exact hc
    · rw [← List.takeWhile_append_dropWhile (p := (· == c)) (l := t), List.mem_append] at hd
      rcases hd with htake | hdrop
      · obtain rfl : d = c := by simpa using List.mem_takeWhile_imp htake
        exact hc
      · exact isSpace_of_isDigit (h.2 d hdrop)

/-- A folding mark has no blank character. -/
theorem isFoldRun_of_mem {t : Text} {d : Char} (hd : d ∈ t) (hspace : Text.isSpace d = true) :
    isFoldRun t = false := by
  rw [Bool.eq_false_iff]
  intro h
  rw [isSpace_of_mem_isFoldRun h hd] at hspace
  exact Bool.noConfusion hspace

/-- Tabs are no part of a folding mark, and neither are the spaces that they stand for. -/
theorem isFoldRun_append_expandTabsFrom (front : Text) (col : Nat) (t : Text) :
    isFoldRun (front ++ Text.expandTabsFrom col t) = isFoldRun (front ++ t) := by
  by_cases htab : '\t' ∈ t
  · have hspace := Text.space_mem_expandTabsFrom htab col
    rw [isFoldRun_of_mem (List.mem_append_right front htab) (by decide),
      isFoldRun_of_mem (List.mem_append_right front hspace) (by decide)]
  · rw [Text.expandTabsFrom_of_not_mem htab]

/-- A line with visible markers and a trimmed rest is blank if it has nothing but markers and a
folding mark, to which a folding character that is itself the marker may belong, or no character but
blanks. -/
theorem isBlank_iff {m : Char} {line : Text} (hm : Text.isSpace m = false)
    (ht : Text.Trimmed (afterMarkers m line)) : isBlank m line = true ↔
      2 ≤ markerRun m line ∧
        (afterMarkers m line = [] ∨ isFoldRun (Text.dropIndent (afterMarkers m line)) = true) ∨
      3 ≤ markerRun m line ∧ isFoldRun (m :: afterMarkers m line) = true ∨
      markerRun m line = 0 ∧ Text.isBlank (afterMarkers m line) = true := by
  have hown : Text.Trimmed (m :: afterMarkers m line) := by
    cases hrest : afterMarkers m line with
    | nil =>
      intro c hc
      obtain rfl : m = c := by simpa using hc
      exact hm
    | cons d rest =>
      intro c hc
      rw [List.getLast?_cons_cons, ← hrest] at hc
      exact ht c hc
  have hblank : Text.isBlank line = true ↔
      markerRun m line = 0 ∧ Text.isBlank (afterMarkers m line) = true := by
    conv => lhs; rw [eq_replicate_append m line]
    cases markerRun m line with
    | zero => simp
    | succ n => simp [Text.isBlank, List.replicate_succ, hm]
  rw [isBlank, isBareComment, Bool.or_eq_true, Bool.or_eq_true, Bool.and_eq_true, Bool.and_eq_true,
    decide_eq_true_eq, decide_eq_true_eq, isEnd_afterFold_iff ht, isEnd_afterFold_iff hown,
    dropIndent_cons hm, hblank, or_assoc, or_iff_right (List.cons_ne_nil _ _)]

end Commentary.Line
