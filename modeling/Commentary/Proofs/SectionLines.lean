import Mathlib.Data.List.TakeWhile
import Commentary.Line.Comment
import Commentary.Line.Shape

/-!
# Lines that open a section

A section line is told apart from every other line that a scan looks for, whatever the marker is: it
starts with three markers, it is not blank, it opens one section only, and where it has a comment
text, that text starts a paragraph. The facts about tabs, line ends and folding marks that this
needs come first.
-/

namespace Commentary.Text

/-- A text without tabs is left as it is where tabs are expanded. -/
theorem expandTabsFrom_of_not_mem {t : Text} (h : '\t' ∉ t) (col : Nat) :
    expandTabsFrom col t = t := by
  induction t generalizing col with
  | nil => rfl
  | cons c t ih =>
    simp only [List.mem_cons, not_or] at h
    have hc : (c == '\t') = false := by simpa using Ne.symm h.1
    simp only [expandTabsFrom, hc, Bool.false_eq_true, ite_false, ih h.2, ite_self]

/-- A text without tabs is its own expansion. -/
theorem expandTabs_of_not_mem {t : Text} (h : '\t' ∉ t) : expandTabs t = t :=
  expandTabsFrom_of_not_mem h 0

/-- A text ends right here if it is empty or one newline. -/
theorem isEnd_iff {t : Text} : isEnd t = true ↔ t = [] ∨ t = ['\n'] := by
  simp [isEnd]

/-- A text without newlines is the single line of itself and of any ending. -/
theorem singleLine?_append {t ending : Text} (h : '\n' ∉ t) (he : isEnd ending = true) :
    singleLine? (t ++ ending) = some t := by
  have hall : ∀ c ∈ t, (c != '\n') = true := by
    intro c hc
    have hne : c ≠ '\n' := by
      rintro rfl
      exact h hc
    simpa using hne
  have hdrop : (t ++ ending).dropWhile (· != '\n') = ending := by
    rw [List.dropWhile_append, List.dropWhile_eq_nil_iff.2 hall]
    rcases isEnd_iff.1 he with rfl | rfl <;> rfl
  have htake : (t ++ ending).takeWhile (· != '\n') = t := by
    rw [List.takeWhile_append_of_pos hall]
    rcases isEnd_iff.1 he with rfl | rfl <;> simp
  rw [singleLine?, hdrop, htake, he]
  rfl

/-- A text without newlines is a single line. -/
theorem singleLine?_of_not_mem {t : Text} (h : '\n' ∉ t) : singleLine? t = some t := by
  have hended : singleLine? (t ++ []) = some t := singleLine?_append h rfl
  rwa [List.append_nil] at hended

/-- A single line holds no newline. -/
theorem not_mem_of_singleLine? {t line : Text} (h : singleLine? t = some line) : '\n' ∉ line := by
  simp only [singleLine?] at h
  split at h
  · obtain rfl := Option.some.inj h
    intro hmem
    simpa using List.mem_takeWhile_imp hmem
  · simp at h

end Commentary.Text

namespace Commentary.Line

/-- A comment text holds no newline. -/
theorem not_mem_of_commentText? {m : Char} {line text : Text}
    (h : commentText? m line = some text) : '\n' ∉ text := by
  obtain ⟨comment, hc, rfl⟩ := Option.map_eq_some_iff.1 h
  simp only [comment?] at hc
  split at hc
  · simp at hc
  · obtain ⟨single, hs, rfl⟩ := Option.map_eq_some_iff.1 hc
    exact Text.not_mem_of_singleLine? hs

/-! ## Folding marks -/

/-- The characters of a bare comment behind its markers. -/
private def isFoldChar (c : Char) : Bool :=
  Text.isBlankSpace c || foldMarks.contains c || c.isDigit || c == '\n'

private theorem all_of_all_dropWhile {p q : Char → Bool} (h : ∀ c, p c = true → q c = true)
    {t : Text} (ht : (t.dropWhile p).all q = true) : t.all q = true := by
  rw [← List.takeWhile_append_dropWhile (p := p) (l := t), List.all_append, ht, Bool.and_true,
    List.all_eq_true]
  exact fun c hc => h c (List.mem_takeWhile_imp hc)

private theorem all_of_all_dropIndent {t : Text} (h : (Text.dropIndent t).all isFoldChar = true) :
    t.all isFoldChar = true :=
  all_of_all_dropWhile (p := Text.isBlankSpace) (fun c hc => by simp [isFoldChar, hc]) h

private theorem all_of_all_dropFold {t : Text} (h : (dropFold t).all isFoldChar = true) :
    t.all isFoldChar = true := by
  cases t with
  | nil => rfl
  | cons c t =>
    simp only [dropFold] at h
    split at h
    · next hc =>
      have hfold : isFoldChar c = true := by simp only [isFoldChar, hc, Bool.or_true, Bool.true_or]
      have hdigits := all_of_all_dropWhile (p := Char.isDigit)
        (fun d hd => by simp [isFoldChar, hd]) h
      have hmarks : t.all isFoldChar = true := by
        refine all_of_all_dropWhile (p := (· == c)) ?_ hdigits
        intro d hd
        rwa [eq_of_beq hd]
      rw [List.all_cons, hfold, hmarks]
      rfl
    · exact h

/-- Nothing but spaces, one folding mark and a newline leaves nothing behind the folding mark. -/
private theorem all_isFoldChar {t : Text} (h : Text.isEnd (afterFold t) = true) :
    t.all isFoldChar = true := by
  apply all_of_all_dropIndent
  apply all_of_all_dropFold
  apply all_of_all_dropIndent
  change (afterFold t).all isFoldChar = true
  rcases Text.isEnd_iff.1 h with he | he <;> rw [he] <;> decide

/-! ## Section lines -/

private theorem Section.exists_title_eq (s : Section) :
    ∃ c t, s.title = c :: t ∧ c ≠ ' ' := by
  cases s
  · exact ⟨'C', "ommentary:".toList, by decide, by decide⟩
  · exact ⟨'C', "ode:".toList, by decide, by decide⟩
  · exact ⟨'L', "icense:".toList, by decide, by decide⟩

private theorem Section.title_chars (s : Section) :
    '\n' ∉ s.title ∧ '\t' ∉ s.title ∧ ':' ∈ s.title := by
  cases s <;> decide

/-- Different sections have different titles. -/
theorem Section.title_injective {s s' : Section} (h : s.title = s'.title) : s = s' := by
  revert h
  cases s <;> cases s' <;> decide

/-- The word of a section reads as a paragraph. -/
theorem blockKind_title (s : Section) : blockKind s.title = .paragraph := by
  cases s <;> decide

variable {m : Char} {s : Section} {line : Text}

/-- A section is opened by its own line, with or without a newline at the end. -/
theorem opens_iff : opens m s line = true ↔
    ∃ ending, Text.isEnd ending = true ∧ line = s.line m ++ ending := by
  simp only [opens, Bool.or_eq_true, beq_iff_eq, Text.isEnd_iff]
  constructor
  · rintro (h | h)
    · exact ⟨[], Or.inl rfl, by rw [h, List.append_nil]⟩
    · exact ⟨['\n'], Or.inr rfl, h⟩
  · rintro ⟨ending, rfl | rfl, h⟩
    · exact Or.inl (by rw [h, List.append_nil])
    · exact Or.inr h

/-- A line that opens a section starts with three markers. -/
theorem isTopLevel_of_opens (h : opens m s line = true) : isTopLevel m line = true := by
  obtain ⟨ending, _, rfl⟩ := opens_iff.1 h
  simp [isTopLevel, Section.line, List.isPrefixOf]

/-- A line opens one section only. -/
theorem section_eq_of_opens {s' : Section} (h : opens m s line = true)
    (h' : opens m s' line = true) : s = s' := by
  obtain ⟨ending, he, rfl⟩ := opens_iff.1 h
  obtain ⟨ending', he', hline⟩ := opens_iff.1 h'
  have htitle : s.title ++ ending = s'.title ++ ending' := by
    simpa [Section.line] using hline
  apply Section.title_injective
  have hs := Text.singleLine?_append s.title_chars.1 he
  rw [htitle, Text.singleLine?_append s'.title_chars.1 he'] at hs
  exact (Option.some.inj hs).symm

private theorem three_le_markerRun (ending : Text) : 3 ≤ markerRun m (s.line m ++ ending) := by
  simp [markerRun, Section.line]

private theorem afterMarkers_line (ending : Text) : afterMarkers m (s.line m ++ ending) =
    if m = ' ' then s.title ++ ending else ' ' :: (s.title ++ ending) := by
  obtain ⟨c, t, ht, hc⟩ := s.exists_title_eq
  by_cases hm : m = ' '
  · simp [afterMarkers, Section.line, hm, ht, hc]
  · simp [afterMarkers, Section.line, hm, Ne.symm hm]

private theorem dropOneSpace_afterMarkers (ending : Text) :
    Text.dropOneSpace (afterMarkers m (s.line m ++ ending)) = s.title ++ ending := by
  obtain ⟨c, t, ht, hc⟩ := s.exists_title_eq
  rw [afterMarkers_line]
  split
  · rw [ht, List.cons_append, Text.dropOneSpace]
    simpa using hc
  · rfl

/-- A section line is a comment with the word of its section, unless its markers are tabs. -/
theorem commentText?_of_opens (h : opens m s line = true) :
    commentText? m line = if m = '\t' then none else some s.title := by
  obtain ⟨ending, he, rfl⟩ := opens_iff.1 h
  have hrun := three_le_markerRun (m := m) (s := s) ending
  by_cases hm : m = '\t'
  · subst hm
    simp [commentText?, comment?, markerRun, Section.line, Text.expandTabs, Text.expandTabsFrom,
      Text.tabSpaces, Text.tabWidth, List.replicate]
  · have htab : '\t' ∉ s.line m ++ ending := by
      have hm' : '\t' ≠ m := Ne.symm hm
      rcases Text.isEnd_iff.1 he with rfl | rfl <;>
        simp [Section.line, hm', s.title_chars.2.1]
    rw [commentText?, Text.expandTabs_of_not_mem htab, comment?, if_neg (by omega),
      dropOneSpace_afterMarkers, Text.singleLine?_append s.title_chars.1 he, if_neg hm]
    rfl

/-- A section line starts no bullet list and no code. -/
theorem paragraph_of_opens (h : opens m s line = true) :
    (commentText? m line).all (blockKind · == .paragraph) = true := by
  rw [commentText?_of_opens h]
  split <;> simp [blockKind_title]

/-- A section line is not blank. -/
theorem isBlank_of_opens (h : opens m s line = true) : isBlank m line = false := by
  obtain ⟨ending, he, rfl⟩ := opens_iff.1 h
  have hcolon : ':' ∈ afterMarkers m (s.line m ++ ending) := by
    have := s.title_chars.2.2
    rw [afterMarkers_line]
    split <;> simp [this]
  -- a colon is neither part of a folding mark nor a blank
  have hfold {t : Text} (ht : ':' ∈ t) : Text.isEnd (afterFold t) = false := by
    rw [Bool.eq_false_iff]
    intro hend
    have := List.all_eq_true.1 (all_isFoldChar hend) _ ht
    revert this
    decide
  have hblank : Text.isBlank (s.line m ++ ending) = false := by
    rw [Text.isBlank, List.all_eq_false]
    exact ⟨':', List.mem_append_left _ (by simp [Section.line, s.title_chars.2.2]), by decide⟩
  simp only [isBlank, isBareComment, hfold hcolon, hfold (List.mem_cons_of_mem m hcolon), hblank,
    Bool.and_false, Bool.or_self]

/-! ## Lines that open no section -/

/-- A line that does not start with three markers opens no section. -/
theorem opens_of_not_isTopLevel (h : isTopLevel m line = false) (s : Section) :
    opens m s line = false := by
  rw [Bool.eq_false_iff]
  intro hopens
  rw [isTopLevel_of_opens hopens] at h
  exact Bool.false_ne_true h.symm

/-- A blank line opens no section. -/
theorem opens_of_isBlank (h : isBlank m line = true) (s : Section) : opens m s line = false := by
  rw [Bool.eq_false_iff]
  intro hopens
  rw [isBlank_of_opens hopens] at h
  exact Bool.false_ne_true h

/-- No line opens two sections. -/
theorem opens_of_ne {s' : Section} (h : opens m s line = true) (hne : s ≠ s') :
    opens m s' line = false := by
  rw [Bool.eq_false_iff]
  intro hopens
  exact hne (section_eq_of_opens h hopens)

end Commentary.Line
