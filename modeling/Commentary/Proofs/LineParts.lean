import Commentary.Markers
import Commentary.Proofs.Blanks
import Commentary.Proofs.SectionLines
import Commentary.Proofs.Tabs

/-!
# Lines as markers and a rest

A cleaned line is a number of markers and a rest that does not go on with one. What a scan asks of
the line can be told from these two: its comment text, whether it is blank, whether it starts with
three markers, and which section it opens. Visible markers keep their columns, so that expanding the
tabs of a line is expanding those of its rest.
-/

namespace Commentary

namespace Text

section Runs

variable {p : Char → Bool} {run rest : Text}

/-- Nothing is dropped in front of a character that stays. -/
theorem dropWhile_eq_self (hrest : ∀ c ∈ rest.head?, p c = false) : rest.dropWhile p = rest := by
  cases rest with
  | nil => rfl
  | cons c rest => exact List.dropWhile_cons_of_neg (by simp [hrest c rfl])

/-- A run is taken as a whole and no more, if the rest does not go on with it. -/
theorem takeWhile_run (hrun : ∀ c ∈ run, p c = true) (hrest : ∀ c ∈ rest.head?, p c = false) :
    (run ++ rest).takeWhile p = run := by
  have hstop : rest.takeWhile p = [] := by
    cases rest with
    | nil => rfl
    | cons c rest => exact List.takeWhile_cons_of_neg (by simp [hrest c rfl])
  rw [List.takeWhile_append_of_pos hrun, hstop, List.append_nil]

/-- A run that is dropped leaves the rest. -/
theorem dropWhile_run (hrun : ∀ c ∈ run, p c = true) (hrest : ∀ c ∈ rest.head?, p c = false) :
    (run ++ rest).dropWhile p = rest := by
  rw [List.dropWhile_append_of_pos hrun, dropWhile_eq_self hrest]

/-- What is left of a text starts with no character that was to be dropped. -/
theorem head?_dropWhile (p : Char → Bool) (t : Text) :
    ∀ c ∈ (t.dropWhile p).head?, p c = false := by
  intro c hc
  have hhead := List.head?_dropWhile_not p t
  have hsome : (t.dropWhile p).head? = some c := hc
  rw [hsome] at hhead
  simpa using hhead

end Runs

/-- Visible characters in front are not trimmed. -/
theorem trimEnd_append {s : Text} (h : ∀ c ∈ s, isSpace c = false) (t : Text) :
    trimEnd (s ++ t) = s ++ trimEnd t := by
  have hs : Trimmed s := fun c hc => h c (List.mem_of_mem_getLast? hc)
  rw [trimEnd, dropEndWhile_append]
  split
  · next ht => rw [← trimEnd, hs.trimEnd_eq, trimEnd_eq_nil_iff.2 ht, List.append_nil]
  · rfl

/-- Trimming at the end keeps the first character, or leaves nothing. -/
theorem head?_trimEnd {t : Text} {c : Char} (h : c ∈ (trimEnd t).head?) : c ∈ t.head? := by
  obtain ⟨trailing, ht⟩ := prefix_dropEndWhile isSpace t
  have hhead : (trimEnd t).head? = some c := h
  rw [← ht, List.head?_append, ← trimEnd, hhead]
  rfl

/-- Dropping a space adds no character. -/
theorem dropOneSpace_subset (t : Text) : dropOneSpace t ⊆ t := by
  unfold dropOneSpace
  split
  · exact List.subset_cons_self _ _
  · exact List.Subset.refl _

/-! ## Columns -/

/-- A visible character takes one column. -/
theorem nextColumn_of_visible {c : Char} (hc : isSpace c = false) (col : Nat) :
    nextColumn col c = col + 1 := by
  have htab : c ≠ '\t' := ne_of_isSpace hc (by decide)
  have hnewline : c ≠ '\n' := ne_of_isSpace hc (by decide)
  have hreturn : c ≠ '\r' := ne_of_isSpace hc (by decide)
  simp [nextColumn, htab, hnewline, hreturn]

/-- Visible characters take one column each. -/
theorem columnAfter_of_visible {t : Text} (h : ∀ c ∈ t, isSpace c = false) (col : Nat) :
    columnAfter col t = col + t.length := by
  induction t generalizing col with
  | nil => rfl
  | cons c t ih =>
    obtain ⟨hc, ht⟩ := List.forall_mem_cons.1 h
    rw [columnAfter, List.foldl_cons, nextColumn_of_visible hc, List.length_cons]
    exact (ih ht (col + 1)).trans (by omega)

/-- Visible characters in front stay, and each takes one column. -/
theorem expandTabs_append {run : Text} (h : ∀ c ∈ run, isSpace c = false) (rest : Text) :
    expandTabs (run ++ rest) = run ++ expandTabsFrom run.length rest := by
  have htab : '\t' ∉ run := fun hmem => ne_of_isSpace (h _ hmem) (by decide) rfl
  rw [expandTabs, expandTabsFrom_append, columnAfter_of_visible h, Nat.zero_add]
  exact congrArg (· ++ _) (expandTabs_of_not_mem htab)

/-- An expanded text starts with what the text starts with, or with a space. -/
theorem head?_expandTabsFrom {P : Char → Prop} (hspace : P ' ') {t : Text}
    (h : ∀ c ∈ t.head?, P c) (col : Nat) : ∀ c ∈ (expandTabsFrom col t).head?, P c := by
  cases t with
  | nil => simp [expandTabsFrom]
  | cons d t =>
    rw [expandTabsFrom_cons]
    by_cases htab : d = '\t'
    · obtain ⟨k, hk⟩ := Nat.exists_eq_add_one.2 (tabSpaces_pos col)
      rw [expandChar, htab, hk]
      intro c hc
      obtain rfl : ' ' = c := by simpa [List.replicate_succ] using hc
      exact hspace
    · rw [expandChar_of_ne htab]
      intro c hc
      obtain rfl : d = c := by simpa using hc
      exact h d rfl

end Text

namespace Line

/-- A marker that has no other meaning in a line: it is visible, and no folding character. -/
structure Neutral (m : Char) : Prop where
  /-- The marker is no blank. -/
  visible : Text.isSpace m = false
  /-- The marker is no folding character. -/
  noFold : m ∉ foldMarks

instance (m : Char) : Decidable (Neutral m) :=
  decidable_of_iff (Text.isSpace m = false ∧ m ∉ foldMarks)
    ⟨fun h => ⟨h.1, h.2⟩, fun h => ⟨h.visible, h.noFold⟩⟩

variable {m : Char} {n : Nat} {rest : Text}

/-- A line is its markers and what follows them. -/
theorem eq_replicate_append (m : Char) (line : Text) :
    line = List.replicate (markerRun m line) m ++ afterMarkers m line := by
  have hrun : line.takeWhile (· == m) = List.replicate (markerRun m line) m :=
    List.eq_replicate_of_mem fun c hc => by simpa using List.mem_takeWhile_imp hc
  rw [← hrun]
  exact List.takeWhile_append_dropWhile.symm

/-- What follows the markers does not start with one. -/
theorem head?_afterMarkers (m : Char) (line : Text) : ∀ c ∈ (afterMarkers m line).head?, c ≠ m :=
  fun c hc => by simpa using Text.head?_dropWhile (· == m) line c hc

/-- As many markers are counted as were put in front. -/
theorem markerRun_replicate (h : ∀ c ∈ rest.head?, c ≠ m) :
    markerRun m (List.replicate n m ++ rest) = n := by
  rw [markerRun, Text.takeWhile_run (by simp) fun c hc => by simpa using h c hc,
    List.length_replicate]

/-- Behind markers that were put in front comes the rest. -/
theorem afterMarkers_replicate (h : ∀ c ∈ rest.head?, c ≠ m) :
    afterMarkers m (List.replicate n m ++ rest) = rest :=
  Text.dropWhile_run (by simp) fun c hc => by simpa using h c hc

/-- A line is taken apart into markers and a rest in one way only. -/
theorem replicate_append_inj {k : Nat} {rest' : Text} (h : ∀ c ∈ rest.head?, c ≠ m)
    (h' : ∀ c ∈ rest'.head?, c ≠ m) :
    List.replicate n m ++ rest = List.replicate k m ++ rest' ↔ n = k ∧ rest = rest' := by
  constructor
  · intro heq
    have hrun := congrArg (markerRun m) heq
    have hafter := congrArg (afterMarkers m) heq
    rw [markerRun_replicate h, markerRun_replicate h'] at hrun
    rw [afterMarkers_replicate h, afterMarkers_replicate h'] at hafter
    exact ⟨hrun, hafter⟩
  · rintro ⟨rfl, rfl⟩
    rfl

/-! ## What can be told from markers and a rest -/

/-- Tabs are expanded behind the markers, from the column there on. -/
theorem expandTabs_replicate (hm : Text.isSpace m = false) :
    Text.expandTabs (List.replicate n m ++ rest) =
      List.replicate n m ++ Text.expandTabsFrom n rest := by
  have hvisible : ∀ c ∈ List.replicate n m, Text.isSpace c = false := fun c hc => by
    rw [List.eq_of_mem_replicate hc, hm]
  rw [Text.expandTabs_append hvisible, List.length_replicate]

/-- Expanded tabs do not go on with a marker. -/
theorem head?_expandTabsFrom_ne (hm : Text.isSpace m = false) (h : ∀ c ∈ rest.head?, c ≠ m)
    (col : Nat) : ∀ c ∈ (Text.expandTabsFrom col rest).head?, c ≠ m :=
  Text.head?_expandTabsFrom (P := (· ≠ m)) (Text.ne_of_isSpace hm (by decide)).symm h col

/-- A comment has two markers or more, and its text is the rest without one space. -/
theorem commentText?_replicate (hm : Text.isSpace m = false) (h : ∀ c ∈ rest.head?, c ≠ m) :
    commentText? m (List.replicate n m ++ rest) = if n < 2 then none else
      Text.singleLine? (Text.dropOneSpace (Text.expandTabsFrom n rest)) := by
  have hstops := head?_expandTabsFrom_ne hm h n
  rw [commentText?, expandTabs_replicate hm, comment?, markerRun_replicate hstops,
    afterMarkers_replicate hstops]
  split
  · rfl
  · rw [Option.map_map]
    exact Option.map_id_apply

/-- Without newlines, two markers make a comment. -/
theorem isSome_commentText?_replicate (hm : Text.isSpace m = false)
    (h : ∀ c ∈ rest.head?, c ≠ m) (hbreak : '\n' ∉ rest) :
    (commentText? m (List.replicate n m ++ rest)).isSome = decide (2 ≤ n) := by
  have hnone : '\n' ∉ Text.dropOneSpace (Text.expandTabsFrom n rest) := fun hmem =>
    hbreak (Text.mem_of_mem_expandTabsFrom (by decide) (Text.dropOneSpace_subset _ hmem))
  rw [commentText?_replicate hm h, Text.singleLine?_of_not_mem hnone]
  by_cases hn : n < 2
  · simp [hn]
  · simp [hn, Nat.le_of_not_lt hn]

/-- A text that starts with a visible character has no indentation to drop. -/
theorem dropIndent_cons (hm : Text.isSpace m = false) (t : Text) :
    Text.dropIndent (m :: t) = m :: t := by
  apply Text.dropWhile_eq_self
  intro c hc
  obtain rfl : m = c := by simpa using hc
  simpa [Text.isBlankSpace] using Text.ne_of_isSpace hm (d := ' ') (by decide)

/-- A marker is not taken for a folding mark. -/
theorem afterFold_cons (hm : Neutral m) (t : Text) : afterFold (m :: t) = m :: t := by
  have hindent := dropIndent_cons hm.visible t
  rw [afterFold, hindent, dropFold, if_neg (by simpa using hm.noFold), hindent]

/-- A line with two markers or more is blank if nothing but a folding mark follows them, and one
without markers if all its characters are. -/
theorem isBlank_replicate (hm : Neutral m) (h : ∀ c ∈ rest.head?, c ≠ m) :
    isBlank m (List.replicate n m ++ rest) =
      (decide (2 ≤ n) && Text.isEnd (afterFold rest) || decide (n = 0) && Text.isBlank rest) := by
  have hend : Text.isEnd (m :: rest) = false := by
    simp [Text.isEnd, Text.ne_of_isSpace hm.visible (d := '\n') (by decide)]
  have hblank : Text.isBlank (List.replicate n m ++ rest) =
      (decide (n = 0) && Text.isBlank rest) := by
    cases n with
    | zero => simp
    | succ n => simp [Text.isBlank, List.replicate_succ, hm.visible]
  rw [isBlank, isBareComment, markerRun_replicate h, afterMarkers_replicate h, afterFold_cons hm,
    hend, hblank, Bool.and_false, Bool.or_false]

/-- A line starts with `k` markers if its markers are that many or more. -/
theorem isPrefixOf_replicate (m : Char) (k : Nat) (line : Text) :
    (List.replicate k m).isPrefixOf line = decide (k ≤ markerRun m line) := by
  induction k generalizing line with
  | zero => simp
  | succ k ih =>
    rw [List.replicate_succ]
    cases line with
    | nil => simp [markerRun]
    | cons c line =>
      rw [List.isPrefixOf_cons_cons, ih]
      by_cases hc : c = m
      · have hrun : markerRun m (c :: line) = markerRun m line + 1 := by simp [markerRun, hc]
        rw [hrun, hc, beq_self_eq_true, Bool.true_and]
        exact decide_eq_decide.2 (by omega)
      · have hrun : markerRun m (c :: line) = 0 := by simp [markerRun, hc]
        simp [hrun, Ne.symm hc]

/-- A line is top-level if it has three markers or more. -/
theorem isTopLevel_replicate (h : ∀ c ∈ rest.head?, c ≠ m) :
    isTopLevel m (List.replicate n m ++ rest) = decide (3 ≤ n) := by
  have hprefix := isPrefixOf_replicate m 3 (List.replicate n m ++ rest)
  rwa [markerRun_replicate h] at hprefix

/-- A section is opened by three markers, a space and its title, and a newline may follow. -/
theorem opens_replicate (hm : Text.isSpace m = false) (h : ∀ c ∈ rest.head?, c ≠ m) (s : Section) :
    opens m s (List.replicate n m ++ rest) = (decide (n = 3) &&
      (rest == ' ' :: s.title || rest == ' ' :: (s.title ++ ['\n']))) := by
  have hline (t : Text) : List.replicate n m ++ rest = List.replicate 3 m ++ ' ' :: t ↔
      n = 3 ∧ rest = ' ' :: t :=
    replicate_append_inj h fun c hc => by
      obtain rfl : ' ' = c := by simpa using hc
      exact (Text.ne_of_isSpace hm (by decide)).symm
  have hplain : List.replicate n m ++ rest = s.line m ↔ n = 3 ∧ rest = ' ' :: s.title := hline _
  have hended : List.replicate n m ++ rest = s.line m ++ ['\n'] ↔
      n = 3 ∧ rest = ' ' :: (s.title ++ ['\n']) := hline _
  rw [Bool.eq_iff_iff]
  simp only [opens, Bool.or_eq_true, Bool.and_eq_true, decide_eq_true_eq, beq_iff_eq, hplain,
    hended]
  exact and_or_left.symm

end Line

/-! ## Cleaned lines -/

namespace Markers

variable {ms : Markers} {run rest : Text}

/-- A member of a family is one of its characters. -/
theorem mem_toText_of_contains {c : Char} (h : ms.contains c = true) : c ∈ ms.toText :=
  List.contains_iff_mem.1 h

/-- The canonical marker is one of the characters of its family. -/
theorem canonical_mem_toText (ms : Markers) : ms.canonical ∈ ms.toText := List.mem_cons_self

/-- A character outside a family is not its canonical marker. -/
theorem ne_canonical {c : Char} (h : ms.contains c = false) : c ≠ ms.canonical := by
  rintro rfl
  rw [contains, List.contains_iff_mem.2 ms.canonical_mem_toText] at h
  exact Bool.noConfusion h

/-- Cleaning keeps the length of a run of visible members, and trims what stands behind it. -/
theorem cleanLine_append (hvisible : ∀ c ∈ ms.toText, Text.isSpace c = false)
    (hrun : ∀ c ∈ run, ms.contains c = true) (hrest : ∀ c ∈ rest.head?, ms.contains c = false) :
    ms.cleanLine (run ++ rest) =
      List.replicate run.length ms.canonical ++ Text.trimEnd rest := by
  have hshown : ∀ c ∈ run, Text.isSpace c = false := fun c hc =>
    hvisible c (mem_toText_of_contains (hrun c hc))
  have hstops : ∀ c ∈ (Text.trimEnd rest).head?, ms.contains c = false := fun c hc =>
    hrest c (Text.head?_trimEnd hc)
  rw [cleanLine, Text.trimEnd_append hshown, unify, Text.takeWhile_run hrun hstops,
    Text.dropWhile_run hrun hstops]

/-- Cleaning a line puts the canonical marker in the place of each marker in front and trims the
rest. -/
theorem cleanLine_eq (hvisible : ∀ c ∈ ms.toText, Text.isSpace c = false) (line : Text) :
    ms.cleanLine line = List.replicate (line.takeWhile ms.contains).length ms.canonical ++
      Text.trimEnd (line.dropWhile ms.contains) := by
  have hrun : ∀ c ∈ line.takeWhile ms.contains, ms.contains c = true := fun _ hc =>
    List.mem_takeWhile_imp hc
  have happend := cleanLine_append hvisible hrun (Text.head?_dropWhile ms.contains line)
  rwa [List.takeWhile_append_dropWhile] at happend

end Markers

end Commentary
