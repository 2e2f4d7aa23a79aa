import Commentary.Markers
import Commentary.Proofs.Reading
import Commentary.Proofs.Spans
import Commentary.Proofs.Tabs

/-!
# Legible blocks

A cleaned line ends in a visible character, or it is made of markers only and then no member of any
block. The comment text of a member keeps that last character, whatever its tabs are expanded to, so
every line of a block shows something, and so does every token that the block hands over.
-/

namespace Commentary

/-! ## The text of a member -/

namespace Text

/-- A text is its single line and an ending. -/
theorem eq_append_of_singleLine? {t line : Text} (h : singleLine? t = some line) :
    ∃ ending, isEnd ending = true ∧ t = line ++ ending := by
  simp only [singleLine?] at h
  split at h
  · next hend =>
    obtain rfl := Option.some.inj h
    exact ⟨_, hend, List.takeWhile_append_dropWhile.symm⟩
  · simp at h

/-- Dropping a space keeps every character but spaces. -/
theorem mem_dropOneSpace {t : Text} {c : Char} (h : c ∈ t) (hc : c ≠ ' ') : c ∈ dropOneSpace t := by
  unfold dropOneSpace
  split
  · exact (List.mem_cons.1 h).resolve_left hc
  · exact h

end Text

namespace Markers

/-- A cleaned line is made of markers only, or it ends in a visible character. -/
theorem cleanLine_ends (ms : Markers) (raw : Text) :
    (∀ c ∈ ms.cleanLine raw, c = ms.canonical) ∨
      ∃ c, (ms.cleanLine raw).getLast? = some c ∧ Text.isSpace c = false := by
  rw [cleanLine, unify]
  by_cases hrest : (Text.trimEnd raw).dropWhile ms.contains = []
  · left
    rw [hrest, List.append_nil]
    exact fun c hc => List.eq_of_mem_replicate hc
  · right
    have hlast := List.getLast?_eq_some_getLast hrest
    refine ⟨_, (List.getLast?_append_of_ne_nil _ hrest).trans hlast, ?_⟩
    exact Text.trimmed_trimEnd _ _ ((Text.getLast?_dropWhile hrest).symm.trans hlast)

end Markers

namespace Scan

variable {m : Char} {line text : Text}

/-- A line that holds no marker has none in front. -/
theorem markerRun_of_not_mem (h : m ∉ line) : Line.markerRun m line = 0 := by
  cases line with
  | nil => rfl
  | cons c rest =>
    have hc : c ≠ m := fun hcm => h (hcm ▸ List.mem_cons_self)
    simp [Line.markerRun, hc]

/-- A line of markers only is no member: it is blank, or it has too few of them. -/
theorem isMember_of_markers (h : ∀ c ∈ line, c = m) : isMember m line = false := by
  by_cases hm : m = '\t'
  · -- markers that are tabs are expanded, so that none is left
    have hrun : Line.markerRun m (Text.expandTabs line) = 0 :=
      markerRun_of_not_mem (hm ▸ Text.tab_not_mem_expandTabsFrom 0 line)
    simp [isMember, Line.commentText?, Line.comment?, hrun]
  · have htab : '\t' ∉ line := fun htab => hm (h _ htab).symm
    have hall : ∀ c ∈ line, (c == m) = true := fun c hc => by simp [h c hc]
    have hafter : Line.afterMarkers m line = [] := List.dropWhile_eq_nil_iff.2 hall
    have hrun : Line.markerRun m line = line.length := by
      rw [Line.markerRun, List.takeWhile_eq_self_iff.2 hall]
    by_cases hshort : line.length < 2
    · simp [isMember, Line.commentText?, Line.comment?, Text.expandTabs_of_not_mem htab, hrun,
        hshort]
    · have hbare : Line.isBareComment m line = true := by
        have hend : Text.isEnd (Line.afterFold []) = true := by decide
        simp only [Line.isBareComment, hrun, hafter, hend, Bool.and_true, Bool.or_eq_true,
          decide_eq_true_eq]
        omega
      simp [isMember, Line.isBlank, hbare]

/-- A member that ends in a visible character has a visible comment text. -/
theorem isBlank_text_of_getLast? {c : Char} (hlast : line.getLast? = some c)
    (hc : Text.isSpace c = false) (hmember : isMember m line = true)
    (htext : Line.commentText? m line = some text) : Text.isBlank text = false := by
  have hne {d : Char} (hd : Text.isSpace d = true) : c ≠ d := Text.ne_of_isSpace hc hd
  have hlast' := Text.getLast?_expandTabsFrom hlast (hne (by decide)) 0
  -- the markers do not take up the whole line, for then it would be no member
  have hrest : Line.afterMarkers m (Text.expandTabs line) ≠ [] := by
    intro hnil
    have hall : ∀ d ∈ Text.expandTabs line, d = m := by
      intro d hd
      simpa using List.dropWhile_eq_nil_iff.1 hnil d hd
    have hcm : c = m := hall c (List.mem_of_getLast? hlast')
    have htab : '\t' ∉ line := by
      intro htab
      exact hne (by decide) (hcm.trans (hall _ (Text.space_mem_expandTabsFrom htab 0)).symm)
    rw [Text.expandTabs_of_not_mem htab] at hall
    rw [isMember_of_markers hall] at hmember
    exact Bool.noConfusion hmember
  have hmem : c ∈ Line.afterMarkers m (Text.expandTabs line) :=
    List.mem_of_getLast? ((Text.getLast?_dropWhile hrest).trans hlast')
  obtain ⟨comment, hcomment, rfl⟩ := Option.map_eq_some_iff.1 htext
  simp only [Line.comment?] at hcomment
  split at hcomment
  · simp at hcomment
  · obtain ⟨single, hsingle, rfl⟩ := Option.map_eq_some_iff.1 hcomment
    obtain ⟨ending, hending, heq⟩ := Text.eq_append_of_singleLine? hsingle
    have hspaced := Text.mem_dropOneSpace hmem (hne (by decide))
    rw [heq, List.mem_append] at hspaced
    refine Text.isBlank_eq_false_of_mem (hspaced.resolve_right ?_) hc
    intro hmem
    rcases Text.isEnd_iff.1 hending with rfl | rfl
    · exact List.not_mem_nil hmem
    · exact hne (by decide) (List.mem_singleton.1 hmem)

/-- The comment text of a member of a cleaned body has a visible character. -/
theorem isBlank_text_of_isMember {ms : Markers} {raw : Text}
    (hmember : isMember ms.canonical (ms.cleanLine raw) = true)
    (htext : Line.commentText? ms.canonical (ms.cleanLine raw) = some text) :
    Text.isBlank text = false := by
  rcases ms.cleanLine_ends raw with hall | ⟨c, hlast, hc⟩
  · rw [isMember_of_markers hall] at hmember
    exact Bool.noConfusion hmember
  · exact isBlank_text_of_getLast? hlast hc hmember htext

end Scan

/-! ## The blocks of a body -/

/-- A block whose lines can be shown: there is one, none is broken, and each has a visible
character, unless the block is a heading and its number signs can be seen. -/
structure Block.Legible (b : Block) : Prop where
  /-- The block has a line. -/
  lines_ne_nil : b.lines ≠ []
  /-- No line holds a newline. -/
  unbroken : ∀ t ∈ b.lines, '\n' ∉ t
  /-- Every line of a block that is no heading has a visible character. -/
  visible : b.kind ≠ .heading → ∀ t ∈ b.lines, Text.isBlank t = false

/-- The title of a heading stands on one line. -/
theorem Line.newline_not_mem_of_heading? {t title : Text} (h : heading? t = some title) :
    '\n' ∉ title := by
  simp only [heading?, Option.bind_eq_bind, Option.bind_eq_some_iff] at h
  obtain ⟨line, hline, first, _, last, _, htitle⟩ := h
  split at htitle
  · obtain rfl := Option.some.inj htitle
    exact fun hmem => Text.not_mem_of_singleLine? hline (List.dropLast_subset line hmem)
  · simp at htitle

namespace Scan

variable {m : Char} {deep : Bool} {lines rest : List Text} {bs : List Block}

/-- The title of a heading has no line break. -/
theorem newline_not_mem_of_headingAt? {line title : Text} {after : List Text}
    (h : headingAt? m (line :: after) = some title) : '\n' ∉ title := by
  simp only [headingAt?] at h
  split at h
  · obtain ⟨text, _, hheading⟩ := Option.bind_eq_some_iff.1 h
    exact Line.newline_not_mem_of_heading? hheading
  · simp at h

/-- Lines whose members have visible texts give legible blocks. -/
theorem Reading.legible (h : Reading m deep lines bs rest)
    (hvisible : ∀ line ∈ lines, isMember m line = true →
      ∀ text ∈ Line.commentText? m line, Text.isBlank text = false) :
    ∀ b ∈ bs, b.Legible := by
  induction h with
  | nil | code => exact fun b hb => absurd hb List.not_mem_nil
  | blank _ _ ih | stray _ _ _ _ _ ih =>
    exact ih fun line hline => hvisible line (List.mem_cons_of_mem _ hline)
  | license _ _ ih =>
    refine ih fun line hline => hvisible line (List.mem_cons_of_mem _ ?_)
    exact (List.dropWhile_suffix _).subset hline
  | heading _ hheading _ ih =>
    refine List.forall_mem_cons.2 ⟨⟨List.cons_ne_nil _ _, ?_, fun hkind => absurd rfl hkind⟩, ?_⟩
    · intro t ht
      rw [List.mem_singleton.1 ht]
      exact newline_not_mem_of_headingAt? hheading
    · exact ih fun line hline => hvisible line (List.mem_cons_of_mem _ hline)
  | @block deep line text after _ _ hstart _ htext _ ih =>
    -- every line of the block is the text of a member
    have htexts : ∀ t ∈ text :: (after.takeWhile (continuesBlock m)).filterMap
        (Line.commentText? m), ∃ l ∈ line :: after, isMember m l = true ∧
          Line.commentText? m l = some t := by
      intro t ht
      rcases List.mem_cons.1 ht with rfl | ht
      · exact ⟨line, List.mem_cons_self, hstart.member, htext⟩
      · obtain ⟨l, hl, ht⟩ := List.mem_filterMap.1 ht
        have hcontinues := List.mem_takeWhile_imp hl
        rw [continuesBlock, Bool.and_eq_true] at hcontinues
        exact ⟨l, List.mem_cons_of_mem _ ((List.takeWhile_prefix _).subset hl), hcontinues.1, ht⟩
    refine List.forall_mem_cons.2 ⟨⟨List.cons_ne_nil _ _, ?_, fun _ => ?_⟩, ?_⟩
    · intro t ht
      obtain ⟨l, _, _, hl⟩ := htexts t ht
      exact Line.not_mem_of_commentText? hl
    · intro t ht
      obtain ⟨l, hl, hmember, ht⟩ := htexts t ht
      exact hvisible l hl hmember t ht
    · refine ih fun line hline => hvisible line (List.mem_cons_of_mem _ ?_)
      exact (List.dropWhile_suffix _).subset hline

end Scan

/-! ## What legible blocks hand over -/

/-- Every token of a legible block is an unbroken line with a visible character. -/
theorem Block.Legible.tokens {b : Block} (h : b.Legible) (s : Settings) :
    ∀ t ∈ (b.emission s).tokens, '\n' ∉ t.text ∧ Text.isBlank t.text = false := by
  have hshown {t : Text} (hbroken : '\n' ∉ t) (hblank : Text.isBlank t = false) :
      '\n' ∉ Inline.toMarkdown s t ∧ Text.isBlank (Inline.toMarkdown s t) = false := by
    rw [Inline.newline_mem_toMarkdown, Inline.isBlank_toMarkdown]
    exact ⟨hbroken, hblank⟩
  rw [emission]
  cases hkind : b.kind with
  | heading =>
    obtain ⟨title, later, hlines⟩ := List.exists_cons_of_ne_nil h.lines_ne_nil
    have hbroken : '\n' ∉ Line.withoutPeriods title := fun hmem =>
      h.unbroken title (by simp [hlines]) ((Text.prefix_dropEndWhile _ title).subset hmem)
    have hlevel : '#' ∈ List.replicate b.headerLevel.toNat '#' := by
      rw [headerLevel]
      cases b.level.getD .three <;> decide
    rw [hlines]
    intro token htoken
    rw [List.mem_singleton.1 htoken]
    constructor
    · simp [Token.header, Inline.newline_mem_toMarkdown, hbroken]
    · exact Text.isBlank_eq_false_of_mem (List.mem_append_left _ hlevel) (by decide)
  | paragraph =>
    intro token htoken
    obtain ⟨t, ht, rfl⟩ := List.mem_map.1 htoken
    exact hshown (fun hmem => h.unbroken t ht (Text.trim_subset t hmem))
      (by rw [Text.isBlank_trim, h.visible (by simp [hkind]) t ht])
  | bulletList =>
    intro token htoken
    obtain ⟨t, ht, rfl⟩ := List.mem_map.1 htoken
    exact hshown (fun hmem => h.unbroken t ht ((Text.prefix_dropEndWhile _ t).subset hmem))
      (by rw [Text.isBlank_trimEnd, h.visible (by simp [hkind]) t ht])
  | codeBlock =>
    intro token htoken
    obtain ⟨u, hu, rfl⟩ := List.mem_map.1 htoken
    obtain ⟨t, ht, rfl⟩ := List.mem_map.1 hu
    have hvisible := h.visible (by simp [hkind]) t ht
    have hdedented : Text.isBlank (t.drop (sharedIndent b.lines)) = false := by
      rw [Text.isBlank_drop (sharedIndent_le ht hvisible), hvisible]
    obtain ⟨hbroken, hblank⟩ :=
      hshown (fun hmem => h.unbroken t ht (List.mem_of_mem_drop hmem)) hdedented
    constructor
    · simpa [Token.line, codePrefix] using hbroken
    · rw [Token.line, Text.isBlank_append, hblank, Bool.and_false]

end Commentary
