import Commentary.Proofs.Spacing
import Commentary.Proofs.Spans

/-!
# The layout of code

Code loses the indentation that its visible lines share and is then indented by four spaces. Inline
translation leaves the spaces in front of a line as they are. Main statement: visible lines stand as
far from each other as before, and one of them stands right behind the four spaces.
-/

namespace Commentary

namespace Text

/-- A space in front indents by one more. -/
theorem indent_cons_space (t : Text) : indent (' ' :: t) = indent t + 1 := rfl

/-- A text that starts with anything but a space is not indented. -/
theorem indent_cons_of_ne {c : Char} (h : c ≠ ' ') (t : Text) : indent (c :: t) = 0 := by
  rw [indent, List.takeWhile_cons_of_neg (by simpa [isBlankSpace] using h), List.length_nil]

/-- The spaces behind a beginning count alike if they count alike alone. -/
theorem indent_append_congr (s : Text) {t u : Text} (h : indent t = indent u) :
    indent (s ++ t) = indent (s ++ u) := by
  induction s with
  | nil => exact h
  | cons c s ih =>
    by_cases hc : c = ' '
    · subst hc
      rw [List.cons_append, List.cons_append, indent_cons_space, indent_cons_space, ih]
    · rw [List.cons_append, List.cons_append, indent_cons_of_ne hc, indent_cons_of_ne hc]

/-- Dropping indentation leaves as much less of it. -/
theorem indent_drop {t : Text} {k : Nat} (h : k ≤ indent t) : indent (t.drop k) = indent t - k := by
  induction k generalizing t with
  | zero => rfl
  | succ k ih =>
    cases t with
    | nil => simp [indent] at h
    | cons c t =>
      by_cases hc : c = ' '
      · subst hc
        rw [indent_cons_space] at h ⊢
        rw [List.drop_succ_cons, ih (by omega)]
        omega
      · rw [indent_cons_of_ne hc] at h
        omega

end Text

namespace Inline

variable {symmetric : Bool} {span : Span} {spans : List Span} {part : Text} {parts : List Text}

/-- A name keeps no space in front of its quote, and neither does its Markdown. -/
theorem StandsFor.indent_render_append (h : StandsFor symmetric span part) {t u : Text}
    (htu : Text.indent t = Text.indent u) :
    Text.indent (span.render ++ t) = Text.indent (part ++ u) := by
  have hquoted (v : Text) : Text.indent (openQuote :: v) = 0 :=
    Text.indent_cons_of_ne (by decide) v
  have htag (v : Text) : Text.indent ("<kbd>".toList ++ v) = 0 := rfl
  cases h with
  | plain => exact Text.indent_append_congr _ htu
  | @name kind close v hkind =>
    rw [List.cons_append, List.cons_append, hquoted]
    cases kind with
    | text => exact absurd rfl hkind
    | code => exact hquoted _
    | key => rw [Span.render, List.append_assoc, List.append_assoc, htag]

/-- Rendered spans are indented like the text that they are read from. -/
theorem indent_flatMap_render (h : List.Forall₂ (StandsFor symmetric) spans parts) :
    Text.indent (spans.flatMap Span.render) = Text.indent parts.flatten := by
  induction h with
  | nil => rfl
  | cons hspan _ ih =>
    rw [List.flatMap_cons, List.flatten_cons]
    exact hspan.indent_render_append ih

/-- A line in Markdown has as many spaces in front as the line. -/
theorem indent_toMarkdown (s : Settings) (t : Text) :
    Text.indent (toMarkdown s t) = Text.indent t := by
  obtain ⟨parts, hparts, rfl⟩ := standsFor_spans s t
  exact indent_flatMap_render hparts

end Inline

/-! ## The shared indentation -/

/-- Some visible line has no more than the shared indentation. -/
theorem exists_indent_eq_sharedIndent {lines : List Text}
    (h : ∃ t ∈ lines, Text.isBlank t = false) :
    ∃ t ∈ lines, Text.isBlank t = false ∧ Text.indent t = sharedIndent lines := by
  obtain ⟨t, ht, hvisible⟩ := h
  have hmem : Text.indent t ∈ (lines.filter (!Text.isBlank ·)).map Text.indent :=
    List.mem_map_of_mem (List.mem_filter.2 ⟨ht, by simp [hvisible]⟩)
  obtain ⟨least, hleast⟩ := Option.isSome_iff_exists.1 (List.isSome_min?_of_mem hmem)
  obtain ⟨u, hu, rfl⟩ := List.mem_map.1 (List.min?_mem hleast)
  obtain ⟨hu, hshown⟩ := List.mem_filter.1 hu
  refine ⟨u, hu, by simpa using hshown, ?_⟩
  rw [sharedIndent, hleast, Option.getD_some]

/-- Lines without a visible character share nothing that could be cut. -/
theorem sharedIndent_of_blank {lines : List Text} (h : ∀ t ∈ lines, Text.isBlank t = true) :
    sharedIndent lines = 0 := by
  have hnone : lines.filter (!Text.isBlank ·) = [] :=
    List.filter_eq_nil_iff.2 fun t ht => by simp [h t ht]
  rw [sharedIndent, hnone]
  rfl

/-- Dedented lines share no indentation. -/
theorem sharedIndent_dedent (lines : List Text) : sharedIndent (dedent lines) = 0 := by
  by_cases h : ∃ t ∈ lines, Text.isBlank t = false
  · obtain ⟨t, ht, hvisible, hindent⟩ := exists_indent_eq_sharedIndent h
    have hcut : t.drop (sharedIndent lines) ∈ dedent lines := List.mem_map_of_mem ht
    have hshown : Text.isBlank (t.drop (sharedIndent lines)) = false := by
      rw [Text.isBlank_drop (Nat.le_of_eq hindent.symm), hvisible]
    have hle := sharedIndent_le hcut hshown
    rw [Text.indent_drop (Nat.le_of_eq hindent.symm), hindent] at hle
    omega
  · have hblank : ∀ t ∈ lines, Text.isBlank t = true := by simpa using h
    have hzero := sharedIndent_of_blank hblank
    rw [dedent, hzero]
    simpa using hzero

/-- What has been dedented shares no indentation any more. -/
theorem dedent_dedent (lines : List Text) : dedent (dedent lines) = dedent lines := by
  rw [dedent, sharedIndent_dedent]
  exact List.map_id' _

/-! ## Code in the output -/

/-- How far a visible line of code stands in the output. -/
theorem indent_codeLine {lines : List Text} {t : Text} (ht : t ∈ lines)
    (hvisible : Text.isBlank t = false) (s : Settings) :
    Text.indent (codePrefix ++ Inline.toMarkdown s (t.drop (sharedIndent lines))) =
      4 + (Text.indent t - sharedIndent lines) := by
  have hfour (u : Text) : Text.indent (codePrefix ++ u) = Text.indent u + 4 := rfl
  rw [hfour, Inline.indent_toMarkdown, Text.indent_drop (sharedIndent_le ht hvisible)]
  omega

/-- Code keeps its layout. The same number of characters is cut from each line, from visible lines
only spaces, and what is left is translated and indented by four spaces. A visible line comes to
stand right there, and any two of them stand as far from each other as before. Dedenting a second
time changes nothing. -/
theorem Block.emission_keeps_layout (s : Settings) (lines : List Text)
    (level : Option HeadingLevel) (sink : Sink) :
    ∃ k, (∀ t ∈ lines, Text.isBlank t = false → k ≤ Text.indent t) ∧
      let shown := fun t : Text => [' ', ' ', ' ', ' '] ++ Inline.toMarkdown s (t.drop k)
      let emission := Block.emission s ⟨.codeBlock, lines, level⟩
      emission.error = none ∧ emission.tokens = lines.map (fun t => .line (shown t)) ∧
      (emission.into sink).tokens = sink.tokens ++ lines.map (fun t => .line (shown t)) ∧
      ((∃ t ∈ lines, Text.isBlank t = false) →
        ∃ t ∈ lines, Text.isBlank t = false ∧ Text.indent (shown t) = 4) ∧
      (∀ t ∈ lines, ∀ u ∈ lines, Text.isBlank t = false → Text.isBlank u = false →
        (Text.indent (shown t) : Int) - Text.indent (shown u) =
          (Text.indent t : Int) - Text.indent u) ∧
      dedent (dedent lines) = dedent lines := by
  refine ⟨sharedIndent lines, fun t ht hvisible => sharedIndent_le ht hvisible, ?_⟩
  intro shown emission
  have htokens : emission.tokens = lines.map (fun t => .line (shown t)) := List.map_map
  have hindent {t : Text} (ht : t ∈ lines) (hvisible : Text.isBlank t = false) :
      Text.indent (shown t) = 4 + (Text.indent t - sharedIndent lines) :=
    indent_codeLine ht hvisible s
  refine ⟨rfl, htokens, ?_, ?_, ?_, dedent_dedent lines⟩
  · have hsolid : ∀ t ∈ emission.tokens, t.isBlank = false := by
      rw [htokens]
      intro t ht
      obtain ⟨line, -, rfl⟩ := List.mem_map.1 ht
      rfl
    rw [← htokens, Emission.into, Sink.appendAll_of_keepsAll (Sink.keepsAll_of_solid hsolid)]
  · intro h
    obtain ⟨t, ht, hvisible, hleast⟩ := exists_indent_eq_sharedIndent h
    refine ⟨t, ht, hvisible, ?_⟩
    rw [hindent ht hvisible, hleast, Nat.sub_self]
  · intro t ht u hu htvisible huvisible
    have htle := sharedIndent_le ht htvisible
    have hule := sharedIndent_le hu huvisible
    rw [hindent ht htvisible, hindent hu huvisible]
    omega

/-- A line without a visible character has no part in the shared indentation and may be shorter. -/
example : (Block.emission .default ⟨.codeBlock,
      ["     (a".toList, " \t".toList, "       `b')".toList], none⟩).tokens =
    [.line "    (a".toList, .line "    ".toList, .line "      `b`)".toList] := by
  decide

end Commentary
