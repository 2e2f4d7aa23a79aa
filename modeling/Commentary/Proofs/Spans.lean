import Commentary.Proofs.Blanks
import Mathlib.Data.List.Forall2

/-!
# What spans stand for

The spans of a line stand for consecutive parts of it: a plain span for its own text, a name for
itself between two quotes. So a line and its Markdown have a visible character alike, and neither
has a newline that the other has not.
-/

namespace Commentary.Inline

/-- The part of a line that a span is read from. -/
inductive StandsFor (symmetric : Bool) : Span → Text → Prop
  | plain (t : Text) : StandsFor symmetric ⟨.text, t⟩ t
  | name {kind : SpanKind} {close : Char} (t : Text) : kind ≠ .text →
      closes symmetric close = true → StandsFor symmetric ⟨kind, t⟩ (openQuote :: t ++ [close])

/-- What has been read of a line and is in no span yet. -/
def pending (plain : Text) (opened : Option Text) : Text :=
  plain ++ opened.elim [] (openQuote :: ·)

/-- Plain text stands for itself. -/
theorem standsFor_plainSpans (symmetric : Bool) (t : Text) :
    ∃ parts, List.Forall₂ (StandsFor symmetric) (plainSpans t) parts ∧ parts.flatten = t := by
  rw [plainSpans]
  split
  · next h => exact ⟨[], .nil, (eq_of_beq h).symm⟩
  · exact ⟨[t], .cons (.plain t) .nil, by simp⟩

/-- The span of a name stands for the name and the quotes around it. -/
theorem standsFor_nameSpan (s : Settings) (name : Text) {close : Char}
    (h : closes s.symmetricQuotes close = true) :
    StandsFor s.symmetricQuotes (nameSpan s name) (openQuote :: name ++ [close]) := by
  refine .name name ?_ h
  split <;> exact SpanKind.noConfusion

/-- The spans that are still to come stand for what is pending and for the rest of the line. -/
theorem standsFor_spansFrom (s : Settings) (plain : Text) (opened : Option Text) (t : Text) :
    ∃ parts, List.Forall₂ (StandsFor s.symmetricQuotes) (spansFrom s plain opened t) parts ∧
      parts.flatten = pending plain opened ++ t := by
  induction t generalizing plain opened with
  | nil =>
    obtain ⟨parts, hparts, hflat⟩ := standsFor_plainSpans s.symmetricQuotes (pending plain opened)
    exact ⟨parts, hparts, by rw [hflat, List.append_nil]⟩
  | cons c t ih =>
    -- a step that closes no name keeps what is pending and moves one character over to it
    have hmove {plain' : Text} {opened' : Option Text}
        (h : pending plain' opened' = pending plain opened ++ [c]) :
        ∃ parts, List.Forall₂ (StandsFor s.symmetricQuotes) (spansFrom s plain' opened' t) parts ∧
          parts.flatten = pending plain opened ++ c :: t := by
      obtain ⟨parts, hparts, hflat⟩ := ih plain' opened'
      exact ⟨parts, hparts, by rw [hflat, h, List.append_assoc]; rfl⟩
    cases opened with
    | none =>
      rw [spansFrom]
      split
      · next hopen => exact hmove (by simp [pending, eq_of_beq hopen])
      · exact hmove (by simp [pending])
    | some name =>
      rw [spansFrom]
      split
      · next hclose =>
        rw [Bool.and_eq_true] at hclose
        obtain ⟨before, hbefore, hplain⟩ := standsFor_plainSpans s.symmetricQuotes plain
        obtain ⟨after, hafter, hrest⟩ := ih [] none
        refine ⟨before ++ (openQuote :: name ++ [c]) :: after,
          List.rel_append hbefore (.cons (standsFor_nameSpan s name hclose.1) hafter), ?_⟩
        simp [hplain, hrest, pending]
      · split
        · next hopen => exact hmove (by simp [pending, eq_of_beq hopen])
        · split
          · exact hmove (by simp [pending])
          · exact hmove (by simp [pending])

/-- The spans of a line stand for the line. -/
theorem standsFor_spans (s : Settings) (t : Text) :
    ∃ parts, List.Forall₂ (StandsFor s.symmetricQuotes) (spans s t) parts ∧ parts.flatten = t :=
  standsFor_spansFrom s [] none t

/-! ## Lines in Markdown -/

section Render

variable {symmetric : Bool} {span : Span} {spans : List Span} {part : Text} {parts : List Text}

/-- Quotes and tags are visible. -/
theorem StandsFor.isBlank_render (h : StandsFor symmetric span part) :
    Text.isBlank span.render = Text.isBlank part := by
  have hquoted (t : Text) (close : Char) : Text.isBlank (openQuote :: t ++ [close]) = false :=
    Text.isBlank_eq_false_of_mem List.mem_cons_self (by decide)
  have htag : Text.isBlank "<kbd>".toList = false := by decide
  cases h with
  | plain => rfl
  | @name kind close t hkind hclose =>
    rw [hquoted]
    cases kind with
    | text => exact absurd rfl hkind
    | code => exact hquoted t openQuote
    | key => rw [Span.render, List.append_assoc, Text.isBlank_append, htag, Bool.false_and]

/-- Quotes and tags hold no newline. -/
theorem StandsFor.newline_mem_render (h : StandsFor symmetric span part) :
    '\n' ∈ span.render ↔ '\n' ∈ part := by
  have hquote : '\n' ≠ openQuote := by decide
  have htags : '\n' ∉ "<kbd>".toList ∧ '\n' ∉ "</kbd>".toList := by decide
  cases h with
  | plain => rfl
  | @name kind close t hkind hclose =>
    have hclose' : '\n' ≠ close := by
      rintro rfl
      revert hclose
      cases symmetric <;> decide
    cases kind with
    | text => exact absurd rfl hkind
    | code => simp [Span.render, hquote, hclose']
    | key =>
      simp only [Span.render, List.mem_append, htags, List.cons_append, List.mem_cons, hquote,
        List.not_mem_nil, hclose', or_false, false_or]

/-- Rendered spans are blank if the text that they are read from is. -/
theorem isBlank_flatMap_render (h : List.Forall₂ (StandsFor symmetric) spans parts) :
    Text.isBlank (spans.flatMap Span.render) = Text.isBlank parts.flatten := by
  induction h with
  | nil => rfl
  | cons hspan _ ih =>
    rw [List.flatMap_cons, List.flatten_cons, Text.isBlank_append, Text.isBlank_append,
      hspan.isBlank_render, ih]

/-- Rendered spans have a newline if the text that they are read from has one. -/
theorem newline_mem_flatMap_render (h : List.Forall₂ (StandsFor symmetric) spans parts) :
    '\n' ∈ spans.flatMap Span.render ↔ '\n' ∈ parts.flatten := by
  induction h with
  | nil => rfl
  | cons hspan _ ih =>
    rw [List.flatMap_cons, List.flatten_cons, List.mem_append, List.mem_append,
      hspan.newline_mem_render, ih]

end Render

/-- A line has a visible character if its Markdown has one. -/
theorem isBlank_toMarkdown (s : Settings) (t : Text) :
    Text.isBlank (toMarkdown s t) = Text.isBlank t := by
  obtain ⟨parts, hparts, rfl⟩ := standsFor_spans s t
  exact isBlank_flatMap_render hparts

/-- A line has a newline if its Markdown has one. -/
theorem newline_mem_toMarkdown (s : Settings) (t : Text) : '\n' ∈ toMarkdown s t ↔ '\n' ∈ t := by
  obtain ⟨parts, hparts, rfl⟩ := standsFor_spans s t
  exact newline_mem_flatMap_render hparts

end Commentary.Inline
