import Commentary.Hook
import Commentary.Proofs.Spacing
import Mathlib.Data.List.Chain

/-!
# How a sink collapses blank tokens

What a sink keeps of the tokens that are handed to it depends on one bit of its past, whether it
would drop a blank token. Every history of actions therefore leaves what one pass over all the
handed tokens leaves: the tokens that are not blank in their order, and of the blank ones the first
of each run that does not come at the very start.
-/

namespace Commentary

namespace Sink

/-- What is kept of a list of tokens, where `refuses` tells that a blank one is dropped at first. -/
def kept (refuses : Bool) : List Token → List Token
  | [] => []
  | t :: ts => if t.isBlank && refuses then kept refuses ts else t :: kept t.isBlank ts

/-- The tokens that are not blank. -/
def solid (ts : List Token) : List Token := ts.filter (!·.isBlank)

/-- How many blank tokens stand before the first solid token, between one solid token and the next,
and behind the last one. -/
def gaps : List Token → List Nat
  | [] => [0]
  | t :: ts => if t.isBlank then (gaps ts).modifyHead (· + 1) else 0 :: gaps ts

/-- Two neighbours that are not both blank. -/
def Apart (t u : Token) : Prop := ¬ (t.isBlank = true ∧ u.isBlank = true)

/-! ## One pass over the handed tokens -/

section Pass

variable {refuses : Bool} {t : Token} {ts : List Token}

/-- A blank token is dropped where blank tokens are refused. -/
theorem kept_cons_of_dropped (h : t.isBlank = true) : kept true (t :: ts) = kept true ts := by
  simp [kept, h]

/-- Any other token is kept, and behind a blank one blank tokens are refused. -/
theorem kept_cons_of_taken (h : (t.isBlank && refuses) = false) :
    kept refuses (t :: ts) = t :: kept t.isBlank ts := by
  simp [kept, h]

/-- A token that a sink drops is a blank one, and the sink stays ready to drop another. -/
theorem dropped_or_taken (refuses : Bool) (t : Token) :
    refuses = true ∧ t.isBlank = true ∨ (t.isBlank && refuses) = false := by
  cases refuses <;> cases t.isBlank <;> simp

/-- A sink takes tokens as one pass over them says. -/
theorem appendAll_eq (s : Sink) (ts : List Token) :
    s.appendAll ts = ⟨s.tokens ++ kept s.refusesBlank ts⟩ := by
  induction ts generalizing s with
  | nil => simp [kept]
  | cons t ts ih =>
    rw [appendAll_cons, ih]
    rcases dropped_or_taken s.refusesBlank t with ⟨hrefuses, hblank⟩ | htaken
    · have hsame : s.append t = s := by simp [append, hblank, hrefuses]
      rw [hsame, hrefuses, kept_cons_of_dropped hblank]
    · have hlast : (⟨s.tokens ++ [t]⟩ : Sink).refusesBlank = t.isBlank :=
        refusesBlank_of_getLast? (by simp)
      rw [append_of_keeps htaken, hlast, kept_cons_of_taken htaken, List.append_assoc]
      rfl

/-- Where a blank token is dropped at first, the first token that is kept is solid. -/
theorem isBlank_head?_kept (ts : List Token) : ∀ t ∈ (kept true ts).head?, t.isBlank = false := by
  induction ts with
  | nil => simp [kept]
  | cons u ts ih =>
    rcases dropped_or_taken true u with ⟨_, hblank⟩ | htaken
    · rw [kept_cons_of_dropped hblank]
      exact ih
    · rw [kept_cons_of_taken htaken]
      simpa using htaken

/-- No two blank tokens that are kept are neighbours. -/
theorem isChain_kept (refuses : Bool) (ts : List Token) : (kept refuses ts).IsChain Apart := by
  induction ts generalizing refuses with
  | nil => exact .nil
  | cons t ts ih =>
    rcases dropped_or_taken refuses t with ⟨rfl, hblank⟩ | htaken
    · rw [kept_cons_of_dropped hblank]
      exact ih true
    · rw [kept_cons_of_taken htaken, List.isChain_cons]
      refine ⟨?_, ih t.isBlank⟩
      rintro u hu ⟨ht, hblank⟩
      rw [ht] at hu
      rw [isBlank_head?_kept ts u hu] at hblank
      exact Bool.false_ne_true hblank

/-- Every solid token is kept. -/
theorem solid_kept (refuses : Bool) (ts : List Token) : solid (kept refuses ts) = solid ts := by
  induction ts generalizing refuses with
  | nil => rfl
  | cons t ts ih =>
    rcases dropped_or_taken refuses t with ⟨rfl, hblank⟩ | htaken
    · rw [kept_cons_of_dropped hblank, ih]
      simp [solid, hblank]
    · rw [kept_cons_of_taken htaken]
      cases hblank : t.isBlank with
      | true => simpa [solid, hblank] using ih true
      | false => simpa [solid, hblank] using ih false

/-- A gap is as wide as one blank token at most, and only a gap at the start is lost. -/
theorem gaps_kept (refuses : Bool) (ts : List Token) :
    ∃ first later, gaps ts = first :: later ∧
      gaps (kept refuses ts) = (if refuses then 0 else min 1 first) :: later.map (min 1) := by
  induction ts generalizing refuses with
  | nil => exact ⟨0, [], rfl, by simp [kept, gaps]⟩
  | cons t ts ih =>
    cases hblank : t.isBlank with
    | true =>
      -- behind the blank token that is kept no other one is, until a solid token comes
      obtain ⟨first, later, hts, hkept⟩ := ih true
      refine ⟨first + 1, later, by simp [gaps, hblank, hts], ?_⟩
      cases refuses with
      | true => rw [kept_cons_of_dropped hblank, hkept]; rfl
      | false =>
        rw [kept_cons_of_taken (by simp), hblank]
        simp [gaps, hblank, hkept]
    | false =>
      obtain ⟨first, later, hts, hkept⟩ := ih false
      refine ⟨0, first :: later, by simp [gaps, hblank, hts], ?_⟩
      rw [kept_cons_of_taken (by simp [hblank]), hblank]
      simp [gaps, hblank, hkept]

end Pass

/-! ## Histories of actions -/

/-- The tokens that actions hand over. One that fails has handed over those before the failure. -/
def handed (actions : List Action) : List Token := actions.flatMap (·.emission.tokens)

/-- Each action hands over its tokens before the next one has its turn. -/
theorem handed_cons (a : Action) (actions : List Action) :
    handed (a :: actions) = a.emission.tokens ++ handed actions :=
  List.flatMap_cons

section Handed

variable (s : Settings) (actions : List Action)

@[simp] theorem handed_nil : handed [] = [] := rfl

/-! The low-level actions hand over one token each, or nothing. -/

@[simp] theorem handed_append (t : Token) :
    handed (.append t :: actions) = t :: handed actions := rfl

@[simp] theorem handed_header (level : Int) (t : Text) :
    handed (.header level t :: actions) = .header level t :: handed actions := rfl

@[simp] theorem handed_text (t : Text) :
    handed (.text t :: actions) = .line t :: handed actions := rfl

@[simp] theorem handed_blank : handed (.blank :: actions) = .blank :: handed actions := rfl

@[simp] theorem handed_rule : handed (.rule :: actions) = .rule :: handed actions := rfl

@[simp] theorem handed_attribution (t : Text) :
    handed (.attribution t :: actions) = .attribution t :: handed actions := rfl

@[simp] theorem handed_clearCopy : handed (.clearCopy :: actions) = handed actions := rfl

@[simp] theorem handed_fail (e : Error) : handed (.fail e :: actions) = handed actions := rfl

/-! Metadata hand over the title and the declared fields. -/

@[simp] theorem handed_emitMetadata (md : Metadata) : handed (.emitMetadata s md :: actions) =
    md.titleTokens s ++ md.fieldTokens ++ handed actions := rfl

/-! A block hands over one token for each of its lines, a heading one for its first line. -/

/-- A heading hands over its title as a header. -/
@[simp] theorem handed_emitBlock_heading (title : Text) (lines : List Text)
    (level : Option HeadingLevel) :
    handed (.emitBlock s ⟨.heading, title :: lines, level⟩ :: actions) =
      .header (level.getD .three).toNat (Inline.toMarkdown s (Line.withoutPeriods title)) ::
        handed actions := rfl

/-- A heading without lines fails and hands over nothing. -/
@[simp] theorem handed_emitBlock_heading_nil (level : Option HeadingLevel) :
    handed (.emitBlock s ⟨.heading, [], level⟩ :: actions) = handed actions := rfl

/-- A paragraph hands over its lines without the blanks around them. -/
@[simp] theorem handed_emitBlock_paragraph (lines : List Text) (level : Option HeadingLevel) :
    handed (.emitBlock s ⟨.paragraph, lines, level⟩ :: actions) =
      lines.map (fun t => .line (Inline.toMarkdown s (Text.trim t))) ++ handed actions := rfl

/-- A bullet list hands over its lines without the blanks behind them. -/
@[simp] theorem handed_emitBlock_bulletList (lines : List Text) (level : Option HeadingLevel) :
    handed (.emitBlock s ⟨.bulletList, lines, level⟩ :: actions) =
      lines.map (fun t => .line (Inline.toMarkdown s (Text.trimEnd t))) ++ handed actions := rfl

/-- Code hands over its lines, which are indented by four spaces instead of what they share. -/
@[simp] theorem handed_emitBlock_codeBlock (lines : List Text) (level : Option HeadingLevel) :
    handed (.emitBlock s ⟨.codeBlock, lines, level⟩ :: actions) =
      (dedent lines).map (fun t => .line (codePrefix ++ Inline.toMarkdown s t)) ++
        handed actions := rfl

/-! Blocks hand over what each of them does, with a blank token between two that are not both bullet
lists, up to a heading without lines. -/

@[simp] theorem handed_emitBlocks_nil : handed (.emitBlocks s [] :: actions) = handed actions := rfl

/-- A heading without lines keeps the blocks behind it from their turn. -/
@[simp] theorem handed_emitBlocks_heading_nil (level : Option HeadingLevel) (later : List Block) :
    handed (.emitBlocks s (⟨.heading, [], level⟩ :: later) :: actions) = handed actions := rfl

/-- One block is handed over as it is alone. -/
@[simp] theorem handed_emitBlocks_singleton (b : Block) :
    handed (.emitBlocks s [b] :: actions) = handed (.emitBlock s b :: actions) := by
  have htokens : (blocksEmission s [b]).tokens = (b.emission s).tokens := by
    simp only [blocksEmission, blocksEmissionAfter, Emission.andThen]
    cases (b.emission s).error <;> simp [blockGap]
  rw [handed_cons, handed_cons, Action.emission, Action.emission, htokens]

/-- The first of several blocks is handed over, then the gap behind it and the others. -/
@[simp] theorem handed_emitBlocks_cons {b : Block} (h : b.kind = .heading → b.lines ≠ [])
    (c : Block) (later : List Block) :
    handed (.emitBlocks s (b :: c :: later) :: actions) =
      handed [.emitBlock s b] ++ separator b c ++
        handed (.emitBlocks s (c :: later) :: actions) := by
  have hlater : blocksEmissionAfter s (some b) (c :: later) =
      (Emission.ofTokens (separator b c)).andThen (blocksEmission s (c :: later)) := by
    rw [← blockGap_some]
    rfl
  have htokens : (blocksEmission s (b :: c :: later)).tokens =
      (b.emission s).tokens ++ (separator b c ++ (blocksEmission s (c :: later)).tokens) := by
    rw [blocksEmission, blocksEmissionAfter, hlater,
      Emission.andThen_of_no_error (b.error_emission h s)]
    rfl
  simp only [handed_cons, handed_nil, Action.emission, htokens, List.append_nil,
    List.append_assoc]

end Handed

/-- Later actions find the sink as earlier ones have left it. -/
theorem performAll_append (s : Sink) (earlier later : List Action) :
    s.performAll (earlier ++ later) = (s.performAll earlier).performAll later :=
  List.foldl_append

/-- Actions leave what their tokens leave, wherever one of them failed. -/
theorem performAll_eq (s : Sink) (actions : List Action) :
    s.performAll actions = s.appendAll (handed actions) := by
  induction actions generalizing s with
  | nil => rfl
  | cons a actions ih =>
    have hstep : s.performAll (a :: actions) = (a.emission.into s).performAll actions := rfl
    rw [hstep, ih, handed_cons, appendAll_append]
    rfl

/-- No action takes back what a sink holds. -/
theorem prefix_performAll (s : Sink) (actions : List Action) :
    s.tokens <+: (s.performAll actions).tokens := by
  rw [performAll_eq, appendAll_eq]
  exact List.prefix_append _ _

/-- An empty sink ends up with what one pass over the handed tokens keeps. -/
theorem tokens_performAll_empty (actions : List Action) :
    (empty.performAll actions).tokens = kept true (handed actions) := by
  rw [performAll_eq, appendAll_eq]
  rfl

end Sink

/-- After any actions on an empty sink, failed ones among them, one more action only extends what
the sink holds. It starts with no blank token and has no two in a row, its solid tokens are those
that were handed over, and between two of them stands a blank token exactly if one was handed over
there. It writes each token as a line, and nothing if it holds none. -/
theorem Sink.performAll_collapses (actions : List Action) :
    let sink := Sink.empty.performAll actions
    (∀ a, sink.tokens <+: (Sink.empty.performAll (actions ++ [a])).tokens) ∧
    (∀ t ∈ sink.tokens.head?, t.isBlank = false) ∧
    sink.tokens.IsChain Sink.Apart ∧
    Sink.solid sink.tokens = Sink.solid (Sink.handed actions) ∧
    Sink.gaps sink.tokens = 0 :: (Sink.gaps (Sink.handed actions)).tail.map (min 1) ∧
    (sink.value = [] ↔ sink.tokens = []) ∧
    sink.value = sink.tokens.flatMap fun t => t.text ++ ['\n'] := by
  intro sink
  have htokens : sink.tokens = Sink.kept true (Sink.handed actions) :=
    Sink.tokens_performAll_empty actions
  refine ⟨?_, ?_, ?_, ?_, ?_, Sink.value_eq_nil_iff, rfl⟩
  · intro a
    rw [Sink.performAll_append]
    exact Sink.prefix_performAll sink [a]
  · rw [htokens]
    exact Sink.isBlank_head?_kept _
  · rw [htokens]
    exact Sink.isChain_kept true _
  · rw [htokens]
    exact Sink.solid_kept true _
  · obtain ⟨first, later, hhanded, hkept⟩ := Sink.gaps_kept true (Sink.handed actions)
    rw [htokens, hkept, hhanded]
    rfl

-- A heading without lines fails, and what was handed over before it stays.
example : (Sink.empty.performAll [.blank, .emitBlocks .default
    [⟨.paragraph, [['a']], none⟩, ⟨.heading, [], none⟩], .blank, .text ['b']]).tokens =
      [.line ['a'], .blank, .line ['b']] := by decide

end Commentary
