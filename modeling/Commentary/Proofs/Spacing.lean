import Commentary.Emission
import Commentary.Proofs.Reading
import Mathlib.Data.List.Basic

/-!
# Spacing

A sink keeps a list of tokens as it is when no blank one comes where it would be dropped. Every
block of a body hands over a token and never a blank one, so the blank tokens of a body are those
between its blocks, and a sink that has taken nothing keeps them all.
-/

namespace Commentary

namespace Sink

/-- Whether a sink keeps every token of a list, where `refuses` tells that it would drop a blank one
at first. -/
def keepsAll (refuses : Bool) : List Token → Bool
  | [] => true
  | t :: ts => !(t.isBlank && refuses) && keepsAll t.isBlank ts

variable {s : Sink} {ts us : List Token}

/-- A token that is not refused comes last. -/
theorem append_of_keeps {t : Token} (h : (t.isBlank && s.refusesBlank) = false) :
    s.append t = ⟨s.tokens ++ [t]⟩ := by
  simp [append, h]

/-- A sink that refuses a blank token stays as it is. -/
theorem append_blank (h : s.refusesBlank = true) : s.append .blank = s := by
  simp [append, h, Token.isBlank, Token.blank]

/-- Tokens that are all kept stand behind the earlier ones as they are. -/
theorem appendAll_of_keepsAll (h : keepsAll s.refusesBlank ts = true) :
    s.appendAll ts = ⟨s.tokens ++ ts⟩ := by
  induction ts generalizing s with
  | nil => simp
  | cons t ts ih =>
    rw [keepsAll, Bool.and_eq_true, Bool.not_eq_true'] at h
    have hlast : (⟨s.tokens ++ [t]⟩ : Sink).refusesBlank = t.isBlank := by
      simp [refusesBlank]
    rw [appendAll_cons, append_of_keeps h.1, ih (by rw [hlast]; exact h.2)]
    simp

/-- Behind a token that is not blank a blank one is taken. -/
theorem refusesBlank_of_getLast? {t : Token} (h : s.tokens.getLast? = some t) :
    s.refusesBlank = t.isBlank := by
  rw [refusesBlank, h, Option.all_some]

/-- Tokens of which none is blank are kept, and a blank one behind them is kept too. -/
theorem keepsAll_append {refuses : Bool} (hne : ts ≠ []) (h : ∀ t ∈ ts, t.isBlank = false) :
    keepsAll refuses (ts ++ us) = keepsAll false us := by
  induction ts generalizing refuses with
  | nil => exact absurd rfl hne
  | cons t ts ih =>
    have ht : t.isBlank = false := h t List.mem_cons_self
    rw [List.cons_append, keepsAll, ht, Bool.false_and, Bool.not_false, Bool.true_and]
    cases ts with
    | nil => rfl
    | cons first later =>
      exact ih (List.cons_ne_nil _ _) fun u hu => h u (List.mem_cons_of_mem _ hu)

/-- Tokens that are not blank are all kept. -/
theorem keepsAll_of_solid {refuses : Bool} (h : ∀ t ∈ ts, t.isBlank = false) :
    keepsAll refuses ts = true := by
  cases ts with
  | nil => rfl
  | cons t ts =>
    have hall : keepsAll refuses (t :: ts ++ []) = keepsAll false [] :=
      keepsAll_append (List.cons_ne_nil t ts) h
    rwa [List.append_nil] at hall

/-- Tokens are written one after another. -/
theorem value_append (ts us : List Token) :
    (⟨ts ++ us⟩ : Sink).value = (⟨ts⟩ : Sink).value ++ (⟨us⟩ : Sink).value :=
  List.flatMap_append

/-- Nothing is written only where nothing has been taken, for every token ends its line. -/
theorem value_eq_nil_iff : s.value = [] ↔ s.tokens = [] := by
  rw [value, List.flatMap_eq_nil_iff]
  constructor
  · intro h
    rw [List.eq_nil_iff_forall_not_mem]
    intro t ht
    exact absurd (h t ht) (by simp)
  · intro h t ht
    rw [h] at ht
    exact absurd ht List.not_mem_nil

end Sink

/-! ## What blocks hand over -/

/-- No block of a body is without lines. -/
theorem Scan.Reading.lines_ne_nil {m : Char} {deep : Bool} {lines rest : List Text}
    {bs : List Block} (h : Reading m deep lines bs rest) : ∀ b ∈ bs, b.lines ≠ [] := by
  induction h with
  | nil | code => intro b hb; exact absurd hb List.not_mem_nil
  | blank _ _ ih | license _ _ ih | stray _ _ _ _ _ ih => exact ih
  | heading _ _ _ ih | block _ _ _ _ ih =>
    exact List.forall_mem_cons.2 ⟨List.cons_ne_nil _ _, ih⟩

/-- A token that blocks hand over: it comes from a block, or it stands between two of them. -/
inductive Token.IsBodyToken : Token → Prop
  | heading (level : HeadingLevel) (t : Text) : IsBodyToken (.header level.toNat t)
  | line (t : Text) : IsBodyToken (.line t)
  | blank : IsBodyToken .blank

/-- Only a heading without lines fails. -/
theorem Block.error_emission {b : Block} (h : b.kind = .heading → b.lines ≠ []) (s : Settings) :
    (b.emission s).error = none := by
  rw [emission]
  cases hkind : b.kind with
  | heading =>
    obtain ⟨title, later, hb⟩ := List.exists_cons_of_ne_nil (h hkind)
    rw [hb]
    rfl
  | paragraph | bulletList | codeBlock => rfl

/-- A block with lines hands over a token, and no blank one. -/
theorem Block.emission_of_lines {b : Block} (h : b.lines ≠ []) (s : Settings) :
    ∃ ts, b.emission s = .ofTokens ts ∧ ts ≠ [] ∧ ∀ t ∈ ts, t.isBlank = false ∧ t.IsBodyToken := by
  have hlines {lines : List Text} (hne : lines ≠ []) (f : Text → Text) :
      lines.map (fun t => Token.line (f t)) ≠ [] ∧
        ∀ t ∈ lines.map (fun t => Token.line (f t)), t.isBlank = false ∧ t.IsBodyToken := by
    refine ⟨by simpa using hne, fun t ht => ?_⟩
    obtain ⟨line, _, rfl⟩ := List.mem_map.1 ht
    exact ⟨rfl, .line _⟩
  rw [emission]
  cases b.kind with
  | heading =>
    obtain ⟨title, later, hb⟩ := List.exists_cons_of_ne_nil h
    rw [hb]
    refine ⟨_, rfl, List.cons_ne_nil _ _, fun t ht => ?_⟩
    rw [List.mem_singleton.1 ht]
    exact ⟨rfl, .heading _ _⟩
  | paragraph => exact ⟨_, rfl, hlines h _⟩
  | bulletList => exact ⟨_, rfl, hlines h _⟩
  | codeBlock =>
    have hdedent : dedent b.lines ≠ [] := by simpa [dedent] using h
    exact ⟨_, rfl, hlines hdedent _⟩

/-- Tokens of blocks: all of them are kept, and the last one is not blank. -/
structure IsBody (refuses : Bool) (ts : List Token) : Prop where
  /-- No blank token comes where it would be dropped. -/
  keeps : Sink.keepsAll refuses ts = true
  /-- A blank token behind them would be kept. -/
  last : ∀ t ∈ ts.getLast?, t.isBlank = false
  /-- Only blocks have handed them over. -/
  body : ∀ t ∈ ts, t.IsBodyToken

/-- One more block before others, and the gap before it. -/
theorem IsBody.cons {refuses : Bool} {gap ts us : List Token} (h : IsBody false us) (hne : ts ≠ [])
    (hts : ∀ t ∈ ts, t.isBlank = false ∧ t.IsBodyToken)
    (hgap : gap = [] ∨ refuses = false ∧ gap = [.blank]) : IsBody refuses (gap ++ (ts ++ us)) := by
  have hsolid : ∀ t ∈ ts, t.isBlank = false := fun t ht => (hts t ht).1
  have hbody : ∀ t ∈ ts ++ us, t.IsBodyToken := by
    intro t ht
    rcases List.mem_append.1 ht with ht | ht
    · exact (hts t ht).2
    · exact h.body t ht
  have hlast : ∀ t ∈ (ts ++ us).getLast?, t.isBlank = false := by
    intro t ht
    cases us with
    | nil =>
      rw [List.append_nil] at ht
      exact hsolid t (List.mem_of_getLast? ht)
    | cons u us =>
      rw [List.getLast?_append_of_ne_nil _ (List.cons_ne_nil u us)] at ht
      exact h.last t ht
  have hkeeps (refuses : Bool) : Sink.keepsAll refuses (ts ++ us) = true :=
    (Sink.keepsAll_append hne hsolid).trans h.keeps
  rcases hgap with rfl | ⟨rfl, rfl⟩
  · exact ⟨hkeeps refuses, hlast, hbody⟩
  · refine ⟨hkeeps true, ?_, List.forall_mem_cons.2 ⟨.blank, hbody⟩⟩
    rw [List.getLast?_append_of_ne_nil _ (by simp [hne])]
    exact hlast

/-- What stands between two blocks. -/
def separator (b c : Block) : List Token :=
  if b.kind = .bulletList ∧ c.kind = .bulletList then [] else [.blank]

/-- The gap between two blocks is their separator. -/
theorem blockGap_some (b c : Block) : blockGap (some b) c = separator b c := by
  simp only [blockGap, separator, Block.isBulletList, Option.any_some]
  by_cases hb : b.kind = .bulletList <;> by_cases hc : c.kind = .bulletList <;> simp [hb, hc]

/-- A gap comes only behind another block. -/
theorem blockGap_eq (previous : Option Block) (b : Block) :
    blockGap previous b = [] ∨ previous.isNone = false ∧ blockGap previous b = [.blank] := by
  cases previous with
  | none => exact .inl rfl
  | some p =>
    rw [blockGap]
    split
    · exact .inr ⟨rfl, rfl⟩
    · exact .inl rfl

/-- Blocks that have lines hand over their tokens without an error. -/
theorem blocksEmissionAfter_of_lines {bs : List Block} (h : ∀ b ∈ bs, b.lines ≠ []) (s : Settings)
    (previous : Option Block) :
    ∃ ts, blocksEmissionAfter s previous bs = .ofTokens ts ∧ IsBody previous.isNone ts := by
  induction bs generalizing previous with
  | nil => exact ⟨[], rfl, rfl, by simp, by simp⟩
  | cons b later ih =>
    obtain ⟨hb, hlater⟩ := List.forall_mem_cons.1 h
    obtain ⟨ts, hts, hne, hsolid⟩ := b.emission_of_lines hb s
    obtain ⟨us, hus, hbody⟩ := ih hlater (some b)
    refine ⟨blockGap previous b ++ (ts ++ us), ?_, hbody.cons hne hsolid (blockGap_eq previous b)⟩
    rw [blocksEmissionAfter, hts, hus]
    rfl

end Commentary
