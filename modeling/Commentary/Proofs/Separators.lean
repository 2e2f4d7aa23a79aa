import Commentary.Proofs.Collapsing
import Commentary.Proofs.Legible
import Commentary.Proofs.Page

/-!
# The empty lines of a body

In the output of a body an empty line stands between two blocks, unless both are bullet lists, and
nowhere else: no block is empty, the sink drops none of the lines in between, and every other line
has a visible character.
-/

namespace Commentary

/-- The lines of the output are the texts of the tokens, and behind the last newline nothing is
left. -/
theorem Sink.splitOn_value {s : Sink} (h : ∀ t ∈ s.tokens, '\n' ∉ t.text) :
    List.splitOn '\n' s.value = s.tokens.map Token.text ++ [[]] := by
  obtain ⟨tokens⟩ := s
  induction tokens with
  | nil => rfl
  | cons t tokens ih =>
    obtain ⟨ht, hlater⟩ := List.forall_mem_cons.1 h
    have hvalue : (⟨t :: tokens⟩ : Sink).value = t.text ++ '\n' :: (⟨tokens⟩ : Sink).value := by
      simp [value]
    rw [hvalue, List.splitOn_append_cons_self_of_not_mem ht, ih hlater]
    rfl

/-! ## The tokens of a body -/

/-- The tokens of blocks one after another, with a separator between every two of them. -/
def spaced (s : Settings) : List Block → List Token
  | [] => []
  | [b] => (b.emission s).tokens
  | b :: c :: later => (b.emission s).tokens ++ separator b c ++ spaced s (c :: later)

/-- Blocks with lines hand over their own tokens and those between them. -/
theorem blocksEmissionAfter_eq_spaced {b : Block} {later : List Block}
    (h : ∀ c ∈ b :: later, c.lines ≠ []) (s : Settings) (previous : Option Block) :
    blocksEmissionAfter s previous (b :: later) =
      .ofTokens (blockGap previous b ++ spaced s (b :: later)) := by
  induction later generalizing b previous with
  | nil =>
    obtain ⟨ts, hts, _, _⟩ := b.emission_of_lines (h b List.mem_cons_self) s
    rw [blocksEmissionAfter, blocksEmissionAfter, spaced, hts]
    simp only [Emission.ofTokens_andThen, Emission.tokens_ofTokens, List.append_nil]
    rfl
  | cons c later ih =>
    obtain ⟨hb, hlater⟩ := List.forall_mem_cons.1 h
    obtain ⟨ts, hts, _, _⟩ := b.emission_of_lines hb s
    rw [blocksEmissionAfter, ih hlater, spaced, hts, blockGap_some]
    simp only [Emission.ofTokens_andThen, Emission.tokens_ofTokens, List.append_assoc]
    rfl

/-- Blocks with lines hand over their own tokens and the separators between them. -/
theorem blocksEmission_eq_spaced {bs : List Block} (h : ∀ b ∈ bs, b.lines ≠ []) (s : Settings) :
    blocksEmission s bs = .ofTokens (spaced s bs) := by
  cases bs with
  | nil => rfl
  | cons b later => exact blocksEmissionAfter_eq_spaced h s none

/-- A token of a body comes from one of the blocks, or it separates two of them. -/
theorem mem_spaced {s : Settings} {bs : List Block} {t : Token} (h : t ∈ spaced s bs) :
    (∃ b ∈ bs, t ∈ (b.emission s).tokens) ∨ t = .blank := by
  fun_induction spaced s bs with
  | case1 => exact absurd h List.not_mem_nil
  | case2 b => exact .inl ⟨b, List.mem_cons_self, h⟩
  | case3 b c later ih =>
    simp only [List.mem_append] at h
    rcases h with (h | h) | h
    · exact .inl ⟨b, List.mem_cons_self, h⟩
    · rw [separator] at h
      split at h
      · exact absurd h List.not_mem_nil
      · exact .inr (List.mem_singleton.1 h)
    · rcases ih h with ⟨d, hd, ht⟩ | hblank
      · exact .inl ⟨d, List.mem_cons_of_mem _ hd, ht⟩
      · exact .inr hblank

/-! ## Their separation -/

/-- How the tokens of a body are separated. -/
structure Separated (s : Settings) (bs : List Block) (tokens : List Token) : Prop where
  /-- The tokens are those of the blocks, and one blank token between two blocks that are not both
  bullet lists. -/
  tokens_eq : tokens = spaced s bs
  /-- Every block has a token of its own, and no blank one. -/
  own : ∀ b ∈ bs, (b.emission s).tokens ≠ [] ∧ ∀ t ∈ (b.emission s).tokens, t.isBlank = false
  /-- No blank token comes first. -/
  first : ∀ t ∈ tokens.head?, t.isBlank = false
  /-- No blank token comes last. -/
  last : ∀ t ∈ tokens.getLast?, t.isBlank = false
  /-- No two blank tokens are neighbours. -/
  apart : tokens.IsChain Sink.Apart
  /-- No token is broken over two lines. -/
  unbroken : ∀ t ∈ tokens, '\n' ∉ t.text
  /-- The lines without a visible character are those of blank tokens. -/
  visible : ∀ t ∈ tokens, Text.isBlank t.text = t.isBlank

/-- What an empty sink keeps of legible blocks is separated. -/
theorem separated_spaced {s : Settings} {bs : List Block} (hbs : ∀ b ∈ bs, b.Legible)
    (hbody : IsBody true (spaced s bs)) : Separated s bs (spaced s bs) := by
  have hown : ∀ b ∈ bs, (b.emission s).tokens ≠ [] ∧
      ∀ t ∈ (b.emission s).tokens, t.isBlank = false := by
    intro b hb
    obtain ⟨ts, hts, hne, hsolid⟩ := b.emission_of_lines (hbs b hb).lines_ne_nil s
    rw [hts]
    exact ⟨hne, fun t ht => (hsolid t ht).1⟩
  have hkept : Sink.kept true (spaced s bs) = spaced s bs := by
    have hsink := Sink.appendAll_of_keepsAll (s := .empty) hbody.keeps
    rw [Sink.appendAll_eq] at hsink
    exact congrArg Sink.tokens hsink
  refine ⟨rfl, hown, ?_, hbody.last, ?_, ?_, ?_⟩
  · rw [← hkept]
    exact Sink.isBlank_head?_kept _
  · rw [← hkept]
    exact Sink.isChain_kept true _
  · intro t ht
    rcases mem_spaced ht with ⟨b, hb, ht⟩ | rfl
    · exact ((hbs b hb).tokens s t ht).1
    · exact List.not_mem_nil
  · intro t ht
    rcases mem_spaced ht with ⟨b, hb, ht⟩ | rfl
    · rw [((hbs b hb).tokens s t ht).2, (hown b hb).2 t ht]
    · rfl

/-- The blocks of a body are legible. -/
theorem legible_of_bodyBlocks {s : Settings} {lines : List Text} {bs : List Block}
    (h : bodyBlocks s lines = .ok bs) : ∀ b ∈ bs, b.Legible := by
  obtain ⟨bs', rest, hreading⟩ :=
    Scan.exists_reading s.marker false (s.markers.cleanLines lines)
  obtain rfl : bs' = bs := Except.ok.inj (hreading.blocks_eq.symm.trans h)
  apply hreading.legible
  intro line hline hmember text htext
  obtain ⟨raw, _, rfl⟩ := List.mem_map.1 hline
  exact Scan.isBlank_text_of_isMember hmember htext

/-- A body is always read, and an empty sink takes from its blocks their own tokens and one blank
token between two blocks that are not both bullet lists. No other token is blank, and every other
line of the output has a visible character. -/
theorem convertBody_separated (s : Settings) (lines : List Text) :
    ∃ bs out, bodyBlocks s lines = .ok bs ∧ (blocksEmission s bs).error = none ∧
      Separated s bs ((blocksEmission s bs).into .empty).tokens ∧
      convertBody s lines = .ok out ∧
      List.splitOn '\n' out =
        ((blocksEmission s bs).into .empty).tokens.map Token.text ++ [[]] := by
  obtain ⟨bs, ts, hblocks, hemission, hbody, hconvert⟩ := Page.exists_body s lines
  have hlegible := legible_of_bodyBlocks hblocks
  have hspaced : spaced s bs = ts := by
    rw [blocksEmission_eq_spaced (fun b hb => (hlegible b hb).lines_ne_nil) s] at hemission
    exact congrArg Emission.tokens hemission
  have hsink : ((blocksEmission s bs).into .empty).tokens = ts := by
    rw [hemission]
    exact congrArg Sink.tokens (Sink.appendAll_of_keepsAll (s := .empty) hbody.keeps)
  have hseparated : Separated s bs ts := by
    rw [← hspaced] at hbody ⊢
    exact separated_spaced hlegible hbody
  refine ⟨bs, _, hblocks, by rw [hemission]; rfl, by rwa [hsink], hconvert, ?_⟩
  rw [hsink]
  exact Sink.splitOn_value hseparated.unbroken

end Commentary
