import Commentary.Inline
import Mathlib.Data.List.Forall2
import Mathlib.Data.List.Infix

/-!
# Which names are keys

A chord is told by its first three characters, and a symbol behind a lone super modifier by the
longest word that follows it. So a name that is not recognized is a key exactly if it starts with a
chord and is no such symbol, and to recognize more names can only turn code into keys.
-/

namespace Commentary

/-- `part` is the longest beginning of `t` whose characters all satisfy `p`. -/
structure Text.IsLongestStart (p : Char → Bool) (part t : Text) : Prop where
  starts : part <+: t
  all : ∀ c ∈ part, p c = true
  longest : ∀ other : Text, other <+: t → (∀ c ∈ other, p c = true) → other.length ≤ part.length

/-- The characters up to the first one without `p` are the longest start with `p`. -/
theorem Text.isLongestStart_takeWhile (p : Char → Bool) (t : Text) :
    IsLongestStart p (t.takeWhile p) t where
  starts := List.takeWhile_prefix p
  all := List.all_eq_true.1 List.all_takeWhile
  longest := by
    rintro other ⟨rest, rfl⟩ hall
    rw [List.takeWhile_append_of_pos hall, List.length_append]
    exact Nat.le_add_right ..

/-- The longest start with `p` is unique and can be computed. -/
theorem Text.isLongestStart_iff {p : Char → Bool} {part t : Text} :
    IsLongestStart p part t ↔ part = t.takeWhile p := by
  refine ⟨fun h => ?_, fun h => h ▸ isLongestStart_takeWhile p t⟩
  have htake := isLongestStart_takeWhile p t
  have hlength : part.length = (t.takeWhile p).length :=
    Nat.le_antisymm (htake.longest part h.starts h.all) (h.longest _ htake.starts htake.all)
  exact (List.prefix_of_prefix_length_le h.starts htake.starts hlength.le).eq_of_length hlength

namespace Key

variable {known known' : List Text} {name t : Text} {m : Char}

/-! ## Chords -/

/-- A modifier is not blank. -/
theorem isSpace_of_mem_modifiers (h : m ∈ modifiers) : Text.isSpace m = false := by
  have hall : modifiers.all (!Text.isSpace ·) = true := by decide
  simpa using List.all_eq_true.1 hall m h

/-- One more modifier in front counts once. -/
theorem modifierCount_cons (h : m ∈ modifiers) (t : Text) :
    modifierCount (m :: '-' :: t) = modifierCount t + 1 := by
  rw [modifierCount, if_pos (by simpa [isModifier] using h)]

/-- A name with modifiers starts with one. -/
theorem exists_of_modifierCount_ne_zero (h : modifierCount name ≠ 0) :
    ∃ m t, name = m :: '-' :: t ∧ m ∈ modifiers := by
  fun_cases modifierCount name with
  | case1 m t hm => exact ⟨m, t, rfl, by simpa [isModifier] using hm⟩
  | case2 m t hm => exact absurd (by rw [modifierCount, if_neg hm]) h
  | case3 name hshort => exact absurd (by rw [modifierCount]; exact hshort) h

/-- Behind one modifier anything but a blank makes a chord: a further modifier can be given back as
the key, since it is no blank either. -/
theorem isChord_cons (h : m ∈ modifiers) (t : Text) :
    isChord (m :: '-' :: t) = t.head?.any (!Text.isSpace ·) := by
  rw [isChord, chordLength?, modifierCount_cons h]
  cases hcount : modifierCount t with
  | zero =>
    simp only [Nat.zero_add, Nat.mul_one, List.getElem?_cons_succ, ← List.head?_eq_getElem?]
    cases t.head?.any (!Text.isSpace ·) <;> rfl
  | succ n =>
    have hmore : modifierCount t ≠ 0 := by
      rw [hcount]
      exact n.succ_ne_zero
    obtain ⟨k, t', rfl, hk⟩ := exists_of_modifierCount_ne_zero hmore
    have hkey : (k :: '-' :: t').head?.any (!Text.isSpace ·) = true := by
      simp [isSpace_of_mem_modifiers hk]
    rw [hkey, if_neg (by simp), if_neg (by simp : ¬ (n + 1 + 1 == 1) = true)]
    split <;> rfl

/-- A chord starts with a modifier, a dash and a character that is not blank. -/
theorem isChord_iff : isChord name = true ↔
    ∃ m k rest, name = m :: '-' :: k :: rest ∧ m ∈ modifiers ∧ Text.isSpace k = false := by
  constructor
  · intro h
    have hcount : modifierCount name ≠ 0 := by
      intro hzero
      simp [isChord, chordLength?, hzero] at h
    obtain ⟨m, t, rfl, hm⟩ := exists_of_modifierCount_ne_zero hcount
    rw [isChord_cons hm] at h
    cases t with
    | nil => exact absurd h (by simp)
    | cons k rest => exact ⟨m, k, rest, rfl, hm, by simpa using h⟩
  · rintro ⟨m, k, rest, rfl, hm, hk⟩
    rw [isChord_cons hm]
    simp [hk]

/-! ## Symbols behind a super modifier -/

/-- The word behind a lone super modifier that makes a name a symbol. -/
def IsSuperWord (word rest : Text) : Prop :=
  Text.IsLongestStart isWordChar word rest ∧ 2 ≤ word.length ∧ word.head? ≠ some '<'

/-- The word that is read behind a super modifier is the one that makes the name a symbol. -/
theorem superWord?_eq_some_iff {word rest : Text} :
    superWord? ('s' :: '-' :: rest) = some word ↔ IsSuperWord word rest := by
  rw [IsSuperWord, Text.isLongestStart_iff]
  simp only [superWord?, Bool.or_eq_true, decide_eq_true_eq, beq_iff_eq]
  split
  · next h =>
    refine iff_of_false (by simp) ?_
    rintro ⟨rfl, hlength, hhead⟩
    rcases h with h | h
    · omega
    · exact hhead h
  · next h =>
    rw [not_or, Nat.not_lt] at h
    rw [Option.some_inj]
    refine ⟨?_, fun h => h.1.symm⟩
    rintro rfl
    exact ⟨rfl, h⟩

/-- No other modifier makes a name a symbol. -/
theorem superWord?_of_ne (h : m ≠ 's') (rest : Text) : superWord? (m :: rest) = none := by
  rw [superWord?]
  intro rest' hname
  exact h (List.head_eq_of_cons_eq hname)

/-- What makes a name a key: it is recognized, or it is a chord and no symbol. -/
theorem isKey_iff : isKey known name = true ↔ name ∈ known ∨
    ∃ m k rest, name = m :: '-' :: k :: rest ∧ m ∈ modifiers ∧ Text.isSpace k = false ∧
      ¬ (m = 's' ∧ ∃ word, IsSuperWord word (k :: rest) ∧ word ∉ known) := by
  rw [isKey, Bool.or_eq_true, List.contains_iff_mem]
  apply or_congr_right
  constructor
  · intro h
    have hchord : isChord name = true := by
      revert h
      split
      · exact fun h => (Bool.and_eq_true_iff.1 h).2
      · exact id
    obtain ⟨m, k, rest, rfl, hm, hk⟩ := isChord_iff.1 hchord
    refine ⟨m, k, rest, rfl, hm, hk, ?_⟩
    rintro ⟨rfl, word, hword, hnew⟩
    rw [superWord?_eq_some_iff.2 hword] at h
    exact hnew (List.contains_iff_mem.1 (Bool.and_eq_true_iff.1 h).1)
  · rintro ⟨m, k, rest, rfl, hm, hk, hsymbol⟩
    have hchord : isChord (m :: '-' :: k :: rest) = true := isChord_iff.2 ⟨m, k, rest, rfl, hm, hk⟩
    by_cases hs : m = 's'
    · subst hs
      cases hsuper : superWord? ('s' :: '-' :: k :: rest) with
      | none => exact hchord
      | some word =>
        have hword : word ∈ known := by
          by_contra hnew
          exact hsymbol ⟨rfl, word, superWord?_eq_some_iff.1 hsuper, hnew⟩
        simpa [hword] using hchord
    · rw [superWord?_of_ne hs]
      exact hchord

/-- A recognized word behind a super modifier makes a key, so no key is lost among more names. -/
theorem isKey_mono (hsub : known ⊆ known') (h : isKey known name = true) :
    isKey known' name = true := by
  rw [isKey_iff] at h ⊢
  rcases h with hmem | ⟨m, k, rest, rfl, hm, hk, hsymbol⟩
  · exact .inl (hsub hmem)
  · refine .inr ⟨m, k, rest, rfl, hm, hk, ?_⟩
    rintro ⟨hs, word, hword, hnew⟩
    exact hsymbol ⟨hs, word, hword, fun hmem => hnew (hsub hmem)⟩

end Key

namespace Inline

/-- The same piece of a line, which may have turned from code into a key. -/
def Span.Promotes (a b : Span) : Prop :=
  a.content = b.content ∧ (a.kind = b.kind ∨ a.kind = .code ∧ b.kind = .key)

/-- A piece of a line may stay what it is. -/
theorem Span.Promotes.refl (a : Span) : a.Promotes a := ⟨rfl, .inl rfl⟩

section More

variable {s : Settings} {known : List Text} (h : s.keyNames ⊆ known)
include h

/-- More names of keys can only turn a quoted name from code into a key. -/
theorem promotes_nameSpan (name : Text) :
    (nameSpan s name).Promotes (nameSpan { s with keyNames := known } name) := by
  refine ⟨rfl, ?_⟩
  simp only [nameSpan]
  cases hkey : Key.isKey s.keyNames name with
  | true => exact .inl (by rw [Key.isKey_mono h hkey])
  | false =>
    cases hnew : Key.isKey known name with
    | true => exact .inr ⟨rfl, rfl⟩
    | false => exact .inl rfl

/-- Where spans are cut does not depend on the names that are recognized. -/
theorem promotes_spansFrom (plain : Text) (opened : Option Text) (t : Text) :
    List.Forall₂ Span.Promotes (spansFrom s plain opened t)
      (spansFrom { s with keyNames := known } plain opened t) := by
  have hplain (u : Text) : List.Forall₂ Span.Promotes (plainSpans u) (plainSpans u) :=
    List.forall₂_same.2 fun a _ => .refl a
  induction t generalizing plain opened with
  | nil => exact hplain _
  | cons c t ih =>
    cases opened with
    | none =>
      simp only [spansFrom]
      split <;> exact ih ..
    | some name =>
      simp only [spansFrom]
      split
      · exact List.rel_append (hplain plain) (.cons (promotes_nameSpan h name) (ih ..))
      · split
        · exact ih ..
        · split <;> exact ih ..

end More

/-- A name is a key if it is recognized, or if it has a modifier, a dash and a character that is not
blank in front and is no symbol: a super modifier before a word of two characters or more that is
neither a `<…>` key nor recognized. With more recognized names a line is cut into the same spans,
and the only change is from code to keys. -/
theorem isKey_iff_monotone :
    (∀ (known : List Text) (name : Text), Key.isKey known name = true ↔ name ∈ known ∨
      ∃ m k rest, name = m :: '-' :: k :: rest ∧ m ∈ ['C', 'M', 'S', 's', 'H', 'A'] ∧
        Text.isSpace k = false ∧
        ¬ (m = 's' ∧ ∃ word,
          Text.IsLongestStart (fun c => !Text.isSpace c && c != '-') word (k :: rest) ∧
          2 ≤ word.length ∧ word.head? ≠ some '<' ∧ word ∉ known)) ∧
    ∀ (s : Settings) (known : List Text), s.keyNames ⊆ known → ∀ t : Text,
      List.Forall₂ Span.Promotes (spans s t) (spans { s with keyNames := known } t) := by
  refine ⟨fun known name => ?_, fun s known hsub t => promotes_spansFrom hsub [] none t⟩
  rw [Key.isKey_iff]
  simp only [Key.IsSuperWord, and_assoc]
  rfl

/-- A symbol behind a super modifier turns into a key once its word is recognized. -/
theorem isKey_iff_monotone_symbol :
    let s : Settings := { keyNames := ["RET".toList] }
    let known := ["join".toList, "RET".toList]
    let t := "`s-join' or `RET'".toList
    s.keyNames ⊆ known ∧
    spans s t = [⟨.code, "s-join".toList⟩, ⟨.text, " or ".toList⟩, ⟨.key, "RET".toList⟩] ∧
    spans { s with keyNames := known } t =
      [⟨.key, "s-join".toList⟩, ⟨.text, " or ".toList⟩, ⟨.key, "RET".toList⟩] ∧
    List.Forall₂ Span.Promotes (spans s t) (spans { s with keyNames := known } t) := by
  intro s known t
  have hsub : s.keyNames ⊆ known := List.subset_cons_self ..
  exact ⟨hsub, by decide, by decide, isKey_iff_monotone.2 s known hsub t⟩

end Inline

end Commentary
