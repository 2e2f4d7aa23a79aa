import Commentary.Emission
import Mathlib.Data.List.Basic
import Mathlib.Data.List.DropRight
import Mathlib.Data.List.TakeWhile

/-!
# Blank characters

Trimming and dedenting drop blank characters only, so a text that has a visible character keeps it,
and a trimmed text that is not empty ends in one.
-/

namespace Commentary.Text

/-- No visible character is a blank one. -/
theorem ne_of_isSpace {c d : Char} (hc : isSpace c = false) (hd : isSpace d = true) : c ≠ d := by
  rintro rfl
  rw [hd] at hc
  exact Bool.noConfusion hc

/-- A text is blank if both its parts are, and only then. -/
theorem isBlank_append (s t : Text) : isBlank (s ++ t) = (isBlank s && isBlank t) :=
  List.all_append

/-- A blank text in front does not change whether a text is blank. -/
theorem isBlank_append_of_blank {s : Text} (h : isBlank s = true) (t : Text) :
    isBlank (s ++ t) = isBlank t := by
  rw [isBlank_append, h, Bool.true_and]

/-- A text with a visible character is not blank. -/
theorem isBlank_eq_false_of_mem {t : Text} {c : Char} (h : c ∈ t) (hc : isSpace c = false) :
    isBlank t = false := by
  rw [isBlank, List.all_eq_false]
  exact ⟨c, h, by simp [hc]⟩

/-- Only blank characters are dropped, so what is left is blank if the whole was. -/
theorem isBlank_dropWhile {p : Char → Bool} (h : ∀ c, p c = true → isSpace c = true) (t : Text) :
    isBlank (t.dropWhile p) = isBlank t := by
  have hfront : isBlank (t.takeWhile p) = true := by
    rw [isBlank, List.all_eq_true]
    exact fun c hc => h c (List.mem_takeWhile_imp hc)
  rw [← isBlank_append_of_blank hfront, List.takeWhile_append_dropWhile]

/-- Trimming in front does not change whether a text is blank. -/
theorem isBlank_trimStart (t : Text) : isBlank (trimStart t) = isBlank t :=
  isBlank_dropWhile (fun _ hc => hc) t

/-- Trimming at the end does not change whether a text is blank. -/
theorem isBlank_trimEnd (t : Text) : isBlank (trimEnd t) = isBlank t := by
  have h := isBlank_trimStart t.reverse
  rw [isBlank, isBlank, List.all_reverse] at h
  rw [trimEnd, dropEndWhile, isBlank, List.all_reverse]
  exact h

/-- Trimming on both sides does not change whether a text is blank. -/
theorem isBlank_trim (t : Text) : isBlank (trim t) = isBlank t := by
  rw [trim, isBlank_trimEnd, isBlank_trimStart]

/-- What is dropped of an indentation is blank. -/
theorem isBlank_drop {t : Text} {n : Nat} (h : n ≤ indent t) : isBlank (t.drop n) = isBlank t := by
  have hfront : isBlank (t.take n) = true := by
    rw [isBlank, List.all_eq_true]
    intro c hc
    have hspace : c ∈ t.takeWhile isBlankSpace := by
      rw [← List.takeWhile_append_dropWhile (p := isBlankSpace) (l := t),
        List.take_append_of_le_length h] at hc
      exact List.mem_of_mem_take hc
    obtain rfl : c = ' ' := by simpa [isBlankSpace] using List.mem_takeWhile_imp hspace
    decide
  rw [← isBlank_append_of_blank hfront, List.take_append_drop]

/-- What is dropped in front leaves the end as it is. -/
theorem getLast?_dropWhile {p : Char → Bool} {t : Text} (h : t.dropWhile p ≠ []) :
    (t.dropWhile p).getLast? = t.getLast? := by
  have hsplit := List.getLast?_append_of_ne_nil (t.takeWhile p) h
  rw [List.takeWhile_append_dropWhile] at hsplit
  exact hsplit.symm

/-! ## Dropping at the end -/

/-- Dropping at the end of a text is the `rdropWhile` of lists, whose lemmas hold for it. -/
theorem dropEndWhile_eq_rdropWhile (p : Char → Bool) (t : Text) :
    dropEndWhile p t = t.rdropWhile p := rfl

/-- What is left of a text stands at its start. -/
theorem prefix_dropEndWhile (p : Char → Bool) (t : Text) : dropEndWhile p t <+: t := by
  rw [dropEndWhile_eq_rdropWhile]
  exact List.rdropWhile_prefix p t

/-- Nothing is left of a text in which every character is to be dropped, and of no other. -/
theorem dropEndWhile_eq_nil_iff {p : Char → Bool} {t : Text} :
    dropEndWhile p t = [] ↔ ∀ c ∈ t, p c = true := by
  rw [dropEndWhile_eq_rdropWhile, List.rdropWhile_eq_nil_iff]

/-- What is left of a text ends in no character that was to be dropped. -/
theorem getLast?_dropEndWhile {p : Char → Bool} {t : Text} :
    ∀ c ∈ (dropEndWhile p t).getLast?, p c = false := by
  intro c hc
  obtain ⟨hne, rfl⟩ := List.mem_getLast?_eq_getLast hc
  exact Bool.eq_false_iff.2 (List.rdropWhile_last_not p t hne)

/-- A text is what is left of it and what was dropped at its end. -/
theorem exists_eq_dropEndWhile_append (p : Char → Bool) (t : Text) :
    ∃ s, s.all p = true ∧ t = dropEndWhile p t ++ s := by
  refine ⟨t.rtakeWhile p, ?_, ?_⟩
  · rw [List.all_eq_true]
    exact fun c hc => List.mem_rtakeWhile_imp hc
  · rw [dropEndWhile_eq_rdropWhile, List.rdropWhile_append_rtakeWhile]

/-- A character stays in its place if it, or one behind it, is not to be dropped. -/
theorem getElem?_dropEndWhile_iff {p : Char → Bool} {t : Text} {i : Nat} {c : Char} :
    (dropEndWhile p t)[i]? = some c ↔ t[i]? = some c ∧ ∃ d ∈ t.drop i, p d = false := by
  obtain ⟨dropped, hdropped, ht⟩ := exists_eq_dropEndWhile_append p t
  have hends := @getLast?_dropEndWhile p t
  generalize dropEndWhile p t = kept at ht hends ⊢
  subst ht
  by_cases hi : i < kept.length
  · rw [List.getElem?_append_left hi, iff_self_and]
    intro _
    have hne : kept.drop i ≠ [] := by simpa using hi
    -- the last character that is kept stands at `i` or behind it
    have hlast : (kept.drop i).getLast hne ∈ kept.getLast? := by
      rw [Option.mem_def, ← List.getLast?_eq_some_getLast hne, List.getLast?_drop,
        if_neg (Nat.not_le.2 hi)]
    refine ⟨_, ?_, hends _ hlast⟩
    rw [List.drop_append_of_le_length (Nat.le_of_lt hi)]
    exact List.mem_append_left _ (List.getLast_mem hne)
  · rw [Nat.not_lt] at hi
    refine iff_of_false (by simp [hi]) ?_
    rintro ⟨-, d, hd, hstays⟩
    rw [List.drop_append, List.drop_eq_nil_of_le hi, List.nil_append] at hd
    have hdrops := List.all_eq_true.1 hdropped d (List.mem_of_mem_drop hd)
    rw [hstays] at hdrops
    exact Bool.noConfusion hdrops

/-- In front of a character that stays nothing is dropped. -/
theorem dropEndWhile_append (p : Char → Bool) (s t : Text) :
    dropEndWhile p (s ++ t) = if t.all p then dropEndWhile p s else s ++ dropEndWhile p t := by
  have hempty : (t.reverse.dropWhile p).isEmpty = t.all p := by
    rw [Bool.eq_iff_iff, List.isEmpty_iff, List.dropWhile_eq_nil_iff, ← List.all_eq_true,
      List.all_reverse]
  rw [dropEndWhile, List.reverse_append, List.dropWhile_append, hempty]
  split
  · rfl
  · rw [List.reverse_append, List.reverse_reverse]
    rfl

/-- The first character stays unless the whole text is dropped. -/
theorem dropEndWhile_cons_of_not_all {p : Char → Bool} {c : Char} {t : Text}
    (h : (c :: t).all p = false) : dropEndWhile p (c :: t) = c :: dropEndWhile p t := by
  rw [← List.singleton_append, dropEndWhile_append]
  split
  · next hall =>
    have hc : p c = false := by
      rw [List.all_cons, hall, Bool.and_true] at h
      exact h
    rw [dropEndWhile_eq_nil_iff.2 (List.all_eq_true.1 hall)]
    simp [dropEndWhile, hc]
  · rfl

/-! ## Trimmed texts -/

/-- A text that does not end in a blank character. -/
def Trimmed (t : Text) : Prop := ∀ c ∈ t.getLast?, isSpace c = false

/-- Trimming at the end leaves a trimmed text. -/
theorem trimmed_trimEnd (t : Text) : Trimmed (trimEnd t) := getLast?_dropEndWhile

/-- The end of a trimmed text is trimmed. -/
theorem Trimmed.of_suffix {s t : Text} (ht : Trimmed t) (h : s <:+ t) : Trimmed s := by
  obtain ⟨front, rfl⟩ := h
  intro c hc
  have hne : s ≠ [] := by
    rintro rfl
    simp at hc
  exact ht c ((List.getLast?_append_of_ne_nil front hne).trans hc)

/-- Trimming leaves a trimmed text as it is. -/
theorem Trimmed.trimEnd_eq {t : Text} (h : Trimmed t) : trimEnd t = t := by
  rw [trimEnd, dropEndWhile_eq_rdropWhile, List.rdropWhile_eq_self_iff]
  intro hne
  exact Bool.eq_false_iff.1 (h _ (List.getLast_mem_getLast? hne))

/-- Blank characters behind a text are trimmed away. -/
theorem trimEnd_append_blank (t : Text) {s : Text} (h : isBlank s = true) :
    trimEnd (t ++ s) = trimEnd t := by
  rw [trimEnd, dropEndWhile_append, ← isBlank, if_pos h]
  rfl

/-- Trimming leaves nothing of a blank text, and something of any other. -/
theorem trimEnd_eq_nil_iff {t : Text} : trimEnd t = [] ↔ isBlank t = true := by
  rw [trimEnd, dropEndWhile_eq_nil_iff, isBlank, List.all_eq_true]

/-- Trimming adds no character. -/
theorem trim_subset (t : Text) : trim t ⊆ t :=
  List.Subset.trans (prefix_dropEndWhile isSpace _).subset (List.dropWhile_suffix isSpace).subset

end Commentary.Text

namespace Commentary

/-- The indentation that lines share is at most that of each line with a visible character. -/
theorem sharedIndent_le {lines : List Text} {t : Text} (h : t ∈ lines)
    (hvisible : Text.isBlank t = false) : sharedIndent lines ≤ Text.indent t := by
  have hmem : Text.indent t ∈ (lines.filter (!Text.isBlank ·)).map Text.indent :=
    List.mem_map_of_mem (List.mem_filter.2 ⟨h, by simp [hvisible]⟩)
  exact List.min?_getD_le_of_mem hmem

end Commentary
