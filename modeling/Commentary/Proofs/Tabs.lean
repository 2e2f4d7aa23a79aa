import Commentary.Text.Lines

/-!
# Tab expansion

Tabs are expanded from left to right, and of what stands before a character only the column counts
at which it ends. A text is therefore expanded piece by piece, and what it holds besides tabs stays
in its place.
-/

namespace Commentary.Text

/-- What a character at column `col` is expanded to. -/
def expandChar (col : Nat) (c : Char) : Text :=
  if c == '\t' then List.replicate (tabSpaces col) ' ' else [c]

/-- The column behind a character at column `col`. -/
def nextColumn (col : Nat) (c : Char) : Nat :=
  if c == '\t' then col + tabSpaces col else if c == '\n' || c == '\r' then 0 else col + 1

/-- The column behind a text that starts at column `col`. -/
def columnAfter (col : Nat) (t : Text) : Nat := t.foldl nextColumn col

/-- A tab takes one column at least. -/
theorem tabSpaces_pos (col : Nat) : 0 < tabSpaces col := by
  have := Nat.mod_lt col (y := tabWidth) (by decide)
  rw [tabSpaces]
  omega

/-- Only a tab is expanded. -/
theorem expandChar_of_ne {c : Char} (h : c ≠ '\t') (col : Nat) : expandChar col c = [c] := by
  simp [expandChar, h]

/-- Tabs are expanded character by character, each from the column that the others have reached. -/
theorem expandTabsFrom_cons (col : Nat) (c : Char) (t : Text) :
    expandTabsFrom col (c :: t) = expandChar col c ++ expandTabsFrom (nextColumn col c) t := by
  by_cases htab : c = '\t'
  · simp [expandTabsFrom, expandChar, nextColumn, htab]
  · by_cases hreturn : c = '\n' ∨ c = '\r'
    · simp [expandTabsFrom, expandChar, nextColumn, htab, hreturn]
    · simp [expandTabsFrom, expandChar, nextColumn, htab, hreturn]

/-- The second part of a text is expanded from the column that the first one has reached. -/
theorem expandTabsFrom_append (col : Nat) (s t : Text) : expandTabsFrom col (s ++ t) =
    expandTabsFrom col s ++ expandTabsFrom (columnAfter col s) t := by
  induction s generalizing col with
  | nil => rfl
  | cons c s ih =>
    rw [List.cons_append, expandTabsFrom_cons, expandTabsFrom_cons, ih, List.append_assoc]
    rfl

/-- No tab is left. -/
theorem tab_not_mem_expandTabsFrom (col : Nat) (t : Text) : '\t' ∉ expandTabsFrom col t := by
  induction t generalizing col with
  | nil => exact List.not_mem_nil
  | cons c t ih =>
    rw [expandTabsFrom_cons, List.mem_append, not_or]
    refine ⟨?_, ih _⟩
    by_cases htab : c = '\t'
    · simp [expandChar, htab]
    · simp [expandChar_of_ne htab, Ne.symm htab]

/-- Nothing but spaces comes in. -/
theorem mem_of_mem_expandTabsFrom {t : Text} {c : Char} {col : Nat} (hc : c ≠ ' ')
    (h : c ∈ expandTabsFrom col t) : c ∈ t := by
  induction t generalizing col with
  | nil => exact h
  | cons d t ih =>
    rw [expandTabsFrom_cons, List.mem_append] at h
    rcases h with h | h
    · by_cases htab : d = '\t'
      · rw [expandChar, htab] at h
        exact absurd (List.eq_of_mem_replicate h) hc
      · rw [expandChar_of_ne htab, List.mem_singleton] at h
        exact h ▸ List.mem_cons_self
    · exact List.mem_cons_of_mem d (ih h)

/-- A tab leaves a space behind. -/
theorem space_mem_expandTabsFrom {t : Text} (h : '\t' ∈ t) (col : Nat) :
    ' ' ∈ expandTabsFrom col t := by
  obtain ⟨before, after, rfl⟩ := List.append_of_mem h
  have hspace : ' ' ∈ expandChar (columnAfter col before) '\t' := by
    simp [expandChar, Nat.ne_of_gt (tabSpaces_pos _)]
  rw [expandTabsFrom_append, expandTabsFrom_cons]
  exact List.mem_append_right _ (List.mem_append_left _ hspace)

/-- A last character that is no tab stays the last one. -/
theorem getLast?_expandTabsFrom {t : Text} {c : Char} (h : t.getLast? = some c) (hc : c ≠ '\t')
    (col : Nat) : (expandTabsFrom col t).getLast? = some c := by
  obtain ⟨before, rfl⟩ := List.getLast?_eq_some_iff.1 h
  rw [expandTabsFrom_append, expandTabsFrom_cons, expandChar_of_ne hc]
  exact List.getLast?_concat

/-- Expanding tabs leaves nothing of the empty text only. -/
theorem expandTabsFrom_eq_nil_iff {t : Text} {col : Nat} : expandTabsFrom col t = [] ↔ t = [] := by
  cases t with
  | nil => simp [expandTabsFrom]
  | cons c t =>
    rw [expandTabsFrom_cons]
    by_cases htab : c = '\t'
    · simp [expandChar, htab, Nat.ne_of_gt (tabSpaces_pos col)]
    · simp [expandChar_of_ne htab]

end Commentary.Text
