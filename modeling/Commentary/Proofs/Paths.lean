import Commentary.Path
import Mathlib.Data.List.Basic

/-!
# Paths and their texts

A path that has been read from a text has names without slashes, none of them empty and none a
single dot. Such a path is read again from its own text, and so are its parent and the paths inside
it.
-/

namespace Commentary

/-- No part between separators holds one. -/
theorem Text.not_mem_of_mem_splitOn {sep : Char} {t part : Text} (h : part ∈ List.splitOn sep t) :
    sep ∉ part := by
  induction t generalizing part with
  | nil =>
    rw [List.splitOn_nil, List.mem_singleton] at h
    rw [h]
    exact List.not_mem_nil
  | cons c t ih =>
    rw [List.splitOn_cons_eq_if_modifyHead] at h
    split at h
    · rcases List.mem_cons.1 h with rfl | h
      · exact List.not_mem_nil
      · exact ih h
    · next hc =>
      obtain ⟨first, parts, hparts⟩ := List.exists_cons_of_ne_nil (List.splitOn_ne_nil sep t)
      rw [hparts] at ih
      rw [hparts, List.modifyHead_cons] at h
      rcases List.mem_cons.1 h with rfl | h
      · rw [List.mem_cons, not_or]
        refine ⟨?_, ih List.mem_cons_self⟩
        rintro rfl
        exact hc (beq_self_eq_true _)
      · exact ih (List.mem_cons_of_mem _ h)

namespace Path

/-- A path as it is read from a text. -/
structure IsPlain (p : Path) : Prop where
  root : p.root = [] ∨ p.root = ['/'] ∨ p.root = ['/', '/']
  parts : ∀ part ∈ p.parts, part ≠ [] ∧ part ≠ ['.'] ∧ '/' ∉ part

/-- A path that is read from a text is plain. -/
theorem isPlain_ofText (t : Text) : (ofText t).IsPlain where
  root := by
    simp only [ofText, rootOf]
    split
    · exact .inl rfl
    · exact .inr (.inr rfl)
    · exact .inr (.inl rfl)
  parts := by
    intro part hpart
    obtain ⟨hsplit, hkept⟩ := List.mem_filter.1 hpart
    rw [Bool.and_eq_true, bne_iff_ne, bne_iff_ne] at hkept
    exact ⟨hkept.1, hkept.2, Text.not_mem_of_mem_splitOn hsplit⟩

/-- The parent of a plain path is plain. -/
theorem IsPlain.parent {p : Path} (h : p.IsPlain) : p.parent.IsPlain where
  root := h.root
  parts := fun part hpart => h.parts part ((List.dropLast_sublist _).subset hpart)

/-- The README beside a plain path is plain. -/
theorem IsPlain.readme {p : Path} (h : p.IsPlain) : p.readme.IsPlain where
  root := h.root
  parts := by
    intro part hpart
    rcases List.mem_append.1 hpart with hpart | hpart
    · exact h.parent.parts part hpart
    · rw [List.mem_singleton.1 hpart]
      decide

/-- The first name keeps the slashes in front of it apart from those behind it. -/
theorem rootOf_append {root rest : Text} (hroot : root = [] ∨ root = ['/'] ∨ root = ['/', '/'])
    (hrest : rest.head? ≠ some '/') : rootOf (root ++ rest) = root := by
  have hstop : rest.takeWhile (· == '/') = [] := by
    cases rest with
    | nil => rfl
    | cons c rest =>
      have hc : ¬ (c == '/') = true := by simpa using hrest
      rw [List.takeWhile_cons, if_neg hc]
  rcases hroot with rfl | rfl | rfl <;> simp [rootOf, hstop]

/-- A path is read again from its own text. -/
theorem IsPlain.ofText_toText {p : Path} (h : p.IsPlain) : ofText p.toText = p := by
  obtain ⟨root, parts⟩ := p
  obtain ⟨hroot, hparts⟩ := h
  cases parts with
  | nil => rcases hroot with rfl | rfl | rfl <;> rfl
  | cons part parts =>
    obtain ⟨hne, -, hslash⟩ := hparts part List.mem_cons_self
    have hsplit : List.splitOn '/' (List.intercalate ['/'] (part :: parts)) = part :: parts :=
      List.splitOn_intercalate '/' (fun q hq => (hparts q hq).2.2) (List.cons_ne_nil part parts)
    have hhead : (List.intercalate ['/'] (part :: parts)).head? ≠ some '/' := by
      obtain ⟨c, rest, rfl⟩ := List.exists_cons_of_ne_nil hne
      have hc : c ≠ '/' := fun hc => hslash (hc ▸ List.mem_cons_self)
      cases parts <;> simp [List.intercalate_cons_cons, hc]
    have hkept : (part :: parts).filter (fun q => q != [] && q != ['.']) = part :: parts := by
      refine List.filter_eq_self.2 fun q hq => ?_
      rw [Bool.and_eq_true, bne_iff_ne, bne_iff_ne]
      exact ⟨(hparts q hq).1, (hparts q hq).2.1⟩
    have hnames : (List.splitOn '/' (root ++ List.intercalate ['/'] (part :: parts))).filter
        (fun q => q != [] && q != ['.']) = part :: parts := by
      rw [← hsplit] at hkept
      -- each slash of the root only adds an empty name
      rcases hroot with rfl | rfl | rfl <;> exact hkept.trans hsplit
    rw [toText, if_neg (by simp), ofText, rootOf_append hroot hhead, hnames]

end Path

end Commentary
