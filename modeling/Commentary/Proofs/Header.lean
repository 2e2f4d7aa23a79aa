import Commentary.Metadata
import Commentary.Proofs.LineParts
import Mathlib.Data.List.TakeWhile

/-!
# The header of a document

The title comes from the first line and the declared fields from the lines before the first
Commentary line, so that what follows a Commentary line has no part in the metadata.
-/

namespace Commentary

/-- The current line of a new cursor is the first one. -/
theorem Cursor.peek_start (lines : List Text) : (Cursor.start lines).peek = .ok lines.head? := by
  cases lines with
  | nil => rfl
  | cons line after =>
    have hend : (Cursor.start (line :: after)).atEnd = false := by
      rw [atEnd, decide_eq_false_iff_not]
      simp only [start, make, Option.elim, List.length_cons]
      omega
    have hposition : (Cursor.start (line :: after)).position = 0 := by
      simp only [start, make, Option.elim, List.length_cons]
      omega
    have hplace : placeOf (line :: after).length 0 = .ok 0 :=
      placeOf_of_nonneg (Int.le_refl 0) (by rw [List.length_cons]; omega)
    have hlines : (start (line :: after)).lines = line :: after := rfl
    rw [Cursor.peek, hend, hposition, Cursor.line, hlines, hplace]
    rfl

namespace Metadata

variable {s : Settings} {m : Char} {before : List Text}

/-- Markers and a space in front of a text can be told from it, unless the marker is a space and the
text goes on with one. -/
theorem afterMarkersAndSpace?_eq_some_iff {line rest : Text} :
    afterMarkersAndSpace? m line = some rest ↔
      (∃ k, 1 ≤ k ∧ line = List.replicate k m ++ ' ' :: rest) ∧
        (m = ' ' → ∀ c ∈ rest.head?, c ≠ ' ') := by
  by_cases hm : m = ' '
  · subst hm
    have hlast (k : Nat) (t : Text) :
        List.replicate k ' ' ++ ' ' :: t = List.replicate (k + 1) ' ' ++ t := by
      rw [List.replicate_succ', List.append_assoc, List.singleton_append]
    simp only [afterMarkersAndSpace?, beq_self_eq_true, ite_true, hlast, forall_const]
    constructor
    · intro h
      split at h
      · next hrun =>
        obtain rfl := Option.some.inj h
        refine ⟨⟨Line.markerRun ' ' line - 1, by omega, ?_⟩, Line.head?_afterMarkers ' ' line⟩
        rw [Nat.sub_add_cancel (by omega)]
        exact Line.eq_replicate_append ' ' line
      · simp at h
    · rintro ⟨⟨k, hk, rfl⟩, hstops⟩
      rw [Line.markerRun_replicate hstops, Line.afterMarkers_replicate hstops, if_pos (by omega)]
  · have hspace : ¬ (m == ' ') = true := by simpa using hm
    rw [afterMarkersAndSpace?, if_neg hspace]
    constructor
    · intro h
      split at h
      · next hrun =>
        refine ⟨⟨Line.markerRun m line, hrun, ?_⟩, fun hspace => absurd hspace hm⟩
        have hafter : Line.afterMarkers m line = ' ' :: rest :=
          (List.append_eq_of_isPrefixOf?_eq_some h).symm
        rw [← hafter]
        exact Line.eq_replicate_append m line
      · simp at h
    · rintro ⟨⟨k, hk, rfl⟩, -⟩
      have hstops : ∀ c ∈ (' ' :: rest).head?, c ≠ m := by
        rintro _ ⟨⟩
        exact Ne.symm hm
      rw [Line.markerRun_replicate hstops, Line.afterMarkers_replicate hstops, if_pos hk]
      exact List.isPrefixOf?_eq_some_iff_append_eq.2 rfl

/-- The metadata of a document can always be read, and the title comes from its first line. -/
theorem read_eq_ofDocument (s : Settings) (doc : Document) :
    (read s doc).map Prod.fst = .ok (ofDocument s doc) := by
  rw [read, readTitle, Cursor.peek_start, ofDocument]
  simp only [Except.map]
  cases doc.lines.head?.bind (titleLine? s) <;> rfl

/-- A document has a header if it has a Commentary line. -/
theorem hasCommentary_ofDocument (s : Settings) (doc : Document) :
    (ofDocument s doc).hasCommentary = (commentaryIndex? s.marker doc.lines).isSome := by
  rw [ofDocument, readFields]
  cases commentaryIndex? s.marker doc.lines with
  | none => cases doc.lines.head?.bind (titleLine? s) <;> rfl
  | some i => rfl

/-- Where a Commentary line comes before, its index does not depend on what comes after. -/
theorem commentaryIndex?_append (h : ∃ line ∈ before, Line.opens m .commentary line = true)
    (after : List Text) :
    ∃ i, i < before.length ∧ commentaryIndex? m (before ++ after) = some i ∧
      commentaryIndex? m before = some i := by
  have hsome : (before.findIdx? (Line.opens m .commentary)).isSome := by
    rw [List.findIdx?_isSome, List.any_eq_true]
    exact h
  obtain ⟨i, hi⟩ := Option.isSome_iff_exists.1 hsome
  have hlt := (List.findIdx?_eq_some_iff_findIdx_eq.1 hi).1
  refine ⟨i, hlt, ?_, hi⟩
  rw [commentaryIndex?, List.findIdx?_append, hi]
  rfl

/-- What follows a Commentary line has no part in the metadata. -/
theorem ofDocument_append (h : ∃ line ∈ before, Line.opens s.marker .commentary line = true)
    (after : List Text) (name : Option Text) :
    ofDocument s ⟨before ++ after, name⟩ = ofDocument s ⟨before, name⟩ := by
  obtain ⟨i, hlt, happend, hbefore⟩ := commentaryIndex?_append h after
  have hhead : (before ++ after).head? = before.head? := by
    obtain ⟨line, hline, _⟩ := h
    cases before with
    | nil => exact absurd hline List.not_mem_nil
    | cons => rfl
  have htake : (before ++ after).take i = before.take i :=
    List.take_append_of_le_length (Nat.le_of_lt hlt)
  rw [ofDocument, ofDocument, hhead, readFields, readFields, happend, hbefore]
  simp only [htake]

end Metadata

end Commentary
