import Commentary.Cursor

/-!
# Where a cursor stands

A cursor stands neither behind its stop nor before the first line, unless the stop itself lies
there, and its stop lies within the lines. The lines that a cursor has left are then the lines from
its position up to its stop.
-/

namespace Commentary.Cursor

/-- A cursor whose position and stop lie where they belong. -/
structure Placed (c : Cursor) : Prop where
  /-- The position does not lie behind the stop. -/
  position_le : c.position ≤ c.stop
  /-- The stop does not lie behind the lines. -/
  stop_le : c.stop ≤ c.lines.length
  /-- The position lies before the first line only together with the stop. -/
  nonneg : 0 ≤ c.position ∨ c.position = c.stop

/-- A new cursor stands where it belongs, whatever position and stop are asked for. -/
theorem placed_make (lines : List Text) (position : Int) (stop : Option Int) :
    (make lines position stop).Placed := by
  refine ⟨position_make_le lines position stop, stop_make_le lines position stop, ?_⟩
  cases stop <;> simp only [make, Option.elim] <;> omega

variable {c : Cursor}

/-- As many lines are left as lie between the position and the stop. -/
theorem Placed.length_rest (h : c.Placed) : (c.rest.length : Int) = c.stop - c.position := by
  have hpos := h.position_le
  have hstop := h.stop_le
  have hnonneg := h.nonneg
  simp only [rest, remaining, List.length_take, List.length_drop]
  omega

/-- The lines that are left, by their indices. -/
theorem getElem?_rest (c : Cursor) {k : Nat} (hk : k < c.rest.length) :
    c.rest[k]? = c.lines[c.position.toNat + k]? := by
  have hlt : k < c.remaining := by
    simp only [rest, List.length_take] at hk
    omega
  simp only [rest, List.getElem?_take, hlt, ite_true, List.getElem?_drop]

/-- At the end, and only there, no line is left. -/
theorem Placed.rest_eq_nil_iff (h : c.Placed) : c.rest = [] ↔ c.atEnd = true := by
  have hlength := h.length_rest
  have hpos := h.position_le
  rw [← List.length_eq_zero_iff, atEnd, decide_eq_true_iff]
  omega

/-- Before the end, the first line that is left is the one at the position. -/
theorem Placed.head?_rest (h : c.Placed) (hend : c.atEnd = false) :
    c.rest.head? = c.lines[c.position.toNat]? := by
  have hne : c.rest ≠ [] := by
    rw [Ne, h.rest_eq_nil_iff, hend]
    exact Bool.false_ne_true
  rw [List.head?_eq_getElem?, getElem?_rest c (List.length_pos_iff.2 hne), Nat.add_zero]

end Commentary.Cursor
