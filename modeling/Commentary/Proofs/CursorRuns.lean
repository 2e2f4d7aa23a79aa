import Commentary.Cursor.Family
import Commentary.Proofs.CursorPlacement
import Mathlib.Order.Bounds.Basic

/-!
# Runs of cursor operations

A cursor that stands where it belongs reads the lines that it has left, so that no operation on it
fails, and it stands where it belongs afterwards. Main statement: along every run of operations on a
growing family of cursors each operation answers as it should, moves at most its own cursor, and
that one never backwards.
-/

namespace Commentary

namespace Cursor

variable {c : Cursor} {p : Text → Bool}

/-! ## Single operations -/

/-- An index within the lines leads to a line. -/
theorem line_eq {index : Int} (hfirst : 0 ≤ index) (hlast : index < c.lines.length) :
    ∃ line, c.lines[index.toNat]? = some line ∧ c.line index = .ok line := by
  have hlt : index.toNat < c.lines.length := by omega
  refine ⟨c.lines[index.toNat], List.getElem?_eq_getElem hlt, ?_⟩
  rw [line, placeOf_of_nonneg hfirst hlast]
  simp only [List.getElem?_eq_getElem hlt, Option.getD_some]

/-- Before the end, the position is the index of a line. -/
theorem Placed.inside (h : c.Placed) (hend : c.atEnd = false) :
    0 ≤ c.position ∧ c.position < c.stop ∧ c.position < c.lines.length := by
  have hstop := h.stop_le
  have hnonneg := h.nonneg
  rw [atEnd, decide_eq_false_iff_not] at hend
  omega

/-- The current line is the first one that is left. -/
theorem Placed.peek_eq (h : c.Placed) : c.peek = .ok c.rest.head? := by
  rw [peek]
  cases hend : c.atEnd with
  | true => rw [h.rest_eq_nil_iff.2 hend]; rfl
  | false =>
    obtain ⟨hfirst, -, hlast⟩ := h.inside hend
    obtain ⟨line, hline, hread⟩ := line_eq hfirst hlast
    rw [h.head?_rest hend, hline, hread]
    rfl

/-- A peek asks about the first line that is left. -/
theorem Placed.peekIs_eq (h : c.Placed) (p : Text → Bool) :
    c.peekIs p = .ok (c.rest.head?.any p) := by
  rw [peekIs, h.peek_eq]
  rfl

/-- There is a current line before the stop only, and it is the one at the position. -/
theorem Placed.head?_rest_iff (h : c.Placed) {t : Text} : c.rest.head? = some t ↔
    c.position < c.stop ∧ 0 ≤ c.position ∧ c.lines[c.position.toNat]? = some t := by
  cases hend : c.atEnd with
  | true =>
    have hnil := h.rest_eq_nil_iff.2 hend
    rw [atEnd, decide_eq_true_iff] at hend
    simp [hnil, Int.not_lt.2 hend]
  | false =>
    obtain ⟨hfirst, hstop, -⟩ := h.inside hend
    rw [h.head?_rest hend]
    simp [hfirst, hstop]

/-- A cursor that advances stays placed. -/
theorem Placed.advance (h : c.Placed) {n : Int} (hn : 0 ≤ n) : (c.advance n).Placed := by
  have hposition := h.position_le
  have hnonneg := h.nonneg
  refine ⟨?_, h.stop_le, ?_⟩ <;> simp only [Cursor.advance] <;> omega

/-- A cursor that advances does not go back. -/
theorem Placed.position_le_advance (h : c.Placed) {n : Int} (hn : 0 ≤ n) :
    c.position ≤ (c.advance n).position := by
  have hposition := h.position_le
  simp only [Cursor.advance]
  omega

/-- A cursor that advances by no line stays where it is. -/
theorem Placed.advance_zero (h : c.Placed) : c.advance 0 = c := by
  have hposition : min (c.position + 0) c.stop = c.position := by
    have := h.position_le
    omega
  rw [Cursor.advance, hposition]

/-- Two advances are one by as many lines as both. -/
theorem advance_advance (c : Cursor) (m n : Nat) : (c.advance m).advance n = c.advance (m + n) := by
  have hposition : min (min (c.position + m) c.stop + n) c.stop =
      min (c.position + (m + n)) c.stop := by omega
  simp only [Cursor.advance, hposition]

/-- One step on, the first line that was left is behind. -/
theorem Placed.rest_advance_one (h : c.Placed) (hend : c.atEnd = false) :
    (c.advance 1).rest = c.rest.tail := by
  obtain ⟨hfirst, hstop, -⟩ := h.inside hend
  have hposition : (c.advance 1).position.toNat = c.position.toNat + 1 := by
    simp only [Cursor.advance]
    omega
  have hremaining : (c.advance 1).remaining = c.remaining - 1 := by
    simp only [remaining, Cursor.advance]
    omega
  have hlines : (c.advance 1).lines = c.lines := rfl
  rw [rest, rest, hlines, hposition, hremaining, ← List.drop_one, List.drop_take, List.drop_one,
    List.tail_drop]

/-- A copy of a placed cursor is the same cursor. -/
theorem Placed.copy_eq (h : c.Placed) : c.copy = c := by
  have hstop : min c.stop c.lines.length = c.stop := by
    have := h.stop_le
    omega
  have hposition : min (max c.position 0) c.stop = c.position := by
    have := h.position_le
    have := h.nonneg
    omega
  rw [copy, make]
  simp only [Option.elim, hstop, hposition]

/-- How many of the lines that are left match before the first one that does not. -/
def matching (c : Cursor) (p : Text → Bool) : Nat := c.rest.findIdx (!p ·)

/-- A cursor whose first line does not match has none to skip and stays where it is. -/
theorem Placed.matching_eq_zero (h : c.Placed) (hfirst : c.rest.head?.any p = false) :
    c.matching p = 0 ∧ c.advance 0 = c := by
  refine ⟨?_, h.advance_zero⟩
  rw [matching]
  cases hrest : c.rest with
  | nil => rfl
  | cons line after =>
    have hline : p line = false := by simpa [hrest] using hfirst
    simp [List.findIdx_cons, hline]

/-- A matching line in front is one step away from the lines behind it. -/
theorem Placed.matching_eq_add_one (h : c.Placed) (hfirst : c.rest.head?.any p = true) :
    c.matching p = (c.advance 1).matching p + 1 := by
  cases hrest : c.rest with
  | nil => simp [hrest] at hfirst
  | cons line after =>
    have hline : p line = true := by simpa [hrest] using hfirst
    have hend : c.atEnd = false := by
      rw [← Bool.not_eq_true, ← h.rest_eq_nil_iff, hrest]
      exact List.cons_ne_nil _ _
    rw [matching, matching, h.rest_advance_one hend, hrest, List.tail_cons, List.findIdx_cons,
      hline]
    rfl

/-- Skipping passes the matching lines in front, if it may make that many steps. -/
theorem Placed.skipAtMost_eq (h : c.Placed) {count : Nat} (hcount : c.matching p ≤ count) :
    skipAtMost p count c = .ok (c.matching p, c.advance (c.matching p)) := by
  induction count generalizing c with
  | zero =>
    rw [skipAtMost, Nat.le_zero.1 hcount]
    exact congrArg (fun d => Except.ok (0, d)) h.advance_zero.symm
  | succ count ih =>
    rw [skipAtMost, h.peekIs_eq]
    cases hfirst : c.rest.head?.any p with
    | false =>
      obtain ⟨hnone, hstays⟩ := h.matching_eq_zero hfirst
      rw [hnone]
      exact congrArg (fun d => Except.ok (0, d)) hstays.symm
    | true =>
      have hstep := h.matching_eq_add_one hfirst
      have hlater := ih (h.advance Int.one_nonneg) (by omega)
      have hmoved : (c.advance 1).advance ((c.advance 1).matching p) =
          c.advance (c.matching p) := by
        rw [hstep, Nat.add_comm]
        exact c.advance_advance 1 _
      simp only [hlater, Except.map, hmoved, ← hstep]

/-- The search goes over the lines from an index on. -/
theorem findAmong_eq (c : Cursor) (p : Text → Bool) {count : Nat} {index : Int}
    (hfirst : 0 ≤ index) (hlast : index + count ≤ c.lines.length) :
    c.findAmong p count index = .ok ((((c.lines.drop index.toNat).take count).findIdx? p).map
      fun k : Nat => index + (k : Int)) := by
  induction count generalizing index with
  | zero => rfl
  | succ count ih =>
    obtain ⟨line, hline, hread⟩ := line_eq (c := c) hfirst (by omega)
    obtain ⟨hlt, hline⟩ := List.getElem?_eq_some_iff.1 hline
    rw [findAmong, hread, List.drop_eq_getElem_cons hlt, hline, List.take_succ_cons,
      List.findIdx?_cons]
    dsimp only
    cases hp : p line with
    | true => simp
    | false =>
      have hnext : (index + 1).toNat = index.toNat + 1 := by omega
      rw [if_neg Bool.false_ne_true, if_neg Bool.false_ne_true, ih (by omega) (by omega), hnext,
        Option.map_map]
      congr 2
      funext k
      simp only [Function.comp_apply]
      omega

/-- The search finds the first matching line that is left. -/
theorem Placed.find?_eq (h : c.Placed) (p : Text → Bool) :
    c.find? p = .ok ((c.rest.findIdx? p).map fun k : Nat => c.position + (k : Int)) := by
  have hposition := h.position_le
  have hstop := h.stop_le
  by_cases hnonneg : 0 ≤ c.position
  · exact c.findAmong_eq p hnonneg (by rw [remaining]; omega)
  · have hnone : c.remaining = 0 := by
      have := h.nonneg
      rw [remaining]
      omega
    rw [find?, rest, hnone]
    rfl

/-! ## Lines by their indices -/

/-- Whether the line at an index satisfies `p`. -/
def HoldsAt (c : Cursor) (p : Text → Bool) (index : Int) : Prop :=
  0 ≤ index ∧ ∃ line, c.lines[index.toNat]? = some line ∧ p line = true

/-- The indices from the position up to the stop whose lines satisfy `p`. -/
def hits (c : Cursor) (p : Text → Bool) : Set Int :=
  {index | c.position ≤ index ∧ index < c.stop ∧ c.HoldsAt p index}

/-- The line at an index from the position on is one of those that are left. -/
theorem Placed.holdsAt_iff (h : c.Placed) {k : Nat} (hk : k < c.rest.length) :
    c.HoldsAt p (c.position + k) ↔ p c.rest[k] = true := by
  have hlength := h.length_rest
  have hnonneg := h.nonneg
  have hindex : (c.position + k).toNat = c.position.toNat + k := by omega
  have hline := getElem?_rest c hk
  rw [List.getElem?_eq_getElem hk] at hline
  rw [HoldsAt, hindex, ← hline]
  simp only [Option.some.injEq, exists_eq_left', and_iff_right_iff_imp]
  omega

/-- Every index up to the stop is a step away from the position. -/
theorem Placed.exists_eq_add (h : c.Placed) {index : Int} (hfirst : c.position ≤ index)
    (hlast : index < c.stop) : ∃ k : Nat, k < c.rest.length ∧ index = c.position + k := by
  have hlength := h.length_rest
  exact ⟨(index - c.position).toNat, by omega, by omega⟩

/-- The lines before the first one that does not match are passed, and no others. -/
theorem Placed.matching_spec (h : c.Placed) (p : Text → Bool) :
    c.position + c.matching p ≤ c.stop ∧
      (∀ index, c.position ≤ index → index < c.position + c.matching p → c.HoldsAt p index) ∧
      (c.position + c.matching p = c.stop ∨ ¬ c.HoldsAt p (c.position + c.matching p)) := by
  have hlength := h.length_rest
  have hle : c.matching p ≤ c.rest.length := List.findIdx_le_length
  refine ⟨by omega, ?_, ?_⟩
  · intro index hfirst hlast
    obtain ⟨k, hk, rfl⟩ := h.exists_eq_add hfirst (by omega)
    have hmatches := List.not_of_lt_findIdx (show k < c.rest.findIdx (!p ·) by
      rw [matching] at hlast
      omega)
    rw [h.holdsAt_iff hk]
    simpa using hmatches
  · rcases Nat.lt_or_eq_of_le hle with hlt | heq
    · right
      have hstops : (!p c.rest[c.matching p]) = true :=
        @List.findIdx_getElem Text (!p ·) c.rest hlt
      rw [h.holdsAt_iff hlt]
      simpa using hstops
    · left
      omega

/-- What the search finds is the least hit. -/
theorem Placed.findIdx?_spec (h : c.Placed) (p : Text → Bool) :
    (∀ k : Nat, c.rest.findIdx? p = some k → IsLeast (c.hits p) (c.position + k)) ∧
      (c.rest.findIdx? p = none → c.hits p = ∅) := by
  have hlength := h.length_rest
  constructor
  · intro k hk
    obtain ⟨hlt, hmatches, hbefore⟩ := List.findIdx?_eq_some_iff_getElem.1 hk
    refine ⟨⟨by omega, by omega, (h.holdsAt_iff hlt).2 hmatches⟩, ?_⟩
    rintro index ⟨hfirst, hlast, hholds⟩
    obtain ⟨j, hj, rfl⟩ := h.exists_eq_add hfirst hlast
    by_contra hless
    exact hbefore j (by omega) ((h.holdsAt_iff hj).1 hholds)
  · intro hnone
    rw [List.findIdx?_eq_none_iff] at hnone
    rw [Set.eq_empty_iff_forall_notMem]
    rintro index ⟨hfirst, hlast, hholds⟩
    obtain ⟨k, hk, rfl⟩ := h.exists_eq_add hfirst hlast
    rw [h.holdsAt_iff hk, hnone _ (List.getElem_mem hk)] at hholds
    exact Bool.noConfusion hholds

end Cursor

/-! ## What an operation leads to -/

namespace CursorOp

/-- How many cursors an operation adds. -/
def additions : CursorOp → Nat
  | .copy | .bounded _ => 1
  | _ => 0

/-- An operation that is not told to move backwards. -/
def IsForward : CursorOp → Prop
  | .advance n => 0 ≤ n
  | _ => True

/-- What an operation on `c` answers, and where it leaves the cursor and puts an added one. -/
def Answers (c : Cursor) (e : CursorEffect) : CursorOp → Prop
  | .advance n => e.reply = .nothing ∧ e.cursor.position = min (c.position + n) c.stop
  | .peek => e.cursor = c ∧ ∃ line, e.reply = .line line ∧ (line = none ↔ c.atEnd = true) ∧
      ∀ t ∈ line, 0 ≤ c.position ∧ c.lines[c.position.toNat]? = some t
  | .atEnd => e.cursor = c ∧ e.reply = .truth (decide (c.stop ≤ c.position))
  | .describe => e.cursor = c ∧ e.reply = .words c.describe
  | .peekIs p => e.cursor = c ∧
      ∃ b, e.reply = .truth b ∧ (b = true ↔ c.position < c.stop ∧ c.HoldsAt p c.position)
  | .skipWhile p => ∃ n : Nat, e.reply = .count n ∧ e.cursor.position = c.position + n ∧
      (∀ index, c.position ≤ index → index < e.cursor.position → c.HoldsAt p index) ∧
      (e.cursor.position = c.stop ∨ ¬ c.HoldsAt p e.cursor.position) ∧
      -- the skipping is over after `n` steps, however many it may make
      ∀ count, n ≤ count → Cursor.skipAtMost p count c = .ok (n, e.cursor)
  | .find p => e.cursor = c ∧ ∃ found, e.reply = .index found ∧
      (∀ index ∈ found, IsLeast (c.hits p) index) ∧ (found = none → c.hits p = ∅)
  | .copy => e.cursor = c ∧ e.reply = .nothing ∧
      ∃ d ∈ e.added, d.position = c.position ∧ d.stop = c.stop
  | .bounded stop => e.cursor = c ∧ e.reply = .nothing ∧
      ∃ d ∈ e.added, d.stop = min stop c.lines.length ∧ d.position = min (max c.position 0) d.stop

/-- An operation on `c` that has led to `e` as it should. -/
structure LeadsTo (c : Cursor) (op : CursorOp) (e : CursorEffect) : Prop where
  /-- The cursor reads the same lines. -/
  lines_eq : e.cursor.lines = c.lines
  /-- The cursor stops where it did. -/
  stop_eq : e.cursor.stop = c.stop
  /-- The cursor has not moved backwards. -/
  position_le : c.position ≤ e.cursor.position
  /-- The cursor stands where it belongs. -/
  placed : e.cursor.Placed
  /-- A cursor is added if the operation says so. -/
  length_added : e.added.toList.length = op.additions
  /-- An added cursor reads the same lines and stands where it belongs. -/
  placed_added : ∀ d ∈ e.added, d.lines = c.lines ∧ d.Placed
  /-- The answer is the right one. -/
  answers : op.Answers c e

variable {c : Cursor} {op : CursorOp}

/-- An operation that leaves its cursor alone and adds none is known by its answer. -/
theorem LeadsTo.of_look {reply : CursorReply} (h : c.Placed) (hadds : op.additions = 0)
    (hanswers : op.Answers c ⟨reply, c, none⟩) : op.LeadsTo c ⟨reply, c, none⟩ :=
  ⟨rfl, rfl, Int.le_refl _, h, hadds.symm, by simp, hanswers⟩

/-- An operation that adds a cursor is known by that cursor. -/
theorem LeadsTo.of_added {d : Cursor} (h : c.Placed) (hadds : op.additions = 1)
    (hlines : d.lines = c.lines) (hd : d.Placed)
    (hanswers : op.Answers c ⟨.nothing, c, some d⟩) : op.LeadsTo c ⟨.nothing, c, some d⟩ := by
  refine ⟨rfl, rfl, Int.le_refl _, h, hadds.symm, ?_, hanswers⟩
  rintro _ ⟨⟩
  exact ⟨hlines, hd⟩

/-- An operation that moves its cursor forward and adds none is known by its answer. -/
theorem LeadsTo.of_advance {reply : CursorReply} {n : Int} (h : c.Placed) (hn : 0 ≤ n)
    (hadds : op.additions = 0) (hanswers : op.Answers c ⟨reply, c.advance n, none⟩) :
    op.LeadsTo c ⟨reply, c.advance n, none⟩ :=
  ⟨rfl, rfl, h.position_le_advance hn, h.advance hn, hadds.symm, by simp, hanswers⟩

/-- Skipping stops at the first line that does not match, and more steps change nothing. -/
theorem answers_skipWhile (h : c.Placed) (p : Text → Bool) :
    (skipWhile p).Answers c ⟨.count (c.matching p), c.advance (c.matching p), none⟩ := by
  obtain ⟨hstop, hpassed, hends⟩ := h.matching_spec p
  have hposition : (c.advance (c.matching p)).position = c.position + c.matching p :=
    Int.min_eq_left hstop
  refine ⟨_, rfl, hposition, ?_, ?_, fun count hcount => h.skipAtMost_eq hcount⟩
  · rw [hposition]
    exact hpassed
  · rw [hposition]
    exact hends

/-- No operation fails on a cursor that stands where it belongs. -/
theorem exists_leadsTo (h : c.Placed) (hop : op.IsForward) :
    ∃ e, op.apply c = .ok e ∧ op.LeadsTo c e := by
  cases op with
  | advance n => exact ⟨_, rfl, .of_advance h hop rfl ⟨rfl, rfl⟩⟩
  | peek =>
    refine ⟨_, by rw [apply, h.peek_eq]; rfl, .of_look h rfl ⟨rfl, _, rfl, ?_, ?_⟩⟩
    · rw [List.head?_eq_none_iff, h.rest_eq_nil_iff]
    · exact fun t ht => (h.head?_rest_iff.1 ht).2
  | atEnd => exact ⟨_, rfl, .of_look h rfl ⟨rfl, rfl⟩⟩
  | describe => exact ⟨_, rfl, .of_look h rfl ⟨rfl, rfl⟩⟩
  | peekIs p =>
    refine ⟨_, by rw [apply, h.peekIs_eq]; rfl, .of_look h rfl ⟨rfl, _, rfl, ?_⟩⟩
    simp only [Option.any_eq_true, h.head?_rest_iff, Cursor.HoldsAt]
    constructor
    · rintro ⟨line, ⟨hstop, hfirst, hline⟩, hp⟩
      exact ⟨hstop, hfirst, line, hline, hp⟩
    · rintro ⟨hstop, hfirst, line, hline, hp⟩
      exact ⟨line, ⟨hstop, hfirst, hline⟩, hp⟩
  | skipWhile p =>
    have hremaining : c.matching p ≤ c.remaining := by
      have hstop := (h.matching_spec p).1
      rw [Cursor.remaining]
      omega
    refine ⟨_, by rw [apply, Cursor.skipWhile, h.skipAtMost_eq hremaining]; rfl, ?_⟩
    exact .of_advance h (Int.natCast_nonneg _) rfl (answers_skipWhile h p)
  | find p =>
    refine ⟨_, by rw [apply, h.find?_eq]; rfl, .of_look h rfl ⟨rfl, _, rfl, ?_, ?_⟩⟩
    · intro index hindex
      obtain ⟨k, hk, rfl⟩ := Option.map_eq_some_iff.1 hindex
      exact (h.findIdx?_spec p).1 k hk
    · exact fun hnone => (h.findIdx?_spec p).2 (Option.map_eq_none_iff.1 hnone)
  | copy =>
    exact ⟨_, by rw [apply, h.copy_eq], .of_added h rfl rfl h ⟨rfl, rfl, _, rfl, rfl, rfl⟩⟩
  | bounded stop =>
    exact ⟨_, rfl, .of_added h rfl rfl (Cursor.placed_make _ _ _)
      ⟨rfl, rfl, _, rfl, rfl, rfl⟩⟩

end CursorOp

/-! ## Families of cursors -/

namespace CursorFamily

/-- All cursors read the given lines and stand where they belong. -/
def AllPlaced (lines : List Text) (family : CursorFamily) : Prop :=
  ∀ c ∈ family, c.lines = lines ∧ c.Placed

/-- Operations that are not told to move backwards, each on a cursor that is there by then, where
the family starts with `size` cursors. -/
def Admissible : (size : Nat) → List (Int × CursorOp) → Prop
  | _, [] => True
  | size, (number, op) :: later =>
    (-(size : Int) ≤ number ∧ number < size) ∧ op.IsForward ∧
      Admissible (size + op.additions) later

/-- An operation on a family concerns the cursor that its number leads to. Every other cursor stays
as it is, and one that is added comes last. -/
def Steps (family : CursorFamily) (number : Int) (op : CursorOp) (reply : CursorReply)
    (next : CursorFamily) : Prop :=
  ∃ place c e, placeOf family.length number = .ok place ∧ family[place]? = some c ∧
    op.LeadsTo c e ∧ reply = e.reply ∧ next[place]? = some e.cursor ∧
    (∀ i, i ≠ place → i < family.length → next[i]? = family[i]?) ∧
    next.drop family.length = e.added.toList

/-- A run of operations, step by step, with the replies and the families behind them. -/
inductive Proceeds (lines : List Text) :
    CursorFamily → List (Int × CursorOp) → List (CursorReply × CursorFamily) → Prop
  | nil {family : CursorFamily} : family.AllPlaced lines → Proceeds lines family [] []
  | cons {family next : CursorFamily} {number : Int} {op : CursorOp} {reply : CursorReply}
      {later : List (Int × CursorOp)} {steps : List (CursorReply × CursorFamily)} :
      family.AllPlaced lines → family.Steps number op reply next →
      Proceeds lines next later steps →
      Proceeds lines family ((number, op) :: later) ((reply, next) :: steps)

variable {lines : List Text} {family : CursorFamily}

/-- One operation on a family that stands where it belongs. -/
theorem AllPlaced.exists_step (h : family.AllPlaced lines) {number : Int} {op : CursorOp}
    (hnumber : -(family.length : Int) ≤ number ∧ number < family.length) (hop : op.IsForward) :
    ∃ reply next, family.perform number op = .ok (reply, next) ∧
      family.Steps number op reply next ∧ next.AllPlaced lines ∧
      next.length = family.length + op.additions := by
  obtain ⟨place, hlt, hplace⟩ := exists_placeOf hnumber.1 hnumber.2
  have hc := List.getElem?_eq_getElem hlt
  obtain ⟨hlines, hplaced⟩ := h family[place] (List.getElem_mem hlt)
  obtain ⟨e, happly, hleads⟩ := CursorOp.exists_leadsTo hplaced hop
  have hlength : (family.set place e.cursor).length = family.length := List.length_set
  refine ⟨e.reply, family.set place e.cursor ++ e.added.toList, ?_, ?_, ?_, ?_⟩
  · simp only [perform, hplace, hc, happly, Except.map]
  · refine ⟨place, _, e, hplace, hc, hleads, rfl, ?_, ?_, ?_⟩
    · rw [List.getElem?_append_left (by rwa [hlength]), List.getElem?_set_self hlt]
    · intro i hi hlast
      rw [List.getElem?_append_left (by rwa [hlength]), List.getElem?_set_ne hi.symm]
    · rw [← hlength, List.drop_left]
  · intro d hd
    rcases List.mem_append.1 hd with hd | hd
    · rcases List.mem_or_eq_of_mem_set hd with hd | rfl
      · exact h d hd
      · exact ⟨hleads.lines_eq.trans hlines, hleads.placed⟩
    · obtain ⟨hsame, hd⟩ := hleads.placed_added d (Option.mem_toList.1 hd)
      exact ⟨hsame.trans hlines, hd⟩
  · rw [List.length_append, hlength, hleads.length_added]

/-- A run of operations does not fail, and goes on as it should. -/
theorem AllPlaced.exists_proceeds (h : family.AllPlaced lines) {ops : List (Int × CursorOp)}
    (hops : Admissible family.length ops) :
    ∃ steps, family.performAll ops = .ok steps ∧ Proceeds lines family ops steps := by
  induction ops generalizing family with
  | nil => exact ⟨[], rfl, .nil h⟩
  | cons first later ih =>
    obtain ⟨number, op⟩ := first
    obtain ⟨hnumber, hop, hlater⟩ := hops
    obtain ⟨reply, next, hperform, hsteps, hnext, hlength⟩ := h.exists_step hnumber hop
    obtain ⟨steps, hrun, hproceeds⟩ := ih hnext (hlength ▸ hlater)
    refine ⟨(reply, next) :: steps, ?_, .cons h hsteps hproceeds⟩
    simp only [performAll, hperform, hrun, Except.map]

/-- Whatever position and stop the first cursor is asked for, no run of operations on it and on the
cursors that are added fails. All cursors stand where they belong throughout, each operation answers
as it should, and it moves its own cursor at most, and never backwards. -/
theorem performAll_proceeds (lines : List Text) (position : Int) (stop : Option Int)
    (ops : List (Int × CursorOp)) (hops : Admissible 1 ops) :
    ∃ steps, performAll [Cursor.make lines position stop] ops = .ok steps ∧
      Proceeds lines [Cursor.make lines position stop] ops steps := by
  have h : AllPlaced lines [Cursor.make lines position stop] := by
    intro c hc
    rw [List.mem_singleton.1 hc]
    exact ⟨rfl, Cursor.placed_make lines position stop⟩
  exact h.exists_proceeds hops

/-- A cursor that stops before the first line, and one made of it that stops behind the last. -/
theorem performAll_proceeds_widened :
    let lines := ["a".toList, "b".toList, ";".toList]
    let first := Cursor.make lines (-2) (some (-1))
    let isMark : Text → Bool := (· == ";".toList)
    let ops : List (Int × CursorOp) := [(0, .bounded 7), (1, .skipWhile (!isMark ·)), (-1, .copy),
      (1, .advance 4), (0, .find isMark), (2, .find isMark)]
    first.position = -1 ∧ Admissible 1 ops ∧
      ∃ steps, performAll [first] ops = .ok steps ∧ Proceeds lines [first] ops steps ∧
        steps.map Prod.fst =
          [.nothing, .count 2, .nothing, .nothing, .index none, .index (some 2)] := by
  intro lines first isMark ops
  have hops : Admissible 1 ops :=
    ⟨by decide, trivial, by decide, trivial, by decide, trivial, by decide, Int.natCast_nonneg 4,
      by decide, trivial, by decide, trivial, trivial⟩
  obtain ⟨steps, hrun, hproceeds⟩ := performAll_proceeds lines (-2) (some (-1)) ops hops
  have hreplies : (performAll [first] ops).map (List.map Prod.fst) =
      .ok [.nothing, .count 2, .nothing, .nothing, .index none, .index (some 2)] := by rfl
  rw [hrun] at hreplies
  exact ⟨by decide, hops, steps, hrun, hproceeds, Except.ok.inj hreplies⟩

end CursorFamily

end Commentary
