import Commentary.Text.Control
import Mathlib.Data.List.Basic
import Mathlib.Logic.Basic

/-!
# Texts that are printed as they are

Leaving out control sequences shortens every text that holds one and changes no other text. So a
text is printed as it is exactly if it holds no control sequence.
-/

namespace Commentary.Text

variable {c : Char} {parameters t u out : Text}

/-! ## Control sequences in a text -/

/-- What is behind the bracket of a control sequence: parameters and a letter, and then anything. -/
def EndsControl (t : Text) : Prop :=
  ∃ parameters letter after, t = parameters ++ letter :: after ∧
    (∀ c ∈ parameters, isParameter c = true) ∧ letter.isAlpha = true

/-- Somewhere in `t` stands a control sequence. -/
def HoldsControl (t : Text) : Prop :=
  ∃ before rest, t = before ++ escape :: '[' :: rest ∧ EndsControl rest

/-- A letter is no parameter of a control sequence. -/
theorem isParameter_of_isAlpha (h : c.isAlpha = true) : isParameter c = false := by
  by_contra hparameter
  rw [Bool.not_eq_false, isParameter, Bool.or_eq_true, Bool.or_eq_true, beq_iff_eq,
    beq_iff_eq] at hparameter
  rcases hparameter with (hdigit | rfl) | rfl
  · change (decide ('A'.val ≤ c.val ∧ c.val ≤ 'Z'.val) ||
      decide ('a'.val ≤ c.val) && decide (c.val ≤ 'z'.val)) = true at h
    change (decide ('0'.val ≤ c.val) && decide (c.val ≤ '9'.val)) = true at hdigit
    simp only [Bool.or_eq_true, Bool.and_eq_true, decide_eq_true_eq, UInt32.le_iff_toNat_le]
      at h hdigit
    change 65 ≤ c.toNat ∧ c.toNat ≤ 90 ∨ 97 ≤ c.toNat ∧ c.toNat ≤ 122 at h
    change 48 ≤ c.toNat ∧ c.toNat ≤ 57 at hdigit
    omega
  · exact absurd h (by decide)
  · exact absurd h (by decide)

/-- A control sequence needs a letter to end with. -/
theorem not_endsControl_nil : ¬ EndsControl [] := by
  rintro ⟨parameters, letter, after, h, -⟩
  simp at h

/-- A control sequence ends with a letter, or goes on after a parameter. -/
theorem endsControl_cons :
    EndsControl (c :: t) ↔ c.isAlpha = true ∨ isParameter c = true ∧ EndsControl t := by
  constructor
  · rintro ⟨parameters, letter, after, h, hparameters, hletter⟩
    cases parameters with
    | nil =>
      obtain ⟨rfl, -⟩ := List.cons.inj h
      exact .inl hletter
    | cons d parameters =>
      obtain ⟨rfl, rfl⟩ := List.cons.inj h
      obtain ⟨hd, hparameters⟩ := List.forall_mem_cons.1 hparameters
      exact .inr ⟨hd, parameters, letter, after, rfl, hparameters, hletter⟩
  · rintro (hletter | ⟨hc, parameters, letter, after, rfl, hparameters, hletter⟩)
    · exact ⟨[], c, t, rfl, by simp, hletter⟩
    · exact ⟨c :: parameters, letter, after, rfl, List.forall_mem_cons.2 ⟨hc, hparameters⟩, hletter⟩

/-- Parameters are no letters, so a sequence ends behind them if it ends at all. -/
theorem endsControl_append (h : ∀ c ∈ parameters, isParameter c = true) :
    EndsControl (parameters ++ t) ↔ EndsControl t := by
  induction parameters with
  | nil => rfl
  | cons d parameters ih =>
    obtain ⟨hd, hparameters⟩ := List.forall_mem_cons.1 h
    have hletter : ¬ d.isAlpha = true := by
      intro hletter
      rw [isParameter_of_isAlpha hletter] at hd
      exact Bool.noConfusion hd
    rw [List.cons_append, endsControl_cons, ih hparameters]
    simp [hd, hletter]

/-- The empty text holds no control sequence. -/
theorem not_holdsControl_nil : ¬ HoldsControl [] := by
  rintro ⟨before, rest, h, -⟩
  simp at h

/-- A control sequence stands at the start of a text, or further on. -/
theorem holdsControl_cons : HoldsControl (c :: t) ↔
    (c = escape ∧ ∃ rest, t = '[' :: rest ∧ EndsControl rest) ∨ HoldsControl t := by
  constructor
  · rintro ⟨before, rest, h, hends⟩
    cases before with
    | nil =>
      obtain ⟨rfl, rfl⟩ := List.cons.inj h
      exact .inl ⟨rfl, rest, rfl, hends⟩
    | cons d before =>
      obtain ⟨rfl, rfl⟩ := List.cons.inj h
      exact .inr ⟨before, rest, rfl, hends⟩
  · rintro (⟨rfl, rest, rfl, hends⟩ | ⟨before, rest, rfl, hends⟩)
    · exact ⟨[], rest, rfl, hends⟩
    · exact ⟨c :: before, rest, rfl, hends⟩

/-- Only an escape character starts a control sequence. -/
theorem holdsControl_cons_of_ne (h : c ≠ escape) : HoldsControl (c :: t) ↔ HoldsControl t := by
  rw [holdsControl_cons]
  simp [h]

/-- A text in front that has no escape character adds no control sequence. -/
theorem holdsControl_append (h : escape ∉ u) : HoldsControl (u ++ t) ↔ HoldsControl t := by
  induction u with
  | nil => rfl
  | cons d u ih =>
    rw [List.mem_cons, not_or] at h
    rw [List.cons_append, holdsControl_cons_of_ne (Ne.symm h.1), ih h.2]

/-- An escape character without a bracket behind it starts no control sequence. -/
theorem holdsControl_escape_of_ne (h : c ≠ '[') :
    HoldsControl (escape :: c :: t) ↔ HoldsControl (c :: t) := by
  rw [holdsControl_cons]
  simp [h]

/-- Behind a bracket and parameters a sequence is ended, or another one follows. -/
theorem holdsControl_opened (h : ∀ c ∈ parameters, isParameter c = true) :
    HoldsControl (escape :: '[' :: (parameters ++ t)) ↔ EndsControl t ∨ HoldsControl t := by
  have hescape : escape ∉ '[' :: parameters := by
    rw [List.mem_cons, not_or]
    exact ⟨by decide, fun hmem => absurd (h escape hmem) (by decide)⟩
  rw [holdsControl_cons, ← List.cons_append, holdsControl_append hescape]
  simp [endsControl_append h]

/-! ## What is left of a text -/

/-- `out` is the whole of `t` if that holds no control sequence, and is shorter otherwise. -/
def IsLeftOf (out t : Text) : Prop :=
  ¬ HoldsControl t ∧ out = t ∨ HoldsControl t ∧ out.length < t.length

/-- What is left of a text is no longer than the text. -/
theorem IsLeftOf.length_le (h : IsLeftOf out t) : out.length ≤ t.length := by
  rcases h with ⟨-, rfl⟩ | ⟨-, hlength⟩
  · exact Nat.le_refl _
  · exact Nat.le_of_lt hlength

/-- A text in front that adds no control sequence is left as it is. -/
theorem IsLeftOf.append (h : IsLeftOf out t) (hu : HoldsControl (u ++ t) ↔ HoldsControl t) :
    IsLeftOf (u ++ out) (u ++ t) := by
  rcases h with ⟨hnone, rfl⟩ | ⟨hholds, hlength⟩
  · exact .inl ⟨fun hholds => hnone (hu.1 hholds), rfl⟩
  · refine .inr ⟨hu.2 hholds, ?_⟩
    rw [List.length_append, List.length_append]
    omega

/-- The parameters that have been read are parameters. -/
def ControlState.IsSound : ControlState → Prop
  | .opened parameters => ∀ c ∈ parameters, isParameter c = true
  | _ => True

/-- An open control sequence may take one more parameter. -/
theorem ControlState.IsSound.concat (h : (opened parameters).IsSound) (hc : isParameter c = true) :
    (opened (parameters ++ [c])).IsSound := by
  intro d hd
  rcases List.mem_append.1 hd with hd | hd
  · exact h d hd
  · rwa [List.mem_singleton.1 hd]

/-- A sequence that has been begun is no sequence yet. -/
theorem ControlState.not_holdsControl_text {state : ControlState} (h : state.IsSound) :
    ¬ HoldsControl state.text := by
  cases state with
  | outside => exact not_holdsControl_nil
  | escaped => simp [ControlState.text, holdsControl_cons, not_holdsControl_nil]
  | opened parameters =>
    have hopened := (holdsControl_opened (t := []) h).not
    rw [List.append_nil] at hopened
    exact hopened.2 (not_or.2 ⟨not_endsControl_nil, not_holdsControl_nil⟩)

/-- What comes out is left of what has been read of a sequence and of the text behind it. -/
theorem isLeftOf_withoutControlsFrom {state : ControlState} (h : state.IsSound) (t : Text) :
    IsLeftOf (withoutControlsFrom state t) (state.text ++ t) := by
  induction t generalizing state with
  | nil =>
    rw [List.append_nil]
    exact .inl ⟨ControlState.not_holdsControl_text h, rfl⟩
  | cons c t ih =>
    cases state with
    | outside =>
      rw [withoutControlsFrom]
      split
      · next hc =>
        obtain rfl := beq_iff_eq.1 hc
        exact @ih .escaped trivial
      · next hc =>
        have hc : c ≠ escape := by simpa using hc
        exact (@ih .outside trivial).append (u := [c]) (holdsControl_cons_of_ne hc)
    | escaped =>
      rw [withoutControlsFrom]
      split
      · next hc =>
        obtain rfl := beq_iff_eq.1 hc
        exact @ih (.opened []) (by simp [ControlState.IsSound])
      · next hbracket =>
        have hbracket : c ≠ '[' := by simpa using hbracket
        split
        · next hc =>
          obtain rfl := beq_iff_eq.1 hc
          exact (@ih .escaped trivial).append (u := [escape]) (holdsControl_escape_of_ne hbracket)
        · next hc =>
          have hc : c ≠ escape := by simpa using hc
          exact (@ih .outside trivial).append (u := [escape, c])
            ((holdsControl_escape_of_ne hbracket).trans (holdsControl_cons_of_ne hc))
    | opened parameters =>
      have hopened {rest : Text} (hrest : ¬ EndsControl rest) :
          HoldsControl ((escape :: '[' :: parameters) ++ rest) ↔ HoldsControl rest :=
        (holdsControl_opened h).trans (or_iff_right hrest)
      rw [withoutControlsFrom]
      split
      · next hc =>
        have hleft := ih (ControlState.IsSound.concat h hc)
        simpa [ControlState.text] using hleft
      · next hparameter =>
        split
        · next hletter =>
          refine .inr ⟨(holdsControl_opened h).2 (.inl (endsControl_cons.2 (.inl hletter))), ?_⟩
          have hlength := (@ih .outside trivial).length_le
          simp only [ControlState.text, List.nil_append, List.length_append, List.length_cons]
            at hlength ⊢
          omega
        · next hletter =>
          have hends : ¬ EndsControl (c :: t) := by
            rw [endsControl_cons]
            simp [hletter, hparameter]
          split
          · next hc =>
            obtain rfl := beq_iff_eq.1 hc
            exact (@ih .escaped trivial).append (hopened hends)
          · next hc =>
            have hc : c ≠ escape := by simpa using hc
            have hleft := (@ih .outside trivial).append (u := [c]) (holdsControl_cons_of_ne hc)
            exact hleft.append (hopened hends)

/-- A text is printed as it is exactly if it holds no control sequence. -/
theorem withoutControls_eq_self_iff : withoutControls t = t ↔ ¬ HoldsControl t := by
  have hleft := @isLeftOf_withoutControlsFrom .outside trivial t
  rcases hleft with ⟨hnone, heq⟩ | ⟨hholds, hlength⟩
  · exact iff_of_true heq hnone
  · refine iff_of_false (fun heq => ?_) (not_not.2 hholds)
    rw [withoutControls] at heq
    rw [heq] at hlength
    exact Nat.lt_irrefl _ hlength

end Commentary.Text
