/-!
# Indices

Whole numbers as indices of a list. A negative index counts from the end. Where an index leads
nowhere, it is told apart whether it fits into a signed word of 64 bits. Main statement: an index
that is no further from the start or the end than the length leads into the list.
-/

namespace Commentary

/-- Whether a whole number fits into a signed word of 64 bits. -/
def fitsWord (n : Int) : Bool := -0x8000000000000000 ≤ n && n < 0x8000000000000000

/-- Why an index leads nowhere. -/
inductive OutOfRange where
  /-- It lies before the first element or behind the last one. -/
  | outside
  /-- It does not fit into a word. -/
  | tooLarge
  deriving DecidableEq, Repr

/-- What is said of a number that has to fit into a word. -/
def tooLargeMessage : List Char := "cannot fit 'int' into an index-sized integer".toList

/-- What is said of an index that leads nowhere. -/
def OutOfRange.message : OutOfRange → List Char
  | .outside => "list index out of range".toList
  | .tooLarge => tooLargeMessage

/-- An index into a list of `length` elements, counted from the first one. -/
def fromStart (length : Nat) (index : Int) : Int := if index < 0 then index + length else index

/-- The place that an index leads to in a list of `length` elements. -/
def placeOf (length : Nat) (index : Int) : Except OutOfRange Nat :=
  if 0 ≤ fromStart length index ∧ fromStart length index < length then
    .ok (fromStart length index).toNat
  else .error (if fitsWord index then .outside else .tooLarge)

/-- An index between the first element and the last one leads to its own place. -/
theorem placeOf_of_nonneg {length : Nat} {index : Int} (hfirst : 0 ≤ index)
    (hlast : index < length) : placeOf length index = .ok index.toNat := by
  have hstart : fromStart length index = index := if_neg (by omega)
  rw [placeOf, hstart, if_pos ⟨hfirst, hlast⟩]

/-- An index leads into the list if it is no further from the start or the end than the length. -/
theorem exists_placeOf {length : Nat} {index : Int} (hfirst : -(length : Int) ≤ index)
    (hlast : index < length) : ∃ place, place < length ∧ placeOf length index = .ok place := by
  have hstart : 0 ≤ fromStart length index ∧ fromStart length index < length := by
    rw [fromStart]
    split <;> omega
  exact ⟨_, by omega, if_pos hstart⟩

end Commentary
