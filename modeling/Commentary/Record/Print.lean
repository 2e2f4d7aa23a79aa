import Commentary.Record.Value
import Commentary.Text.Quoted

/-!
# Printed values

How a value of any shape is printed, and whether it counts as true where a choice is made. A text is
printed as it is; inside a list or an object it is quoted.
-/

namespace Commentary.Value

/-- Digits with a point behind the first `before` of them, with zeros where digits are wanting. -/
def positional (digits : Text) (before : Int) : Text :=
  if before ≤ 0 then '0' :: '.' :: List.replicate before.natAbs '0' ++ digits
  else
    let whole := digits.take before.toNat
    let rest := digits.drop before.toNat
    whole ++ List.replicate (before.toNat - whole.length) '0' ++
      '.' :: (if rest == [] then ['0'] else rest)

/-- An exponent with its sign and at least two digits. -/
def exponentText (e : Int) : Text :=
  let digits := Text.ofNat e.natAbs
  (if e < 0 then '-' else '+') :: List.replicate (2 - digits.length) '0' ++ digits

/-- Digits with a point behind the first one and the power of ten that this leaves. -/
def scientific (digits : Text) (before : Int) : Text :=
  let rest := digits.drop 1
  digits.take 1 ++ (if rest == [] then [] else '.' :: rest) ++ 'e' :: exponentText (before - 1)

/-- A number written with a point, zero with its sign. Numbers from a ten-thousandth up to ten to the sixteenth have their
digits in place, others are written with a power of ten. -/
def decimalText (negative : Bool) (mantissa places : Nat) : Text :=
  let written := Text.ofNat mantissa
  let before : Int := written.length - places
  let digits := Text.dropEndWhile (· == '0') written
  (if negative then ['-'] else []) ++
    if mantissa == 0 then "0.0".toList
    else if -4 < before && before ≤ 16 then positional digits before
    else scientific digits before

/-- A truth value as it is printed. -/
def boolText (b : Bool) : Text := if b then "True".toList else "False".toList

mutual

/-- A value as a part of another one. -/
def shown : Value → Text
  | .null => "None".toList
  | .bool b => boolText b
  | .int n => Text.ofInt n
  | .decimal negative mantissa places => decimalText negative mantissa places
  | .text t => Text.quoted t
  | .list values => '[' :: List.intercalate ", ".toList (shownAll values) ++ [']']
  | .object fields => '\x7b' :: List.intercalate ", ".toList (shownFields fields) ++ ['\x7d']

/-- The elements of a list as parts of it. -/
def shownAll : List Value → List Text
  | [] => []
  | v :: values => shown v :: shownAll values

/-- The fields of an object as parts of it. -/
def shownFields : List (Text × Value) → List Text
  | [] => []
  | (name, v) :: fields => (Text.quoted name ++ ": ".toList ++ shown v) :: shownFields fields

end

/-- A value as it is printed on its own. -/
def print : Value → Text
  | .text t => t
  | v => shown v

/-- Whether a value counts as true: it is not null, not false, not zero and not empty. -/
def isTrue : Value → Bool
  | .null => false
  | .bool b => b
  | .int n => n != 0
  | .decimal _ mantissa _ => mantissa != 0
  | .text t => t != []
  | .list values => !values.isEmpty
  | .object fields => !fields.isEmpty

@[simp] theorem print_text (t : Text) : print (.text t) = t := rfl

@[simp] theorem isTrue_text (t : Text) : isTrue (.text t) = (t != []) := rfl

end Commentary.Value
