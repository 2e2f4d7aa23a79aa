import Commentary.Index
import Commentary.Text.Basic

/-!
# Values

The data that settings, documents and blocks can be given as, and that templates print.
-/

namespace Commentary

/-- A value of any shape. -/
inductive Value where
  | null
  | bool (b : Bool)
  | int (n : Int)
  /-- A number written with a point: `mantissa` divided by ten to the `places`, with its sign. -/
  | decimal (negative : Bool) (mantissa places : Nat)
  | text (t : Text)
  | list (values : List Value)
  | object (fields : List (Text × Value))
  deriving Inhabited

namespace Value

/-- The whole number that a value is equal to. -/
def whole? : Value → Option Int
  | .int n => some n
  | .decimal negative mantissa places =>
    let unit := Nat.pow 10 places
    let whole : Int := mantissa / unit
    if mantissa % unit == 0 then some (if negative then -whole else whole) else none
  | _ => none

/-- The number that a value counts as where things are counted: truth values count as one and zero,
and numbers written with a point do not count. -/
def count? : Value → Option Int
  | .int n => some n
  | .bool b => some b.toInt
  | _ => none

/-- The fields of an object. -/
def fields? : Value → Option (List (Text × Value))
  | .object fields => some fields
  | _ => none

/-- The elements of a list. -/
def list? : Value → Option (List Value)
  | .list values => some values
  | _ => none

/-- The text that a value is. -/
def text? : Value → Option Text
  | .text t => some t
  | _ => none

/-- The texts of a list that holds nothing else. -/
def texts? (v : Value) : Option (List Text) := v.list?.bind (·.mapM text?)

/-- A list of texts as a value. -/
def ofTexts (ts : List Text) : Value := .list (ts.map .text)

/-- A text, or null if there is none. -/
def ofText? : Option Text → Value
  | some t => .text t
  | none => .null

end Value

end Commentary
