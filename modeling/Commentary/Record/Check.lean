import Commentary.Record.Fault
import Commentary.Record.Value

/-!
# Checking records

A check reads a value or lists everything that is wrong with it. Checks of several fields run side by
side: their faults are collected in the order of the fields.
-/

namespace Commentary

/-- The result of a check: a value, or all its faults. -/
inductive Checked (α : Type) where
  | ok (value : α)
  | faults (list : List Fault)

namespace Checked

/-- A single fault right here. -/
def fault {α : Type} (kind : FaultKind) : Checked α := .faults [⟨kind, []⟩]

/-- A check whose result is a part of a larger record. -/
def inside {α : Type} (step : FaultStep) : Checked α → Checked α
  | .ok a => .ok a
  | .faults list => .faults (list.map fun f => { f with place := step :: f.place })

/-- Both results, or the faults of both. -/
def both {α β γ : Type} (f : α → β → γ) : Checked α → Checked β → Checked γ
  | .ok a, .ok b => .ok (f a b)
  | .ok _, .faults list => .faults list
  | .faults list, .ok _ => .faults list
  | .faults first, .faults second => .faults (first ++ second)

/-- A result that is worked on. -/
def map {α β : Type} (f : α → β) : Checked α → Checked β
  | .ok a => .ok (f a)
  | .faults list => .faults list

instance : Functor Checked where
  map := Checked.map

instance : Applicative Checked where
  pure := .ok
  seq f a := both (fun f a => f a) f (a ())

/-- The results of a list of checks, each inside its index, from index `i` on. -/
def elements {α : Type} (check : Value → Checked α) (i : Nat) : List Value → Checked (List α)
  | [] => .ok []
  | v :: rest => both (· :: ·) ((check v).inside (.index i)) (elements check (i + 1) rest)

end Checked

namespace Record

/-- A text. -/
def text : Value → Checked Text
  | .text t => .ok t
  | _ => .fault .notText

/-- A text that may be null. -/
def optionalText : Value → Checked (Option Text)
  | .null => .ok none
  | v => (text v).map some

/-- The words for true, in small letters. -/
def trueWords : List Text := ["1", "true", "t", "yes", "y", "on"].map String.toList

/-- The words for false, in small letters. -/
def falseWords : List Text := ["0", "false", "f", "no", "n", "off"].map String.toList

/-- A truth value: itself, one of the numbers 1 and 0, or a word for it in letters of any case. A number
that does not fit into a word is not looked at. -/
def bool (v : Value) : Checked Bool :=
  match v with
  | .bool b => .ok b
  | .text t =>
    let word := Text.lower t
    if trueWords.contains word then .ok true
    else if falseWords.contains word then .ok false
    else .fault .unclearBool
  | v =>
    match v.whole? with
    | some 1 => .ok true
    | some 0 => .ok false
    | some n => .fault (if fitsWord n then .unclearBool else .notBool)
    | none => .fault .notBool

/-- A list of elements; `kind` is the fault of a value that is no list. -/
def listOf {α : Type} (kind : FaultKind) (check : Value → Checked α) : Value → Checked (List α)
  | .list values => Checked.elements check 0 values
  | _ => .fault kind

/-- A text between apostrophes, as options are shown. -/
def shownText (t : Text) : Text := '\x27' :: t ++ ['\x27']

/-- One of several named options. -/
def oneOf {α : Type} (options : List α) (name : α → Text) (v : Value) : Checked α :=
  let refused := .fault (.notAmong (options.map fun a => shownText (name a)))
  match v with
  | .text t =>
    match options.find? (name · == t) with
    | some a => .ok a
    | none => refused
  | _ => refused

/-- A field of a record. A missing field has its default, or is a fault if there is none. -/
def field {α : Type} (fields : List (Text × Value)) (name : String) (default : Option α)
    (check : Value → Checked α) : Checked α :=
  Checked.inside (.field name.toList) <|
    match fields.lookup name.toList, default with
    | some v, _ => check v
    | none, some a => .ok a
    | none, none => .fault .missing

/-- A record of the named type from the fields of an object. -/
def record {α : Type} (name : String) (check : List (Text × Value) → Checked α) : Value → Checked α
  | .object fields => check fields
  | _ => .fault (.notRecord name.toList)

end Record

end Commentary
