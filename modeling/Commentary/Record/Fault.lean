import Commentary.Text.Basic

/-!
# Faults of records

What can be wrong with the data of a record. A fault names the field and, inside a list, the index.
-/

namespace Commentary

/-- A step from a record to a part of it. -/
inductive FaultStep where
  | field (name : Text)
  | index (i : Nat)
  deriving DecidableEq, Repr

/-- What is wrong with a value. -/
inductive FaultKind where
  /-- A field without default is missing. -/
  | missing
  /-- The value is no record of the named type. -/
  | notRecord (name : Text)
  | notText
  | emptyText
  | notBool
  | unclearBool
  | notList
  | notSet
  | notTuple
  /-- The value is none of the options, given as they are shown. -/
  | notAmong (options : List Text)
  /-- The value is a whole number that does not fit into a word. -/
  | tooLarge
  | notCallable
  /-- The record cannot be changed. -/
  | frozen
  deriving DecidableEq, Repr

/-- The options of a choice in one phrase, the last joined by a word. -/
def joinOptions : List Text → Text
  | [] => []
  | [last] => last
  | [a, last] => a ++ " or ".toList ++ last
  | a :: rest => a ++ ", ".toList ++ joinOptions rest

namespace FaultKind

/-- The short name of a fault. -/
def code : FaultKind → Text
  | .missing => "missing".toList
  | .notRecord _ => "model_type".toList
  | .notText => "string_type".toList
  | .emptyText => "string_too_short".toList
  | .notBool => "bool_type".toList
  | .unclearBool => "bool_parsing".toList
  | .notList => "list_type".toList
  | .notSet => "set_type".toList
  | .notTuple => "tuple_type".toList
  | .notAmong _ => "literal_error".toList
  | .tooLarge => "int_parsing_size".toList
  | .notCallable => "callable_type".toList
  | .frozen => "frozen_instance".toList

/-- What is said of a fault. -/
def message : FaultKind → Text
  | .missing => "Field required".toList
  | .notRecord name => "Input should be a valid dictionary or instance of ".toList ++ name
  | .notText => "Input should be a valid string".toList
  | .emptyText => "String should have at least 1 character".toList
  | .notBool => "Input should be a valid boolean".toList
  | .unclearBool => "Input should be a valid boolean, unable to interpret input".toList
  | .notList => "Input should be a valid list".toList
  | .notSet => "Input should be a valid set".toList
  | .notTuple => "Input should be a valid tuple".toList
  | .notAmong options => "Input should be ".toList ++ joinOptions options
  | .tooLarge => "Unable to parse input string as an integer, exceeded maximum size".toList
  | .notCallable => "Input should be callable".toList
  | .frozen => "Instance is frozen".toList

end FaultKind

/-- What is wrong and where. -/
structure Fault where
  /-- What is wrong. -/
  kind : FaultKind
  /-- The way from the record to the value at fault. -/
  place : List FaultStep
  deriving DecidableEq, Repr

end Commentary
