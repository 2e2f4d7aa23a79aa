import Commentary.Text.Basic

/-!
# Key names

A quoted name is a key if it is a recognized name or a chord such as `C-x`. A lone super modifier
before a longer word is not a chord, so that function names such as `s-join` stay code.
-/

namespace Commentary.Key

/-- The letters that stand for modifier keys. -/
def modifiers : List Char := ['C', 'M', 'S', 's', 'H', 'A']

/-- Whether `c` stands for a modifier key. -/
def isModifier (c : Char) : Bool := modifiers.contains c

/-- How many modifiers, each followed by a dash, a name starts with. -/
def modifierCount : Text → Nat
  | c :: '-' :: t => if isModifier c then modifierCount t + 1 else 0
  | _ => 0

/-- How long the chord is that a name starts with: modifiers and the key they modify, which is any
character that is not blank and may be the last modifier itself. -/
def chordLength? (name : Text) : Option Nat :=
  let pairs := modifierCount name
  if pairs == 0 then none
  else if (name[2 * pairs]?).any (!Text.isSpace ·) then some (2 * pairs + 1)
  else if pairs == 1 then none
  else some (2 * pairs - 1)

/-- Whether a name starts with a chord. -/
def isChord (name : Text) : Bool := (chordLength? name).isSome

/-- A character of a plain word: neither blank nor a dash. -/
def isWordChar (c : Char) : Bool := !Text.isSpace c && c != '-'

/-- The word behind a lone super modifier, if it has two characters or more and is no `<…>` key. -/
def superWord? : Text → Option Text
  | 's' :: '-' :: rest =>
    let word := rest.takeWhile isWordChar
    if word.length < 2 || word.head? == some '<' then none else some word
  | _ => none

/-- Whether a quoted name is a key, given the recognized key names. -/
def isKey (known : List Text) (name : Text) : Bool :=
  known.contains name ||
    (match superWord? name with
      | some word => known.contains word && isChord name
      | none => isChord name)

end Commentary.Key
