import Commentary.Inline
import Commentary.Line.Comment
import Commentary.Line.Shape
import Commentary.Line.Trailing

/-!
# Patterns

The recognizers of lines and texts under one name each, with the part of the text that they cover and
the parts that they pick out. Most patterns hold at the start of a text or not at all; the others can
also be searched for.
-/

namespace Commentary

/-- The part of a text that a pattern covers. -/
structure Found where
  /-- The index of the first covered character. -/
  start : Nat
  /-- The index behind the last covered character. -/
  stop : Nat
  /-- The parts that the pattern picks out. -/
  groups : List Text
  deriving DecidableEq, Repr

/-- The patterns of lines, comment texts and quoted names. -/
inductive Pattern where
  | comment
  | blank
  | topLevel
  | opens (s : Line.Section)
  | heading
  | bullet
  | paren
  | indented
  | mode
  | periods
  | quoted (symmetric : Bool)
  | chord
  | superWord
  deriving DecidableEq, Repr

namespace Pattern

/-- A match of the first `stop` characters. -/
def initial (stop : Nat) (groups : List Text) : Found := ⟨0, stop, groups⟩

/-- What a blank line covers. Bare markers leave out a newline behind them. -/
def blank? (m : Char) (t : Text) : Option Found :=
  if Line.isBareComment m t then
    let stop := if (Line.afterMarkers m t).getLast? == some '\n' then t.length - 1 else t.length
    some (initial stop [])
  else if Text.isBlank t then some (initial t.length [])
  else none

/-- What a pattern covers at the start of `t`. -/
def match? (m : Char) (p : Pattern) (t : Text) : Option Found :=
  match p with
  | .comment => (Line.comment? m t).map fun c =>
      let space := if (Line.afterMarkers m t).head? == some ' ' then 1 else 0
      initial (c.markers + space + c.text.length) [List.replicate c.markers m, c.text]
  | .blank => blank? m t
  | .topLevel => if Line.isTopLevel m t then some (initial 3 []) else none
  | .opens s => if Line.opens m s t then some (initial (s.line m).length []) else none
  | .heading => (Line.heading? t).map fun title => initial (title.length + 1) [title]
  | .bullet =>
    if Line.isBullet t then
      let mark := Text.indent t + 1
      some (initial (if mark < t.length then mark + 1 else mark) [])
    else none
  | .paren => if Line.isParen t then some (initial (Text.indent t + 1) []) else none
  | .indented => if Line.isIndented t then some (initial (Text.indent t + 1) []) else none
  | .mode => if Line.startsMode t then some (initial t.length []) else none
  | .periods =>
    if t != [] && t.all Line.isPeriodOrSpace then some (initial t.length []) else none
  | .quoted symmetric =>
    (Inline.quotedAt? symmetric t).map fun name => initial (name.length + 2) [name]
  | .chord => (Key.chordLength? t).map (initial · [])
  | .superWord => (Key.superWord? t).map fun word => initial (word.length + 2) [word]

/-- What a pattern covers at the leftmost place of `t` where it holds. -/
def search? (m : Char) (p : Pattern) (t : Text) : Option Found :=
  match p with
  | .mode =>
    let head := Line.withoutMode t
    if head.length < t.length then some ⟨head.length, t.length, []⟩ else none
  | .periods =>
    let head := Line.withoutPeriods t
    if head.length < t.length then some ⟨head.length, t.length, []⟩ else none
  | .quoted symmetric =>
    (Inline.findQuoted? symmetric t).map fun found =>
      ⟨found.1, found.1 + found.2.length + 2, [found.2]⟩
  | p => match? m p t

/-- Whether a pattern holds at the start of `t`. -/
def holds (m : Char) (p : Pattern) (t : Text) : Bool := (match? m p t).isSome

end Pattern

end Commentary
