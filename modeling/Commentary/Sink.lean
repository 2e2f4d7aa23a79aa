import Commentary.Text.Basic

/-!
# Output tokens and the sink

The output is a sequence of tokens, one for each line. A sink takes tokens one by one; a blank token
is dropped where the output is empty or already ends in one.
-/

namespace Commentary

/-- What a line of the output is. -/
inductive TokenKind where
  | header
  | blank
  | text
  | rule
  | attribution
  deriving DecidableEq, Repr

/-- The name of a token kind in records. -/
def TokenKind.name : TokenKind → Text
  | .header => "header".toList
  | .blank => "blank".toList
  | .text => "text".toList
  | .rule => "rule".toList
  | .attribution => "attribution".toList

/-- A line of the output. -/
structure Token where
  /-- What the line is. -/
  kind : TokenKind
  /-- The line itself. -/
  text : Text
  deriving DecidableEq, Repr

namespace Token

/-- A header: as many number signs as its level says, none below level 1. -/
def header (level : Int) (t : Text) : Token :=
  ⟨.header, List.replicate level.toNat '#' ++ ' ' :: t⟩

/-- A line of text. -/
def line (t : Text) : Token := ⟨.text, t⟩

/-- An empty line. -/
def blank : Token := ⟨.blank, []⟩

/-- A horizontal rule. -/
def rule : Token := ⟨.rule, ['-', '-', '-']⟩

/-- The line that says where the output comes from. -/
def attribution (t : Text) : Token := ⟨.attribution, t⟩

/-- Whether a token is blank. -/
def isBlank (t : Token) : Bool := t.kind == .blank

end Token

/-- The tokens taken so far. -/
structure Sink where
  /-- The tokens, the first one first. -/
  tokens : List Token
  deriving DecidableEq, Repr

namespace Sink

/-- The sink that has taken nothing. -/
def empty : Sink := ⟨[]⟩

/-- Whether a blank token would be dropped here: at the start and behind another one. -/
def refusesBlank (s : Sink) : Bool := s.tokens.getLast?.all Token.isBlank

/-- Take a token. -/
def append (s : Sink) (t : Token) : Sink :=
  if t.isBlank && s.refusesBlank then s else ⟨s.tokens ++ [t]⟩

/-- Take tokens in order. -/
def appendAll (s : Sink) (ts : List Token) : Sink := ts.foldl append s

/-- The output: each token's text and a newline. -/
def value (s : Sink) : Text := s.tokens.flatMap fun t => t.text ++ ['\n']

@[simp] theorem appendAll_nil (s : Sink) : s.appendAll [] = s := rfl

@[simp] theorem appendAll_cons (s : Sink) (t : Token) (ts : List Token) :
    s.appendAll (t :: ts) = (s.append t).appendAll ts := rfl

/-- Tokens that come later find the sink as earlier ones have left it. -/
theorem appendAll_append (s : Sink) (ts us : List Token) :
    s.appendAll (ts ++ us) = (s.appendAll ts).appendAll us := by
  simp [appendAll, List.foldl_append]

end Sink

end Commentary
