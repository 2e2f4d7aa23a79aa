import Commentary.Key
import Commentary.Settings

/-!
# Inline spans

A line is read as a sequence of spans: plain text, and names between a backtick and an apostrophe
(or, with symmetric quotes, a second backtick). Names become key or code spans.
-/

namespace Commentary.Inline

/-- The character that opens a quoted span. -/
def openQuote : Char := '\x60'

/-- The character that closes a quoted span. -/
def closeQuote : Char := '\x27'

/-- What a span is read as. -/
inductive SpanKind where
  | text
  | code
  | key
  deriving DecidableEq, Repr

/-- The name of a span kind in records. -/
def SpanKind.name : SpanKind → Text
  | .text => "text".toList
  | .code => "code".toList
  | .key => "key".toList

/-- One piece of a line. -/
structure Span where
  /-- What the piece is read as. -/
  kind : SpanKind
  /-- The piece without its quotes. -/
  content : Text
  deriving DecidableEq, Repr

/-- The characters that may stand between quotes. -/
def isQuotable (c : Char) : Bool := c != openQuote && c != closeQuote && c != '\n'

/-- Whether `c` ends a quoted span. -/
def closes (symmetric : Bool) (c : Char) : Bool :=
  c == closeQuote || symmetric && c == openQuote

/-- The name between quotes at the very start of `t`. -/
def quotedAt? (symmetric : Bool) : Text → Option Text
  | [] => none
  | c :: t =>
    let name := t.takeWhile isQuotable
    if c == openQuote && name != [] && (t.dropWhile isQuotable).head?.any (closes symmetric) then
      some name
    else none

/-- The first quoted name in `t` and the index at which its opening quote stands. -/
def findQuoted? (symmetric : Bool) : Text → Option (Nat × Text)
  | [] => none
  | c :: t =>
    match quotedAt? symmetric (c :: t) with
    | some name => some (0, name)
    | none => (findQuoted? symmetric t).map fun found => (found.1 + 1, found.2)

/-- The span of a quoted name. -/
def nameSpan (s : Settings) (name : Text) : Span :=
  ⟨if Key.isKey s.keyNames name then .key else .code, name⟩

/-- Plain text as a list of spans: no span for no text. -/
def plainSpans (t : Text) : List Span := if t == [] then [] else [⟨.text, t⟩]

/-- Read spans from `t`, after `plain` has been read as plain text and, if `opened` is a name, after
an opening quote and that beginning of a name. -/
def spansFrom (s : Settings) (plain : Text) (opened : Option Text) : Text → List Span
  | [] => plainSpans (plain ++ opened.elim [] (openQuote :: ·))
  | c :: t =>
    match opened with
    | none =>
      if c == openQuote then spansFrom s plain (some []) t
      else spansFrom s (plain ++ [c]) none t
    | some name =>
      if closes s.symmetricQuotes c && name != [] then
        plainSpans plain ++ nameSpan s name :: spansFrom s [] none t
      else if c == openQuote then spansFrom s (plain ++ openQuote :: name) (some []) t
      else if isQuotable c then spansFrom s plain (some (name ++ [c])) t
      else spansFrom s (plain ++ openQuote :: name ++ [c]) none t

/-- The spans of a line. A quoted span starts at the leftmost quote that can open one. -/
def spans (s : Settings) (t : Text) : List Span := spansFrom s [] none t

/-- A span in Markdown. -/
def Span.render (span : Span) : Text :=
  match span.kind with
  | .text => span.content
  | .code => openQuote :: span.content ++ [openQuote]
  | .key => "<kbd>".toList ++ span.content ++ "</kbd>".toList

/-- A line in Markdown. -/
def toMarkdown (s : Settings) (t : Text) : Text := (spans s t).flatMap Span.render

end Commentary.Inline
