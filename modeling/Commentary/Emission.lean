import Commentary.Block
import Commentary.Error
import Commentary.Inline
import Commentary.Line.Trailing
import Commentary.Metadata
import Commentary.Sink

/-!
# Emission

What blocks and metadata hand to a sink. An emission is a list of tokens, and possibly the error that
ended it: the tokens before it have been handed over all the same.
-/

namespace Commentary

/-- Tokens for a sink, and the error that ended them, if one did. -/
structure Emission where
  /-- The tokens in the order in which they are handed over. -/
  tokens : List Token
  /-- Why there are no more of them. -/
  error : Option Error
  deriving DecidableEq, Repr

namespace Emission

/-- Tokens without an error. -/
def ofTokens (tokens : List Token) : Emission := ⟨tokens, none⟩

/-- An error before any token. -/
def fail (e : Error) : Emission := ⟨[], some e⟩

/-- One emission after another. After an error nothing follows. -/
def andThen (a b : Emission) : Emission :=
  match a.error with
  | some _ => a
  | none => ⟨a.tokens ++ b.tokens, b.error⟩

/-- Emissions in a row, up to the first error. -/
def sequence (es : List Emission) : Emission := es.foldr andThen (ofTokens [])

/-- What a sink holds after an emission. -/
def into (e : Emission) (s : Sink) : Sink := s.appendAll e.tokens

@[simp] theorem tokens_ofTokens (ts : List Token) : (ofTokens ts).tokens = ts := rfl

@[simp] theorem error_ofTokens (ts : List Token) : (ofTokens ts).error = none := rfl

@[simp] theorem ofTokens_andThen (ts : List Token) (b : Emission) :
    (ofTokens ts).andThen b = ⟨ts ++ b.tokens, b.error⟩ := rfl

/-- Behind an error nothing is handed over. -/
theorem andThen_of_error {a : Emission} {e : Error} (h : a.error = some e) (b : Emission) :
    a.andThen b = a := by
  rw [andThen, h]

/-- Behind an emission without an error comes the next one. -/
theorem andThen_of_no_error {a : Emission} (h : a.error = none) (b : Emission) :
    a.andThen b = ⟨a.tokens ++ b.tokens, b.error⟩ := by
  rw [andThen, h]

@[simp] theorem fail_andThen (e : Error) (b : Emission) : (fail e).andThen b = fail e := rfl

end Emission

/-- The indentation that all lines with a visible character share. -/
def sharedIndent (lines : List Text) : Nat :=
  (((lines.filter (!Text.isBlank ·)).map Text.indent).min?).getD 0

/-- Lines without the indentation that they share. -/
def dedent (lines : List Text) : List Text := lines.map (·.drop (sharedIndent lines))

/-- The indentation of code in Markdown. -/
def codePrefix : Text := [' ', ' ', ' ', ' ']

/-- The level of a heading in Markdown; a block without a level counts as a deeper one. -/
def Block.headerLevel (b : Block) : Int := (b.level.getD .three).toNat

/-- What a block hands to a sink. A heading takes its title from its first line. -/
def Block.emission (s : Settings) (b : Block) : Emission :=
  match b.kind with
  | .heading =>
    match b.lines with
    | [] => .fail .emptyHeading
    | title :: _ =>
      .ofTokens [.header b.headerLevel (Inline.toMarkdown s (Line.withoutPeriods title))]
  | .codeBlock => .ofTokens ((dedent b.lines).map fun t => .line (codePrefix ++ Inline.toMarkdown s t))
  | .bulletList => .ofTokens (b.lines.map fun t => .line (Inline.toMarkdown s (Text.trimEnd t)))
  | .paragraph => .ofTokens (b.lines.map fun t => .line (Inline.toMarkdown s (Text.trim t)))

/-- The blank line between two blocks; two bullet lists have none. -/
def blockGap (previous : Option Block) (b : Block) : List Token :=
  if previous.any fun p => !(p.isBulletList && b.isBulletList) then [.blank] else []

/-- What blocks hand to a sink, after the block `previous`. -/
def blocksEmissionAfter (s : Settings) (previous : Option Block) : List Block → Emission
  | [] => .ofTokens []
  | b :: rest =>
    (Emission.ofTokens (blockGap previous b)).andThen
      ((b.emission s).andThen (blocksEmissionAfter s (some b) rest))

/-- What blocks hand to a sink. -/
def blocksEmission (s : Settings) (blocks : List Block) : Emission := blocksEmissionAfter s none blocks

/-- The end of a line that does not end its paragraph. -/
def lineBreak : Text := "<br>".toList

/-- The line of a declared field. -/
def fieldToken (field : Metadata.Field × Text) : Token :=
  .line ('*' :: field.1.label ++ ":* ".toList ++ field.2 ++ lineBreak)

/-- The title line of the output, unless nothing but periods would remain. -/
def Metadata.titleTokens (s : Settings) (md : Metadata) : List Token :=
  let title := Line.withoutPeriods (md.title.getD [])
  if title == [] then [] else [.header 1 (Inline.toMarkdown s title), .blank]

/-- The declared fields in the output. -/
def Metadata.fieldTokens (md : Metadata) : List Token :=
  if md.hasCommentary then md.declared.map fieldToken ++ [.blank] else []

/-- What metadata hands to a sink. -/
def Metadata.tokens (s : Settings) (md : Metadata) : List Token := md.titleTokens s ++ md.fieldTokens

end Commentary
