import Commentary.Record.Print
import Commentary.Text.Identifier
import Commentary.Text.Lines

/-!
# Templates

Plain text with printed names, conditions on names, and comments:
a name between double braces is replaced by its value, `if name`, `elif name`, `else` and `endif`
between a brace and a percent sign choose a part, and what stands between a brace and a number sign is
left out. A dash inside a brace leaves out the blanks on its outer side.

This is a fragment of the template language. Expressions other than a name, filters, loops, macros
and inclusions are not part of it: a template that uses any of them is reported as malformed.
-/

namespace Commentary

/-- What a template can say. -/
inductive TemplateNode where
  /-- Text that stands for itself. -/
  | text (t : Text)
  /-- The value of a name. -/
  | print (name : Text)
  /-- One of two parts, by whether the value of a name counts as true. -/
  | choice (name : Text) (yes no : List TemplateNode)

/-- A template is a sequence of nodes. -/
abbrev Template := List TemplateNode

namespace Template

/-- The parts that a template's text is cut into. -/
inductive Piece where
  | text (t : Text)
  | print (name : Text)
  | openIf (name : Text)
  | elseIf (name : Text)
  | elseTag
  | endIf
  deriving DecidableEq, Repr

/-- What the text that is being read belongs to. -/
inductive Mode where
  /-- Text that stands for itself; blanks in front are left out if `trims` says so. -/
  | text (trims : Bool)
  | print
  | tag
  | comment
  deriving DecidableEq, Repr

/-- Whether a word can be printed or tested: any name but the one that negates. -/
def isTerm (word : Text) : Bool := Text.isName word && word != "not".toList

/-- A printed name from what stands between its braces. -/
def printPiece? (inside : Text) : Option Piece :=
  match Text.words inside with
  | [word] => if isTerm word then some (.print word) else none
  | _ => none

/-- A tag from what stands between its braces. -/
def tagPiece? (inside : Text) : Option Piece :=
  match Text.words inside with
  | [word] =>
    if word == "else".toList then some .elseTag
    else if word == "endif".toList then some .endIf
    else none
  | [word, name] =>
    if !isTerm name then none
    else if word == "if".toList then some (.openIf name)
    else if word == "elif".toList then some (.elseIf name)
    else none
  | _ => none

/-- What the character behind an opening brace starts. -/
def opens? : Char → Option Mode
  | '\x7b' => some .print
  | '%' => some .tag
  | '#' => some .comment
  | _ => none

/-- What stands between braces without the sign at its end, and whether the sign is a dash. A plus sign
counts only where `plus` allows it. -/
def closing (plus : Bool) (seen : Text) : Text × Bool :=
  match seen.getLast? with
  | some '-' => (seen.dropLast, true)
  | some '+' => (if plus then seen.dropLast else seen, false)
  | _ => (seen, false)

/-- The pieces of what has been read where the text ends. Nothing may be open there but a comment that
has just begun. -/
def lastPieces? : Mode → (seen : Text) → Option (List Piece)
  | .text _, seen => some [.text seen]
  | .comment, [] => some []
  | _, _ => none

/-- Cut a text into pieces, after `seen` has been read in `mode`. There is no way to cut a text that
ends inside a tag or holds a tag that says nothing known. -/
def piecesFrom (mode : Mode) (seen : Text) : Text → Option (List Piece)
  | [] => lastPieces? mode seen
  | c :: t =>
    match mode, c, t with
    | .text _, '\x7b', d :: t =>
      match opens? d, t with
      | some inside, '-' :: t => (piecesFrom inside [] t).map (.text (Text.trimEnd seen) :: ·)
      | some inside, '+' :: t => (piecesFrom inside [] t).map (.text seen :: ·)
      | some inside, t => (piecesFrom inside [] t).map (.text seen :: ·)
      | none, t => piecesFrom (.text false) (seen ++ ['\x7b']) (d :: t)
    | .text true, c, t =>
      if Text.isSpace c then piecesFrom (.text true) [] t else piecesFrom (.text false) [c] t
    | .print, '\x7d', '\x7d' :: t => do
      let (inside, trims) := closing false seen
      let piece ← printPiece? inside
      let pieces ← piecesFrom (.text trims) [] t
      some (piece :: pieces)
    | .tag, '%', '\x7d' :: t => do
      let (inside, trims) := closing true seen
      let piece ← tagPiece? inside
      let pieces ← piecesFrom (.text trims) [] t
      some (piece :: pieces)
    | .comment, '#', '\x7d' :: t => piecesFrom (.text (closing true seen).2) [] t
    | mode, c, t => piecesFrom mode (seen ++ [c]) t

/-- A text without the one newline that ends its last line. -/
def withoutFinalNewline (t : Text) : Text := if t.getLast? == some '\n' then t.dropLast else t

/-- Cut a text into pieces; all newlines are read alike, and a final one is not part of the text. -/
def pieces? (t : Text) : Option (List Piece) :=
  piecesFrom (.text false) [] (withoutFinalNewline (Text.unifyNewlines t))

/-- Parts that are each chosen by a name, the first that counts as true, and else the last part. -/
def chain (parts : List (Text × Template)) (last : Template) : Template :=
  parts.foldr (fun part no => [.choice part.1 part.2 no]) last

/-- A condition whose end has not been read. -/
structure Open where
  /-- The nodes before the condition. -/
  before : Template
  /-- The parts that have been read, each with the name that is tested. -/
  parts : List (Text × Template)
  /-- The name that is tested for the part being read; the last part has none. -/
  name : Option Text

/-- Read pieces into nodes, inside the conditions that are `opened`, after the nodes `seen`. -/
def nodesFrom (opened : List Open) (seen : Template) : List Piece → Option Template
  | [] => if opened.isEmpty then some seen else none
  | .text t :: pieces => nodesFrom opened (seen ++ [.text t]) pieces
  | .print name :: pieces => nodesFrom opened (seen ++ [.print name]) pieces
  | .openIf name :: pieces => nodesFrom (⟨seen, [], some name⟩ :: opened) [] pieces
  | .elseIf next :: pieces =>
    match opened with
    | ⟨before, parts, some name⟩ :: outer =>
      nodesFrom (⟨before, parts ++ [(name, seen)], some next⟩ :: outer) [] pieces
    | _ => none
  | .elseTag :: pieces =>
    match opened with
    | ⟨before, parts, some name⟩ :: outer =>
      nodesFrom (⟨before, parts ++ [(name, seen)], none⟩ :: outer) [] pieces
    | _ => none
  | .endIf :: pieces =>
    match opened with
    | ⟨before, parts, some name⟩ :: outer =>
      nodesFrom outer (before ++ chain (parts ++ [(name, seen)]) []) pieces
    | ⟨before, parts, none⟩ :: outer => nodesFrom outer (before ++ chain parts seen) pieces
    | [] => none

/-- The template that a text is written for, unless it is malformed or beyond the fragment. -/
def parse? (t : Text) : Option Template := (pieces? t).bind (nodesFrom [] [])

/-- The names that stand for the same value everywhere. -/
def constants : List (Text × Value) :=
  [("true".toList, .bool true), ("True".toList, .bool true), ("false".toList, .bool false),
    ("False".toList, .bool false), ("none".toList, .null), ("None".toList, .null)]

/-- The helpers that every template knows by name, as they are printed. -/
def helpers : List (Text × Text) :=
  [("range".toList, "<class 'range'>".toList), ("dict".toList, "<class 'dict'>".toList),
    ("lipsum".toList, "<function generate_lorem_ipsum>".toList),
    ("cycler".toList, "<class 'jinja2.utils.Cycler'>".toList),
    ("joiner".toList, "<class 'jinja2.utils.Joiner'>".toList),
    ("namespace".toList, "<class 'jinja2.utils.Namespace'>".toList)]

/-- What a name stands for, given what the names of this template stand for. -/
def resolve (value : Text → Option Value) (name : Text) : Option Value :=
  match constants.lookup name, helpers.lookup name with
  | some v, _ => some v
  | none, some t => some (.text t)
  | none, none => value name

mutual

/-- The text of a node; a name without a value prints nothing and counts as false. -/
def renderNode (value : Text → Option Value) : TemplateNode → Text
  | .text t => t
  | .print name => ((resolve value name).map Value.print).getD []
  | .choice name yes no =>
    if (resolve value name).any Value.isTrue then renderNodes value yes else renderNodes value no

/-- The text of nodes in a row. -/
def renderNodes (value : Text → Option Value) : List TemplateNode → Text
  | [] => []
  | node :: nodes => renderNode value node ++ renderNodes value nodes

end

/-- The text of a template. -/
def render (template : Template) (value : Text → Option Value) : Text := renderNodes value template

end Template

end Commentary
