import Commentary.Footer
import Commentary.Hook
import Commentary.Scan

/-!
# Conversion

From a document to Markdown: title and declared fields, the blocks of the commentary, a rule, the
footer, and what the hooks add.
-/

namespace Commentary

/-- The blocks of a list of lines that are known to be the body. -/
def bodyBlocks (s : Settings) (lines : List Text) : Except NoCommentText (List Block) :=
  (Scan.ofBody (s.markers.cleanLines lines)).blocks s.marker

/-- The blocks of a document. -/
def Document.blocks (s : Settings) (doc : Document) : Except NoCommentText (List Block) :=
  (Scan.ofDocument doc.lines).blocks s.marker

/-- Everything that a document hands to the sink before the hooks run, given its footer. -/
def pageEmission (s : Settings) (doc : Document) (blocks : List Block) (footer : Text) : Emission :=
  (Emission.ofTokens ((Metadata.ofDocument s doc).tokens s)).andThen
    ((blocksEmission s blocks).andThen (.ofTokens [.blank, .rule, .attribution footer]))

/-- The sink after a document has been converted and the hooks have run. -/
def emit (tree : FileTree) (config : Config) (doc : Document) : Except Error Sink :=
  match doc.blocks config.toSettings with
  | .error _ => .error .noCommentText
  | .ok blocks =>
    match Footer.render tree config.toSettings doc.sourceName with
    | .error e => .error e
    | .ok footer =>
      let emission := (pageEmission config.toSettings doc blocks footer).andThen
        (hooksEmission config.hooks)
      match emission.error with
      | some e => .error e
      | none => .ok (emission.into .empty)

/-- A document in Markdown. -/
def convertDocument (tree : FileTree) (config : Config) (doc : Document) : Except Error Text :=
  (emit tree config doc).map Sink.value

/-- Source lines in Markdown. -/
def convert (tree : FileTree) (config : Config) (lines : List Text) (sourceName : Option Text) :
    Except Error Text :=
  convertDocument tree config (.ofLines config.markers lines sourceName)

/-- The text of a source file in Markdown. -/
def convertText (tree : FileTree) (config : Config) (text : Text) (sourceName : Option Text) :
    Except Error Text :=
  convertDocument tree config (.ofText config.markers text sourceName)

/-- A bare body in Markdown, without title, fields and footer. -/
def convertBody (s : Settings) (lines : List Text) : Except Error Text :=
  match bodyBlocks s lines with
  | .error _ => .error .noCommentText
  | .ok blocks =>
    let emission := blocksEmission s blocks
    match emission.error with
    | some e => .error e
    | none => .ok (emission.into .empty).value

end Commentary
