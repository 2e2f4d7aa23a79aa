import Commentary.Conversion

/-!
# The log

What a verbose run tells about its work: one line for each thing done, with the part of the program
that did it.
-/

namespace Commentary

/-- How much a log line matters. -/
inductive Severity where
  | debug
  | info
  deriving DecidableEq, Repr

/-- The part of the program that a log line comes from. -/
inductive LogSource where
  | reading
  | metadata
  | scanning
  | emission
  | writing
  | command
  deriving DecidableEq, Repr

/-- A line of the log. -/
structure LogEntry where
  /-- How much the line matters. -/
  severity : Severity
  /-- Where the line comes from. -/
  source : LogSource
  /-- What the line says. -/
  message : Text
  deriving DecidableEq, Repr

/-- The name of a severity. -/
def Severity.name : Severity → Text
  | .debug => "DEBUG".toList
  | .info => "INFO".toList

/-- The name of a part of the program. -/
def LogSource.name : LogSource → Text
  | .reading => "el2md.processing.ingest".toList
  | .metadata => "el2md.processing.metadata".toList
  | .scanning => "el2md.processing.segment".toList
  | .emission => "el2md.rendering.markdown".toList
  | .writing => "el2md.rendering.sinks".toList
  | .command => "el2md.cli.main".toList

/-- A line of the log as it is written. -/
def LogEntry.line (e : LogEntry) : Text :=
  e.severity.name ++ ' ' :: e.source.name ++ ": ".toList ++ e.message ++ ['\n']

namespace Log

/-- A text between quotes, or a word for none. -/
def quotedOrNone : Option Text → Text
  | some t => Text.quoted t
  | none => "None".toList

/-- A file has been read. -/
def fileRead (path : Path) (text : Text) : LogEntry :=
  ⟨.debug, .reading, "Read ".toList ++ Text.ofNat text.length ++ " characters from ".toList ++
    path.toText⟩

/-- A file is converted. -/
def converting (path : Path) (doc : Document) : LogEntry :=
  ⟨.info, .command, "Converting ".toList ++ path.toText ++ " (".toList ++
    Text.ofNat doc.lines.length ++ " lines)".toList⟩

/-- A title line has been read. -/
def title (md : Metadata) : List LogEntry :=
  match md.packageName with
  | none => []
  | some name =>
    [⟨.debug, .metadata, "Title ".toList ++ quotedOrNone md.title ++ " for package ".toList ++
      Text.quoted name⟩]

/-- What a step of a scan over `total` lines has to tell. -/
def scanStep (total : Nat) (step : ScanStep) : Option LogEntry :=
  step.event.map fun event =>
    ⟨.debug, .scanning,
      match event with
      | .noCommentary => "No Commentary marker; body is empty".toList
      | .licenseSkipped count => "Skipped ".toList ++ Text.ofNat count ++ " license lines".toList
      | .blockRead b =>
        "Block ".toList ++ b.kind.name ++ " (".toList ++ Text.ofNat b.lines.length ++
          " lines) ending at line ".toList ++ Text.ofNat (total - step.scan.rest.length)⟩

/-- Tokens have been emitted for blocks. -/
def emitted (sink : Sink) (blocks : List Block) : LogEntry :=
  ⟨.debug, .emission, "Emitted ".toList ++ Text.ofNat sink.tokens.length ++ " tokens from ".toList ++
    Text.ofNat blocks.length ++ " blocks".toList⟩

/-- Output has been written. -/
def written (sink : Sink) (path : Path) : LogEntry :=
  ⟨.info, .writing, "Wrote ".toList ++ Text.ofNat sink.tokens.length ++ " lines to ".toList ++
    path.toText⟩

/-- What the conversion of a document without hooks has to tell. -/
def conversion (s : Settings) (doc : Document) (sink : Sink) : List LogEntry :=
  let steps := ((Scan.ofDocument doc.lines).trace s.marker).1
  title (Metadata.ofDocument s doc) ++ steps.filterMap (scanStep doc.lines.length) ++
    [emitted sink (steps.filterMap ScanStep.block?)]

end Log

end Commentary
