import Commentary.Arguments
import Commentary.Log
import Commentary.Storage
import Commentary.Text.Control

/-!
# Commands

What a command does to the file tree and what it prints. Before an existing file is overwritten a
question is asked, and asked again until the answer is understood.
-/

namespace Commentary

/-- How a run ends. -/
inductive Outcome where
  /-- The command line could not be read, or names no source file. -/
  | usage
  /-- The run came to its end. -/
  | finished (exit : Nat) (out err : Text)
  /-- A question was asked and no answer was left. -/
  | unanswered (out err : Text)
  /-- An error that no command reports by itself. -/
  | failed (e : Error) (out : Text)
  deriving DecidableEq, Repr

/-- What a run has written so far. -/
structure Printed where
  /-- The standard output. -/
  out : Text := []
  /-- The standard error. -/
  err : Text := []
  deriving DecidableEq, Repr

/-- How a series of answers ends. -/
inductive Decision where
  | yes
  | no
  | unanswered
  deriving DecidableEq, Repr

namespace Command

/-- Print on the standard output, without control sequences. -/
def print (p : Printed) (t : Text) : Printed := { p with out := p.out ++ Text.withoutControls t }

/-- A line on the standard error, without control sequences. -/
def complain (p : Printed) (line : Text) : Printed :=
  { p with err := p.err ++ Text.withoutControls (line ++ ['\n']) }

/-- Write log lines as they are, if the run is verbose. -/
def note (verbose : Bool) (p : Printed) (entries : List LogEntry) : Printed :=
  if verbose then { p with err := p.err ++ entries.flatMap LogEntry.line } else p

/-- What is said when nothing is written. -/
def abortedLine : Text := "Aborted.".toList

/-- The question before a file is overwritten. -/
def question (path : Path) : Text :=
  Text.withoutControls (path.toText ++ " exists. Overwrite? [y/N]: ".toList)

/-- What is said to an answer that is not understood. -/
def invalidAnswer : Text := "Error: invalid input\n".toList

/-- An answer in small letters and without blanks around it. No answer means no. -/
def readAnswer (line : Text) : Option Bool :=
  let word := Text.trim (Text.lower line)
  if word == "y".toList || word == "yes".toList then some true
  else if word == "n".toList || word == "no".toList || word == [] then some false
  else none

/-- Ask until an answer is understood; the text is what has been asked. -/
def ask (q : Text) : List Text → Text × Decision
  | [] => (q, .unanswered)
  | line :: lines =>
    match readAnswer line with
    | some true => (q, .yes)
    | some false => (q, .no)
    | none =>
      let later := ask q lines
      (q ++ invalidAnswer ++ later.1, later.2)

/-- Write a sink to a path. -/
def save (verbose : Bool) (tree : FileTree) (sink : Sink) (path : Path) (encoding : Text)
    (p : Printed) : Outcome × FileTree :=
  match sink.save tree path true encoding with
  | (tree, .ok ()) =>
    let p := print (note verbose p [Log.written sink path]) (path.toText ++ ['\n'])
    (.finished 0 p.out p.err, tree)
  | (tree, .error (.file e)) =>
    let p := complain p ("error: cannot write ".toList ++ path.toText ++ ": ".toList ++ e.message)
    (.finished 1 p.out p.err, tree)
  | (tree, .error e) => (.failed e p.out, tree)

/-- Write a sink to a path, after a question if the path exists and the answer is not forced. -/
def saveOrAsk (verbose force : Bool) (tree : FileTree) (sink : Sink) (path : Path) (encoding : Text)
    (answers : List Text) (p : Printed) : Outcome × FileTree :=
  match tree.pathExists path.toText with
  | .error e => (.failed (.file ⟨e, path.toText⟩) p.out, tree)
  | .ok found =>
    if found && !force then
      let (asked, decision) := ask (question path) answers
      let p := { p with out := p.out ++ asked }
      match decision with
      | .yes => save verbose tree sink path encoding p
      | .no =>
        let p := complain p abortedLine
        (.finished 1 p.out p.err, tree)
      | .unanswered => (.unanswered p.out p.err, tree)
    else save verbose tree sink path encoding p

/-- The path that a command writes to. -/
def target (i : Invocation) : Option Path :=
  match i.command with
  | .view => none
  | .write => some (Path.ofText (i.options.output.getD []))
  | .readme => some (Path.ofText i.input).readme

/-- Print or write what the conversion has left in the sink. -/
def deliver (i : Invocation) (tree : FileTree) (sink : Sink) (answers : List Text) (p : Printed) :
    Outcome × FileTree :=
  match target i with
  | none =>
    let p := print p sink.value
    (.finished 0 p.out p.err, tree)
  | some path => saveOrAsk i.verbose i.options.force tree sink path i.options.encoding answers p

/-- How a run ends whose source cannot be read. -/
def cannotRead (path : Path) (message : Text) : Outcome :=
  let p := complain {} ("error: cannot read ".toList ++ path.toText ++ ": ".toList ++ message)
  .finished 1 p.out p.err

/-- Convert the source file and deliver the result. -/
def convertAndDeliver (i : Invocation) (tree : FileTree) (answers : List Text) : Outcome × FileTree :=
  let config : Config := { i.options.settings with }
  let path := Path.ofText i.input
  match readText tree path.toText i.options.encoding with
  | .error (.file e) => (cannotRead path e.message, tree)
  | .error (.undecodable e) => (cannotRead path e.message, tree)
  | .error e => (.failed e [], tree)
  | .ok text =>
    let doc := Document.ofText config.markers text (some path.name)
    match emit tree config doc with
    | .error e => (.failed e [], tree)
    | .ok sink =>
      let p := note i.verbose {} (Log.fileRead path text :: Log.converting path doc ::
        Log.conversion config.toSettings doc sink)
      deliver i tree sink answers p

/-- Whether the file to write, if one is named, has a name that a file can have. -/
def namesFile (i : Invocation) : Bool := !i.options.output.any (·.contains '\x00')

/-- Run a command that has been read. The source has to be a file. -/
def runInvocation (i : Invocation) (tree : FileTree) (answers : List Text) : Outcome × FileTree :=
  match namesFile i, tree.lookup (Path.ofText i.input).toText with
  | true, .ok (.file _) => convertAndDeliver i tree answers
  | _, _ => (.usage, tree)

/-- Run a command line, with the lines that questions are answered by. -/
def run (tree : FileTree) (args answers : List Text) : Outcome × FileTree :=
  match Invocation.ofArguments? args with
  | none => (.usage, tree)
  | some i => runInvocation i tree answers

/-- The lines of an input: what stands before each newline, and the rest if there is one. -/
def answerLines (input : Text) : List Text :=
  let parts := List.splitOn '\n' (Text.unifyNewlines input)
  if parts.getLast? == some [] then parts.dropLast else parts

/-- How a run ends if no answer follows any more: a question that stays open writes nothing. -/
def atInputEnd : Outcome → Outcome
  | .unanswered out err =>
    let p := complain ⟨out, err⟩ abortedLine
    .finished 1 p.out p.err
  | outcome => outcome

/-- Run a command line on the whole input that questions are answered from. -/
def runOn (tree : FileTree) (args : List Text) (input : Text) : Outcome × FileTree :=
  let (outcome, tree) := run tree args (answerLines input)
  (atInputEnd outcome, tree)

end Command

end Commentary
