import Commentary.Settings

/-!
# Command line arguments

The commands, their options and how an argument list is read. Options may stand before or after the
arguments; `--` ends them. A list that cannot be read gives nothing.
-/

namespace Commentary

/-- What the tool can be asked to do. -/
inductive CommandName where
  /-- Print the Markdown. -/
  | view
  /-- Write the Markdown to a named file. -/
  | write
  /-- Write the Markdown to the README beside the source. -/
  | readme
  deriving DecidableEq, Repr

/-- A command by its name. -/
def CommandName.ofText? (t : Text) : Option CommandName :=
  if t == "view".toList then some .view
  else if t == "write".toList then some .write
  else if t == "readme".toList then some .readme
  else none

/-- The options of the commands. -/
inductive OptionName where
  | symmetricQuotes
  | noSymmetricQuotes
  | key
  | encoding
  | output
  | force
  deriving DecidableEq, Repr

/-- What the options of a command line say. -/
structure Options where
  /-- Whether quoted spans may also end in a backtick. -/
  symmetricQuotes : Bool := false
  /-- Further key names. -/
  keys : List Text := []
  /-- The encoding of the source and of what is written. -/
  encoding : Text := "utf-8".toList
  /-- The file to write. -/
  output : Option Text := none
  /-- Whether to overwrite without asking. -/
  force : Bool := false
  deriving DecidableEq, Repr

namespace OptionName

/-- Whether an option takes a value. -/
def takesValue : OptionName → Bool
  | .key | .encoding | .output => true
  | _ => false

/-- Whether a command has an option. -/
def belongsTo : OptionName → CommandName → Bool
  | .output, command => command == .write
  | .force, command => command != .view
  | _, _ => true

/-- An option by its long name. -/
def ofLong? (t : Text) : Option OptionName :=
  if t == "--symmetric-quotes".toList then some .symmetricQuotes
  else if t == "--no-symmetric-quotes".toList then some .noSymmetricQuotes
  else if t == "--key".toList then some .key
  else if t == "--encoding".toList then some .encoding
  else if t == "--output".toList then some .output
  else if t == "--force".toList then some .force
  else none

/-- An option by its letter. -/
def ofLetter? : Char → Option OptionName
  | 'k' => some .key
  | 'o' => some .output
  | 'f' => some .force
  | _ => none

/-- A flag that is given. -/
def setFlag (o : Options) : OptionName → Options
  | .symmetricQuotes => { o with symmetricQuotes := true }
  | .noSymmetricQuotes => { o with symmetricQuotes := false }
  | .force => { o with force := true }
  | _ => o

/-- An option that is given with a value. -/
def setValue (o : Options) (value : Text) : OptionName → Options
  | .key => { o with keys := o.keys ++ [value] }
  | .encoding => { o with encoding := value }
  | .output => { o with output := some value }
  | _ => o

end OptionName

/-- Options that have been read, and the option whose value is the next argument. -/
structure ReadOption where
  /-- What the options say so far. -/
  options : Options
  /-- The option that waits for its value. -/
  waiting : Option OptionName
  deriving DecidableEq, Repr

namespace Arguments

/-- Read a long option, which may have its value behind an equals sign. -/
def readLong (command : CommandName) (o : Options) (arg : Text) : Option ReadOption := do
  let name := arg.takeWhile (· != '=')
  let option ← OptionName.ofLong? name
  if !option.belongsTo command then none
  else match arg.drop name.length, option.takesValue with
    | [], true => some ⟨o, some option⟩
    | [], false => some ⟨option.setFlag o, none⟩
    | _ :: value, true => some ⟨option.setValue o value, none⟩
    | _ :: _, false => none

/-- Read the letters of a short option: flags in a row, and possibly an option whose value is the
rest of the letters or the next argument. -/
def readLetters (command : CommandName) (o : Options) : Text → Option ReadOption
  | [] => some ⟨o, none⟩
  | c :: rest =>
    match OptionName.ofLetter? c with
    | none => none
    | some option =>
      if !option.belongsTo command then none
      else if !option.takesValue then readLetters command (option.setFlag o) rest
      else if rest == [] then some ⟨o, some option⟩
      else some ⟨option.setValue o rest, none⟩

/-- Read one option. -/
def readOption (command : CommandName) (o : Options) : Text → Option ReadOption
  | '-' :: '-' :: name => readLong command o ('-' :: '-' :: name)
  | '-' :: letters => readLetters command o letters
  | _ => none

/-- Whether an argument is an option. A dash alone is none. -/
def isOption : Text → Bool
  | '-' :: _ :: _ => true
  | _ => false

/-- Read arguments: the options and the arguments that are none, in order. The option that is
`waiting` takes the next argument as its value, whatever it is. -/
def read (command : CommandName) (o : Options) (waiting : Option OptionName) (plain : List Text) :
    List Text → Option (Options × List Text)
  | [] => if waiting.isSome then none else some (o, plain)
  | arg :: args =>
    match waiting with
    | some option => read command (option.setValue o arg) none plain args
    | none =>
      if arg == ['-', '-'] then some (o, plain ++ args)
      else if isOption arg then
        match readOption command o arg with
        | none => none
        | some r => read command r.options r.waiting plain args
      else read command o none (plain ++ [arg]) args

/-- Read the options before the command: whether the run is verbose, and what follows them. -/
def readVerbose (verbose : Bool) : List Text → Option (Bool × List Text)
  | [] => none
  | arg :: args =>
    if arg == ['-', '-'] then some (verbose, args)
    else if !isOption arg then some (verbose, arg :: args)
    else if arg == "--verbose".toList then readVerbose true args
    else match arg with
      | '-' :: letters => if letters.all (· == 'v') then readVerbose true args else none
      | _ => none

end Arguments

/-- A command line that has been read. -/
structure Invocation where
  /-- Whether the log is written. -/
  verbose : Bool
  /-- What is to be done. -/
  command : CommandName
  /-- The source file, as it was given. -/
  input : Text
  /-- What the options say. -/
  options : Options
  deriving DecidableEq, Repr

/-- Read a command line. Every command takes one source file, and a named file to write is asked for
by one of them. -/
def Invocation.ofArguments? (args : List Text) : Option Invocation := do
  let (verbose, rest) ← Arguments.readVerbose false args
  let name ← rest.head?
  let command ← CommandName.ofText? name
  let (options, plain) ← Arguments.read command {} none [] rest.tail
  match plain with
  | [input] =>
    if command == .write && options.output.isNone then none
    else some ⟨verbose, command, input, options⟩
  | _ => none

/-- The settings that options ask for: their key names add to those that are always known. -/
def Options.settings (o : Options) : Settings :=
  { Settings.default with
    symmetricQuotes := o.symmetricQuotes
    keyNames := Settings.default.keyNames ++ o.keys }

end Commentary
