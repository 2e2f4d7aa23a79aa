import Commentary.Text.Basic

/-!
# Control sequences

A terminal reads an escape character, a bracket, parameters and a letter as one command. What is
printed for people to read leaves such sequences out.
-/

namespace Commentary.Text

/-- The character that starts a control sequence. -/
def escape : Char := '\x1b'

/-- A character between the bracket of a control sequence and its letter. -/
def isParameter (c : Char) : Bool := c.isDigit || c == ';' || c == '?'

/-- How far a control sequence has been read. -/
inductive ControlState where
  /-- Nothing of it. -/
  | outside
  /-- The escape character. -/
  | escaped
  /-- The escape character, the bracket and these parameters. -/
  | opened (parameters : Text)
  deriving DecidableEq, Repr

/-- The text that has been read of a sequence that turns out to be none. -/
def ControlState.text : ControlState → Text
  | .outside => []
  | .escaped => [escape]
  | .opened parameters => escape :: '[' :: parameters

/-- Leave control sequences out, after the beginning of one has been read. -/
def withoutControlsFrom (state : ControlState) : Text → Text
  | [] => state.text
  | c :: t =>
    match state with
    | .outside =>
      if c == escape then withoutControlsFrom .escaped t else c :: withoutControlsFrom .outside t
    | .escaped =>
      if c == '[' then withoutControlsFrom (.opened []) t
      else if c == escape then escape :: withoutControlsFrom .escaped t
      else escape :: c :: withoutControlsFrom .outside t
    | .opened parameters =>
      if isParameter c then withoutControlsFrom (.opened (parameters ++ [c])) t
      else if c.isAlpha then withoutControlsFrom .outside t
      else if c == escape then escape :: '[' :: parameters ++ withoutControlsFrom .escaped t
      else escape :: '[' :: parameters ++ c :: withoutControlsFrom .outside t

/-- A text without its control sequences. A beginning that no letter ends stays. -/
def withoutControls (t : Text) : Text := withoutControlsFrom .outside t

end Commentary.Text
