import Commentary.Emission

/-!
# Hooks

A hook is a list of actions on the sink that run after a conversion. What an action does to the sink
is an emission, so that actions compose like blocks do.
-/

namespace Commentary

/-- An action on a sink. -/
inductive Action where
  | append (t : Token)
  | header (level : Int) (t : Text)
  | text (t : Text)
  | blank
  | rule
  | attribution (t : Text)
  /-- Empty a copy of the tokens, which changes nothing. -/
  | clearCopy
  | emitBlock (s : Settings) (b : Block)
  | emitBlocks (s : Settings) (bs : List Block)
  | emitMetadata (s : Settings) (md : Metadata)
  /-- Give up. -/
  | fail (e : Error)
  deriving DecidableEq, Repr

/-- What an action hands to the sink. -/
def Action.emission : Action → Emission
  | .append t => .ofTokens [t]
  | .header level t => .ofTokens [.header level t]
  | .text t => .ofTokens [.line t]
  | .blank => .ofTokens [.blank]
  | .rule => .ofTokens [.rule]
  | .attribution t => .ofTokens [.attribution t]
  | .clearCopy => .ofTokens []
  | .emitBlock s b => b.emission s
  | .emitBlocks s bs => blocksEmission s bs
  | .emitMetadata s md => .ofTokens (md.tokens s)
  | .fail e => .fail e

/-- Perform an action: the sink afterwards, and the error of an action that failed. -/
def Sink.perform (s : Sink) (a : Action) : Sink × Option Error :=
  (a.emission.into s, a.emission.error)

/-- Perform actions in order. One that fails does not keep the others from their turn. -/
def Sink.performAll (s : Sink) (actions : List Action) : Sink :=
  actions.foldl (fun s a => (s.perform a).1) s

/-- The actions of a hook. -/
abbrev Hook := List Action

/-- What a hook hands to the sink, up to its first error. -/
def Hook.emission (h : Hook) : Emission := .sequence (h.map Action.emission)

/-- What hooks hand to the sink, up to the first error. -/
def hooksEmission (hs : List Hook) : Emission := .sequence (hs.map Hook.emission)

/-- Settings together with the hooks that run after a conversion. -/
structure Config extends Settings where
  /-- The hooks in the order in which they run. -/
  hooks : List Hook := []
  deriving DecidableEq, Repr

/-- The configuration that holds when nothing is said. -/
def Config.default : Config := {}

end Commentary
