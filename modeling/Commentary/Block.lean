import Commentary.Text.Basic

/-!
# Blocks

The body of a commentary is a list of blocks, each a run of comment lines read as one thing.
-/

namespace Commentary

/-- What a block is read as. -/
inductive BlockKind where
  | heading
  | paragraph
  | bulletList
  | codeBlock
  deriving DecidableEq, Repr

/-- The name of a block kind in records and log lines. -/
def BlockKind.name : BlockKind → Text
  | .heading => "heading".toList
  | .paragraph => "paragraph".toList
  | .bulletList => "bullet_list".toList
  | .codeBlock => "code_block".toList

/-- How deep a heading stands: the first one of a body, or a later one. -/
inductive HeadingLevel where
  | two
  | three
  deriving DecidableEq, Repr

/-- The number of a heading level. -/
def HeadingLevel.toNat : HeadingLevel → Nat
  | .two => 2
  | .three => 3

/-- A run of comment lines and what it is read as. -/
structure Block where
  /-- What the lines are read as. -/
  kind : BlockKind
  /-- The comment texts, without their markers. -/
  lines : List Text
  /-- The level of a heading. -/
  level : Option HeadingLevel
  deriving DecidableEq, Repr

/-- Whether a block is a bullet list. -/
def Block.isBulletList (b : Block) : Bool := b.kind == .bulletList

end Commentary
