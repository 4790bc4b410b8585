/-!
# Trees of YAML

A document is a tree of scalars, sequences and mappings.  A scalar keeps its text, and how it was
written: that decides whether the text may stand for something else than a text.  A tag says what a
node is for.
-/

namespace JetStream.Yaml

/-- How a scalar is written. -/
inductive ScalarStyle where
  /-- Without quotes, and not as a block. -/
  | plain
  /-- In quotes of either kind. -/
  | quoted
  /-- As a block that keeps its lines. -/
  | literal
  /-- As a block that joins its lines. -/
  | folded
  deriving DecidableEq, Inhabited

/-- A scalar. -/
structure Scalar where
  /-- What it says, quotes and folds undone. -/
  text : String
  style : ScalarStyle
  deriving DecidableEq, Inhabited

/-- A node of a document. -/
inductive Node where
  | scalar (value : Scalar)
  | sequence (items : List Node)
  | mapping (entries : List (Node × Node))
  | tagged (tag : String) (node : Node)
  deriving Inhabited

/-- The scalar that nothing at all stands for. -/
def Node.empty : Node := .scalar ⟨"", .plain⟩

/-- The tag of truth values. -/
def boolTag : String := "tag:yaml.org,2002:bool"

/-- The node without its tag. -/
def Node.untagged : Node → Node
  | .tagged _ node => node.untagged
  | node => node

/-- The text of a scalar. -/
def Node.text? (node : Node) : Option String :=
  match node.untagged with
  | .scalar value => some value.text
  | _ => none

/-- A document as far as it can be read. -/
structure Document where
  /-- What was read; nothing in a text without any content. -/
  root : Option Node
  /-- The whole text was read.  Of a mapping or a sequence what stands before the place that cannot
  be read is kept. -/
  isComplete : Bool
  deriving Inhabited

end JetStream.Yaml
