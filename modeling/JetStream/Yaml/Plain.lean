import JetStream.Yaml.Position

/-!
# Plain scalars of YAML

A plain scalar is a row of words.  It ends before a colon with white space behind it, before a
comment, before a line that marks a document, and inside of brackets or braces before one of these
or a comma.  It goes on over line breaks, which are folded, as long as the lines are indented far
enough or the scalar is in a flow collection.
-/

namespace JetStream.Yaml

/-- A colon before it, inside of a flow collection, belongs neither to a word nor to a pair. -/
def isRefusedAfterColon (c : Char) : Bool := isFlowMark c || c = '?'

/-- The word at the front. -/
def word? (inFlow : Bool) : List Char → Option (List Char)
  | [] => some []
  | c :: rest =>
      if isSpace c then some []
      else if inFlow && c = ':' && rest.head?.any isRefusedAfterColon then none
      else if (c = ':' && endsWord rest) || (inFlow && isFlowMark c) then some []
      else (word? inFlow rest).map (c :: ·)

/-- A tab stands in front of the column `low` on a line after the first. -/
def hasTabIndent (low : Nat) (isLater : Bool) (column : Nat) : List Char → Bool
  | [] => false
  | c :: rest =>
      if isBreak c then hasTabIndent low true 0 rest
      else if isBlank c then
        (isLater && c = '\t' && column < low) || hasTabIndent low isLater (column + 1) rest
      else false

/-- A plain scalar as it stands in a document. -/
structure Plain where
  /-- Its words and the gaps between them. -/
  text : List Char
  /-- Line breaks were passed behind its last word. -/
  isLineEnded : Bool
  /-- What follows the scalar, and the white space behind it. -/
  after : Position

/-- The words from a position on, where continued lines begin in the column `low` or further in. -/
def plainWords? (inFlow : Bool) (low : Nat) : Nat → Position → Option Plain
  | 0, p => some ⟨[], false, p⟩
  | fuel + 1, p =>
      if p.isDocumentMark || p.rest.head? == some '#' then some ⟨[], false, p⟩
      else do
        let word ← word? inFlow p.rest
        let p := p.skip word.length
        let gap := p.gap
        if gap.isEmpty then some ⟨word, false, p⟩
        else if hasTabIndent low false p.column p.rest then none
        else if !inFlow && gap.after.column < low then some ⟨word, gap.isBroken, gap.after⟩
        else
          let more ← plainWords? inFlow low fuel gap.after
          if more.text = [] then some ⟨word, gap.isBroken, more.after⟩
          else some ⟨word ++ gap.text ++ more.text, more.isLineEnded, more.after⟩

/-- The plain scalar at a position. -/
def plain? (inFlow : Bool) (low : Nat) (p : Position) : Option Plain :=
  plainWords? inFlow low (p.rest.length + 1) p

end JetStream.Yaml
