import JetStream.Yaml.Position

/-!
# Block scalars of YAML

A text on the lines below its header `|`, which keeps line breaks, or `>`, which folds those
between lines that begin with a word.  The lines are indented further than what holds the text; the
first with content shows by how much, unless the header does.  The header also says whether the
breaks at the end are dropped (`-`), kept (`+`) or made one.
-/

namespace JetStream.Yaml

/-- What happens to the line breaks at the end. -/
inductive Chomping where
  | strip
  | clip
  | keep
  deriving DecidableEq

/-- The header of a block scalar, after its first character. -/
structure Header where
  chomping : Chomping
  /-- By how much the lines are indented, if the header says so. -/
  indent : Option Nat
  /-- The first line of the text. -/
  after : Position

/-- The chomping that a character stands for. -/
def Chomping.ofChar? : Char → Option Chomping
  | '-' => some .strip
  | '+' => some .keep
  | _ => none

/-- The chomping that the header shows here, if it does. -/
def chompingAt (p : Position) : Option Chomping × Position :=
  match p.rest.head?.bind Chomping.ofChar? with
  | some chomping => (some chomping, p.next)
  | none => (none, p)

/-- The indentation that the header shows here, if it does; it is not zero. -/
def indentAt? (p : Position) : Option (Option Nat × Position) :=
  match p.rest with
  | c :: _ =>
      if c = '0' then none
      else if c.isDigit then some (some (c.toNat - '0'.toNat), p.next)
      else some (none, p)
  | [] => some (none, p)

/-- The header, with its two marks in either order, up to the end of its line. -/
def Header.read? (p : Position) : Option Header := do
  match chompingAt p with
  | (some chomping, p) =>
      let (indent, p) ← indentAt? p
      some ⟨chomping, indent, ← p.endOfLine?⟩
  | (none, p) =>
      let (indent, p) ← indentAt? p
      let (chomping, p) := if indent.isSome then chompingAt p else (none, p)
      some ⟨chomping.getD .clip, indent, ← p.endOfLine?⟩

/-- Lines without content, up to the column where the text of the next line begins. -/
structure EmptyLines where
  breaks : List Char
  /-- The most columns that one of the lines, or the next, is indented by. -/
  widest : Nat
  after : Position

/-- The empty lines at a position.  Where the indentation is known only spaces up to it are
skipped, and no tab may stand in their place. -/
def emptyLinesFrom? (indent : Option Nat) : Nat → Position → Option EmptyLines
  | 0, p => some ⟨[], p.column, p⟩
  | fuel + 1, p =>
      let spaces := (p.rest.takeWhile (· = ' ')).length
      let p := p.skip (indent.elim spaces fun column => min spaces (column - p.column))
      if p.rest.head? = some '\t' ∧ indent.all (p.column < ·) then none
      else if p.rest.head?.any isBreak then do
        let more ← emptyLinesFrom? indent fuel p.next
        some ⟨p.rest.take 1 ++ more.breaks, max p.column more.widest, more.after⟩
      else some ⟨[], p.column, p⟩

/-- The empty lines at a position. -/
def emptyLines? (indent : Option Nat) (p : Position) : Option EmptyLines :=
  emptyLinesFrom? indent (p.rest.length + 1) p

/-- What a line of a block stands behind. -/
structure LineEnd where
  /-- The break of the last line with content. -/
  lastBreak : List Char
  /-- The breaks of the empty lines after it. -/
  empty : List Char
  /-- The last line with content begins with a blank. -/
  isIndented : Bool

/-- What stands before the next line of a text.  In a folded text a single line break between two
lines that begin with words is a space. -/
def LineEnd.text (e : LineEnd) (isLiteral isNextIndented : Bool) : List Char :=
  if !isLiteral && e.lastBreak = ['\n'] && !e.isIndented && !isNextIndented then
    if e.empty = [] then [' '] else e.empty
  else e.lastBreak ++ e.empty

/-- The lines with content that are indented by so many columns, joined; the end of the last; and
what follows. -/
def blockLines? (isLiteral : Bool) (indent : Nat) :
    Nat → LineEnd → Position → Option (List Char × LineEnd × Position)
  | 0, lineEnd, p => some ([], lineEnd, p)
  | fuel + 1, lineEnd, p =>
      if p.column = indent ∧ p.rest ≠ [] then do
        let isIndented := p.rest.head?.any isBlank
        let line := p.rest.takeWhile (!isBreak ·)
        let p := p.skip line.length
        let empty ← emptyLines? (some indent) p.next
        let (text, last, after) ←
          blockLines? isLiteral indent fuel ⟨p.rest.take 1, empty.breaks, isIndented⟩ empty.after
        some (lineEnd.text isLiteral isIndented ++ line ++ text, last, after)
      else some ([], lineEnd, p)

/-- The breaks at the end of a text. -/
def Chomping.text : Chomping → LineEnd → List Char
  | strip, _ => []
  | clip, last => last.lastBreak
  | keep, last => last.lastBreak ++ last.empty

/-- The block scalar behind its first character, inside of a node whose content is indented by at
least `low`, and what follows the scalar. -/
def blockScalar? (isLiteral : Bool) (low : Nat) (p : Position) :
    Option (List Char × Position) := do
  let header ← Header.read? p
  let fixed := header.indent.map (low - 1 + ·)
  let empty ← emptyLines? fixed header.after
  let indent := fixed.getD (max empty.widest (max low 1))
  let (text, last, after) ← blockLines? isLiteral indent (p.rest.length + 1)
    ⟨[], empty.breaks, false⟩ empty.after
  some (text ++ header.chomping.text last, after)

end JetStream.Yaml
