import JetStream.Yaml.Character

/-!
# Positions in a document

A position is the text that is still to be read, with the line, the column and the number of the
character that it begins with.  Columns decide what belongs together, and a gap between two words
says how they are joined.
-/

namespace JetStream.Yaml

/-- A place in a text. -/
structure Position where
  /-- The text from there on. -/
  rest : List Char
  /-- How many lines end before it. -/
  line : Nat
  /-- How many characters of its line are before it. -/
  column : Nat
  /-- How many characters are before it. -/
  index : Nat

namespace Position

/-- The beginning of a text. -/
def start (cs : List Char) : Position := ⟨cs, 0, 0, 0⟩

/-- Behind the next character. -/
def next (p : Position) : Position :=
  match p.rest with
  | [] => p
  | c :: rest =>
      if isBreak c then ⟨rest, p.line + 1, 0, p.index + 1⟩
      else ⟨rest, p.line, p.column + 1, p.index + 1⟩

/-- Behind so many characters. -/
def skip : Nat → Position → Position
  | 0, p => p
  | n + 1, p => skip n p.next

/-- Behind the characters at the front that pass a test. -/
def skipWhile (test : Char → Bool) (p : Position) : Position :=
  p.skip (p.rest.takeWhile test).length

/-- Behind the rest of the line, before its break. -/
def skipLine (p : Position) : Position := p.skipWhile (!isBreak ·)

/-- Behind the next character, if it is this one. -/
def skipChar? (c : Char) (p : Position) : Option Position :=
  if p.rest.head? = some c then some p.next else none

/-- A line begins there that begins or ends a document. -/
def isDocumentMark (p : Position) : Bool := p.column == 0 && Yaml.isDocumentMark p.rest

/-- The beginning of the next line, where nothing but blanks and a comment is left on this one; the
end of the text where no line follows. -/
def endOfLine? (p : Position) : Option Position :=
  let p := p.skipWhile isBlank
  let p := if p.rest.head? = some '#' then p.skipLine else p
  if p.rest.head?.all isBreak then some p.next else none

end Position

/-- White space inside of a scalar. -/
structure Gap where
  /-- The blanks before the first line break. -/
  blanks : List Char
  /-- The line breaks. -/
  breaks : List Char
  /-- What follows. -/
  after : Position

/-- The white space at a position. -/
def Position.gap (p : Position) : Gap :=
  let run := p.rest.takeWhile isSpace
  ⟨run.takeWhile isBlank, run.filter isBreak, p.skip run.length⟩

/-- What line breaks between two words stand for: a single line feed for a space, and of several
breaks a line feed in front does not count. -/
def foldedBreaks : List Char → List Char
  | ['\n'] => [' ']
  | '\n' :: breaks => breaks
  | breaks => breaks

namespace Gap

/-- There is no white space. -/
def isEmpty (g : Gap) : Bool := g.blanks.isEmpty && g.breaks.isEmpty

/-- It goes over the end of a line. -/
def isBroken (g : Gap) : Bool := !g.breaks.isEmpty

/-- What it stands for between two words: blanks stay, line breaks are folded. -/
def text (g : Gap) : List Char := if g.isBroken then foldedBreaks g.breaks else g.blanks

end Gap

end JetStream.Yaml
