/-!
# Characters of YAML

The classes of characters that set words, lines and flow collections apart.
-/

namespace JetStream.Yaml

/-- A blank between words. -/
def isBlank (c : Char) : Bool := c = ' ' || c = '\t'

/-- A line break inside of a document, where any of the ASCII ones is a line feed. -/
def isBreak (c : Char) : Bool := c = '\n' || c = '\u2028' || c = '\u2029'

/-- A blank or a line break. -/
def isSpace (c : Char) : Bool := isBlank c || isBreak c

/-- A blank, a line break or the end. -/
def endsWord (cs : List Char) : Bool := cs.head?.all isSpace

/-- Sets flow collections apart. -/
def isFlowMark (c : Char) : Bool :=
  c = ',' || c = '[' || c = ']' || c = '\x7b' || c = '\x7d'

/-- A character of the name of an anchor, a tag handle or a directive. -/
def isNameChar (c : Char) : Bool := c.isAlphanum || c = '_' || c = '-'

/-- Begins something else than a plain scalar. -/
def isIndicator (c : Char) : Bool :=
  ['#', '&', '*', '!', '|', '>', '\x27', '"', '%', '@', '\x60'].contains c

/-- A plain scalar may begin here. -/
def startsPlain (inFlow : Bool) : List Char → Bool
  | [] => false
  | c :: rest =>
      if c = '-' then !endsWord rest
      else if c = '?' ∨ c = ':' then !inFlow && !endsWord rest
      else !(isSpace c || isFlowMark c || isIndicator c)

/-- The line begins or ends a document. -/
def isDocumentMark (line : List Char) : Bool :=
  (line.take 3 = ['-', '-', '-'] || line.take 3 = ['.', '.', '.']) && endsWord (line.drop 3)

/-- The characters that a document may hold. -/
def isAllowed (c : Char) : Bool :=
  let n := c.toNat
  n = 0x9 || n = 0xa || n = 0xd || (0x20 ≤ n && n ≤ 0x7e) || n = 0x85 ||
    (0xa0 ≤ n && n ≤ 0xfffd) || 0x10000 ≤ n

/-- The text with carriage returns, pairs of these with line feeds, and next-line marks as line
feeds. -/
def unifyBreaks : List Char → List Char
  | [] => []
  | '\r' :: '\n' :: rest => '\n' :: unifyBreaks rest
  | c :: rest => (if c = '\r' ∨ c = '\u0085' then '\n' else c) :: unifyBreaks rest

end JetStream.Yaml
