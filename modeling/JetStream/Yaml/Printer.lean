import JetStream.Text.Hex
import JetStream.Yaml.Character
import JetStream.Yaml.Value

/-!
# Texts as YAML scalars

A text is written plain where that reads back as the same text.  Otherwise it stands in single
quotes; in double quotes if it has characters that must be escaped, or spaces that would be lost at
the end of a line; and as a block if it has line feeds.
-/

namespace JetStream.Yaml

/-- A character that can stand in a document as it is. -/
def isWritable (c : Char) : Bool :=
  let n := c.toNat
  n = 0xa || (0x20 ≤ n && n ≤ 0x7e) || (0xa0 ≤ n && n ≤ 0xfffd && n ≠ 0xfeff)

/-- The character sets parts of a plain scalar apart at a place after its first. -/
def isInnerMark (before c : Char) (rest : List Char) : Bool :=
  (c = ':' && endsWord rest) || (c = '#' && isBlank before)

/-- Such a mark anywhere after the character given first. -/
def hasInnerMark (before : Char) : List Char → Bool
  | [] => false
  | c :: rest => isInnerMark before c rest || hasInnerMark c rest

/-- The text could be taken for something else than a plain scalar. -/
def hasMark : List Char → Bool
  | [] => false
  | c :: rest =>
      !startsPlain false (c :: rest) || isDocumentMark ((c :: rest).take 3) ||
        hasInnerMark c rest

/-- A blank begins or ends the text. -/
def hasOuterSpace (cs : List Char) : Bool :=
  cs.head? == some ' ' || cs.getLast? == some ' '

/-- A space stands directly before a line break. -/
def hasSpaceBeforeBreak : List Char → Bool
  | [] => false
  | c :: rest => (c = ' ' && rest.head?.any isBreak) || hasSpaceBeforeBreak rest

/-- A space stands directly behind a line break. -/
def hasSpaceAfterBreak : List Char → Bool
  | [] => false
  | c :: rest => (isBreak c && rest.head? == some ' ') || hasSpaceAfterBreak rest

/-- How a text is set off. -/
inductive Style where
  | plain
  | single
  | double
  | literal
  deriving DecidableEq

/-- The plain scalar would stand for something else than its text, or for digits alone. -/
def needsQuotes (s : String) : Bool :=
  hasLeadingZero s.toList ||
    match Value.ofPlain s with
    | .text _ => false
    | _ => true

/-- How a text is written. -/
def Style.ofText (s : String) : Style :=
  let cs := s.toList
  if !cs.all isWritable then .double
  else if cs.contains '\n' then
    if cs.getLast? == some ' ' || hasSpaceBeforeBreak cs then .double else .literal
  else if cs.any isBreak then
    if hasSpaceBeforeBreak cs || hasSpaceAfterBreak cs then .double else .single
  else if needsQuotes s || hasMark cs || hasOuterSpace cs then .single
  else .plain

/-- The letter of a short escape. -/
def shortEscapeOf? (c : Char) : Option Char :=
  match c with
  | '\x00' => some '0'
  | '\x07' => some 'a'
  | '\x08' => some 'b'
  | '\t' => some 't'
  | '\n' => some 'n'
  | '\x0b' => some 'v'
  | '\x0c' => some 'f'
  | '\r' => some 'r'
  | '\x1b' => some 'e'
  | '"' => some '"'
  | '\\' => some '\\'
  | '\u0085' => some 'N'
  | '\u2028' => some 'L'
  | '\u2029' => some 'P'
  | _ => none

/-- How one character is written in double quotes. -/
def doubleQuotedChar (c : Char) : List Char :=
  match shortEscapeOf? c with
  | some e => ['\\', e]
  | none =>
      if isWritable c then [c]
      else if c.toNat ≤ 0xff then '\\' :: 'x' :: Text.hexPlaces 2 c.toNat
      else if c.toNat ≤ 0xffff then '\\' :: 'u' :: Text.hexPlaces 4 c.toNat
      else '\\' :: 'U' :: Text.hexPlaces 8 c.toNat

/-- The text ends with a line break. -/
def endsLine (cs : List Char) : Bool := cs.getLast?.any isBreak

/-- How many line breaks end a text, as the header of a block says it. -/
def chompingMark (cs : List Char) : List Char :=
  if !endsLine cs then ['-']
  else if cs.dropLast = [] || endsLine cs.dropLast then ['+']
  else []

/-- So many columns. -/
def indentation (indent : Nat) : List Char := List.replicate indent ' '

/-- The characters of a text, each written by itself.  Lines behind a break are indented by so many
columns, but empty lines are not. -/
def indented (indent : Nat) (write : Char → List Char) (isBehindBreak : Bool) :
    List Char → List Char
  | [] => []
  | c :: rest =>
      if isBreak c then c :: indented indent write true rest
      else
        (if isBehindBreak then indentation indent else []) ++ write c ++
          indented indent write false rest

/-- A text as a block. -/
def literalBlock (indent : Nat) (cs : List Char) : List Char :=
  let hint := if cs.head?.any isSpace then ['2'] else []
  '|' :: hint ++ chompingMark cs ++ '\n' :: indented indent ([·]) true cs

/-- How one character is written in single quotes. -/
def singleQuotedChar (c : Char) : List Char :=
  if c = '\x27' then ['\x27', '\x27'] else [c]

/-- A text in single quotes. -/
def singleQuoted (indent : Nat) (cs : List Char) : List Char :=
  '\x27' :: indented indent singleQuotedChar false cs ++
    (if endsLine cs then indentation indent else []) ++ ['\x27']

/-- A text in double quotes. -/
def doubleQuoted (cs : List Char) : List Char :=
  '"' :: cs.flatMap doubleQuotedChar ++ ['"']

/-- A text as a scalar; if it goes over several lines these are indented by so many columns. -/
def scalarText (indent : Nat) (s : String) : String :=
  match Style.ofText s with
  | .plain => s
  | .single => String.ofList (singleQuoted indent s.toList)
  | .double => String.ofList (doubleQuoted s.toList)
  | .literal => String.ofList (literalBlock indent s.toList)

/-- A truth value as a scalar. -/
def boolText (b : Bool) : String := if b then "true" else "false"

/-- An entry on a line of its own, so many columns in.  A value may end its line itself. -/
def entryText (indent : Nat) (name value : String) : String :=
  String.ofList (indentation indent) ++ name ++ ": " ++ value ++
    if endsLine value.toList then "" else "\n"

end JetStream.Yaml
