/-!
# Tokens of JSON

A text is cut into tokens up to the first place where none begins; from there on it is one
`unreadable` token, so that whatever stands before it can still be used.

The contents of strings and numbers are kept as written: whether an escape denotes a character, and
whether a number has a value, is a question for whoever needs the value.
-/

namespace JetStream.Json

/-- A part of the contents of a string. -/
inductive StringPart where
  /-- A character, written as itself or by a short escape. -/
  | char (c : Char)
  /-- An escape by four hexadecimal digits. -/
  | unit (value : Nat)
  deriving DecidableEq

/-- A token. -/
inductive Token where
  | beginObject
  | endObject
  | beginArray
  | endArray
  | colon
  | comma
  | null
  | bool (value : Bool)
  | number (text : List Char)
  | string (parts : List StringPart)
  | unreadable
  deriving DecidableEq

/-- White space between tokens. -/
def isSpace (c : Char) : Bool :=
  c = ' ' || c = '\n' || c = '\t' || c = '\r'

/-- The value of a hexadecimal digit. -/
def hexValue? (c : Char) : Option Nat :=
  if c.isDigit then some (c.toNat - '0'.toNat)
  else if 'a' ≤ c ∧ c ≤ 'f' then some (c.toNat - 'a'.toNat + 10)
  else if 'A' ≤ c ∧ c ≤ 'F' then some (c.toNat - 'A'.toNat + 10)
  else none

/-- The number that four hexadecimal digits denote. -/
def hexValue4? (a b c d : Char) : Option Nat := do
  let a ← hexValue? a
  let b ← hexValue? b
  let c ← hexValue? c
  let d ← hexValue? d
  some (((a * 16 + b) * 16 + c) * 16 + d)

/-- The character that a letter after a backslash stands for. -/
def shortEscape? : Char → Option Char
  | '"' => some '"'
  | '\\' => some '\\'
  | '/' => some '/'
  | 'b' => some '\x08'
  | 'f' => some '\x0c'
  | 'n' => some '\n'
  | 'r' => some '\r'
  | 't' => some '\t'
  | _ => none

/-- The contents of a string up to its closing quote, and what follows it. -/
def readString : List Char → Option (List StringPart × List Char)
  | [] => none
  | '"' :: rest => some ([], rest)
  | '\\' :: 'u' :: a :: b :: c :: d :: rest => do
      let value ← hexValue4? a b c d
      let (parts, rest) ← readString rest
      some (.unit value :: parts, rest)
  | '\\' :: e :: rest => do
      let c ← shortEscape? e
      let (parts, rest) ← readString rest
      some (.char c :: parts, rest)
  | c :: rest =>
      if c = '\\' ∨ c.toNat < 0x20 then none
      else do
        let (parts, rest) ← readString rest
        some (.char c :: parts, rest)

/-- The digits at the front and what follows them. -/
def takeDigits (cs : List Char) : List Char × List Char :=
  (cs.takeWhile Char.isDigit, cs.dropWhile Char.isDigit)

/-- The whole part of a number: a zero, or digits of which the first is none. -/
def readWhole : List Char → Option (List Char × List Char)
  | '0' :: rest => some (['0'], rest)
  | cs =>
      match takeDigits cs with
      | ([], _) => none
      | (digits, rest) => some (digits, rest)

/-- The fraction of a number, if there is one, with its point. -/
def readFraction : List Char → Option (List Char × List Char)
  | '.' :: rest =>
      match takeDigits rest with
      | ([], _) => none
      | (digits, rest) => some ('.' :: digits, rest)
  | cs => some ([], cs)

/-- The digits of an exponent after its letter and sign. -/
def readExponentDigits (before : List Char) (cs : List Char) : Option (List Char × List Char) :=
  match takeDigits cs with
  | ([], _) => none
  | (digits, rest) => some (before ++ digits, rest)

/-- The exponent of a number, if there is one, with its letter. -/
def readExponent : List Char → Option (List Char × List Char)
  | c :: '+' :: rest =>
      if c = 'e' ∨ c = 'E' then readExponentDigits [c, '+'] rest else some ([], c :: '+' :: rest)
  | c :: '-' :: rest =>
      if c = 'e' ∨ c = 'E' then readExponentDigits [c, '-'] rest else some ([], c :: '-' :: rest)
  | c :: rest =>
      if c = 'e' ∨ c = 'E' then readExponentDigits [c] rest else some ([], c :: rest)
  | [] => some ([], [])

/-- The number at the front, without a sign. -/
def readMagnitude (cs : List Char) : Option (List Char × List Char) := do
  let (whole, cs) ← readWhole cs
  let (fraction, cs) ← readFraction cs
  let (exponent, cs) ← readExponent cs
  some (whole ++ fraction ++ exponent, cs)

/-- The number at the front. -/
def readNumber : List Char → Option (List Char × List Char)
  | '-' :: rest => (readMagnitude rest).map fun (text, rest) => ('-' :: text, rest)
  | cs => readMagnitude cs

/-- The token that begins with a character, and what follows it. -/
def Token.read : Char → List Char → Option (Token × List Char)
  | '\x7b', rest => some (.beginObject, rest)
  | '\x7d', rest => some (.endObject, rest)
  | '[', rest => some (.beginArray, rest)
  | ']', rest => some (.endArray, rest)
  | ':', rest => some (.colon, rest)
  | ',', rest => some (.comma, rest)
  | 'n', 'u' :: 'l' :: 'l' :: rest => some (.null, rest)
  | 't', 'r' :: 'u' :: 'e' :: rest => some (.bool true, rest)
  | 'f', 'a' :: 'l' :: 's' :: 'e' :: rest => some (.bool false, rest)
  | '"', rest => (readString rest).map fun (parts, rest) => (.string parts, rest)
  | c, rest => (readNumber (c :: rest)).map fun (text, rest) => (.number text, rest)

/-- The tokens of a text; those after an unreadable place are not looked for. -/
def Token.scan : List Char → List Token
  | [] => []
  | c :: cs =>
      if isSpace c then Token.scan cs
      else
        match Token.read c cs with
        | none => [.unreadable]
        | some (token, rest) =>
            if rest.length ≤ cs.length then token :: Token.scan rest else [.unreadable]
  termination_by cs => cs.length

end JetStream.Json
