import JetStream.Json.Basic

/-!
# JSON as text

Two layouts: `compact`, without any white space, and `pretty`, with every item and every member on a
line of its own, two columns further in than what holds it.  In both the quote, the backslash and
the controls of a string are escaped and nothing else is.
-/

namespace JetStream.Json

/-- A hexadecimal digit. -/
def hexDigit (n : Nat) : Char :=
  (Nat.digitChar n)

/-- How one character of a string is written. -/
def escape (c : Char) : List Char :=
  if c = '"' then ['\\', '"']
  else if c = '\\' then ['\\', '\\']
  else if c = '\x08' then ['\\', 'b']
  else if c = '\x0c' then ['\\', 'f']
  else if c = '\n' then ['\\', 'n']
  else if c = '\r' then ['\\', 'r']
  else if c = '\t' then ['\\', 't']
  else if c.toNat < 0x20 then
    ['\\', 'u', '0', '0', hexDigit (c.toNat / 16), hexDigit (c.toNat % 16)]
  else [c]

/-- A string between quotes. -/
def stringChars (s : String) : List Char :=
  '"' :: s.toList.flatMap escape ++ ['"']

/-- A whole number. -/
def integerChars : Int → List Char
  | .ofNat n => Nat.toDigits 10 n
  | .negSucc n => '-' :: Nat.toDigits 10 (n + 1)

/-- How the parts of arrays and objects are set apart. -/
structure Layout where
  /-- What stands before an item or at the end, at a depth. -/
  lineBreak : Nat → List Char
  /-- What stands between a name and its value. -/
  colon : List Char

/-- No white space. -/
def Layout.compact : Layout := ⟨fun _ => [], [':']⟩

/-- A line for each item, two columns in for each level. -/
def Layout.pretty : Layout :=
  ⟨fun depth => '\n' :: List.replicate (2 * depth) ' ', [':', ' ']⟩

mutual

/-- A value at a depth. -/
def chars (layout : Layout) (depth : Nat) : Json → List Char
  | .null => ['n', 'u', 'l', 'l']
  | .bool true => ['t', 'r', 'u', 'e']
  | .bool false => ['f', 'a', 'l', 's', 'e']
  | .integer n => integerChars n
  | .decimal text => text.toList
  | .string s => stringChars s
  | .array [] => ['[', ']']
  | .array (item :: items) =>
      '[' :: layout.lineBreak (depth + 1) ++ chars layout (depth + 1) item ++
        itemChars layout (depth + 1) items ++ layout.lineBreak depth ++ [']']
  | .object [] => ['\x7b', '\x7d']
  | .object ((name, member) :: members) =>
      '\x7b' :: layout.lineBreak (depth + 1) ++ stringChars name ++ layout.colon ++
        chars layout (depth + 1) member ++
        memberChars layout (depth + 1) members ++ layout.lineBreak depth ++ ['\x7d']

/-- The items after the first. -/
def itemChars (layout : Layout) (depth : Nat) : List Json → List Char
  | [] => []
  | item :: items =>
      ',' :: layout.lineBreak depth ++ chars layout depth item ++ itemChars layout depth items

/-- The members after the first. -/
def memberChars (layout : Layout) (depth : Nat) : List (String × Json) → List Char
  | [] => []
  | (name, member) :: members =>
      ',' :: layout.lineBreak depth ++ stringChars name ++ layout.colon ++
        chars layout depth member ++ memberChars layout depth members

end

/-- The text without white space. -/
def compact (value : Json) : String :=
  String.ofList (chars .compact 0 value)

/-- The text with a line for each item and member. -/
def pretty (value : Json) : String :=
  String.ofList (chars .pretty 0 value)

end JetStream.Json
