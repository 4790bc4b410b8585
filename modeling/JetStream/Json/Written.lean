import JetStream.Json.Number

/-!
# JSON as it is written

Tokens are put together to a tree in which strings and numbers are still as they are written and
the members of an object stand in the order of the text, repetitions included.  The tree of one
value is read off the front of the tokens; what follows is given back.

A tree has a value when its strings, its numbers and its depth are in bounds.
-/

namespace JetStream.Json

/-- A value as it is written. -/
inductive Written where
  | null
  | bool (value : Bool)
  | number (text : List Char)
  | string (parts : List StringPart)
  | array (items : List Written)
  | object (members : List (List StringPart × Written))
  deriving Inhabited

namespace Written

/-- A value of one token. -/
def ofToken? : Token → Option Written
  | .null => some .null
  | .bool value => some (.bool value)
  | .number text => some (.number text)
  | .string parts => some (.string parts)
  | _ => none

/-- An array or an object of which the end is not reached, with what it holds so far, the last
first. -/
inductive Pending where
  | array (items : List Written)
  | object (members : List (List StringPart × Written)) (name : List StringPart)

mutual

/-- Reads a value inside of the pending arrays and objects, and goes on to the end of the outermost
one. -/
def readInside (outer : List Pending) : List Token → Option (Written × List Token)
  | .beginArray :: .endArray :: rest => place (.array []) outer rest
  | .beginArray :: rest => readInside (.array [] :: outer) rest
  | .beginObject :: .endObject :: rest => place (.object []) outer rest
  | .beginObject :: .string name :: .colon :: rest => readInside (.object [] name :: outer) rest
  | token :: rest =>
      match ofToken? token with
      | some value => place value outer rest
      | none => none
  | [] => none

/-- Puts a value that was read into the innermost of the pending arrays and objects. -/
def place (value : Written) (outer : List Pending) (tokens : List Token) :
    Option (Written × List Token) :=
  match outer, tokens with
  | [], rest => some (value, rest)
  | .array items :: outer, .comma :: rest => readInside (.array (value :: items) :: outer) rest
  | .array items :: outer, .endArray :: rest =>
      place (.array (value :: items).reverse) outer rest
  | .object members name :: outer, .comma :: .string next :: .colon :: rest =>
      readInside (.object ((name, value) :: members) next :: outer) rest
  | .object members name :: outer, .endObject :: rest =>
      place (.object ((name, value) :: members).reverse) outer rest
  | _, _ => none

end

/-- The value at the front of the tokens, and the tokens after it. -/
def read (tokens : List Token) : Option (Written × List Token) :=
  readInside [] tokens

end Written

/-- The characters of a string.  Two escapes for the halves of a pair make one character; half a
pair makes none. -/
def decodeString? : List StringPart → Option (List Char)
  | [] => some []
  | .char c :: rest => (decodeString? rest).map (c :: ·)
  | .unit high :: rest =>
      if high < 0xd800 ∨ 0xdfff < high then (decodeString? rest).map (Char.ofNat high :: ·)
      else
        match rest with
        | .unit low :: rest =>
            if high < 0xdc00 ∧ 0xdc00 ≤ low ∧ low ≤ 0xdfff then
              (decodeString? rest).map
                (Char.ofNat (0x10000 + (high - 0xd800) * 0x400 + (low - 0xdc00)) :: ·)
            else none
        | _ => none

/-- The text of a string. -/
def string? (parts : List StringPart) : Option String :=
  (decodeString? parts).map String.ofList

/-- How deep arrays and objects may be nested. -/
def maxDepth : Nat := 127

namespace Written

mutual

/-- The value within so many levels; `arrange` settles the members of each object. -/
def value? (arrange : List (String × Json) → List (String × Json)) (levels : Nat) :
    Written → Option Json
  | .null => some .null
  | .bool value => some (.bool value)
  | .number text => number? text
  | .string parts => (string? parts).map .string
  | .array items =>
      if levels = 0 then none else (itemValues? arrange (levels - 1) items).map .array
  | .object members =>
      if levels = 0 then none
      else (memberValues? arrange (levels - 1) members).map fun members =>
        .object (arrange members)

/-- The values of a row, each within so many levels. -/
def itemValues? (arrange : List (String × Json) → List (String × Json)) (levels : Nat) :
    List Written → Option (List Json)
  | [] => some []
  | item :: rest => do
      let value ← value? arrange levels item
      let values ← itemValues? arrange levels rest
      some (value :: values)

/-- The values of members, each within so many levels. -/
def memberValues? (arrange : List (String × Json) → List (String × Json)) (levels : Nat) :
    List (List StringPart × Written) → Option (List (String × Json))
  | [] => some []
  | (name, member) :: rest => do
      let name ← string? name
      let value ← value? arrange levels member
      let values ← memberValues? arrange levels rest
      some ((name, value) :: values)

end

end Written

/-- The value of a whole text.  Members of objects are put in order, and of those with one name the
last counts. -/
def parse? (text : String) : Option Json :=
  match Written.read (Token.scan text.toList) with
  | some (written, []) => written.value? NameMap.ofList maxDepth
  | _ => none

end JetStream.Json
