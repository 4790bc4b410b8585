import JetStream.Binary64
import JetStream.Json.Basic
import JetStream.Json.Token
import JetStream.Text.Digit
import JetStream.Text.Integer
import JetStream.Yaml.Node

/-!
# What YAML scalars stand for

A plain scalar stands for null, a truth value, a number or else its text.  Whole numbers have an
optional sign and are decimal, or hexadecimal, octal or binary after `0x`, `0o` and `0b`; a row of
digits that begins with a zero is a text.  A number too large for binary64 is a text too.
-/

namespace JetStream.Yaml

open Text

/-- What a plain scalar stands for. -/
inductive Value where
  | null
  | bool (value : Bool)
  | integer (value : Int)
  | decimal (text : String)
  | notFinite
  | text (value : String)
  deriving DecidableEq

/-- The spellings of null. -/
def isNull (s : String) : Bool :=
  ["", "~", "null", "Null", "NULL"].contains s

/-- The truth value of its spellings. -/
def bool? (s : String) : Option Bool :=
  if ["true", "True", "TRUE"].contains s then some true
  else if ["false", "False", "FALSE"].contains s then some false
  else none

/-- The digit's value below a base of at most sixteen. -/
def digit? (base : Nat) (c : Char) : Option Nat :=
  (Json.hexValue? c).filter (· < base)

/-- The number of one or more digits to a base. -/
def inBase? (base : Nat) (cs : List Char) : Option Nat :=
  if cs = [] then none
  else cs.foldlM (fun n c => (digit? base c).map (n * base + ·)) 0

/-- The number after its sign. -/
def magnitude? (cs : List Char) : Option Nat :=
  match cs with
  | '0' :: 'x' :: digits => inBase? 16 digits
  | '0' :: 'o' :: digits => inBase? 8 digits
  | '0' :: 'b' :: digits => inBase? 2 digits
  | '0' :: _ :: _ => none
  | digits => inBase? 10 digits

/-- A whole number of at most 128 bits. -/
def integer? (cs : List Char) : Option Int :=
  match cs with
  | '-' :: rest => ((magnitude? rest).filter (· ≤ Nat.pow 2 127)).map fun n => -(n : Int)
  | '+' :: rest => ((magnitude? rest).filter (· < Nat.pow 2 128)).map Int.ofNat
  | rest => ((magnitude? rest).filter (· < Nat.pow 2 128)).map Int.ofNat

/-- The text without a sign in front. -/
def dropSign : List Char → List Char
  | '+' :: rest | '-' :: rest => rest
  | cs => cs

/-- A row of digits that begins with a zero and goes on. -/
def hasLeadingZero (cs : List Char) : Bool :=
  match dropSign cs with
  | '0' :: c :: rest => (c :: rest).all Char.isDigit
  | _ => false

/-- The power of ten after the digits: nothing, or a letter, a sign or none, and digits. -/
def exponent? : List Char → Option Int
  | [] => some 0
  | c :: rest =>
      if c = 'e' ∨ c = 'E' then
        match rest with
        | '-' :: digits => (natural? digits).map fun n => -(n : Int)
        | '+' :: digits => (natural? digits).map Int.ofNat
        | digits => (natural? digits).map Int.ofNat
      else none

/-- Whether a decimal is finite in binary64; nothing for what is no decimal. -/
def isFiniteDecimal? (cs : List Char) : Option Bool := do
  let (whole, rest) := Json.takeDigits cs
  let (fraction, rest) := match rest with
    | '.' :: rest => Json.takeDigits rest
    | rest => ([], rest)
  if whole = [] ∧ fraction = [] then none
  else
    let exponent ← exponent? rest
    let count := digitsValue (whole ++ fraction)
    let exponent := exponent - fraction.length
    if count = 0 ∨ exponent ≤ 0 then
      if count = 0 ∨ exponent < -(cs.length : Int) then some true
      else some (Binary64.ofRatio count (Nat.pow 10 exponent.natAbs) != .infinite)
    else if 310 < exponent then some false
    else some (Binary64.ofNat (count * Nat.pow 10 exponent.toNat) != .infinite)

/-- The spellings of what is not finite. -/
def isNotFinite (s : String) : Bool :=
  [".inf", ".Inf", ".INF", "+.inf", "+.Inf", "+.INF", "-.inf", "-.Inf", "-.INF",
   ".nan", ".NaN", ".NAN"].contains s

/-- What the text of a plain scalar stands for. -/
def Value.ofPlain (s : String) : Value :=
  if isNull s then .null
  else
    match bool? s with
    | some b => .bool b
    | none =>
        match integer? s.toList with
        | some n => .integer n
        | none =>
            if hasLeadingZero s.toList then .text s
            else if isNotFinite s then .notFinite
            else if isFiniteDecimal? (dropSign s.toList) = some true then .decimal s
            else .text s

/-- What a scalar stands for. -/
def Scalar.value (s : Scalar) : Value :=
  if s.style = .plain then Value.ofPlain s.text else .text s.text

/-- The value as data of JSON: whole numbers must fit 64 bits, and what is not finite is null. -/
def Value.json? : Value → Option Json
  | .null | .notFinite => some .null
  | .bool b => some (.bool b)
  | .integer n =>
      if minSigned64 ≤ n ∧ n ≤ maxUnsigned64 then some (.integer n) else none
  | .decimal s => some (.decimal s)
  | .text s => some (.string s)

/-- How deep sequences and mappings may be nested. -/
def maxDepth : Nat := 128

/-- What a scalar stands for under a tag of the core of YAML.  Under any other it is a text. -/
def Scalar.valueUnder? (tag : String) (s : Scalar) : Option Value :=
  if tag = boolTag then (bool? s.text).map .bool
  else if tag = "tag:yaml.org,2002:int" then (integer? s.text.toList).map .integer
  else if tag = "tag:yaml.org,2002:float" then
    if isNotFinite s.text then some .notFinite
    else if isFiniteDecimal? (dropSign s.text.toList) = some true then some (.decimal s.text)
    else none
  else if tag = "tag:yaml.org,2002:null" then
    if s.text ≠ "" ∧ isNull s.text then some .null else none
  else some (.text s.text)

/-- A tag that the document gives a meaning of its own. -/
def isLocalTag (tag : String) : Bool := tag.toList.head? == some '!'

mutual

/-- The tree as data of JSON, within so many levels.  Any scalar may be a name; of the entries of
one name the last counts. -/
def Node.json? (levels : Nat) : Node → Option Json
  | .scalar s => s.value.json?
  | .sequence items =>
      if levels = 0 then none else (itemsJson? (levels - 1) items).map .array
  | .mapping entries =>
      if levels = 0 then none
      else (entriesJson? (levels - 1) entries).map fun members => .object (NameMap.ofList members)
  | .tagged tag (.scalar s) =>
      if isLocalTag tag then none else (s.valueUnder? tag).bind Value.json?
  | .tagged tag node => if isLocalTag tag then none else node.json? levels

/-- The items as data of JSON. -/
def itemsJson? (levels : Nat) : List Node → Option (List Json)
  | [] => some []
  | item :: rest => do
      let value ← Node.json? levels item
      let values ← itemsJson? levels rest
      some (value :: values)

/-- The entries as data of JSON. -/
def entriesJson? (levels : Nat) : List (Node × Node) → Option (List (String × Json))
  | [] => some []
  | (name, item) :: rest => do
      let name ← name.text?
      let value ← Node.json? levels item
      let members ← entriesJson? levels rest
      some ((name, value) :: members)

end

/-- A whole document as data of JSON; one without content is null. -/
def Document.json? (d : Document) : Option Json :=
  if d.isComplete then
    match d.root with
    | some root => root.json? maxDepth
    | none => some .null
  else none

end JetStream.Yaml
