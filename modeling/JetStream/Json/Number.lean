import JetStream.Json.Basic
import JetStream.Json.Token
import JetStream.Binary64
import JetStream.Text.Digit
import JetStream.Text.Integer

/-!
# Numbers of JSON

A number without point and exponent is whole if it fits 64 bits, with or without a sign; the number
`-0` is none.  Every other number is a decimal, and has a value as long as that is finite in
binary64.  For this question the digits are taken into 64 bits as far as they fit: of the digits
after them, those of the whole part count as zeros and those of the fraction not at all.
-/

namespace JetStream.Json

open Text

/-- A decimal number as a count and a power of ten. -/
structure Scaled where
  /-- The count, of 64 bits. -/
  count : Nat
  /-- The power of ten. -/
  exponent : Int

/-- Takes in the digits of the whole part. -/
def Scaled.ofWhole (count : Nat) : List Char → Scaled
  | [] => ⟨count, 0⟩
  | c :: digits =>
      let next := count * 10 + digitValue c
      if next ≤ maxUnsigned64 then ofWhole next digits
      else ⟨count, digits.length + 1⟩

/-- Takes in the digits of the fraction. -/
def Scaled.addFraction (n : Scaled) : List Char → Scaled
  | [] => n
  | c :: digits =>
      let next := n.count * 10 + digitValue c
      if next ≤ maxUnsigned64 then addFraction ⟨next, n.exponent - 1⟩ digits else n

/-- The number is finite in binary64. -/
def Scaled.isFinite (n : Scaled) : Bool :=
  if n.exponent ≤ 0 ∨ n.count = 0 then true
  else if 308 < n.exponent then false
  else
    match Binary64.ofNat n.count * Binary64.ofNat (Nat.pow 10 n.exponent.toNat) with
    | .finite _ => true
    | .infinite => false

/-- The parts of a number without its sign: whole part, fraction and exponent. -/
def numberParts (cs : List Char) : List Char × List Char × Int :=
  let (whole, rest) := takeDigits cs
  let (fraction, rest) := match rest with
    | '.' :: rest => takeDigits rest
    | rest => ([], rest)
  let exponent : Int := match rest with
    | _ :: '-' :: digits => -(digitsValue digits : Int)
    | _ :: '+' :: digits => digitsValue digits
    | _ :: digits => digitsValue digits
    | [] => 0
  (whole, fraction, exponent)

/-- The decimal number as a count and a power of ten. -/
def Scaled.ofText (cs : List Char) : Scaled :=
  let (whole, fraction, exponent) := numberParts cs
  let n := (ofWhole 0 whole).addFraction fraction
  { n with exponent := n.exponent + exponent }

/-- The decimal that a text denotes, if it is finite. -/
def decimal? (text : List Char) : Option Json :=
  let magnitude := match text with
    | '-' :: rest => rest
    | cs => cs
  if (Scaled.ofText magnitude).isFinite then some (.decimal (String.ofList text)) else none

/-- The value of a number as it is written. -/
def number? (text : List Char) : Option Json :=
  match text with
  | '-' :: digits =>
      if digits.all Char.isDigit ∧ 0 < digitsValue digits ∧ minSigned64 ≤ -digitsValue digits then
        some (.integer (-(digitsValue digits : Int)))
      else decimal? text
  | digits =>
      if digits.all Char.isDigit ∧ digitsValue digits ≤ maxUnsigned64 then
        some (.integer (digitsValue digits))
      else decimal? text

end JetStream.Json
