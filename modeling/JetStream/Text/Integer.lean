import JetStream.Text.Digit

/-!
# Integers as text

Decimal integers within bounds: ASCII digits after an optional sign, leading zeros allowed.  Only a
reader that admits negative numbers admits the sign of one.
-/

namespace JetStream.Text

/-- The largest unsigned number of 64 bits. -/
def maxUnsigned64 : Nat := 0xffff_ffff_ffff_ffff

/-- The least signed number of 64 bits. -/
def minSigned64 : Int := -0x8000_0000_0000_0000

/-- The largest signed number of 64 bits. -/
def maxSigned64 : Int := 0x7fff_ffff_ffff_ffff

/-- The number denoted by digits alone, of which there is at least one. -/
def natural? (cs : List Char) : Option Nat :=
  if cs ≠ [] ∧ cs.all Char.isDigit then some (digitsValue cs) else none

/-- A number of at most `bound`, with or without a plus sign. -/
def unsigned? (bound : Nat) (s : String) : Option Nat :=
  let digits := match s.toList with
    | '+' :: rest => rest
    | cs => cs
  (natural? digits).filter (· ≤ bound)

/-- A number from `low` to `high`, with or without a sign. -/
def signed? (low high : Int) (s : String) : Option Int :=
  let value := match s.toList with
    | '-' :: rest => (natural? rest).map fun n => -(n : Int)
    | '+' :: rest => (natural? rest).map Int.ofNat
    | cs => (natural? cs).map Int.ofNat
  value.filter fun n => low ≤ n && n ≤ high

/-- A signed number of 64 bits. -/
def signed64? (s : String) : Option Int :=
  signed? minSigned64 maxSigned64 s

/-- An unsigned number of 64 bits. -/
def unsigned64? (s : String) : Option Nat :=
  unsigned? maxUnsigned64 s

/-- The signed number of 64 bits that shares its bits with an unsigned one. -/
def wrapSigned64 (n : Nat) : Int :=
  Int.bmod n UInt64.size

end JetStream.Text
