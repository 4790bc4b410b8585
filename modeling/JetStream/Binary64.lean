/-!
# Non-negative binary64 arithmetic

A finite non-negative number of the format is a whole count of its least positive number,
`2 ^ -1074`, so it is kept as that count.  Every operation is its exact result rounded once, to the
nearest number of the format and to the even neighbour from half way.
-/

namespace JetStream

/-- The quotient rounded to the nearest whole number, to the even one from half way. -/
def roundHalfEven (numerator denominator : Nat) : Nat :=
  let quotient := numerator / denominator
  let twice := 2 * (numerator % denominator)
  if twice < denominator then quotient
  else if denominator < twice then quotient + 1
  else if quotient % 2 = 0 then quotient
  else quotient + 1

/-- A non-negative number of the format binary64. -/
inductive Binary64 where
  /-- So many times `2 ^ -1074`. -/
  | finite (units : Nat)
  /-- Beyond every finite number. -/
  | infinite
  deriving DecidableEq

namespace Binary64

/-- How many units make one. -/
def one : Nat := Nat.pow 2 1074

/-- The units of the first power of two beyond the format. -/
def limit : Nat := Nat.pow 2 2098

/-- The number of the format nearest to a ratio of units: of its bits, 53 are kept. -/
def round (numerator denominator : Nat) : Binary64 :=
  let quotient := numerator / denominator
  let step := Nat.pow 2 (quotient.log2 - 52)
  let units := roundHalfEven numerator (denominator * step) * step
  if units < limit then finite units else infinite

/-- The number nearest to a fraction. -/
def ofRatio (numerator denominator : Nat) : Binary64 :=
  round (numerator * one) denominator

/-- The number nearest to a whole number. -/
def ofNat (n : Nat) : Binary64 :=
  ofRatio n 1

/-- The rounded sum. -/
def add : Binary64 → Binary64 → Binary64
  | finite a, finite b => round (a + b) 1
  | _, _ => infinite

/-- The rounded product. -/
def mul : Binary64 → Binary64 → Binary64
  | finite a, finite b => round (a * b) one
  | _, _ => infinite

/-- The rounded quotient by a positive number. -/
def div : Binary64 → Binary64 → Binary64
  | finite a, finite b => round (a * one) b
  | infinite, _ => infinite
  | finite _, infinite => finite 0

instance : Add Binary64 := ⟨add⟩
instance : Mul Binary64 := ⟨mul⟩
instance : Div Binary64 := ⟨div⟩

/-- Not less than a whole number. -/
def isAtLeast (n : Nat) : Binary64 → Bool
  | finite units => n * one ≤ units
  | infinite => true

/-- The nearest whole number of `1 / parts`; none for what is infinite. -/
def nearest? (parts : Nat) : Binary64 → Option Nat
  | finite units => some (roundHalfEven (units * parts) one)
  | infinite => none

/-- Written with one digit after the point, the exact value rounded. -/
def tenths (x : Binary64) : String :=
  match nearest? 10 x with
  | some n => toString (n / 10) ++ "." ++ toString (n % 10)
  | none => "inf"

/-- Written as a whole number, the exact value rounded. -/
def whole (x : Binary64) : String :=
  match nearest? 1 x with
  | some n => toString n
  | none => "inf"

end Binary64

end JetStream
