import JetStream.Binary64
import JetStream.Text.Integer

/-!
# Numbers in reports

Counts with commas between groups of three digits, sizes in units of 1024 bytes, and shares in
percent.
-/

namespace JetStream.Report

/-- Digits, the last first, in groups of three with commas between them. -/
def groupReversed : List Char → List Char
  | a :: b :: c :: d :: rest => a :: b :: c :: ',' :: groupReversed (d :: rest)
  | digits => digits

/-- The digits of a number with a comma between groups of three. -/
def groupedDigits (n : Nat) : List Char :=
  (groupReversed (Nat.toDigits 10 n).reverse).reverse

/-- A whole number with commas. -/
def comma (n : Int) : String :=
  String.ofList ((if n < 0 then ['-'] else []) ++ groupedDigits n.natAbs)

/-- A count of 64 bits, shown as the signed number with the same bits. -/
def commaCount (n : Nat) : String :=
  comma (Text.wrapSigned64 n)

/-- The units above the byte, each of 1024 of the one before. -/
def sizeUnits : List String := ["KiB", "MiB", "GiB", "TiB", "PiB"]

/-- The size in the first of the units of which there are fewer than 1024, or else in the last. -/
def scaledSize (size : Binary64) : List String → String
  | [] => size.tenths
  | [unit] => size.tenths ++ " " ++ unit
  | unit :: units =>
      if size.isAtLeast 1024 then scaledSize (size / .ofNat 1024) units
      else size.tenths ++ " " ++ unit

/-- A size in bytes. -/
def byteSize (n : Nat) : String :=
  if n < 1024 then toString n ++ " B"
  else scaledSize (Binary64.ofNat n / .ofNat 1024) sizeUnits

/-- The share of a part in percent, without a fraction. -/
def percent (part whole : Nat) : String :=
  (Binary64.ofNat part / .ofNat whole * .ofNat 100).whole ++ "%"

end JetStream.Report
