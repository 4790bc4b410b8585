/-!
# Hexadecimal places

Numbers written with a fixed count of hexadecimal digits in upper case.
-/

namespace JetStream.Text

/-- A hexadecimal digit in upper case. -/
def upperHexDigit (n : Nat) : Char :=
  (Nat.digitChar n).toUpper

/-- The last so many hexadecimal digits of a number. -/
def hexPlaces : Nat → Nat → List Char
  | 0, _ => []
  | places + 1, n => hexPlaces places (n / 16) ++ [upperHexDigit (n % 16)]

end JetStream.Text
