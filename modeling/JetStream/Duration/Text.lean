import JetStream.Duration.Basic
import JetStream.Binary64

/-!
# Durations as text

Two ways to show a duration: `humanize`, for operators, in days, hours, minutes and seconds or in
whole milliseconds below one second; and `exact`, which loses nothing, in the largest unit of which
there is at least one.
-/

namespace JetStream.Duration

/-- Splits a count of seconds along units given with their sizes, leaving out the units of which
there is none. -/
def components : List (Char × Nat) → Nat → List (Nat × Char)
  | [], seconds => if seconds = 0 then [] else [(seconds, 's')]
  | (unit, size) :: units, seconds =>
      if size ≤ seconds then (seconds / size, unit) :: components units (seconds % size)
      else components units seconds

/-- The units above the second. -/
def largeUnits : List (Char × Nat) :=
  [('d', 86400), ('h', 3600), ('m', 60)]

/-- A component such as `3h`. -/
def componentText (component : Nat × Char) : String :=
  (toString component.1).push component.2

/-- A compact text for operators, such as `1d2h3m4s` or `250ms`. -/
def humanize (d : Duration) : String :=
  if d.nanoseconds < 1_000_000_000 then toString d.milliseconds ++ "ms"
  else String.join ((components largeUnits d.seconds).map componentText)

/-- The digits of a fraction with so many places, without the zeros at its end. -/
def fractionDigits (places value : Nat) : List Char :=
  let digits := Nat.toDigits 10 value
  let padded := List.replicate (places - digits.length) '0' ++ digits
  (padded.reverse.dropWhile (· = '0')).reverse

/-- A count of a unit with the rest of it as a decimal fraction. -/
def decimalText (count rest places : Nat) (unit : String) : String :=
  if rest = 0 then toString count ++ unit
  else toString count ++ "." ++ String.ofList (fractionDigits places rest) ++ unit

/-- The exact text, such as `1.5s`, `250ms`, `1.5µs` or `7ns`. -/
def exact (d : Duration) : String :=
  let n := d.nanoseconds
  if 1_000_000_000 ≤ n then decimalText (n / 1_000_000_000) (n % 1_000_000_000) 9 "s"
  else if 1_000_000 ≤ n then decimalText (n / 1_000_000) (n % 1_000_000) 6 "ms"
  else if 1_000 ≤ n then decimalText (n / 1_000) (n % 1_000) 3 "µs"
  else decimalText n 0 0 "ns"

/-- The seconds as a binary64 number: seconds and fraction are rounded apart and added. -/
def binarySeconds (d : Duration) : Binary64 :=
  Binary64.ofNat d.seconds + Binary64.ofNat d.subsecond / Binary64.ofNat (1_000_000_000)

end JetStream.Duration
