import JetStream.Instant.Basic

/-!
# Instants as text

Instants are written in the format of RFC 3339: date, `T`, time and offset.  The fraction of the
second has as few of 0, 3, 6 or 9 digits as lose nothing.  A year outside of 0 to 9999 has a sign.
-/

namespace JetStream

/-- A number with at least so many digits, filled up with zeros in front. -/
def paddedDigits (places n : Nat) : List Char :=
  let digits := Nat.toDigits 10 n
  List.replicate (places - digits.length) '0' ++ digits

/-- The year with at least four digits, with a sign where four digits are not enough. -/
def yearText (year : Int) : List Char :=
  if 0 ≤ year ∧ year ≤ 9999 then paddedDigits 4 year.toNat
  else if year < 0 then '-' :: paddedDigits 4 year.natAbs
  else '+' :: paddedDigits 4 year.toNat

/-- The fraction of a second, with the point before it. -/
def fractionText (nanosecond : Nat) : List Char :=
  if nanosecond = 0 then []
  else if nanosecond % 1_000_000 = 0 then '.' :: paddedDigits 3 (nanosecond / 1_000_000)
  else if nanosecond % 1_000 = 0 then '.' :: paddedDigits 6 (nanosecond / 1_000)
  else '.' :: paddedDigits 9 nanosecond

/-- Year, month and day with hyphens between them. -/
def Date.text (d : Date) : List Char :=
  yearText d.year ++ '-' :: paddedDigits 2 d.month ++ '-' :: paddedDigits 2 d.day

namespace Instant

/-- The day on which the instant falls. -/
def date (t : Instant) : Date := Date.ofDays (t.second / daySeconds)

/-- The seconds since the start of the day, a leap second not counted. -/
def secondOfDay (t : Instant) : Nat := (t.second % daySeconds).toNat

/-- Hours, minutes and seconds with colons between them; a leap second is the next one, the
sixtieth at the end of a minute. -/
def clockText (t : Instant) : List Char :=
  let s := t.secondOfDay
  paddedDigits 2 (s / 3600) ++ ':' :: paddedDigits 2 (s / 60 % 60) ++
    ':' :: paddedDigits 2 (s % 60 + if t.isLeap then 1 else 0)

/-- Date and time without an offset. -/
def localText (t : Instant) : List Char :=
  t.date.text ++ 'T' :: t.clockText ++ fractionText (t.nanosecond % 1_000_000_000)

/-- The text with the offset `Z`, as on the wire. -/
def text (t : Instant) : String := String.ofList (t.localText ++ ['Z'])

/-- The text with the offset `+00:00`, as in reports. -/
def offsetText (t : Instant) : String := String.ofList t.localText ++ "+00:00"

/-- The time of day. -/
def timeOfDay (t : Instant) : String := String.ofList t.clockText

end Instant

end JetStream
