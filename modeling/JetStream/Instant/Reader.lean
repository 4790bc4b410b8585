import JetStream.Instant.Basic
import JetStream.Text.Blank
import JetStream.Text.Digit

/-!
# Reading instants

The reader takes the format of RFC 3339 with some freedom: one digit for a month, a day or a part of
the time; a signed year of any length; `T`, `t` or a blank between date and time; blanks before
numbers, separators and the offset; `Z`, `z` or `UTC`, or hours and minutes with or without a colon,
as the offset.  Digits of the fraction after the ninth are dropped.  The local time must exist as an
instant, and so must the one in UTC.
-/

namespace JetStream.Instant

open Text

/-- A reader of the front of a text. -/
abbrev Reader (α : Type) := List Char → Option (α × List Char)

/-- The digits at the front, at most so many, at least one. -/
def digits? (atMost : Option Nat) : Reader (List Char) := fun cs =>
  let digits := cs.takeWhile Char.isDigit
  let taken := match atMost with
    | some n => digits.take n
    | none => digits
  if taken = [] then none else some (taken, cs.drop taken.length)

/-- The number at the front with at most so many digits, after blanks, within bounds. -/
def field? (places low high : Nat) : Reader Nat := fun cs => do
  let (digits, rest) ← digits? (some places) (trimStart cs)
  let n := digitsValue digits
  if low ≤ n ∧ n ≤ high then some (n, rest) else none

/-- The year, after blanks: four digits at most, or a sign and any number of digits. -/
def year? : Reader Int := fun cs =>
  match trimStart cs with
  | '-' :: rest => do
      let (digits, rest) ← digits? none rest
      some (-(digitsValue digits : Int), rest)
  | '+' :: rest => do
      let (digits, rest) ← digits? none rest
      some ((digitsValue digits : Int), rest)
  | cs => do
      let (digits, rest) ← digits? (some 4) cs
      some ((digitsValue digits : Int), rest)

/-- The separator, after blanks. -/
def separator? (c : Char) (cs : List Char) : Option (List Char) :=
  match trimStart cs with
  | d :: rest => if d = c then some rest else none
  | [] => none

/-- Year, month and day. -/
def date? : Reader Date := fun cs => do
  let (year, cs) ← year? cs
  let cs ← separator? '-' cs
  let (month, cs) ← field? 2 1 12 cs
  let cs ← separator? '-' cs
  let (day, cs) ← field? 2 1 31 cs
  let date : Date := ⟨year, month, day⟩
  if date.IsValid then some (date, cs) else none

/-- The nanoseconds of a fraction; without a point there is none. -/
def fraction? : Reader Nat
  | '.' :: cs => do
      let (digits, rest) ← digits? (some 9) cs
      some (digitsValue digits * Nat.pow 10 (9 - digits.length), rest.dropWhile Char.isDigit)
  | cs => some (0, cs)

/-- The seconds since the start of the day, and the nanoseconds; the sixtieth second is the
fifty-ninth with a second of nanoseconds more. -/
def time? : Reader (Nat × Nat) := fun cs => do
  let (hour, cs) ← field? 2 0 23 cs
  let cs ← separator? ':' cs
  let (minute, cs) ← field? 2 0 59 cs
  let cs ← separator? ':' cs
  let (second, cs) ← field? 2 0 60 cs
  let (nanosecond, cs) ← fraction? cs
  if second = 60 then some ((hour * 3600 + minute * 60 + 59, nanosecond + 1_000_000_000), cs)
  else some ((hour * 3600 + minute * 60 + second, nanosecond), cs)

/-- Two digits as a number of at most `high`. -/
def pair? (high : Nat) : Reader Nat
  | a :: b :: rest =>
      if a.isDigit ∧ b.isDigit ∧ digitsValue [a, b] ≤ high then some (digitsValue [a, b], rest)
      else none
  | _ => none

/-- Colons and blanks between the hours and the minutes of an offset. -/
def dropColons (cs : List Char) : List Char :=
  cs.dropWhile fun c => c = ':' || isBlank c

/-- Hours and minutes of an offset, as seconds; it is less than a day. -/
def offsetAmount? : Reader Nat := fun cs => do
  let (hours, cs) ← pair? 99 cs
  let (minutes, cs) ← pair? 59 (dropColons cs)
  let amount := hours * 3600 + minutes * 60
  if amount < 86400 then some (amount, cs) else none

/-- The offset from UTC in seconds. -/
def offset? : Reader Int
  | 'Z' :: rest | 'z' :: rest => some (0, rest)
  | '+' :: rest => (offsetAmount? rest).map fun (n, rest) => ((n : Int), rest)
  | '-' :: rest | '−' :: rest => (offsetAmount? rest).map fun (n, rest) => (-(n : Int), rest)
  | u :: t :: c :: rest =>
      if [u, t, c].map Char.toUpper = ['U', 'T', 'C'] then some (0, rest) else none
  | _ => none

/-- The instant that the whole text denotes. -/
def read? (text : String) : Option Instant := do
  let (date, cs) ← date? text.toList
  let cs ← match cs with
    | 'T' :: rest | 't' :: rest | ' ' :: rest => some rest
    | _ => none
  let ((second, nanosecond), cs) ← time? cs
  let (offset, cs) ← offset? (trimStart cs)
  if trimStart cs ≠ [] then none
  else
    let localTime ← ofParts? (date.toDays * daySeconds + second) nanosecond
    ofParts? (localTime.second - offset) localTime.nanosecond

end JetStream.Instant
