import JetStream.Duration.Basic
import JetStream.Instant.Calendar
import JetStream.Text.Integer

/-!
# Instants

A point in time in UTC, to the nanosecond, from the start of the year -262143 to the end of the
year 262142.  A leap second is kept as the second before it with a thousand million nanoseconds
more.  On a clock it ends a minute, but any second can be followed by one.
-/

namespace JetStream

/-- The first year with instants. -/
def firstYear : Int := -262143

/-- The last year with instants. -/
def lastYear : Int := 262142

/-- Seconds in a day. -/
def daySeconds : Int := 86400

/-- The first second with instants, counted from 1970. -/
def firstSecond : Int := Date.toDays ⟨firstYear, 1, 1⟩ * daySeconds

/-- The last second with instants. -/
def lastSecond : Int := Date.toDays ⟨lastYear + 1, 1, 1⟩ * daySeconds - 1

/-- Which counts of seconds and nanoseconds are instants: the seconds are in range, and there is at
most a leap second more. -/
def IsInstant (second : Int) (nanosecond : Nat) : Prop :=
  firstSecond ≤ second ∧ second ≤ lastSecond ∧ nanosecond < 2 * 1_000_000_000

instance (second : Int) (nanosecond : Nat) : Decidable (IsInstant second nanosecond) := by
  unfold IsInstant
  infer_instance

/-- A point in time. -/
structure Instant where
  /-- Seconds since the start of 1970. -/
  second : Int
  /-- Nanoseconds into the second, counted on in a leap second after it. -/
  nanosecond : Nat
  /-- The counts are in range. -/
  isInstant : IsInstant second nanosecond
  deriving DecidableEq

namespace Instant

/-- The instant with the given counts, if there is one. -/
def ofParts? (second : Int) (nanosecond : Nat) : Option Instant :=
  if h : IsInstant second nanosecond then some ⟨second, nanosecond, h⟩ else none

/-- The start of 1970. -/
def epoch : Instant := ⟨0, 0, by decide⟩

instance : Inhabited Instant := ⟨epoch⟩

/-- Within a leap second. -/
def isLeap (t : Instant) : Bool := 1_000_000_000 ≤ t.nanosecond

/-- Not later than another instant. -/
def le (a b : Instant) : Bool :=
  a.second < b.second || (a.second = b.second && a.nanosecond ≤ b.nanosecond)

/-- The instant so much earlier.  Whole seconds are counted back from the end of a leap second; a
fraction of a second alone is counted back within it. -/
def subtract? (t : Instant) (d : Duration) : Option Instant :=
  let leaves := t.isLeap && 0 < d.seconds
  let second := if leaves then t.second + 1 else t.second
  let nanosecond := if leaves then t.nanosecond - 1_000_000_000 else t.nanosecond
  if d.subsecond ≤ nanosecond then ofParts? (second - d.seconds) (nanosecond - d.subsecond)
  else ofParts? (second - d.seconds - 1) (nanosecond + 1_000_000_000 - d.subsecond)

/-- The nanoseconds since the start of 1970, where they fit a signed number of 64 bits. -/
def nanosecondsSinceEpoch? (t : Instant) : Option Int :=
  let count := t.second * 1_000_000_000 + t.nanosecond
  if Text.minSigned64 ≤ count ∧ count ≤ Text.maxSigned64 then some count else none

/-- The instant so many nanoseconds after the start of 1970. -/
def ofNanosecondsSinceEpoch? (count : Int) : Option Instant :=
  ofParts? (count / 1_000_000_000) (count % 1_000_000_000).toNat

theorem ofParts?_self (t : Instant) : ofParts? t.second t.nanosecond = some t := by
  simp [ofParts?, t.isInstant]

end Instant

end JetStream
