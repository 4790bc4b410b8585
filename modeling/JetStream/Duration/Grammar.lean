import JetStream.Duration.Basic
import JetStream.Binary64
import JetStream.Text.Blank
import JetStream.Text.Digit
import JetStream.Text.Pattern

/-!
# The grammar of durations

A duration is written either as one number with a calendar unit (`2w`, `1.5d`, `3M`, `1y`) or as a
row of numbers with clock units (`1h30m`, `250ms`).  Months have 30 days and years 365.

A row is looked at twice: as a whole, whether it is one, and then number by number.  The numbers
denote binary64 seconds: each is scaled by its unit, and the row is added up in order.  The sum is
rounded to the nearest nanosecond, to the even one from half way.

The patterns take decimal digits of any script, but only ASCII digits have a value.
-/

namespace JetStream.Duration

open Text

/-! ## Patterns -/

/-- Digits with or without a point, after which there may be more, or a point and digits. -/
def numberPattern : Pattern :=
  let digit := Pattern.one isDecimalDigit
  let point := Pattern.one (· = '.')
  .either
    (.sequence digit.atLeastOnce (.ifThere (.sequence point digit.anyTimes)))
    (.sequence point digit.atLeastOnce)

/-- The letters for the units of a calendar. -/
def calendarLetters : List Char := ['w', 'W', 'd', 'D', 'M', 'y', 'Y']

/-- A unit of a calendar. -/
def calendarUnitPattern : Pattern :=
  .one fun c => calendarLetters.contains c

/-- The names for the units of a clock.  A name comes before those that it begins with. -/
def clockNames : List String := ["ns", "us", "µs", "ms", "s", "m", "h"]

/-- A unit of a clock. -/
def clockUnitPattern : Pattern :=
  .anyOf clockNames

/-- A row of numbers with clock units. -/
def clockPattern : Pattern :=
  .atLeastOnce (.sequence numberPattern clockUnitPattern)

/-! ## Numbers and units -/

/-- A decimal number: ASCII digits before and after the point, of which one side may be empty. -/
structure Numeral where
  /-- The digits before the point. -/
  whole : List Char
  /-- The digits after the point. -/
  fraction : List Char
  deriving DecidableEq

/-- The number that is written so. -/
def Numeral.ofText? (text : List Char) : Option Numeral :=
  let whole := text.takeWhile Char.isDigit
  match text.dropWhile Char.isDigit with
  | [] => if whole = [] then none else some ⟨whole, []⟩
  | '.' :: fraction =>
      if fraction.all Char.isDigit ∧ (whole ≠ [] ∨ fraction ≠ []) then some ⟨whole, fraction⟩
      else none
  | _ => none

/-- The nearest binary64 number. -/
def Numeral.value (n : Numeral) : Binary64 :=
  Binary64.ofRatio (digitsValue (n.whole ++ n.fraction)) (Nat.pow 10 n.fraction.length)

/-- The units of a clock. -/
inductive ClockUnit where
  | nanosecond
  | microsecond
  | millisecond
  | second
  | minute
  | hour
  deriving DecidableEq

/-- The units of a calendar. -/
inductive CalendarUnit where
  | day
  | week
  | month
  | year
  deriving DecidableEq

/-- The clock unit of a name. -/
def ClockUnit.ofName (name : List Char) : ClockUnit :=
  match String.ofList name with
  | "ns" => .nanosecond
  | "us" | "µs" => .microsecond
  | "ms" => .millisecond
  | "s" => .second
  | "m" => .minute
  | _ => .hour

/-- The calendar unit of a name. -/
def CalendarUnit.ofName (name : List Char) : CalendarUnit :=
  match String.ofList name with
  | "w" | "W" => .week
  | "d" | "D" => .day
  | "M" => .month
  | _ => .year

/-- How many seconds the unit has, to the nearest binary64 number. -/
def ClockUnit.scale : ClockUnit → Binary64
  | .nanosecond => Binary64.ofRatio 1 1_000_000_000
  | .microsecond => Binary64.ofRatio 1 1_000_000
  | .millisecond => Binary64.ofRatio 1 1_000
  | .second => Binary64.ofNat 1
  | .minute => Binary64.ofNat 60
  | .hour => Binary64.ofNat 3600

/-- How many hours the unit has. -/
def CalendarUnit.hours : CalendarUnit → Nat
  | .day => 24
  | .week => 7 * 24
  | .month => 30 * 24
  | .year => 365 * 24

/-! ## What a text denotes -/

/-- The seconds of a number with a calendar unit. -/
def calendarSeconds? (number unit : List Char) : Option Binary64 :=
  (Numeral.ofText? number).map fun n =>
    n.value * Binary64.ofNat (CalendarUnit.ofName unit).hours * Binary64.ofNat 3600

/-- The seconds so far, and those of a number with a clock unit. -/
def addClockSeconds? (total : Binary64) (part : List Char × List Char) : Option Binary64 :=
  (Numeral.ofText? part.1).map fun n => total + n.value * (ClockUnit.ofName part.2).scale

/-- The sum, in order, of the numbers scaled by their units. -/
def clockSeconds? (parts : List (List Char × List Char)) : Option Binary64 :=
  parts.foldlM addClockSeconds? (.finite 0)

/-- The seconds that a text denotes, if it follows one of the rules. -/
def seconds? (cs : List Char) : Option Binary64 :=
  match Pattern.wholePair? numberPattern calendarUnitPattern cs with
  | some (number, unit) => calendarSeconds? number unit
  | none =>
      if clockPattern.isWhole cs then
        clockSeconds? (Pattern.scan numberPattern clockUnitPattern cs)
      else none

/-- A number of seconds below `2 ^ 64` as a duration. -/
def ofBinarySeconds? : Binary64 → Option Duration
  | .infinite => none
  | .finite units =>
      if units < UInt64.size * Binary64.one then
        some ⟨roundHalfEven (units * 1_000_000_000) Binary64.one⟩
      else none

/-- Why a text is no duration. -/
inductive Fault where
  /-- Nothing but blanks. -/
  | empty
  /-- The text follows no rule of the grammar. -/
  | invalid (text : String)
  /-- The text denotes `2 ^ 64` seconds or more. -/
  | outOfRange (text : String)
  deriving DecidableEq

/-- What the operator is told. -/
def Fault.message : Fault → String
  | .empty => "empty duration"
  | .invalid text => "invalid duration '" ++ text ++ "'"
  | .outOfRange text => "duration '" ++ text ++ "' is out of range"

/-- The duration that a text denotes; blanks around it do not count. -/
def parse (text : String) : Except Fault Duration :=
  let trimmed := trim text
  if trimmed.isEmpty then .error .empty
  else
    match seconds? trimmed.toList with
    | none => .error (.invalid text)
    | some seconds =>
        match ofBinarySeconds? seconds with
        | none => .error (.outOfRange text)
        | some d => .ok d

end JetStream.Duration
