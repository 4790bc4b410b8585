/-!
# Durations

A duration is a whole number of nanoseconds.
-/

namespace JetStream

/-- A span of time. -/
structure Duration where
  /-- Its length. -/
  nanoseconds : Nat
  deriving DecidableEq, Inhabited

namespace Duration

/-- No time at all. -/
def zero : Duration := ⟨0⟩

/-- So many whole seconds, and nanoseconds besides. -/
def ofParts (seconds nanoseconds : Nat) : Duration :=
  ⟨seconds * 1_000_000_000 + nanoseconds⟩

/-- So many seconds. -/
def ofSeconds (seconds : Nat) : Duration := ofParts seconds 0

/-- So many milliseconds. -/
def ofMilliseconds (milliseconds : Nat) : Duration := ⟨milliseconds * 1_000_000⟩

/-- The whole seconds. -/
def seconds (d : Duration) : Nat := d.nanoseconds / 1_000_000_000

/-- The nanoseconds beyond the whole seconds. -/
def subsecond (d : Duration) : Nat := d.nanoseconds % 1_000_000_000

/-- The whole milliseconds. -/
def milliseconds (d : Duration) : Nat := d.nanoseconds / 1_000_000

/-- No time at all. -/
def isZero (d : Duration) : Bool := d.nanoseconds == 0

/-- The duration, unless it is none at all. -/
def nonzero? (d : Option Duration) : Option Duration := d.filter (!·.isZero)

instance : Add Duration := ⟨fun a b => ⟨a.nanoseconds + b.nanoseconds⟩⟩

theorem nanoseconds_add (a b : Duration) :
    (a + b).nanoseconds = a.nanoseconds + b.nanoseconds := rfl

/-- The least whole number of milliseconds that is not shorter. -/
def roundUpToMilliseconds (d : Duration) : Duration :=
  ofMilliseconds ((d.nanoseconds + (1_000_000 - 1)) / 1_000_000)

theorem ofParts_seconds_subsecond (d : Duration) : ofParts d.seconds d.subsecond = d := by
  simp only [ofParts, seconds, subsecond, Nat.div_add_mod']

end Duration

end JetStream
