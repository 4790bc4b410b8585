import JetStream.Instant.Basic

/-!
# Going back in time

Outside leap seconds an instant is known from its nanoseconds since the start of 1970, and to go
back by a duration is to subtract from them.  It fails only where no instant has the difference.
-/

namespace JetStream.Instant

variable {t start : Instant} {d : Duration}

/-- The nanoseconds since the start of 1970, with those of a leap second counted on. -/
def count (t : Instant) : Int :=
  t.second * 1_000_000_000 + t.nanosecond

theorem isLeap_eq_false_iff : t.isLeap = false ↔ t.nanosecond < 1_000_000_000 := by
  rw [isLeap, decide_eq_false_iff_not, Nat.not_le]

theorem ofParts?_eq_some_iff {second : Int} {nanosecond : Nat} :
    ofParts? second nanosecond = some t ↔ t.second = second ∧ t.nanosecond = nanosecond := by
  constructor
  · intro h
    unfold ofParts? at h
    split at h
    next =>
      obtain rfl := Option.some.inj h
      exact ⟨rfl, rfl⟩
    next => cases h
  · rintro ⟨rfl, rfl⟩
    exact ofParts?_self t

/-- A whole second is borrowed where the fraction is too small. -/
theorem subtract?_of_not_isLeap (ht : t.isLeap = false) :
    t.subtract? d =
      if d.subsecond ≤ t.nanosecond then
        ofParts? (t.second - d.seconds) (t.nanosecond - d.subsecond)
      else ofParts? (t.second - d.seconds - 1) (t.nanosecond + 1_000_000_000 - d.subsecond) := by
  rw [subtract?, ht]
  rfl

/-- The instant so much earlier is the one with so many nanoseconds less. -/
theorem subtract?_eq_some_iff (ht : t.isLeap = false) :
    t.subtract? d = some start ↔
      start.isLeap = false ∧ start.count + d.nanoseconds = t.count := by
  have hsubsecond : d.seconds * 1_000_000_000 + d.subsecond = d.nanoseconds :=
    Nat.div_add_mod' _ _
  have hlt : d.subsecond < 1_000_000_000 := Nat.mod_lt _ (by decide)
  rw [subtract?_of_not_isLeap ht, isLeap_eq_false_iff, count, count]
  rw [isLeap_eq_false_iff] at ht
  split <;> rw [ofParts?_eq_some_iff] <;> omega

theorem le_of_subtract? (ht : t.isLeap = false) (h : t.subtract? d = some start) :
    start.le t = true := by
  obtain ⟨hstart, hcount⟩ := (subtract?_eq_some_iff ht).mp h
  rw [isLeap_eq_false_iff] at ht hstart
  rw [count, count] at hcount
  simp only [le, Bool.or_eq_true, Bool.and_eq_true, decide_eq_true_eq]
  omega

end JetStream.Instant
