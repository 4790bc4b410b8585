import JetStream.Proofs.Binary64
import JetStream.Proofs.Duration.Reading
import JetStream.Proofs.Text.Blank
import JetStream.Settings.Text

/-!
# Timeouts read back from their text

A timeout is written in whole seconds, or else in whole milliseconds, and read as a binary64 number
of seconds.  What is below a millisecond is lost when it is written.  When it is read, whole seconds
are kept if the format has them, and milliseconds for three weeks and more.
-/

namespace JetStream

open Text

namespace Duration

theorem ofMilliseconds_milliseconds_iff (d : Duration) :
    ofMilliseconds d.milliseconds = d ↔ 1_000_000 ∣ d.nanoseconds := by
  obtain ⟨n⟩ := d
  rw [ofMilliseconds, milliseconds, mk.injEq]
  exact (Nat.dvd_iff_div_mul_eq n 1_000_000).symm

/-- A whole number with a unit is one number of a row. -/
theorem isRow_number (n : Nat) {name : String} {unit : ClockUnit}
    (hunit : (name, unit) ∈ clockUnits) :
    IsRow [((toString n).toList, name.toList)] [(⟨(toString n).toList, []⟩, unit)]
      (toString n ++ name).toList where
  ne_nil := List.cons_ne_nil _ _
  denotes := by
    have hne : (toString n).toList ≠ [] := by
      rw [Nat.toString_eq_repr, Nat.toList_repr]
      exact Nat.toDigits_ne_nil
    exact .cons ⟨.whole hne fun c hc => isDigit_of_mem_toString hc, by rwa [String.ofList_toList]⟩
      .nil
  text_eq := by
    rw [String.toList_append]
    simp [rowText]

theorem value_number (n : Nat) : Numeral.value ⟨(toString n).toList, []⟩ = Binary64.ofNat n := by
  rw [Numeral.value, List.append_nil, Nat.toString_eq_repr, Nat.toList_repr, digitsValue_toDigits]
  rfl

theorem parse_of_seconds? {text : String} {seconds : Binary64} (htrim : trim text = text)
    (hempty : text.isEmpty = false) (h : seconds? text.toList = some seconds) :
    parse text = (ofBinarySeconds? seconds).elim (.error (.outOfRange text)) .ok := by
  rw [parse, htrim, hempty, h]
  simp only [Bool.false_eq_true, if_false]
  cases ofBinarySeconds? seconds <;> rfl

/-- A whole number with a unit is read as that many seconds. -/
theorem parse_number (n : Nat) {name : String} {unit : ClockUnit}
    (hunit : (name, unit) ∈ clockUnits) (hname : name.toList.any isBlank = false) :
    parse (toString n ++ name) =
      (ofBinarySeconds? (.finite 0 + Binary64.ofNat n * unit.scale)).elim
        (.error (.outOfRange (toString n ++ name))) .ok := by
  refine parse_of_seconds? (trim_eq_self fun c hc => ?_) ?_ ?_
  · rw [String.toList_append] at hc
    rcases List.mem_append.mp hc with hc | hc
    · exact isBlank_eq_false_of_isDigit (isDigit_of_mem_toString hc)
    · exact Bool.eq_false_iff.mpr (List.any_eq_false.mp hname c hc)
  · rw [Bool.eq_false_iff, ne_eq, String.isEmpty_iff, String.append_eq_empty_iff]
    rintro ⟨hnumber, -⟩
    exact Nat.toDigits_ne_nil (by rw [← Nat.toList_repr, ← Nat.toString_eq_repr, hnumber]; rfl)
  · rw [seconds?_of_isRow (isRow_number n hunit), rowSeconds, List.foldl_cons, List.foldl_nil,
      value_number]

open Binary64 (IsBinary)

theorem ofBinarySeconds?_finite (units : Nat) :
    ofBinarySeconds? (.finite units) =
      if units < 2 ^ 64 * Binary64.one then
        some ⟨roundHalfEven (units * 1_000_000_000) Binary64.one⟩
      else none := by
  have hsize : 2 ^ 64 = UInt64.size := rfl
  rw [hsize, ofBinarySeconds?]

theorem ofBinarySeconds?_mul_one (m : Nat) :
    ofBinarySeconds? (.finite (m * Binary64.one)) =
      if m < 2 ^ 64 then some ⟨m * 1_000_000_000⟩ else none := by
  have hpos := Binary64.one_pos
  rw [ofBinarySeconds?_finite]
  -- A variable for the power, as it is too large to be evaluated.
  generalize Binary64.one = one at hpos
  rw [Nat.mul_right_comm, roundHalfEven_mul_self hpos]
  simp only [Nat.mul_lt_mul_right hpos]

/-- Whole seconds are kept if the format has them. -/
theorem ofBinarySeconds?_ofNat_iff (n : Nat) :
    ofBinarySeconds? (Binary64.ofNat n) = some ⟨n * 1_000_000_000⟩ ↔ n < 2 ^ 64 ∧ IsBinary n := by
  constructor
  · intro h
    cases hunits : Binary64.ofNat n with
    | infinite =>
        rw [hunits] at h
        cases h
    | finite units =>
        obtain ⟨m, hm⟩ := Binary64.exists_eq_mul_one hunits
        rw [hunits, hm, ofBinarySeconds?_mul_one, Option.ite_none_right_eq_some] at h
        obtain ⟨hrange, hsame⟩ := h
        have hnanoseconds : m * 1_000_000_000 = n * 1_000_000_000 :=
          congrArg Duration.nanoseconds (Option.some.inj hsame)
        have hmn : m = n := Nat.eq_of_mul_eq_mul_right (by decide) hnanoseconds
        rw [Binary64.ofNat_eq_round] at hunits
        have hbinary := Binary64.isBinary_of_round hunits
        rw [hm, Binary64.isBinary_mul_one_iff, hmn] at hbinary
        exact ⟨hmn ▸ hrange, hbinary⟩
  · rintro ⟨hrange, hbinary⟩
    rw [Binary64.ofNat_of_isBinary hbinary hrange, ofBinarySeconds?_mul_one, if_pos hrange]

/-- Milliseconds are kept for three weeks and more. -/
theorem ofBinarySeconds?_thousandths {n : Nat} (h : n < 2 ^ 21 * 1000) :
    ofBinarySeconds? (Binary64.ofNat n * Binary64.ofRatio 1 1000) = some (ofMilliseconds n) := by
  obtain ⟨units, hunits, hrange, hlow, hhigh⟩ := Binary64.exists_thousandths_eq h
  rw [hunits, ofBinarySeconds?_finite]
  generalize Binary64.one = one at *
  rw [if_pos hrange, roundHalfEven_eq_of_near hlow hhigh, ofMilliseconds]

end Duration

namespace Settings

/-- The seconds that the text of a timeout denotes. -/
def writtenSeconds (d : Duration) : Binary64 :=
  if d.subsecond = 0 then Binary64.ofNat d.seconds
  else Binary64.ofNat d.milliseconds * Binary64.ofRatio 1 1000

theorem parse_timeoutText (d : Duration) :
    Duration.parse (timeoutText d) =
      (Duration.ofBinarySeconds? (writtenSeconds d)).elim
        (.error (.outOfRange (timeoutText d))) .ok := by
  unfold timeoutText writtenSeconds
  split
  · rw [@Duration.parse_number d.seconds "s" .second (by decide) (by decide),
      Binary64.zero_add_mul, Duration.ClockUnit.scale, Binary64.ofNat_mul_one]
  · rw [@Duration.parse_number d.milliseconds "ms" .millisecond (by decide) (by decide),
      Binary64.zero_add_mul, Duration.ClockUnit.scale]

/-- Timeouts that are not too long are cut to whole milliseconds. -/
theorem parse_timeoutText_of_lt {d : Duration} (h : d.seconds < 2 ^ 21) :
    Duration.parse (timeoutText d) = .ok (.ofMilliseconds d.milliseconds) := by
  obtain ⟨n⟩ := d
  simp only [Duration.seconds] at h
  rw [parse_timeoutText, writtenSeconds]
  split
  · rename_i hwhole
    simp only [Duration.subsecond] at hwhole
    have hkept := (Duration.ofBinarySeconds?_ofNat_iff (n / 1_000_000_000)).mpr
      ⟨by omega, Binary64.isBinary_of_lt (by omega)⟩
    have hsame : n / 1_000_000_000 * 1_000_000_000 = n / 1_000_000 * 1_000_000 := by omega
    rw [Duration.seconds, hkept, hsame]
    rfl
  · have hrange : n / 1_000_000 < 2 ^ 21 * 1000 := by omega
    rw [Duration.milliseconds, Duration.ofBinarySeconds?_thousandths hrange]
    rfl

end Settings

end JetStream
