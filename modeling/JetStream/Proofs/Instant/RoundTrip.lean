import JetStream.Instant.Reader
import JetStream.Proofs.Instant.Calendar
import JetStream.Proofs.Instant.Clock
import JetStream.Proofs.Text.Blank
import JetStream.Proofs.Text.Decimal

/-!
# Instants read back from their text

`read?_text`: the text of any instant, in a year of any size and in a leap second or not, denotes
what a clock shows then.  So text and reading undo one another exactly on the instants that a clock
comes to (`read?_text_eq_self_iff`), and no text denotes any other (`isClockTime_of_read?`).

The proof follows the text.  Every number in it is padded with zeros to as many digits as its reader
takes, so that nothing has to be known about what follows; only the year, which may be longer, and
the fraction, which may be shorter, end where something other than a digit stands.
-/

namespace JetStream

open Text

/-! ## Padded digits -/

theorem isDigit_of_mem_paddedDigits {places n : Nat} {c : Char} (h : c ∈ paddedDigits places n) :
    c.isDigit = true := by
  simp only [paddedDigits, List.mem_append, List.mem_replicate] at h
  rcases h with ⟨-, rfl⟩ | h
  · decide
  · exact isDigit_of_mem_toDigits h

@[simp] theorem digitsValue_paddedDigits (places n : Nat) :
    digitsValue (paddedDigits places n) = n := by
  rw [paddedDigits, digitsValue_replicate_zero_append, digitsValue_toDigits]

theorem length_paddedDigits {places n : Nat} (h : (Nat.toDigits 10 n).length ≤ places) :
    (paddedDigits places n).length = places := by
  simp only [paddedDigits, List.length_append, List.length_replicate]
  omega

theorem paddedDigits_ne_nil (places n : Nat) : paddedDigits places n ≠ [] := by
  simp [paddedDigits]

theorem exists_paddedDigits_eq_cons (places n : Nat) :
    ∃ c digits, paddedDigits places n = c :: digits ∧ c.isDigit = true := by
  obtain ⟨c, digits, hdigits⟩ := List.exists_cons_of_ne_nil (paddedDigits_ne_nil places n)
  exact ⟨c, digits, hdigits, isDigit_of_mem_paddedDigits (hdigits ▸ List.mem_cons_self)⟩

theorem trimStart_paddedDigits_append (places n : Nat) (rest : List Char) :
    trimStart (paddedDigits places n ++ rest) = paddedDigits places n ++ rest := by
  obtain ⟨c, digits, hdigits, hdigit⟩ := exists_paddedDigits_eq_cons places n
  rw [hdigits, List.cons_append, trimStart_eq_self (isBlank_eq_false_of_isDigit hdigit)]

namespace Instant

/-! ## Taking numbers off the front -/

/-- A reader of some digits takes all that there are, if it may. -/
private theorem digits?_append {atMost : Nat} {digits : List Char} (rest : List Char)
    (hne : digits ≠ []) (hdigits : ∀ c ∈ digits, c.isDigit = true)
    (hlength : digits.length ≤ atMost) (hend : digits.length = atMost ∨ NoDigit rest) :
    digits? (some atMost) (digits ++ rest) = some (digits, rest) := by
  have htaken : ((digits ++ rest).takeWhile Char.isDigit).take atMost = digits := by
    rcases hend with hfull | hrest
    · rw [List.takeWhile_append_of_pos hdigits, ← hfull, List.take_left]
    · rw [takeWhile_isDigit_append hdigits hrest, List.take_of_length_le hlength]
  simp only [digits?, htaken]
  rw [if_neg hne, List.drop_left]

private theorem digits?_all {digits rest : List Char} (hne : digits ≠ [])
    (hdigits : ∀ c ∈ digits, c.isDigit = true) (hrest : NoDigit rest) :
    digits? none (digits ++ rest) = some (digits, rest) := by
  simp only [digits?, takeWhile_isDigit_append hdigits hrest]
  rw [if_neg hne, List.drop_left]

/-- A field of two digits, with what follows it. -/
private theorem field?_paddedDigits {low high n : Nat} (h : n < 100) (hlow : low ≤ n)
    (hhigh : n ≤ high) (rest : List Char) :
    field? 2 low high (paddedDigits 2 n ++ rest) = some (n, rest) := by
  have hlength : (paddedDigits 2 n).length = 2 :=
    length_paddedDigits ((Nat.length_toDigits_le_iff (by decide) Nat.zero_lt_two).mpr h)
  have hread := digits?_append rest (paddedDigits_ne_nil 2 n)
    (fun _ hc => isDigit_of_mem_paddedDigits hc) (Nat.le_of_eq hlength) (Or.inl hlength)
  simp [field?, trimStart_paddedDigits_append, hread, hlow, hhigh]

private theorem separator?_cons {c : Char} (hblank : isBlank c = false) (rest : List Char) :
    separator? c (c :: rest) = some rest := by
  simp [separator?, trimStart_eq_self hblank]

/-! ## The date -/

private theorem year?_yearText (year : Int) (rest : List Char) :
    year? (yearText year ++ '-' :: rest) = some (year, '-' :: rest) := by
  have hend : NoDigit ('-' :: rest) := noDigit_cons.mpr (by decide)
  have hall : ∀ n, digits? none (paddedDigits 4 n ++ '-' :: rest) =
      some (paddedDigits 4 n, '-' :: rest) := fun n =>
    digits?_all (paddedDigits_ne_nil 4 n) (fun _ hc => isDigit_of_mem_paddedDigits hc) hend
  unfold yearText
  split
  · rename_i hfour
    have hlength : (paddedDigits 4 year.toNat).length = 4 :=
      length_paddedDigits
        ((Nat.length_toDigits_le_iff (by decide) (by decide)).mpr (by omega))
    have hread := digits?_append ('-' :: rest) (paddedDigits_ne_nil 4 year.toNat)
      (fun _ hc => isDigit_of_mem_paddedDigits hc) (Nat.le_of_eq hlength) (Or.inl hlength)
    obtain ⟨c, digits, hdigits, hdigit⟩ := exists_paddedDigits_eq_cons 4 year.toNat
    simp only [year?, trimStart_paddedDigits_append]
    -- a year of four digits has no sign, so it begins with a digit
    rw [hdigits, List.cons_append] at hread ⊢
    split
    · rename_i heq
      rw [(List.cons.inj heq).1] at hdigit
      exact absurd hdigit (by decide)
    · rename_i heq
      rw [(List.cons.inj heq).1] at hdigit
      exact absurd hdigit (by decide)
    · rw [hread, ← hdigits]
      simp only [Option.bind_eq_bind, Option.bind_some, digitsValue_paddedDigits,
        Option.some.injEq, Prod.mk.injEq, and_true]
      omega
  · split
    · rw [List.cons_append, year?, trimStart_eq_self (by decide)]
      simp only [hall, Option.bind_eq_bind, Option.bind_some, digitsValue_paddedDigits,
        Option.some.injEq, Prod.mk.injEq, and_true]
      omega
    · rw [List.cons_append, year?, trimStart_eq_self (by decide)]
      simp only [hall, Option.bind_eq_bind, Option.bind_some, digitsValue_paddedDigits,
        Option.some.injEq, Prod.mk.injEq, and_true]
      omega

private theorem month_day_lt {d : Date} (h : d.IsValid) : d.month < 100 ∧ d.day ≤ 31 := by
  obtain ⟨-, hmonth, -, hday⟩ := h
  refine ⟨by omega, Nat.le_trans hday ?_⟩
  unfold Date.daysInMonth
  repeat' split
  all_goals omega

/-- The date of a text is read whatever follows. -/
theorem date?_text {d : Date} (h : d.IsValid) (rest : List Char) :
    date? (d.text ++ rest) = some (d, rest) := by
  obtain ⟨hmonth, hday⟩ := month_day_lt h
  have hvalid := h
  obtain ⟨hfirstMonth, hlastMonth, hfirstDay, -⟩ := h
  simp [date?, Date.text, year?_yearText, separator?_cons (c := '-') (by decide),
    field?_paddedDigits hmonth hfirstMonth hlastMonth,
    field?_paddedDigits (by omega) hfirstDay hday, hvalid]

/-! ## The time -/

private theorem fraction?_fractionText {nanosecond : Nat} (h : nanosecond < 1_000_000_000)
    {c : Char} (hc : c.isDigit = false) (hpoint : c ≠ '.') (rest : List Char) :
    fraction? (fractionText nanosecond ++ c :: rest) = some (nanosecond, c :: rest) := by
  have hread : ∀ places n, 0 < places → places ≤ 9 → n < 10 ^ places →
      fraction? ('.' :: paddedDigits places n ++ c :: rest) =
        some (n * 10 ^ (9 - places), c :: rest) := by
    intro places n hplaces hnine hn
    have hlength : (paddedDigits places n).length = places :=
      length_paddedDigits ((Nat.length_toDigits_le_iff (by decide) hplaces).mpr hn)
    have hdigits := digits?_append (c :: rest) (paddedDigits_ne_nil places n)
      (fun _ hc => isDigit_of_mem_paddedDigits hc) (Nat.le_trans (Nat.le_of_eq hlength) hnine)
      (Or.inr (noDigit_cons.mpr hc))
    simp [fraction?, hdigits, hlength, hc]
  unfold fractionText
  split
  · rename_i hzero
    rw [List.nil_append, fraction?.eq_def]
    simp [hpoint, hzero]
  · split
    · rw [hread 3 _ (by decide) (by decide) (by omega)]
      exact congrArg (fun n => some (n, c :: rest)) (by omega)
    · split
      · rw [hread 6 _ (by decide) (by decide) (by omega)]
        exact congrArg (fun n => some (n, c :: rest)) (by omega)
      · rw [hread 9 _ (by decide) (by decide) (by omega)]
        exact congrArg (fun n => some (n, c :: rest)) (by omega)

theorem secondOfDay_lt (t : Instant) : t.secondOfDay < 86400 := by
  simp only [secondOfDay, daySeconds]
  omega

/-- The time of a text is read as the second of the day, a leap second with its nanoseconds. -/
private theorem time?_text {t : Instant} (h : t.IsClockTime) (rest : List Char) :
    time? (t.clockText ++ (fractionText (t.nanosecond % 1_000_000_000) ++ 'Z' :: rest)) =
      some ((t.secondOfDay, t.nanosecond), 'Z' :: rest) := by
  have hday := secondOfDay_lt t
  have hnanosecond := t.isInstant.2.2
  have hfraction := fraction?_fractionText (Nat.mod_lt t.nanosecond (by decide))
    (c := 'Z') (by decide) (by decide) rest
  have htwo : ∀ {high n : Nat} (more : List Char), n ≤ high → high < 100 →
      field? 2 0 high (paddedDigits 2 n ++ more) = some (n, more) := fun more hhigh hhundred =>
    field?_paddedDigits (by omega) (Nat.zero_le _) hhigh more
  have hcolon := separator?_cons (c := ':') (by decide)
  simp only [time?, clockText, List.append_assoc, List.cons_append]
  rw [htwo _ (by omega) (by decide)]
  simp only [Option.bind_eq_bind, Option.bind_some, hcolon]
  rw [htwo _ (by omega) (by decide)]
  simp only [Option.bind_some, hcolon]
  by_cases hleap : t.isLeap = true
  · -- the second 60 is read as the second 59 with a second of nanoseconds more
    have hminute : t.secondOfDay % 60 = 59 := by
      have hend := h hleap
      simp only [secondOfDay, daySeconds]
      omega
    have hbillion := isLeap_eq_true_iff.mp hleap
    rw [if_pos hleap, htwo _ (by omega) (by decide)]
    simp only [Option.bind_some, hfraction]
    rw [if_pos (by omega)]
    simp only [Option.some.injEq, Prod.mk.injEq, and_true]
    omega
  · have hbillion : t.nanosecond < 1_000_000_000 := by simpa [isLeap] using hleap
    rw [if_neg hleap, htwo _ (by omega) (by decide)]
    simp only [Option.bind_some, hfraction]
    rw [if_neg (by omega)]
    simp only [Option.some.injEq, Prod.mk.injEq, and_true]
    omega

/-! ## Whole texts -/

theorem toDays_date (t : Instant) :
    t.date.toDays * daySeconds + t.secondOfDay = t.second := by
  rw [date, Date.toDays_ofDays]
  simp only [secondOfDay, daySeconds]
  omega

private theorem read?_text_of_isClockTime {t : Instant} (h : t.IsClockTime) :
    read? t.text = some t := by
  have hdate := date?_text (d := t.date) (Date.isValid_ofDays _)
  have htime := time?_text h []
  have hoffset : offset? (trimStart ['Z']) = some (0, []) := by
    rw [trimStart_eq_self (by decide)]
    rfl
  have hend : trimStart [] = [] := rfl
  have hlocal := ofParts?_self t
  simp [read?, text, localText, hdate, htime, hoffset, hend, toDays_date, hlocal]

/-- The text of an instant denotes what a clock shows then. -/
theorem read?_text (t : Instant) : read? t.text = some t.shown := by
  rw [← text_shown, read?_text_of_isClockTime (isClockTime_shown t)]

/-- The instants of a clock, and no others, are read back from their text. -/
theorem read?_text_eq_self_iff (t : Instant) : read? t.text = some t ↔ t.IsClockTime := by
  rw [read?_text, Option.some.injEq, shown_eq_self_iff]

/-! ## What a text can denote -/

private theorem isDigit_of_digits? {atMost : Option Nat} {cs digits rest : List Char}
    (h : digits? atMost cs = some (digits, rest)) : ∀ c ∈ digits, c.isDigit = true := by
  obtain ⟨-, h⟩ := Option.ite_none_left_eq_some.mp h
  cases h
  intro c hc
  cases atMost with
  | none => exact List.mem_takeWhile_imp hc
  | some n => exact List.mem_takeWhile_imp (List.mem_of_mem_take hc)

private theorem length_of_digits? {atMost : Nat} {cs digits rest : List Char}
    (h : digits? (some atMost) cs = some (digits, rest)) : digits.length ≤ atMost := by
  obtain ⟨-, h⟩ := Option.ite_none_left_eq_some.mp h
  cases h
  exact List.length_take_le ..

private theorem lt_of_fraction? {cs rest : List Char} {nanosecond : Nat}
    (h : fraction? cs = some (nanosecond, rest)) : nanosecond < 1_000_000_000 := by
  unfold fraction? at h
  split at h
  · obtain ⟨⟨digits, more⟩, hdigits, h⟩ := Option.bind_eq_some_iff.mp h
    cases h
    have hlength := length_of_digits? hdigits
    have hlt := digitsValue_lt (isDigit_of_digits? hdigits)
    calc digitsValue digits * 10 ^ (9 - digits.length)
        < 10 ^ digits.length * 10 ^ (9 - digits.length) :=
          Nat.mul_lt_mul_of_pos_right hlt (Nat.pow_pos (by decide))
      _ = 10 ^ (digits.length + (9 - digits.length)) := (Nat.pow_add ..).symm
      _ = 1_000_000_000 := congrArg (10 ^ ·) (Nat.add_sub_cancel' hlength)
  · cases h
    decide

/-- A leap second is read only at the end of a minute. -/
private theorem mod_of_time? {cs rest : List Char} {second nanosecond : Nat}
    (h : time? cs = some ((second, nanosecond), rest)) (hleap : 1_000_000_000 ≤ nanosecond) :
    second % 60 = 59 := by
  obtain ⟨⟨hour, _⟩, -, h⟩ := Option.bind_eq_some_iff.mp h
  obtain ⟨_, -, h⟩ := Option.bind_eq_some_iff.mp h
  obtain ⟨⟨minute, _⟩, -, h⟩ := Option.bind_eq_some_iff.mp h
  obtain ⟨_, -, h⟩ := Option.bind_eq_some_iff.mp h
  obtain ⟨⟨_, _⟩, -, h⟩ := Option.bind_eq_some_iff.mp h
  obtain ⟨⟨fraction, _⟩, hfraction, h⟩ := Option.bind_eq_some_iff.mp h
  have hlt := lt_of_fraction? hfraction
  dsimp only at h
  split at h
  · cases h
    omega
  · cases h
    omega

private theorem mod_of_offset? {cs rest : List Char} {offset : Int}
    (h : offset? cs = some (offset, rest)) : offset % 60 = 0 := by
  have hamount : ∀ {cs : List Char} {amount : Nat} {rest : List Char},
      offsetAmount? cs = some (amount, rest) → amount % 60 = 0 := by
    intro cs amount rest h
    obtain ⟨⟨hours, _⟩, -, h⟩ := Option.bind_eq_some_iff.mp h
    obtain ⟨⟨minutes, _⟩, -, h⟩ := Option.bind_eq_some_iff.mp h
    obtain ⟨-, h⟩ := Option.ite_none_right_eq_some.mp h
    cases h
    omega
  unfold offset? at h
  split at h
  case h_3 | h_4 | h_5 =>
    obtain ⟨⟨amount, _⟩, hread, h⟩ := Option.map_eq_some_iff.mp h
    have hminutes := hamount hread
    cases h
    omega
  case h_6 =>
    obtain ⟨-, h⟩ := Option.ite_none_right_eq_some.mp h
    cases h
    rfl
  case h_7 => cases h
  all_goals
    cases h
    rfl

/-- The part of the reader after the date and the separator. -/
private theorem isClockTime_of_read_time {date : Date} {cs : List Char} {t : Instant}
    (h : (do
      let ((second, nanosecond), cs) ← time? cs
      let (offset, cs) ← offset? (trimStart cs)
      if trimStart cs ≠ [] then none
      else
        let localTime ← ofParts? (date.toDays * daySeconds + second) nanosecond
        ofParts? (localTime.second - offset) localTime.nanosecond) = some t) :
    t.IsClockTime := by
  obtain ⟨⟨⟨second, nanosecond⟩, _⟩, htime, h⟩ := Option.bind_eq_some_iff.mp h
  obtain ⟨⟨offset, _⟩, hoffset, h⟩ := Option.bind_eq_some_iff.mp h
  obtain ⟨-, h⟩ := Option.ite_none_left_eq_some.mp h
  obtain ⟨localTime, hlocal, h⟩ := Option.bind_eq_some_iff.mp h
  obtain ⟨hlocalSecond, hlocalNanosecond⟩ := ofParts?_eq_some_iff.mp hlocal
  obtain ⟨hsecond, hnanosecond⟩ := ofParts?_eq_some_iff.mp h
  intro hleap
  rw [isLeap_eq_true_iff, hnanosecond, hlocalNanosecond] at hleap
  have hminute := mod_of_time? htime hleap
  have hwhole := mod_of_offset? hoffset
  rw [hsecond, hlocalSecond, daySeconds]
  omega

/-- Only instants of a clock are read off a text: an offset is of whole minutes. -/
theorem isClockTime_of_read? {s : String} {t : Instant} (h : read? s = some t) :
    t.IsClockTime := by
  obtain ⟨⟨date, _⟩, -, h⟩ := Option.bind_eq_some_iff.mp h
  dsimp only at h
  split at h
  case h_4 => cases h
  all_goals exact isClockTime_of_read_time h

end Instant

end JetStream
