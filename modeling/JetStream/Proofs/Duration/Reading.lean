import JetStream.Consumer.Rules
import JetStream.Proofs.Duration.Grammar

/-!
# What a duration is read as

The seconds that a text denotes are known from the way in which it is written: from its number and
its letter, or from the numbers and the units of a row.  A text that is not written so, or not in
ASCII digits, denotes none, and whatever keeps a text from being a duration is told to the operator.
-/

namespace JetStream

open Text

namespace Duration

/-- A part of a row is a number in ASCII digits with the name of a unit. -/
structure Denotes (part : List Char × List Char) (term : Numeral × ClockUnit) : Prop where
  isWritten : term.1.IsWritten Char.isDigit part.1
  isUnit : (String.ofList part.2, term.2) ∈ clockUnits

/-- A text is a row of parts, each of which denotes a number and a unit. -/
structure IsRow (parts : List (List Char × List Char)) (terms : List (Numeral × ClockUnit))
    (cs : List Char) : Prop where
  ne_nil : parts ≠ []
  denotes : List.Forall₂ Denotes parts terms
  text_eq : rowText parts = cs

/-- A text is a number with the letter of a calendar unit. -/
structure IsCalendar (number : List Char) (n : Numeral) (letter : Char) (unit : CalendarUnit)
    (cs : List Char) : Prop where
  isWritten : n.IsWritten Char.isDigit number
  isUnit : (letter, unit) ∈ calendarUnits
  text_eq : number ++ [letter] = cs

/-- The sum, in order, of the numbers scaled by their units. -/
def rowSeconds (terms : List (Numeral × ClockUnit)) : Binary64 :=
  terms.foldl (fun total term => total + term.1.value * term.2.scale) (.finite 0)

variable {part : List Char × List Char} {term : Numeral × ClockUnit}
  {parts : List (List Char × List Char)} {terms : List (Numeral × ClockUnit)} {cs : List Char}

theorem fits_of_isWritten {n : Numeral} {number : List Char}
    (h : n.IsWritten Char.isDigit number) : numberPattern.Fits number :=
  fits_numberPattern_iff.mpr ⟨n, h.mono fun _ hc => isDecimalDigit_of_isDigit hc⟩

/-! ## Parts -/

theorem Denotes.isPart (h : Denotes part term) : IsPart part :=
  ⟨fits_of_isWritten h.isWritten, fits_clockUnitPattern_iff.mpr ⟨_, h.isUnit⟩⟩

theorem Denotes.unique {term' : Numeral × ClockUnit} (h : Denotes part term)
    (h' : Denotes part term') : term = term' := by
  have hnumber := Numeral.ofText?_eq_some_iff.mpr h.isWritten
  rw [Numeral.ofText?_eq_some_iff.mpr h'.isWritten] at hnumber
  have hunit := clockUnit_ofName h.isUnit
  rw [clockUnit_ofName h'.isUnit] at hunit
  exact Prod.ext (Option.some.inj hnumber).symm hunit.symm

theorem addClockSeconds?_of_denotes (h : Denotes part term) (total : Binary64) :
    addClockSeconds? total part = some (total + term.1.value * term.2.scale) := by
  rw [addClockSeconds?, Numeral.ofText?_eq_some_iff.mpr h.isWritten, clockUnit_ofName h.isUnit,
    Option.map_some]

theorem exists_denotes_of_addClockSeconds? (hpart : IsPart part) {total sum : Binary64}
    (h : addClockSeconds? total part = some sum) : ∃ term, Denotes part term := by
  obtain ⟨n, hn, -⟩ := Option.map_eq_some_iff.mp h
  obtain ⟨unit, hunit⟩ := fits_clockUnitPattern_iff.mp hpart.2
  exact ⟨(n, unit), Numeral.ofText?_eq_some_iff.mp hn, hunit⟩

/-! ## Rows -/

theorem isPart_of_denotes (h : List.Forall₂ Denotes parts terms) : ∀ part ∈ parts, IsPart part := by
  induction h with
  | nil => exact List.forall_mem_nil _
  | cons hpart _ ih => exact List.forall_mem_cons.mpr ⟨hpart.isPart, ih⟩

theorem foldlM_addClockSeconds?_of_denotes (h : List.Forall₂ Denotes parts terms)
    (total : Binary64) :
    parts.foldlM addClockSeconds? total =
      some (terms.foldl (fun total term => total + term.1.value * term.2.scale) total) := by
  induction h generalizing total with
  | nil => rfl
  | cons hpart _ ih =>
      rw [List.foldlM_cons, addClockSeconds?_of_denotes hpart, Option.bind_eq_bind,
        Option.bind_some, ih, List.foldl_cons]

theorem exists_denotes_of_foldlM (hparts : ∀ part ∈ parts, IsPart part) {total sum : Binary64}
    (h : parts.foldlM addClockSeconds? total = some sum) :
    ∃ terms, List.Forall₂ Denotes parts terms := by
  induction parts generalizing total with
  | nil => exact ⟨[], .nil⟩
  | cons part parts ih =>
      obtain ⟨hpart, hparts⟩ := List.forall_mem_cons.mp hparts
      rw [List.foldlM_cons, Option.bind_eq_bind] at h
      obtain ⟨total', hfirst, hrest⟩ := Option.bind_eq_some_iff.mp h
      obtain ⟨term, hterm⟩ := exists_denotes_of_addClockSeconds? hpart hfirst
      obtain ⟨terms, hterms⟩ := ih hparts hrest
      exact ⟨term :: terms, .cons hterm hterms⟩

namespace IsRow

theorem scan_eq (h : IsRow parts terms cs) :
    Pattern.scan numberPattern clockUnitPattern cs = parts := by
  rw [← h.text_eq]
  exact scan_rowText (isPart_of_denotes h.denotes)

theorem isWhole (h : IsRow parts terms cs) : clockPattern.isWhole cs = true :=
  Pattern.isWhole_iff.mpr
    (fits_clockPattern_iff.mpr ⟨parts, h.ne_nil, isPart_of_denotes h.denotes, h.text_eq⟩)

/-- A row can be taken apart in one way only. -/
theorem unique {parts' : List (List Char × List Char)} {terms' : List (Numeral × ClockUnit)}
    (h : IsRow parts terms cs) (h' : IsRow parts' terms' cs) : parts' = parts ∧ terms' = terms := by
  obtain rfl := h'.scan_eq.symm.trans h.scan_eq
  exact ⟨rfl, List.right_unique_forall₂' (fun _ _ _ hfirst hsecond => hfirst.unique hsecond)
    h'.denotes h.denotes⟩

end IsRow

/-! ## One rule or the other -/

/-- A number with a letter of the calendar is no row: no clock unit begins with such a letter. -/
theorem append_ne_rowText {number unit : List Char} (hnumber : numberPattern.Fits number)
    (hunit : calendarUnitPattern.Fits unit) (hparts : ∀ part ∈ parts, IsPart part) :
    number ++ unit ≠ rowText parts := by
  intro heq
  cases parts with
  | nil => exact ne_nil_of_fits_number hnumber (List.append_eq_nil_iff.mp heq).1
  | cons part parts =>
      have hpart := hparts part List.mem_cons_self
      rw [rowText_cons] at heq
      obtain rfl := eq_of_append_eq hnumber hpart.1 (endsNumber_calendarUnit hunit)
        (endsNumber_clockUnit hpart.2 _) heq
      have hsame := List.append_cancel_left heq
      obtain ⟨c, more, hname, -, hc⟩ := exists_cons_of_fits_clockUnit hpart.2
      obtain ⟨letter, unit, hletter, rfl⟩ := fits_calendarUnitPattern_iff.mp hunit
      rw [hname] at hsame
      have hletters : ∀ entry ∈ calendarUnits, entry.1 ∈ calendarLetters := by decide
      exact hc ((List.cons.inj hsame).1 ▸ hletters _ hletter)

theorem IsRow.not_isCalendar (h : IsRow parts terms cs) (number : List Char) (n : Numeral)
    (letter : Char) (unit : CalendarUnit) : ¬IsCalendar number n letter unit cs := by
  intro hcalendar
  have hunit := fits_calendarUnitPattern_iff.mpr ⟨letter, unit, hcalendar.isUnit, rfl⟩
  exact append_ne_rowText (fits_of_isWritten hcalendar.isWritten) hunit
    (isPart_of_denotes h.denotes) (hcalendar.text_eq.trans h.text_eq.symm)

/-! ## The seconds -/

theorem seconds?_of_isRow (h : IsRow parts terms cs) : seconds? cs = some (rowSeconds terms) := by
  have hnone : Pattern.wholePair? numberPattern calendarUnitPattern cs = none := by
    refine Pattern.wholePair?_eq_none_iff.mpr fun number unit hnumber hunit heq => ?_
    exact append_ne_rowText hnumber hunit (isPart_of_denotes h.denotes) (heq.trans h.text_eq.symm)
  rw [seconds?, hnone, h.scan_eq]
  dsimp only
  rw [if_pos h.isWhole]
  exact foldlM_addClockSeconds?_of_denotes h.denotes _

theorem seconds?_of_isCalendar {number : List Char} {n : Numeral} {letter : Char}
    {unit : CalendarUnit} (h : IsCalendar number n letter unit cs) :
    seconds? cs = some (n.value * Binary64.ofNat unit.hours * Binary64.ofNat 3600) := by
  have hnumber := fits_of_isWritten h.isWritten
  have hunit := fits_calendarUnitPattern_iff.mpr ⟨letter, unit, h.isUnit, rfl⟩
  have hfound :
      Pattern.wholePair? numberPattern calendarUnitPattern cs = some (number, [letter]) := by
    cases hpair : Pattern.wholePair? numberPattern calendarUnitPattern cs with
    | none =>
        exact absurd h.text_eq (Pattern.wholePair?_eq_none_iff.mp hpair _ _ hnumber hunit)
    | some pair =>
        obtain ⟨hnumber', hunit', heq⟩ := Pattern.fits_of_wholePair? hpair
        rw [← h.text_eq] at heq
        have hsame := eq_of_append_eq hnumber' hnumber (endsNumber_calendarUnit hunit')
          (endsNumber_calendarUnit hunit) heq
        rw [hsame] at heq
        rw [← hsame, ← List.append_cancel_left heq]
  rw [seconds?, hfound]
  dsimp only
  rw [calendarSeconds?, Numeral.ofText?_eq_some_iff.mpr h.isWritten, calendarUnit_ofName h.isUnit,
    Option.map_some]

/-- Only what is written in one of the two ways denotes any seconds. -/
theorem isCalendar_or_isRow_of_seconds? {seconds : Binary64} (h : seconds? cs = some seconds) :
    (∃ number n letter unit, IsCalendar number n letter unit cs) ∨
      ∃ parts terms, IsRow parts terms cs := by
  rw [seconds?] at h
  split at h
  next number unit hpair =>
    obtain ⟨-, hunit, heq⟩ := Pattern.fits_of_wholePair? hpair
    obtain ⟨n, hn, -⟩ := Option.map_eq_some_iff.mp h
    obtain ⟨letter, unit, hletter, rfl⟩ := fits_calendarUnitPattern_iff.mp hunit
    exact .inl ⟨number, n, letter, unit, Numeral.ofText?_eq_some_iff.mp hn, hletter, heq⟩
  next =>
    split at h
    next hwhole =>
      obtain ⟨parts, hne, hparts, rfl⟩ := fits_clockPattern_iff.mp (Pattern.isWhole_iff.mp hwhole)
      rw [scan_rowText hparts] at h
      obtain ⟨terms, hterms⟩ := exists_denotes_of_foldlM hparts h
      exact .inr ⟨parts, terms, hne, hterms, rfl⟩
    next => cases h

end Duration

namespace Consumer

open Duration

/-- The duration of so many seconds, unless there are too many. -/
def withinRange (text : String) (seconds : Binary64) : Except Error Duration :=
  match ofBinarySeconds? seconds with
  | some d => .ok d
  | none => .error (.input ("duration '" ++ text ++ "' is out of range"))

/-- Why a text that denotes no seconds is no duration. -/
def noDuration (text : String) : Error :=
  if trim text = "" then .input "empty duration" else .input ("invalid duration '" ++ text ++ "'")

theorem readDuration_eq (text : String) :
    readDuration text =
      match seconds? (trim text).toList with
      | some seconds => withinRange text seconds
      | none => .error (noDuration text) := by
  unfold readDuration Duration.parse noDuration withinRange
  by_cases hempty : trim text = ""
  · rw [hempty]
    rfl
  · have hne : (trim text).isEmpty = false := by
      rw [Bool.eq_false_iff, ne_eq, String.isEmpty_iff]
      exact hempty
    dsimp only
    rw [hne, if_neg hempty]
    cases seconds? (trim text).toList with
    | none => rfl
    | some seconds =>
        dsimp only
        cases ofBinarySeconds? seconds with
        | none => rfl
        | some d => rfl

/-- A text is read by the one rule that it is written by.  A row is the one way in which it can be
taken apart, and its parts are those that the search through it finds; the sum over them is what
becomes the duration.  All else is an error of the input. -/
theorem readDuration_exact (text : String) :
    let cs := (trim text).toList
    (∀ number n letter unit, IsCalendar number n letter unit cs →
      (∀ parts terms, ¬IsRow parts terms cs) ∧
      readDuration text =
        withinRange text (n.value * Binary64.ofNat unit.hours * Binary64.ofNat 3600)) ∧
    (∀ parts terms, IsRow parts terms cs →
      (∀ number n letter unit, ¬IsCalendar number n letter unit cs) ∧
      (∀ parts' terms', IsRow parts' terms' cs → parts' = parts ∧ terms' = terms) ∧
      clockPattern.isWhole cs = true ∧
      Pattern.scan numberPattern clockUnitPattern cs = parts ∧
      readDuration text = withinRange text (rowSeconds terms)) ∧
    ((∀ number n letter unit, ¬IsCalendar number n letter unit cs) →
      (∀ parts terms, ¬IsRow parts terms cs) →
      readDuration text = .error (noDuration text)) := by
  intro cs
  refine ⟨?_, ?_, ?_⟩
  · intro number n letter unit hcalendar
    refine ⟨fun parts terms hrow => hrow.not_isCalendar number n letter unit hcalendar, ?_⟩
    rw [readDuration_eq, seconds?_of_isCalendar hcalendar]
  · intro parts terms hrow
    refine ⟨hrow.not_isCalendar, fun _ _ => hrow.unique, hrow.isWhole, hrow.scan_eq, ?_⟩
    rw [readDuration_eq, seconds?_of_isRow hrow]
  · intro hcalendar hrow
    have hnone : seconds? cs = none := by
      refine Option.eq_none_iff_forall_ne_some.mpr fun seconds hseconds => ?_
      rcases isCalendar_or_isRow_of_seconds? hseconds with ⟨_, _, _, _, h⟩ | ⟨_, _, h⟩
      · exact hcalendar _ _ _ _ h
      · exact hrow _ _ h
    rw [readDuration_eq, hnone]

/-- A minute and half a millisecond: the first `m` is a unit, and the second begins one. -/
theorem readDuration_exact_minute :
    let text := " 1m.5ms "
    let parts := [(['1'], ['m']), (['.', '5'], ['m', 's'])]
    IsRow parts [(⟨['1'], []⟩, .minute), (⟨[], ['5']⟩, .millisecond)] (trim text).toList ∧
      Pattern.scan numberPattern clockUnitPattern (trim text).toList = parts ∧
      readDuration text = .ok ⟨60_000_500_000⟩ := by
  intro text parts
  have hminute : Denotes (['1'], ['m']) (⟨['1'], []⟩, .minute) :=
    ⟨.whole (by decide) (by simp), by decide⟩
  have hmillisecond : Denotes (['.', '5'], ['m', 's']) (⟨[], ['5']⟩, .millisecond) :=
    ⟨.point (.inr (by decide)) (List.forall_mem_nil _) (by simp), by decide⟩
  have hrow : IsRow parts _ (trim text).toList :=
    ⟨List.cons_ne_nil _ _, .cons hminute (.cons hmillisecond .nil), by decide⟩
  obtain ⟨-, hread, -⟩ := readDuration_exact text
  obtain ⟨-, -, -, hscan, hseconds⟩ := hread _ _ hrow
  exact ⟨hrow, hscan, hseconds.trans (by decide +kernel)⟩

end Consumer

end JetStream
