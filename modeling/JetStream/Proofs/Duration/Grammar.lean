import JetStream.Duration.Grammar
import JetStream.Proofs.Text.Decimal
import JetStream.Proofs.Text.Pattern
import Mathlib.Data.List.Forall2

/-!
# Which texts are durations

A duration is a number with a calendar unit, or a row of numbers with clock units, and never both.
A row can be taken apart in one way only, and the search that goes through it number by number finds
just these parts, in their order.

## Strategy

A number is made of digits and points, and no unit begins with one of these.  So a number ends where
the first other character stands (`eq_of_append_eq`), whatever the search for it tries before.  Of
the units, only `m` is the beginning of another, `ms`: the longer one is tried first, and where it
is `m` that was meant, a number follows or nothing (`head?_fronts_clockUnit`).  With that, the
search through a row is known from its first part on (`scan_rowText`).
-/

namespace JetStream.Duration

open Text

/-! ## Numbers -/

/-- The number is written so, in digits of a kind: with a point somewhere among the digits, before
or after them, or without one. -/
inductive Numeral.IsWritten (isDigit : Char → Bool) : Numeral → List Char → Prop
  | whole {digits : List Char} (hne : digits ≠ []) (hdigits : ∀ c ∈ digits, isDigit c = true) :
      IsWritten isDigit ⟨digits, []⟩ digits
  | point {before after : List Char} (hne : before ≠ [] ∨ after ≠ [])
      (hbefore : ∀ c ∈ before, isDigit c = true) (hafter : ∀ c ∈ after, isDigit c = true) :
      IsWritten isDigit ⟨before, after⟩ (before ++ '.' :: after)

theorem Numeral.IsWritten.mono {isDigit isDigit' : Char → Bool} {n : Numeral} {cs : List Char}
    (h : n.IsWritten isDigit cs) (hmono : ∀ c, isDigit c = true → isDigit' c = true) :
    n.IsWritten isDigit' cs := by
  cases h with
  | whole hne hdigits => exact .whole hne fun c hc => hmono c (hdigits c hc)
  | point hne hbefore hafter =>
      exact .point hne (fun c hc => hmono c (hbefore c hc)) fun c hc => hmono c (hafter c hc)

theorem fits_numberPattern_iff {cs : List Char} :
    numberPattern.Fits cs ↔ ∃ n : Numeral, n.IsWritten isDecimalDigit cs := by
  simp only [numberPattern, Pattern.fits_either_iff, Pattern.fits_sequence_iff,
    Pattern.fits_atLeastOnce_one_iff, Pattern.fits_ifThere_iff, Pattern.fits_anyTimes_one_iff,
    Pattern.fits_one_iff, decide_eq_true_eq]
  constructor
  · rintro (⟨before, _, ⟨hne, hbefore⟩, ⟨_, after, ⟨_, rfl, rfl⟩, hafter, rfl⟩ | rfl, rfl⟩ |
      ⟨_, after, ⟨_, rfl, rfl⟩, ⟨hne, hafter⟩, rfl⟩)
    · exact ⟨_, .point (.inl hne) hbefore hafter⟩
    · rw [List.append_nil]
      exact ⟨_, .whole hne hbefore⟩
    · exact ⟨⟨[], after⟩, .point (.inr hne) (List.forall_mem_nil _) hafter⟩
  · rintro ⟨n, h⟩
    cases h with
    | whole hne hdigits => exact .inl ⟨cs, [], ⟨hne, hdigits⟩, .inr rfl, List.append_nil cs⟩
    | @point before after hne hbefore hafter =>
        by_cases hnil : before = []
        · subst hnil
          have hafter' := hne.resolve_left (fun h => h rfl)
          exact .inr ⟨['.'], after, ⟨'.', rfl, rfl⟩, ⟨hafter', hafter⟩, rfl⟩
        · exact .inl ⟨before, '.' :: after, ⟨hnil, hbefore⟩,
            .inl ⟨['.'], after, ⟨'.', rfl, rfl⟩, hafter, rfl⟩, rfl⟩

/-- Just the numbers in ASCII digits have a value. -/
theorem Numeral.ofText?_eq_some_iff {n : Numeral} {cs : List Char} :
    Numeral.ofText? cs = some n ↔ n.IsWritten Char.isDigit cs := by
  constructor
  · intro h
    have hcs : cs.takeWhile Char.isDigit ++ cs.dropWhile Char.isDigit = cs :=
      List.takeWhile_append_dropWhile
    have hwhole : ∀ c ∈ cs.takeWhile Char.isDigit, c.isDigit = true :=
      List.all_eq_true.mp List.all_takeWhile
    unfold Numeral.ofText? at h
    dsimp only at h
    split at h
    next hrest =>
      split at h
      next => cases h
      next hne =>
        cases h
        rw [hrest, List.append_nil] at hcs
        rw [hcs] at hne hwhole ⊢
        exact .whole hne hwhole
    next fraction hrest =>
      split at h
      next hfraction =>
        cases h
        rw [hrest] at hcs
        have hpoint := Numeral.IsWritten.point hfraction.2 hwhole (List.all_eq_true.mp hfraction.1)
        rwa [hcs] at hpoint
      next => cases h
    next => cases h
  · intro h
    cases h with
    | whole hne hdigits =>
        have hend : NoDigit [] := by simp [NoDigit]
        have hwhole := takeWhile_isDigit_append hdigits hend
        have hrest := dropWhile_isDigit_append hdigits hend
        rw [List.append_nil] at hwhole hrest
        simp [Numeral.ofText?, hwhole, hrest, hne]
    | point hne hbefore hafter =>
        have hstop : ∀ after, NoDigit ('.' :: after) := fun after => noDigit_cons.mpr rfl
        simp only [Numeral.ofText?, takeWhile_isDigit_append hbefore (hstop _),
          dropWhile_isDigit_append hbefore (hstop _)]
        rw [if_pos ⟨List.all_eq_true.mpr hafter, hne⟩]

/-- A character that numbers are made of. -/
def isNumberChar (c : Char) : Bool :=
  isDecimalDigit c || c = '.'

theorem forall_isNumberChar {cs : List Char} (h : numberPattern.Fits cs) :
    ∀ c ∈ cs, isNumberChar c = true := by
  obtain ⟨n, h⟩ := fits_numberPattern_iff.mp h
  intro c hc
  cases h with
  | whole hne hdigits => simp [isNumberChar, hdigits c hc]
  | point hne hbefore hafter =>
      rcases List.mem_append.mp hc with hc | hc
      · simp [isNumberChar, hbefore c hc]
      · rcases List.mem_cons.mp hc with rfl | hc
        · rfl
        · simp [isNumberChar, hafter c hc]

theorem ne_nil_of_fits_number {cs : List Char} (h : numberPattern.Fits cs) : cs ≠ [] := by
  obtain ⟨n, h⟩ := fits_numberPattern_iff.mp h
  cases h with
  | whole hne hdigits => exact hne
  | point hne hbefore hafter => exact List.append_ne_nil_of_right_ne_nil _ (List.cons_ne_nil _ _)

/-- The text does not go on as a number would. -/
def EndsNumber (cs : List Char) : Prop :=
  ∀ c ∈ cs.head?, isNumberChar c = false

/-- A number ends where the first character stands that it can not be made of. -/
theorem eq_of_append_eq {number number' rest rest' : List Char} (h : numberPattern.Fits number)
    (h' : numberPattern.Fits number') (hrest : EndsNumber rest) (hrest' : EndsNumber rest')
    (heq : number ++ rest = number' ++ rest') : number = number' := by
  have takeWhile_eq {number rest : List Char} (h : numberPattern.Fits number)
      (hrest : EndsNumber rest) : (number ++ rest).takeWhile isNumberChar = number := by
    rw [List.takeWhile_append_of_pos (forall_isNumberChar h)]
    cases rest with
    | nil => simp
    | cons c rest =>
        have hc := hrest c rfl
        simp [hc]
  rw [← takeWhile_eq h hrest, heq, takeWhile_eq h' hrest']

/-! ## Units -/

/-- The units of a clock, with their names. -/
def clockUnits : List (String × ClockUnit) :=
  [("ns", .nanosecond), ("us", .microsecond), ("µs", .microsecond), ("ms", .millisecond),
   ("s", .second), ("m", .minute), ("h", .hour)]

/-- The units of a calendar, with their letters. -/
def calendarUnits : List (Char × CalendarUnit) :=
  [('w', .week), ('W', .week), ('d', .day), ('D', .day), ('M', .month), ('y', .year), ('Y', .year)]

theorem fits_clockUnitPattern_iff {name : List Char} :
    clockUnitPattern.Fits name ↔ ∃ unit, (String.ofList name, unit) ∈ clockUnits := by
  rw [clockUnitPattern, Pattern.fits_anyOf_iff]
  constructor
  · rintro ⟨w, hw, rfl⟩
    have hunits : ∀ w ∈ clockNames, (w, ClockUnit.ofName w.toList) ∈ clockUnits := by decide
    rw [String.ofList_toList]
    exact ⟨_, hunits w hw⟩
  · rintro ⟨unit, hunit⟩
    have hnames : ∀ entry ∈ clockUnits, entry.1 ∈ clockNames := by decide
    exact ⟨String.ofList name, hnames _ hunit, String.toList_ofList.symm⟩

theorem clockUnit_ofName {name : List Char} {unit : ClockUnit}
    (h : (String.ofList name, unit) ∈ clockUnits) : ClockUnit.ofName name = unit := by
  have hunits : ∀ entry ∈ clockUnits, ClockUnit.ofName entry.1.toList = entry.2 := by decide
  have hunit := hunits _ h
  rwa [String.toList_ofList] at hunit

theorem fits_calendarUnitPattern_iff {name : List Char} :
    calendarUnitPattern.Fits name ↔
      ∃ letter unit, (letter, unit) ∈ calendarUnits ∧ name = [letter] := by
  rw [calendarUnitPattern, Pattern.fits_one_iff]
  constructor
  · rintro ⟨letter, hletter, rfl⟩
    have hunits : ∀ c ∈ calendarLetters, (c, CalendarUnit.ofName [c]) ∈ calendarUnits :=
      List.forall_iff_forall_mem.mp (by decide)
    exact ⟨letter, _, hunits letter (List.contains_iff_mem.mp hletter), rfl⟩
  · rintro ⟨letter, unit, hunit, rfl⟩
    have hletters : ∀ entry ∈ calendarUnits, calendarLetters.contains entry.1 = true := by decide
    exact ⟨letter, hletters _ hunit, rfl⟩

theorem calendarUnit_ofName {letter : Char} {unit : CalendarUnit}
    (h : (letter, unit) ∈ calendarUnits) : CalendarUnit.ofName [letter] = unit := by
  have hunits : ∀ entry ∈ calendarUnits, CalendarUnit.ofName [entry.1] = entry.2 := by decide
  exact hunits _ h

/-- No unit begins with a character that numbers are made of, and no unit of a clock with a letter
of the calendar. -/
theorem exists_cons_of_fits_clockUnit {name : List Char} (h : clockUnitPattern.Fits name) :
    ∃ c more, name = c :: more ∧ isNumberChar c = false ∧ c ∉ calendarLetters := by
  obtain ⟨w, hw, rfl⟩ := Pattern.fits_anyOf_iff.mp h
  have hfirst : ∀ w ∈ clockNames,
      w.toList.head?.any (fun c => !isNumberChar c && c ∉ calendarLetters) = true := by
    decide
  have hw' := hfirst w hw
  cases hname : w.toList with
  | nil =>
      rw [hname] at hw'
      exact nomatch hw'
  | cons c more =>
      rw [hname] at hw'
      simp only [List.head?_cons, Option.any_some, Bool.and_eq_true, Bool.not_eq_true',
        decide_eq_true_eq] at hw'
      exact ⟨c, more, rfl, hw'⟩

theorem endsNumber_clockUnit {name : List Char} (h : clockUnitPattern.Fits name)
    (rest : List Char) : EndsNumber (name ++ rest) := by
  obtain ⟨c, more, rfl, hc, -⟩ := exists_cons_of_fits_clockUnit h
  rintro _ ⟨⟩
  exact hc

theorem endsNumber_calendarUnit {name : List Char} (h : calendarUnitPattern.Fits name) :
    EndsNumber name := by
  obtain ⟨letter, unit, hunit, rfl⟩ := fits_calendarUnitPattern_iff.mp h
  have hletters : ∀ entry ∈ calendarUnits, isNumberChar entry.1 = false := by decide
  rintro _ ⟨⟩
  exact hletters _ hunit

/-- Of the units that are at the front of a text, the one that is followed by a number or by nothing
is tried first. -/
theorem head?_fronts_clockUnit {name rest : List Char} (h : clockUnitPattern.Fits name)
    (hrest : ∀ c ∈ rest.head?, isNumberChar c = true) :
    (clockUnitPattern.fronts (name ++ rest)).head? = some (name, rest) := by
  obtain ⟨w, hw, rfl⟩ := Pattern.fits_anyOf_iff.mp h
  have hfind : clockNames.find? (fun v => v.toList.isPrefixOf (w.toList ++ rest)) = some w := by
    -- a minute would be a millisecond if an `s` came next
    have hsecond : List.isPrefixOf ['s'] rest = false := by
      cases rest with
      | nil => rfl
      | cons c rest =>
          have hne : c ≠ 's' := by
            rintro rfl
            exact absurd (hrest 's' rfl) (by decide)
          have hs : ('s' == c) = false := beq_false_of_ne (Ne.symm hne)
          rw [List.isPrefixOf_cons_cons, hs, Bool.false_and]
    simp only [clockNames, List.mem_cons, List.not_mem_nil, or_false] at hw
    rcases hw with rfl | rfl | rfl | rfl | rfl | rfl | rfl
    · rfl
    · rfl
    · rfl
    · rfl
    · rfl
    · show (match List.isPrefixOf ['s'] rest with
        | true => some "ms"
        | false => some "m") = some "m"
      rw [hsecond]
    · rfl
  rw [clockUnitPattern, Pattern.head?_fronts_anyOf, hfind, Option.map_some, List.drop_left]

/-! ## Rows -/

/-- The text of a row. -/
def rowText (parts : List (List Char × List Char)) : List Char :=
  parts.flatMap fun part => part.1 ++ part.2

/-- A part is a number with a unit, in digits of any script. -/
def IsPart (part : List Char × List Char) : Prop :=
  numberPattern.Fits part.1 ∧ clockUnitPattern.Fits part.2

theorem rowText_cons (part : List Char × List Char) (parts : List (List Char × List Char)) :
    rowText (part :: parts) = part.1 ++ (part.2 ++ rowText parts) := by
  rw [rowText, List.flatMap_cons, List.append_assoc, rowText]

theorem IsPart.ne_nil {part : List Char × List Char} (h : IsPart part) : part.1 ++ part.2 ≠ [] :=
  List.append_ne_nil_of_left_ne_nil (ne_nil_of_fits_number h.1) _

theorem exists_parts_of_fits {p : Pattern} {cs : List Char} (h : p.Fits cs)
    (hp : p = .anyTimes (.sequence numberPattern clockUnitPattern)) :
    ∃ parts, (∀ part ∈ parts, IsPart part) ∧ rowText parts = cs := by
  induction h with
  | stop => exact ⟨[], List.forall_mem_nil _, rfl⟩
  | again hfront hne hmore _ ih =>
      obtain ⟨parts, hparts, rfl⟩ := ih hp
      obtain rfl := Pattern.anyTimes.inj hp
      obtain ⟨number, name, hnumber, hname, rfl⟩ := Pattern.fits_sequence_iff.mp hfront
      refine ⟨(number, name) :: parts, List.forall_mem_cons.mpr ⟨⟨hnumber, hname⟩, hparts⟩, ?_⟩
      rw [rowText_cons, List.append_assoc]
  | nothing | one | sequence | first | second => exact nomatch hp

theorem fits_rowText {parts : List (List Char × List Char)} (h : ∀ part ∈ parts, IsPart part) :
    Pattern.Fits (.anyTimes (.sequence numberPattern clockUnitPattern)) (rowText parts) := by
  induction parts with
  | nil => exact .stop
  | cons part parts ih =>
      obtain ⟨hpart, hparts⟩ := List.forall_mem_cons.mp h
      rw [rowText_cons, ← List.append_assoc]
      exact .again (.sequence hpart.1 hpart.2) hpart.ne_nil (ih hparts)

/-- The pattern of a row stands for the texts of parts, of which there is one at least. -/
theorem fits_clockPattern_iff {cs : List Char} :
    clockPattern.Fits cs ↔
      ∃ parts, parts ≠ [] ∧ (∀ part ∈ parts, IsPart part) ∧ rowText parts = cs := by
  rw [clockPattern, Pattern.atLeastOnce, Pattern.fits_sequence_iff]
  constructor
  · rintro ⟨front, more, hfront, hmore, rfl⟩
    obtain ⟨number, name, hnumber, hname, rfl⟩ := Pattern.fits_sequence_iff.mp hfront
    obtain ⟨parts, hparts, rfl⟩ := exists_parts_of_fits hmore rfl
    refine ⟨(number, name) :: parts, List.cons_ne_nil _ _,
      List.forall_mem_cons.mpr ⟨⟨hnumber, hname⟩, hparts⟩, ?_⟩
    rw [rowText_cons, List.append_assoc]
  · rintro ⟨parts, hne, hparts, rfl⟩
    cases parts with
    | nil => exact absurd rfl hne
    | cons part parts =>
        obtain ⟨hpart, hparts⟩ := List.forall_mem_cons.mp hparts
        refine ⟨part.1 ++ part.2, rowText parts, .sequence hpart.1 hpart.2, fits_rowText hparts, ?_⟩
        rw [rowText_cons, List.append_assoc]

/-- A row begins with a number. -/
theorem head?_rowText {parts : List (List Char × List Char)} (h : ∀ part ∈ parts, IsPart part) :
    ∀ c ∈ (rowText parts).head?, isNumberChar c = true := by
  cases parts with
  | nil => exact fun c hc => nomatch hc
  | cons part parts =>
      have hnumber := (h part List.mem_cons_self).1
      obtain ⟨c, more, hcons⟩ := List.exists_cons_of_ne_nil (ne_nil_of_fits_number hnumber)
      have hc := forall_isNumberChar hnumber c (hcons ▸ List.mem_cons_self)
      rw [rowText_cons, hcons]
      rintro _ ⟨⟩
      exact hc

/-- The search that goes through a row finds its parts, in their order and with nothing between. -/
theorem scan_rowText {parts : List (List Char × List Char)} (h : ∀ part ∈ parts, IsPart part) :
    Pattern.scan numberPattern clockUnitPattern (rowText parts) = parts := by
  induction parts with
  | nil => rfl
  | cons part parts ih =>
      obtain ⟨hpart, hparts⟩ := List.forall_mem_cons.mp h
      have hends := endsNumber_clockUnit hpart.2
      have hhead : (Pattern.pairs numberPattern clockUnitPattern (rowText (part :: parts))).head? =
          some (part, rowText parts) := by
        refine Pattern.head?_pairs hpart.1 (rowText_cons part parts).symm ?_
          (head?_fronts_clockUnit hpart.2 (head?_rowText hparts))
        intro number name rest hnumber hname heq
        rw [rowText_cons] at heq
        exact eq_of_append_eq hnumber hpart.1 (endsNumber_clockUnit hname rest) (hends _) heq
      rw [Pattern.scan_of_head? hhead hpart.ne_nil, ih hparts]

end JetStream.Duration
