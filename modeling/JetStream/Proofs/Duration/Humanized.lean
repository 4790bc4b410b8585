import JetStream.Duration.Text
import JetStream.Proofs.Text.Decimal
import Mathlib.Algebra.GroupWithZero.Nat
import Mathlib.Algebra.Order.BigOperators.Group.List
import Mathlib.Algebra.Order.Group.Nat
import Mathlib.Logic.ExistsUnique

/-!
# Durations for operators

A duration of a second or more is shown as how many days, hours, minutes and seconds it has, with
those left out of which there are none.  `IsBreakdown` says which counts these are, and
`humanize_exact` that they are what is shown, so that the text tells the whole seconds.

## Strategy

What a unit leaves over is less than one of that unit, and it is all that the later units get
(`components_cons`).  So the bounds follow from one about what the components are worth together
(`worth_le_of_mem_components`).  A text is taken apart in one way only, as every unit is a letter
and every count is made of digits (`breakdownText_injective`); this also tells it from a count of
milliseconds, whose second letter does not stand behind a digit.
-/

namespace JetStream.Duration

open Text

/-- A count of a unit: days, hours, minutes or seconds. -/
abbrev Component := Nat × Char

/-- How many seconds a unit has. -/
def unitSeconds : Char → Nat
  | 'd' => 24 * 60 * 60
  | 'h' => 60 * 60
  | 'm' => 60
  | _ => 1

/-- How many seconds a component has. -/
def worth (part : Component) : Nat := part.1 * unitSeconds part.2

/-- The counts that make up so many seconds, the largest unit first. -/
structure IsBreakdown (parts : List Component) (seconds : Nat) : Prop where
  /-- The units come in their order, and each at most once. -/
  inOrder : (parts.map Prod.snd).Sublist ['d', 'h', 'm', 's']
  positive : ∀ part ∈ parts, 0 < part.1
  hours_lt : ∀ n, (n, 'h') ∈ parts → n < 24
  minutes_lt : ∀ n, (n, 'm') ∈ parts → n < 60
  seconds_lt : ∀ n, (n, 's') ∈ parts → n < 60
  sum_eq : (parts.map worth).sum = seconds

/-- The counts, each with its unit behind it. -/
def breakdownText (parts : List Component) : List Char :=
  parts.flatMap fun part => Nat.toDigits 10 part.1 ++ [part.2]

/-! ## The components of a count of seconds -/

section Components

variable {units : List (Char × Nat)} {unit : Char} {size seconds : Nat} {part : Component}

/-- Whether or not there is any of a unit, the later units get what it leaves over. -/
theorem components_cons :
    components ((unit, size) :: units) seconds =
      (if size ≤ seconds then [(seconds / size, unit)] else []) ++
        components units (seconds % size) := by
  rw [components]
  split
  next => rfl
  next hlt => rw [List.nil_append, Nat.mod_eq_of_lt (Nat.not_le.mp hlt)]

theorem mem_components_cons_of_ne {n : Nat} {other : Char}
    (h : (n, other) ∈ components ((unit, size) :: units) seconds) (hne : other ≠ unit) :
    (n, other) ∈ components units (seconds % size) := by
  rw [components_cons, List.mem_append] at h
  rcases h with h | h
  · rw [List.mem_ite_nil_right, List.mem_singleton] at h
    exact absurd (congrArg Prod.snd h.2) hne
  · exact h

theorem map_snd_components_sublist (units : List (Char × Nat)) (seconds : Nat) :
    ((components units seconds).map Prod.snd).Sublist (units.map Prod.fst ++ ['s']) := by
  induction units generalizing seconds with
  | nil =>
      rw [components]
      split
      next => exact List.nil_sublist _
      next => exact List.Sublist.refl _
  | cons entry units ih =>
      rw [components]
      split
      next => exact (ih _).cons_cons _
      next => exact (ih _).cons _

theorem positive_of_mem_components (hsizes : ∀ entry ∈ units, 0 < entry.2)
    (h : part ∈ components units seconds) : 0 < part.1 := by
  induction units generalizing seconds with
  | nil =>
      rw [components, List.mem_ite_nil_left, List.mem_singleton] at h
      obtain ⟨hne, rfl⟩ := h
      exact Nat.pos_of_ne_zero hne
  | cons entry units ih =>
      obtain ⟨hsize, hsizes⟩ := List.forall_mem_cons.mp hsizes
      rw [components_cons, List.mem_append, List.mem_ite_nil_right, List.mem_singleton] at h
      rcases h with ⟨hle, rfl⟩ | h
      · exact Nat.div_pos hle hsize
      · exact ih hsizes h

/-- Nothing is lost. -/
theorem sum_worth_components (hunits : ∀ entry ∈ units, unitSeconds entry.1 = entry.2)
    (seconds : Nat) : ((components units seconds).map worth).sum = seconds := by
  induction units generalizing seconds with
  | nil =>
      rw [components]
      split
      next hzero => exact hzero.symm
      next => simp [worth, unitSeconds]
  | cons entry units ih =>
      obtain ⟨hunit, hunits⟩ := List.forall_mem_cons.mp hunits
      rw [components]
      split
      next =>
        rw [List.map_cons, List.sum_cons, ih hunits, worth, hunit]
        exact Nat.div_add_mod' seconds entry.2
      next => exact ih hunits seconds

theorem worth_le_of_mem_components (hunits : ∀ entry ∈ units, unitSeconds entry.1 = entry.2)
    (h : part ∈ components units seconds) : worth part ≤ seconds :=
  calc worth part
      ≤ ((components units seconds).map worth).sum := List.le_sum_of_mem (List.mem_map_of_mem h)
    _ = seconds := sum_worth_components hunits seconds

theorem worth_lt_of_mem_components (hunits : ∀ entry ∈ units, unitSeconds entry.1 = entry.2)
    (hsize : 0 < size) (h : part ∈ components units (seconds % size)) : worth part < size :=
  Nat.lt_of_le_of_lt (worth_le_of_mem_components hunits h) (Nat.mod_lt seconds hsize)

end Components

theorem isBreakdown_components (seconds : Nat) :
    IsBreakdown (components largeUnits seconds) seconds where
  inOrder := map_snd_components_sublist largeUnits seconds
  positive := fun _ => positive_of_mem_components (by decide)
  -- A unit is among the components of what the unit before it leaves over.
  hours_lt n h := by
    have hrest := mem_components_cons_of_ne h (by decide)
    have hworth := worth_lt_of_mem_components (by decide) (by decide) hrest
    exact Nat.lt_of_mul_lt_mul_right (show n * 3600 < 24 * 3600 from hworth)
  minutes_lt n h := by
    have hrest := mem_components_cons_of_ne (mem_components_cons_of_ne h (by decide)) (by decide)
    have hworth := worth_lt_of_mem_components (by decide) (by decide) hrest
    exact Nat.lt_of_mul_lt_mul_right (show n * 60 < 60 * 60 from hworth)
  seconds_lt n h := by
    have hrest := mem_components_cons_of_ne
      (mem_components_cons_of_ne (mem_components_cons_of_ne h (by decide)) (by decide)) (by decide)
    have hworth := worth_lt_of_mem_components (by decide) (by decide) hrest
    exact Nat.lt_of_mul_lt_mul_right (show n * 1 < 60 * 1 from hworth)
  sum_eq := sum_worth_components (by decide) seconds

/-! ## Texts of counts -/

section Texts

variable {n n' : Nat} {c c' : Char} {rest rest' : List Char} {parts parts' : List Component}

/-- A number ends where something else than a digit stands. -/
theorem toDigits_append_cons_inj (hc : c.isDigit = false) (hc' : c'.isDigit = false)
    (heq : Nat.toDigits 10 n ++ c :: rest = Nat.toDigits 10 n' ++ c' :: rest') :
    n = n' ∧ c = c' ∧ rest = rest' := by
  have hdigits : Nat.toDigits 10 n = Nat.toDigits 10 n' := by
    have htake := congrArg (List.takeWhile Char.isDigit) heq
    rwa [takeWhile_isDigit_append (fun _ => isDigit_of_mem_toDigits) (noDigit_cons.mpr hc),
      takeWhile_isDigit_append (fun _ => isDigit_of_mem_toDigits) (noDigit_cons.mpr hc')] at htake
  have hn : n = n' := by
    rw [← digitsValue_toDigits n, hdigits, digitsValue_toDigits]
  rw [hdigits] at heq
  exact ⟨hn, List.cons.inj (List.append_cancel_left heq)⟩

theorem breakdownText_cons (part : Component) (parts : List Component) :
    breakdownText (part :: parts) = Nat.toDigits 10 part.1 ++ part.2 :: breakdownText parts := by
  rw [breakdownText, List.flatMap_cons, List.append_assoc]
  rfl

theorem breakdownText_injective (h : ∀ part ∈ parts, part.2.isDigit = false)
    (h' : ∀ part ∈ parts', part.2.isDigit = false)
    (heq : breakdownText parts = breakdownText parts') : parts = parts' := by
  induction parts generalizing parts' with
  | nil =>
      cases parts' with
      | nil => rfl
      | cons part' parts' =>
          rw [breakdownText_cons] at heq
          exact absurd heq.symm (List.append_ne_nil_of_right_ne_nil _ (List.cons_ne_nil _ _))
  | cons part parts ih =>
      obtain ⟨hpart, hparts⟩ := List.forall_mem_cons.mp h
      cases parts' with
      | nil =>
          rw [breakdownText_cons] at heq
          exact absurd heq (List.append_ne_nil_of_right_ne_nil _ (List.cons_ne_nil _ _))
      | cons part' parts' =>
          obtain ⟨hpart', hparts'⟩ := List.forall_mem_cons.mp h'
          rw [breakdownText_cons, breakdownText_cons] at heq
          obtain ⟨hcount, hunit, hrest⟩ := toDigits_append_cons_inj hpart hpart' heq
          rw [Prod.ext hcount hunit, ih hparts hparts' hrest]

/-- A letter stands behind a number only. -/
theorem breakdownText_ne_cons (hc : c.isDigit = false) : breakdownText parts ≠ c :: rest := by
  intro heq
  cases parts with
  | nil => exact nomatch heq
  | cons part parts =>
      obtain ⟨digit, digits, hdigits, hdigit⟩ := exists_toDigits_eq_cons part.1
      rw [breakdownText_cons, hdigits] at heq
      rw [(List.cons.inj heq).1, hc] at hdigit
      exact nomatch hdigit

/-- A count of milliseconds ends in two letters. -/
theorem breakdownText_ne_milliseconds (h : ∀ part ∈ parts, part.2.isDigit = false) :
    breakdownText parts ≠ Nat.toDigits 10 n ++ ['m', 's'] := by
  intro heq
  cases parts with
  | nil => exact absurd heq.symm (List.append_ne_nil_of_right_ne_nil _ (List.cons_ne_nil _ _))
  | cons part parts =>
      rw [breakdownText_cons] at heq
      obtain ⟨-, -, hrest⟩ :=
        toDigits_append_cons_inj (h part List.mem_cons_self) (by decide) heq
      exact breakdownText_ne_cons (by decide) hrest

theorem IsBreakdown.isDigit_unit {seconds : Nat} (h : IsBreakdown parts seconds) :
    ∀ part ∈ parts, part.2.isDigit = false := by
  intro part hpart
  have hletters : ∀ unit ∈ ['d', 'h', 'm', 's'], unit.isDigit = false := by simp
  exact hletters _ (h.inOrder.subset (List.mem_map_of_mem hpart))

/-- Counts that are shown alike make up the same seconds. -/
theorem IsBreakdown.eq_of_text_eq {seconds seconds' : Nat} (h : IsBreakdown parts seconds)
    (h' : IsBreakdown parts' seconds') (heq : breakdownText parts = breakdownText parts') :
    parts = parts' ∧ seconds = seconds' := by
  obtain rfl := breakdownText_injective h.isDigit_unit h'.isDigit_unit heq
  exact ⟨rfl, h.sum_eq.symm.trans h'.sum_eq⟩

end Texts

/-! ## What operators are shown -/

theorem toList_humanize_of_le {d : Duration} (h : 1_000_000_000 ≤ d.nanoseconds) :
    d.humanize.toList = breakdownText (components largeUnits d.seconds) := by
  have hpart : ∀ part, (componentText part).toList = Nat.toDigits 10 part.1 ++ [part.2] := by
    intro part
    rw [componentText, String.toList_push, Nat.toString_eq_repr, Nat.toList_repr]
  rw [humanize, if_neg (Nat.not_lt.mpr h), String.toList_join, List.flatMap_map, breakdownText]
  exact List.flatMap_congr fun part _ => hpart part

theorem toList_humanize_of_lt {d : Duration} (h : d.nanoseconds < 1_000_000_000) :
    d.humanize.toList = Nat.toDigits 10 (d.nanoseconds / 1_000_000) ++ ['m', 's'] := by
  rw [humanize, if_pos h, String.toList_append, Nat.toString_eq_repr, Nat.toList_repr]
  rfl

/-- A duration of a second or more is shown as the counts of units that make up its whole seconds,
and a shorter one as its whole milliseconds.  So what is shown tells the whole seconds, and also
whether there are any. -/
theorem humanize_exact (d : Duration) :
    (1_000_000_000 ≤ d.nanoseconds →
      ∃! parts, IsBreakdown parts d.seconds ∧ d.humanize.toList = breakdownText parts) ∧
    (d.nanoseconds < 1_000_000_000 →
      d.humanize = toString (d.nanoseconds / 1_000_000) ++ "ms") ∧
    ∀ e : Duration, 1_000_000_000 ≤ d.nanoseconds →
      (1_000_000_000 ≤ e.nanoseconds → (d.humanize = e.humanize ↔ d.seconds = e.seconds)) ∧
      (e.nanoseconds < 1_000_000_000 → d.humanize ≠ e.humanize) := by
  have hshown (d : Duration) := isBreakdown_components d.seconds
  refine ⟨fun hd => ?_, fun hd => if_pos hd, fun e hd => ⟨fun he => ?_, fun he heq => ?_⟩⟩
  · refine ⟨_, ⟨hshown d, toList_humanize_of_le hd⟩, fun parts hparts => ?_⟩
    have htext := hparts.2.symm.trans (toList_humanize_of_le hd)
    exact (hparts.1.eq_of_text_eq (hshown d) htext).1
  · rw [← String.toList_inj, toList_humanize_of_le hd, toList_humanize_of_le he]
    constructor
    · intro heq
      exact ((hshown d).eq_of_text_eq (hshown e) heq).2
    · intro heq
      rw [heq]
  · rw [← String.toList_inj, toList_humanize_of_le hd, toList_humanize_of_lt he] at heq
    exact breakdownText_ne_milliseconds (hshown d).isDigit_unit heq

/-- The longest duration with seconds of 64 bits, where there are no minutes to show. -/
theorem humanize_exact_longest :
    let d : Duration := ⟨18446744073709551615_999999999⟩
    d.humanize = "213503982334601d7h15s" ∧
      (∃! parts, IsBreakdown parts d.seconds ∧ d.humanize.toList = breakdownText parts) ∧
      d.humanize ≠ (ofMilliseconds 15).humanize := by
  intro d
  obtain ⟨hparts, -, hother⟩ := humanize_exact d
  exact ⟨by decide +kernel, hparts (by decide), (hother _ (by decide)).2 (by decide)⟩

end JetStream.Duration
