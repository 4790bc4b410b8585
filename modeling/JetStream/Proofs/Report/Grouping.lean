import JetStream.Proofs.Text.Decimal
import JetStream.Proofs.Text.Split
import JetStream.Report.Numbers
import Mathlib.Logic.ExistsUnique

/-!
# Whole numbers in groups of three digits

In reports a whole number has a comma between groups of three digits, counted from its end.
`AreGroups` says what the groups are, and `comma_exact` that a number is shown as its sign and one
list of groups, which are its digits.

## Strategy

The groups are split off at the end of the digits, so they are built by the recursion of
`groupReversed`, each step of which puts one more group of three behind the others
(`AreGroups.concat`).  That there is no other list of groups is a matter of splitting the text at
its commas, as no digit is one.
-/

namespace JetStream.Report

/-! ## The text without commas -/

/-- The text without its commas. -/
def ungrouped (s : String) : String := String.ofList (s.toList.filter (· ≠ ','))

theorem filter_groupReversed {digits : List Char} (h : ',' ∉ digits) :
    (groupReversed digits).filter (· ≠ ',') = digits := by
  induction digits using groupReversed.induct with
  | case1 a b c d rest ih =>
      simp only [List.mem_cons, not_or] at h
      obtain ⟨ha, hb, hc, hrest⟩ := h
      simpa [groupReversed, Ne.symm ha, Ne.symm hb, Ne.symm hc] using ih (by simpa using hrest)
  | case2 digits hshort =>
      have hkept : digits.filter (· ≠ ',') = digits := by
        simpa using fun c hc => ne_of_mem_of_not_mem hc h
      rwa [groupReversed.eq_2 digits hshort]

theorem comma_notMem_toDigits (n : Nat) : ',' ∉ Nat.toDigits 10 n := fun h =>
  absurd (Text.isDigit_of_mem_toDigits h) (by decide)

theorem filter_groupedDigits (n : Nat) :
    (groupedDigits n).filter (· ≠ ',') = Nat.toDigits 10 n := by
  rw [groupedDigits, List.filter_reverse, filter_groupReversed, List.reverse_reverse]
  rw [List.mem_reverse]
  exact comma_notMem_toDigits n

/-- Without its commas a number is in plain decimal. -/
theorem ungrouped_comma (n : Int) : ungrouped (comma n) = toString n := by
  refine String.toList_inj.mp ?_
  have hsign : (if n < 0 then ['-'] else []).filter (· ≠ ',') = if n < 0 then ['-'] else [] := by
    split <;> rfl
  rw [ungrouped, comma, String.toList_ofList, String.toList_ofList, List.filter_append, hsign,
    filter_groupedDigits]
  cases n with
  | ofNat n => exact Nat.toList_repr.symm
  | negSucc n =>
      have htext : toString (Int.negSucc n) = "-" ++ Nat.repr (n + 1) := rfl
      rw [if_pos (Int.negSucc_lt_zero n), htext, String.toList_append, Nat.toList_repr]
      rfl

/-! ## Groups of digits -/

/-- The groups that a number is shown in: digits, one to three of them in the first group and three
in every other. -/
structure AreGroups (groups : List String) : Prop where
  ne_nil : groups ≠ []
  isDigit : ∀ group ∈ groups, ∀ c ∈ group.toList, c.isDigit = true
  first : ∀ group ∈ groups.head?, 1 ≤ group.length ∧ group.length ≤ 3
  others : ∀ group ∈ groups.tail, group.length = 3

namespace AreGroups

variable {groups groups' : List String} {group : String}

theorem single (hdigit : ∀ c ∈ group.toList, c.isDigit = true)
    (hlength : 1 ≤ group.length ∧ group.length ≤ 3) : AreGroups [group] where
  ne_nil := List.cons_ne_nil _ _
  isDigit := by simpa using hdigit
  first := by simpa using hlength
  others := by simp

theorem concat (h : AreGroups groups) (hdigit : ∀ c ∈ group.toList, c.isDigit = true)
    (hlength : group.length = 3) : AreGroups (groups ++ [group]) where
  ne_nil := List.append_ne_nil_of_left_ne_nil h.ne_nil _
  isDigit := List.forall_mem_append.mpr ⟨h.isDigit, by simpa using hdigit⟩
  first := by
    rw [List.head?_append_of_ne_nil _ h.ne_nil]
    exact h.first
  others := by
    rw [List.tail_append_of_ne_nil h.ne_nil, List.forall_mem_append]
    exact ⟨h.others, by simpa using hlength⟩

theorem comma_notMem (h : AreGroups groups) : ∀ group ∈ groups, ',' ∉ group.toList :=
  fun group hgroup hcomma => absurd (h.isDigit group hgroup ',' hcomma) (by decide)

/-- Groups with commas between them are found again. -/
theorem eq_of_intercalate_eq (h : AreGroups groups) (h' : AreGroups groups')
    (heq : ",".intercalate groups = ",".intercalate groups') : groups = groups' :=
  calc groups
      = Text.split ',' (",".intercalate groups) :=
        (Text.split_intercalate h.ne_nil h.comma_notMem).symm
    _ = Text.split ',' (",".intercalate groups') := by rw [heq]
    _ = groups' := Text.split_intercalate h'.ne_nil h'.comma_notMem

end AreGroups

/-- Digits that are no more than one group. -/
theorem length_le_three {digits : List Char}
    (hshort : ∀ a b c d rest, digits = a :: b :: c :: d :: rest → False) : digits.length ≤ 3 := by
  match digits with
  | [] | [_] | [_, _] | [_, _, _] => simp
  | a :: b :: c :: d :: rest => exact absurd rfl (hshort a b c d rest)

theorem exists_groups_groupReversed {digits : List Char} (hne : digits ≠ [])
    (hdigit : ∀ c ∈ digits, c.isDigit = true) :
    ∃ groups, AreGroups groups ∧
      String.ofList (groupReversed digits).reverse = ",".intercalate groups := by
  induction digits using groupReversed.induct with
  | case1 a b c d rest ih =>
      -- The last digits come first, so the first three are the group behind all others.
      simp only [List.forall_mem_cons] at hdigit
      obtain ⟨ha, hb, hc, hrest⟩ := hdigit
      obtain ⟨groups, hgroups, htext⟩ := ih (List.cons_ne_nil d rest) (by simpa using hrest)
      refine ⟨groups ++ [String.ofList [c, b, a]], hgroups.concat ?_ ?_, ?_⟩
      · simp [ha, hb, hc]
      · rw [String.length_ofList]
        rfl
      · calc String.ofList (groupReversed (a :: b :: c :: d :: rest)).reverse
            = String.ofList (groupReversed (d :: rest)).reverse ++ "," ++
                String.ofList [c, b, a] := by
              simp [groupReversed, ← String.toList_inj]
          _ = ",".intercalate (groups ++ [String.ofList [c, b, a]]) := by
              rw [htext, String.intercalate_append_of_ne_nil hgroups.ne_nil (List.cons_ne_nil _ _),
                String.intercalate_singleton]
  | case2 digits hshort =>
      have hlength : 1 ≤ digits.length := List.length_pos_iff.mpr hne
      refine ⟨[String.ofList digits.reverse], .single ?_ ?_, ?_⟩
      · simpa using hdigit
      · simpa using ⟨hlength, length_le_three hshort⟩
      · rw [groupReversed.eq_2 digits hshort, String.intercalate_singleton]

theorem exists_groups_groupedDigits (n : Nat) :
    ∃ groups, AreGroups groups ∧ String.ofList (groupedDigits n) = ",".intercalate groups := by
  apply exists_groups_groupReversed
  · simp
  · intro c hc
    exact Text.isDigit_of_mem_toDigits (List.mem_reverse.mp hc)

/-! ## Numbers with commas -/

theorem comma_eq (n : Int) :
    comma n = (if n < 0 then "-" else "") ++ String.ofList (groupedDigits n.natAbs) := by
  rw [comma, String.ofList_append]
  split <;> rfl

/-- A number is shown as a minus sign, just if it is negative, and groups of digits with a comma
between any two; these groups are the only ones, and they are the digits in plain decimal. -/
theorem comma_exact (n : Int) :
    (∃! groups, AreGroups groups ∧
      comma n = (if n < 0 then "-" else "") ++ ",".intercalate groups) ∧
    ungrouped (comma n) = toString n := by
  refine ⟨?_, ungrouped_comma n⟩
  obtain ⟨groups, hgroups, htext⟩ := exists_groups_groupedDigits n.natAbs
  have hshown : comma n = (if n < 0 then "-" else "") ++ ",".intercalate groups := by
    rw [comma_eq, htext]
  refine ⟨groups, ⟨hgroups, hshown⟩, ?_⟩
  rintro groups' ⟨hgroups', hshown'⟩
  refine hgroups'.eq_of_intercalate_eq hgroups ?_
  exact (String.append_right_inj _).mp (hshown'.symm.trans hshown)

/-- The least number of 64 bits has a group of one digit first. -/
example : comma (-0x8000_0000_0000_0000) = "-9,223,372,036,854,775,808" := by decide +kernel

end JetStream.Report
