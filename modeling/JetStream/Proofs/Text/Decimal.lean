import JetStream.Proofs.Text.Runs
import JetStream.Text.Integer
import Mathlib.Algebra.Group.Nat.Defs

/-!
# Decimal digits read back

What is written with `Nat.toDigits 10` are ASCII digits, and reading them gives the number again.
A reader that takes digits off the front of a text stops where something else follows; `NoDigit`
says that of the text that follows.
-/

namespace JetStream.Text

/-- The text does not begin with an ASCII digit. -/
def NoDigit (cs : List Char) : Prop :=
  ∀ c ∈ cs.head?, c.isDigit = false

@[simp] theorem noDigit_cons {c : Char} {cs : List Char} :
    NoDigit (c :: cs) ↔ c.isDigit = false := by
  simp [NoDigit]

/-! ## The value of digits -/

theorem digitsValue_eq_ofDigitChars (cs : List Char) :
    digitsValue cs = Nat.ofDigitChars 10 cs 0 := by
  simp only [digitsValue, digitValue, Nat.ofDigitChars_eq_foldl, Nat.mul_comm]

@[simp] theorem digitsValue_toDigits (n : Nat) : digitsValue (Nat.toDigits 10 n) = n := by
  rw [digitsValue_eq_ofDigitChars, Nat.ofDigitChars_ten_toDigits]

theorem digitsValue_replicate_zero_append (count : Nat) (cs : List Char) :
    digitsValue (List.replicate count '0' ++ cs) = digitsValue cs := by
  rw [digitsValue_eq_ofDigitChars, digitsValue_eq_ofDigitChars, Nat.ofDigitChars_append,
    Nat.ofDigitChars_replicate_zero, Nat.mul_zero]

/-- So many digits denote a number below that power of ten. -/
theorem digitsValue_lt {cs : List Char} (h : ∀ c ∈ cs, c.isDigit = true) :
    digitsValue cs < 10 ^ cs.length := by
  rw [digitsValue_eq_ofDigitChars]
  induction cs with
  | nil => exact Nat.one_pos
  | cons c cs ih =>
      have hlt := ih fun d hd => h d (List.mem_cons_of_mem c hd)
      have hdigit := h c List.mem_cons_self
      simp only [Char.isDigit, Bool.and_eq_true, decide_eq_true_eq] at hdigit
      have hnine : c.toNat - '0'.toNat ≤ 9 := Nat.sub_le_of_le_add hdigit.2
      have hplace := Nat.mul_le_mul_left (10 ^ cs.length) hnine
      rw [Nat.ofDigitChars_cons, Nat.ofDigitChars_eq_ofDigitChars_zero, Nat.mul_zero, Nat.zero_add,
        List.length_cons, Nat.pow_succ]
      omega

/-! ## The digits of a number -/

theorem isDigit_of_mem_toDigits {n : Nat} {c : Char} (h : c ∈ Nat.toDigits 10 n) :
    c.isDigit = true :=
  Nat.isDigit_of_mem_toDigits (by decide) (by decide) h

theorem isDigit_of_mem_toString {n : Nat} {c : Char} (h : c ∈ (toString n).toList) :
    c.isDigit = true := by
  rw [Nat.toString_eq_repr, Nat.toList_repr] at h
  exact isDigit_of_mem_toDigits h

theorem all_isDigit_toDigits (n : Nat) : (Nat.toDigits 10 n).all Char.isDigit = true := by
  rw [List.all_eq_true]
  exact fun c hc => isDigit_of_mem_toDigits hc

theorem exists_toDigits_eq_cons (n : Nat) :
    ∃ c digits, Nat.toDigits 10 n = c :: digits ∧ c.isDigit = true := by
  cases hdigits : Nat.toDigits 10 n with
  | nil => exact absurd hdigits Nat.toDigits_ne_nil
  | cons c digits =>
      exact ⟨c, digits, rfl, isDigit_of_mem_toDigits (hdigits ▸ List.mem_cons_self)⟩

/-- Only the number zero is written with a zero in front. -/
theorem head?_toDigits_ne_zero {n : Nat} (h : 0 < n) : (Nat.toDigits 10 n).head? ≠ some '0' := by
  induction n using Nat.base_induction 10 (by decide) with
  | single m hm =>
      rw [Nat.toDigits_of_lt_base hm]
      simpa using Nat.ne_of_gt h
  | digit m k hk hm ih =>
      rw [← Nat.toDigits_append_toDigits (by decide) hm hk, List.head?_append]
      cases hhead : (Nat.toDigits 10 m).head? with
      | none => exact absurd (List.head?_eq_none_iff.mp hhead) Nat.toDigits_ne_nil
      | some c => simpa [hhead] using ih hm

/-! ## Taking digits off the front -/

theorem takeWhile_isDigit_append {digits rest : List Char}
    (hdigits : ∀ c ∈ digits, c.isDigit = true) (hrest : NoDigit rest) :
    (digits ++ rest).takeWhile Char.isDigit = digits :=
  takeWhile_append_eq_left hdigits hrest

theorem dropWhile_isDigit_append {digits rest : List Char}
    (hdigits : ∀ c ∈ digits, c.isDigit = true) (hrest : NoDigit rest) :
    (digits ++ rest).dropWhile Char.isDigit = rest :=
  dropWhile_append_eq_right hdigits hrest

/-! ## Whole texts -/

theorem natural?_eq_some_iff {cs : List Char} {n : Nat} :
    natural? cs = some n ↔
      cs ≠ [] ∧ (∀ c ∈ cs, c.isDigit = true) ∧ Nat.ofDigitChars 10 cs 0 = n := by
  rw [natural?, Option.ite_none_right_eq_some, List.all_eq_true, digitsValue_eq_ofDigitChars,
    Option.some.injEq, and_assoc]

/-- The characters are decimal digits, of which there is at least one, behind a sign or none; they
denote the number. -/
inductive IsInteger : List Char → Int → Prop
  | unsigned {cs : List Char} (hne : cs ≠ []) (hdigits : ∀ c ∈ cs, c.isDigit = true) :
      IsInteger cs (Nat.ofDigitChars 10 cs 0)
  | plus {cs : List Char} (hne : cs ≠ []) (hdigits : ∀ c ∈ cs, c.isDigit = true) :
      IsInteger ('+' :: cs) (Nat.ofDigitChars 10 cs 0)
  | minus {cs : List Char} (hne : cs ≠ []) (hdigits : ∀ c ∈ cs, c.isDigit = true) :
      IsInteger ('-' :: cs) (-(Nat.ofDigitChars 10 cs 0 : Int))

/-- A reader of signed numbers reads what denotes one within its bounds. -/
theorem signed?_eq_some_iff {low high n : Int} {s : String} :
    signed? low high s = some n ↔ IsInteger s.toList n ∧ low ≤ n ∧ n ≤ high := by
  unfold signed?
  generalize s.toList = cs
  have hsign {c : Char} {rest : List Char} (hc : c.isDigit = false) :
      ¬∀ d ∈ c :: rest, d.isDigit = true := fun hdigits =>
    Bool.false_ne_true (hc.symm.trans (hdigits c List.mem_cons_self))
  simp only [Option.filter_eq_some_iff, Bool.and_eq_true, decide_eq_true_eq]
  refine and_congr_left' ?_
  split
  case h_1 rest =>
    simp only [Option.map_eq_some_iff, Option.bind_eq_bind, Option.bind_eq_some_iff,
      Option.pure_def, Option.some.injEq, natural?_eq_some_iff]
    constructor
    · rintro ⟨_, ⟨_, ⟨hne, hdigits, rfl⟩, rfl⟩, rfl⟩
      exact .minus hne hdigits
    · intro h
      cases h with
      | unsigned _ hdigits => exact absurd hdigits (hsign (by decide))
      | minus hne hdigits => exact ⟨_, ⟨_, ⟨hne, hdigits, rfl⟩, rfl⟩, rfl⟩
  case h_2 rest =>
    simp only [Option.map_eq_some_iff, natural?_eq_some_iff]
    constructor
    · rintro ⟨_, ⟨hne, hdigits, rfl⟩, rfl⟩
      exact .plus hne hdigits
    · intro h
      cases h with
      | unsigned _ hdigits => exact absurd hdigits (hsign (by decide))
      | plus hne hdigits => exact ⟨_, ⟨hne, hdigits, rfl⟩, rfl⟩
  case h_3 hminus hplus =>
    simp only [Option.map_eq_some_iff, natural?_eq_some_iff]
    constructor
    · rintro ⟨_, ⟨hne, hdigits, rfl⟩, rfl⟩
      exact .unsigned hne hdigits
    · intro h
      cases h with
      | unsigned hne hdigits => exact ⟨_, ⟨hne, hdigits, rfl⟩, rfl⟩
      | plus => exact absurd rfl (hplus _)
      | minus => exact absurd rfl (hminus _)

theorem natural?_toDigits (n : Nat) : natural? (Nat.toDigits 10 n) = some n := by
  rw [natural?, if_pos ⟨Nat.toDigits_ne_nil, all_isDigit_toDigits n⟩, digitsValue_toDigits]

/-- A number within the bound reads back from its decimal text. -/
theorem unsigned?_toString {bound n : Nat} (h : n ≤ bound) :
    unsigned? bound (toString n) = some n := by
  have hplus : ∀ rest, (toString n).toList ≠ '+' :: rest := by
    intro rest heq
    have hmem : '+' ∈ Nat.toDigits 10 n := by
      rw [← Nat.toList_repr, ← Nat.toString_eq_repr, heq]
      exact List.mem_cons_self
    exact absurd (isDigit_of_mem_toDigits hmem) (by decide)
  unfold unsigned?
  split
  · rename_i rest heq
    exact absurd heq (hplus rest)
  · simp only [Nat.toString_eq_repr, Nat.toList_repr, natural?_toDigits]
    simp [h]

end JetStream.Text
