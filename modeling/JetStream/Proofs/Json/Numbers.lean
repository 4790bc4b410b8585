import JetStream.Json.Number
import JetStream.Json.Printer
import JetStream.Proofs.Text.Decimal

/-!
# Whole numbers of JSON read back

A whole number is written as its digits, with a sign in front if it is negative.  The reader takes
all of them as one number, as long as no digit, point or exponent follows, and the digits have the
value again if it fits 64 bits.
-/

namespace JetStream.Json

open Text

/-- The text does not go on with a number that ends where the text begins. -/
def EndsNumber (cs : List Char) : Prop :=
  ∀ c ∈ cs.head?, c.isDigit = false ∧ c ≠ '.' ∧ c ≠ 'e' ∧ c ≠ 'E'

/-- A number of 64 bits, with or without a sign. -/
def IsWhole (n : Int) : Prop :=
  minSigned64 ≤ n ∧ n ≤ maxUnsigned64

@[simp] theorem endsNumber_nil : EndsNumber [] := by simp [EndsNumber]

@[simp] theorem endsNumber_cons {c : Char} {cs : List Char} :
    EndsNumber (c :: cs) ↔ c.isDigit = false ∧ c ≠ '.' ∧ c ≠ 'e' ∧ c ≠ 'E' := by
  simp [EndsNumber]

theorem EndsNumber.noDigit {cs : List Char} (h : EndsNumber cs) : NoDigit cs :=
  fun c hc => (h c hc).1

/-! ## Reading the text of a number -/

private theorem takeDigits_append {digits rest : List Char}
    (hdigits : ∀ c ∈ digits, c.isDigit = true) (hrest : EndsNumber rest) :
    takeDigits (digits ++ rest) = (digits, rest) := by
  rw [takeDigits, takeWhile_isDigit_append hdigits hrest.noDigit,
    dropWhile_isDigit_append hdigits hrest.noDigit]

private theorem readWhole_toDigits (n : Nat) {rest : List Char} (hrest : EndsNumber rest) :
    readWhole (Nat.toDigits 10 n ++ rest) = some (Nat.toDigits 10 n, rest) := by
  rcases Nat.eq_zero_or_pos n with rfl | hpos
  · rfl
  · obtain ⟨c, digits, hdigits, -⟩ := exists_toDigits_eq_cons n
    have hzero : c ≠ '0' := by
      rintro rfl
      exact head?_toDigits_ne_zero hpos (by rw [hdigits]; rfl)
    have htake : takeDigits (c :: (digits ++ rest)) = (c :: digits, rest) := by
      rw [← List.cons_append, ← hdigits]
      exact takeDigits_append (fun _ hc => isDigit_of_mem_toDigits hc) hrest
    rw [hdigits, List.cons_append, readWhole.eq_def]
    simp [hzero, htake]

private theorem readFraction_none {rest : List Char} (hrest : EndsNumber rest) :
    readFraction rest = some ([], rest) := by
  cases rest with
  | nil => rfl
  | cons c rest =>
      obtain ⟨-, hpoint, -, -⟩ := endsNumber_cons.mp hrest
      rw [readFraction.eq_def]
      simp [hpoint]

private theorem readExponent_none {rest : List Char} (hrest : EndsNumber rest) :
    readExponent rest = some ([], rest) := by
  cases rest with
  | nil => rfl
  | cons c rest =>
      obtain ⟨-, -, hlower, hupper⟩ := endsNumber_cons.mp hrest
      rw [readExponent.eq_def]
      split <;> simp_all

private theorem readMagnitude_toDigits (n : Nat) {rest : List Char} (hrest : EndsNumber rest) :
    readMagnitude (Nat.toDigits 10 n ++ rest) = some (Nat.toDigits 10 n, rest) := by
  simp [readMagnitude, readWhole_toDigits n hrest, readFraction_none hrest, readExponent_none hrest]

/-- The digits of a number do not begin with a sign. -/
private theorem toDigits_append_ne_minus (n : Nat) (rest more : List Char) :
    Nat.toDigits 10 n ++ rest ≠ '-' :: more := by
  obtain ⟨c, digits, hdigits, hdigit⟩ := exists_toDigits_eq_cons n
  intro heq
  rw [hdigits, List.cons_append] at heq
  rw [(List.cons.inj heq).1] at hdigit
  exact absurd hdigit (by decide)

theorem readNumber_integerChars (n : Int) {rest : List Char} (hrest : EndsNumber rest) :
    readNumber (integerChars n ++ rest) = some (integerChars n, rest) := by
  cases n with
  | ofNat n =>
      rw [integerChars, readNumber]
      · exact readMagnitude_toDigits n hrest
      · exact toDigits_append_ne_minus n rest
  | negSucc n =>
      rw [integerChars, List.cons_append, readNumber, readMagnitude_toDigits (n + 1) hrest,
        Option.map_some]

/-- Every whole number begins with a digit or a sign. -/
theorem exists_integerChars (n : Int) :
    ∃ c cs, integerChars n = c :: cs ∧ (c = '-' ∨ c.isDigit = true) := by
  cases n with
  | ofNat n =>
      obtain ⟨c, digits, hdigits, hdigit⟩ := exists_toDigits_eq_cons n
      exact ⟨c, digits, hdigits, Or.inr hdigit⟩
  | negSucc n => exact ⟨'-', Nat.toDigits 10 (n + 1), rfl, Or.inl rfl⟩

/-! ## The value of the text -/

theorem number?_integerChars {n : Int} (h : IsWhole n) :
    number? (integerChars n) = some (.integer n) := by
  cases n with
  | ofNat n =>
      have hbound : n ≤ maxUnsigned64 := Int.ofNat_le.mp h.2
      rw [integerChars, number?.eq_def]
      split
      · rename_i digits heq
        exact absurd heq (by simpa using toDigits_append_ne_minus n [] digits)
      · simp [all_isDigit_toDigits, hbound]
  | negSucc n =>
      have hbound : minSigned64 ≤ -((n + 1 : Nat) : Int) := by
        simpa [Int.negSucc_eq] using h.1
      simp only [integerChars, number?, all_isDigit_toDigits, digitsValue_toDigits]
      rw [if_pos ⟨trivial, Nat.succ_pos n, hbound⟩]
      rfl

end JetStream.Json
