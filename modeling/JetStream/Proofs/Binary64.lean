import JetStream.Binary64
import Mathlib.Algebra.Group.Nat.Defs

/-!
# Rounding to binary64

A quotient is rounded to the whole number that is nearest, so a number that is near enough is what
it is rounded to, and a whole quotient is kept.  The numbers of the format are the counts of units
with 53 bits at most in front of their zeros (`IsBinary`); every result is one, and a result that is
one already is exact.
-/

namespace JetStream

/-! ## The nearest whole number -/

section

variable {numerator denominator q : Nat}

theorem roundHalfEven_eq_of_near
    (hlow : 2 * (q * denominator) < 2 * numerator + denominator)
    (hhigh : 2 * numerator < 2 * (q * denominator) + denominator) :
    roundHalfEven numerator denominator = q := by
  have hdiv := Nat.div_add_mod' numerator denominator
  have hmod : numerator % denominator < denominator := Nat.mod_lt _ (by omega)
  unfold roundHalfEven
  generalize numerator / denominator = quotient at *
  generalize numerator % denominator = rest at *
  -- From a quotient above `q`, or two below it, `q` is too far away.
  have hle : quotient ≤ q := by
    refine Nat.le_of_not_lt fun hlt => ?_
    have hmul := Nat.mul_le_mul_right denominator (Nat.succ_le_of_lt hlt)
    rw [Nat.succ_mul] at hmul
    omega
  have hge : q ≤ quotient + 1 := by
    refine Nat.le_of_not_lt fun hlt => ?_
    have hmul := Nat.mul_le_mul_right denominator (Nat.succ_le_of_lt hlt)
    rw [Nat.succ_mul, Nat.succ_mul] at hmul
    omega
  rcases Nat.eq_or_lt_of_le hle with rfl | hlt
  · rw [if_pos (by omega)]
  · obtain rfl : q = quotient + 1 := by omega
    have hsucc : (quotient + 1) * denominator = quotient * denominator + denominator :=
      Nat.succ_mul quotient denominator
    rw [if_neg (by omega), if_pos (by omega)]

/-- The error is half of the denominator at most. -/
theorem roundHalfEven_bounds (h : 0 < denominator) :
    2 * (roundHalfEven numerator denominator * denominator) ≤ 2 * numerator + denominator ∧
      2 * numerator ≤ 2 * (roundHalfEven numerator denominator * denominator) + denominator := by
  have hdiv := Nat.div_add_mod' numerator denominator
  have hmod : numerator % denominator < denominator := Nat.mod_lt _ h
  unfold roundHalfEven
  generalize numerator / denominator = quotient at *
  generalize numerator % denominator = rest at *
  have hsucc : (quotient + 1) * denominator = quotient * denominator + denominator :=
    Nat.succ_mul quotient denominator
  dsimp only
  repeat' split
  all_goals omega

theorem roundHalfEven_mul_self (h : 0 < denominator) :
    roundHalfEven (q * denominator) denominator = q :=
  roundHalfEven_eq_of_near (by omega) (by omega)

theorem roundHalfEven_le_succ :
    roundHalfEven numerator denominator ≤ numerator / denominator + 1 := by
  unfold roundHalfEven
  dsimp only
  repeat' split
  all_goals omega

end

namespace Binary64

/-- Of the bits of a number none but the first 53 are set. -/
def IsBinary (units : Nat) : Prop := 2 ^ (units.log2 - 52) ∣ units

variable {numerator denominator units n : Nat}

theorem isBinary_of_lt (h : n < 2 ^ 53) : IsBinary n := by
  have hlog : n.log2 - 52 = 0 := by
    by_cases hn : n = 0
    · rw [hn]; rfl
    · have := (Nat.log2_lt hn).mpr h
      omega
  rw [IsBinary, hlog]
  exact Nat.one_dvd n

/-- Numbers with so many bits, and zeros behind them. -/
theorem isBinary_mul_two_pow {k : Nat} (h : n ≤ 2 ^ 53) : IsBinary (n * 2 ^ k) := by
  by_cases hzero : n = 0
  · rw [hzero, Nat.zero_mul]
    exact Nat.dvd_zero _
  · have hpos : n * 2 ^ k ≠ 0 := Nat.mul_ne_zero hzero (Nat.ne_of_gt (Nat.two_pow_pos k))
    rcases Nat.eq_or_lt_of_le h with rfl | hlt
    · rw [IsBinary, ← Nat.pow_add, Nat.log2_two_pow]
      exact Nat.pow_dvd_pow 2 (Nat.sub_le _ _)
    · have hlog : (n * 2 ^ k).log2 < 53 + k := by
        rw [Nat.log2_lt hpos, Nat.pow_add]
        exact Nat.mul_lt_mul_of_pos_right hlt (Nat.two_pow_pos k)
      exact Nat.dvd_trans (Nat.pow_dvd_pow 2 (by omega)) (Nat.dvd_mul_left _ n)

/-- The value of the last bit that is kept of a quotient. -/
def stepOf (numerator denominator : Nat) : Nat := 2 ^ ((numerator / denominator).log2 - 52)

theorem round_eq_finite_iff :
    round numerator denominator = .finite units ↔
      roundHalfEven numerator (denominator * stepOf numerator denominator) *
        stepOf numerator denominator = units ∧ units < limit := by
  unfold round
  dsimp only
  rw [Nat.pow_eq, ← stepOf]
  split
  · rename_i hlt
    constructor
    · rintro ⟨⟩
      exact ⟨rfl, hlt⟩
    · rintro ⟨rfl, -⟩
      rfl
  · rename_i hge
    refine ⟨nofun, ?_⟩
    rintro ⟨rfl, hlt⟩
    exact absurd hlt hge

theorem isBinary_of_round (h : round numerator denominator = .finite units) : IsBinary units := by
  obtain ⟨rfl, -⟩ := round_eq_finite_iff.mp h
  refine isBinary_mul_two_pow (Nat.le_trans roundHalfEven_le_succ ?_)
  have hquotient : numerator / denominator <
      2 ^ ((numerator / denominator).log2 - 52) * 2 ^ 53 := by
    rw [← Nat.pow_add]
    exact Nat.lt_of_lt_of_le Nat.lt_log2_self (Nat.pow_le_pow_right (by decide) (by omega))
  rw [← Nat.div_div_eq_div_mul]
  exact Nat.div_lt_of_lt_mul hquotient

/-- What is a number of the format is not rounded. -/
theorem round_mul_self (hd : 0 < denominator) (h : IsBinary units) (hlimit : units < limit) :
    round (units * denominator) denominator = .finite units := by
  have hstep : stepOf (units * denominator) denominator = 2 ^ (units.log2 - 52) := by
    rw [stepOf, Nat.mul_div_cancel units hd]
  rw [round_eq_finite_iff, hstep]
  obtain ⟨m, hm⟩ := h
  generalize 2 ^ (units.log2 - 52) = step at hm
  refine ⟨?_, hlimit⟩
  by_cases hzero : step = 0
  · simp [hm, hzero]
  · have hpos : 0 < denominator * step := Nat.mul_pos hd (Nat.pos_of_ne_zero hzero)
    have hsame : units * denominator = m * (denominator * step) := by
      rw [hm, Nat.mul_comm step m, Nat.mul_assoc, Nat.mul_comm step]
    rw [hsame, roundHalfEven_mul_self hpos, hm, Nat.mul_comm]

/-- The error is half of the last bit that is kept at most. -/
theorem round_bounds (hd : 0 < denominator) (h : round numerator denominator = .finite units) :
    2 * (units * denominator) ≤ 2 * numerator + denominator * stepOf numerator denominator ∧
      2 * numerator ≤
        2 * (units * denominator) + denominator * stepOf numerator denominator := by
  obtain ⟨rfl, -⟩ := round_eq_finite_iff.mp h
  have hpos : 0 < denominator * stepOf numerator denominator :=
    Nat.mul_pos hd (Nat.two_pow_pos _)
  rw [Nat.mul_assoc (roundHalfEven _ _), Nat.mul_comm (stepOf numerator denominator) denominator]
  exact roundHalfEven_bounds hpos

/-! ## Arithmetic -/

theorem add_finite (a b : Nat) : Binary64.finite a + .finite b = round (a + b) 1 := by
  change add (.finite a) (.finite b) = round (a + b) 1
  rw [add]

theorem mul_finite (a b : Nat) : Binary64.finite a * .finite b = round (a * b) one := by
  change mul (.finite a) (.finite b) = round (a * b) one
  rw [mul]

/-- A result that is no larger than a number of the format is finite. -/
theorem exists_round_eq (hd : 0 < denominator)
    (h : 2 * numerator + denominator * stepOf numerator denominator < 2 * (limit * denominator)) :
    ∃ units, round numerator denominator = .finite units := by
  have hpos : 0 < denominator * stepOf numerator denominator :=
    Nat.mul_pos hd (Nat.two_pow_pos _)
  obtain ⟨hbound, -⟩ := @roundHalfEven_bounds numerator _ hpos
  refine ⟨_, round_eq_finite_iff.mpr ⟨rfl, Nat.lt_of_mul_lt_mul_right (a := denominator) ?_⟩⟩
  rw [Nat.mul_assoc (roundHalfEven _ _), Nat.mul_comm (stepOf numerator denominator) denominator]
  omega

theorem zero_add (h : IsBinary units) (hlimit : units < limit) :
    Binary64.finite 0 + .finite units = .finite units := by
  have hround := round_mul_self Nat.one_pos h hlimit
  rwa [Nat.mul_one, ← Nat.zero_add units, ← add_finite, Nat.zero_add] at hround

/-- One, and the limit of the format, are powers of two; the exponents are not evaluated. -/
theorem exists_one_eq :
    ∃ k j, 162 ≤ k ∧ 100 ≤ j ∧ one = 2 ^ k ∧ limit = one * 2 ^ j := by
  have hlimit (k j : Nat) : Nat.pow 2 (k + j) = Nat.pow 2 k * 2 ^ j := Nat.pow_add 2 k j
  have hsum : 2098 = 1074 + 1024 := by decide
  have hk : 162 ≤ 1074 := by decide
  have hj : 100 ≤ 1024 := by decide
  -- The exponents become variables before anything else is done, as no step may evaluate the powers.
  unfold one limit
  generalize 2098 = l at *
  generalize 1074 = k at *
  generalize 1024 = j at *
  subst hsum
  exact ⟨k, j, hk, hj, Nat.pow_eq, hlimit k j⟩

theorem one_pos : 0 < one := by
  obtain ⟨k, -, -, -, hone, -⟩ := exists_one_eq
  rw [hone]
  exact Nat.two_pow_pos k

/-- The limit is far away. -/
theorem one_mul_le_limit : one * 2 ^ 100 ≤ limit := by
  obtain ⟨-, j, -, hj, -, hlimit⟩ := exists_one_eq
  rw [hlimit]
  exact Nat.mul_le_mul_left one (Nat.pow_le_pow_right (by decide) hj)

/-! ## Whole numbers -/

theorem isBinary_mul_two_pow_iff {k : Nat} (hk : 52 ≤ k) : IsBinary (n * 2 ^ k) ↔ IsBinary n := by
  by_cases hzero : n = 0
  · rw [hzero, Nat.zero_mul]
  have hpos : n * 2 ^ k ≠ 0 := Nat.mul_ne_zero hzero (Nat.ne_of_gt (Nat.two_pow_pos k))
  have hlog : (n * 2 ^ k).log2 = n.log2 + k := by
    apply Nat.le_antisymm
    · refine Nat.le_of_lt_succ ((Nat.log2_lt hpos).mpr ?_)
      rw [Nat.succ_eq_add_one, Nat.add_right_comm, Nat.pow_add]
      exact Nat.mul_lt_mul_of_pos_right Nat.lt_log2_self (Nat.two_pow_pos k)
    · rw [Nat.le_log2 hpos, Nat.pow_add]
      exact Nat.mul_le_mul_right _ (Nat.log2_self_le hzero)
  rw [IsBinary, IsBinary, hlog]
  by_cases hlow : n.log2 < 52
  · rw [Nat.sub_eq_zero_of_le (Nat.le_of_lt hlow)]
    refine iff_of_true ?_ (Nat.one_dvd n)
    exact Nat.dvd_trans (Nat.pow_dvd_pow 2 (by omega)) (Nat.dvd_mul_left _ n)
  · have hsum : n.log2 + k - 52 = n.log2 - 52 + k := by omega
    rw [hsum, Nat.pow_add]
    exact Nat.mul_dvd_mul_iff_right (Nat.two_pow_pos k)

theorem isBinary_mul_one_iff : IsBinary (n * one) ↔ IsBinary n := by
  obtain ⟨k, -, hk, -, hone, -⟩ := exists_one_eq
  rw [hone, isBinary_mul_two_pow_iff (by omega)]

theorem ofNat_eq_round (n : Nat) : ofNat n = round (n * one) 1 := rfl

theorem ofNat_of_isBinary (h : IsBinary n) (hn : n < 2 ^ 64) : ofNat n = .finite (n * one) := by
  have hlimit : n * one < limit := by
    refine Nat.lt_of_lt_of_le ?_ one_mul_le_limit
    rw [Nat.mul_comm]
    exact Nat.mul_lt_mul_of_pos_left (by omega) one_pos
  have hround := round_mul_self Nat.one_pos (isBinary_mul_one_iff.mpr h) hlimit
  rwa [Nat.mul_one, ← ofNat_eq_round] at hround

/-- Every product is a number of the format, or infinite; adding nothing does not change it. -/
theorem zero_add_mul (x y : Binary64) : .finite 0 + x * y = x * y := by
  cases hproduct : x * y with
  | infinite => rfl
  | finite units =>
      cases x with
      | infinite => cases hproduct
      | finite a =>
          cases y with
          | infinite => cases hproduct
          | finite b =>
              rw [mul_finite] at hproduct
              exact zero_add (isBinary_of_round hproduct) (round_eq_finite_iff.mp hproduct).2

theorem ofNat_mul_one (n : Nat) : ofNat n * ofNat 1 = ofNat n := by
  have hone : ofNat 1 = .finite one := by
    rw [ofNat_of_isBinary (isBinary_of_lt (by decide)) (by decide), Nat.one_mul]
  cases hn : ofNat n with
  | infinite => rfl
  | finite units =>
      rw [ofNat_eq_round] at hn
      rw [hone, mul_finite]
      exact round_mul_self one_pos (isBinary_of_round hn) (round_eq_finite_iff.mp hn).2

/-- A whole number is rounded to a whole number. -/
theorem exists_eq_mul_one (h : ofNat n = .finite units) : ∃ m, units = m * one := by
  obtain ⟨k, -, -, -, hone, -⟩ := exists_one_eq
  rw [ofNat_eq_round] at h
  obtain ⟨hunits, -⟩ := round_eq_finite_iff.mp h
  obtain ⟨a, hstep⟩ : ∃ a, stepOf (n * one) 1 = 2 ^ a := ⟨_, rfl⟩
  rw [hstep, Nat.one_mul] at hunits
  -- The last bit that is kept is worth a fraction of one, and then nothing is rounded, or a whole
  -- number.
  rcases Nat.le_total a k with ha | hk
  · obtain ⟨b, hb⟩ := Nat.pow_dvd_pow 2 ha
    have hscaled : n * one = n * b * 2 ^ a := by
      rw [hone, hb, Nat.mul_comm (2 ^ a), Nat.mul_assoc]
    rw [hscaled, roundHalfEven_mul_self (Nat.two_pow_pos a), ← hscaled] at hunits
    exact ⟨n, hunits.symm⟩
  · obtain ⟨b, hb⟩ := Nat.pow_dvd_pow 2 hk
    refine ⟨roundHalfEven (n * one) (2 ^ a) * b, ?_⟩
    rw [Nat.mul_assoc, Nat.mul_comm b, hone, ← hb, ← hone]
    exact hunits.symm

/-! ## Thousandths -/

theorem stepOf_le {m : Nat} (h : numerator / denominator < 2 ^ m) :
    stepOf numerator denominator ≤ 2 ^ (m - 53) := by
  refine Nat.pow_le_pow_right (by decide) ?_
  by_cases hzero : numerator / denominator = 0
  · have hlog : Nat.log2 0 = 0 := by decide
    rw [hzero, hlog]
    exact Nat.zero_le _
  · have hlog := (Nat.log2_lt hzero).mpr h
    omega

/-- A result below a power of two is near to what was rounded. -/
theorem exists_round_near {m : Nat} (hd : 0 < denominator) (h : numerator / denominator < 2 ^ m)
    (hfar : 2 * numerator + denominator * 2 ^ (m - 53) < 2 * (limit * denominator)) :
    ∃ units, round numerator denominator = .finite units ∧
      2 * (units * denominator) ≤ 2 * numerator + denominator * 2 ^ (m - 53) ∧
      2 * numerator ≤ 2 * (units * denominator) + denominator * 2 ^ (m - 53) := by
  have hstep := Nat.mul_le_mul_left denominator (stepOf_le h)
  obtain ⟨units, hround⟩ := @exists_round_eq numerator denominator hd (by omega)
  have hbounds := round_bounds hd hround
  exact ⟨units, hround, by omega, by omega⟩

/-- The number of the format for a thousandth. -/
theorem exists_thousandth_eq {u : Nat} (hone : one = u * 2 ^ 62) (hu : ∃ i, u = 2 ^ i) :
    ∃ c, ofRatio 1 1000 = .finite c ∧ 2 * (c * 1000) ≤ 2 * one + 1000 * u ∧
      2 * one ≤ 2 * (c * 1000) + 1000 * u := by
  obtain ⟨i, rfl⟩ := hu
  have hsmall : 1 * one / 1000 < 2 ^ (i + 53) := by
    rw [Nat.one_mul, Nat.div_lt_iff_lt_mul (by decide), Nat.pow_add, hone]
    have := Nat.two_pow_pos i
    omega
  have hfar : 2 * (1 * one) + 1000 * 2 ^ (i + 53 - 53) < 2 * (limit * 1000) := by
    have hlimit := one_mul_le_limit
    have hpos := Nat.two_pow_pos i
    rw [Nat.add_sub_cancel, Nat.one_mul]
    generalize limit = l at *
    generalize one = o at *
    omega
  obtain ⟨c, hround, hlow, hhigh⟩ := exists_round_near (by decide) hsmall hfar
  rw [Nat.add_sub_cancel, Nat.one_mul] at hlow hhigh
  exact ⟨c, hround, hlow, hhigh⟩

/-- So many times two numbers are so many times as near. -/
theorem mul_near (n : Nat) {a b u : Nat} (h : 2 * a ≤ 2 * b + 1000 * u) :
    2 * (n * a) ≤ 2 * (n * b) + 1000 * (n * u) := by
  have hscaled := Nat.mul_le_mul_left n h
  rwa [Nat.mul_add, Nat.mul_left_comm n 2, Nat.mul_left_comm n 2, Nat.mul_left_comm n 1000]
    at hscaled

theorem exists_round_mul_near {a m : Nat} (hd : 0 < denominator) (h : a < 2 ^ m)
    (hfar : 2 * a + 2 ^ (m - 53) < 2 * limit) :
    ∃ units, round (a * denominator) denominator = .finite units ∧
      2 * units ≤ 2 * a + 2 ^ (m - 53) ∧ 2 * a ≤ 2 * units + 2 ^ (m - 53) := by
  have hscaled := Nat.mul_lt_mul_of_pos_right hfar hd
  rw [Nat.add_mul, Nat.mul_assoc, Nat.mul_assoc, Nat.mul_comm (2 ^ (m - 53))] at hscaled
  obtain ⟨units, hround, hlow, hhigh⟩ :=
    exists_round_near hd (by rwa [Nat.mul_div_cancel a hd]) hscaled
  refine ⟨units, hround, Nat.le_of_mul_le_mul_right ?_ hd,
    Nat.le_of_mul_le_mul_right ?_ hd⟩ <;>
    rwa [Nat.add_mul, Nat.mul_assoc, Nat.mul_assoc, Nat.mul_comm (2 ^ (m - 53))]

/-- So many thousandths are less than half a nanosecond off, for three weeks and more. -/
theorem exists_thousandths_eq (hn : n < 2 ^ 21 * 1000) :
    ∃ units, ofNat n * ofRatio 1 1000 = .finite units ∧ units < 2 ^ 64 * one ∧
      2 * (n * 1_000_000 * one) < 2 * (units * 1_000_000_000) + one ∧
      2 * (units * 1_000_000_000) < 2 * (n * 1_000_000 * one) + one := by
  obtain ⟨k, -, hk, -, hk', -⟩ := exists_one_eq
  obtain ⟨i, rfl⟩ := Nat.exists_eq_add_of_le' (Nat.le_trans (by decide : 62 ≤ 162) hk)
  have hone : one = 2 ^ i * 2 ^ 62 := hk'.trans (Nat.pow_add 2 i 62)
  obtain ⟨c, hc, hclow, hchigh⟩ := exists_thousandth_eq hone ⟨i, rfl⟩
  have hfinite := ofNat_of_isBinary (isBinary_of_lt (Nat.lt_trans hn (by decide)))
    (Nat.lt_trans hn (by decide))
  have hproduct : n * one * c = n * c * one := Nat.mul_right_comm n one c
  rw [hfinite, hc, mul_finite, hproduct]
  have hunits := Nat.mul_le_mul_right (2 ^ i) (Nat.le_of_lt hn)
  have hwhole : n * 1_000_000 * one = n * 2 ^ i * 2 ^ 62 * 1_000_000 := by
    rw [Nat.mul_right_comm, hone, ← Nat.mul_assoc]
  have hlow := mul_near n hclow
  have hhigh := mul_near n hchigh
  rw [hone, ← Nat.mul_assoc n c, ← Nat.mul_assoc n (2 ^ i)] at hlow hhigh
  -- The thousandth is off by half of `2 ^ i` at most, and the product, which is rounded again, by
  -- half of `2 ^ (i + 31)`.
  have hstep : 2 ^ (i + 84 - 53) = 2 ^ i * 2 ^ 31 := by
    rw [Nat.add_sub_assoc (by decide), Nat.pow_add]
  have hpos := Nat.two_pow_pos i
  have hsmall : n * c < 2 ^ (i + 84) := by
    rw [Nat.pow_add]
    omega
  have hfar : 2 * (n * c) + 2 ^ (i + 84 - 53) < 2 * limit := by
    have hlimit := one_mul_le_limit
    rw [hone] at hlimit
    generalize limit = l at *
    rw [hstep]
    omega
  obtain ⟨units, hround, hnear, hnear'⟩ := exists_round_mul_near one_pos hsmall hfar
  rw [hstep] at hnear hnear'
  refine ⟨units, hround, ?_, ?_, ?_⟩
  · rw [hone]
    omega
  · rw [hwhole, hone]
    omega
  · rw [hwhole, hone]
    omega

end Binary64

end JetStream
