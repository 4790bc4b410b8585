import JetStream.Instant.Calendar

/-!
# The calendar counts days without gaps

Every number is the number of one day that exists: `isValid_ofDays` and `toDays_ofDays`.

The day of an era is cut into a year, counted from March, and a day of that year.  The year is found
by one division, after the leap days before it are taken away; `yearOfEra_bounds` says that it is
the year that the day lies in.  What is left is arithmetic on a single year, `ofYearDay`.
-/

namespace JetStream.Date

/-- How many days of an era lie before one of its years. -/
def yearStart (year : Int) : Int :=
  year * 365 + year / 4 - year / 100 + year / 400

/-- The day of a year that begins in March, by its number from zero. -/
def ofYearDay (year dayOfYear : Int) : Date :=
  let monthFromMarch := (5 * dayOfYear + 2) / 153
  let day := dayOfYear - (153 * monthFromMarch + 2) / 5 + 1
  let month := if monthFromMarch < 10 then monthFromMarch + 3 else monthFromMarch - 9
  ⟨if month ≤ 2 then year + 1 else year, month.toNat, day.toNat⟩

/-! ## Finding the year -/

private theorem yearOfEra_bounds {day year : Int} (hlow : 0 ≤ day) (hhigh : day < eraDays)
    (hyear : year = (day - day / 1460 + day / 36524 - day / 146096) / 365) :
    0 ≤ year ∧ year ≤ 399 ∧ yearStart year ≤ day ∧ day < yearStart (year + 1) := by
  simp only [eraDays] at hhigh
  by_cases hlast : day = 146096
  · -- the last day of an era is the leap day of its last year, one more than four centuries have
    subst hlast
    subst hyear
    decide
  · -- the leap days before the day: every 1460 days one, but not in three centuries of four
    obtain ⟨leaps, hleaps⟩ : ∃ leaps, leaps = day / 1460 := ⟨_, rfl⟩
    obtain ⟨century, hcentury⟩ : ∃ century, century = day / 36524 := ⟨_, rfl⟩
    have hera : day / 146096 = 0 := by omega
    rw [← hleaps, ← hcentury, hera] at hyear
    have hleap : 1460 * leaps ≤ day ∧ day < 1460 * leaps + 1460 := by omega
    have hspan : 36524 * century ≤ day ∧ day < 36524 * century + 36524 := by omega
    have hfew : 0 ≤ century ∧ century ≤ 3 := by omega
    have hdivision : 365 * year ≤ day - leaps + century ∧
        day - leaps + century < 365 * year + 365 := by omega
    clear hyear hleaps hcentury hera
    have hrange : 100 * century ≤ year ∧ year < 100 * century + 100 := by omega
    refine ⟨by omega, by omega, ?_, ?_⟩
    · have hcenturies : year / 100 = century := by omega
      have heras : year / 400 = 0 := by omega
      have hfours : 4 * (year / 4) ≤ year := by omega
      rw [yearStart, hcenturies, heras]
      omega
    · -- the next year may begin another century, which alone makes its start come sooner
      by_cases hturn : year = 100 * century + 99
      · have hcenturies : (year + 1) / 100 = century + 1 := by omega
        have heras : 0 ≤ (year + 1) / 400 := by omega
        have hfours : (year + 1) / 4 = 25 * century + 25 := by omega
        rw [yearStart, hcenturies, hfours]
        omega
      · have hcenturies : (year + 1) / 100 = century := by omega
        have heras : (year + 1) / 400 = 0 := by omega
        have hfours : year + 1 ≤ 4 * ((year + 1) / 4) + 3 := by omega
        rw [yearStart, hcenturies, heras]
        omega

/-- A number of days is cut into eras, a year of an era and a day of that year. -/
private theorem exists_ofYearDay (days : Int) :
    ∃ era year dayOfYear : Int, 0 ≤ year ∧ year ≤ 399 ∧ 0 ≤ dayOfYear ∧
      dayOfYear < yearStart (year + 1) - yearStart year ∧
      days + epochDays = era * eraDays + (yearStart year + dayOfYear) ∧
      ofDays days = ofYearDay (year + era * 400) dayOfYear := by
  have hera : 0 < eraDays := by decide
  have hlow := Int.emod_nonneg (days + epochDays) (Int.ne_of_gt hera)
  have hhigh := Int.emod_lt_of_pos (days + epochDays) hera
  have hcut := Int.mul_ediv_add_emod (days + epochDays) eraDays
  have hbounds := yearOfEra_bounds hlow hhigh rfl
  obtain ⟨day, hday⟩ : ∃ day, day = (days + epochDays) % eraDays := ⟨_, rfl⟩
  rw [← hday] at hlow hhigh hbounds
  obtain ⟨year, hyear⟩ :
      ∃ year, year = (day - day / 1460 + day / 36524 - day / 146096) / 365 := ⟨_, rfl⟩
  rw [← hyear] at hbounds
  obtain ⟨hzero, hmax, hstart, hend⟩ := hbounds
  have heras : year / 400 = 0 := by omega
  refine ⟨(days + epochDays) / eraDays, year, day - yearStart year, hzero, hmax, by omega, by omega,
    ?_, ?_⟩
  · rw [Int.mul_comm]
    omega
  · have hof : day - yearStart year = day - (365 * year + year / 4 - year / 100) := by
      rw [yearStart, heras]
      omega
    rw [hof, ofDays]
    simp only [← hday, ← hyear]
    rfl

/-! ## Within a year -/

/-- A year that begins in March has a day more when the leap day of the next year ends it. -/
private theorem yearStart_succ_sub (year era : Int) :
    yearStart (year + 1) - yearStart year =
      if isLeapYear (year + era * 400 + 1) then 366 else 365 := by
  have hfour : (year + era * 400 + 1) % 4 = (year + 1) % 4 := by omega
  have hhundred : (year + era * 400 + 1) % 100 = (year + 1) % 100 := by omega
  have hera : (year + era * 400 + 1) % 400 = (year + 1) % 400 := by omega
  simp only [yearStart, isLeapYear, hfour, hhundred, hera, Bool.and_eq_true, Bool.or_eq_true,
    decide_eq_true_eq]
  split <;> omega

private theorem monthFromMarch_bounds {dayOfYear : Int} (hlow : 0 ≤ dayOfYear)
    (hhigh : dayOfYear < 366) :
    0 ≤ (5 * dayOfYear + 2) / 153 ∧ (5 * dayOfYear + 2) / 153 ≤ 11 := by
  omega

private theorem toDays_ofYearDay {year dayOfYear : Int} (era : Int) (hyear : 0 ≤ year)
    (hlast : year ≤ 399) (hlow : 0 ≤ dayOfYear) (hhigh : dayOfYear < 366) :
    (ofYearDay (year + era * 400) dayOfYear).toDays =
      era * eraDays + (yearStart year + dayOfYear) - epochDays := by
  obtain ⟨month, hmonth⟩ : ∃ month, month = (5 * dayOfYear + 2) / 153 := ⟨_, rfl⟩
  have hbounds := monthFromMarch_bounds hlow hhigh
  have hdiv : (year + era * 400) / 400 = era := by omega
  have hmod : (year + era * 400) % 400 = year := by omega
  rw [← hmonth] at hbounds
  simp only [ofYearDay, toDays, ← hmonth]
  by_cases hmarch : month < 10
  · have hlate : ¬month + 3 ≤ 2 := by omega
    have hback : ((month + 3).toNat + 9 : Int) % 12 = month := by omega
    rw [if_pos hmarch, if_neg hlate, if_neg (by omega), hdiv, hmod, hback]
    unfold yearStart
    omega
  · have hearly : month - 9 ≤ 2 := by omega
    have hback : ((month - 9).toNat + 9 : Int) % 12 = month := by omega
    rw [if_neg hmarch, if_pos hearly, if_pos (by omega), Int.add_sub_cancel, hdiv, hmod, hback]
    unfold yearStart
    omega

private theorem isValid_ofYearDay {year dayOfYear : Int} (hlow : 0 ≤ dayOfYear)
    (hhigh : dayOfYear < if isLeapYear (year + 1) then 366 else 365) :
    (ofYearDay year dayOfYear).IsValid := by
  obtain ⟨month, hmonth⟩ : ∃ month, month = (5 * dayOfYear + 2) / 153 := ⟨_, rfl⟩
  have hlength : dayOfYear < 366 := by
    split at hhigh <;> omega
  have hbounds := monthFromMarch_bounds hlow hlength
  rw [← hmonth] at hbounds
  simp only [IsValid, ofYearDay, ← hmonth]
  by_cases hmarch : month < 10
  · rw [if_pos hmarch]
    simp only [daysInMonth]
    refine ⟨by omega, by omega, by omega, ?_⟩
    rw [if_neg (by omega)]
    split <;> omega
  · rw [if_neg hmarch, if_pos (by omega)]
    simp only [daysInMonth]
    refine ⟨by omega, by omega, by omega, ?_⟩
    -- February is the last month of a year from March, so its length is what is left of the year
    split
    · split at hhigh <;> split <;> simp_all <;> omega
    · split <;> omega

/-! ## Numbers and days -/

/-- The day of a number exists. -/
theorem isValid_ofDays (days : Int) : (ofDays days).IsValid := by
  obtain ⟨era, year, dayOfYear, -, -, hlow, hhigh, -, hof⟩ := exists_ofYearDay days
  rw [yearStart_succ_sub year era] at hhigh
  rw [hof]
  exact isValid_ofYearDay hlow hhigh

/-- The day of a number has that number. -/
theorem toDays_ofDays (days : Int) : (ofDays days).toDays = days := by
  obtain ⟨era, year, dayOfYear, hyear, hlast, hlow, hhigh, hcut, hof⟩ := exists_ofYearDay days
  have hlength : dayOfYear < 366 := by
    rw [yearStart_succ_sub year 0] at hhigh
    split at hhigh <;> omega
  rw [hof, toDays_ofYearDay era hyear hlast hlow hlength]
  omega

end JetStream.Date
