import JetStream.Proofs.Consumer.Copied
import JetStream.Proofs.Instant.Subtract
import JetStream.Proofs.Text.Case
import JetStream.Proofs.Text.Decimal

/-!
# What a start token asks for

A token is a keyword, or digits, or a duration to go back by.  The three are tried in this order and
do not overlap, and the digits of any script keep a token from being a duration, although only those
of ASCII make a sequence of it.  `readStart_exact` says for each policy which tokens ask for it.
-/

namespace JetStream.Consumer

open Text Start

/-- The keywords with what they ask for. -/
def keywords : List (String × DeliverPolicy) :=
  [("all", .all), ("last", .last), ("new", .new), ("next", .new)]

/-- A token is a keyword, in any case. -/
def IsKeyword (t : String) (policy : DeliverPolicy) : Prop :=
  ∃ word, (word, policy) ∈ keywords ∧ IsSpelling word t

/-- A token is a sequence in ASCII digits. -/
structure IsSequence (t : String) (n : UInt64) : Prop where
  not_keyword : ∀ policy, ¬IsKeyword t policy
  ne_empty : t ≠ ""
  isDigit : ∀ c ∈ t.toList, c.isDigit = true
  value : Nat.ofDigitChars 10 t.toList 0 = n.toNat

/-- A token is a duration, not too long to go back by. -/
structure LeadsBack (t : String) (d : Duration) : Prop where
  not_keyword : ∀ policy, ¬IsKeyword t policy
  not_digits : ∃ c ∈ t.toList, isDecimalDigit c = false
  read : readDuration t = .ok d
  le : d.nanoseconds ≤ 0x7fff_ffff_ffff_ffff * 1_000_000

variable {t : String} {now : Instant} {policy : DeliverPolicy}

/-! ## Keywords -/

theorem ofKeyword?_eq_some_iff : ofKeyword? t = some policy ↔ IsKeyword t policy := by
  have htable : ofKeyword? t = some policy ↔ (lower t, policy) ∈ keywords := by
    unfold ofKeyword? keywords
    generalize lower t = word
    split <;> simp_all [eq_comm]
  have hlower : ∀ entry ∈ keywords, ∀ c ∈ entry.1.toList, c.isLower = true := by
    simp [keywords]
  rw [htable]
  constructor
  · intro hmem
    exact ⟨_, hmem, (lower_eq_iff (hlower _ hmem)).mp rfl⟩
  · rintro ⟨word, hmem, hspelling⟩
    rwa [(lower_eq_iff (hlower _ hmem)).mpr hspelling]

theorem ofKeyword?_eq_none_iff : ofKeyword? t = none ↔ ∀ policy, ¬IsKeyword t policy := by
  simp only [Option.eq_none_iff_forall_ne_some, ne_eq, ofKeyword?_eq_some_iff]

/-! ## Sequences -/

theorem isNumeric_iff :
    isNumeric t = true ↔ t ≠ "" ∧ ∀ c ∈ t.toList, isDecimalDigit c = true := by
  rw [isNumeric, Bool.and_eq_true, Bool.not_eq_true', ← Bool.not_eq_true, String.isEmpty_iff,
    List.all_eq_true]

/-- A sign is no digit, so that digits alone are read as they stand. -/
theorem unsigned64?_of_isNumeric (h : isNumeric t = true) :
    unsigned64? t = (natural? t.toList).filter (· ≤ maxUnsigned64) := by
  obtain ⟨-, hdigits⟩ := isNumeric_iff.mp h
  unfold unsigned64? unsigned?
  split
  next rest hplus =>
    have hsign : isDecimalDigit '+' = true := hdigits _ (hplus ▸ List.mem_cons_self)
    exact absurd hsign (by decide)
  next => rfl

theorem ofSequence_eq_ok_iff (h : isNumeric t = true) :
    ofSequence t = .ok policy ↔
      ∃ n : UInt64, (∀ c ∈ t.toList, c.isDigit = true) ∧
        Nat.ofDigitChars 10 t.toList 0 = n.toNat ∧ policy = .byStartSequence n := by
  unfold ofSequence
  rw [unsigned64?_of_isNumeric h]
  split
  next n hread =>
    obtain ⟨hn, hbound⟩ := Option.filter_eq_some_iff.mp hread
    obtain ⟨-, hdigits, hvalue⟩ := natural?_eq_some_iff.mp hn
    have hsize : n < UInt64.size := Nat.lt_succ_of_le (of_decide_eq_true hbound)
    have hword : (UInt64.ofNat n).toNat = n := UInt64.toNat_ofNat_of_lt hsize
    constructor
    · rintro ⟨⟩
      exact ⟨_, hdigits, hvalue.trans hword.symm, rfl⟩
    · rintro ⟨m, -, hm, rfl⟩
      rw [← hvalue, hm, UInt64.ofNat_toNat]
  next hread =>
    refine ⟨nofun, ?_⟩
    rintro ⟨m, hdigits, hm, -⟩
    have hne : t.toList ≠ [] := fun hnil =>
      (isNumeric_iff.mp h).1 (String.toList_eq_nil_iff.mp hnil)
    have hbound : m.toNat ≤ maxUnsigned64 := Nat.le_of_lt_succ m.toNat_lt
    rw [natural?_eq_some_iff.mpr ⟨hne, hdigits, hm⟩, Option.filter_some,
      if_pos (decide_eq_true hbound)] at hread
    exact nomatch hread

/-! ## Durations -/

theorem ne_empty_of_readDuration {d : Duration} (h : readDuration t = .ok d) : t ≠ "" := by
  rintro rfl
  have hempty : readDuration "" = .error (.input "empty duration") := rfl
  exact nomatch hempty.symm.trans h

theorem exists_isDecimalDigit_eq_false (hne : t ≠ "") (h : ¬isNumeric t = true) :
    ∃ c ∈ t.toList, isDecimalDigit c = false := by
  by_contra hnone
  refine h (isNumeric_iff.mpr ⟨hne, fun c hc => ?_⟩)
  by_contra hc'
  exact hnone ⟨c, hc, Bool.eq_false_iff.mpr hc'⟩

theorem ofDelta_eq_ok_iff :
    ofDelta now t = .ok policy ↔
      ∃ d start, readDuration t = .ok d ∧ d.nanoseconds ≤ 0x7fff_ffff_ffff_ffff * 1_000_000 ∧
        now.subtract? d = some start ∧ policy = .byStartTime start := by
  unfold ofDelta readDuration
  cases Duration.parse t with
  | error fault =>
      refine ⟨nofun, ?_⟩
      rintro ⟨_, _, ⟨⟩, -⟩
  | ok d =>
      dsimp only
      split
      next hlong =>
        refine ⟨nofun, ?_⟩
        rintro ⟨_, _, ⟨⟩, hle, -⟩
        exact absurd hle (Nat.not_le_of_lt hlong)
      next hle =>
        cases hstart : now.subtract? d with
        | none =>
            refine ⟨nofun, ?_⟩
            rintro ⟨_, _, ⟨⟩, -, hsome, -⟩
            exact nomatch hstart.symm.trans hsome
        | some start =>
            constructor
            · rintro ⟨⟩
              exact ⟨d, start, rfl, Nat.le_of_not_lt hle, hstart, rfl⟩
            · rintro ⟨_, _, ⟨⟩, -, hsome, rfl⟩
              rw [Option.some.inj (hstart.symm.trans hsome)]

/-! ## The three kinds of tokens -/

theorem parse_eq_ok_iff (token : String) (now : Instant) (policy : DeliverPolicy) :
    Start.parse token now = .ok policy ↔
      IsKeyword (trim token) policy ∨
        (∃ n, IsSequence (trim token) n ∧ policy = .byStartSequence n) ∨
        ∃ d start, LeadsBack (trim token) d ∧ now.subtract? d = some start ∧
          policy = .byStartTime start := by
  unfold Start.parse
  dsimp only
  generalize trim token = t
  split
  next keyword hkeyword =>
    have hsome := ofKeyword?_eq_some_iff.mp hkeyword
    constructor
    · rintro ⟨⟩
      exact .inl hsome
    · rintro (h | ⟨n, h, -⟩ | ⟨d, start, h, -⟩)
      · rw [← ofKeyword?_eq_some_iff, hkeyword] at h
        rw [Option.some.inj h]
      · exact absurd hsome (h.not_keyword _)
      · exact absurd hsome (h.not_keyword _)
  next hnone =>
    have hnot := ofKeyword?_eq_none_iff.mp hnone
    split
    next hnumeric =>
      obtain ⟨hne, hall⟩ := isNumeric_iff.mp hnumeric
      rw [ofSequence_eq_ok_iff hnumeric]
      constructor
      · rintro ⟨n, hdigits, hvalue, rfl⟩
        exact .inr (.inl ⟨n, ⟨hnot, hne, hdigits, hvalue⟩, rfl⟩)
      · rintro (h | ⟨n, h, rfl⟩ | ⟨d, start, h, -⟩)
        · exact absurd h (hnot _)
        · exact ⟨n, h.isDigit, h.value, rfl⟩
        · obtain ⟨c, hc, hdigit⟩ := h.not_digits
          exact absurd (hall c hc) (Bool.eq_false_iff.mp hdigit)
    next hnumeric =>
      rw [ofDelta_eq_ok_iff]
      constructor
      · rintro ⟨d, start, hread, hle, hstart, rfl⟩
        refine .inr (.inr ⟨d, start, ⟨hnot, ?_, hread, hle⟩, hstart, rfl⟩)
        exact exists_isDecimalDigit_eq_false (ne_empty_of_readDuration hread) hnumeric
      · rintro (h | ⟨n, h, -⟩ | ⟨d, start, h, hstart, rfl⟩)
        · exact absurd h (hnot _)
        · exact absurd (isNumeric_iff.mpr ⟨h.ne_empty, fun c hc =>
            isDecimalDigit_of_isDigit (h.isDigit c hc)⟩) hnumeric
        · exact ⟨d, start, h.read, h.le, hstart, rfl⟩

/-- A time is asked for by what leads back to it from `now`. -/
theorem readStart_eq_byStartTime_iff {token : String} {now start : Instant} :
    readStart token now = .ok (.byStartTime start) ↔
      ∃ d, LeadsBack (trim token) d ∧ now.subtract? d = some start := by
  rw [readStart_eq_ok_iff, parse_eq_ok_iff]
  simp [IsKeyword, keywords]

theorem exists_eq_input_of_readStart {token : String} {e : Error}
    (h : readStart token now = .error e) : ∃ reason, e = .input reason := by
  unfold readStart at h
  cases hparse : Start.parse token now with
  | error fault =>
      rw [hparse] at h
      cases h
      exact ⟨_, rfl⟩
  | ok policy =>
      rw [hparse] at h
      cases h

/-- Each policy is asked for by the tokens that say so and by no others; blanks around a token do
not count.  A time is gone back from `now` to the nanosecond.  All other tokens are errors of the
input. -/
theorem readStart_exact (token : String) (now : Instant) :
    let t := trim token
    (readStart token now = .ok .all ↔ IsSpelling "all" t) ∧
    (readStart token now = .ok .last ↔ IsSpelling "last" t) ∧
    (readStart token now = .ok .new ↔ IsSpelling "new" t ∨ IsSpelling "next" t) ∧
    (∀ n, readStart token now = .ok (.byStartSequence n) ↔ IsSequence t n) ∧
    (∀ start, readStart token now = .ok (.byStartTime start) ↔
      ∃ d, LeadsBack t d ∧ now.subtract? d = some start) ∧
    (now.isLeap = false → ∀ start, readStart token now = .ok (.byStartTime start) ↔
      ∃ d, LeadsBack t d ∧ start.isLeap = false ∧ start.count + d.nanoseconds = now.count) ∧
    (now.isLeap = false → ∀ start, readStart token now = .ok (.byStartTime start) →
      start.le now = true) ∧
    readStart token now ≠ .ok .lastPerSubject ∧
    ∀ e, readStart token now = .error e → ∃ reason, e = .input reason := by
  intro t
  have hread (policy : DeliverPolicy) :=
    (readStart_eq_ok_iff now token policy).trans (parse_eq_ok_iff token now policy)
  have htime (start : Instant) : readStart token now = .ok (.byStartTime start) ↔
      ∃ d, LeadsBack t d ∧ now.subtract? d = some start :=
    readStart_eq_byStartTime_iff
  refine ⟨?_, ?_, ?_, fun n => ?_, htime, fun hleap start => ?_, fun hleap start h => ?_,
    readStart_ne_lastPerSubject token now, fun e => exists_eq_input_of_readStart⟩
  · simp [hread, IsKeyword, keywords, t]
  · simp [hread, IsKeyword, keywords, t]
  · simp [hread, IsKeyword, keywords, t, or_and_right, exists_or]
  · simp [hread, IsKeyword, keywords, t]
  · rw [htime]
    simp only [Instant.subtract?_eq_some_iff hleap]
  · obtain ⟨d, -, hstart⟩ := (htime start).mp h
    exact Instant.le_of_subtract? hleap hstart

/-- An hour and a half before the start of 1970, with blanks around it. -/
theorem readStart_exact_hours :
    Instant.epoch.isLeap = false ∧
      ∃ start : Instant, start.second = -5400 ∧ start.nanosecond = 0 ∧
        readStart " 1.5h " .epoch = .ok (.byStartTime start) ∧ start.le .epoch = true := by
  obtain ⟨-, -, -, -, -, hback, hle, -⟩ := readStart_exact " 1.5h " .epoch
  let start : Instant := ⟨-5400, 0, by decide⟩
  have hleads : LeadsBack (trim " 1.5h ") ⟨5_400_000_000_000⟩ :=
    ⟨ofKeyword?_eq_none_iff.mp (by decide), ⟨'.', by decide, by decide⟩, by decide +kernel,
      by decide⟩
  have hread : readStart " 1.5h " .epoch = .ok (.byStartTime start) :=
    (hback rfl start).mpr ⟨_, hleads, rfl, by decide⟩
  exact ⟨rfl, start, rfl, rfl, hread, hle rfl start hread⟩

end JetStream.Consumer
