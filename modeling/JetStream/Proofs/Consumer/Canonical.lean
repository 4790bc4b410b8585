import JetStream.Proofs.Consumer.Wire
import JetStream.Proofs.Text.Blank

/-!
# Configurations read back from their canonical form

Writing the canonical form loses three things and can be refused for a fourth: an empty text is left
out, an acknowledgement wait that does not fit 64 bits of nanoseconds is cut to the longest that
does, a leap second within a minute is written as the second after it, and a sample frequency of
more than all is written but not read.  `parse_canonical` gives the outcome for every configuration:
`normalized`, or the refusal.  What is kept whole is exactly what `IsCanonical` describes.
-/

namespace JetStream

/-! ## Sample frequencies -/

/-- Digits have no percent signs behind them. -/
theorem Sample.dropPercent_toString (n : Nat) : dropPercent (toString n) = toString n := by
  have hkept : ∀ c ∈ (toString n).toList.reverse, decide (c = '%') = false := by
    intro c hc
    rw [decide_eq_false_iff_not]
    rintro rfl
    exact absurd (Text.isDigit_of_mem_toString (List.mem_reverse.mp hc)) (by decide)
  rw [dropPercent, Text.dropWhile_eq_self hkept, List.reverse_reverse, String.ofList_toList]

/-- A share in percent is read back from its digits, unless it is more than all. -/
theorem Sample.parse_toString (percent : UInt8) :
    parse (toString percent.toNat) =
      if 100 < percent.toNat then .error (.tooLarge percent.toNat) else .ok percent := by
  have htrim : Text.trim (toString percent.toNat) = toString percent.toNat :=
    Text.trim_eq_self fun c hc => Text.isBlank_eq_false_of_isDigit (Text.isDigit_of_mem_toString hc)
  have hbound : percent.toNat ≤ 255 := Nat.le_of_lt_succ percent.toNat_lt
  unfold parse
  rw [htrim, dropPercent_toString, Text.unsigned?_toString hbound]
  simp only [UInt8.ofNat_toNat]

namespace Consumer.Config

open Json

/-! ## The members of the record are readable -/

private theorem membersReadable_textMember (levels : Nat) (name : String) (text : Option String) :
    MembersReadable levels (textMember name text) := by
  unfold textMember
  split <;> simp [MembersReadable, IsReadable]

private theorem membersReadable_numberMember (levels : Nat) (name : String) {n : Int}
    (h : IsWhole n) : MembersReadable levels (numberMember name n) := by
  unfold numberMember
  split
  · exact trivial
  · exact ⟨h, trivial⟩

theorem isWhole_natCast {n : Nat} (h : n ≤ Text.maxUnsigned64) : IsWhole n :=
  ⟨by simp only [Text.minSigned64]; omega, Int.ofNat_le.mpr h⟩

private theorem isWhole_toInt (n : Int64) : IsWhole n.toInt := by
  have hlow := n.le_toInt
  have hhigh := n.toInt_lt
  constructor <;> simp only [Text.minSigned64, Text.maxUnsigned64] <;> omega

private theorem membersReadable_startMembers (levels : Nat) (policy : DeliverPolicy) :
    MembersReadable levels (startMembers policy) := by
  cases policy with
  | byStartSequence n => exact ⟨isWhole_natCast (Nat.le_of_lt_succ n.toNat_lt), trivial⟩
  | _ => simp [startMembers, MembersReadable, IsReadable]

theorem membersReadable_members (levels : Nat) (c : Config) :
    MembersReadable levels c.members := by
  have hname : ∀ name text : String, MembersReadable levels [(name, .string text)] := by
    simp [MembersReadable, IsReadable]
  exact
    membersReadable_textMember levels _ _ |>.append
      (membersReadable_textMember levels _ _) |>.append
      (hname _ _) |>.append
      (membersReadable_startMembers levels _) |>.append
      (hname _ _) |>.append
      (membersReadable_numberMember levels _ (isWhole_natCast (wireWait_le _))) |>.append
      (membersReadable_numberMember levels _ (isWhole_toInt _)) |>.append
      (membersReadable_textMember levels _ _) |>.append
      (hname _ _) |>.append
      (membersReadable_numberMember levels _
        (isWhole_natCast (Nat.le_of_lt_succ c.rateLimit.toNat_lt))) |>.append
      (membersReadable_textMember levels _ _) |>.append
      (membersReadable_numberMember levels _ (isWhole_toInt _))

/-! ## Which configuration the fields make -/

/-- The configuration that the canonical form stands for. -/
def normalized (c : Config) : Config :=
  { c with
    durableName := nonEmpty c.durableName
    deliverSubject := nonEmpty c.deliverSubject
    filterSubject := nonEmpty c.filterSubject
    deliverPolicy := shownPolicy c.deliverPolicy
    ackWait := ⟨wireWait c.ackWait⟩ }

/-- The sample frequency, where it is more than all. -/
def oversampled? (c : Config) : Option UInt8 :=
  c.sampleFrequency.filter fun percent => 100 < percent.toNat

private theorem start_wireFields (c : Config) :
    c.wireFields.start = .ok (shownPolicy c.deliverPolicy) := by
  unfold Fields.start wireFields
  cases c.deliverPolicy with
  | byStartSequence n => simp [DeliverPolicy.wireName, startSequence?, shownPolicy]
  | _ => rfl

private theorem sample_wireFields (c : Config) :
    c.wireFields.sample =
      match c.oversampled? with
      | some percent => .error (.sample (.tooLarge percent.toNat))
      | none => .ok c.sampleFrequency := by
  unfold Fields.sample wireFields oversampled?
  cases c.sampleFrequency with
  | none => rfl
  | some percent =>
      by_cases hmore : 100 < percent.toNat <;>
        simp [Sample.parse_toString, Option.filter, hmore, -Nat.toString_eq_repr]

theorem toConfig_wireFields (c : Config) :
    c.wireFields.toConfig =
      match c.oversampled? with
      | some percent => .error (.sample (.tooLarge percent.toNat))
      | none => .ok c.normalized := by
  rw [Fields.toConfig, start_wireFields, sample_wireFields]
  cases c.oversampled? with
  | some percent => rfl
  | none => simp [bind, Except.bind, wireFields, normalized]

/-! ## The canonical form -/

/-- Reading the canonical form gives the configuration that it stands for, unless the sample
frequency is more than all. -/
theorem parse_canonical (c : Config) :
    parse c.canonical =
      match c.oversampled? with
      | some percent => .error (.refused (Fault.sample (.tooLarge percent.toNat)).message)
      | none => .ok c.normalized := by
  -- the record is one level of nesting, and none of its members is another
  have hread := membersReadable_members (maxDepth - 1) c
  have hvalue : IsReadable maxDepth c.toJson := ⟨by decide, hread⟩
  have hknown : ∀ entry ∈ c.members, entry.1 ∈ fields := fun entry hentry =>
    (names_members_sublist c).subset (List.mem_map_of_mem hentry)
  have hrecord := Record.ofWritten?_written hknown (nodup_names_members c) hread
  have hfields : Fields.ofRecord? ⟨c.members, false⟩ = some c.wireFields := ofRecord?_record c
  rw [parse, canonical, read_scan_pretty hvalue]
  simp only [toJson, hrecord, ofRecord, hfields, toConfig_wireFields]
  cases c.oversampled? <;> rfl

/-- What the canonical form keeps whole: no text is empty, the start is an instant of a clock, the
acknowledgement wait fits 64 bits of nanoseconds, and the sample frequency is not more than all. -/
structure IsCanonical (c : Config) : Prop where
  durableName : c.durableName ≠ some ""
  deliverSubject : c.deliverSubject ≠ some ""
  filterSubject : c.filterSubject ≠ some ""
  startsOnClock : c.StartsOnClock
  ackWait : c.ackWait.nanoseconds ≤ Text.maxUnsigned64
  sampleFrequency : ∀ percent ∈ c.sampleFrequency, percent.toNat ≤ 100

theorem nonEmpty_eq_self_iff (text : Option String) :
    nonEmpty text = text ↔ text ≠ some "" := by
  cases text with
  | none => simp [nonEmpty]
  | some s => simp [nonEmpty, Option.filter_eq_some_iff]

private theorem wireWait_eq_self_iff (wait : Duration) :
    (⟨wireWait wait⟩ : Duration) = wait ↔ wait.nanoseconds ≤ Text.maxUnsigned64 := by
  constructor
  · intro h
    rw [← h]
    exact wireWait_le wait
  · intro h
    rw [wireWait, Nat.min_eq_left h]

theorem normalized_eq_self_iff (c : Config) :
    c.normalized = c ↔ c.durableName ≠ some "" ∧ c.deliverSubject ≠ some "" ∧
      c.filterSubject ≠ some "" ∧ c.StartsOnClock ∧
      c.ackWait.nanoseconds ≤ Text.maxUnsigned64 := by
  rw [← nonEmpty_eq_self_iff, ← nonEmpty_eq_self_iff, ← nonEmpty_eq_self_iff,
    ← shownPolicy_eq_self_iff, ← wireWait_eq_self_iff]
  constructor
  · intro h
    exact ⟨congrArg durableName h, congrArg deliverSubject h, congrArg filterSubject h,
      congrArg deliverPolicy h, congrArg ackWait h⟩
  · rintro ⟨hname, hdeliver, hfilter, hpolicy, hwait⟩
    simp only [normalized, hname, hdeliver, hfilter, hpolicy, hwait]

theorem oversampled?_eq_none_iff (c : Config) :
    c.oversampled? = none ↔ ∀ percent ∈ c.sampleFrequency, percent.toNat ≤ 100 := by
  simp [oversampled?, Option.filter_eq_none_iff]

theorem isCanonical_iff (c : Config) :
    c.IsCanonical ↔ c.normalized = c ∧ c.oversampled? = none := by
  rw [normalized_eq_self_iff, oversampled?_eq_none_iff]
  constructor
  · rintro ⟨hname, hdeliver, hfilter, hpolicy, hwait, hsample⟩
    exact ⟨⟨hname, hdeliver, hfilter, hpolicy, hwait⟩, hsample⟩
  · rintro ⟨⟨hname, hdeliver, hfilter, hpolicy, hwait⟩, hsample⟩
    exact ⟨hname, hdeliver, hfilter, hpolicy, hwait, hsample⟩

end Consumer.Config

end JetStream
