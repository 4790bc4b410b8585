import JetStream.Consumer.Schema
import JetStream.Proofs.Consumer.Canonical

/-!
# Which rules a configuration breaks

The rules of the broker look at a document, in which a member may be missing, of the wrong type or
out of place.  `Config.Breaks` says of a configuration itself which rules it breaks; this module
shows that the validator finds exactly those in the document of the configuration.

## Strategy

* The order of what is found, and that nothing is found twice, holds for every document: each rule
  adds violations of its own place (`InOrder`).
* What is found is settled rule by rule.  A look-up in the document of a configuration is one in
  `Config.value?`, so that each rule comes down to its field.
* Rules about documents that no configuration is written as find nothing, because the encoder writes
  the names of the policies, and a start only where the policy has one.
-/

namespace JetStream

open Text

/-! ## Subjects -/

namespace Subject

/-- There is a blank in the subject, or a token of it is empty. -/
def IsMalformed (subject : String) : Prop :=
  (∃ c ∈ subject.toList, isBlank c = true) ∨ "" ∈ tokens subject

/-- A token stands for other tokens. -/
def IsWild (subject : String) : Prop :=
  "*" ∈ tokens subject ∨ ">" ∈ tokens subject

theorem isWellFormed_eq_false_iff (subject : String) :
    isWellFormed subject = false ↔ IsMalformed subject := by
  have htokens : ((tokens subject).all fun token => !token.isEmpty) = false ↔
      "" ∈ tokens subject := by
    rw [List.all_eq_false]
    constructor
    · rintro ⟨token, htoken, hempty⟩
      rw [Bool.not_eq_true', Bool.not_eq_false, String.isEmpty_iff] at hempty
      exact hempty ▸ htoken
    · exact fun hmem => ⟨"", hmem, by decide⟩
  rw [isWellFormed, Bool.and_eq_false_iff, htokens, Bool.not_eq_false', List.any_eq_true,
    IsMalformed]

theorem hasWildcard_iff (subject : String) : hasWildcard subject = true ↔ IsWild subject := by
  simp only [hasWildcard, IsWild, List.any_eq_true, Bool.or_eq_true, decide_eq_true_eq]
  constructor
  · rintro ⟨token, htoken, rfl | rfl⟩
    · exact .inl htoken
    · exact .inr htoken
  · rintro (h | h)
    · exact ⟨_, h, .inl rfl⟩
    · exact ⟨_, h, .inr rfl⟩

end Subject

namespace Consumer

/-! ## The rules about configurations -/

/-- The configuration breaks a rule.  An empty text is as good as none. -/
inductive Config.Breaks (c : Config) : Violation → Prop
  | name {name : String} {illegal : Char} (hname : Config.nonEmpty c.durableName = some name)
      (hmem : illegal ∈ name.toList)
      (hillegal : illegal = '.' ∨ illegal = '*' ∨ illegal = '>' ∨ isBlank illegal = true) :
      c.Breaks .illegalName
  | deliverSubject {subject : String} (hsubject : Config.nonEmpty c.deliverSubject = some subject)
      (hmalformed : Subject.IsMalformed subject) : c.Breaks (.invalidDeliverSubject subject)
  | deliverWildcard {subject : String} (hsubject : Config.nonEmpty c.deliverSubject = some subject)
      (hformed : ¬Subject.IsMalformed subject) (hwild : Subject.IsWild subject) :
      c.Breaks .deliverSubjectWildcard
  | filterSubject {subject : String} (hsubject : Config.nonEmpty c.filterSubject = some subject)
      (hmalformed : Subject.IsMalformed subject) : c.Breaks (.invalidFilterSubject subject)
  | startSequence (hpolicy : c.deliverPolicy = .byStartSequence 0) : c.Breaks .startSequenceMissing
  | maxDeliver (hlimit : c.maxDeliver.toInt < -1) : c.Breaks .maxDeliverTooSmall
  | maxAckPending (hlimit : c.maxAckPending.toInt < 0) : c.Breaks .maxAckPendingNegative
  | share {percent : UInt8} (hshare : c.sampleFrequency = some percent)
      (hmore : 100 < percent.toNat) : c.Breaks (.invalidSample (toString percent.toNat))
  | rateLimit (hrate : 0 < c.rateLimit.toNat) (hpull : Config.nonEmpty c.deliverSubject = none) :
      c.Breaks .rateLimitOnPull
  | ephemeral (hname : Config.nonEmpty c.durableName = none)
      (hpull : Config.nonEmpty c.deliverSubject = none) : c.Breaks .ephemeralPull

namespace Violation

/-- The place of the rule among the rules. -/
def rule : Violation → Nat
  | notObject => 0
  | illegalName => 1
  | invalidDeliverSubject _ => 2
  | deliverSubjectWildcard => 3
  | invalidFilterSubject _ => 4
  | startNotAllowed _ => 5
  | startSequenceMissing => 6
  | startTimeMissing => 7
  | unknownDeliverPolicy _ => 8
  | unknownAckPolicy _ => 9
  | unknownReplayPolicy _ => 10
  | maxDeliverTooSmall => 11
  | maxAckPendingNegative => 12
  | invalidSample _ => 13
  | rateLimitOnPull => 14
  | ephemeralPull => 15

/-- The rule is about documents that no configuration is written as: those without members, with a
start that does not go with the policy, and with names that no policy has. -/
def IsForeign : Violation → Prop
  | notObject | startNotAllowed _ | startTimeMissing | unknownDeliverPolicy _ | unknownAckPolicy _
  | unknownReplayPolicy _ => True
  | _ => False

end Violation

theorem Config.Breaks.not_isForeign {c : Config} {v : Violation} (h : c.Breaks v) :
    ¬v.IsForeign := by
  cases h <;> exact id

namespace Schema

open Violation (rule)

/-! ## The order of the violations -/

/-- The violations are of rules from the first to the last, each of a later rule than the one
before it. -/
structure InOrder (first last : Nat) (found : List Violation) : Prop where
  ascending : found.Pairwise fun v w => v.rule < w.rule
  within : ∀ v ∈ found, first ≤ v.rule ∧ v.rule ≤ last

theorem InOrder.nil {first last : Nat} : InOrder first last [] :=
  ⟨.nil, by simp⟩

theorem InOrder.single {first last : Nat} {v : Violation}
    (hrule : first ≤ v.rule ∧ v.rule ≤ last) : InOrder first last [v] :=
  ⟨List.pairwise_singleton _ v, by simp [hrule]⟩

theorem InOrder.append {first middle next last : Nat} {found found' : List Violation}
    (h : InOrder first middle found) (h' : InOrder next last found') (hnext : middle < next)
    (hwithin : first ≤ next ∧ middle ≤ last) : InOrder first last (found ++ found') := by
  constructor
  · refine List.pairwise_append.mpr ⟨h.ascending, h'.ascending, fun v hv w hw => ?_⟩
    have := h.within v hv
    have := h'.within w hw
    omega
  · intro v hv
    rcases List.mem_append.mp hv with hv | hv
    · have := h.within v hv
      omega
    · have := h'.within v hv
      omega

theorem inOrder_violationIf {first last : Nat} {v : Violation} (fault : Bool)
    (hrule : first ≤ v.rule ∧ v.rule ≤ last) : InOrder first last (violationIf fault v) := by
  cases fault with
  | false => exact .nil
  | true => exact .single hrule

theorem inOrder_aboutText {first last : Nat} {rule : String → List Violation}
    (h : ∀ text, InOrder first last (rule text)) (document : Json) (name : String) :
    InOrder first last (aboutText document name rule) := by
  unfold aboutText
  split
  · exact h _
  · exact .nil

theorem inOrder_aboutNumber {first last : Nat} {rule : Int → List Violation}
    (h : ∀ n, InOrder first last (rule n)) (document : Json) (name : String) :
    InOrder first last (aboutNumber document name rule) := by
  unfold aboutNumber
  split
  · exact h _
  · exact .nil

section

variable (document : Json)

private theorem inOrder_nameRule : InOrder 1 1 (nameRule document) :=
  inOrder_aboutText (fun _ => inOrder_violationIf _ (by simp [rule])) document _

private theorem inOrder_subjectRules : InOrder 2 4 (subjectRules document) := by
  have hdeliver : ∀ subject, InOrder 2 3
      (if !Subject.isWellFormed subject then [.invalidDeliverSubject subject]
        else violationIf (Subject.hasWildcard subject) .deliverSubjectWildcard) := by
    intro subject
    split
    · exact .single (by simp [rule])
    · exact inOrder_violationIf _ (by simp [rule])
  have hfilter : ∀ subject, InOrder 4 4
      (violationIf (!Subject.isWellFormed subject) (.invalidFilterSubject subject)) := fun _ =>
    inOrder_violationIf _ (by simp [rule])
  exact (inOrder_aboutText hdeliver document _).append (inOrder_aboutText hfilter document _)
    (by decide) (by decide)

private theorem inOrder_startRule : InOrder 5 8 (startRule document) := by
  unfold startRule
  dsimp only
  split
  · exact inOrder_violationIf _ (by simp [rule])
  · split
    · exact inOrder_violationIf _ (by simp [rule])
    · split
      · exact inOrder_violationIf _ (by simp [rule])
      · exact .single (by simp [rule])

private theorem inOrder_policyRules : InOrder 5 10 (policyRules document) := by
  have hack : ∀ policy, InOrder 9 9
      (violationIf (AckPolicy.ofWireName? policy).isNone (.unknownAckPolicy policy)) := fun _ =>
    inOrder_violationIf _ (by simp [rule])
  have hreplay : ∀ policy, InOrder 10 10
      (violationIf (ReplayPolicy.ofWireName? policy).isNone (.unknownReplayPolicy policy)) :=
    fun _ => inOrder_violationIf _ (by simp [rule])
  exact ((inOrder_startRule document).append (inOrder_aboutText hack document _)
    (by decide) (by decide)).append (inOrder_aboutText hreplay document _) (by decide) (by decide)

private theorem inOrder_limitRules : InOrder 11 13 (limitRules document) := by
  have hdeliver : ∀ n : Int, InOrder 11 11 (violationIf (n < -1) .maxDeliverTooSmall) := fun _ =>
    inOrder_violationIf _ (by simp [rule])
  have hpending : ∀ n : Int, InOrder 12 12 (violationIf (n < 0) .maxAckPendingNegative) :=
    fun _ => inOrder_violationIf _ (by simp [rule])
  have hshare : ∀ text, InOrder 13 13 (violationIf (!isPercentage text) (.invalidSample text)) :=
    fun _ => inOrder_violationIf _ (by simp [rule])
  exact ((inOrder_aboutNumber hdeliver document _).append (inOrder_aboutNumber hpending document _)
    (by decide) (by decide)).append (inOrder_aboutText hshare document _) (by decide) (by decide)

private theorem inOrder_modeRules : InOrder 14 15 (modeRules document) := by
  have hrate : ∀ fault, InOrder 14 14 (violationIf fault .rateLimitOnPull) := fun _ =>
    inOrder_violationIf _ (by simp [rule])
  have hpull : ∀ fault, InOrder 15 15 (violationIf fault .ephemeralPull) := fun _ =>
    inOrder_violationIf _ (by simp [rule])
  exact (hrate _).append (hpull _) (by decide) (by decide)

/-- In any document, violations are found in the order of the rules, and none twice. -/
theorem inOrder_violations : InOrder 0 15 (violations document) := by
  unfold violations
  split
  · have hnone : InOrder 0 0 [] := .nil
    exact hnone.append (inOrder_nameRule _) (by decide) (by decide)
      |>.append (inOrder_subjectRules _) (by decide) (by decide)
      |>.append (inOrder_policyRules _) (by decide) (by decide)
      |>.append (inOrder_limitRules _) (by decide) (by decide)
      |>.append (inOrder_modeRules _) (by decide) (by decide)
  · exact .single (by simp [rule])

end

/-! ## Violations that a rule adds -/

theorem mem_violationIf {fault : Bool} {v w : Violation} :
    v ∈ violationIf fault w ↔ fault = true ∧ v = w := by
  cases fault <;> simp [violationIf]

theorem mem_aboutText {document : Json} {name : String} {rule : String → List Violation}
    {v : Violation} :
    v ∈ aboutText document name rule ↔
      ∃ text, (document.member? name).bind Json.asString? = some text ∧ v ∈ rule text := by
  unfold aboutText
  split
  · rename_i text htext
    simp [htext]
  · rename_i hnone
    simp [hnone]

theorem mem_aboutNumber {document : Json} {name : String} {rule : Int → List Violation}
    {v : Violation} :
    v ∈ aboutNumber document name rule ↔
      ∃ n, (document.member? name).bind Json.asSigned64? = some n ∧ v ∈ rule n := by
  unfold aboutNumber
  split
  · rename_i n hn
    simp [hn]
  · rename_i hnone
    simp [hnone]

/-! ## The rules on the document of a configuration -/

section Configuration

variable (c : Config)

theorem member?_toJson (name : String) : c.toJson.member? name = c.value? name :=
  c.get?_members name

theorem asString?_text (text : Option String) :
    (text.map Json.string).bind Json.asString? = text := by
  cases text <;> rfl

theorem asSigned64?_nonZero (n : Int64) :
    (Config.nonZero n.toInt).bind Json.asSigned64? =
      if n.toInt = 0 then none else some n.toInt := by
  have hlow : Text.minSigned64 ≤ n.toInt := n.le_toInt
  have hhigh : n.toInt ≤ Text.maxSigned64 := Int.le_of_lt_add_one n.toInt_lt
  unfold Config.nonZero
  split
  · rfl
  · exact Json.asInteger?_eq_some_iff.mpr ⟨⟨hlow, hhigh⟩, rfl⟩

private theorem asUnsigned64?_nonZero (n : UInt64) :
    ((Config.nonZero n.toNat).bind Json.asUnsigned64?).getD 0 = n.toNat := by
  have hread : (Json.integer n.toNat).asUnsigned64? = some n.toNat :=
    Json.asUnsigned?_eq_some_iff.mpr ⟨Nat.le_of_lt_succ n.toNat_lt, rfl⟩
  unfold Config.nonZero
  split
  · rename_i hzero
    exact (Int.ofNat_eq_zero.mp hzero).symm
  · rw [Option.bind_some, hread, Option.getD_some]

private theorem startRule_toJson :
    startRule c.toJson =
      violationIf (c.deliverPolicy = .byStartSequence 0) .startSequenceMissing := by
  unfold startRule
  simp only [member?_toJson, Config.value?]
  cases c.deliverPolicy with
  | byStartSequence n =>
      have hsequence : (Json.integer n.toNat).asUnsigned64? = some n.toNat :=
        Json.asUnsigned?_eq_some_iff.mpr ⟨Nat.le_of_lt_succ n.toNat_lt, rfl⟩
      have hzero : (!decide (0 < n.toNat)) = decide (n = 0) := by
        rw [← decide_not, decide_eq_decide, Nat.not_lt, Nat.le_zero, ← UInt64.toNat_zero,
          UInt64.toNat_inj]
      simp [DeliverPolicy.wireName, Json.asString?, Config.startSequence?, hsequence, hzero,
        -Nat.not_lt_zero]
  | byStartTime t => rfl
  | _ => rfl

theorem policyRules_toJson :
    policyRules c.toJson =
      violationIf (c.deliverPolicy = .byStartSequence 0) .startSequenceMissing := by
  have hack : aboutText c.toJson "ack_policy" (fun policy =>
      violationIf (AckPolicy.ofWireName? policy).isNone (.unknownAckPolicy policy)) = [] := by
    simp [aboutText, member?_toJson, Config.value?, Json.asString?, violationIf,
      AckPolicy.ofWireName?_wireName]
  have hreplay : aboutText c.toJson "replay_policy" (fun policy =>
      violationIf (ReplayPolicy.ofWireName? policy).isNone (.unknownReplayPolicy policy)) = [] := by
    simp [aboutText, member?_toJson, Config.value?, Json.asString?, violationIf,
      ReplayPolicy.ofWireName?_wireName]
  rw [policyRules, startRule_toJson, hack, hreplay, List.append_nil, List.append_nil]

theorem modeRules_toJson :
    modeRules c.toJson =
      violationIf (decide (0 < c.rateLimit.toNat) && (Config.nonEmpty c.deliverSubject).isNone)
          .rateLimitOnPull ++
        violationIf ((Config.nonEmpty c.durableName).isNone &&
          (Config.nonEmpty c.deliverSubject).isNone) .ephemeralPull := by
  simp only [modeRules, member?_toJson, Config.value?, asString?_text, asUnsigned64?_nonZero,
    Option.not_isSome]

theorem isPercentage_toString (percent : UInt8) :
    isPercentage (toString percent.toNat) = decide (percent.toNat ≤ 100) := by
  have hbound : percent.toNat ≤ 0xffff_ffff :=
    Nat.le_trans (Nat.le_of_lt percent.toNat_lt) (by decide)
  rw [isPercentage, Sample.dropPercent_toString, unsigned?_toString hbound]
  rfl

variable {c} {v : Violation} {name : String}

private theorem mem_aboutText_toJson {text : Option String} {rule : String → List Violation}
    (hvalue : c.value? name = text.map Json.string) :
    v ∈ aboutText c.toJson name rule ↔ ∃ written, text = some written ∧ v ∈ rule written := by
  rw [mem_aboutText, member?_toJson, hvalue, asString?_text]

/-- A number is not looked at where it is zero, since it is left out of the document then. -/
private theorem mem_aboutNumber_toJson {n : Int64} {rule : Int → List Violation}
    (hvalue : c.value? name = Config.nonZero n.toInt) :
    v ∈ aboutNumber c.toJson name rule ↔ n.toInt ≠ 0 ∧ v ∈ rule n.toInt := by
  rw [mem_aboutNumber, member?_toJson, hvalue, asSigned64?_nonZero]
  by_cases hzero : n.toInt = 0
  · simp [hzero]
  · simp [hzero]

theorem value?_sampleFrequency (c : Config) :
    c.value? "sample_freq" =
      (c.sampleFrequency.map fun percent => toString percent.toNat).map Json.string := by
  rw [Option.map_map]
  rfl

/-! ### What is found is broken -/

private theorem breaks_of_mem_nameRule (h : v ∈ nameRule c.toJson) : c.Breaks v := by
  obtain ⟨name, hname, hmem⟩ := (mem_aboutText_toJson rfl).mp h
  obtain ⟨hany, rfl⟩ := mem_violationIf.mp hmem
  obtain ⟨illegal, hchar, hillegal⟩ := List.any_eq_true.mp hany
  simp only [isIllegalInName, Bool.or_eq_true, decide_eq_true_eq, or_assoc] at hillegal
  exact .name hname hchar hillegal

private theorem breaks_of_mem_subjectRules (h : v ∈ subjectRules c.toJson) : c.Breaks v := by
  rcases List.mem_append.mp h with h | h
  · obtain ⟨subject, hsubject, hmem⟩ := (mem_aboutText_toJson rfl).mp h
    cases hformed : Subject.isWellFormed subject with
    | false =>
        simp only [hformed, Bool.not_false, if_true, List.mem_singleton] at hmem
        subst hmem
        exact .deliverSubject hsubject ((Subject.isWellFormed_eq_false_iff subject).mp hformed)
    | true =>
        simp only [hformed, Bool.not_true, Bool.false_eq_true, if_false] at hmem
        obtain ⟨hwild, rfl⟩ := mem_violationIf.mp hmem
        have hwell : ¬Subject.IsMalformed subject := fun hmalformed => by
          simp [(Subject.isWellFormed_eq_false_iff subject).mpr hmalformed] at hformed
        exact .deliverWildcard hsubject hwell ((Subject.hasWildcard_iff subject).mp hwild)
  · obtain ⟨subject, hsubject, hmem⟩ := (mem_aboutText_toJson rfl).mp h
    obtain ⟨hformed, rfl⟩ := mem_violationIf.mp hmem
    rw [Bool.not_eq_true'] at hformed
    exact .filterSubject hsubject ((Subject.isWellFormed_eq_false_iff subject).mp hformed)

private theorem breaks_of_mem_policyRules (h : v ∈ policyRules c.toJson) : c.Breaks v := by
  rw [policyRules_toJson] at h
  obtain ⟨hpolicy, rfl⟩ := mem_violationIf.mp h
  exact .startSequence (of_decide_eq_true hpolicy)

private theorem breaks_of_mem_limitRules (h : v ∈ limitRules c.toJson) : c.Breaks v := by
  rcases List.mem_append.mp h with h | h
  · rcases List.mem_append.mp h with h | h
    · obtain ⟨-, hmem⟩ := (mem_aboutNumber_toJson rfl).mp h
      obtain ⟨hlimit, rfl⟩ := mem_violationIf.mp hmem
      exact .maxDeliver (of_decide_eq_true hlimit)
    · obtain ⟨-, hmem⟩ := (mem_aboutNumber_toJson rfl).mp h
      obtain ⟨hlimit, rfl⟩ := mem_violationIf.mp hmem
      exact .maxAckPending (of_decide_eq_true hlimit)
  · obtain ⟨text, htext, hmem⟩ := (mem_aboutText_toJson (value?_sampleFrequency c)).mp h
    obtain ⟨percent, hpercent, rfl⟩ := Option.map_eq_some_iff.mp htext
    obtain ⟨hshare, rfl⟩ := mem_violationIf.mp hmem
    rw [isPercentage_toString percent, Bool.not_eq_true', decide_eq_false_iff_not] at hshare
    exact .share hpercent (Nat.lt_of_not_le hshare)

private theorem breaks_of_mem_modeRules (h : v ∈ modeRules c.toJson) : c.Breaks v := by
  rw [modeRules_toJson] at h
  rcases List.mem_append.mp h with h | h
  · obtain ⟨hmode, rfl⟩ := mem_violationIf.mp h
    rw [Bool.and_eq_true, decide_eq_true_eq, Option.isNone_iff_eq_none] at hmode
    exact .rateLimit hmode.1 hmode.2
  · obtain ⟨hmode, rfl⟩ := mem_violationIf.mp h
    rw [Bool.and_eq_true, Option.isNone_iff_eq_none, Option.isNone_iff_eq_none] at hmode
    exact .ephemeral hmode.1 hmode.2

/-! ### What is broken is found -/

private theorem mem_nameRule_of_breaks (h : c.Breaks v) (hrule : v.rule = 1) :
    v ∈ nameRule c.toJson := by
  cases h with
  | @name name illegal hname hmem hillegal =>
      refine (mem_aboutText_toJson rfl).mpr ⟨name, hname, mem_violationIf.mpr ⟨?_, rfl⟩⟩
      refine List.any_eq_true.mpr ⟨illegal, hmem, ?_⟩
      simpa [isIllegalInName, or_assoc] using hillegal
  | _ => simp [rule] at hrule

private theorem mem_subjectRules_of_breaks (h : c.Breaks v) (hrule : 2 ≤ v.rule ∧ v.rule ≤ 4) :
    v ∈ subjectRules c.toJson := by
  cases h with
  | @deliverSubject subject hsubject hmalformed =>
      have hformed := (Subject.isWellFormed_eq_false_iff subject).mpr hmalformed
      refine List.mem_append_left _ ((mem_aboutText_toJson rfl).mpr ⟨subject, hsubject, ?_⟩)
      simp [hformed]
  | @deliverWildcard subject hsubject hwell hwild =>
      have hformed : Subject.isWellFormed subject = true := by
        rw [← Bool.not_eq_false, Subject.isWellFormed_eq_false_iff]
        exact hwell
      have hwildcard := (Subject.hasWildcard_iff subject).mpr hwild
      refine List.mem_append_left _ ((mem_aboutText_toJson rfl).mpr ⟨subject, hsubject, ?_⟩)
      simp [hformed, hwildcard, violationIf]
  | @filterSubject subject hsubject hmalformed =>
      have hformed := (Subject.isWellFormed_eq_false_iff subject).mpr hmalformed
      refine List.mem_append_right _ ((mem_aboutText_toJson rfl).mpr ⟨subject, hsubject, ?_⟩)
      simp [hformed, violationIf]
  | _ => simp [rule] at hrule

private theorem mem_policyRules_of_breaks (h : c.Breaks v) (hrule : v.rule = 6) :
    v ∈ policyRules c.toJson := by
  rw [policyRules_toJson]
  cases h with
  | startSequence hpolicy => exact mem_violationIf.mpr ⟨decide_eq_true hpolicy, rfl⟩
  | _ => simp [rule] at hrule

private theorem mem_limitRules_of_breaks (h : c.Breaks v) (hrule : 11 ≤ v.rule ∧ v.rule ≤ 13) :
    v ∈ limitRules c.toJson := by
  cases h with
  | maxDeliver hlimit =>
      have hne : c.maxDeliver.toInt ≠ 0 := by omega
      have hfound : .maxDeliverTooSmall ∈
          violationIf (decide (c.maxDeliver.toInt < -1)) .maxDeliverTooSmall :=
        mem_violationIf.mpr ⟨decide_eq_true hlimit, rfl⟩
      exact List.mem_append_left _
        (List.mem_append_left _ ((mem_aboutNumber_toJson rfl).mpr ⟨hne, hfound⟩))
  | maxAckPending hlimit =>
      have hne : c.maxAckPending.toInt ≠ 0 := by omega
      have hfound : .maxAckPendingNegative ∈
          violationIf (decide (c.maxAckPending.toInt < 0)) .maxAckPendingNegative :=
        mem_violationIf.mpr ⟨decide_eq_true hlimit, rfl⟩
      exact List.mem_append_left _
        (List.mem_append_right _ ((mem_aboutNumber_toJson rfl).mpr ⟨hne, hfound⟩))
  | @share percent hshare hmore =>
      have hwritten : (c.sampleFrequency.map fun percent => toString percent.toNat) =
          some (toString percent.toNat) := by
        rw [hshare]
        rfl
      have hpercentage : isPercentage (toString percent.toNat) = false := by
        rw [isPercentage_toString, decide_eq_false_iff_not]
        exact Nat.not_le_of_lt hmore
      exact List.mem_append_right _ ((mem_aboutText_toJson (value?_sampleFrequency c)).mpr
        ⟨_, hwritten, mem_violationIf.mpr ⟨congrArg not hpercentage, rfl⟩⟩)
  | _ => simp [rule] at hrule

private theorem mem_modeRules_of_breaks (h : c.Breaks v) (hrule : 14 ≤ v.rule) :
    v ∈ modeRules c.toJson := by
  rw [modeRules_toJson]
  cases h with
  | rateLimit hrate hpull =>
      exact List.mem_append_left _ (mem_violationIf.mpr ⟨by simp [hrate, hpull], rfl⟩)
  | ephemeral hname hpull =>
      exact List.mem_append_right _ (mem_violationIf.mpr ⟨by simp [hname, hpull], rfl⟩)
  | _ => simp [rule] at hrule

end Configuration

theorem mem_violations_object_iff {members : List (String × Json)} {v : Violation} :
    v ∈ violations (.object members) ↔
      v ∈ nameRule (.object members) ∨ v ∈ subjectRules (.object members) ∨
        v ∈ policyRules (.object members) ∨ v ∈ limitRules (.object members) ∨
        v ∈ modeRules (.object members) := by
  simp only [violations, List.mem_append, or_assoc]

/-- The document of a configuration is found to break exactly the rules that the configuration
breaks. -/
theorem mem_violations_toJson_iff {c : Config} {v : Violation} :
    v ∈ violations c.toJson ↔ c.Breaks v := by
  rw [Config.toJson, mem_violations_object_iff, ← Config.toJson]
  constructor
  · rintro (h | h | h | h | h)
    · exact breaks_of_mem_nameRule h
    · exact breaks_of_mem_subjectRules h
    · exact breaks_of_mem_policyRules h
    · exact breaks_of_mem_limitRules h
    · exact breaks_of_mem_modeRules h
  · intro h
    have hrule : v.rule = 1 ∨ (2 ≤ v.rule ∧ v.rule ≤ 4) ∨ v.rule = 6 ∨
        (11 ≤ v.rule ∧ v.rule ≤ 13) ∨ 14 ≤ v.rule := by
      cases h <;> simp [rule]
    exact hrule.imp (mem_nameRule_of_breaks h) <| .imp (mem_subjectRules_of_breaks h) <|
      .imp (mem_policyRules_of_breaks h) <| .imp (mem_limitRules_of_breaks h)
        (mem_modeRules_of_breaks h)

end Schema

theorem errors_validate (c : Config) :
    (validate false c).1.errors = (Schema.violations c.toJson).map Violation.message := by
  rw [validate, if_neg Bool.false_ne_true]

theorem isValid_validate (c : Config) :
    (validate false c).1.isValid = true ↔ Schema.violations c.toJson = [] := by
  rw [validate, if_neg Bool.false_ne_true]
  dsimp only
  rw [List.isEmpty_iff, List.map_eq_nil_iff]

/-- Validation finds exactly the rules that a configuration breaks: each of them once, in the order
of the rules, and none that is about documents only.  So a configuration is valid exactly if it
breaks no rule. -/
theorem violations_exact (c : Config) :
    (∀ v, v ∈ Schema.violations c.toJson ↔ c.Breaks v) ∧
      (Schema.violations c.toJson).Pairwise (fun v w => v.rule < w.rule) ∧
      (∀ v ∈ Schema.violations c.toJson, ¬v.IsForeign) ∧
      (validate false c).1.errors = (Schema.violations c.toJson).map Violation.message ∧
      ((validate false c).1.isValid = true ↔ ∀ v, ¬c.Breaks v) := by
  have hmem : ∀ v, v ∈ Schema.violations c.toJson ↔ c.Breaks v := fun v =>
    Schema.mem_violations_toJson_iff
  refine ⟨hmem, (Schema.inOrder_violations _).ascending, fun v hv => ?_, errors_validate c, ?_⟩
  · exact ((hmem v).mp hv).not_isForeign
  · rw [isValid_validate, List.eq_nil_iff_forall_not_mem]
    exact forall_congr' fun v => not_congr (hmem v)

end Consumer

end JetStream
