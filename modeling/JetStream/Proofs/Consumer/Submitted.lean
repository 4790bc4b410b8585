import JetStream.Proofs.Consumer.Accepted
import JetStream.Proofs.Consumer.Violations

/-!
# Documents that are read and submitted

A document can be validated as it stands.  What is submitted, though, is not this document but that
of the configuration it is read as: empty texts are gone, a start that the policy has no use for is
dropped, a share has lost its blanks and percent signs.  Reading a valid document never makes an
invalid configuration of it, unless its name is an empty text, which is a name to the validator and
none to the reader.

## Strategy

The rules are compared one group after the other.  What they find in the document of the
configuration they find in the one it was read from, for three reasons.

* A text or a number that the configuration has is the one in the document (`text_cases`,
  `Record.read_eq_some_iff`), so a rule about it finds the same in both (`aboutText_subset`,
  `aboutNumber_subset`).
* What the reader makes anew, the names of policies and the share, breaks no rule.
* A text that the reader leaves out was empty.  An empty target is a violation by itself; an empty
  name is not, and it is the exception.
-/

namespace JetStream.Consumer

open Json

namespace Config

/-! ## What the reader has and what the validator sees -/

section Members

variable {r : Record} {name : String}

/-- A text is what stands in the record, unless that is an empty text. -/
theorem text_cases {text : Option String} (h : r.read name none readText? = some text) :
    (r.get? name).bind asString? = text ∨
      text = none ∧ (r.get? name).bind asString? = some "" := by
  unfold Record.read at h
  cases hvalue : r.get? name with
  | none =>
      rw [hvalue] at h
      exact .inl (Option.some.inj h)
  | some value =>
      rw [hvalue] at h
      obtain ⟨written, hwritten, rfl⟩ := Option.map_eq_some_iff.mp h
      cases value with
      | null =>
          cases hwritten
          exact .inl rfl
      | string s =>
          cases hwritten
          by_cases hempty : s = ""
          · rw [hempty]
            exact .inr ⟨rfl, rfl⟩
          · exact .inl ((nonEmpty_eq_self_iff (some s)).mpr (by simpa using hempty)).symm
      | _ => cases hwritten

/-- Where there is no text, the validator sees none, or an empty one. -/
theorem blank_cases {text : Option String} (h : r.read name none readText? = some text)
    (hnone : nonEmpty text = none) :
    (r.get? name).bind asString? = none ∨ (r.get? name).bind asString? = some "" := by
  rcases text_cases h with hsame | ⟨-, hempty⟩
  · rw [hsame]
    cases text with
    | none => exact .inl rfl
    | some s =>
        have hs : s = "" := by simpa [nonEmpty, Option.filter_eq_none_iff] using hnone
        exact .inr (congrArg some hs)
  · exact .inr hempty

end Members

/-- The record holds the fields of the document, and the configuration is made of them. -/
structure IsReadOff (document : Json) (c : Config) (r : Record) (f : Fields) : Prop where
  get? : ∀ name ∈ fields, r.get? name = document.member? name
  fields : f.IsReadFrom r
  makes : f.Makes c

theorem exists_isReadOff {members : List (String × Json)} {c : Config}
    (h : ofJson (.object members) = .ok c) : ∃ r f, IsReadOff (.object members) c r f := by
  obtain ⟨f, hfields, hmakes⟩ := exists_makes_of_ofRecord h
  refine ⟨_, f, ?_, hfields, hmakes⟩
  intro name hname
  exact NameMap.get?_filter (List.elem_eq_true_of_mem hname) members

theorem toInt_ofInt_of_asSigned64? {value : Option Json} {n : Int}
    (h : value.bind asSigned64? = some n) : (Int64.ofInt n).toInt = n := by
  obtain ⟨json, -, hread⟩ := Option.bind_eq_some_iff.mp h
  obtain ⟨hrange, -⟩ := asInteger?_eq_some_iff.mp hread
  exact Int64.toInt_ofInt_of_le hrange.1 (Int.lt_add_one_of_le hrange.2)

theorem Fields.of_start_eq_byStartSequence {f : Fields} {sequence : UInt64}
    (h : f.start = .ok (.byStartSequence sequence)) :
    f.deliverPolicy = "by_start_sequence" ∧ UInt64.ofNat (f.startSequence.getD 0) = sequence := by
  unfold Fields.start at h
  split at h
  case h_6 hpolicy =>
    cases h
    exact ⟨hpolicy, rfl⟩
  case h_7 => split at h <;> cases h
  all_goals cases h

/-- A sequence to start from that comes to zero is none that the validator lets pass. -/
theorem not_pos_of_read_startSequence {r : Record} {sequence : Option Nat}
    (h : r.read "opt_start_seq" none (optional? asUnsigned64?) = some sequence)
    (hzero : UInt64.ofNat (sequence.getD 0) = 0) :
    ((r.get? "opt_start_seq").bind asUnsigned64?).any (0 < ·) = false := by
  rcases Record.read_eq_some_iff.mp h with hread | ⟨hnone, -⟩
  · obtain ⟨value, hvalue, hread⟩ := Option.bind_eq_some_iff.mp hread
    rw [hvalue, Option.bind_some]
    cases hnumber : value.asUnsigned64? with
    | none => rfl
    | some n =>
        rw [optional?_of_read rfl hnumber] at hread
        have hsequence : sequence = some n := (Option.some.inj hread).symm
        have hbound : n < 2 ^ 64 := Nat.lt_succ_of_le (asUnsigned64?_le hnumber)
        have hn : n = 0 := by
          have hnat := congrArg UInt64.toNat hzero
          rwa [hsequence, Option.getD_some, UInt64.toNat_ofNat_of_lt' hbound] at hnat
        simp [hn]
  · rw [hnone]
    rfl

end Config

namespace Schema

open Config

/-! ## The same rule on two documents -/

section Rules

variable {document other : Json} {name : String}

theorem aboutText_subset (rule : String → List Violation)
    (h : (other.member? name).bind asString? = (document.member? name).bind asString? ∨
      (other.member? name).bind asString? = none) :
    aboutText other name rule ⊆ aboutText document name rule := by
  intro v hv
  obtain ⟨text, htext, hmem⟩ := mem_aboutText.mp hv
  rcases h with hsame | hnone
  · exact mem_aboutText.mpr ⟨text, hsame ▸ htext, hmem⟩
  · rw [hnone] at htext
    cases htext

theorem aboutNumber_subset (rule : Int → List Violation)
    (h : (other.member? name).bind asSigned64? = (document.member? name).bind asSigned64? ∨
      (other.member? name).bind asSigned64? = none) :
    aboutNumber other name rule ⊆ aboutNumber document name rule := by
  intro v hv
  obtain ⟨n, hn, hmem⟩ := mem_aboutNumber.mp hv
  rcases h with hsame | hnone
  · exact mem_aboutNumber.mpr ⟨n, hsame ▸ hn, hmem⟩
  · rw [hnone] at hn
    cases hn

end Rules

/-! ## The document that was read, and the one that is submitted -/

section Submitted

variable {document : Json} {c : Config} {r : Record} {f : Config.Fields}
  (h : IsReadOff document c r f)
include h

/-- A text in the document of the configuration is the one that was read. -/
theorem text_submitted {name : String} {text : Option String} (hname : name ∈ fields)
    (hread : r.read name none readText? = some text)
    (hvalue : c.value? name = (Config.nonEmpty text).map .string) :
    (c.toJson.member? name).bind asString? = (document.member? name).bind asString? ∨
      (c.toJson.member? name).bind asString? = none := by
  have htext : Config.nonEmpty text = text :=
    (nonEmpty_eq_self_iff text).mpr (Record.forall_read (fun text => text ≠ some "")
      (Option.some_ne_none "").symm (fun _ _ => readText?_ne_some_empty) hread)
  rw [member?_toJson, hvalue, asString?_text, htext, ← h.get? name hname]
  rcases text_cases hread with hsame | ⟨hnone, -⟩
  · exact .inl hsame.symm
  · exact .inr hnone

theorem number_submitted {name : String} {n : Int} {written : Int64} (hname : name ∈ fields)
    (hread : r.read name 0 asSigned64? = some n) (hwritten : written = Int64.ofInt n)
    (hvalue : c.value? name = nonZero written.toInt) :
    (c.toJson.member? name).bind asSigned64? = (document.member? name).bind asSigned64? ∨
      (c.toJson.member? name).bind asSigned64? = none := by
  rw [member?_toJson, hvalue, asSigned64?_nonZero, ← h.get? name hname]
  rcases Record.read_eq_some_iff.mp hread with hsame | ⟨-, rfl⟩
  · rw [hwritten, toInt_ofInt_of_asSigned64? hsame, hsame]
    by_cases hzero : n = 0
    · exact .inr (if_pos hzero)
    · exact .inl (if_neg hzero)
  · rw [hwritten]
    exact .inr rfl

theorem nameRule_subset : nameRule c.toJson ⊆ nameRule document := by
  refine aboutText_subset _ (text_submitted h (by decide) h.fields.durableName ?_)
  rw [← h.makes.durableName]
  rfl

theorem subjectRules_subset : subjectRules c.toJson ⊆ subjectRules document := by
  have hdeliver := text_submitted h (by decide) h.fields.deliverSubject (by
    rw [← h.makes.deliverSubject]
    rfl)
  have hfilter := text_submitted h (by decide) h.fields.filterSubject (by
    rw [← h.makes.filterSubject]
    rfl)
  intro v hv
  rcases List.mem_append.mp hv with hv | hv
  · exact List.mem_append_left _ (aboutText_subset _ hdeliver hv)
  · exact List.mem_append_right _ (aboutText_subset _ hfilter hv)

theorem policyRules_subset : policyRules c.toJson ⊆ policyRules document := by
  intro v hv
  rw [policyRules_toJson] at hv
  obtain ⟨hpolicy, rfl⟩ := mem_violationIf.mp hv
  have hstart := h.makes.start
  rw [of_decide_eq_true hpolicy] at hstart
  obtain ⟨hname, hzero⟩ := Fields.of_start_eq_byStartSequence hstart
  have hread : (document.member? "deliver_policy").bind asString? = some "by_start_sequence" := by
    rw [← h.get? _ (by decide), ← hname]
    rcases Record.read_eq_some_iff.mp h.fields.deliverPolicy with hread | ⟨-, hdefault⟩
    · exact hread
    · rw [hname] at hdefault
      exact absurd hdefault (by decide)
  have hsequence := not_pos_of_read_startSequence h.fields.startSequence hzero
  rw [h.get? _ (by decide)] at hsequence
  have hrule : startRule document = [.startSequenceMissing] := by
    unfold startRule
    dsimp only
    rw [hread, Option.getD_some, if_neg (by decide), if_pos rfl, hsequence]
    rfl
  refine List.mem_append_left _ (List.mem_append_left _ ?_)
  rw [hrule]
  exact List.mem_singleton_self _

theorem limitRules_subset : limitRules c.toJson ⊆ limitRules document := by
  have hdeliver := number_submitted h (by decide) h.fields.maxDeliver h.makes.maxDeliver rfl
  have hpending := number_submitted h (by decide) h.fields.maxAckPending h.makes.maxAckPending rfl
  intro v hv
  rcases List.mem_append.mp hv with hv | hv
  · rcases List.mem_append.mp hv with hv | hv
    · exact List.mem_append_left _ (List.mem_append_left _ (aboutNumber_subset _ hdeliver hv))
    · exact List.mem_append_left _ (List.mem_append_right _ (aboutNumber_subset _ hpending hv))
  · -- the reader accepts no share of more than all
    obtain ⟨text, htext, hmem⟩ := mem_aboutText.mp hv
    rw [member?_toJson, value?_sampleFrequency, asString?_text] at htext
    obtain ⟨percent, hpercent, rfl⟩ := Option.map_eq_some_iff.mp htext
    have hle := Fields.le_of_sample h.makes.sample percent hpercent
    rw [isPercentage_toString, decide_eq_true hle] at hmem
    exact absurd (mem_violationIf.mp hmem).1 Bool.false_ne_true

/-- Where the configuration has no target, neither has the document, or it has an empty one. -/
theorem target_cases (hpull : Config.nonEmpty c.deliverSubject = none) :
    (document.member? "deliver_subject").bind asString? = none ∨
      .invalidDeliverSubject "" ∈ subjectRules document := by
  rw [h.makes.deliverSubject] at hpull
  have hcases := blank_cases h.fields.deliverSubject hpull
  rw [h.get? _ (by decide)] at hcases
  refine hcases.imp_right fun hempty => ?_
  exact List.mem_append_left _ (mem_aboutText.mpr ⟨"", hempty, by decide⟩)

theorem rateLimit_submitted (hrate : 0 < c.rateLimit.toNat) :
    0 < ((document.member? "rate_limit_bps").bind asUnsigned64?).getD 0 := by
  rw [← h.get? _ (by decide)]
  rw [h.makes.rateLimit] at hrate
  rcases Record.read_eq_some_iff.mp h.fields.rateLimit with hread | ⟨-, hzero⟩
  · rw [hread, Option.getD_some]
    refine Nat.pos_of_ne_zero fun hzero => ?_
    rw [hzero] at hrate
    exact absurd hrate (by decide)
  · rw [hzero] at hrate
    exact absurd hrate (by decide)

/-- What is wrong with the mode of the configuration is wrong with that of the document, unless the
document has an empty target, or an empty name. -/
theorem mode_cases {v : Violation} (hv : v ∈ modeRules c.toJson) :
    v ∈ modeRules document ∨ .invalidDeliverSubject "" ∈ subjectRules document ∨
      v = .ephemeralPull ∧ document.member? "durable_name" = some (.string "") := by
  rw [modeRules_toJson] at hv
  have hrules : modeRules document =
      violationIf (decide (0 < ((document.member? "rate_limit_bps").bind asUnsigned64?).getD 0) &&
          !((document.member? "deliver_subject").bind asString?).isSome) .rateLimitOnPull ++
        violationIf (!((document.member? "durable_name").bind asString?).isSome &&
          !((document.member? "deliver_subject").bind asString?).isSome) .ephemeralPull := rfl
  rcases List.mem_append.mp hv with hv | hv
  · obtain ⟨hmode, rfl⟩ := mem_violationIf.mp hv
    rw [Bool.and_eq_true, decide_eq_true_eq, Option.isNone_iff_eq_none] at hmode
    have hrate := rateLimit_submitted h hmode.1
    rcases target_cases h hmode.2 with hpull | hempty
    · left
      rw [hrules]
      exact List.mem_append_left _ (mem_violationIf.mpr ⟨by simp [hrate, hpull], rfl⟩)
    · exact .inr (.inl hempty)
  · obtain ⟨hmode, rfl⟩ := mem_violationIf.mp hv
    rw [Bool.and_eq_true, Option.isNone_iff_eq_none, Option.isNone_iff_eq_none,
      h.makes.durableName] at hmode
    have hname := blank_cases h.fields.durableName hmode.1
    rw [h.get? _ (by decide)] at hname
    rcases target_cases h hmode.2 with hpull | hempty
    · rcases hname with hnone | hblank
      · left
        rw [hrules]
        exact List.mem_append_right _ (mem_violationIf.mpr ⟨by simp [hnone, hpull], rfl⟩)
      · obtain ⟨value, hvalue, htext⟩ := Option.bind_eq_some_iff.mp hblank
        refine .inr (.inr ⟨rfl, ?_⟩)
        cases value with
        | string s =>
            cases htext
            exact hvalue
        | _ => cases htext
    · exact .inr (.inl hempty)

end Submitted

end Schema

/-! ## Valid documents -/

/-- What is found in the configuration of a valid document is at most that nobody could pull from
it, and that only where the document has an empty name. -/
theorem of_mem_violations_of_valid {document : Json} {c : Config}
    (hread : Config.ofJson document = .ok c) (hvalid : Schema.violations document = [])
    {v : Violation} (hv : v ∈ Schema.violations c.toJson) :
    v = .ephemeralPull ∧ document.member? "durable_name" = some (.string "") := by
  cases document with
  | object members =>
      obtain ⟨r, f, h⟩ := Config.exists_isReadOff hread
      have hnone : ∀ w, w ∉ Schema.violations (.object members) :=
        List.eq_nil_iff_forall_not_mem.mp hvalid
      simp only [Schema.mem_violations_object_iff, not_or] at hnone
      rw [Config.toJson, Schema.mem_violations_object_iff, ← Config.toJson] at hv
      rcases hv with hv | hv | hv | hv | hv
      · exact absurd (Schema.nameRule_subset h hv) (hnone v).1
      · exact absurd (Schema.subjectRules_subset h hv) (hnone v).2.1
      · exact absurd (Schema.policyRules_subset h hv) (hnone v).2.2.1
      · exact absurd (Schema.limitRules_subset h hv) (hnone v).2.2.2.1
      · rcases Schema.mode_cases h hv with hmode | hempty | hname
        · exact absurd hmode (hnone v).2.2.2.2
        · exact absurd hempty (hnone _).2.1
        · exact hname
  | _ => cases hvalid

/-- A document in which nothing is found, and of which the name is not an empty text, is read as a
configuration in which nothing is found. -/
theorem violations_eq_nil_of_read {document : Json} {c : Config}
    (hread : Config.ofJson document = .ok c)
    (hname : document.member? "durable_name" ≠ some (.string ""))
    (hvalid : Schema.violations document = []) : Schema.violations c.toJson = [] := by
  refine List.eq_nil_iff_forall_not_mem.mpr fun v hv => ?_
  exact hname (of_mem_violations_of_valid hread hvalid hv).2

/-- A policy as an object, a target of null, percent signs, a start, and a member that is no field:
written quite differently afterwards, and still valid. -/
theorem violations_eq_nil_of_read_share :
    let document : Json := .object
      [("ack_policy", .object [("all", .null)]), ("deliver_policy", .string "by_start_sequence"),
       ("deliver_subject", .null), ("durable_name", .string "jobs"), ("max_deliver", .integer (-1)),
       ("opt_start_seq", .integer 7), ("other", .array [.null]), ("sample_freq", .string "050%%")]
    let c : Config :=
      { durableName := some "jobs", deliverPolicy := .byStartSequence 7, ackPolicy := .all
        maxDeliver := -1, sampleFrequency := some 50 }
    Config.ofJson document = .ok c ∧ document.member? "durable_name" ≠ some (.string "") ∧
      Schema.violations document = [] ∧ Schema.violations c.toJson = [] := by
  intro document c
  have hread : Config.ofJson document = .ok c := Config.eq_ok_of_toOption (by decide +kernel)
  have hname : document.member? "durable_name" ≠ some (.string "") := by
    intro hblank
    have hjobs : "jobs" = "" := Json.string.inj (Option.some.inj hblank)
    exact absurd hjobs (by decide)
  have hvalid : Schema.violations document = [] := by decide +kernel
  exact ⟨hread, hname, hvalid, violations_eq_nil_of_read hread hname hvalid⟩

/-- An empty name passes as a name, and the configuration has none. -/
example :
    Schema.violations (.object [("durable_name", .string "")]) = [] ∧
      (Config.ofJson (.object [("durable_name", .string "")])).toOption.map
        (fun c => Schema.violations c.toJson) = some [.ephemeralPull] := by
  decide +kernel

end JetStream.Consumer
