import JetStream.Proofs.Consumer.Resolution

/-!
# Resolved configurations

The parts of a configuration depend on each other: whoever pulls acknowledges each message, and
without acknowledgements there is no limit on deliveries.  Every configuration that flags and
answers come to keeps these rules, whatever was answered.

## Strategy

A rule about one part is a lemma about the reader of that part: which names `checkName` lets pass,
which shares `readSample` gives, which places `readStart` names.  The rules between parts are read
off a `Resolution`, where only the mode and the acknowledgement policy have to be told apart.
-/

namespace JetStream.Consumer

open Resolve

/-- What holds for a configuration made of flags and answers. -/
structure Config.IsResolved (ephemeral : Bool) (c : Config) : Prop where
  unnamed_iff : c.durableName = none ↔ ephemeral = true
  name_legal : ∀ name, c.durableName = some name →
    name ≠ "" ∧ '.' ∉ name.toList ∧ '*' ∉ name.toList ∧ '>' ∉ name.toList
  /-- Nobody could pull from a consumer without a name. -/
  push_of_unnamed : c.durableName = none → c.isPush = true
  explicit_of_pull : c.isPull = true → c.ackPolicy = .explicit
  unrated_of_pull : c.isPull = true → c.rateLimit = 0
  unlimited_of_unacknowledged : c.ackPolicy = .none → c.maxDeliver = -1
  /-- On the command line -1 stands for no limit, in a configuration it is 0. -/
  maxAckPending_ne : c.maxAckPending ≠ -1
  sample_bounds : ∀ percent, c.sampleFrequency = some percent → 1 ≤ percent ∧ percent ≤ 100
  durableName_ne : c.durableName ≠ some ""
  deliverSubject_ne : c.deliverSubject ≠ some ""
  filterSubject_ne : c.filterSubject ≠ some ""
  deliverPolicy_ne : c.deliverPolicy ≠ .lastPerSubject

/-! ## The readers -/

theorem any_isIllegalInName_iff {cs : List Char} :
    cs.any isIllegalInName = true ↔ '.' ∈ cs ∨ '*' ∈ cs ∨ '>' ∈ cs := by
  simp only [List.any_eq_true, isIllegalInName, Bool.or_eq_true, decide_eq_true_eq]
  constructor
  · rintro ⟨c, hc, (rfl | rfl) | rfl⟩
    · exact .inl hc
    · exact .inr (.inl hc)
    · exact .inr (.inr hc)
  · rintro (hc | hc | hc)
    · exact ⟨_, hc, .inl (.inl rfl)⟩
    · exact ⟨_, hc, .inl (.inr rfl)⟩
    · exact ⟨_, hc, .inr rfl⟩

theorem legal_of_checkName {name : String} (h : checkName name = .ok ()) :
    '.' ∉ name.toList ∧ '*' ∉ name.toList ∧ '>' ∉ name.toList := by
  unfold checkName at h
  split at h
  next => cases h
  next hlegal =>
    rw [any_isIllegalInName_iff] at hlegal
    exact ⟨fun hc => hlegal (.inl hc), fun hc => hlegal (.inr (.inl hc)),
      fun hc => hlegal (.inr (.inr hc))⟩

theorem bounds_of_readSample {percent : Int64} {share : UInt8}
    (h : readSample percent = .ok (some share)) : 1 ≤ share ∧ share ≤ 100 := by
  unfold readSample at h
  split at h
  next hbounds =>
    split at h
    next => cases h
    next hzero =>
      cases h
      have hpositive : percent.toInt ≠ 0 := by
        intro hpercent
        exact hzero (Int64.toInt.inj hpercent)
      have hnat : (UInt8.ofNat percent.toInt.toNat).toNat = percent.toInt.toNat :=
        UInt8.toNat_ofNat_of_lt' (show percent.toInt.toNat < 256 by omega)
      rw [UInt8.le_iff_toNat_le, UInt8.le_iff_toNat_le, hnat]
      show 1 ≤ percent.toInt.toNat ∧ percent.toInt.toNat ≤ 100
      omega
  next => cases h

theorem bounds_of_readGiven_readSample {percent : Option Int64} {share : UInt8}
    (h : readGiven percent none readSample = .ok (some share)) : 1 ≤ share ∧ share ≤ 100 := by
  cases percent with
  | none => cases h
  | some percent => exact bounds_of_readSample h

theorem ofKeyword?_ne_lastPerSubject (token : String) :
    Start.ofKeyword? token ≠ some .lastPerSubject := by
  intro h
  unfold Start.ofKeyword? at h
  split at h <;> cases h

theorem ofSequence_ne_lastPerSubject (token : String) :
    Start.ofSequence token ≠ .ok .lastPerSubject := by
  intro h
  unfold Start.ofSequence at h
  split at h <;> cases h

theorem ofDelta_ne_lastPerSubject (now : Instant) (token : String) :
    Start.ofDelta now token ≠ .ok .lastPerSubject := by
  intro h
  unfold Start.ofDelta at h
  split at h
  next => cases h
  next =>
    split at h
    next => cases h
    next => split at h <;> cases h

/-- No token stands for the last message of each subject. -/
theorem readStart_ne_lastPerSubject (token : String) (now : Instant) :
    readStart token now ≠ .ok .lastPerSubject := by
  intro h
  have hparse : Start.parse token now = .ok .lastPerSubject := by
    unfold readStart at h
    cases hparse : Start.parse token now with
    | error fault =>
        rw [hparse] at h
        cases h
    | ok policy =>
        rw [hparse] at h
        cases h
        rfl
  unfold Start.parse at hparse
  dsimp only at hparse
  split at hparse
  next hkeyword =>
    cases hparse
    exact ofKeyword?_ne_lastPerSubject _ hkeyword
  next =>
    split at hparse
    next => exact ofSequence_ne_lastPerSubject _ hparse
    next => exact ofDelta_ne_lastPerSubject _ _ hparse

theorem readAckPolicy_explicit : readAckPolicy "explicit" = .ok .explicit := by
  rfl

/-! ## The parts of a resolution -/

section Parts

variable {prompter : Prompter} {now : Instant} {flags : Flags} {t t' : Transcript}

theorem Resolution.name_eq_none_iff (r : Resolution prompter now flags t t') :
    r.name = none ↔ flags.ephemeral = true := by
  rcases of_gives_resolveName r.name_given with ⟨hephemeral, hnone, -⟩ | ⟨hnamed, s, hs, -⟩
  · simp [hephemeral, hnone]
  · simp [hnamed, hs]

theorem Resolution.name_legal (r : Resolution prompter now flags t t') {name : String}
    (h : r.name = some name) :
    name ≠ "" ∧ '.' ∉ name.toList ∧ '*' ∉ name.toList ∧ '>' ∉ name.toList := by
  rcases of_gives_resolveName r.name_given with ⟨-, hnone, -⟩ | ⟨-, s, hs, hchecked, hresolved⟩
  · rw [hnone] at h
    cases h
  · rw [hs] at h
    cases h
    exact ⟨ne_empty_of_gives_resolve hresolved (given_ne_empty _) rfl,
      legal_of_checkName hchecked⟩

theorem Resolution.delivery_ne_empty (r : Resolution prompter now flags t t') :
    r.delivery ≠ some "" := by
  obtain ⟨subject, hdelivery, -⟩ := of_gives_resolveDelivery r.delivery_given
  rw [hdelivery]
  exact given_ne_empty _

theorem Resolution.delivery_of_unnamed (r : Resolution prompter now flags t t')
    (h : r.name = none) : r.delivery.isSome = true := by
  obtain ⟨subject, hdelivery, hpushed, -⟩ := of_gives_resolveDelivery r.delivery_given
  have hsubject : subject ≠ "" := hpushed (r.name_eq_none_iff.mp h)
  rw [hdelivery, given_eq_some_iff.mpr ⟨rfl, hsubject⟩]
  rfl

/-- Without a subject to push to, the policy is not a matter of flags or answers. -/
theorem Resolution.ack_of_pull (r : Resolution prompter now flags t t')
    (h : r.delivery.isNone = true) : r.ack = .explicit := by
  have htoken : r.ackToken = "explicit" := by
    rcases of_gives_resolve r.ack_given with ⟨hflag, -⟩ | ⟨hflag, -⟩
    · rw [if_pos h] at hflag
      exact (Option.some.inj hflag).symm
    · rw [if_pos h] at hflag
      cases hflag
  have hread := r.ack_read
  rw [htoken, readAckPolicy_explicit] at hread
  exact (Except.ok.inj hread).symm

theorem Resolution.rate_of_pull (r : Resolution prompter now flags t t')
    (h : r.delivery.isNone = true) : flags.rateLimit.getD 0 = 0 := by
  have hrate := r.rate_pushed
  simp only [h, Bool.and_true, decide_eq_false_iff_not] at hrate
  rw [UInt64.lt_iff_toNat_lt] at hrate
  exact UInt64.toNat.inj (Nat.eq_zero_of_not_pos hrate)

theorem Resolution.config_isResolved (r : Resolution prompter now flags t t') :
    r.config.IsResolved flags.ephemeral where
  unnamed_iff := r.name_eq_none_iff
  name_legal name hname := r.name_legal hname
  push_of_unnamed := r.delivery_of_unnamed
  explicit_of_pull := r.ack_of_pull
  unrated_of_pull := r.rate_of_pull
  unlimited_of_unacknowledged hack := by
    show (if r.ack != .none then r.maxDeliver else -1) = -1
    have hack : r.ack = .none := hack
    rw [hack]
    rfl
  maxAckPending_ne := by
    show (if r.maxAckPending = -1 then 0 else r.maxAckPending) ≠ -1
    split
    next => decide
    next hlimit => exact hlimit
  sample_bounds share hshare := by
    have hread := r.sample_read
    rw [show r.sample = some share from hshare] at hread
    exact bounds_of_readGiven_readSample hread
  durableName_ne hname := (r.name_legal hname).1 rfl
  deliverSubject_ne := r.delivery_ne_empty
  filterSubject_ne := given_ne_empty (some r.filter)
  deliverPolicy_ne hpolicy := by
    have hread := r.start_read
    rw [show r.start = .lastPerSubject from hpolicy] at hread
    exact readStart_ne_lastPerSubject _ _ hread

end Parts

/-! ## Every configuration -/

/-- A configuration that flags and answers come to keeps the rules, whatever was answered. -/
theorem isResolved_of_build {circumstances : Circumstances} {prompter : Prompter} {flags : Flags}
    {c : Config} (hfile : flags.configFile = none)
    (h : (build circumstances prompter flags).outcome.1 = .ok c) :
    c.IsResolved flags.ephemeral := by
  obtain ⟨r, rfl⟩ := exists_resolution_of_build hfile h
  exact r.config_isResolved

/-- Nothing is acknowledged by the answer to a question, so a limit of five deliveries is none. -/
theorem isResolved_of_build_unacknowledged :
    Config.IsResolved false
      { durableName := some "none"
        deliverSubject := some "out"
        ackPolicy := .none
        maxDeliver := -1 } := by
  have hbuilt : (build { now := default }
      { ask := fun _ question => .ok (if question = .deliverySubject then " out" else " none ")
        choose := Prompter.refuseChoice }
      { startPolicy := some "ALL"
        replayPolicy := some "instant"
        filterSubject := some ""
        maxDeliver := some 5 }).outcome.1 =
      .ok
        { durableName := some "none"
          deliverSubject := some "out"
          ackPolicy := .none
          maxDeliver := -1 } := rfl
  exact isResolved_of_build (by rfl) hbuilt

end JetStream.Consumer
