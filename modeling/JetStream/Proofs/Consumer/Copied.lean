import JetStream.Consumer.Copy
import JetStream.Proofs.Consumer.Resolved
import JetStream.Proofs.Error.Context
import Mathlib.Logic.ExistsUnique

/-!
# Copies

A copy differs from its source only in what was asked for.  Thirteen options govern eleven fields,
and each has its own way to say nothing: to be missing, empty, zero or -1.  What the fields mean to
each other is left alone, but for the two rules about the mode, which a copy can also break by what
it takes from its source.

## Strategy

`Obeys` is what options do to a field: where they say something the field is that, and otherwise it
is the field of the source.  `Config.IsCopy` says so of all fields, with what each option says
written out.  Whether a token means anything at all is a matter of `Flags.AreLegible` alone, so
there is exactly one copy whatever the options are, and a reader that succeeds gives the field of
that copy (`readGiven_eq_ok_iff`).
-/

namespace JetStream.Consumer

/-! ## What options say -/

section Obeys

variable {α β : Type} {Told : α → Prop} {means : β → α → Prop} {option : Option β}
  {before after : α}

/-- An option that is given says what it means. -/
def Says (option : Option β) (means : β → α → Prop) (value : α) : Prop :=
  ∃ given, option = some given ∧ means given value

/-- What options say about a field holds of it; if they say nothing, it is as it was. -/
inductive Obeys (Told : α → Prop) (before after : α) : Prop
  | said (hsaid : Told after)
  | kept (hsilent : ∀ value, ¬Told value) (hkept : after = before)

theorem Says.unique {value value' : α}
    (hmeans : ∀ {given value value'}, means given value → means given value' → value = value')
    (h : Says option means value) (h' : Says option means value') : value = value' := by
  obtain ⟨given, hgiven, hvalue⟩ := h
  obtain ⟨given', hgiven', hvalue'⟩ := h'
  cases hgiven.symm.trans hgiven'
  exact hmeans hvalue hvalue'

theorem Obeys.unique {other : α} (h : Obeys Told before after) (h' : Obeys Told before other)
    (htold : ∀ {value value'}, Told value → Told value' → value = value') : after = other := by
  cases h with
  | said hsaid =>
      cases h' with
      | said hsaid' => exact htold hsaid hsaid'
      | kept hsilent hkept => exact absurd hsaid (hsilent after)
  | kept hsilent hkept =>
      cases h' with
      | said hsaid' => exact absurd hsaid' (hsilent other)
      | kept hsilent' hkept' => exact hkept.trans hkept'.symm

theorem Obeys.exists (Told : α → Prop) (before : α) : ∃ after, Obeys Told before after := by
  by_cases hsaid : ∃ value, Told value
  · obtain ⟨value, hvalue⟩ := hsaid
    exact ⟨value, .said hvalue⟩
  · exact ⟨before, .kept (not_exists.mp hsaid) rfl⟩

/-- A token is read as the field of the copy, unless it means nothing. -/
theorem readGiven_eq_ok_iff {read : β → Except Error α}
    (hread : ∀ given value, read given = .ok value ↔ means given value) :
    readGiven option before read = .ok after ↔
      (∀ given, option = some given → ∃ value, means given value) ∧
        Obeys (Says option means) before after := by
  cases option with
  | none =>
      constructor
      · rintro ⟨⟩
        exact ⟨nofun, .kept (fun _ ⟨_, hgiven, _⟩ => nomatch hgiven) rfl⟩
      · rintro ⟨-, ⟨_, ⟨⟩, -⟩ | ⟨-, hkept⟩⟩
        exact congrArg Except.ok hkept.symm
  | some given =>
      have hgiven : readGiven (some given) before read = .ok after ↔ means given after :=
        hread given after
      rw [hgiven]
      constructor
      · intro hmeans
        refine ⟨?_, .said ⟨given, rfl, hmeans⟩⟩
        rintro other ⟨⟩
        exact ⟨after, hmeans⟩
      · rintro ⟨hlegible, ⟨_, ⟨⟩, hmeans⟩ | ⟨hsilent, -⟩⟩
        · exact hmeans
        · obtain ⟨value, hmeans⟩ := hlegible given rfl
          exact absurd ⟨given, rfl, hmeans⟩ (hsilent value)

/-- A value says something only if it counts. -/
theorem eq_getD_iff {Counts : α → Prop} {counts : α → Bool} {option : Option α}
    (hcounts : ∀ n, counts n = true ↔ Counts n) :
    after = (option.filter counts).getD before ↔
      Obeys (Says option fun n value => Counts n ∧ value = n) before after := by
  have hsaid (n : α) :
      Says option (fun n value => Counts n ∧ value = n) n ↔ option.filter counts = some n := by
    rw [Option.filter_eq_some_iff, hcounts]
    constructor
    · rintro ⟨_, hgiven, hcounted, rfl⟩
      exact ⟨hgiven, hcounted⟩
    · rintro ⟨hgiven, hcounted⟩
      exact ⟨n, hgiven, hcounted, rfl⟩
  cases hfilter : option.filter counts with
  | none =>
      rw [hfilter] at hsaid
      constructor
      · exact .kept fun n hn => nomatch (hsaid n).mp hn
      · rintro (hn | ⟨-, hkept⟩)
        · exact nomatch (hsaid after).mp hn
        · exact hkept
  | some n =>
      rw [hfilter] at hsaid
      constructor
      · intro hafter
        exact .said ((hsaid after).mpr (congrArg some hafter.symm))
      · rintro (hn | ⟨hsilent, -⟩)
        · exact (Option.some.inj ((hsaid after).mp hn)).symm
        · exact absurd ((hsaid n).mpr rfl) (hsilent n)

end Obeys

/-! ## Which options govern which fields -/

/-- Where the options push messages to.  To pull goes before all subjects. -/
inductive Flags.SaysDelivery (flags : Flags) : Option String → Prop
  | pull (hpull : flags.pull = true) : flags.SaysDelivery none
  | push {subject : String} (hpush : flags.pull = false)
      (hgiven : flags.deliverSubject = some subject) (hne : subject ≠ "") :
      flags.SaysDelivery (some subject)

/-- What the options have acknowledged.  Whoever pulls acknowledges each message. -/
inductive Flags.SaysAck (flags : Flags) : AckPolicy → Prop
  | pull (hpull : flags.pull = true) : flags.SaysAck .explicit
  | push {token : String} {policy : AckPolicy} (hpush : flags.pull = false)
      (hgiven : flags.ackPolicy = some token) (hpolicy : AckPolicy.ofToken? token = some policy) :
      flags.SaysAck policy

/-- The share that a percentage stands for; none of all means that nothing is sampled. -/
def SharesOut (percent : Int64) (share : Option UInt8) : Prop :=
  (0 ≤ percent.toInt ∧ percent.toInt ≤ 100) ∧
    share = if percent = 0 then none else some (UInt8.ofNat percent.toInt.toNat)

/-- The configuration has the name that was asked for, and every other field is what the options
that govern it say, or the field of the source. -/
structure Config.IsCopy (c : Config) (now : Instant) (flags : Flags) (source : Config)
    (destination : String) : Prop where
  durableName :
    c.durableName = if flags.ephemeral = true ∨ destination = "" then none else some destination
  deliverSubject : Obeys flags.SaysDelivery source.deliverSubject c.deliverSubject
  filterSubject :
    Obeys
      (Says flags.filterSubject fun text filter => filter = if text = "" then none else some text)
      source.filterSubject c.filterSubject
  deliverPolicy :
    Obeys (Says flags.startPolicy fun token policy => Start.parse token now = .ok policy)
      source.deliverPolicy c.deliverPolicy
  ackPolicy : Obeys flags.SaysAck source.ackPolicy c.ackPolicy
  ackWait :
    Obeys (Says flags.ackWait fun given wait => given ≠ .zero ∧ wait = given)
      source.ackWait c.ackWait
  replayPolicy :
    Obeys (Says flags.replayPolicy fun token policy => ReplayPolicy.ofToken? token = some policy)
      source.replayPolicy c.replayPolicy
  maxDeliver :
    Obeys (Says flags.maxDeliver fun given limit => given ≠ 0 ∧ limit = given)
      source.maxDeliver c.maxDeliver
  maxAckPending :
    Obeys (Says flags.maxAckPending fun given limit => given ≠ -1 ∧ limit = given)
      source.maxAckPending c.maxAckPending
  rateLimit :
    Obeys (Says flags.rateLimit fun given rate => 0 < given ∧ rate = given)
      source.rateLimit c.rateLimit
  sampleFrequency :
    Obeys (Says flags.samplePercent SharesOut) source.sampleFrequency c.sampleFrequency

/-- Every token that counts means something, and the destination can be a name. -/
structure Flags.AreLegible (now : Instant) (flags : Flags) (destination : String) : Prop where
  sample : ∀ percent, flags.samplePercent = some percent →
    0 ≤ percent.toInt ∧ percent.toInt ≤ 100
  start : ∀ token, flags.startPolicy = some token → ∃ policy, Start.parse token now = .ok policy
  replay : ∀ token, flags.replayPolicy = some token →
    ∃ policy, ReplayPolicy.ofToken? token = some policy
  ack : flags.pull = false → ∀ token, flags.ackPolicy = some token →
    ∃ policy, AckPolicy.ofToken? token = some policy
  destination : flags.ephemeral = false → destination ≠ "" →
    '.' ∉ destination.toList ∧ '*' ∉ destination.toList ∧ '>' ∉ destination.toList

variable {now : Instant} {flags : Flags} {source c : Config} {destination : String}

/-! ## There is one copy -/

theorem exists_isCopy (now : Instant) (flags : Flags) (source : Config) (destination : String) :
    ∃ c : Config, c.IsCopy now flags source destination := by
  obtain ⟨delivery, hdelivery⟩ := Obeys.exists flags.SaysDelivery source.deliverSubject
  obtain ⟨filter, hfilter⟩ := Obeys.exists _ source.filterSubject
  obtain ⟨start, hstart⟩ := Obeys.exists _ source.deliverPolicy
  obtain ⟨ack, hack⟩ := Obeys.exists flags.SaysAck source.ackPolicy
  obtain ⟨wait, hwait⟩ := Obeys.exists _ source.ackWait
  obtain ⟨replay, hreplay⟩ := Obeys.exists _ source.replayPolicy
  obtain ⟨maxDeliver, hmaxDeliver⟩ := Obeys.exists _ source.maxDeliver
  obtain ⟨maxAckPending, hmaxAckPending⟩ := Obeys.exists _ source.maxAckPending
  obtain ⟨rate, hrate⟩ := Obeys.exists _ source.rateLimit
  obtain ⟨sample, hsample⟩ := Obeys.exists _ source.sampleFrequency
  exact ⟨⟨_, delivery, filter, start, ack, wait, replay, maxDeliver, maxAckPending, rate, sample⟩,
    rfl, hdelivery, hfilter, hstart, hack, hwait, hreplay, hmaxDeliver, hmaxAckPending, hrate,
    hsample⟩

theorem Flags.SaysDelivery.unique {subject subject' : Option String}
    (h : flags.SaysDelivery subject) (h' : flags.SaysDelivery subject') : subject = subject' := by
  cases h with
  | pull hpull =>
      cases h' with
      | pull _ => rfl
      | push hpush _ _ => exact nomatch hpull.symm.trans hpush
  | push hpush hgiven _ =>
      cases h' with
      | pull hpull => exact nomatch hpull.symm.trans hpush
      | push _ hgiven' _ => exact hgiven.symm.trans hgiven'

theorem Flags.SaysAck.unique {policy policy' : AckPolicy} (h : flags.SaysAck policy)
    (h' : flags.SaysAck policy') : policy = policy' := by
  cases h with
  | pull hpull =>
      cases h' with
      | pull _ => rfl
      | push hpush _ _ => exact nomatch hpull.symm.trans hpush
  | push hpush hgiven hpolicy =>
      cases h' with
      | pull hpull => exact nomatch hpull.symm.trans hpush
      | push _ hgiven' hpolicy' =>
          cases hgiven.symm.trans hgiven'
          exact Option.some.inj (hpolicy.symm.trans hpolicy')

theorem Config.IsCopy.unique {c' : Config} (h : c.IsCopy now flags source destination)
    (h' : c'.IsCopy now flags source destination) : c = c' := by
  have hname := h.durableName.trans h'.durableName.symm
  have hdelivery := h.deliverSubject.unique h'.deliverSubject Flags.SaysDelivery.unique
  have hfilter := h.filterSubject.unique h'.filterSubject
    (Says.unique fun hvalue hvalue' => hvalue.trans hvalue'.symm)
  have hstart := h.deliverPolicy.unique h'.deliverPolicy
    (Says.unique fun hvalue hvalue' => Except.ok.inj (hvalue.symm.trans hvalue'))
  have hack := h.ackPolicy.unique h'.ackPolicy Flags.SaysAck.unique
  have hwait := h.ackWait.unique h'.ackWait
    (Says.unique fun hvalue hvalue' => hvalue.2.trans hvalue'.2.symm)
  have hreplay := h.replayPolicy.unique h'.replayPolicy
    (Says.unique fun hvalue hvalue' => Option.some.inj (hvalue.symm.trans hvalue'))
  have hmaxDeliver := h.maxDeliver.unique h'.maxDeliver
    (Says.unique fun hvalue hvalue' => hvalue.2.trans hvalue'.2.symm)
  have hmaxAckPending := h.maxAckPending.unique h'.maxAckPending
    (Says.unique fun hvalue hvalue' => hvalue.2.trans hvalue'.2.symm)
  have hrate := h.rateLimit.unique h'.rateLimit
    (Says.unique fun hvalue hvalue' => hvalue.2.trans hvalue'.2.symm)
  have hsample := h.sampleFrequency.unique h'.sampleFrequency
    (Says.unique fun hvalue hvalue' => hvalue.2.trans hvalue'.2.symm)
  cases c
  cases c'
  rw [Config.mk.injEq]
  exact ⟨hname, hdelivery, hfilter, hstart, hack, hwait, hreplay, hmaxDeliver, hmaxAckPending,
    hrate, hsample⟩

/-! ## The readers -/

theorem readSample_eq_ok_iff (percent : Int64) (share : Option UInt8) :
    readSample percent = .ok share ↔ SharesOut percent share := by
  unfold readSample SharesOut
  split
  next hbounds =>
    constructor
    · rintro ⟨⟩
      exact ⟨hbounds, rfl⟩
    · rintro ⟨-, hshare⟩
      exact congrArg Except.ok hshare.symm
  next hbounds => exact ⟨nofun, fun hshare => absurd hshare.1 hbounds⟩

theorem readStart_eq_ok_iff (now : Instant) (token : String) (policy : DeliverPolicy) :
    readStart token now = .ok policy ↔ Start.parse token now = .ok policy := by
  unfold readStart
  cases Start.parse token now with
  | error fault => exact ⟨nofun, nofun⟩
  | ok start =>
      constructor
      · rintro ⟨⟩
        rfl
      · rintro ⟨⟩
        rfl

theorem not_isZero_iff (d : Duration) : (!d.isZero) = true ↔ d ≠ .zero := by
  rw [Bool.not_eq_true', Duration.isZero, beq_eq_false_iff_ne, Ne, Ne]
  refine not_congr ⟨fun hnone => ?_, fun hzero => congrArg Duration.nanoseconds hzero⟩
  cases d
  exact congrArg Duration.mk hnone

theorem readAckPolicy_eq_ok_iff (token : String) (policy : AckPolicy) :
    readAckPolicy token = .ok policy ↔ AckPolicy.ofToken? token = some policy := by
  unfold readAckPolicy
  cases AckPolicy.ofToken? token with
  | none => exact ⟨nofun, nofun⟩
  | some ack => simp

theorem readReplayPolicy_eq_ok_iff (token : String) (policy : ReplayPolicy) :
    readReplayPolicy token = .ok policy ↔ ReplayPolicy.ofToken? token = some policy := by
  unfold readReplayPolicy
  cases ReplayPolicy.ofToken? token with
  | none => exact ⟨nofun, nofun⟩
  | some replay => simp

theorem checkName_eq_ok_iff (name : String) :
    checkName name = .ok () ↔ '.' ∉ name.toList ∧ '*' ∉ name.toList ∧ '>' ∉ name.toList := by
  refine ⟨legal_of_checkName, fun hlegal => ?_⟩
  unfold checkName
  rw [if_neg]
  rw [any_isIllegalInName_iff]
  rintro (hpoint | hstar | hrest)
  · exact hlegal.1 hpoint
  · exact hlegal.2.1 hstar
  · exact hlegal.2.2 hrest

theorem copyName_eq_ok_iff (flags : Flags) (destination : String) (name : Option String) :
    copyName flags destination = .ok name ↔
      (flags.ephemeral = false → destination ≠ "" →
        '.' ∉ destination.toList ∧ '*' ∉ destination.toList ∧ '>' ∉ destination.toList) ∧
      name = if flags.ephemeral = true ∨ destination = "" then none else some destination := by
  have hunnamed : (flags.ephemeral || destination.isEmpty) = true ↔
      flags.ephemeral = true ∨ destination = "" := by
    rw [Bool.or_eq_true, String.isEmpty_iff]
  unfold copyName
  split
  next hcond =>
    rw [hunnamed] at hcond
    rw [if_pos hcond]
    constructor
    · rintro ⟨⟩
      refine ⟨fun hnamed hne => ?_, rfl⟩
      rcases hcond with hephemeral | hempty
      · exact nomatch hephemeral.symm.trans hnamed
      · exact absurd hempty hne
    · rintro ⟨-, rfl⟩
      rfl
  next hcond =>
    rw [hunnamed] at hcond
    rw [if_neg hcond]
    obtain ⟨hephemeral, hne⟩ := not_or.mp hcond
    rw [bind_eq_ok_iff]
    constructor
    · rintro ⟨⟨⟩, hchecked, ⟨⟩⟩
      exact ⟨fun _ _ => (checkName_eq_ok_iff destination).mp hchecked, rfl⟩
    · rintro ⟨hlegal, rfl⟩
      have hlegal := hlegal (eq_false_of_ne_true hephemeral) hne
      exact ⟨(), (checkName_eq_ok_iff destination).mpr hlegal, rfl⟩

/-! ## Fields with two options -/

theorem eq_copyDelivery_iff {delivery : Option String} :
    delivery = copyDelivery flags source ↔
      Obeys flags.SaysDelivery source.deliverSubject delivery := by
  suffices hobeys : Obeys flags.SaysDelivery source.deliverSubject (copyDelivery flags source) by
    constructor
    · intro hdelivery
      exact hdelivery ▸ hobeys
    · intro hdelivery
      exact hdelivery.unique hobeys Flags.SaysDelivery.unique
  unfold copyDelivery
  cases hpull : flags.pull with
  | true => exact .said (.pull hpull)
  | false =>
      cases hgiven : given flags.deliverSubject with
      | some subject =>
          obtain ⟨hsubject, hne⟩ := given_eq_some_iff.mp hgiven
          exact .said (.push hpull hsubject hne)
      | none =>
          refine .kept (fun delivery hsaid => ?_) rfl
          cases hsaid with
          | pull htrue => exact nomatch hpull.symm.trans htrue
          | push _ hsubject hne =>
              exact nomatch hgiven.symm.trans (given_eq_some_iff.mpr ⟨hsubject, hne⟩)

/-- The token that is read is the one that counts. -/
theorem readAck_eq_ok_iff {ack : AckPolicy} :
    readGiven (if flags.pull then some "explicit" else flags.ackPolicy) source.ackPolicy
        readAckPolicy = .ok ack ↔
      (flags.pull = false → ∀ token, flags.ackPolicy = some token →
          ∃ policy, AckPolicy.ofToken? token = some policy) ∧
        Obeys flags.SaysAck source.ackPolicy ack := by
  cases hpull : flags.pull with
  | true =>
      constructor
      · rintro ⟨⟩
        exact ⟨nofun, .said (.pull hpull)⟩
      · rintro ⟨-, hobeys⟩
        have hexplicit : Obeys flags.SaysAck source.ackPolicy .explicit := .said (.pull hpull)
        rw [hobeys.unique hexplicit Flags.SaysAck.unique]
        exact readAckPolicy_explicit
  | false =>
      have htold : flags.SaysAck =
          Says flags.ackPolicy fun token policy => AckPolicy.ofToken? token = some policy := by
        funext policy
        refine propext ⟨?_, ?_⟩
        · rintro (htrue | ⟨-, hgiven, hpolicy⟩)
          · exact nomatch hpull.symm.trans htrue
          · exact ⟨_, hgiven, hpolicy⟩
        · rintro ⟨token, hgiven, hpolicy⟩
          exact .push hpull hgiven hpolicy
      rw [htold, if_neg Bool.false_ne_true, readGiven_eq_ok_iff readAckPolicy_eq_ok_iff]
      exact and_congr_left' ⟨fun hlegible _ => hlegible, fun hlegible => hlegible rfl⟩

theorem eq_copyFilter_iff {filter : Option String} :
    (filter = match flags.filterSubject with
      | some text => given (some text)
      | none => source.filterSubject) ↔
      Obeys (Says flags.filterSubject fun text filter =>
        filter = if text = "" then none else some text) source.filterSubject filter := by
  cases flags.filterSubject with
  | none =>
      constructor
      · exact .kept fun _ ⟨_, hgiven, _⟩ => nomatch hgiven
      · rintro (⟨_, ⟨⟩, -⟩ | ⟨-, hkept⟩)
        exact hkept
  | some text =>
      have hmeans : given (some text) = if text = "" then none else some text := by
        split
        next hempty => rw [hempty]; rfl
        next hne => exact given_eq_some_iff.mpr ⟨rfl, hne⟩
      dsimp only
      rw [hmeans]
      constructor
      · exact fun hfilter => .said ⟨text, rfl, hfilter⟩
      · rintro (⟨_, ⟨⟩, hfilter⟩ | ⟨hsilent, -⟩)
        · exact hfilter
        · exact absurd ⟨text, rfl, rfl⟩ (hsilent _)

/-! ## The whole configuration -/

/-- Each field is what its reader makes of the options and the source. -/
structure Config.IsRead (c : Config) (now : Instant) (flags : Flags) (source : Config)
    (destination : String) : Prop where
  durableName : copyName flags destination = .ok c.durableName
  deliverSubject : c.deliverSubject = copyDelivery flags source
  filterSubject : c.filterSubject = match flags.filterSubject with
    | some text => given (some text)
    | none => source.filterSubject
  deliverPolicy :
    readGiven flags.startPolicy source.deliverPolicy (readStart · now) = .ok c.deliverPolicy
  ackPolicy :
    readGiven (if flags.pull then some "explicit" else flags.ackPolicy) source.ackPolicy
      readAckPolicy = .ok c.ackPolicy
  ackWait : c.ackWait = (Duration.nonzero? flags.ackWait).getD source.ackWait
  replayPolicy :
    readGiven flags.replayPolicy source.replayPolicy readReplayPolicy = .ok c.replayPolicy
  maxDeliver : c.maxDeliver = (flags.maxDeliver.filter (· != 0)).getD source.maxDeliver
  maxAckPending : c.maxAckPending = (flags.maxAckPending.filter (· != -1)).getD source.maxAckPending
  rateLimit : c.rateLimit = (flags.rateLimit.filter (0 < ·)).getD source.rateLimit
  sampleFrequency :
    readGiven flags.samplePercent source.sampleFrequency readSample = .ok c.sampleFrequency

/-- A configuration passes the rules about the mode as it is. -/
theorem checkMode_eq_ok_iff {read : Config} :
    (if 0 < read.rateLimit ∧ read.isPull then .error rateLimitOnPull
      else if read.isEphemeral ∧ read.isPull then .error ephemeralPull
      else .ok read : Except Error Config) = .ok c ↔
      read = c ∧ ¬(0 < c.rateLimit ∧ c.isPull = true) ∧
        ¬(c.isEphemeral = true ∧ c.isPull = true) := by
  split
  next hrate =>
    constructor
    · exact nofun
    · rintro ⟨rfl, hunrated, -⟩
      exact absurd hrate hunrated
  next hrate =>
    split
    next hephemeral =>
      constructor
      · exact nofun
      · rintro ⟨rfl, -, hnamed⟩
        exact absurd hephemeral hnamed
    next hnamed =>
      constructor
      · rintro ⟨⟩
        exact ⟨rfl, hrate, hnamed⟩
      · rintro ⟨rfl, -⟩
        rfl

theorem copy_eq_ok_iff_isRead :
    copy now flags source destination = .ok c ↔
      c.IsRead now flags source destination ∧
        ¬(0 < c.rateLimit ∧ c.isPull = true) ∧ ¬(c.isEphemeral = true ∧ c.isPull = true) := by
  unfold copy
  -- The configuration stays in one piece, so that the rules about the mode are found in it.
  simp -proj only [bind_eq_ok_iff, checkMode_eq_ok_iff]
  constructor
  · rintro ⟨sample, hsample, start, hstart, name, hname, ack, hack, replay, hreplay, rfl, hmode⟩
    exact ⟨⟨hname, rfl, rfl, hstart, hack, rfl, hreplay, rfl, rfl, rfl, hsample⟩, hmode⟩
  · rintro ⟨hread, hmode⟩
    refine ⟨_, hread.sampleFrequency, _, hread.deliverPolicy, _, hread.durableName, _,
      hread.ackPolicy, _, hread.replayPolicy, ?_, hmode⟩
    cases c
    rw [Config.mk.injEq]
    exact ⟨rfl, hread.deliverSubject.symm, hread.filterSubject.symm, rfl, rfl, hread.ackWait.symm,
      rfl, hread.maxDeliver.symm, hread.maxAckPending.symm, hread.rateLimit.symm, rfl⟩

theorem Config.IsRead.areLegible (h : c.IsRead now flags source destination) :
    flags.AreLegible now destination where
  sample percent hpercent := by
    have hread := (readGiven_eq_ok_iff readSample_eq_ok_iff).mp h.sampleFrequency
    obtain ⟨share, hbounds, -⟩ := hread.1 percent hpercent
    exact hbounds
  start := ((readGiven_eq_ok_iff (readStart_eq_ok_iff now)).mp h.deliverPolicy).1
  replay := ((readGiven_eq_ok_iff readReplayPolicy_eq_ok_iff).mp h.replayPolicy).1
  ack := (readAck_eq_ok_iff.mp h.ackPolicy).1
  destination := ((copyName_eq_ok_iff flags destination _).mp h.durableName).1

theorem Config.IsRead.isCopy (h : c.IsRead now flags source destination) :
    c.IsCopy now flags source destination where
  durableName := ((copyName_eq_ok_iff flags destination _).mp h.durableName).2
  deliverSubject := eq_copyDelivery_iff.mp h.deliverSubject
  filterSubject := eq_copyFilter_iff.mp h.filterSubject
  deliverPolicy := ((readGiven_eq_ok_iff (readStart_eq_ok_iff now)).mp h.deliverPolicy).2
  ackPolicy := (readAck_eq_ok_iff.mp h.ackPolicy).2
  ackWait := (eq_getD_iff not_isZero_iff).mp h.ackWait
  replayPolicy := ((readGiven_eq_ok_iff readReplayPolicy_eq_ok_iff).mp h.replayPolicy).2
  maxDeliver := (eq_getD_iff fun _ => bne_iff_ne).mp h.maxDeliver
  maxAckPending := (eq_getD_iff fun _ => bne_iff_ne).mp h.maxAckPending
  rateLimit := (eq_getD_iff fun _ => decide_eq_true_iff).mp h.rateLimit
  sampleFrequency := ((readGiven_eq_ok_iff readSample_eq_ok_iff).mp h.sampleFrequency).2

theorem Config.IsCopy.isRead (h : c.IsCopy now flags source destination)
    (hlegible : flags.AreLegible now destination) : c.IsRead now flags source destination where
  durableName := (copyName_eq_ok_iff flags destination _).mpr ⟨hlegible.destination, h.durableName⟩
  deliverSubject := eq_copyDelivery_iff.mpr h.deliverSubject
  filterSubject := eq_copyFilter_iff.mpr h.filterSubject
  deliverPolicy :=
    (readGiven_eq_ok_iff (readStart_eq_ok_iff now)).mpr ⟨hlegible.start, h.deliverPolicy⟩
  ackPolicy := readAck_eq_ok_iff.mpr ⟨hlegible.ack, h.ackPolicy⟩
  ackWait := (eq_getD_iff not_isZero_iff).mpr h.ackWait
  replayPolicy :=
    (readGiven_eq_ok_iff readReplayPolicy_eq_ok_iff).mpr ⟨hlegible.replay, h.replayPolicy⟩
  maxDeliver := (eq_getD_iff fun _ => bne_iff_ne).mpr h.maxDeliver
  maxAckPending := (eq_getD_iff fun _ => bne_iff_ne).mpr h.maxAckPending
  rateLimit := (eq_getD_iff fun _ => decide_eq_true_iff).mpr h.rateLimit
  sampleFrequency := by
    refine (readGiven_eq_ok_iff readSample_eq_ok_iff).mpr ⟨?_, h.sampleFrequency⟩
    intro percent hpercent
    exact ⟨_, hlegible.sample percent hpercent, rfl⟩

/-- There is a copy exactly if all tokens are legible and what comes of them goes with the mode; and
then every field is what the options say about it, or that of the source. -/
theorem copy_eq_ok_iff (now : Instant) (flags : Flags) (source : Config) (destination : String) :
    (∃! c : Config, c.IsCopy now flags source destination) ∧
      ∀ c, copy now flags source destination = .ok c ↔
        flags.AreLegible now destination ∧ c.IsCopy now flags source destination ∧
          ¬(c.isPull = true ∧ 0 < c.rateLimit) ∧ ¬(c.isPull = true ∧ c.isEphemeral = true) := by
  obtain ⟨copied, hcopied⟩ := exists_isCopy now flags source destination
  refine ⟨⟨copied, hcopied, fun c hc => hc.unique hcopied⟩, fun c => ?_⟩
  rw [copy_eq_ok_iff_isRead, and_comm (a := c.isPull = true), and_comm (a := c.isPull = true)]
  constructor
  · rintro ⟨hread, hmode⟩
    exact ⟨hread.areLegible, hread.isCopy, hmode⟩
  · rintro ⟨hlegible, hcopy, hmode⟩
    exact ⟨hcopy.isRead hlegible, hmode⟩

end JetStream.Consumer
