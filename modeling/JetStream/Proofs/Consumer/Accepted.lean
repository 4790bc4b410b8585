import JetStream.Consumer.File
import JetStream.Proofs.Consumer.Canonical
import JetStream.Proofs.Json.Record

/-!
# Accepted configurations

Far more texts are read as configurations than are ever written: texts may be empty or null, a share
may stand between blanks and with percent signs behind it, names may repeat, and a row may stand for
a record.  Whatever is accepted, from a text or from a file, is in the end made of the fields of a
record, and those are canonical whatever the record is.

## Strategy

* `Fields.ofRecord?_eq_some_iff` takes the reader of records apart, field by field.
* `Fields.IsReadFrom.isCanonical` goes from the fields to the configuration made of them.
* `exists_ofRecord_of_parse`, `exists_ofRecord_of_load` find the record behind a text and a file.
-/

namespace JetStream

open Json

/-! ## Values that are read -/

theorem Sample.le_of_parse {text : String} {percent : UInt8} (h : parse text = .ok percent) :
    percent.toNat ≤ 100 := by
  unfold parse at h
  split at h
  · cases h
  · split at h
    · cases h
    · rename_i share _ hshare
      cases h
      have hsmall : share < 2 ^ 8 := by omega
      rw [UInt8.toNat_ofNat', Nat.mod_eq_of_lt hsmall]
      omega

namespace Consumer.Config

theorem nonEmpty_ne_some_empty (text : Option String) : nonEmpty text ≠ some "" := by
  intro h
  have hkept := (Option.filter_eq_some_iff.mp h).2
  exact absurd hkept (by decide)

theorem readText?_ne_some_empty {value : Json} {text : Option String}
    (h : readText? value = some text) : text ≠ some "" := by
  obtain ⟨read, -, rfl⟩ := Option.map_eq_some_iff.mp h
  exact nonEmpty_ne_some_empty read

/-! ## From a record to a configuration -/

/-- Each field is what the record has for it. -/
structure Fields.IsReadFrom (r : Record) (f : Fields) : Prop where
  surplus : r.surplus = false
  durableName : r.read "durable_name" none readText? = some f.durableName
  deliverSubject : r.read "deliver_subject" none readText? = some f.deliverSubject
  deliverPolicy : r.read "deliver_policy" "all" asString? = some f.deliverPolicy
  startSequence :
    r.read "opt_start_seq" none (optional? asUnsigned64?) = some f.startSequence
  startTime : r.read "opt_start_time" none (optional? readInstant?) = some f.startTime
  ackPolicy :
    r.read "ack_policy" .none (fun value => (readChoice? value).bind AckPolicy.ofWireName?) =
      some f.ackPolicy
  ackWait : r.read "ack_wait" 0 asUnsigned64? = some f.ackWait
  maxDeliver : r.read "max_deliver" 0 asSigned64? = some f.maxDeliver
  filterSubject : r.read "filter_subject" none readText? = some f.filterSubject
  replayPolicy :
    r.read "replay_policy" .instant
      (fun value => (readChoice? value).bind ReplayPolicy.ofWireName?) = some f.replayPolicy
  rateLimit : r.read "rate_limit_bps" 0 asUnsigned64? = some f.rateLimit
  sampleFrequency : r.read "sample_freq" none readText? = some f.sampleFrequency
  maxAckPending : r.read "max_ack_pending" 0 asSigned64? = some f.maxAckPending

theorem Fields.ofRecord?_eq_some_iff {r : Record} {f : Fields} :
    Fields.ofRecord? r = some f ↔ f.IsReadFrom r := by
  constructor
  · intro h
    unfold Fields.ofRecord? at h
    split at h
    · cases h
    · rename_i hsurplus
      obtain ⟨_, hname, h⟩ := Option.bind_eq_some_iff.mp h
      obtain ⟨_, hdeliver, h⟩ := Option.bind_eq_some_iff.mp h
      obtain ⟨_, hpolicy, h⟩ := Option.bind_eq_some_iff.mp h
      obtain ⟨_, hsequence, h⟩ := Option.bind_eq_some_iff.mp h
      obtain ⟨_, htime, h⟩ := Option.bind_eq_some_iff.mp h
      obtain ⟨_, hack, h⟩ := Option.bind_eq_some_iff.mp h
      obtain ⟨_, hwait, h⟩ := Option.bind_eq_some_iff.mp h
      obtain ⟨_, hmaxDeliver, h⟩ := Option.bind_eq_some_iff.mp h
      obtain ⟨_, hfilter, h⟩ := Option.bind_eq_some_iff.mp h
      obtain ⟨_, hreplay, h⟩ := Option.bind_eq_some_iff.mp h
      obtain ⟨_, hrate, h⟩ := Option.bind_eq_some_iff.mp h
      obtain ⟨_, hsample, h⟩ := Option.bind_eq_some_iff.mp h
      obtain ⟨_, hpending, h⟩ := Option.bind_eq_some_iff.mp h
      cases h
      exact ⟨eq_false_of_ne_true hsurplus, hname, hdeliver, hpolicy, hsequence, htime,
        hack, hwait, hmaxDeliver, hfilter, hreplay, hrate, hsample, hpending⟩
  · intro h
    unfold Fields.ofRecord?
    rw [if_neg (by simp [h.surplus]), h.durableName, h.deliverSubject, h.deliverPolicy,
      h.startSequence, h.startTime, h.ackPolicy, h.ackWait, h.maxDeliver, h.filterSubject,
      h.replayPolicy, h.rateLimit, h.sampleFrequency, h.maxAckPending]
    rfl

theorem Fields.le_of_sample {f : Fields} {share : Option UInt8} (h : f.sample = .ok share) :
    ∀ percent ∈ share, percent.toNat ≤ 100 := by
  unfold Fields.sample at h
  split at h
  · cases h
    simp
  · split at h
    · rename_i percent hparse
      cases h
      simpa using Sample.le_of_parse hparse
    · cases h

/-- A start at a point in time is at the one among the fields. -/
theorem Fields.startTime_of_start {f : Fields} {t : Instant}
    (h : f.start = .ok (.byStartTime t)) : f.startTime = some t := by
  unfold Fields.start at h
  split at h
  case h_7 =>
    split at h
    · cases h
      assumption
    · cases h
  all_goals cases h

/-- Only instants of a clock are read. -/
theorem isClockTime_of_readInstant? {value : Json} {t : Instant}
    (h : readInstant? value = some t) : t.IsClockTime := by
  obtain ⟨s, -, hread⟩ := Option.bind_eq_some_iff.mp h
  exact Instant.isClockTime_of_read? hread

/-- The configuration of fields has the start and the share that they make, and otherwise the
fields themselves. -/
structure Fields.Makes (f : Fields) (c : Config) : Prop where
  start : f.start = .ok c.deliverPolicy
  sample : f.sample = .ok c.sampleFrequency
  durableName : c.durableName = f.durableName
  deliverSubject : c.deliverSubject = f.deliverSubject
  filterSubject : c.filterSubject = f.filterSubject
  ackPolicy : c.ackPolicy = f.ackPolicy
  ackWait : c.ackWait = ⟨f.ackWait⟩
  replayPolicy : c.replayPolicy = f.replayPolicy
  maxDeliver : c.maxDeliver = Int64.ofInt f.maxDeliver
  maxAckPending : c.maxAckPending = Int64.ofInt f.maxAckPending
  rateLimit : c.rateLimit = UInt64.ofNat f.rateLimit

theorem Fields.makes_of_toConfig {f : Fields} {c : Config} (h : f.toConfig = .ok c) :
    f.Makes c := by
  unfold Fields.toConfig at h
  cases hstart : f.start with
  | error fault => simp [hstart, bind, Except.bind] at h
  | ok start =>
      cases hsample : f.sample with
      | error fault => simp [hstart, hsample, bind, Except.bind] at h
      | ok share =>
          simp only [hstart, hsample, bind, Except.bind, Except.ok.injEq] at h
          subst h
          exact ⟨hstart, hsample, rfl, rfl, rfl, rfl, rfl, rfl, rfl, rfl, rfl⟩

theorem exists_makes_of_ofRecord {r : Record} {c : Config} (h : ofRecord r = .ok c) :
    ∃ f : Fields, f.IsReadFrom r ∧ f.Makes c := by
  unfold ofRecord at h
  split at h
  · cases h
  · rename_i f hfields
    split at h
    · rename_i hconfig
      cases h
      exact ⟨f, Fields.ofRecord?_eq_some_iff.mp hfields, Fields.makes_of_toConfig hconfig⟩
    · cases h

/-- Whatever a record holds, a configuration that is made of it is canonical. -/
theorem isCanonical_of_ofRecord {r : Record} {c : Config} (h : ofRecord r = .ok c) :
    c.IsCanonical := by
  obtain ⟨f, hread, hmakes⟩ := exists_makes_of_ofRecord h
  have htext : ∀ {name : String} {text : Option String},
      r.read name none readText? = some text → text ≠ some "" := fun htext =>
    Record.forall_read (fun text => text ≠ some "") (Option.some_ne_none "").symm
      (fun _ _ => readText?_ne_some_empty) htext
  have hwait : f.ackWait ≤ Text.maxUnsigned64 :=
    Record.forall_read (fun n => n ≤ Text.maxUnsigned64) (Nat.zero_le _)
      (fun _ _ => asUnsigned64?_le) hread.ackWait
  have htime : ∀ t, f.startTime = some t → t.IsClockTime := by
    refine Record.forall_read (fun time => ∀ t, time = some t → t.IsClockTime)
      (fun t hnone => absurd hnone.symm (Option.some_ne_none t)) ?_ hread.startTime
    rintro value time hvalue t rfl
    exact isClockTime_of_readInstant? (eq_some_of_optional? hvalue)
  exact {
    durableName := hmakes.durableName ▸ htext hread.durableName
    deliverSubject := hmakes.deliverSubject ▸ htext hread.deliverSubject
    filterSubject := hmakes.filterSubject ▸ htext hread.filterSubject
    startsOnClock := fun t ht => htime t (Fields.startTime_of_start (ht ▸ hmakes.start))
    ackWait := hmakes.ackWait ▸ hwait
    sampleFrequency := Fields.le_of_sample hmakes.sample }

/-! ## From texts and files to a record -/

theorem exists_ofRecord_of_parse {text : String} {c : Config} (h : parse text = .ok c) :
    ∃ r, ofRecord r = .ok c := by
  unfold parse at h
  split at h
  · cases h
  · split at h
    · cases h
    · rename_i r _
      split at h
      · cases h
      · rename_i read hread
        split at h
        · cases h
          exact ⟨r, hread⟩
        · cases h

theorem exists_ofRecord_of_ofJson {document : Json} {c : Config} (h : ofJson document = .ok c) :
    ∃ r, ofRecord r = .ok c := by
  unfold ofJson at h
  split at h
  · rename_i r _
    exact ⟨r, h⟩
  · cases h

theorem exists_ofJson_of_load {files : Files} {path : String} {c : Config}
    (h : (load files path).1 = .ok c) :
    ∃ text document, files.readText path = .ok text ∧
      readDocument (isYamlPath path) text = .ok document ∧ ofJson document = .ok c := by
  unfold load at h
  split at h
  · cases h
  · rename_i text htext
    unfold ofFileText at h
    split at h
    · cases h
    · rename_i document hdocument
      refine ⟨text, document, htext, hdocument, ?_⟩
      cases hread : ofJson document with
      | error fault =>
          rw [hread] at h
          cases h
      | ok read =>
          rw [hread] at h
          cases h
          rfl

theorem exists_ofRecord_of_load {files : Files} {path : String} {c : Config}
    (h : (load files path).1 = .ok c) : ∃ r, ofRecord r = .ok c := by
  obtain ⟨_, _, _, _, hread⟩ := exists_ofJson_of_load h
  exact exists_ofRecord_of_ofJson hread

/-! ## The canonical form of what was accepted -/

theorem parse_canonical_of_isCanonical {c : Config} (hc : c.IsCanonical) :
    parse c.canonical = .ok c := by
  obtain ⟨hnormalized, hsample⟩ := c.isCanonical_iff.mp hc
  rw [parse_canonical, hsample, hnormalized]

theorem isCanonical_iff_parse_canonical {c : Config} :
    c.IsCanonical ↔ parse c.canonical = .ok c := by
  constructor
  · exact parse_canonical_of_isCanonical
  · intro h
    obtain ⟨r, hr⟩ := exists_ofRecord_of_parse h
    exact isCanonical_of_ofRecord hr

/-- Whatever is accepted, as a text or out of a file in either notation, has no empty text, a wait
of 64 bits of nanoseconds and no share of more than all.  So its canonical form is read as the same
configuration, and writing that again changes no character. -/
theorem parse_canonical_of_accepted {c : Config}
    (haccepted :
      (∃ text, parse text = .ok c) ∨ ∃ files path, (load files path).1 = .ok c) :
    c.IsCanonical ∧ parse c.canonical = .ok c ∧
      (parse c.canonical).map canonical = .ok c.canonical := by
  obtain ⟨r, hr⟩ : ∃ r, ofRecord r = .ok c := by
    rcases haccepted with ⟨text, htext⟩ | ⟨files, path, hfile⟩
    · exact exists_ofRecord_of_parse htext
    · exact exists_ofRecord_of_load hfile
  have hcanonical : c.IsCanonical := isCanonical_of_ofRecord hr
  have hparse : parse c.canonical = .ok c := parse_canonical_of_isCanonical hcanonical
  refine ⟨hcanonical, hparse, ?_⟩
  rw [hparse]
  rfl

theorem eq_ok_of_toOption {ε α : Type} {outcome : Except ε α} {value : α}
    (h : outcome.toOption = some value) : outcome = .ok value := by
  cases outcome with
  | error fault => cases h
  | ok other => exact congrArg Except.ok (Option.some.inj h)

/-- Accepted, and written quite differently: an empty name, an empty policy with a sequence that
nothing starts from, a policy written as an object, a share between blanks with a percent sign, and
a member that is no field. -/
theorem parse_canonical_of_accepted_share :
    let text := "\x7b\"durable_name\":\"\",\"deliver_policy\":\"\",\"opt_start_seq\":7," ++
      "\"ack_policy\":\x7b\"all\":null\x7d,\"sample_freq\":\" 50% \",\"other\":[1]\x7d"
    let c : Config := { ackPolicy := .all, sampleFrequency := some 50 }
    parse text = .ok c ∧ c.IsCanonical ∧ parse c.canonical = .ok c ∧
      (parse c.canonical).map canonical = .ok c.canonical := by
  intro text c
  have hread : parse text = .ok c := eq_ok_of_toOption (by decide +kernel)
  exact ⟨hread, parse_canonical_of_accepted (.inl ⟨text, hread⟩)⟩

end Consumer.Config

end JetStream
