import JetStream.Consumer.Config
import JetStream.Proofs.Instant.RoundTrip
import JetStream.Proofs.Json.Record
import JetStream.Proofs.Json.RoundTrip
import JetStream.Proofs.NameMap.Entries

/-!
# The record of a configuration

What a configuration looks like on the wire, seen from the reader: which names its members have,
what stands under each of them (`get?_members`), and as what the fields are read back
(`ofRecord?_of_get?`).  None of this depends on whether the record is read off its text or off a
value.
-/

namespace JetStream

theorem AckPolicy.ofWireName?_wireName (policy : AckPolicy) :
    AckPolicy.ofWireName? policy.wireName = some policy := by
  cases policy <;> rfl

theorem ReplayPolicy.ofWireName?_wireName (policy : ReplayPolicy) :
    ReplayPolicy.ofWireName? policy.wireName = some policy := by
  cases policy <;> rfl

namespace Consumer.Config

open Json

/-! ## The names of the members -/

private theorem names_textMember (name : String) (text : Option String) :
    ((textMember name text).map (·.1)).Sublist [name] := by
  unfold textMember
  split <;> simp

private theorem names_numberMember (name : String) (n : Int) :
    ((numberMember name n).map (·.1)).Sublist [name] := by
  unfold numberMember
  split <;> simp

private theorem names_startMembers (policy : DeliverPolicy) :
    ((startMembers policy).map (·.1)).Sublist ["opt_start_seq", "opt_start_time"] := by
  cases policy <;> simp [startMembers]

/-- The members stand in the order of the fields, some of which are left out. -/
theorem names_members_sublist (c : Config) : (c.members.map (·.1)).Sublist fields := by
  simp only [members, List.map_append]
  exact
    names_textMember "durable_name" _ |>.append
      (names_textMember "deliver_subject" _) |>.append
      (.refl ["deliver_policy"]) |>.append
      (names_startMembers _) |>.append
      (.refl ["ack_policy"]) |>.append
      (names_numberMember "ack_wait" _) |>.append
      (names_numberMember "max_deliver" _) |>.append
      (names_textMember "filter_subject" _) |>.append
      (.refl ["replay_policy"]) |>.append
      (names_numberMember "rate_limit_bps" _) |>.append
      (names_textMember "sample_freq" _) |>.append
      (names_numberMember "max_ack_pending" _)

theorem nodup_names_members (c : Config) : (c.members.map (·.1)).Nodup :=
  (names_members_sublist c).nodup (by decide)

/-! ## What stands under the names -/

/-- The member for the sequence to start from. -/
def startSequence? : DeliverPolicy → Option Nat
  | .byStartSequence n => some n.toNat
  | _ => none

/-- The member for the point in time to start from. -/
def startTime? : DeliverPolicy → Option Instant
  | .byStartTime t => some t
  | _ => none

/-- The policy for which the members stand: a point in time is given as a clock shows it. -/
def shownPolicy : DeliverPolicy → DeliverPolicy
  | .byStartTime t => .byStartTime t.shown
  | policy => policy

/-- If the consumer starts at a point in time, a clock comes to it. -/
def StartsOnClock (c : Config) : Prop :=
  ∀ t, c.deliverPolicy = .byStartTime t → t.IsClockTime

theorem shownPolicy_eq_self_iff (c : Config) :
    shownPolicy c.deliverPolicy = c.deliverPolicy ↔ c.StartsOnClock := by
  unfold StartsOnClock
  cases c.deliverPolicy with
  | byStartTime t => simp [shownPolicy, Instant.shown_eq_self_iff]
  | _ => simp [shownPolicy]

/-- A number on the wire, unless it is zero. -/
def nonZero (n : Int) : Option Json :=
  if n = 0 then none else some (.integer n)

/-- What stands under a name in the record of a configuration. -/
def value? (c : Config) : String → Option Json
  | "durable_name" => (nonEmpty c.durableName).map .string
  | "deliver_subject" => (nonEmpty c.deliverSubject).map .string
  | "deliver_policy" => some (.string c.deliverPolicy.wireName)
  | "opt_start_seq" => (startSequence? c.deliverPolicy).map fun n : Nat => .integer n
  | "opt_start_time" => (startTime? c.deliverPolicy).map fun t => .string t.text
  | "ack_policy" => some (.string c.ackPolicy.wireName)
  | "ack_wait" => nonZero (wireWait c.ackWait)
  | "max_deliver" => nonZero c.maxDeliver.toInt
  | "filter_subject" => (nonEmpty c.filterSubject).map .string
  | "replay_policy" => some (.string c.replayPolicy.wireName)
  | "rate_limit_bps" => nonZero c.rateLimit.toNat
  | "sample_freq" => c.sampleFrequency.map fun percent => .string (toString percent.toNat)
  | "max_ack_pending" => nonZero c.maxAckPending.toInt
  | _ => none

private theorem get?_textMember (field name : String) (text : Option String) :
    NameMap.get? (textMember field text) name =
      if field = name then (nonEmpty text).map .string else none := by
  unfold textMember
  cases nonEmpty text <;> simp [NameMap.get?_cons]

private theorem get?_numberMember (field name : String) (n : Int) :
    NameMap.get? (numberMember field n) name = if field = name then nonZero n else none := by
  unfold numberMember nonZero
  split <;> simp [NameMap.get?_cons]

private theorem get?_startMembers (policy : DeliverPolicy) (name : String) :
    NameMap.get? (startMembers policy) name =
      if "opt_start_seq" = name then (startSequence? policy).map fun n : Nat => .integer n
      else if "opt_start_time" = name then (startTime? policy).map fun t => .string t.text
      else none := by
  cases policy with
  | byStartTime t =>
      simp only [startMembers, startSequence?, startTime?, NameMap.get?_cons]
      by_cases h : "opt_start_seq" = name
      · subst h
        rfl
      · simp [h]
  | _ => simp [startMembers, startSequence?, startTime?, NameMap.get?_cons]

private theorem nonEmpty_percent (percent : Option UInt8) :
    nonEmpty (percent.map fun n => n.toNat.repr) = percent.map fun n => n.toNat.repr := by
  cases percent with
  | none => rfl
  | some n => simp [nonEmpty]

/-- A name in the record stands for what the configuration has under it. -/
theorem get?_members (c : Config) (name : String) :
    NameMap.get? c.members name = c.value? name := by
  unfold value?
  split
  case h_14 =>
    -- any other name is no field at all
    refine NameMap.get?_eq_none fun hmem => ?_
    have hfield := (names_members_sublist c).subset hmem
    simp_all [fields]
  all_goals simp [members, NameMap.get?_append, get?_textMember, get?_numberMember,
    get?_startMembers, NameMap.get?_cons, nonEmpty_percent, Function.comp_def]

/-! ## Reading the fields -/

/-- The record that holds the members. -/
def record (c : Config) : Record :=
  ⟨c.members, false⟩

/-- The fields as which the members are read. -/
def wireFields (c : Config) : Fields where
  durableName := nonEmpty c.durableName
  deliverSubject := nonEmpty c.deliverSubject
  deliverPolicy := c.deliverPolicy.wireName
  startSequence := startSequence? c.deliverPolicy
  startTime := startTime? (shownPolicy c.deliverPolicy)
  ackPolicy := c.ackPolicy
  ackWait := wireWait c.ackWait
  maxDeliver := c.maxDeliver.toInt
  filterSubject := nonEmpty c.filterSubject
  replayPolicy := c.replayPolicy
  rateLimit := c.rateLimit.toNat
  sampleFrequency := c.sampleFrequency.map fun percent => toString percent.toNat
  maxAckPending := c.maxAckPending.toInt

theorem record_get? (c : Config) (name : String) : c.record.get? name = c.value? name :=
  get?_members c name

theorem nonEmpty_nonEmpty (text : Option String) : nonEmpty (nonEmpty text) = nonEmpty text := by
  simp [nonEmpty, Option.filter_filter]

theorem startSequence?_le {policy : DeliverPolicy} {n : Nat} (h : startSequence? policy = some n) :
    n ≤ Text.maxUnsigned64 := by
  unfold startSequence? at h
  split at h
  · rename_i sequence
    cases h
    exact Nat.le_of_lt_succ sequence.toNat_lt
  · exact absurd h.symm (Option.some_ne_none n)

theorem wireWait_le (wait : Duration) : wireWait wait ≤ Text.maxUnsigned64 :=
  Nat.min_le_right _ _

theorem readInstant?_text (t : Instant) : readInstant? (.string t.text) = some t.shown := by
  rw [readInstant?, asString?, Option.bind_some, Instant.read?_text]

section Reading

variable {r : Record} {name : String}

private theorem read_text {text : Option String}
    (h : r.get? name = (nonEmpty text).map .string) :
    r.read name none readText? = some (nonEmpty text) := by
  -- an empty text would be read as none, but none of the members is empty
  rw [← nonEmpty_nonEmpty text]
  unfold Record.read
  rw [h]
  cases nonEmpty text <;> rfl

private theorem read_unsigned64 {n : Nat} (h : r.get? name = nonZero n)
    (hbound : n ≤ Text.maxUnsigned64) : r.read name 0 asUnsigned64? = some n := by
  -- a zero is not written, and is what a missing number is read as
  rw [Record.read_eq_some_iff, h, nonZero]
  split
  · exact .inr ⟨rfl, by omega⟩
  · exact .inl (asUnsigned?_eq_some_iff.mpr ⟨hbound, rfl⟩)

private theorem read_signed64 {n : Int} (h : r.get? name = nonZero n)
    (hlow : Text.minSigned64 ≤ n) (hhigh : n ≤ Text.maxSigned64) :
    r.read name 0 asSigned64? = some n := by
  rw [Record.read_eq_some_iff, h, nonZero]
  split
  · exact .inr ⟨rfl, by omega⟩
  · exact .inl (asInteger?_eq_some_iff.mpr ⟨⟨hlow, hhigh⟩, rfl⟩)

private theorem read_startSequence {policy : DeliverPolicy}
    (h : r.get? name = (startSequence? policy).map fun n : Nat => .integer n) :
    r.read name none (optional? asUnsigned64?) = some (startSequence? policy) := by
  unfold Record.read
  rw [h]
  cases hsequence : startSequence? policy with
  | none => rfl
  | some n =>
      exact optional?_of_read rfl (asUnsigned?_eq_some_iff.mpr ⟨startSequence?_le hsequence, rfl⟩)

/-- What is read is the time on the clock, which the text was written for. -/
private theorem read_startTime {policy : DeliverPolicy}
    (h : r.get? name = (startTime? policy).map fun t => .string t.text) :
    r.read name none (optional? readInstant?) = some (startTime? (shownPolicy policy)) := by
  unfold Record.read
  rw [h]
  cases policy with
  | byStartTime t => exact optional?_of_read rfl (readInstant?_text t)
  | _ => rfl

private theorem read_choice {α : Type} {default value : α} {ofName? : String → Option α}
    {nameOf : α → String} (h : r.get? name = some (.string (nameOf value)))
    (hname : ofName? (nameOf value) = some value) :
    r.read name default (fun json => (readChoice? json).bind ofName?) = some value := by
  unfold Record.read
  rw [h]
  exact hname

end Reading

section Fields

variable {c : Config} {r : Record}

private theorem sampleFrequency_get? (hget : ∀ name, r.get? name = c.value? name) :
    r.get? "sample_freq" =
      (nonEmpty (c.sampleFrequency.map fun percent => toString percent.toNat)).map .string := by
  rw [hget]
  simp [value?, nonEmpty_percent, Function.comp_def]

/-- Whatever holds the members, in whatever order, is read as the fields of the wire. -/
theorem ofRecord?_of_get? (hsurplus : r.surplus = false)
    (hget : ∀ name, r.get? name = c.value? name) : Fields.ofRecord? r = some c.wireFields := by
  have hint : ∀ n : Int64, Text.minSigned64 ≤ n.toInt ∧ n.toInt ≤ Text.maxSigned64 := fun n =>
    ⟨n.le_toInt, Int.le_of_lt_add_one n.toInt_lt⟩
  have hpolicy : r.read "deliver_policy" "all" asString? = some c.deliverPolicy.wireName := by
    rw [Record.read, hget]
    rfl
  unfold Fields.ofRecord?
  rw [if_neg (by simp [hsurplus]), hpolicy, read_startSequence (hget "opt_start_seq"),
    read_startTime (hget "opt_start_time"),
    read_text (hget "durable_name"), read_text (hget "deliver_subject"),
    read_text (hget "filter_subject"), read_text (sampleFrequency_get? hget),
    read_unsigned64 (hget "ack_wait") (wireWait_le c.ackWait),
    read_unsigned64 (hget "rate_limit_bps") (Nat.le_of_lt_succ c.rateLimit.toNat_lt),
    read_signed64 (hget "max_deliver") (hint _).1 (hint _).2,
    read_signed64 (hget "max_ack_pending") (hint _).1 (hint _).2,
    read_choice (hget "ack_policy") (AckPolicy.ofWireName?_wireName c.ackPolicy),
    read_choice (hget "replay_policy") (ReplayPolicy.ofWireName?_wireName c.replayPolicy)]
  simp [wireFields, nonEmpty_percent]

end Fields

theorem ofRecord?_record (c : Config) : Fields.ofRecord? c.record = some c.wireFields :=
  ofRecord?_of_get? rfl (record_get? c)

end Consumer.Config

end JetStream
