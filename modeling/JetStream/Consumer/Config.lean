import JetStream.Consumer.Policy
import JetStream.Consumer.Sample
import JetStream.Instant.Reader
import JetStream.Instant.Text
import JetStream.Json.Fault
import JetStream.Json.Printer
import JetStream.Json.Record

/-!
# Consumer configurations

What a consumer is to be, and its form on the wire: a flat record in which an empty text, a zero
and a missing limit are left out.  Written with line breaks this is the canonical form, which is
also what configuration files hold.

A record is read with its defaults: without an acknowledgement policy nothing is acknowledged.
-/

namespace JetStream.Consumer

/-- The configuration of a consumer. -/
structure Config where
  /-- The name of a durable consumer. -/
  durableName : Option String := none
  /-- Where messages are pushed to; a consumer without it is pulled from. -/
  deliverSubject : Option String := none
  /-- Which subjects are delivered. -/
  filterSubject : Option String := none
  /-- Where in the stream the consumer starts. -/
  deliverPolicy : DeliverPolicy := .all
  /-- What is acknowledged. -/
  ackPolicy : AckPolicy := .explicit
  /-- How long the broker waits for an acknowledgement; zero leaves that to the broker. -/
  ackWait : Duration := .zero
  /-- How fast stored messages are replayed. -/
  replayPolicy : ReplayPolicy := .instant
  /-- How often a message is delivered at most; -1 is without limit. -/
  maxDeliver : Int64 := 0
  /-- How many messages may be unacknowledged; zero is without limit. -/
  maxAckPending : Int64 := 0
  /-- Bits per second that are pushed; zero is without limit. -/
  rateLimit : UInt64 := 0
  /-- The share of acknowledgements that is sampled, in percent. -/
  sampleFrequency : Option UInt8 := none
  deriving DecidableEq, Inhabited

namespace Config

/-- Messages are pulled. -/
def isPull (c : Config) : Bool := c.deliverSubject.isNone

/-- Messages are pushed. -/
def isPush (c : Config) : Bool := c.deliverSubject.isSome

/-- The consumer has no name of its own. -/
def isEphemeral (c : Config) : Bool := c.durableName.isNone

/-! ## Writing -/

/-- A text that is there and not empty. -/
def nonEmpty (text : Option String) : Option String :=
  text.filter fun s => !s.isEmpty

/-- The member for a text, unless it is empty. -/
def textMember (name : String) (text : Option String) : List (String × Json) :=
  match nonEmpty text with
  | some s => [(name, .string s)]
  | none => []

/-- The member for a number, unless it is zero. -/
def numberMember (name : String) (n : Int) : List (String × Json) :=
  if n = 0 then [] else [(name, .integer n)]

/-- The members for where a consumer starts. -/
def startMembers : DeliverPolicy → List (String × Json)
  | .byStartSequence n => [("opt_start_seq", .integer n.toNat)]
  | .byStartTime t => [("opt_start_time", .string t.text)]
  | _ => []

/-- The acknowledgement wait on the wire: nanoseconds of 64 bits. -/
def wireWait (wait : Duration) : Nat :=
  min wait.nanoseconds Text.maxUnsigned64

/-- The members of the record. -/
def members (c : Config) : List (String × Json) :=
  textMember "durable_name" c.durableName ++
  textMember "deliver_subject" c.deliverSubject ++
  [("deliver_policy", .string c.deliverPolicy.wireName)] ++
  startMembers c.deliverPolicy ++
  [("ack_policy", .string c.ackPolicy.wireName)] ++
  numberMember "ack_wait" (wireWait c.ackWait) ++
  numberMember "max_deliver" c.maxDeliver.toInt ++
  textMember "filter_subject" c.filterSubject ++
  [("replay_policy", .string c.replayPolicy.wireName)] ++
  numberMember "rate_limit_bps" c.rateLimit.toNat ++
  textMember "sample_freq" (c.sampleFrequency.map fun percent => toString percent.toNat) ++
  numberMember "max_ack_pending" c.maxAckPending.toInt

/-- The configuration as a document. -/
def toJson (c : Config) : Json :=
  .object c.members

/-- The canonical form. -/
def canonical (c : Config) : String :=
  c.toJson.pretty

/-! ## Reading -/

/-- The names of the fields, in the order of the wire. -/
def fields : List String :=
  ["durable_name", "deliver_subject", "deliver_policy", "opt_start_seq", "opt_start_time",
   "ack_policy", "ack_wait", "max_deliver", "filter_subject", "replay_policy", "rate_limit_bps",
   "sample_freq", "max_ack_pending"]

/-- The names that the operator may give without being told that they do not count. -/
def knownFields : List String :=
  ["durable_name", "deliver_subject", "deliver_policy", "opt_start_seq", "opt_start_time",
   "ack_policy", "ack_wait", "max_deliver", "filter_subject", "replay_policy", "rate_limit_bps",
   "sample_freq", "max_ack_pending"]

/-- The names in a document that are not known. -/
def unknownFields : Json → List String
  | .object members => (members.map (·.1)).filter fun name => !knownFields.contains name
  | _ => []

/-- The fields of a record, each with a value of its type. -/
structure Fields where
  durableName : Option String
  deliverSubject : Option String
  deliverPolicy : String
  startSequence : Option Nat
  startTime : Option Instant
  ackPolicy : AckPolicy
  ackWait : Nat
  maxDeliver : Int
  filterSubject : Option String
  replayPolicy : ReplayPolicy
  rateLimit : Nat
  sampleFrequency : Option String
  maxAckPending : Int

/-- A text that may be missing, null or empty. -/
def readText? (value : Json) : Option (Option String) :=
  (value.optional? Json.asString?).map nonEmpty

/-- A point in time. -/
def readInstant? (value : Json) : Option Instant :=
  value.asString?.bind Instant.read?

/-- The name of a choice: a text, or an object with null under the name. -/
def readChoice? : Json → Option String
  | .string name => some name
  | .object [(name, .null)] => some name
  | _ => none

/-- Reads every field, with the default of each that is missing. -/
def Fields.ofRecord? (r : Json.Record) : Option Fields :=
  if r.surplus then none
  else do
    let durableName ← r.read "durable_name" none readText?
    let deliverSubject ← r.read "deliver_subject" none readText?
    let deliverPolicy ← r.read "deliver_policy" "all" Json.asString?
    let startSequence ← r.read "opt_start_seq" none (Json.optional? Json.asUnsigned64?)
    let startTime ← r.read "opt_start_time" none (Json.optional? readInstant?)
    let ackPolicy ← r.read "ack_policy" .none fun value =>
      (readChoice? value).bind AckPolicy.ofWireName?
    let ackWait ← r.read "ack_wait" 0 Json.asUnsigned64?
    let maxDeliver ← r.read "max_deliver" 0 Json.asSigned64?
    let filterSubject ← r.read "filter_subject" none readText?
    let replayPolicy ← r.read "replay_policy" .instant fun value =>
      (readChoice? value).bind ReplayPolicy.ofWireName?
    let rateLimit ← r.read "rate_limit_bps" 0 Json.asUnsigned64?
    let sampleFrequency ← r.read "sample_freq" none readText?
    let maxAckPending ← r.read "max_ack_pending" 0 Json.asSigned64?
    some ⟨durableName, deliverSubject, deliverPolicy, startSequence, startTime, ackPolicy, ackWait,
      maxDeliver, filterSubject, replayPolicy, rateLimit, sampleFrequency, maxAckPending⟩

/-- Why fields make no configuration. -/
inductive Fault where
  /-- There is no such deliver policy. -/
  | unknownDeliverPolicy (name : String)
  /-- The point in time to start from is missing. -/
  | startTimeMissing
  /-- The sample frequency is none. -/
  | sample (fault : Sample.Fault)
  deriving DecidableEq

/-- What the operator is told. -/
def Fault.message : Fault → String
  | unknownDeliverPolicy name => "unknown deliver policy '" ++ name ++ "'"
  | startTimeMissing => "deliver policy by_start_time requires opt_start_time"
  | sample fault => fault.message

/-- Where the consumer starts, by the name of the policy. -/
def Fields.start (f : Fields) : Except Fault DeliverPolicy :=
  match f.deliverPolicy with
  | "all" | "" => .ok .all
  | "last" => .ok .last
  | "new" => .ok .new
  | "last_per_subject" => .ok .lastPerSubject
  | "by_start_sequence" => .ok (.byStartSequence (UInt64.ofNat (f.startSequence.getD 0)))
  | "by_start_time" =>
      match f.startTime with
      | some start => .ok (.byStartTime start)
      | none => .error .startTimeMissing
  | name => .error (.unknownDeliverPolicy name)

/-- The sample frequency, if there is one. -/
def Fields.sample (f : Fields) : Except Fault (Option UInt8) :=
  match f.sampleFrequency with
  | none => .ok none
  | some text =>
      match Sample.parse text with
      | .ok percent => .ok (some percent)
      | .error fault => .error (.sample fault)

/-- The configuration of the fields. -/
def Fields.toConfig (f : Fields) : Except Fault Config := do
  let deliverPolicy ← f.start
  let sampleFrequency ← f.sample
  .ok
    { durableName := f.durableName
      deliverSubject := f.deliverSubject
      filterSubject := f.filterSubject
      deliverPolicy := deliverPolicy
      ackPolicy := f.ackPolicy
      ackWait := ⟨f.ackWait⟩
      replayPolicy := f.replayPolicy
      maxDeliver := Int64.ofInt f.maxDeliver
      maxAckPending := Int64.ofInt f.maxAckPending
      rateLimit := UInt64.ofNat f.rateLimit
      sampleFrequency := sampleFrequency }

/-- The configuration of a record. -/
def ofRecord (r : Json.Record) : Except Json.Fault Config :=
  match Fields.ofRecord? r with
  | none => .error .malformed
  | some f =>
      match f.toConfig with
      | .ok c => .ok c
      | .error fault => .error (.refused fault.message)

/-- The configuration of a document. -/
def ofJson (document : Json) : Except Json.Fault Config :=
  match Json.Record.ofJson? fields document with
  | some r => ofRecord r
  | none => .error .malformed

/-- The configuration of a text, read without making a document of it: no field may stand there
twice, and what is no field need not have a value.  What follows the record is looked at last. -/
def parse (text : String) : Except Json.Fault Config :=
  match Json.Written.read (Json.Token.scan text.toList) with
  | none => .error .malformed
  | some (written, rest) =>
      match Json.Record.ofWritten? fields written with
      | none => .error .malformed
      | some r =>
          match ofRecord r with
          | .error fault => .error fault
          | .ok c => if rest = [] then .ok c else .error .malformed

end Config

end JetStream.Consumer
