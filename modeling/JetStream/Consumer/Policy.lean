import JetStream.Instant.Basic
import JetStream.Text.Case

/-!
# Policies of consumers

Where in its stream a consumer starts, whether its messages are acknowledged, and how fast they are
replayed.
-/

namespace JetStream

/-- Where in the stream a consumer starts. -/
inductive DeliverPolicy where
  /-- Every message of the stream. -/
  | all
  /-- The last message. -/
  | last
  /-- Messages to come. -/
  | new
  /-- Messages from a sequence on. -/
  | byStartSequence (sequence : UInt64)
  /-- Messages from a point in time on. -/
  | byStartTime (start : Instant)
  /-- The last message of each subject. -/
  | lastPerSubject
  deriving DecidableEq, Inhabited

/-- The name on the wire. -/
def DeliverPolicy.wireName : DeliverPolicy → String
  | all => "all"
  | last => "last"
  | new => "new"
  | byStartSequence _ => "by_start_sequence"
  | byStartTime _ => "by_start_time"
  | lastPerSubject => "last_per_subject"

/-- What is acknowledged. -/
inductive AckPolicy where
  /-- Nothing; every message is delivered once. -/
  | none
  /-- Each message together with all before it. -/
  | all
  /-- Each message. -/
  | explicit
  deriving DecidableEq, Inhabited

namespace AckPolicy

/-- The name on the wire. -/
def wireName : AckPolicy → String
  | none => "none"
  | all => "all"
  | explicit => "explicit"

/-- The name in reports. -/
def title : AckPolicy → String
  | none => "None"
  | all => "All"
  | explicit => "Explicit"

/-- The policy of a name on the wire. -/
def ofWireName? : String → Option AckPolicy
  | "none" => some none
  | "all" => some all
  | "explicit" => some explicit
  | _ => Option.none

/-- The policy that an operator names, in any case. -/
def ofToken? (token : String) : Option AckPolicy :=
  ofWireName? (Text.lower token)

end AckPolicy

/-- How fast stored messages are replayed. -/
inductive ReplayPolicy where
  /-- As fast as possible. -/
  | instant
  /-- As they once came in. -/
  | original
  deriving DecidableEq, Inhabited

namespace ReplayPolicy

/-- The name on the wire. -/
def wireName : ReplayPolicy → String
  | instant => "instant"
  | original => "original"

/-- The name in reports. -/
def title : ReplayPolicy → String
  | instant => "Instant"
  | original => "Original"

/-- The policy of a name on the wire. -/
def ofWireName? : String → Option ReplayPolicy
  | "instant" => some instant
  | "original" => some original
  | _ => none

/-- The policy that an operator names, in any case. -/
def ofToken? (token : String) : Option ReplayPolicy :=
  ofWireName? (Text.lower token)

end ReplayPolicy

end JetStream
