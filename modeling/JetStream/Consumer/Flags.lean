import JetStream.Consumer.Sample
import JetStream.Duration.Basic

/-!
# Flags

What an operator says about a configuration on the command line, before anything is asked.
-/

namespace JetStream.Consumer

/-- Parts of a configuration; what is not given is open. -/
structure Flags where
  /-- The name. -/
  name : Option String := none
  /-- The consumer is to have no name. -/
  ephemeral : Bool := false
  /-- Messages are to be pulled. -/
  pull : Bool := false
  /-- Where messages are pushed to. -/
  deliverSubject : Option String := none
  /-- Which subjects are delivered; the empty text stands for all. -/
  filterSubject : Option String := none
  /-- The token for where to start. -/
  startPolicy : Option String := none
  /-- The name of the acknowledgement policy. -/
  ackPolicy : Option String := none
  /-- The name of the replay policy. -/
  replayPolicy : Option String := none
  /-- How long the broker waits for an acknowledgement. -/
  ackWait : Option Duration := none
  /-- The share of acknowledgements to sample, in percent. -/
  samplePercent : Option Int64 := none
  /-- How often a message is delivered at most. -/
  maxDeliver : Option Int64 := none
  /-- How many messages may be unacknowledged. -/
  maxAckPending : Option Int64 := none
  /-- Bits per second that are pushed. -/
  rateLimit : Option UInt64 := none
  /-- A file that replaces everything else. -/
  configFile : Option String := none
  deriving DecidableEq, Inhabited

/-- The text, unless there is none in it. -/
def given (text : Option String) : Option String :=
  text.filter fun s => !s.isEmpty

end JetStream.Consumer
