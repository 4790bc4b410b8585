import JetStream.Consumer.Info
import JetStream.Message
import JetStream.NameMap

/-!
# The state of the broker in memory

Streams with their messages, and for every consumer of a stream what it is yet to be handed and
what it has not acknowledged.  Beside them stand queues of messages outside of any stream, faults
that are to come, and counts of what was asked.
-/

namespace JetStream.Broker.Memory

/-- A message in a stream. -/
structure Stored where
  /-- Its number in the stream; the first message has the number 1. -/
  sequence : Nat
  subject : String
  headers : List (String × String)
  payload : Text.Bytes
  /-- When it was stored. -/
  time : Instant
  deriving DecidableEq

/-- What the broker keeps for a consumer. -/
structure HeldConsumer where
  /-- What it tells about the consumer. -/
  info : Consumer.Info
  /-- The sequences of the messages that it is yet to hand out, in order. -/
  pending : List Nat
  /-- The stream sequences that were handed out and not acknowledged, ascending, each with the
  count of deliveries that it had. -/
  unacked : List (Nat × Nat) := []
  /-- After how many requests for its state a new leader shows; without a number none ever does. -/
  electAfter : Option Nat := some 1
  /-- During an election, how many requests are left until the new leader shows. -/
  election : Option Nat := none
  deriving DecidableEq

/-- What the broker keeps for a stream. -/
structure HeldStream where
  /-- The filters of the subjects that it captures. -/
  subjects : List String
  /-- The messages, in order. -/
  messages : List Stored := []
  consumers : NameMap HeldConsumer := []
  deriving DecidableEq

/-- All that the broker keeps. -/
structure State where
  streams : NameMap HeldStream := []
  /-- Messages outside of any stream, under the subjects that they are to be pushed to. -/
  raw : NameMap (List Message) := []
  /-- The addresses of the acknowledgements that came, in order. -/
  acknowledged : List String := []
  /-- Acknowledgements fail. -/
  failsAcks : Bool := false
  /-- So many requests for the state of a consumer are yet to fail. -/
  failsInfo : Nat := 0
  /-- How often leaders were asked to step down. -/
  stepDowns : Nat := 0
  /-- How often the state of a consumer was asked for. -/
  infoRequests : Nat := 0
  flushes : Nat := 0
  deriving DecidableEq, Inhabited

/-- There is no such stream. -/
def unknownStream (stream : String) : Error :=
  .notFound ("stream " ++ stream)

/-- There is no such consumer. -/
def unknownConsumer (stream consumer : String) : Error :=
  .notFound ("consumer " ++ stream ++ " > " ++ consumer)

namespace State

/-- What is kept for a stream. -/
def stream (s : State) (name : String) : Except Error HeldStream :=
  match s.streams.get? name with
  | some held => .ok held
  | none => .error (unknownStream name)

/-- What is kept for a consumer. -/
def consumer (s : State) (streamName name : String) : Except Error HeldConsumer := do
  match (← s.stream streamName).consumers.get? name with
  | some held => .ok held
  | none => .error (unknownConsumer streamName name)

/-- Changes what is kept for the consumers of a stream. -/
def modifyConsumers (s : State) (streamName : String)
    (f : NameMap HeldConsumer → NameMap HeldConsumer) : State :=
  { s with streams :=
      s.streams.modify streamName fun held => { held with consumers := f held.consumers } }

/-- Changes what is kept for a consumer. -/
def modifyConsumer (s : State) (streamName name : String) (f : HeldConsumer → HeldConsumer) :
    State :=
  s.modifyConsumers streamName (·.modify name f)

end State

end JetStream.Broker.Memory
