import JetStream.Instant.Basic
import JetStream.Text.Integer
import JetStream.Text.Split

/-!
# Delivery metadata

The address for acknowledgements tells about the delivery: stream and consumer, how often the
message was delivered, its sequences, when it was stored, and how many messages are left.  A longer
form also names a domain, `_` for none, and an account.
-/

namespace JetStream

/-- Details of a delivery. -/
structure Metadata where
  /-- The domain of the broker, if it has one. -/
  domain : Option String := none
  stream : String
  consumer : String
  /-- How often the message was delivered. -/
  delivered : Nat
  streamSequence : Nat
  consumerSequence : Nat
  /-- When the message was stored. -/
  stored : Instant
  /-- Messages left for the consumer. -/
  pending : Nat
  deriving DecidableEq, Inhabited

namespace Metadata

open Text

/-- The seven tokens that both forms end with; what follows them does not count. -/
def ofTokens? (domain : Option String) : List String → Option Metadata
  | stream :: consumer :: delivered :: streamSequence :: consumerSequence :: stored :: pending ::
      _ => do
      let stored ← signed64? stored
      some
        { domain := domain
          stream := stream
          consumer := consumer
          delivered := ← unsigned64? delivered
          streamSequence := ← unsigned64? streamSequence
          consumerSequence := ← unsigned64? consumerSequence
          stored := ← Instant.ofNanosecondsSinceEpoch? stored
          pending := ← unsigned64? pending }
  | _ => none

/-- The details in an address of nine tokens, or of eleven and more. -/
def parse? (reply : String) : Option Metadata :=
  match split '.' reply with
  | "$JS" :: "ACK" :: rest =>
      if rest.length = 7 then ofTokens? none rest
      else if 9 ≤ rest.length then
        match rest with
        | domain :: _ :: rest => ofTokens? (if domain = "_" then none else some domain) rest
        | _ => none
      else none
  | _ => none

/-- The address with the details, in the form of nine tokens.  A time outside of 64 bits of
nanoseconds is written as zero. -/
def reply (m : Metadata) : String :=
  ".".intercalate
    ["$JS", "ACK", m.stream, m.consumer, toString m.delivered, toString m.streamSequence,
     toString m.consumerSequence, toString (m.stored.nanosecondsSinceEpoch?.getD 0),
     toString m.pending]

end Metadata

end JetStream
