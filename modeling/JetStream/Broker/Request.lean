import JetStream.Consumer.Info
import JetStream.Duration.Text
import JetStream.Message
import JetStream.StreamInfo

/-!
# Requests to the broker

What the tool asks of the broker, and what each request is answered with.  Whoever serves requests
decides how: the broker in memory, or a server behind its API.
-/

namespace JetStream.Broker

/-- A request to the broker. -/
inductive Request where
  /-- The state of a stream. -/
  | streamInfo (stream : String)
  /-- The names of all streams. -/
  | streamNames
  /-- The names of the consumers of a stream. -/
  | consumerNames (stream : String)
  /-- The state of a consumer. -/
  | consumerInfo (stream consumer : String)
  /-- A new consumer. -/
  | createConsumer (stream : String) (config : Consumer.Config)
  /-- An end to a consumer. -/
  | deleteConsumer (stream consumer : String)
  /-- An end to the leadership over a consumer. -/
  | stepDown (stream consumer : String)
  /-- One message of a pull consumer, for which to wait so long. -/
  | fetchNext (stream consumer : String) (expiry : Duration)
  /-- All messages that are pushed to a subject. -/
  | subscribe (subject : String)
  /-- An empty reply to a message. -/
  | respondEmpty (message : Message)
  /-- Delivery of everything that was sent. -/
  | flush
  deriving DecidableEq

/-- What a request is answered with when it succeeds. -/
abbrev Request.Answer : Request → Type
  | streamInfo _ => StreamInfo
  | streamNames | consumerNames _ => List String
  | consumerInfo _ _ | createConsumer _ _ => Consumer.Info
  | deleteConsumer _ _ | stepDown _ _ | respondEmpty _ | flush => Unit
  | fetchNext _ _ _ => Message
  | subscribe _ => List Message

/-- Nothing came from a pull consumer in the time allowed. -/
def noMessage (stream consumer : String) (expiry : Duration) : Error :=
  .timeout
    ("no message received from " ++ stream ++ " > " ++ consumer ++ " within " ++ expiry.exact)

/-- Why a consumer that pushes hands out nothing that is asked of it. -/
def notPull (stream consumer : String) : String :=
  "consumer " ++ stream ++ " > " ++ consumer ++ " is not a pull consumer"

end JetStream.Broker
