import JetStream.Procedure

/-!
# Handles

A handle stands for a consumer of a stream.  Its configuration is the one that the consumer had when
the handle was made; the state is asked of the broker every time.
-/

namespace JetStream.Consumer

open Job (request)

/-- A consumer of a stream. -/
structure Handle where
  stream : String
  name : String
  /-- What the consumer was when the handle was made. -/
  config : Config
  deriving DecidableEq, Inhabited

namespace Handle

/-- The handle of a consumer with some state. -/
def ofInfo (info : Info) : Handle :=
  ⟨info.streamName, info.name, info.config⟩

/-- How messages name the consumer. -/
def label (h : Handle) : String :=
  h.stream ++ " > " ++ h.name

/-- The request for the state. -/
def stateRequest (h : Handle) : Broker.Request :=
  .consumerInfo h.stream h.name

/-- The state, as it is now. -/
def state (h : Handle) : Job Info :=
  request h.stateRequest

/-- An end to the consumer. -/
def delete (h : Handle) : Job Unit :=
  request (.deleteConsumer h.stream h.name)

end Handle

end JetStream.Consumer
