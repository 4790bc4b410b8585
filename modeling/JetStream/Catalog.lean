import JetStream.Consumer.Flags
import JetStream.Consumer.Handle
import JetStream.Consumer.Prompter

/-!
# The catalog of streams and consumers

Streams and consumers are looked up by name.  Where the operator gives no name, one is chosen among
those that are there.
-/

namespace JetStream

open Job (inContext request tell)
open Consumer (Config Handle Info Prompter)

/-- A name, or what it is to be chosen among. -/
inductive Selection where
  /-- The name was given. -/
  | given (name : String)
  /-- There are some names for a thing. -/
  | among (what : String) (names : List String)
  deriving DecidableEq

/-- The name, chosen by whoever answers questions where it is not given. -/
def Selection.settle (prompter : Prompter) : Selection → Except Error String
  | given name => .ok name
  | among what names => prompter.choose what names

namespace Catalog

/-- The state of a stream. -/
def stream (name : String) : Job StreamInfo :=
  inContext ("could not load stream " ++ name) (request (.streamInfo name))

/-- The names of all streams. -/
def streamNames : Job (List String) :=
  inContext "could not load Streams" (request .streamNames)

/-- The names of the consumers of a stream. -/
def consumerNames (stream : String) : Job (List String) :=
  request (.consumerNames stream)

/-- The handle of a consumer. -/
def consumer (stream name : String) : Job Handle := do
  let info ← inContext ("could not load consumer " ++ stream ++ " > " ++ name)
    (request (.consumerInfo stream name))
  tell (.debug "loaded consumer" [("stream", stream), ("consumer", name)])
  return .ofInfo info

/-- Creates a consumer. -/
def create (stream : String) (config : Config) : Job Handle := do
  let info ← inContext "consumer creation failed" (request (.createConsumer stream config))
  tell (.info "created consumer" [("stream", stream), ("consumer", info.name)])
  return .ofInfo info

/-- Selects a stream. -/
def selectStream (name : Option String) : Job Selection := do
  match Consumer.given name with
  | some name => return .given name
  | none =>
      let names ← streamNames
      if names.isEmpty then throw (.notFound "no Streams defined")
      return .among "Stream" names

/-- Selects a consumer of a stream. -/
def selectConsumer (stream : String) (name : Option String) : Job Selection := do
  match Consumer.given name with
  | some name => return .given name
  | none =>
      let names ← inContext ("could not load Consumers of " ++ stream) (consumerNames stream)
      if names.isEmpty then throw (.notFound ("no Consumers defined on " ++ stream))
      return .among "Consumer" names

end Catalog

end JetStream
