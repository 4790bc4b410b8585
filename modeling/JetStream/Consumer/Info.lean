import JetStream.Cluster
import JetStream.Consumer.Config

/-!
# The state of consumers

What the broker tells about a consumer: what it is, how far it has come, and who holds it.
-/

namespace JetStream.Consumer

/-- A place in the course of a consumer. -/
structure Cursor where
  /-- The count of deliveries. -/
  consumer : Nat := 0
  /-- The sequence in the stream. -/
  stream : Nat := 0
  deriving DecidableEq, Inhabited

namespace Cursor

/-- The data of a cursor. -/
def toJson (c : Cursor) : Json :=
  .object [("consumer_seq", .integer c.consumer), ("stream_seq", .integer c.stream)]

/-- The cursor of some data. -/
def ofJson? (value : Json) : Option Cursor := do
  let r ← Json.Record.ofJson? ["consumer_seq", "stream_seq"] value
  if r.surplus then none
  else
    let consumer ← r.read "consumer_seq" 0 Json.asUnsigned64?
    let stream ← r.read "stream_seq" 0 Json.asUnsigned64?
    some ⟨consumer, stream⟩

end Cursor

/-- The state of a consumer. -/
structure Info where
  /-- The stream. -/
  streamName : String
  /-- The name, which the broker makes up for a consumer without one. -/
  name : String
  created : Instant
  config : Config
  /-- The last delivery. -/
  delivered : Cursor := {}
  /-- The last delivery before the first that is not acknowledged. -/
  ackFloor : Cursor := {}
  /-- Deliveries that are not acknowledged. -/
  ackPending : Nat := 0
  /-- Messages that were delivered more than once. -/
  redelivered : Nat := 0
  /-- Pulls that wait for a message. -/
  waiting : Nat := 0
  /-- Messages that are not delivered. -/
  pending : Nat := 0
  /-- The servers that hold it, if there are several. -/
  cluster : Option Cluster := none
  deriving DecidableEq, Inhabited

namespace Info

/-- The names of the fields, in order. -/
def fields : List String :=
  ["stream_name", "name", "created", "config", "delivered", "ack_floor", "num_ack_pending",
   "num_redelivered", "num_waiting", "num_pending", "cluster"]

/-- The fields that must be there. -/
def requiredFields : List String :=
  ["stream_name", "name", "created", "config"]

/-- The data of a state. -/
def toJson (i : Info) : Json :=
  .object
    ([("stream_name", .string i.streamName),
      ("name", .string i.name),
      ("created", .string i.created.text),
      ("config", i.config.toJson),
      ("delivered", i.delivered.toJson),
      ("ack_floor", i.ackFloor.toJson),
      ("num_ack_pending", .integer i.ackPending),
      ("num_redelivered", .integer i.redelivered),
      ("num_waiting", .integer i.waiting),
      ("num_pending", .integer i.pending)] ++
    match i.cluster with
    | some cluster => [("cluster", cluster.toJson)]
    | none => [])

/-- Takes in a field. -/
def put (i : Info) (name : String) (value : Json) : Except Json.Fault Info :=
  let counter := Json.orMalformed value.asUnsigned64?
  match name with
  | "stream_name" => return { i with streamName := ← Json.orMalformed value.asString? }
  | "name" => return { i with name := ← Json.orMalformed value.asString? }
  | "created" => return { i with created := ← Json.orMalformed (Config.readInstant? value) }
  | "config" => return { i with config := ← Config.ofJson value }
  | "delivered" => return { i with delivered := ← Json.orMalformed (Cursor.ofJson? value) }
  | "ack_floor" => return { i with ackFloor := ← Json.orMalformed (Cursor.ofJson? value) }
  | "num_ack_pending" => return { i with ackPending := ← counter }
  | "num_redelivered" => return { i with redelivered := ← counter }
  | "num_waiting" => return { i with waiting := ← counter }
  | "num_pending" => return { i with pending := ← counter }
  | "cluster" =>
      return { i with cluster := ← Json.orMalformed (value.optional? Cluster.ofJson?) }
  | _ => return i

/-- The state before any field is taken in. -/
def blank : Info :=
  { streamName := "", name := "", created := .epoch, config := {} }

/-- The state of some data.  The first field with a fault decides what is told. -/
def ofJson (value : Json) : Except Json.Fault Info :=
  match Json.Record.ofJson? fields value with
  | none => .error .malformed
  | some r => do
      let info ← r.entries.foldlM (fun i entry => i.put entry.1 entry.2) blank
      if r.surplus || !requiredFields.all fun name => (r.get? name).isSome then
        .error .malformed
      else .ok info

end Info

end JetStream.Consumer
