import JetStream.Json.Fault
import JetStream.Json.Record

/-!
# The state of streams

What the broker tells about a stream: its subjects, and how much it holds.
-/

namespace JetStream

/-- Counters of a stream. -/
structure StreamState where
  messages : Nat := 0
  bytes : Nat := 0
  firstSequence : Nat := 0
  lastSequence : Nat := 0
  consumers : Nat := 0
  deriving DecidableEq, Inhabited

/-- The state of a stream. -/
structure StreamInfo where
  name : String
  /-- The subjects that the stream captures. -/
  subjects : List String
  state : StreamState := {}
  deriving DecidableEq, Inhabited

namespace StreamState

/-- The data of the counters. -/
def toJson (s : StreamState) : Json :=
  .object
    [("messages", .integer s.messages), ("bytes", .integer s.bytes),
     ("first_seq", .integer s.firstSequence), ("last_seq", .integer s.lastSequence),
     ("consumer_count", .integer s.consumers)]

/-- The counters of some data. -/
def ofJson? (value : Json) : Option StreamState := do
  let r ← Json.Record.ofJson?
    ["messages", "bytes", "first_seq", "last_seq", "consumer_count"] value
  if r.surplus then none
  else
    let counter := fun name => r.read name 0 Json.asUnsigned64?
    some
      { messages := ← counter "messages"
        bytes := ← counter "bytes"
        firstSequence := ← counter "first_seq"
        lastSequence := ← counter "last_seq"
        consumers := ← counter "consumer_count" }

end StreamState

namespace StreamInfo

/-- The data of a state. -/
def toJson (s : StreamInfo) : Json :=
  .object
    [("config", .object [("name", .string s.name), ("subjects", Json.ofStrings s.subjects)]),
     ("state", s.state.toJson)]

/-- The name and the subjects of some data. -/
def readConfig? (value : Json) : Option (String × List String) := do
  let r ← Json.Record.ofJson? ["name", "subjects"] value
  if r.surplus then none
  else
    let name ← r.require "name" Json.asString?
    let subjects ← r.read "subjects" [] Json.asStrings?
    some (name, subjects)

/-- The state of some data. -/
def ofJson? (value : Json) : Option StreamInfo := do
  let r ← Json.Record.ofJson? ["config", "state"] value
  if r.surplus then none
  else
    let (name, subjects) ← r.require "config" readConfig?
    let state ← r.read "state" {} StreamState.ofJson?
    some ⟨name, subjects, state⟩

end StreamInfo

end JetStream
