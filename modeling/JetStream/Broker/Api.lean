import JetStream.Broker.Request
import JetStream.Json.Printer

/-!
# The API of the broker

A broker behind a server is asked by messages: each request has a subject that names it and a body
with its details, and each reply has a body with the answer.  A reply with an error in it is never
taken for an answer.
-/

namespace JetStream.Broker.Api

open Text (Bytes)

/-! ## Requests -/

/-- A message to the API. -/
structure Call where
  subject : String
  body : String
  deriving DecidableEq

/-- A subject of the API. -/
def subject (tokens : List String) : String :=
  ".".intercalate ("$JS" :: "API" :: tokens)

/-- The subject of a new consumer, which tells its name if it has one. -/
def createSubject (stream : String) (config : Consumer.Config) : String :=
  match config.durableName with
  | some name => subject ["CONSUMER", "DURABLE", "CREATE", stream, name]
  | none => subject ["CONSUMER", "CREATE", stream]

/-- The details of a new consumer. -/
def createBody (stream : String) (config : Consumer.Config) : Json :=
  .object [("stream_name", .string stream), ("config", config.toJson)]

/-- The details of a pull of one message. -/
def pullBody (expiry : Duration) : Json :=
  .object [("batch", .integer 1), ("expires", .integer expiry.wireNanoseconds)]

/-- The message that a request is sent as; subscriptions and replies go without the API. -/
def call? : Request → Option Call
  | .streamInfo stream => some ⟨subject ["STREAM", "INFO", stream], ""⟩
  | .streamNames => some ⟨subject ["STREAM", "NAMES"], "\x7b\x7d"⟩
  | .consumerNames stream => some ⟨subject ["CONSUMER", "NAMES", stream], "\x7b\x7d"⟩
  | .consumerInfo stream consumer => some ⟨subject ["CONSUMER", "INFO", stream, consumer], ""⟩
  | .createConsumer stream config =>
      some ⟨createSubject stream config, (createBody stream config).compact⟩
  | .deleteConsumer stream consumer => some ⟨subject ["CONSUMER", "DELETE", stream, consumer], ""⟩
  | .stepDown stream consumer =>
      some ⟨subject ["CONSUMER", "LEADER", "STEPDOWN", stream, consumer], ""⟩
  | .fetchNext stream consumer expiry =>
      some ⟨subject ["CONSUMER", "MSG", "NEXT", stream, consumer], (pullBody expiry).compact⟩
  | .subscribe _ | .respondEmpty _ | .flush => none

/-! ## Replies -/

/-- An error in a reply. -/
structure Refusal where
  code : Nat
  description : String
  deriving DecidableEq

namespace Refusal

/-- Codes have 16 bits. -/
def maxCode : Nat := 0xffff

/-- The error of some data. -/
def ofJson? (value : Json) : Option Refusal := do
  let r ← Json.Record.ofJson? ["code", "description"] value
  if r.surplus then none
  else
    let code ← r.require "code" (Json.asUnsigned? maxCode)
    let description ← r.read "description" "" Json.asString?
    some ⟨code, description⟩

/-- The code for what is not there. -/
def notFoundCode : Nat := 404

/-- What the error means for the request. -/
def toError (r : Refusal) : Error :=
  if r.code = notFoundCode then .notFound r.description
  else .broker (r.description ++ " (code " ++ toString r.code ++ ")")

end Refusal

/-- The error of a reply that is no answer to its request. -/
def unexpected (subject : String) : Error :=
  .broker ("unexpected response to " ++ subject ++ ": malformed data")

/-- The data in a body. -/
def document? (payload : Bytes) : Option Json :=
  (Text.ofBytes? payload).bind Json.parse?

/-- The error in a reply; `null` is none. -/
def refusal? (document : Json) : Option Json :=
  match document.member? "error" with
  | none | some .null => none
  | some value => some value

/-- Reads a reply.  An error in it comes before everything else. -/
def decode {α : Type} (subject : String) (read : Json → Option α) (payload : Bytes) :
    Except Error α :=
  match document? payload with
  | none => .error (.json .malformed)
  | some document =>
      match refusal? document with
      | some value =>
          match Refusal.ofJson? value with
          | some refusal => .error refusal.toError
          | none => .error (.json .malformed)
      | none =>
          match read document with
          | some answer => .ok answer
          | none => .error (unexpected subject)

/-- The only field of a reply, or a default where it is missing. -/
def readField {α : Type} (name : String) (default : α) (read : Json → Option α)
    (document : Json) : Option α := do
  let r ← Json.Record.ofJson? [name] document
  if r.surplus then none else r.read name default read

/-- Names in a field, in order; there may be none. -/
def readNames (name : String) (document : Json) : Option (List String) :=
  (readField name none (Json.optional? Json.asStrings?) document).map fun names =>
    (names.getD []).mergeSort fun a b => !decide (b < a)

/-- The data of a reply that says whether something was done. -/
def readSuccess : Json → Option Bool :=
  readField "success" false Json.asBool?

/-- Reads a reply that says whether something was done, and fails if it was not. -/
def confirm (subject : String) (failure : String) (payload : Bytes) : Except Error Unit := do
  if ← decode subject readSuccess payload then .ok () else .error (.broker failure)

/-- The state of a consumer in some data. -/
def readInfo (document : Json) : Option Consumer.Info :=
  (Consumer.Info.ofJson document).toOption

/-- Reads the reply to a request that was sent to a subject.  Messages do not come as replies of
this kind. -/
def answer (subject : String) (payload : Bytes) : (r : Request) → Except Error r.Answer
  | .streamInfo _ => decode subject StreamInfo.ofJson? payload
  | .streamNames => decode subject (readNames "streams") payload
  | .consumerNames _ => decode subject (readNames "consumers") payload
  | .consumerInfo _ _ | .createConsumer _ _ => decode subject readInfo payload
  | .deleteConsumer stream consumer =>
      confirm subject ("could not delete " ++ stream ++ " > " ++ consumer) payload
  | .stepDown _ _ => confirm subject "leader step down was not accepted" payload
  | .fetchNext _ _ _ | .subscribe _ | .respondEmpty _ | .flush => .error (unexpected subject)

end JetStream.Broker.Api
