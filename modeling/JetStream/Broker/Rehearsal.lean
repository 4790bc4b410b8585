import JetStream.Broker.Api
import JetStream.Procedure

/-!
# Rehearsals

A procedure can be run against a server that answers from a script: replies under the subjects of
the API, each given once, and messages that are pushed under other subjects.  Everything that is
sent to the server is noted.
-/

namespace JetStream.Broker

open Text (Bytes)

/-- A reply, or a status in the place of one. -/
structure Reply where
  message : Message
  /-- The number of a status. -/
  status : Option Nat := none
  deriving DecidableEq, Inhabited

/-- The status of a subject at which nobody listens. -/
def noResponders : Nat := 503

/-- Something that was sent to the server. -/
structure Sent where
  subject : String
  body : String
  /-- It asks for a reply. -/
  isRequest : Bool
  deriving DecidableEq

/-- The world of a rehearsal. -/
structure Rehearsal where
  replies : NameMap (List Reply) := []
  pushes : NameMap (List Message) := []
  /-- Requests and replies are told. -/
  trace : Bool := false
  /-- How long was waited. -/
  clock : Duration := .zero
  sent : List Sent := []
  /-- What was shown to the operator. -/
  output : String := ""
  /-- What was told. -/
  events : List Log.Event := []

namespace Rehearsal

/-- Tells of something sent or received, if that is wanted. -/
def traced (w : Rehearsal) (arrow subject body : String) : Rehearsal :=
  if w.trace then
    { w with events := w.events ++ [.debug (arrow ++ " " ++ subject ++ ": " ++ body) []] }
  else w

/-- Notes something that is sent. -/
def send (w : Rehearsal) (sent : Sent) : Rehearsal :=
  { w with sent := w.sent ++ [sent] }

/-- Sends a request and takes the next reply under its subject. -/
def exchange (w : Rehearsal) (call : Api.Call) : Reply × Rehearsal :=
  let w := (w.traced ">>>" call.subject call.body).send ⟨call.subject, call.body, true⟩
  match w.replies.get? call.subject with
  | some (reply :: rest) => (reply, { w with replies := w.replies.insert call.subject rest })
  | _ => ({ message := { subject := call.subject }, status := some noResponders }, w)

/-- Pulls a message.  A status in its place ends the pull. -/
def pull (w : Rehearsal) (call : Api.Call) (stream consumer : String) (expiry : Duration) :
    Except Error Message × Rehearsal :=
  let (reply, w) := w.exchange call
  match reply.status with
  | none => (.ok reply.message, w)
  | some status =>
      (.error (noMessage stream consumer expiry),
        { w with events := w.events ++
            [.debug "pull request ended without a message" [("status", toString status)]] })

/-- Sends a request and reads the reply. -/
def ask (w : Rehearsal) (call : Api.Call) (r : Request) : Except Error r.Answer × Rehearsal :=
  let (reply, w) := w.exchange call
  if reply.status = some noResponders then
    (.error (.broker (call.subject ++ ": no responders: no responders")), w)
  else
    let payload := reply.message.payload
    (Api.answer call.subject payload r,
      w.traced "<<<" call.subject (Text.ofBytesLossy payload))

/-- Sends an empty reply to a message. -/
def respond (w : Rehearsal) (message : Message) : Except Error Unit × Rehearsal :=
  match message.replySubject with
  | .error e => (.error e, w)
  | .ok reply =>
      (.ok (), (w.traced ">>>" reply "(empty)").send ⟨reply, "", false⟩)

/-- Answers a request. -/
def answer (w : Rehearsal) : (r : Request) → Except Error r.Answer × Rehearsal
  | .fetchNext stream consumer expiry =>
      match Api.call? (.fetchNext stream consumer expiry) with
      | some call => w.pull call stream consumer expiry
      | none => (.error (noMessage stream consumer expiry), w)
  | .subscribe subject => (.ok ((w.pushes.get? subject).getD []), w)
  | .respondEmpty message => w.respond message
  | .flush => (.ok (), w)
  | r =>
      match Api.call? r with
      | some call => w.ask call r
      | none => (.error (Api.unexpected ""), w)

/-- Answers an effect. -/
def handle : Procedure.Handler Rehearsal
  | .request r, w => w.answer r
  | .write text, w => (.ok (), { w with output := w.output ++ text })
  | .wait duration, w => ((), { w with clock := w.clock + duration })
  | .clock, w => (w.clock, w)
  | .timeOfDay, w => ("00:00:00", w)
  | .tell event, w => ((), { w with events := w.events ++ [event] })

/-- Runs a procedure.  What was sent, shown and told is what was meanwhile. -/
def run {α : Type} (w : Rehearsal) (procedure : Procedure α) : α × Rehearsal :=
  procedure.run handle { w with sent := [], output := "", events := [] }

end Rehearsal

end JetStream.Broker
