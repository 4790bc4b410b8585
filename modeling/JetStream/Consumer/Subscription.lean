import JetStream.Consumer.Handle
import JetStream.Duration.Text
import JetStream.Report.Message

/-!
# Subscriptions

The messages that are pushed to a consumer's subject are shown as they come, and acknowledged one by
one.  An acknowledgement that fails is told, and the subscription goes on.
-/

namespace JetStream.Consumer

open Job (attempt request tell timeOfDay write)

/-- How to receive. -/
structure SubscribeOptions where
  /-- Acknowledge every message. -/
  ack : Bool := true
  /-- Show bodies alone. -/
  raw : Bool := false
  deriving DecidableEq, Inhabited

/-- The options that count: where nothing is acknowledged there are no acknowledgements. -/
def SubscribeOptions.effective (options : SubscribeOptions) (h : Handle) : SubscribeOptions :=
  { options with ack := options.ack && h.config.ackPolicy ≠ .none }

/-- What was received. -/
structure Summary where
  received : Nat := 0
  acknowledged : Nat := 0
  /-- Acknowledgements that failed. -/
  failures : Nat := 0
  deriving DecidableEq, Inhabited

/-- What is shown before the first message. -/
def subscriptionHeader (h : Handle) (subject : String) (ack : Bool) : String :=
  "Subscribing to topic " ++ subject ++ " auto acknowledgement: " ++
    (if ack then "true" else "false") ++ "\n\n" ++
  "Consumer Info:\n" ++
  "  Ack Policy: " ++ h.config.ackPolicy.title ++ "\n" ++
  (if h.config.ackPolicy = .none then ""
    else "    Ack Wait: " ++ h.config.ackWait.humanize ++ "\n") ++
  "\n"

/-- Tells that an acknowledgement failed. -/
def reportFailure (message : Message) (e : Error) : Job Unit := do
  let reply := message.reply.getD ""
  tell (.warn "acknowledgement failed" [("reply", reply), ("error", e.message)])
  write ("Acknowledging message via subject " ++ reply ++ " failed: " ++ e.message ++ "\n")

/-- Shows a message and acknowledges it. -/
def receive (options : SubscribeOptions) (s : Summary) (message : Message) : Job Summary := do
  let s := { s with received := s.received + 1 }
  write (Report.message (← timeOfDay) message .pushed options.raw)
  if options.ack then
    match ← attempt (.respondEmpty message) with
    | .ok () => return { s with acknowledged := s.acknowledged + 1 }
    | .error e =>
        reportFailure message e
        return { s with failures := s.failures + 1 }
  else return s

/-- Shows messages in order. -/
def receiveAll (options : SubscribeOptions) : List Message → Summary → Job Summary
  | [], s => return s
  | message :: rest, s => do receiveAll options rest (← receive options s message)

/-- What is told at the end. -/
def subscriptionEnded (s : Summary) : Log.Event :=
  .info "subscription ended"
    [("received", toString s.received), ("acknowledged", toString s.acknowledged),
     ("failures", toString s.failures)]

/-- Receives the messages of a push consumer, all of them or, with an interruption, only so many. -/
def subscribe (h : Handle) (options : SubscribeOptions) (interruption : Option Nat) :
    Job Summary := do
  match h.config.deliverSubject with
  | none => throw (.input ("consumer " ++ h.label ++ " is not a push consumer"))
  | some subject =>
      let options := options.effective h
      if !options.raw then write (subscriptionHeader h subject options.ack)
      let messages ← request (.subscribe subject)
      tell (.info "subscribed"
        [("subject", subject), ("ack", if options.ack then "true" else "false")])
      let summary ← receiveAll options ((interruption.map messages.take).getD messages) {}
      if interruption.isSome then tell (.debug "subscription interrupted" [])
      tell (subscriptionEnded summary)
      return summary

end JetStream.Consumer
