import JetStream.Consumer.Handle
import JetStream.Duration.Text
import JetStream.Random
import JetStream.Report.Message

/-!
# Fetching

One message is asked of a pull consumer, shown, and acknowledged after a random delay.
-/

namespace JetStream.Consumer

open Job (request tell timeOfDay wait write)

/-- How to fetch. -/
structure FetchOptions where
  /-- Acknowledge the message once it is shown. -/
  ack : Bool := true
  /-- Show its body alone. -/
  raw : Bool := false
  /-- The limit of the delay before the acknowledgement. -/
  ackWait : Duration := .zero
  /-- How long to wait for a message. -/
  expiry : Duration := .ofSeconds 5
  deriving DecidableEq, Inhabited

/-- What was fetched. -/
structure Fetched where
  message : Message
  /-- How long the acknowledgement was delayed, if there was one. -/
  ackDelay : Option Duration
  deriving DecidableEq

/-- The line about an acknowledgement. -/
def acknowledgedText (delay : Duration) : String :=
  (if delay.isZero then "\nAcknowledged message\n"
    else "\nAcknowledged message after " ++ delay.humanize ++ " delay\n") ++ "\n"

/-- Acknowledges a message after a delay. -/
def acknowledge (message : Message) (raw : Bool) (delay : Duration) : Job Unit := do
  if !delay.isZero then
    tell (.debug "delaying acknowledgement" [("delay", delay.exact)])
    wait delay
  Job.inContext "could not acknowledge message" (request (.respondEmpty message))
  request .flush
  tell (.info "acknowledged message" [("subject", message.subject)])
  if !raw then write (acknowledgedText delay)

/-- Fetches the next message, shows it and acknowledges it. -/
def fetch (h : Handle) (options : FetchOptions) (source : RandomSource) : Job Fetched := do
  let message ← Job.inContext "no message received"
    (request (.fetchNext h.stream h.name options.expiry))
  tell (.debug "received message" [("subject", message.subject)])
  write (Report.message (← timeOfDay) message .pulled options.raw)
  if options.ack then
    let delay := (source.delay options.ackWait).1
    acknowledge message options.raw delay
    return ⟨message, some delay⟩
  else return ⟨message, none⟩

end JetStream.Consumer
