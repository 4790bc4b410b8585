import JetStream.Consumer.Flags
import JetStream.Consumer.Rules

/-!
# Copies of consumers

The configuration of a copy is that of its source, changed only where an option was given.
-/

namespace JetStream.Consumer

/-- The name of a copy; an empty destination names none. -/
def copyName (flags : Flags) (destination : String) : Except Error (Option String) :=
  if flags.ephemeral || destination.isEmpty then .ok none
  else do
    checkName destination
    .ok (some destination)

/-- Where messages of a copy are pushed to. -/
def copyDelivery (flags : Flags) (source : Config) : Option String :=
  if flags.pull then none else (given flags.deliverSubject).or source.deliverSubject

/-- The configuration of a copy. -/
def copy (now : Instant) (flags : Flags) (source : Config) (destination : String) :
    Except Error Config := do
  let sample ← readGiven flags.samplePercent source.sampleFrequency readSample
  let start ← readGiven flags.startPolicy source.deliverPolicy (readStart · now)
  let name ← copyName flags destination
  let ackToken := if flags.pull then some "explicit" else flags.ackPolicy
  let ack ← readGiven ackToken source.ackPolicy readAckPolicy
  let replay ← readGiven flags.replayPolicy source.replayPolicy readReplayPolicy
  let c : Config :=
    { durableName := name
      deliverSubject := copyDelivery flags source
      filterSubject := match flags.filterSubject with
        | some filter => given (some filter)
        | none => source.filterSubject
      deliverPolicy := start
      ackPolicy := ack
      ackWait := (Duration.nonzero? flags.ackWait).getD source.ackWait
      replayPolicy := replay
      maxDeliver := (flags.maxDeliver.filter (· != 0)).getD source.maxDeliver
      maxAckPending := (flags.maxAckPending.filter (· != -1)).getD source.maxAckPending
      rateLimit := (flags.rateLimit.filter (0 < ·)).getD source.rateLimit
      sampleFrequency := sample }
  if 0 < c.rateLimit ∧ c.isPull then .error rateLimitOnPull
  else if c.isEphemeral ∧ c.isPull then .error ephemeralPull
  else .ok c

end JetStream.Consumer
