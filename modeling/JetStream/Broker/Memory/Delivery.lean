import JetStream.Broker.Memory.State
import JetStream.Subject

/-!
# Delivery from memory

Where a new consumer starts, how messages are handed to it and acknowledged, and how its leader
changes.
-/

namespace JetStream.Broker.Memory

open Consumer (Config)

/-! ## Where a consumer starts -/

/-- The last sequence under each subject, in ascending order of the sequences. -/
def lastPerSubject (messages : List Stored) : List Nat :=
  let last := NameMap.ofList (messages.map fun m => (m.subject, m.sequence))
  (last.map (·.2)).mergeSort

/-- The sequences, among those of the messages, that a policy starts with. -/
def startingSequences (policy : DeliverPolicy) (messages : List Stored) : List Nat :=
  match policy with
  | .all => messages.map (·.sequence)
  | .new => []
  | .last => (messages.getLast?.map (·.sequence)).toList
  | .byStartSequence start =>
      (messages.filter fun m => start.toNat ≤ m.sequence).map (·.sequence)
  | .byStartTime start => (messages.filter fun m => start.le m.time).map (·.sequence)
  | .lastPerSubject => lastPerSubject messages

/-- The sequences that a new consumer starts with. -/
def initialSequences (messages : List Stored) (config : Config) : List Nat :=
  startingSequences config.deliverPolicy
    (messages.filter fun m => Subject.isWanted config.filterSubject m.subject)

/-! ## Handing out -/

namespace HeldStream

/-- The message with a sequence. -/
def stored? (stream : HeldStream) (sequence : Nat) : Option Stored :=
  stream.messages.find? (·.sequence = sequence)

/-- The stream captures the messages of a subject. -/
def captures (stream : HeldStream) (subject : String) : Bool :=
  stream.subjects.any (Subject.isMatch · subject)

/-- The sequence that the next message gets. -/
def nextSequence (stream : HeldStream) : Nat :=
  match stream.messages.getLast? with
  | some m => m.sequence + 1
  | none => 1

end HeldStream

/-- Notes the count of deliveries of a sequence, in ascending order of sequences. -/
def noteUnacked (sequence count : Nat) : List (Nat × Nat) → List (Nat × Nat)
  | [] => [(sequence, count)]
  | entry :: rest =>
      if sequence < entry.1 then (sequence, count) :: entry :: rest
      else if sequence = entry.1 then (sequence, count) :: rest
      else entry :: noteUnacked sequence count rest

namespace HeldConsumer

/-- Puts a message at the end of those to be handed out. -/
def enqueue (held : HeldConsumer) (sequence : Nat) : HeldConsumer :=
  let pending := held.pending ++ [sequence]
  { held with pending := pending, info := { held.info with pending := pending.length } }

/-- Notes that a message was handed out, and what is left then.  Where nothing is acknowledged the
floor goes along. -/
def handOut (held : HeldConsumer) (sequence : Nat) (left : List Nat) : HeldConsumer :=
  let delivered : Consumer.Cursor := ⟨held.info.delivered.consumer + 1, sequence⟩
  let info : Consumer.Info :=
    { held.info with delivered := delivered, pending := left.length }
  if info.config.ackPolicy = .none then
    { held with pending := left, info := { info with ackFloor := delivered } }
  else
    let unacked := noteUnacked sequence delivered.consumer held.unacked
    { held with
      pending := left
      unacked := unacked
      info := { info with ackPending := unacked.length } }

/-- The details of the last delivery. -/
def lastDelivery (held : HeldConsumer) (stored : Stored) : Metadata :=
  { stream := held.info.streamName
    consumer := held.info.name
    delivered := 1
    streamSequence := stored.sequence
    consumerSequence := held.info.delivered.consumer
    stored := stored.time
    pending := held.info.pending }

/-- Hands out the next message, if there is one. -/
def deliver (held : HeldConsumer) (stream : HeldStream) : Option Message × HeldConsumer :=
  match held.pending with
  | [] => (none, held)
  | sequence :: left =>
      match stream.stored? sequence with
      | none => (none, { held with pending := left })
      | some stored =>
          let held := held.handOut sequence left
          (some
            { subject := stored.subject
              reply := some (held.lastDelivery stored).reply
              headers := stored.headers
              payload := stored.payload },
            held)

/-- Hands out messages, at most so many, until one is missing. -/
def deliverUpTo (stream : HeldStream) : Nat → HeldConsumer → List Message × HeldConsumer
  | 0, held => ([], held)
  | n + 1, held =>
      match held.deliver stream with
      | (none, held) => ([], held)
      | (some message, held) =>
          let (messages, held) := deliverUpTo stream n held
          (message :: messages, held)

/-- Hands out all that is left. -/
def deliverAll (held : HeldConsumer) (stream : HeldStream) : List Message × HeldConsumer :=
  held.deliverUpTo stream held.pending.length

end HeldConsumer

namespace HeldStream

/-- Stores a message, and puts it at the end of what the consumers that want it are to be handed. -/
def store (stream : HeldStream) (message : Stored) : HeldStream :=
  { stream with
    messages := stream.messages ++ [message]
    consumers := stream.consumers.map fun entry =>
      if Subject.isWanted entry.2.info.config.filterSubject message.subject then
        (entry.1, entry.2.enqueue message.sequence)
      else entry }

/-- Hands out all that is left for the consumers that push to a subject. -/
def drain (stream : HeldStream) (subject : String) : List Message × HeldStream :=
  let drained := stream.consumers.map fun entry =>
    if entry.2.info.config.deliverSubject = some subject then
      (entry.1, entry.2.deliverAll stream)
    else (entry.1, ([], entry.2))
  (drained.flatMap (·.2.1),
    { stream with consumers := drained.map fun entry => (entry.1, entry.2.2) })

end HeldStream

/-! ## Acknowledging -/

namespace HeldConsumer

/-- The floor is just below the oldest delivery that is not acknowledged. -/
def floor (held : HeldConsumer) : Consumer.Cursor :=
  match held.unacked with
  | (sequence, count) :: _ => ⟨count - 1, sequence - 1⟩
  | [] => held.info.delivered

/-- Takes in an acknowledgement of a sequence, which under one policy holds for all before it. -/
def acknowledge (held : HeldConsumer) (sequence : Nat) : HeldConsumer :=
  let unacked :=
    if held.info.config.ackPolicy = .all then held.unacked.filter fun entry => sequence < entry.1
    else held.unacked.filter fun entry => entry.1 ≠ sequence
  let held := { held with unacked := unacked }
  { held with info := { held.info with ackPending := unacked.length, ackFloor := held.floor } }

/-! ## Elections -/

/-- A new leader shows at the next request for the state. -/
def electsNext (held : HeldConsumer) : Bool :=
  held.election.any (· ≤ 1)

/-- The state is asked for: an election comes nearer to its end. -/
def poll (held : HeldConsumer) : HeldConsumer :=
  match held.election with
  | none => held
  | some left =>
      if left ≤ 1 then
        { held with
          info := { held.info with cluster := held.info.cluster.map Cluster.rotate }
          election := none }
      else { held with election := some (left - 1) }

/-- The leader gives up: an election begins, unless none is ever held. -/
def stepDown (held : HeldConsumer) : HeldConsumer :=
  match held.electAfter with
  | some polls => { held with election := some polls }
  | none => held

end HeldConsumer

end JetStream.Broker.Memory
