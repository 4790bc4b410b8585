import JetStream.Broker.Memory.Delivery
import JetStream.Broker.Request
import JetStream.Log

/-!
# Operations of the broker in memory

Everything that may happen to the broker: requests, messages that come in, and what is arranged for
the sake of a test.  An operation is atomic, and one that fails leaves streams and queues as they
were.
-/

namespace JetStream.Broker.Memory

open Consumer (Config Info)

/-- Something that may happen to the broker. -/
inductive Operation where
  /-- There is a new stream, in the place of one with its name. -/
  | addStream (name : String) (subjects : List String)
  /-- A message comes in. -/
  | publish (subject : String) (headers : List (String × String)) (payload : Text.Bytes)
  /-- A message outside of any stream is to be pushed to a subject. -/
  | pushRaw (subject : String) (message : Message)
  /-- A consumer is held by a cluster. -/
  | setCluster (stream consumer : String) (cluster : Cluster)
  /-- Elections over a consumer take so many requests for its state, or never end. -/
  | electAfter (stream consumer : String) (polls : Option Nat)
  /-- So many requests for the state of a consumer are to fail. -/
  | failInfo (count : Nat)
  /-- Acknowledgements are to fail, or not. -/
  | failAcks (fail : Bool)
  /-- The tool asks for something. -/
  | request (request : Request)
  deriving DecidableEq

/-- What an operation that succeeds is answered with. -/
abbrev Operation.Answer : Operation → Type
  | publish _ _ _ => Nat
  | request r => r.Answer
  | addStream _ _ | pushRaw _ _ | setCluster _ _ _ | electAfter _ _ _ | failInfo _ | failAcks _ =>
      Unit

/-- The answer to an operation, and the state after it. -/
abbrev Outcome (α : Type) := Except Error α × State

namespace State

/-- Changes a consumer that must be there. -/
def change {α : Type} (s : State) (stream consumer : String)
    (f : HeldConsumer → Except Error (α × HeldConsumer)) : Outcome α :=
  match (s.consumer stream consumer).bind f with
  | .error e => (.error e, s)
  | .ok (answer, held) => (.ok answer, s.modifyConsumer stream consumer fun _ => held)

/-! ## Streams, and messages that come in -/

/-- There is a new stream, without messages and consumers. -/
def addStream (s : State) (name : String) (subjects : List String) : State :=
  { s with streams := s.streams.insert name { subjects := subjects } }

/-- A message goes to the first stream that captures its subject. -/
def publish (s : State) (now : Instant) (subject : String) (headers : List (String × String))
    (payload : Text.Bytes) : Outcome Nat :=
  match s.streams.find? fun entry => entry.2.captures subject with
  | none => (.error (.notFound ("no stream captures " ++ subject)), s)
  | some (name, stream) =>
      let sequence := stream.nextSequence
      let message := ⟨sequence, subject, headers, payload, now⟩
      (.ok sequence, { s with streams := s.streams.modify name (·.store message) })

/-- A message waits to be pushed to a subject. -/
def pushRaw (s : State) (subject : String) (message : Message) : State :=
  { s with raw := s.raw.insert subject ((s.raw.get? subject).getD [] ++ [message]) }

/-! ## Requests about streams and consumers -/

/-- What is told about a stream. -/
def streamInfo (s : State) (name : String) : Except Error StreamInfo := do
  let held ← s.stream name
  return {
    name := name
    subjects := held.subjects
    state :=
      { messages := held.messages.length
        bytes := held.messages.foldl (fun total m => total + m.payload.length) 0
        firstSequence := (held.messages.head?.map (·.sequence)).getD 0
        lastSequence := (held.messages.getLast?.map (·.sequence)).getD 0
        consumers := held.consumers.length } }

/-- What is told about a consumer; asking moves an election on, and may fail as arranged. -/
def consumerInfo (s : State) (stream consumer : String) : Outcome Info :=
  let s := { s with infoRequests := s.infoRequests + 1 }
  if 0 < s.failsInfo then
    (.error (.broker "consumer state temporarily unavailable"),
      { s with failsInfo := s.failsInfo - 1 })
  else s.change stream consumer fun held => .ok (held.poll.info, held.poll)

/-- A consumer that was not there. -/
def newConsumer (stream name : String) (now : Instant) (messages : List Stored) (config : Config) :
    HeldConsumer :=
  let pending := initialSequences messages config
  { info :=
      { streamName := stream
        name := name
        created := now
        config := config
        pending := pending.length }
    pending := pending }

/-- Creates a consumer, under a fresh name if it has none.  One that is there already with just this
configuration stays as it is. -/
def createConsumer (s : State) (now : Instant) (freshName stream : String) (config : Config) :
    Outcome Info :=
  match s.stream stream with
  | .error e => (.error e, s)
  | .ok held =>
      let name := config.durableName.getD freshName
      match held.consumers.get? name with
      | some existing =>
          if existing.info.config = config then (.ok existing.info, s)
          else (.error (.broker ("consumer name " ++ name ++ " already in use")), s)
      | none =>
          let created := newConsumer stream name now held.messages config
          (.ok created.info, s.modifyConsumers stream (NameMap.insert name created))

/-- Deletes a consumer. -/
def deleteConsumer (s : State) (stream consumer : String) : Outcome Unit :=
  match s.consumer stream consumer with
  | .error e => (.error e, s)
  | .ok _ => (.ok (), s.modifyConsumers stream (·.erase consumer))

/-- Has the leader of a consumer step down. -/
def stepDown (s : State) (stream consumer : String) : Outcome Unit :=
  let s := { s with stepDowns := s.stepDowns + 1 }
  s.change stream consumer fun held =>
    if held.info.cluster.isNone then .error (.broker "consumer is not clustered")
    else .ok ((), held.stepDown)

/-! ## Requests about messages -/

/-- Hands out the next message of a pull consumer. -/
def fetchNext (s : State) (stream consumer : String) (expiry : Duration) : Outcome Message :=
  match s.stream stream, s.consumer stream consumer with
  | .ok heldStream, .ok held =>
      if held.info.config.isPush then (.error (.broker (notPull stream consumer)), s)
      else
        let (message, held) := held.deliver heldStream
        let s := s.modifyConsumer stream consumer fun _ => held
        match message with
        | some message => (.ok message, s)
        | none => (.error (noMessage stream consumer expiry), s)
  | .error e, _ | _, .error e => (.error e, s)

/-- Hands out all that waits for a subject: first what is outside of any stream, then what is left
for the consumers that push to it. -/
def subscribe (s : State) (subject : String) : List Message × State :=
  let drained := s.streams.map fun entry => (entry.1, entry.2.drain subject)
  ((s.raw.get? subject).getD [] ++ drained.flatMap (·.2.1),
    { s with
      raw := s.raw.erase subject
      streams := drained.map fun entry => (entry.1, entry.2.2) })

/-- The acknowledgement that a reply stands for reaches its consumer, if it is there. -/
def acknowledge (s : State) (reply : String) : State :=
  match Metadata.parse? reply with
  | none => s
  | some details =>
      s.modifyConsumer details.stream details.consumer (·.acknowledge details.streamSequence)

/-- Takes in an empty reply to a message. -/
def respondEmpty (s : State) (message : Message) : Outcome Unit :=
  match message.replySubject with
  | .error e => (.error e, s)
  | .ok reply =>
      if s.failsAcks then (.error (.ack reply "connection closed"), s)
      else
        let s := s.acknowledge reply
        (.ok (), { s with acknowledged := s.acknowledged ++ [reply] })

/-! ## All operations -/

/-- Answers a request at some time; a consumer without a name is given a fresh one. -/
def answer (s : State) (now : Instant) (freshName : String) : (r : Request) → Outcome r.Answer
  | .streamInfo stream => (s.streamInfo stream, s)
  | .streamNames => (.ok s.streams.names, s)
  | .consumerNames stream => ((s.stream stream).map (·.consumers.names), s)
  | .consumerInfo stream consumer => s.consumerInfo stream consumer
  | .createConsumer stream config => s.createConsumer now freshName stream config
  | .deleteConsumer stream consumer => s.deleteConsumer stream consumer
  | .stepDown stream consumer => s.stepDown stream consumer
  | .fetchNext stream consumer expiry => s.fetchNext stream consumer expiry
  | .subscribe subject =>
      let (messages, s) := s.subscribe subject
      (.ok messages, s)
  | .respondEmpty message => s.respondEmpty message
  | .flush => (.ok (), { s with flushes := s.flushes + 1 })

/-- Has an operation happen at some time. -/
def apply (s : State) (now : Instant) (freshName : String) :
    (operation : Operation) → Outcome operation.Answer
  | .addStream name subjects => (.ok (), s.addStream name subjects)
  | .publish subject headers payload => s.publish now subject headers payload
  | .pushRaw subject message => (.ok (), s.pushRaw subject message)
  | .setCluster stream consumer cluster =>
      s.change stream consumer fun held =>
        .ok ((), { held with info := { held.info with cluster := some cluster } })
  | .electAfter stream consumer polls =>
      s.change stream consumer fun held => .ok ((), { held with electAfter := polls })
  | .failInfo count => (.ok (), { s with failsInfo := count })
  | .failAcks fail => (.ok (), { s with failsAcks := fail })
  | .request r => s.answer now freshName r

/-- What is told when an operation happens: that a new leader shows. -/
def events (s : State) : Operation → List Log.Event
  | .request (.consumerInfo stream consumer) =>
      if 0 < s.failsInfo then []
      else
        match s.consumer stream consumer with
        | .error _ => []
        | .ok held =>
            match held.electsNext, held.info.cluster with
            | true, some cluster =>
                if cluster.replicas.isEmpty then []
                else
                  [.debug "memory broker elected new leader" [("leader", cluster.rotate.leader)]]
            | _, _ => []
  | _ => []

end State

end JetStream.Broker.Memory
