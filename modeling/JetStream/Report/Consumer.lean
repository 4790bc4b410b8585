import JetStream.Consumer.Info
import JetStream.Duration.Text
import JetStream.Report.Numbers
import JetStream.Text.Table

/-!
# Consumers in reports

The configuration and the state of one consumer, the names of the consumers of a stream, and a table
of all of them.
-/

namespace JetStream.Report

open Consumer (Config Info)

/-- A line of a report. -/
def line (text : String) : String := text ++ "\n"

/-- The line about where a consumer starts. -/
def startLine : DeliverPolicy → String
  | .all => line "         Deliver All: true"
  | .last => line "        Deliver Last: true"
  | .new => line "        Deliver Next: true"
  | .lastPerSubject => line "    Deliver Last Per Subject: true"
  | .byStartSequence n => line ("      Start Sequence: " ++ toString n.toNat)
  | .byStartTime t => line ("          Start Time: " ++ t.offsetText)

/-- A line about a part of a configuration that may be missing. -/
def lineIf (text : Option String) : String :=
  match text with
  | some text => line text
  | none => ""

/-- The configuration of a consumer. -/
def configuration (c : Config) : String :=
  "Configuration:\n\n" ++
  lineIf (c.durableName.map ("        Durable Name: " ++ ·)) ++
  (match c.deliverSubject with
    | some subject => line ("    Delivery Subject: " ++ subject)
    | none => line "           Pull Mode: true") ++
  lineIf (c.filterSubject.map ("      Filter Subject: " ++ ·)) ++
  startLine c.deliverPolicy ++
  line ("          Ack Policy: " ++ c.ackPolicy.title) ++
  (if c.ackPolicy = .none then ""
    else line ("            Ack Wait: " ++ c.ackWait.humanize)) ++
  line ("       Replay Policy: " ++ c.replayPolicy.title) ++
  (if c.maxDeliver = -1 then ""
    else line ("  Maximum Deliveries: " ++ toString c.maxDeliver.toInt)) ++
  lineIf (c.sampleFrequency.map fun percent =>
    "       Sampling Rate: " ++ toString percent.toNat ++ "%") ++
  (if 0 < c.rateLimit then
    line ("          Rate Limit: " ++ byteSize (c.rateLimit.toNat / 8) ++ " / second")
    else "") ++
  (if 0 < c.maxAckPending then
    line ("     Max Ack Pending: " ++ comma c.maxAckPending.toInt)
    else "") ++
  "\n"

/-- The line about a replica. -/
def replicaLine (p : Peer) : String :=
  line ("             Replica: " ++ p.name ++ ", " ++
    (if p.isCurrent then "current" else "outdated") ++ ", " ++
    if p.lastSeen.isZero then "not seen" else "seen " ++ p.lastSeen.humanize ++ " ago")

/-- The cluster of a consumer. -/
def cluster (c : Cluster) : String :=
  "Cluster Information:\n\n" ++
  line ("                Name: " ++ c.name.getD "") ++
  line ("              Leader: " ++ c.leader) ++
  String.join (c.replicas.map replicaLine) ++
  "\n"

/-- A cursor in a report. -/
def cursorText (c : Consumer.Cursor) : String :=
  "Consumer sequence: " ++ toString c.consumer ++ " Stream sequence: " ++ toString c.stream

/-- The course of a consumer. -/
def state (i : Info) : String :=
  "State:\n\n" ++
  line ("   Last Delivered Message: " ++ cursorText i.delivered) ++
  line ("     Acknowledgment floor: " ++ cursorText i.ackFloor) ++
  line ("         Outstanding Acks: " ++ toString i.ackPending ++
    if 0 < i.config.maxAckPending then
      " out of maximum " ++ toString i.config.maxAckPending.toInt
    else "") ++
  line ("     Redelivered Messages: " ++ toString i.redelivered) ++
  (if i.config.isPull then line ("    Waiting Pull Requests: " ++ toString i.waiting) else "") ++
  line ("     Unprocessed Messages: " ++ toString i.pending) ++
  "\n"

/-- Everything about a consumer.  A cluster without a name is not shown. -/
def consumer (i : Info) : String :=
  line ("Information for Consumer " ++ i.streamName ++ " > " ++ i.name ++ " created " ++
    i.created.offsetText) ++
  "\n" ++
  configuration i.config ++
  (match i.cluster.filter (·.name.isSome) with
    | some c => cluster c
    | none => "") ++
  state i

/-- The names of the consumers of a stream. -/
def consumerList (stream : String) (names : List String) : String :=
  if names.isEmpty then "No Consumers defined\n"
  else
    "Consumers for Stream " ++ stream ++ ":\n\n" ++
      String.join (names.map fun name => "\t" ++ name ++ "\n") ++ "\n"

/-- The servers of a cluster: the leader with a star, then the replicas in the order of their marked
names, those that are behind with an exclamation mark. -/
def clusterSummary (c : Option Cluster) : String :=
  match c with
  | none => ""
  | some c =>
      let replicas := c.replicas.map fun p => if p.isCurrent then p.name else p.name ++ "!"
      ", ".intercalate ((c.leader ++ "*") :: replicas.mergeSort fun a b => !(b < a))

/-- What is shown of each consumer. -/
def tableHeader : List String :=
  ["Consumer", "Mode", "Ack Policy", "Ack Wait", "Ack Pending", "Redelivered", "Unprocessed",
   "Ack Floor", "Cluster"]

/-- Which of the two modes a consumer has. -/
def modeText (c : Config) : String :=
  if c.isPull then "Pull" else "Push"

/-- The messages that are not delivered, and their share of all messages of the stream. -/
def unprocessedText (streamMessages pending : Nat) : String :=
  if 0 < pending ∧ 0 < streamMessages then
    commaCount pending ++ " / " ++ percent pending streamMessages
  else commaCount pending

/-- The row of a consumer with numbers as they are. -/
def rawRow (i : Info) : List String :=
  [i.name, modeText i.config, i.config.ackPolicy.title, i.config.ackWait.exact,
   toString i.ackPending, toString i.redelivered, toString i.pending,
   toString i.ackFloor.stream, clusterSummary i.cluster]

/-- The row of a consumer for reading. -/
def formattedRow (streamMessages : Nat) (i : Info) : List String :=
  [i.name, modeText i.config, i.config.ackPolicy.title, i.config.ackWait.humanize,
   commaCount i.ackPending, commaCount i.redelivered, unprocessedText streamMessages i.pending,
   commaCount i.ackFloor.stream, clusterSummary i.cluster]

/-- The rows of consumers. -/
def tableRows (streamMessages : Nat) (raw : Bool) (infos : List Info) : List (List String) :=
  infos.map fun i => if raw then rawRow i else formattedRow streamMessages i

/-- The table of consumers. -/
def consumerTable (streamMessages : Nat) (raw : Bool) (infos : List Info) : String :=
  Text.table tableHeader (tableRows streamMessages raw infos)

end JetStream.Report
