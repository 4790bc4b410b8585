import JetStream.Duration.Basic
import JetStream.Json.Record
import JetStream.Text.Integer

/-!
# Clusters

The group of servers that hold a consumer together: a leader and the replicas that follow it.
-/

namespace JetStream

/-- The nanoseconds of a duration on the wire: a number of 64 bits. -/
def Duration.wireNanoseconds (d : Duration) : Nat :=
  min d.nanoseconds Text.maxUnsigned64

/-- The duration of so many nanoseconds; servers write a negative number for never. -/
def Duration.ofWire? (value : Json) : Option Duration :=
  value.asSigned64?.map fun n => ⟨n.toNat⟩

/-- A server that follows the leader. -/
structure Peer where
  name : String
  /-- It holds everything that the leader holds. -/
  isCurrent : Bool
  /-- How long ago it was seen; zero if it never was. -/
  lastSeen : Duration
  deriving DecidableEq, Inhabited

namespace Peer

/-- The data of a peer. -/
def toJson (p : Peer) : Json :=
  .object
    [("name", .string p.name), ("current", .bool p.isCurrent),
     ("active", .integer p.lastSeen.wireNanoseconds)]

/-- The peer of some data. -/
def ofJson? (value : Json) : Option Peer := do
  let r ← Json.Record.ofJson? ["name", "current", "active"] value
  if r.surplus then none
  else
    let name ← r.require "name" Json.asString?
    let isCurrent ← r.read "current" false Json.asBool?
    let lastSeen ← r.read "active" .zero Duration.ofWire?
    some ⟨name, isCurrent, lastSeen⟩

end Peer

/-- The servers that hold a consumer. -/
structure Cluster where
  name : Option String
  leader : String
  replicas : List Peer
  deriving DecidableEq, Inhabited

namespace Cluster

/-- The data of a cluster. -/
def toJson (c : Cluster) : Json :=
  .object
    ((match c.name with
      | some name => [("name", .string name)]
      | none => []) ++
    [("leader", .string c.leader), ("replicas", .array (c.replicas.map Peer.toJson))])

/-- The peers of a row of data. -/
def readPeers? : Json → Option (List Peer)
  | .array items => items.mapM Peer.ofJson?
  | _ => none

/-- The cluster of some data. -/
def ofJson? (value : Json) : Option Cluster := do
  let r ← Json.Record.ofJson? ["name", "leader", "replicas"] value
  if r.surplus then none
  else
    let name ← r.read "name" none (Json.optional? Json.asString?)
    let leader ← r.read "leader" "" Json.asString?
    let replicas ← r.read "replicas" [] readPeers?
    some ⟨name, leader, replicas⟩

/-- The leader and the replicas. -/
def peerNames (c : Cluster) : List String :=
  c.leader :: c.replicas.map (·.name)

/-- The first replica becomes the leader, and the leader the last replica.  Without replicas the
leader stays. -/
def rotate (c : Cluster) : Cluster :=
  match c.replicas with
  | [] => c
  | next :: others =>
      { c with leader := next.name, replicas := others ++ [⟨c.leader, true, .zero⟩] }

end Cluster

end JetStream
