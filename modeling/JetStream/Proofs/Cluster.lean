import JetStream.Cluster
import JetStream.Proofs.Json.Arranged
import JetStream.Proofs.Json.Record

/-!
# Clusters read back from their data

How long ago a server was seen is written as a number without a sign and read as one with a sign.
So a cluster is read back exactly if none of its replicas was seen longer ago than a number with a
sign can tell, and whatever was read is such a cluster.

The data may have been arranged on the way.  The statements are about any arrangement that keeps
what stands under each name, of which leaving everything in place is one.
-/

namespace JetStream

open Json

variable {arrange : List (String × Json) → List (String × Json)}

/-! ## Ages -/

theorem Duration.ofWire?_eq_some_iff {value : Json} {d : Duration} :
    ofWire? value = some d ↔ ∃ n : Int, value.asSigned64? = some n ∧ n.toNat = d.nanoseconds := by
  obtain ⟨nanoseconds⟩ := d
  simp only [ofWire?, Option.map_eq_some_iff, mk.injEq]

theorem Duration.nanoseconds_le_of_ofWire? {value : Json} {d : Duration}
    (h : ofWire? value = some d) : d.nanoseconds ≤ Text.maxSigned64 := by
  obtain ⟨n, hn, hd⟩ := ofWire?_eq_some_iff.mp h
  obtain ⟨⟨-, hhigh⟩, -⟩ := asInteger?_eq_some_iff.mp hn
  simp only [Text.maxSigned64] at hhigh ⊢
  omega

theorem Duration.ofWire?_wireNanoseconds {d : Duration} (h : d.nanoseconds ≤ Text.maxSigned64) :
    ofWire? (.integer d.wireNanoseconds) = some d := by
  have hsame : d.wireNanoseconds = d.nanoseconds := by
    simp only [Text.maxSigned64] at h
    simp only [wireNanoseconds, Text.maxUnsigned64]
    omega
  have hlow : Text.minSigned64 ≤ (d.nanoseconds : Int) := by
    simp only [Text.minSigned64]
    omega
  rw [hsame]
  exact ofWire?_eq_some_iff.mpr
    ⟨d.nanoseconds, asInteger?_eq_some_iff.mpr ⟨⟨hlow, h⟩, rfl⟩, Int.toNat_natCast _⟩

/-! ## Servers -/

namespace Peer

/-- Each field is what the record has for it. -/
structure IsReadFrom (r : Record) (p : Peer) : Prop where
  name : r.require "name" asString? = some p.name
  isCurrent : r.read "current" false asBool? = some p.isCurrent
  lastSeen : r.read "active" .zero Duration.ofWire? = some p.lastSeen

theorem ofJson?_eq_some_iff {value : Json} {p : Peer} :
    ofJson? value = some p ↔
      ∃ r, Record.ofJson? ["name", "current", "active"] value = some r ∧ r.surplus = false ∧
        p.IsReadFrom r := by
  constructor
  · intro h
    obtain ⟨r, hr, h⟩ := Option.bind_eq_some_iff.mp h
    obtain ⟨hsurplus, h⟩ := Option.ite_none_left_eq_some.mp h
    obtain ⟨_, hname, h⟩ := Option.bind_eq_some_iff.mp h
    obtain ⟨_, hcurrent, h⟩ := Option.bind_eq_some_iff.mp h
    obtain ⟨_, hlastSeen, h⟩ := Option.bind_eq_some_iff.mp h
    cases h
    exact ⟨r, hr, eq_false_of_ne_true hsurplus, hname, hcurrent, hlastSeen⟩
  · rintro ⟨r, hr, hsurplus, h⟩
    simp [ofJson?, hr, hsurplus, h.name, h.isCurrent, h.lastSeen]

theorem lastSeen_le_of_ofJson? {value : Json} {p : Peer} (h : ofJson? value = some p) :
    p.lastSeen.nanoseconds ≤ Text.maxSigned64 := by
  obtain ⟨r, -, -, hread⟩ := ofJson?_eq_some_iff.mp h
  exact Record.forall_read (fun d : Duration => d.nanoseconds ≤ Text.maxSigned64) (by decide)
    (fun _ _ => Duration.nanoseconds_le_of_ofWire?) hread.lastSeen

/-- The members of the data. -/
def members (p : Peer) : List (String × Json) :=
  [("name", .string p.name), ("current", .bool p.isCurrent),
   ("active", .integer p.lastSeen.wireNanoseconds)]

theorem names_members_sublist (p : Peer) :
    (p.members.map (·.1)).Sublist ["name", "current", "active"] :=
  .refl _

/-- A server is read back exactly if a number with a sign can tell its age. -/
theorem ofJson?_arranged_iff (harrange : Record.Keeps arrange) (p : Peer) :
    ofJson? (arranged arrange p.toJson) = some p ↔
      p.lastSeen.nanoseconds ≤ Text.maxSigned64 := by
  constructor
  · exact lastSeen_le_of_ofJson?
  · intro h
    obtain ⟨r, hr, hsurplus, -, hget⟩ :=
      Record.exists_ofJson?_arranged harrange (by decide) p.names_members_sublist
    refine ofJson?_eq_some_iff.mpr ⟨r, hr, hsurplus, ?_⟩
    constructor
    · rw [Record.require, hget]
      rfl
    · rw [Record.read, hget]
      rfl
    · rw [Record.read, hget]
      exact Duration.ofWire?_wireNanoseconds h

/-- One nanosecond more than a number with a sign can tell. -/
example : ofJson? (toJson ⟨"n2", true, ⟨2 ^ 63⟩⟩) = none := by
  decide

end Peer

/-! ## Clusters -/

namespace Cluster

/-- Each field is what the record has for it. -/
structure IsReadFrom (r : Record) (c : Cluster) : Prop where
  name : r.read "name" none (optional? asString?) = some c.name
  leader : r.read "leader" "" asString? = some c.leader
  replicas : r.read "replicas" [] readPeers? = some c.replicas

theorem ofJson?_eq_some_iff {value : Json} {c : Cluster} :
    ofJson? value = some c ↔
      ∃ r, Record.ofJson? ["name", "leader", "replicas"] value = some r ∧ r.surplus = false ∧
        c.IsReadFrom r := by
  constructor
  · intro h
    obtain ⟨r, hr, h⟩ := Option.bind_eq_some_iff.mp h
    obtain ⟨hsurplus, h⟩ := Option.ite_none_left_eq_some.mp h
    obtain ⟨_, hname, h⟩ := Option.bind_eq_some_iff.mp h
    obtain ⟨_, hleader, h⟩ := Option.bind_eq_some_iff.mp h
    obtain ⟨_, hreplicas, h⟩ := Option.bind_eq_some_iff.mp h
    cases h
    exact ⟨r, hr, eq_false_of_ne_true hsurplus, hname, hleader, hreplicas⟩
  · rintro ⟨r, hr, hsurplus, h⟩
    simp [ofJson?, hr, hsurplus, h.name, h.leader, h.replicas]

/-- No replica was seen longer ago than a number with a sign can tell. -/
def IsTold (c : Cluster) : Prop :=
  ∀ peer ∈ c.replicas, peer.lastSeen.nanoseconds ≤ Text.maxSigned64

private theorem forall_of_mapM {items : List Json} {peers : List Peer}
    (h : items.mapM Peer.ofJson? = some peers) :
    ∀ peer ∈ peers, peer.lastSeen.nanoseconds ≤ Text.maxSigned64 := by
  induction items generalizing peers with
  | nil =>
      cases h
      exact List.forall_mem_nil _
  | cons item items ih =>
      rw [List.mapM_cons] at h
      obtain ⟨first, hfirst, h⟩ := Option.bind_eq_some_iff.mp h
      obtain ⟨rest, hrest, h⟩ := Option.bind_eq_some_iff.mp h
      cases h
      exact List.forall_mem_cons.mpr ⟨Peer.lastSeen_le_of_ofJson? hfirst, ih hrest⟩

private theorem mapM_arranged (harrange : Record.Keeps arrange) {peers : List Peer}
    (h : ∀ peer ∈ peers, peer.lastSeen.nanoseconds ≤ Text.maxSigned64) :
    (arrangedItems arrange (peers.map Peer.toJson)).mapM Peer.ofJson? = some peers := by
  induction peers with
  | nil => rfl
  | cons peer peers ih =>
      obtain ⟨hpeer, hpeers⟩ := List.forall_mem_cons.mp h
      rw [List.map_cons, arrangedItems, List.mapM_cons,
        (Peer.ofJson?_arranged_iff harrange peer).mpr hpeer, ih hpeers]
      rfl

theorem isTold_of_ofJson? {value : Json} {c : Cluster} (h : ofJson? value = some c) : c.IsTold := by
  obtain ⟨r, -, -, hread⟩ := ofJson?_eq_some_iff.mp h
  have hpeers : ∀ json peers, readPeers? json = some peers →
      ∀ peer ∈ peers, peer.lastSeen.nanoseconds ≤ Text.maxSigned64 := by
    intro json peers hpeers
    unfold readPeers? at hpeers
    split at hpeers
    · exact forall_of_mapM hpeers
    · cases hpeers
  exact Record.forall_read
    (fun peers : List Peer => ∀ peer ∈ peers, peer.lastSeen.nanoseconds ≤ Text.maxSigned64)
    (List.forall_mem_nil _) hpeers hread.replicas

/-- The members of the data. -/
def members (c : Cluster) : List (String × Json) :=
  (match c.name with
    | some name => [("name", .string name)]
    | none => []) ++
  [("leader", .string c.leader), ("replicas", .array (c.replicas.map Peer.toJson))]

theorem names_members_sublist (c : Cluster) :
    (c.members.map (·.1)).Sublist ["name", "leader", "replicas"] := by
  unfold members
  cases c.name with
  | none => exact List.sublist_cons_self _ _
  | some name => exact .refl _

/-- A cluster is read back exactly if a number with a sign can tell the ages of its replicas. -/
theorem ofJson?_arranged_iff (harrange : Record.Keeps arrange) (c : Cluster) :
    ofJson? (arranged arrange c.toJson) = some c ↔ c.IsTold := by
  constructor
  · exact isTold_of_ofJson?
  · intro h
    obtain ⟨r, hr, hsurplus, -, hget⟩ :=
      Record.exists_ofJson?_arranged harrange (by decide) c.names_members_sublist
    refine ofJson?_eq_some_iff.mpr ⟨r, hr, hsurplus, ?_⟩
    constructor
    · rw [Record.read, hget, members]
      cases c.name with
      | none => rfl
      | some name => rfl
    · rw [Record.read, hget, members]
      cases c.name with
      | none => rfl
      | some name => rfl
    · have hpeers : readPeers? (arranged arrange (.array (c.replicas.map Peer.toJson))) =
          some c.replicas := mapM_arranged harrange h
      rw [Record.read, hget, members]
      cases c.name with
      | none => exact hpeers
      | some name => exact hpeers

end Cluster

end JetStream
