import JetStream.Broker.Api
import JetStream.Proofs.Cluster
import JetStream.Proofs.Consumer.Accepted
import JetStream.Proofs.Consumer.Document
import JetStream.Proofs.Text.Utf8
import JetStream.Report.Consumer
import Mathlib.Logic.Basic
import Mathlib.Tactic.MkIffOfInductiveProp

/-!
# States read back from their data

The state of a consumer is four records in one another, and each of them is written and read in its
own way: counters that are missing are zero, a cluster or its name that is missing is none, and of
the ages of replicas the reader takes only those that fit a number with a sign.

## Strategy

A state is read entry by entry, in the order of the data.  Where no field is given twice the order
does not matter: `isReadFrom_cons_iff` says what one entry does, and `foldlM_put_eq_ok_iff` by
induction what all of them do, field by field.

* Whatever is read fits the wire (`IsWire`), because each entry that is taken in does
  (`isWire_of_ofJson`).
* Whatever fits the wire is read back, in any arrangement (`ofJson_arranged_iff`), so also from the
  text that is printed.
-/

namespace JetStream.Consumer

open Json

variable {arrange : List (String × Json) → List (String × Json)}

/-! ## Cursors -/

namespace Cursor

/-- Each field is what the record has for it. -/
structure IsReadFrom (r : Record) (c : Cursor) : Prop where
  consumer : r.read "consumer_seq" 0 asUnsigned64? = some c.consumer
  stream : r.read "stream_seq" 0 asUnsigned64? = some c.stream

theorem ofJson?_eq_some_iff {value : Json} {c : Cursor} :
    ofJson? value = some c ↔
      ∃ r, Record.ofJson? ["consumer_seq", "stream_seq"] value = some r ∧ r.surplus = false ∧
        c.IsReadFrom r := by
  constructor
  · intro h
    obtain ⟨r, hr, h⟩ := Option.bind_eq_some_iff.mp h
    obtain ⟨hsurplus, h⟩ := Option.ite_none_left_eq_some.mp h
    obtain ⟨_, hconsumer, h⟩ := Option.bind_eq_some_iff.mp h
    obtain ⟨_, hstream, h⟩ := Option.bind_eq_some_iff.mp h
    cases h
    exact ⟨r, hr, eq_false_of_ne_true hsurplus, hconsumer, hstream⟩
  · rintro ⟨r, hr, hsurplus, h⟩
    simp [ofJson?, hr, hsurplus, h.consumer, h.stream]

/-- The counters are numbers of 64 bits. -/
structure Fits (c : Cursor) : Prop where
  consumer : c.consumer ≤ Text.maxUnsigned64
  stream : c.stream ≤ Text.maxUnsigned64

theorem fits_of_ofJson? {value : Json} {c : Cursor} (h : ofJson? value = some c) : c.Fits := by
  obtain ⟨r, -, -, hread⟩ := ofJson?_eq_some_iff.mp h
  have hle {name : String} {n : Nat} (hn : r.read name 0 asUnsigned64? = some n) :
      n ≤ Text.maxUnsigned64 :=
    Record.forall_read (fun n => n ≤ Text.maxUnsigned64) (Nat.zero_le _)
      (fun _ _ => asUnsigned64?_le) hn
  exact ⟨hle hread.consumer, hle hread.stream⟩

/-- The members of the data. -/
def members (c : Cursor) : List (String × Json) :=
  [("consumer_seq", .integer c.consumer), ("stream_seq", .integer c.stream)]

theorem names_members_sublist (c : Cursor) :
    (c.members.map (·.1)).Sublist ["consumer_seq", "stream_seq"] :=
  .refl _

/-- A cursor is read back exactly if its counters are numbers of 64 bits. -/
theorem ofJson?_arranged_iff (harrange : Record.Keeps arrange) (c : Cursor) :
    ofJson? (arranged arrange c.toJson) = some c ↔ c.Fits := by
  constructor
  · exact fits_of_ofJson?
  · intro h
    obtain ⟨r, hr, hsurplus, -, hget⟩ :=
      Record.exists_ofJson?_arranged harrange (by decide) c.names_members_sublist
    refine ofJson?_eq_some_iff.mpr ⟨r, hr, hsurplus, ?_⟩
    constructor
    · rw [Record.read, hget]
      exact asUnsigned?_eq_some_iff.mpr ⟨h.consumer, rfl⟩
    · rw [Record.read, hget]
      exact asUnsigned?_eq_some_iff.mpr ⟨h.stream, rfl⟩

end Cursor

namespace Info

/-! ## Reading a state -/

/-- Each field is what the record has for it, or as before where the record has nothing. -/
@[mk_iff]
structure IsReadFrom (base : Info) (r : Record) (i : Info) : Prop where
  streamName : r.read "stream_name" base.streamName asString? = some i.streamName
  name : r.read "name" base.name asString? = some i.name
  created : r.read "created" base.created Config.readInstant? = some i.created
  config : r.read "config" base.config (fun value => (Config.ofJson value).toOption) = some i.config
  delivered : r.read "delivered" base.delivered Cursor.ofJson? = some i.delivered
  ackFloor : r.read "ack_floor" base.ackFloor Cursor.ofJson? = some i.ackFloor
  ackPending : r.read "num_ack_pending" base.ackPending asUnsigned64? = some i.ackPending
  redelivered : r.read "num_redelivered" base.redelivered asUnsigned64? = some i.redelivered
  waiting : r.read "num_waiting" base.waiting asUnsigned64? = some i.waiting
  pending : r.read "num_pending" base.pending asUnsigned64? = some i.pending
  cluster : r.read "cluster" base.cluster (optional? Cluster.ofJson?) = some i.cluster

theorem bind_orMalformed_eq_ok_iff {α : Type} {outcome : Option α} {f : α → Info} {i : Info} :
    (do return f (← orMalformed outcome)) = Except.ok i ↔ ∃ a, outcome = some a ∧ f a = i := by
  cases outcome with
  | none => simp [orMalformed, bind, Except.bind]
  | some a => simp [orMalformed, bind, Except.bind, pure, Except.pure]

theorem bind_ofJson_eq_ok_iff {value : Json} {f : Config → Info} {i : Info} :
    (do return f (← Config.ofJson value)) = Except.ok i ↔
      ∃ c, (Config.ofJson value).toOption = some c ∧ f c = i := by
  cases Config.ofJson value with
  | error fault => simp [bind, Except.bind, Except.toOption]
  | ok c => simp [bind, Except.bind, pure, Except.pure, Except.toOption]

section Entries

variable {base i : Info} {name : String} {value : Json} {rest : List (String × Json)}
  {surplus : Bool}

/-- The first entry settles the field that it names, and leaves the others to the rest. -/
theorem isReadFrom_cons_iff (hname : name ∉ rest.map (·.1)) :
    IsReadFrom base ⟨(name, value) :: rest, surplus⟩ i ↔
      ∃ next, base.put name value = .ok next ∧ IsReadFrom next ⟨rest, surplus⟩ i := by
  have hrest {α : Type} (default : α) (read : Json → Option α) :
      (⟨rest, surplus⟩ : Record).read name default read = some default :=
    Record.read_of_not_mem hname surplus default read
  unfold put
  split
  case h_12 h₁ h₂ h₃ h₄ h₅ h₆ h₇ h₈ h₉ h₁₀ h₁₁ =>
    -- what is no field changes nothing
    simp only [isReadFrom_iff, Record.read_cons, if_neg h₁, if_neg h₂, if_neg h₃, if_neg h₄,
      if_neg h₅, if_neg h₆, if_neg h₇, if_neg h₈, if_neg h₉, if_neg h₁₀, if_neg h₁₁, pure,
      Except.pure, Except.ok.injEq, exists_eq_left']
  all_goals
    -- the rest does not name the field again, so it leaves what the value was read as
    simp only [isReadFrom_iff, Record.read_cons, bind_orMalformed_eq_ok_iff,
      bind_ofJson_eq_ok_iff, exists_exists_and_eq_and, String.reduceEq, if_true, if_false, hrest,
      Option.some.injEq]
    constructor
    · rintro ⟨_, _, _, _, _, _, _, _, _, _, _⟩
      exact ⟨_, ‹_›, by simp [*]⟩
    · rintro ⟨a, _, _, _, _, _, _, _, _, _, _, _⟩
      simp [*]

theorem isReadFrom_nil_iff : IsReadFrom base ⟨[], surplus⟩ i ↔ base = i := by
  have hread {α : Type} (name : String) (default : α) (read : Json → Option α) :
      (⟨[], surplus⟩ : Record).read name default read = some default := rfl
  simp only [isReadFrom_iff, hread, Option.some.injEq]
  constructor
  · rintro ⟨_, _, _, _, _, _, _, _, _, _, _⟩
    cases base
    cases i
    simp_all
  · rintro rfl
    simp

/-- Where no field is given twice, reading entry by entry is reading field by field. -/
theorem foldlM_put_eq_ok_iff {entries : List (String × Json)}
    (hnodup : (entries.map (·.1)).Nodup) :
    entries.foldlM (fun i entry => i.put entry.1 entry.2) base = .ok i ↔
      IsReadFrom base ⟨entries, surplus⟩ i := by
  induction entries generalizing base with
  | nil =>
      rw [isReadFrom_nil_iff, List.foldlM_nil]
      exact ⟨Except.ok.inj, congrArg Except.ok⟩
  | cons entry rest ih =>
      obtain ⟨hname, hrest⟩ := List.nodup_cons.mp hnodup
      rw [List.foldlM_cons, isReadFrom_cons_iff hname]
      cases base.put entry.1 entry.2 with
      | error fault => simp [bind, Except.bind]
      | ok next => simp [bind, Except.bind, ih hrest]

end Entries

/-! ## What fits the wire -/

/-- The counters are numbers of 64 bits. -/
structure Fits (i : Info) : Prop where
  delivered : i.delivered.Fits
  ackFloor : i.ackFloor.Fits
  ackPending : i.ackPending ≤ Text.maxUnsigned64
  redelivered : i.redelivered ≤ Text.maxUnsigned64
  waiting : i.waiting ≤ Text.maxUnsigned64
  pending : i.pending ≤ Text.maxUnsigned64

/-- Writing the state loses nothing. -/
structure IsWire (i : Info) : Prop where
  fits : i.Fits
  created : i.created.IsClockTime
  config : i.config.IsCanonical
  cluster : ∀ cluster ∈ i.cluster, cluster.IsTold

/-- Each entry that is taken in leaves what fits the wire fitting it. -/
theorem isWire_put {base next : Info} {name : String} {value : Json} (h : base.IsWire)
    (hput : base.put name value = .ok next) : next.IsWire := by
  unfold put at hput
  split at hput
  case h_12 =>
    cases hput
    exact h
  case h_4 =>
    obtain ⟨c, hc, rfl⟩ := bind_ofJson_eq_ok_iff.mp hput
    obtain ⟨r, hr⟩ := Config.exists_ofRecord_of_ofJson (Config.eq_ok_of_toOption hc)
    exact ⟨{ h.fits with }, h.created, Config.isCanonical_of_ofRecord hr, h.cluster⟩
  all_goals obtain ⟨a, ha, rfl⟩ := bind_orMalformed_eq_ok_iff.mp hput
  case h_1 | h_2 => exact ⟨{ h.fits with }, h.created, h.config, h.cluster⟩
  case h_3 =>
    exact ⟨{ h.fits with }, Config.isClockTime_of_readInstant? ha, h.config, h.cluster⟩
  case h_11 =>
    refine ⟨{ h.fits with }, h.created, h.config, ?_⟩
    rintro cluster rfl
    exact Cluster.isTold_of_ofJson? (eq_some_of_optional? ha)
  all_goals refine ⟨?_, h.created, h.config, h.cluster⟩
  case h_5 => exact { h.fits with delivered := Cursor.fits_of_ofJson? ha }
  case h_6 => exact { h.fits with ackFloor := Cursor.fits_of_ofJson? ha }
  case h_7 => exact { h.fits with ackPending := asUnsigned64?_le ha }
  case h_8 => exact { h.fits with redelivered := asUnsigned64?_le ha }
  case h_9 => exact { h.fits with waiting := asUnsigned64?_le ha }
  case h_10 => exact { h.fits with pending := asUnsigned64?_le ha }

theorem isWire_foldlM {entries : List (String × Json)} {base i : Info} (h : base.IsWire)
    (hread : entries.foldlM (fun i entry => i.put entry.1 entry.2) base = .ok i) : i.IsWire := by
  induction entries generalizing base with
  | nil =>
      cases hread
      exact h
  | cons entry rest ih =>
      rw [List.foldlM_cons] at hread
      cases hput : base.put entry.1 entry.2 with
      | error fault =>
          rw [hput] at hread
          cases hread
      | ok next =>
          rw [hput] at hread
          exact ih (isWire_put h hput) hread

theorem isWire_blank : blank.IsWire where
  fits := ⟨⟨Nat.zero_le _, Nat.zero_le _⟩, ⟨Nat.zero_le _, Nat.zero_le _⟩, Nat.zero_le _,
    Nat.zero_le _, Nat.zero_le _, Nat.zero_le _⟩
  created := show Instant.epoch.IsClockTime by decide
  config := ⟨nofun, nofun, nofun, (fun _ ht => by cases ht), Nat.zero_le _, nofun⟩
  cluster := nofun

/-- Whatever state is read fits the wire. -/
theorem isWire_of_ofJson {value : Json} {i : Info} (h : ofJson value = .ok i) : i.IsWire := by
  unfold ofJson at h
  split at h
  · cases h
  · rename_i r _
    cases hread : r.entries.foldlM (fun i entry => i.put entry.1 entry.2) blank with
    | error fault =>
        simp only [hread, bind, Except.bind] at h
        cases h
    | ok read =>
        simp only [hread, bind, Except.bind] at h
        split at h
        · cases h
        · cases h
          exact isWire_foldlM isWire_blank hread

/-! ## Reading what was written -/

/-- The member for the cluster, if there is one. -/
def clusterMember : Option Cluster → List (String × Json)
  | some cluster => [("cluster", cluster.toJson)]
  | none => []

/-- The members of the data. -/
def members (i : Info) : List (String × Json) :=
  [("stream_name", .string i.streamName),
   ("name", .string i.name),
   ("created", .string i.created.text),
   ("config", i.config.toJson),
   ("delivered", i.delivered.toJson),
   ("ack_floor", i.ackFloor.toJson),
   ("num_ack_pending", .integer i.ackPending),
   ("num_redelivered", .integer i.redelivered),
   ("num_waiting", .integer i.waiting),
   ("num_pending", .integer i.pending)] ++
  clusterMember i.cluster

theorem names_members_sublist (i : Info) : (i.members.map (·.1)).Sublist fields := by
  unfold members
  cases i.cluster with
  | none => exact List.sublist_append_left _ ["cluster"]
  | some cluster => exact .refl _

/-- Without a cluster there is no member for it, and otherwise it is the last one. -/
theorem get?_members_cluster (i : Info) :
    NameMap.get? i.members "cluster" = i.cluster.map Cluster.toJson := by
  unfold members
  cases i.cluster with
  | none => rfl
  | some cluster => rfl

theorem isReadFrom_of_get? (harrange : Record.Keeps arrange) {i : Info} (h : i.IsWire)
    {r : Record}
    (hget : ∀ name, r.get? name = (NameMap.get? i.members name).map (arranged arrange)) :
    IsReadFrom blank r i where
  streamName := by
    rw [Record.read, hget]
    rfl
  name := by
    rw [Record.read, hget]
    rfl
  created := by
    have hcreated : r.get? "created" = some (.string i.created.text) := by
      rw [hget]
      rfl
    rw [Record.read, hcreated]
    have hread : Instant.read? i.created.text = some i.created :=
      (Instant.read?_text_eq_self_iff i.created).mpr h.created
    simpa only [Config.readInstant?, asString?, Option.bind_some] using hread
  config := by
    have hconfig := (Config.ofJson_arranged_eq_ok_iff harrange i.config).mpr h.config
    rw [Record.read, hget]
    show (Config.ofJson (arranged arrange i.config.toJson)).toOption = _
    rw [hconfig]
    rfl
  delivered := by
    rw [Record.read, hget]
    exact (Cursor.ofJson?_arranged_iff harrange i.delivered).mpr h.fits.delivered
  ackFloor := by
    rw [Record.read, hget]
    exact (Cursor.ofJson?_arranged_iff harrange i.ackFloor).mpr h.fits.ackFloor
  ackPending := by
    rw [Record.read, hget]
    exact asUnsigned?_eq_some_iff.mpr ⟨h.fits.ackPending, rfl⟩
  redelivered := by
    rw [Record.read, hget]
    exact asUnsigned?_eq_some_iff.mpr ⟨h.fits.redelivered, rfl⟩
  waiting := by
    rw [Record.read, hget]
    exact asUnsigned?_eq_some_iff.mpr ⟨h.fits.waiting, rfl⟩
  pending := by
    rw [Record.read, hget]
    exact asUnsigned?_eq_some_iff.mpr ⟨h.fits.pending, rfl⟩
  cluster := by
    rw [Record.read, hget, get?_members_cluster]
    cases hcluster : i.cluster with
    | none => rfl
    | some cluster =>
        exact optional?_of_read rfl
          ((Cluster.ofJson?_arranged_iff harrange cluster).mpr (h.cluster cluster hcluster))

/-- A state is read back, in any arrangement, exactly if it fits the wire. -/
theorem ofJson_arranged_eq_ok_iff (harrange : Record.Keeps arrange) (i : Info) :
    ofJson (arranged arrange i.toJson) = .ok i ↔ i.IsWire := by
  constructor
  · exact isWire_of_ofJson
  · intro h
    obtain ⟨r, hr, hsurplus, hnodup, hget⟩ :=
      Record.exists_ofJson?_arranged harrange (by decide) i.names_members_sublist
    have hread : r.entries.foldlM (fun i entry => i.put entry.1 entry.2) blank = .ok i :=
      (foldlM_put_eq_ok_iff hnodup).mpr (isReadFrom_of_get? harrange h hget)
    have hrequired : requiredFields.all fun name => (r.get? name).isSome := by
      simp only [hget, Option.isSome_map]
      rfl
    have hdata : i.toJson = .object i.members := rfl
    rw [hdata, ofJson, hr]
    simp [hread, hsurplus, hrequired, bind, Except.bind]

end Info

end JetStream.Consumer
