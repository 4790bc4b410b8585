import JetStream.Proofs.Consumer.Document
import JetStream.Proofs.Text.ByteOrder

/-!
# What does not count in a document

The operator is told which names in a document do not count.  Which names are known for this is
listed apart from the reader and the writer of configurations; `unknownFields_exact` says that the
list is right for both.

## Strategy

The reader looks at nothing but the members under names of fields (`ofJson_object_congr`), so any
other member may be put in, changed or taken out.  That every field does count is shown by a value
that no field can have; that every field is written at times, by two configurations that have a
value for each field, as where to start is written in one of two fields.
-/

namespace JetStream.Consumer.Config

open Json

variable {members others : NameMap Json} {name : String}

/-! ## What is read -/

/-- The reader looks at nothing but the members that are fields. -/
theorem ofJson_object_congr
    (h : members.filter (fun member => fields.contains member.1) =
      others.filter fun member => fields.contains member.1) :
    ofJson (.object members) = ofJson (.object others) := by
  simp only [ofJson, Record.ofJson?, h]

private theorem filter_insert {p : String → Bool} (hp : p name = false) (value : Json)
    (members : NameMap Json) :
    (members.insert name value).filter (fun member => p member.1) =
      members.filter fun member => p member.1 := by
  induction members with
  | nil => simp [NameMap.insert, hp]
  | cons member rest ih =>
      unfold NameMap.insert
      split
      · simp [hp]
      · split
        · next heq => simp [hp, ← heq]
        · simp only [List.filter_cons, ih]

private theorem filter_erase {p : String → Bool} (hp : p name = false) (members : NameMap Json) :
    (members.erase name).filter (fun member => p member.1) =
      members.filter fun member => p member.1 := by
  rw [NameMap.erase, List.filter_filter]
  refine List.filter_congr fun member _ => ?_
  by_cases heq : member.1 = name
  · simp [heq, hp]
  · simp [heq]

/-- What stands under the name makes a difference: there are data that are read otherwise with some
value under it than with none. -/
def Counts (name : String) : Prop :=
  ∃ (members : NameMap Json) (value : Json), members.Ascending ∧
    ofJson (.object (members.insert name value)) ≠ ofJson (.object (members.erase name))

theorem not_counts_of_not_field (h : name ∉ fields) : ¬Counts name := by
  rintro ⟨members, value, -, hdiffer⟩
  have hname : fields.contains name = false := by simpa using h
  refine hdiffer (ofJson_object_congr ?_)
  rw [filter_insert hname, filter_erase hname]

/-- No field is a truth value. -/
theorem malformed_of_bool :
    ∀ name ∈ knownFields, (ofJson (.object [(name, .bool true)])).toOption = none := by
  decide +kernel

theorem counts_of_known (h : name ∈ knownFields) : Counts name := by
  refine ⟨[], .bool true, List.Pairwise.nil, fun hsame => ?_⟩
  have hnothing : (ofJson (.object [])).toOption ≠ none := by decide +kernel
  have hmalformed : (ofJson (.object [(name, .bool true)])).toOption = none :=
    malformed_of_bool name h
  exact hnothing (hsame ▸ hmalformed)

theorem mem_knownFields_iff_counts : name ∈ knownFields ↔ Counts name := by
  constructor
  · exact counts_of_known
  · intro hcounts
    by_cases hfield : name ∈ fields
    · exact subset_knownFields hfield
    · exact absurd hcounts (not_counts_of_not_field hfield)

/-! ## What is written -/

/-- The document of some configuration has a member under the name. -/
def IsWritten (name : String) : Prop :=
  ∃ c : Config, c.document.member? name ≠ none

/-- A configuration with a value for everything, which starts somewhere. -/
def filledFrom (start : DeliverPolicy) : Config where
  durableName := some "a"
  deliverSubject := some "a"
  filterSubject := some "a"
  deliverPolicy := start
  ackWait := ⟨1⟩
  maxDeliver := 1
  maxAckPending := 1
  rateLimit := 1
  sampleFrequency := some 1

/-- Where to start is written as a sequence or as a point in time, and everything else with
either. -/
theorem isSome_value?_filledFrom : ∀ name ∈ knownFields,
    ((filledFrom (.byStartSequence 1)).value? name).isSome ∨
      ((filledFrom (.byStartTime .epoch)).value? name).isSome := by
  decide

theorem mem_knownFields_iff_isWritten : name ∈ knownFields ↔ IsWritten name := by
  constructor
  · intro h
    rcases isSome_value?_filledFrom name h with hvalue | hvalue
    · exact ⟨_, by rw [member?_document]; exact Option.isSome_iff_ne_none.mp hvalue⟩
    · exact ⟨_, by rw [member?_document]; exact Option.isSome_iff_ne_none.mp hvalue⟩
  · rintro ⟨c, hc⟩
    have hname : name ∈ NameMap.names (NameMap.ofList c.members) :=
      NameMap.isSome_get?_iff.mp (Option.isSome_iff_ne_none.mpr hc)
    exact subset_knownFields (names_document_subset hname)

/-! ## What is told -/

theorem mem_unknownFields_iff :
    name ∈ unknownFields (.object members) ↔ name ∈ members.names ∧ name ∉ knownFields := by
  simp [unknownFields, NameMap.names]

theorem unknownFields_sublist (members : NameMap Json) :
    (unknownFields (.object members)).Sublist members.names :=
  List.filter_sublist

/-- Without the members that are told not to count, a document is read as the same. -/
theorem ofJson_without_unknownFields (members : NameMap Json) :
    ofJson (.object (members.filter fun member =>
      !(unknownFields (.object members)).contains member.1)) = ofJson (.object members) := by
  refine ofJson_object_congr ?_
  rw [List.filter_filter]
  refine List.filter_congr fun member hmember => ?_
  by_cases hfield : member.1 ∈ fields
  · have hknown : member.1 ∈ knownFields := subset_knownFields hfield
    simp [mem_unknownFields_iff, hfield, hknown]
  · simp [hfield]

/-- The names that are told are exactly those that make no difference, each of them once and in the
order of their bytes, and without them the document is read as the same.  No configuration is
written with such a name.  A name is known exactly if it makes a difference, and exactly if some
configuration is written with it. -/
theorem unknownFields_exact (hmembers : members.Ascending) :
    let unknown := unknownFields (.object members)
    ofJson (.object (members.filter fun member => !unknown.contains member.1)) =
      ofJson (.object members) ∧
    (∀ name, name ∈ unknown ↔ name ∈ members.names ∧ ¬Counts name) ∧
    unknown.Pairwise (fun first second => Text.encode first < Text.encode second) ∧
    (∀ c : Config, unknownFields c.document = []) ∧
    ∀ name, (name ∈ knownFields ↔ Counts name) ∧ (name ∈ knownFields ↔ IsWritten name) := by
  intro unknown
  have horder : unknown.Pairwise (· < ·) :=
    List.Pairwise.sublist (unknownFields_sublist members) hmembers
  refine ⟨ofJson_without_unknownFields members, ?_, ?_, unknownFields_document, ?_⟩
  · intro name
    rw [← mem_knownFields_iff_counts]
    exact mem_unknownFields_iff
  · exact horder.imp Text.encode_lt_encode_iff.mpr
  · intro name
    exact ⟨mem_knownFields_iff_counts, mem_knownFields_iff_isWritten⟩

/-- A name in another case is none of the known ones. -/
theorem unknownFields_exact_case :
    let members : NameMap Json :=
      [("Durable_name", .string "a"), ("ack_policy", .string "all"), ("durable_name", .string "b"),
       ("\u03c9", .null)]
    members.Ascending ∧ unknownFields (.object members) = ["Durable_name", "\u03c9"] ∧
      ofJson (.object [("ack_policy", .string "all"), ("durable_name", .string "b")]) =
        ofJson (.object members) := by
  intro members
  have hmembers : members.Ascending := by
    unfold NameMap.Ascending
    decide
  exact ⟨hmembers, by decide, (unknownFields_exact hmembers).1⟩

end JetStream.Consumer.Config
