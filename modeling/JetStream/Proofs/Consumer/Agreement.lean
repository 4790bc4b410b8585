import JetStream.Consumer.File
import JetStream.Proofs.Consumer.Accepted
import JetStream.Proofs.Json.Arranged

/-!
# Configurations read off a text and out of a file

The text of a configuration is read directly; the text in a file becomes a document first, in which
the members of objects are in order and of those under one name the last counts.  Where no field is
given twice both come to the same configuration, with one exception.  A policy may be written as an
object with its name as the only member.  In a document that member may be what is left of several
under one name, and read directly it may not.

## Strategy

Both readings come to `ofJson`: of the value as it stands (`parse_eq_ofJson`) and of the value
arranged.  All readers of fields are blind to the arrangement but that of a choice
(`Fields.ofRecord?_arranged`), and that one sees nothing else of it than whether a name repeats.
-/

namespace JetStream

open Json

/-- No name is given twice by an object. -/
def Json.NamesOnce : Json → Prop
  | .object members => (members.map (·.1)).Nodup
  | _ => True

instance (value : Json) : Decidable value.NamesOnce :=
  match value with
  | .object members => inferInstanceAs (Decidable (members.map (·.1)).Nodup)
  | .null | .bool _ | .integer _ | .decimal _ | .string _ | .array _ =>
      inferInstanceAs (Decidable True)

instance (fields : List String) (value : Json) : Decidable (Record.GivesOnce fields value) :=
  match value with
  | .object members =>
      inferInstanceAs (Decidable ((members.map (·.1)).filter fields.contains).Nodup)
  | .null | .bool _ | .integer _ | .decimal _ | .string _ | .array _ =>
      inferInstanceAs (Decidable True)

namespace Consumer.Config

/-! ## Readers of fields -/

section Readers

variable {arrange : List (String × Json) → List (String × Json)}

theorem isBlind_readText? : IsBlind arrange readText? := by
  intro value
  unfold readText?
  rw [(isBlind_asString? arrange).optional?]

theorem isBlind_readInstant? : IsBlind arrange readInstant? := by
  intro value
  unfold readInstant?
  rw [isBlind_asString? arrange]

end Readers

theorem readChoice?_eq_some_iff {value : Json} {name : String} :
    readChoice? value = some name ↔ value = .string name ∨ value = .object [(name, .null)] := by
  unfold readChoice?
  split
  · simp
  · simp
  next hstring hobject =>
    constructor
    · intro h
      cases h
    · rintro (rfl | rfl)
      · exact absurd rfl (hstring name)
      · exact absurd rfl (hobject name)

theorem namesOnce_of_readChoice? {value : Json} {name : String}
    (h : readChoice? value = some name) : value.NamesOnce := by
  rcases readChoice?_eq_some_iff.mp h with rfl | rfl
  · trivial
  · simp [NamesOnce]

/-- A choice as an object is seen through its arrangement, if that did away with no repetition. -/
theorem readChoice?_arranged {value : Json} (honce : value.NamesOnce) :
    readChoice? (arranged NameMap.ofList value) = readChoice? value := by
  cases value with
  | object members =>
      refine Option.ext fun name => ?_
      rw [readChoice?_eq_some_iff, readChoice?_eq_some_iff]
      constructor
      · rintro (hstring | hobject)
        · cases hstring
        · have hone : arrangedMembers NameMap.ofList members = [(name, .null)] := by
            refine NameMap.eq_singleton_of_ofList ?_ (Json.object.inj hobject)
            rw [names_arrangedMembers]
            exact honce
          rw [arrangedMembers_eq_map, List.map_eq_singleton_iff] at hone
          obtain ⟨⟨name', chosen⟩, rfl, hmember⟩ := hone
          obtain ⟨rfl, hnull⟩ := Prod.mk.inj hmember
          obtain rfl : chosen = .null := (arranged_eq_null_iff NameMap.ofList).mp hnull
          exact .inr rfl
      · rintro (hstring | hobject)
        · cases hstring
        · cases hobject
          exact .inr rfl
  | _ => rfl

/-! ## Fields and configurations -/

/-- The fields that are choices by name. -/
def choiceFields : List String :=
  ["ack_policy", "replay_policy"]

/-- No choice is an object that repeats a name. -/
def ChoosesOnce (r : Record) : Prop :=
  ∀ name ∈ choiceFields, ∀ value ∈ r.get? name, value.NamesOnce

section Records

variable {r r' : Record} (h : r.IsArranged fields r')
include h

private theorem read_choice_arranged (honce : ChoosesOnce r) {name : String}
    (hname : name ∈ choiceFields) {α : Type} (ofName? : String → Option α) (default : α) :
    r'.read name default (fun value => (readChoice? value).bind ofName?) =
      r.read name default (fun value => (readChoice? value).bind ofName?) := by
  have hfields : choiceFields ⊆ fields := by decide
  unfold Record.read
  rw [h.get? name (hfields hname)]
  cases hvalue : r.get? name with
  | none => rfl
  | some value => exact congrArg (·.bind ofName?) (readChoice?_arranged (honce name hname value hvalue))

/-- A record has the same fields after its value was arranged. -/
theorem ofRecord?_arranged (honce : ChoosesOnce r) :
    Fields.ofRecord? r' = Fields.ofRecord? r := by
  have htext : ∀ name ∈ fields, r'.read name none readText? = r.read name none readText? :=
    fun name hname => h.read_eq hname none isBlind_readText?
  have hsigned : ∀ name ∈ fields, r'.read name 0 asSigned64? = r.read name 0 asSigned64? :=
    fun name hname => h.read_eq hname 0 (isBlind_asSigned64? _)
  have hunsigned : ∀ name ∈ fields, r'.read name 0 asUnsigned64? = r.read name 0 asUnsigned64? :=
    fun name hname => h.read_eq hname 0 (isBlind_asUnsigned64? _)
  have hpolicy : r'.read "deliver_policy" "all" asString? =
      r.read "deliver_policy" "all" asString? :=
    h.read_eq (by decide) "all" (isBlind_asString? _)
  have hsequence : r'.read "opt_start_seq" none (optional? asUnsigned64?) =
      r.read "opt_start_seq" none (optional? asUnsigned64?) :=
    h.read_eq (by decide) none (isBlind_asUnsigned64? _).optional?
  have htime : r'.read "opt_start_time" none (optional? readInstant?) =
      r.read "opt_start_time" none (optional? readInstant?) :=
    h.read_eq (by decide) none isBlind_readInstant?.optional?
  unfold Fields.ofRecord?
  rw [h.surplus, htext "durable_name" (by decide), htext "deliver_subject" (by decide), hpolicy,
    hsequence, htime, read_choice_arranged h honce (by decide : "ack_policy" ∈ choiceFields),
    hunsigned "ack_wait" (by decide), hsigned "max_deliver" (by decide),
    htext "filter_subject" (by decide),
    read_choice_arranged h honce (by decide : "replay_policy" ∈ choiceFields),
    hunsigned "rate_limit_bps" (by decide), htext "sample_freq" (by decide),
    hsigned "max_ack_pending" (by decide)]

omit h in
/-- Whatever was read made its choices by one name each. -/
theorem choosesOnce_of_ofRecord? {f : Fields} (hread : Fields.ofRecord? r = some f) :
    ChoosesOnce r := by
  have hfields := Fields.ofRecord?_eq_some_iff.mp hread
  have hchosen {α : Type} {name : String} {default choice : α} {ofName? : String → Option α}
      (hread : r.read name default (fun value => (readChoice? value).bind ofName?) = some choice) :
      ∀ value ∈ r.get? name, value.NamesOnce := by
    intro value hvalue
    rw [Record.read, hvalue] at hread
    obtain ⟨name, hname, -⟩ := Option.bind_eq_some_iff.mp hread
    exact namesOnce_of_readChoice? hname
  exact List.forall_mem_cons.mpr ⟨hchosen hfields.ackPolicy,
    List.forall_mem_cons.mpr ⟨hchosen hfields.replayPolicy, List.forall_mem_nil _⟩⟩

end Records

/-! ## Both readings -/

/-- Arranged, a document stands for the same configuration; only a choice that repeats its name is
not read before. -/
theorem ofJson_eq_ok_iff {document : Json} {c : Config}
    (honce : Record.GivesOnce fields document) :
    ofJson document = .ok c ↔
      ofJson (arranged NameMap.ofList document) = .ok c ∧
        ∀ r ∈ Record.ofJson? fields document, ChoosesOnce r := by
  have harranged := Record.isArranged_ofJson? honce
  unfold ofJson
  revert harranged
  generalize Record.ofJson? fields document = before
  generalize Record.ofJson? fields (arranged NameMap.ofList document) = after
  rintro (h | _)
  · rename_i r r'
    have hsame (hchoices : ChoosesOnce r) : ofRecord r' = ofRecord r := by
      unfold ofRecord
      rw [ofRecord?_arranged h hchoices]
    constructor
    · intro hread
      obtain ⟨f, hfields, -⟩ := exists_makes_of_ofRecord hread
      have hchoices := choosesOnce_of_ofRecord? (Fields.ofRecord?_eq_some_iff.mpr hfields)
      refine ⟨(hsame hchoices).trans hread, ?_⟩
      exact fun other hother => Option.some.inj hother ▸ hchoices
    · rintro ⟨hread, hchoices⟩
      exact (hsame (hchoices r rfl)).symm.trans hread
  · simp

/-- Where all of the text has a value, reading it directly comes to reading that value. -/
theorem parse_eq_ofJson {text : String} {document : Json} (h : verbatim? text = some document)
    (honce : Record.GivesOnce fields document) : parse text = ofJson document := by
  unfold verbatim? at h
  unfold parse
  split at h
  next written hread =>
    rw [hread]
    dsimp only
    rw [Record.ofWritten?_of_value? h honce, ofJson]
    cases Record.ofJson? fields document with
    | none => rfl
    | some r =>
        dsimp only
        cases ofRecord r with
        | error fault => rfl
        | ok c => exact if_pos rfl
  next => cases h

theorem load_eq_ok_iff {files : Files} {path text : String} {document : Json} {c : Config}
    (hpath : isYamlPath path = false) (htext : files.readText path = .ok text)
    (hdocument : Json.parse? text = some document) :
    (load files path).1 = .ok c ↔ ofJson document = .ok c := by
  have hread : readDocument (isYamlPath path) text = .ok document := by
    rw [hpath, readDocument, if_neg Bool.false_ne_true, hdocument]
  rw [load, htext]
  dsimp only
  rw [ofFileText, hread]
  dsimp only
  cases ofJson document with
  | error fault => exact ⟨nofun, nofun⟩
  | ok read =>
      constructor
      · rintro ⟨⟩
        rfl
      · rintro ⟨⟩
        rfl

/-! ## Texts -/

/-- The text gives no field twice. -/
def GivesFieldsOnce (text : String) : Prop :=
  ∀ document ∈ verbatim? text, Record.GivesOnce fields document

instance (text : String) : Decidable (GivesFieldsOnce text) :=
  inferInstanceAs (Decidable (∀ document ∈ verbatim? text, Record.GivesOnce fields document))

/-- No choice in the text is an object that repeats a name. -/
def ChoosesOnceIn (text : String) : Prop :=
  ∀ document ∈ verbatim? text, ∀ r ∈ Record.ofJson? fields document, ChoosesOnce r

/-- A text of a JSON value that gives no field twice is read directly as a configuration if and only
if it is read so out of a file and no policy in it is an object that repeats a name. -/
theorem parse_eq_ok_iff_load {text path : String} {files : Files} {c : Config}
    (hvalue : (Json.parse? text).isSome) (honce : GivesFieldsOnce text)
    (hpath : isYamlPath path = false) (htext : files.readText path = .ok text) :
    parse text = .ok c ↔ (load files path).1 = .ok c ∧ ChoosesOnceIn text := by
  rw [parse?_eq_map_verbatim?, Option.isSome_map] at hvalue
  obtain ⟨document, hdocument⟩ := Option.isSome_iff_exists.mp hvalue
  have harranged : Json.parse? text = some (arranged NameMap.ofList document) := by
    rw [parse?_eq_map_verbatim?, hdocument, Option.map_some]
  have honce' := honce document hdocument
  have hchooses : ChoosesOnceIn text ↔ ∀ r ∈ Record.ofJson? fields document, ChoosesOnce r := by
    unfold ChoosesOnceIn
    rw [hdocument]
    simp
  rw [parse_eq_ofJson hdocument honce', load_eq_ok_iff hpath htext harranged, hchooses]
  exact ofJson_eq_ok_iff honce'

/-- Members that are no fields and repeat their names, a null, and a policy written as an object. -/
theorem parse_eq_ok_iff_load_unknown :
    let text := "\x7b\"other\":1,\"ack_policy\":\x7b\"explicit\":null\x7d,\"max_deliver\":5," ++
      "\"durable_name\":null,\"other\":\x7b\"a\":1,\"a\":2.5\x7d\x7d"
    let files : Files := ⟨[("consumer.json", Text.encode text)]⟩
    let c : Config := { ackPolicy := .explicit, maxDeliver := 5 }
    (Json.parse? text).isSome ∧ GivesFieldsOnce text ∧ isYamlPath "consumer.json" = false ∧
      files.readText "consumer.json" = .ok text ∧ parse text = .ok c ∧
      (load files "consumer.json").1 = .ok c ∧ ChoosesOnceIn text := by
  intro text files c
  have hvalue : (Json.parse? text).isSome := by decide +kernel
  have honce : GivesFieldsOnce text := by decide +kernel
  have hpath : isYamlPath "consumer.json" = false := by decide +kernel
  have htext : files.readText "consumer.json" = .ok text := eq_ok_of_toOption (by decide +kernel)
  have hparse : parse text = .ok c := eq_ok_of_toOption (by decide +kernel)
  obtain ⟨hload, hchooses⟩ := (parse_eq_ok_iff_load hvalue honce hpath htext).mp hparse
  exact ⟨hvalue, honce, hpath, htext, hparse, hload, hchooses⟩

/-- A policy that an object gives twice is read out of a file and not off the text. -/
theorem parse_ne_load_of_repeated :
    let text := "\x7b\"ack_policy\":\x7b\"all\":null,\"all\":null\x7d\x7d"
    let files : Files := ⟨[("consumer.json", Text.encode text)]⟩
    let c : Config := { ackPolicy := .all }
    (Json.parse? text).isSome ∧ GivesFieldsOnce text ∧ isYamlPath "consumer.json" = false ∧
      files.readText "consumer.json" = .ok text ∧ (load files "consumer.json").1 = .ok c ∧
      parse text ≠ .ok c := by
  intro text files c
  refine ⟨by decide +kernel, by decide +kernel, by decide +kernel,
    eq_ok_of_toOption (by decide +kernel), eq_ok_of_toOption (by decide +kernel), ?_⟩
  have hrefused : (parse text).toOption = none := by decide +kernel
  intro hread
  rw [hread] at hrefused
  cases hrefused

end Consumer.Config

end JetStream
