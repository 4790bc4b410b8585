import JetStream.Broker.Api
import JetStream.Proofs.Consumer.Accepted
import JetStream.Proofs.Consumer.Document
import JetStream.Proofs.Text.Utf8

/-!
# Requests for new consumers

A request for a new consumer tells the name of the consumer twice: in its subject, which is made
from the configuration, and in the configuration inside its body, which is written as data without
the fields that say nothing.  `creation_consistent` says that the two never contradict each other,
whatever characters the names are made of, and that the body says what was asked for.

The exception is an empty name: the subject has it and the body leaves it out.
-/

namespace JetStream.Broker

open Api Json

/-! ## The subject -/

section Subject

variable (stream : String) (c : Consumer.Config)

theorem subject_durable (name : String) :
    subject ["CONSUMER", "DURABLE", "CREATE", stream, name] =
      "$JS.API.CONSUMER.DURABLE.CREATE." ++ stream ++ "." ++ name := by
  simp [subject, ← String.toList_inj]

theorem subject_plain :
    subject ["CONSUMER", "CREATE", stream] = "$JS.API.CONSUMER.CREATE." ++ stream := by
  simp [subject, ← String.toList_inj]

/-- The word behind the common front tells the two kinds of subjects apart. -/
theorem plain_ne_durable (name : String) :
    "$JS.API.CONSUMER.CREATE." ++ stream ≠
      "$JS.API.CONSUMER.DURABLE.CREATE." ++ stream ++ "." ++ name := by
  simp [← String.toList_inj]

theorem createSubject_eq_durable_iff (name : String) :
    createSubject stream c = "$JS.API.CONSUMER.DURABLE.CREATE." ++ stream ++ "." ++ name ↔
      c.durableName = some name := by
  unfold createSubject
  cases c.durableName with
  | none => simp [subject_plain, plain_ne_durable]
  | some given => simp [subject_durable]

theorem createSubject_eq_plain_iff :
    createSubject stream c = "$JS.API.CONSUMER.CREATE." ++ stream ↔ c.durableName = none := by
  unfold createSubject
  cases c.durableName with
  | none => simp [subject_plain]
  | some given => simp [subject_durable, (plain_ne_durable stream given).symm]

end Subject

/-! ## The body -/

section Body

variable (stream : String) (c : Consumer.Config)

theorem isReadable_createBody : IsReadable maxDepth (createBody stream c) :=
  ⟨by decide, trivial, Consumer.Config.isReadable_toJson (by decide) c, trivial⟩

/-- The body is read as the stream and the document of the configuration. -/
theorem exists_body :
    ∃ body, document? (Text.encode (createBody stream c).compact) = some body ∧
      body.member? "stream_name" = some (.string stream) ∧
      body.member? "config" = some c.document := by
  let members : List (String × Json) := [("stream_name", .string stream), ("config", c.document)]
  have hread : parse? (createBody stream c).compact = some (.object (NameMap.ofList members)) := by
    rw [parse?_compact (isReadable_createBody stream c)]
    simp only [createBody, arranged, arrangedMembers, Consumer.Config.arranged_toJson, members]
  have hmember (name : String) :
      (Json.object (NameMap.ofList members)).member? name = NameMap.get? members name :=
    NameMap.get?_ofList (by simp [members]) name
  refine ⟨_, ?_, hmember "stream_name", hmember "config"⟩
  rw [document?, Text.ofBytes?_encode, Option.bind_some, hread]

end Body

theorem member?_durableName {c : Consumer.Config} (h : c.durableName ≠ some "") :
    c.document.member? "durable_name" = c.durableName.map .string := by
  have hkept : Consumer.Config.nonEmpty c.durableName = c.durableName :=
    (Consumer.Config.nonEmpty_eq_self_iff _).mpr h
  rw [Consumer.Config.member?_document, Consumer.Config.value?, hkept]

/-- The document of a configuration is read as the same configuration exactly if its canonical form
is. -/
theorem ofJson_document_eq_ok_iff (c : Consumer.Config) :
    Consumer.Config.ofJson c.document = .ok c ↔ Consumer.Config.parse c.canonical = .ok c := by
  rw [← Consumer.Config.arranged_toJson,
    Consumer.Config.ofJson_arranged_eq_ok_iff Record.keeps_ofList,
    Consumer.Config.isCanonical_iff_parse_canonical]

/-! ## The request -/

/-- Where the name is not empty, a request for a new consumer goes to the subject with a name
exactly if the configuration in its body has this name, and to the subject without one exactly if
that configuration has none.  The body has the stream of the subject, and its configuration is read
as the one that was asked for exactly if the canonical form of that one is. -/
theorem creation_consistent (stream : String) {c : Consumer.Config}
    (hname : c.durableName ≠ some "") :
    ∃ call body config, call? (.createConsumer stream c) = some call ∧
      document? (Text.encode call.body) = some body ∧
      body.member? "stream_name" = some (.string stream) ∧ body.member? "config" = some config ∧
      (∀ name, call.subject = "$JS.API.CONSUMER.DURABLE.CREATE." ++ stream ++ "." ++ name ↔
        config.member? "durable_name" = some (.string name)) ∧
      (call.subject = "$JS.API.CONSUMER.CREATE." ++ stream ↔
        config.member? "durable_name" = none) ∧
      (Consumer.Config.ofJson config = .ok c ↔
        Consumer.Config.parse c.canonical = .ok c) := by
  obtain ⟨body, hbody, hstream, hconfig⟩ := exists_body stream c
  refine ⟨_, body, c.document, rfl, hbody, hstream, hconfig, ?_, ?_, ofJson_document_eq_ok_iff c⟩
  · intro name
    rw [createSubject_eq_durable_iff, member?_durableName hname]
    cases c.durableName with
    | none => simp
    | some given => simp
  · rw [createSubject_eq_plain_iff, member?_durableName hname, Option.map_eq_none_iff]

/-- A name may have quotes, control characters and points in it. -/
theorem creation_consistent_quoted :
    let c : Consumer.Config := { durableName := some "a\"\u0007.\u03c9" }
    c.durableName ≠ some "" ∧
      ∃ call body config, call? (.createConsumer "orders" c) = some call ∧
        document? (Text.encode call.body) = some body ∧ body.member? "config" = some config ∧
        config.member? "durable_name" = some (.string "a\"\u0007.\u03c9") ∧
        Consumer.Config.ofJson config = .ok c := by
  intro c
  have hname : c.durableName ≠ some "" := by decide
  have hkept : Consumer.Config.parse c.canonical = .ok c :=
    Consumer.Config.parse_canonical_of_isCanonical
      { durableName := hname, deliverSubject := nofun, filterSubject := nofun,
        startsOnClock := fun _ htime => by cases htime
        ackWait := Nat.zero_le _, sampleFrequency := nofun }
  obtain ⟨call, body, config, hcall, hbody, -, hconfig, hdurable, -, hread⟩ :=
    creation_consistent "orders" hname
  have hsubject : call.subject =
      "$JS.API.CONSUMER.DURABLE.CREATE." ++ "orders" ++ "." ++ "a\"\u0007.\u03c9" := by
    cases hcall
    exact (createSubject_eq_durable_iff "orders" c _).mpr rfl
  exact ⟨hname, call, body, config, hcall, hbody, hconfig, (hdurable _).mp hsubject,
    hread.mpr hkept⟩

end JetStream.Broker
