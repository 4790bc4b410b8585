import JetStream.Broker.Api
import JetStream.Proofs.Text.Split

/-!
# What a subject of the API asks for

Whoever serves the API sees a subject and nothing of the request that it was made from.  The names
of streams and consumers are chosen freely, so a name can be the same as a word of the API.
`subject_determines` says that this does no harm.

## Strategy

* A subject is split at its points.  A name without points stays in one piece, so the reader
  `Operation.ofSubject?` finds the pieces that the subject was put together from.
* The first two pieces behind the common front are words in every subject and differ from operation
  to operation.  They are found whatever the names are (`take_split_subject`), so not even a name
  with points turns a subject into that of another operation.
-/

namespace JetStream.Broker

open Api Text

/-! ## Operations -/

/-- What is to be done, to which stream and which consumer. -/
inductive Operation where
  | streamInfo (stream : String)
  | streamNames
  | consumerNames (stream : String)
  | consumerInfo (stream consumer : String)
  | create (stream : String)
  | createDurable (stream consumer : String)
  | delete (stream consumer : String)
  | stepDown (stream consumer : String)
  | nextMessage (stream consumer : String)
  deriving DecidableEq

/-- The operation that a request asks the API for. -/
def Request.operation? : Request → Option Operation
  | .streamInfo stream => some (.streamInfo stream)
  | .streamNames => some .streamNames
  | .consumerNames stream => some (.consumerNames stream)
  | .consumerInfo stream consumer => some (.consumerInfo stream consumer)
  | .createConsumer stream config =>
      match config.durableName with
      | some name => some (.createDurable stream name)
      | none => some (.create stream)
  | .deleteConsumer stream consumer => some (.delete stream consumer)
  | .stepDown stream consumer => some (.stepDown stream consumer)
  | .fetchNext stream consumer _ => some (.nextMessage stream consumer)
  | .subscribe _ | .respondEmpty _ | .flush => none

namespace Operation

/-- The words of the API that stand for the operation. -/
def words : Operation → List String
  | streamInfo _ => ["STREAM", "INFO"]
  | streamNames => ["STREAM", "NAMES"]
  | consumerNames _ => ["CONSUMER", "NAMES"]
  | consumerInfo _ _ => ["CONSUMER", "INFO"]
  | create _ => ["CONSUMER", "CREATE"]
  | createDurable _ _ => ["CONSUMER", "DURABLE", "CREATE"]
  | delete _ _ => ["CONSUMER", "DELETE"]
  | stepDown _ _ => ["CONSUMER", "LEADER", "STEPDOWN"]
  | nextMessage _ _ => ["CONSUMER", "MSG", "NEXT"]

/-- The names of the stream and of the consumer. -/
def names : Operation → List String
  | streamNames => []
  | streamInfo stream | consumerNames stream | create stream => [stream]
  | consumerInfo stream consumer | createDurable stream consumer | delete stream consumer
  | stepDown stream consumer | nextMessage stream consumer => [stream, consumer]

/-- No name has a point in it. -/
def IsPlain (operation : Operation) : Prop :=
  ∀ name ∈ operation.names, '.' ∉ name.toList

/-- What stands behind the common front of all subjects. -/
def tokens (operation : Operation) : List String :=
  operation.words ++ operation.names

/-- The operation that tokens stand for. -/
def ofTokens? : List String → Option Operation
  | ["STREAM", "INFO", stream] => some (streamInfo stream)
  | ["STREAM", "NAMES"] => some streamNames
  | ["CONSUMER", "NAMES", stream] => some (consumerNames stream)
  | ["CONSUMER", "INFO", stream, consumer] => some (consumerInfo stream consumer)
  | ["CONSUMER", "CREATE", stream] => some (create stream)
  | ["CONSUMER", "DURABLE", "CREATE", stream, consumer] => some (createDurable stream consumer)
  | ["CONSUMER", "DELETE", stream, consumer] => some (delete stream consumer)
  | ["CONSUMER", "LEADER", "STEPDOWN", stream, consumer] => some (stepDown stream consumer)
  | ["CONSUMER", "MSG", "NEXT", stream, consumer] => some (nextMessage stream consumer)
  | _ => none

/-- The operation that a subject asks for. -/
def ofSubject? (subject : String) : Option Operation :=
  match split '.' subject with
  | "$JS" :: "API" :: tokens => ofTokens? tokens
  | _ => none

theorem ofTokens?_tokens (operation : Operation) : ofTokens? operation.tokens = some operation := by
  cases operation with
  | _ => rfl

theorem point_notMem_words (operation : Operation) :
    ∀ word ∈ operation.words, '.' ∉ word.toList := by
  cases operation with
  | _ => simp [words]

end Operation

/-! ## Subjects -/

theorem subject_of_call {r : Request} {call : Call} (h : call? r = some call) :
    ∃ operation, r.operation? = some operation ∧ call.subject = subject operation.tokens := by
  cases r with
  | createConsumer stream config =>
      cases h
      simp only [Request.operation?, createSubject]
      cases config.durableName with
      | none => exact ⟨.create stream, rfl, rfl⟩
      | some name => exact ⟨.createDurable stream name, rfl, rfl⟩
  | subscribe subject | respondEmpty message | flush => cases h
  | _ =>
      cases h
      exact ⟨_, rfl, rfl⟩

/-- A subject is split into what it was put together from. -/
theorem split_subject {tokens : List String} (h : ∀ token ∈ tokens, '.' ∉ token.toList) :
    split '.' (subject tokens) = "$JS" :: "API" :: tokens := by
  have hpoint : "." = String.singleton '.' := rfl
  have hall : ∀ token ∈ "$JS" :: "API" :: tokens, '.' ∉ token.toList :=
    List.forall_mem_cons.mpr ⟨by decide, List.forall_mem_cons.mpr ⟨by decide, h⟩⟩
  rw [subject, hpoint, split_intercalate (List.cons_ne_nil _ _) hall]

/-- The first two words are found whatever stands behind them. -/
theorem take_split_subject {first second : String} (hfirst : '.' ∉ first.toList)
    (hsecond : '.' ∉ second.toList) (rest : List String) :
    (split '.' (subject (first :: second :: rest))).take 4 = ["$JS", "API", first, second] := by
  have hfront : ∀ token ∈ ["$JS", "API", first, second], '.' ∉ token.toList := by
    simp only [List.forall_mem_cons]
    exact ⟨by decide, by decide, hfirst, hsecond, List.forall_mem_nil _⟩
  cases rest with
  | nil =>
      rw [split_subject fun token htoken => hfront token (by simp_all)]
      rfl
  | cons next rest =>
      have hpoint : "." = String.singleton '.' := rfl
      have hfound := split_intercalate_append_of_front (List.cons_ne_nil next rest) hfront
      rw [subject, hpoint]
      simp only [List.cons_append, List.nil_append] at hfound
      rw [hfound]
      rfl

namespace Operation

theorem ofSubject?_subject {operation : Operation} (h : operation.IsPlain) :
    ofSubject? (subject operation.tokens) = some operation := by
  have htokens : ∀ token ∈ operation.tokens, '.' ∉ token.toList := by
    intro token htoken
    rcases List.mem_append.mp htoken with hword | hname
    · exact operation.point_notMem_words token hword
    · exact h token hname
  rw [ofSubject?, split_subject htokens]
  exact operation.ofTokens?_tokens

/-- The subject gives away the first two words, whatever the names are. -/
theorem take_words_of_subject_eq {first second : Operation}
    (h : subject first.tokens = subject second.tokens) :
    first.words.take 2 = second.words.take 2 := by
  have hfront (operation : Operation) :
      (split '.' (subject operation.tokens)).take 4 = "$JS" :: "API" :: operation.words.take 2 := by
    cases operation with
    | _ => exact take_split_subject (by decide) (by decide) _
  have hboth := hfront first
  rw [h, hfront second] at hboth
  simpa using hboth.symm

/-- Nothing but a deletion begins with the words of one. -/
theorem exists_delete_of_words {operation : Operation}
    (h : operation.words.take 2 = ["CONSUMER", "DELETE"]) :
    ∃ stream consumer, operation = delete stream consumer := by
  cases operation with
  | delete stream consumer => exact ⟨stream, consumer, rfl⟩
  | _ => simp [words] at h

end Operation

theorem eq_deleteConsumer {r : Request} {stream consumer : String}
    (h : r.operation? = some (.delete stream consumer)) : r = .deleteConsumer stream consumer := by
  cases r with
  | createConsumer stream config =>
      simp only [Request.operation?] at h
      split at h <;> simp at h
  | deleteConsumer stream consumer =>
      cases h
      rfl
  | _ => cases h

/-- No name of the stream or the consumer has a point in it. -/
def Request.IsPlain (r : Request) : Prop :=
  ∀ operation ∈ r.operation?, operation.IsPlain

/-- Where no name has a point in it, the operation can be read off the subject, so two requests have
one subject exactly if they ask for the same, of the same stream and the same consumer.  Whatever
the names are, nothing but a deletion has the subject of a deletion. -/
theorem subject_determines {r r' : Request} {call call' : Call} (h : call? r = some call)
    (h' : call? r' = some call') :
    (r.IsPlain → Operation.ofSubject? call.subject = r.operation?) ∧
      (r.IsPlain → r'.IsPlain →
        (call.subject = call'.subject ↔ r.operation? = r'.operation?)) ∧
      ((∃ stream consumer, r' = .deleteConsumer stream consumer) →
        call.subject = call'.subject → ∃ stream consumer, r = .deleteConsumer stream consumer) := by
  obtain ⟨operation, hoperation, hsubject⟩ := subject_of_call h
  obtain ⟨operation', hoperation', hsubject'⟩ := subject_of_call h'
  have hread (hplain : r.IsPlain) : Operation.ofSubject? call.subject = r.operation? := by
    rw [hsubject, hoperation, Operation.ofSubject?_subject (hplain operation hoperation)]
  have hread' (hplain : r'.IsPlain) : Operation.ofSubject? call'.subject = r'.operation? := by
    rw [hsubject', hoperation', Operation.ofSubject?_subject (hplain operation' hoperation')]
  refine ⟨hread, ?_, ?_⟩
  · intro hplain hplain'
    constructor
    · intro hsame
      rw [← hread hplain, hsame, hread' hplain']
    · intro hsame
      have heq : operation = operation' := by
        rw [hoperation, hoperation'] at hsame
        exact Option.some.inj hsame
      rw [hsubject, hsubject', heq]
  · rintro ⟨stream, consumer, rfl⟩ hsame
    cases hoperation'
    have hwords : operation.words.take 2 = ["CONSUMER", "DELETE"] :=
      Operation.take_words_of_subject_eq (hsubject ▸ hsubject' ▸ hsame)
    obtain ⟨stream, consumer, rfl⟩ := Operation.exists_delete_of_words hwords
    exact ⟨stream, consumer, eq_deleteConsumer hoperation⟩

/-- A stream and a consumer may have names that are words of the API. -/
theorem subject_determines_words :
    let r : Request := .createConsumer "DELETE" { durableName := some "CREATE" }
    let r' : Request := .deleteConsumer "DURABLE" "CREATE"
    ∃ call call', call? r = some call ∧ call? r' = some call' ∧ r.IsPlain ∧ r'.IsPlain ∧
      call.subject ≠ call'.subject := by
  intro r r'
  have hplain : r.IsPlain := by
    rintro operation ⟨rfl⟩
    unfold Operation.IsPlain
    decide
  have hplain' : r'.IsPlain := by
    rintro operation ⟨rfl⟩
    unfold Operation.IsPlain
    decide
  obtain ⟨call, hcall⟩ : ∃ call, call? r = some call := ⟨_, rfl⟩
  obtain ⟨call', hcall'⟩ : ∃ call', call? r' = some call' := ⟨_, rfl⟩
  obtain ⟨-, hdetermines, -⟩ := subject_determines hcall hcall'
  refine ⟨call, call', hcall, hcall', hplain, hplain', fun hsame => ?_⟩
  exact absurd ((hdetermines hplain hplain').mp hsame) (by decide)

end JetStream.Broker
