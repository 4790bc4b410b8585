import JetStream.Proofs.Message.Codec
import JetStream.Proofs.Text.Utf8
import JetStream.Report.Message

/-!
# What is shown of a message

In raw form a message is shown as its body.  Otherwise there is a line about where it comes from, a
line for each header, and then the body.  `Shows` says so line by line, and `shows_message` that the
text of a message is such a text.

What there is to show is said of the message alone: a body of well-formed bytes is the text that
they encode (`Message.HasBody`), and the details of a delivery are those that the tokens of the
reply address stand for (`Message.HasDetails`).
-/

namespace JetStream

/-- The text is the body of a message: what its bytes encode, if they encode a text, and else what
the lenient reading makes of them. -/
structure Message.HasBody (m : Message) (body : String) : Prop where
  of_encode : ∀ text, m.payload = Text.encode text → body = text
  of_illFormed : (∀ text, m.payload ≠ Text.encode text) → body = Text.ofBytesLossy m.payload

theorem Message.hasBody_body (m : Message) : m.HasBody m.body where
  of_encode := by
    intro text htext
    unfold body
    rw [htext, Text.ofBytesLossy_encode]
  of_illFormed _ := rfl

/-- The address for replies tells the details of the delivery. -/
def Message.HasDetails (m : Message) (details : Metadata) : Prop :=
  ∃ reply, m.reply = some reply ∧ details.IsToldBy (Text.split '.' reply)

theorem Message.metadata?_eq_some_iff {m : Message} {details : Metadata} :
    m.metadata? = some details ↔ m.HasDetails details := by
  rw [metadata?, Option.bind_eq_some_iff]
  exact exists_congr fun _ => and_congr_right fun _ => Metadata.parse?_eq_some_iff

theorem Message.metadata?_eq_none_iff {m : Message} :
    m.metadata? = none ↔ ∀ details, ¬m.HasDetails details := by
  simp only [Option.eq_none_iff_forall_ne_some, ← metadata?_eq_some_iff, ne_eq]

namespace Report

/-! ## Lines -/

/-- Lines, each with its line break. -/
def ofLines (lines : List String) : String :=
  String.join (lines.map (· ++ "\n"))

@[simp] theorem ofLines_nil : ofLines [] = "" := rfl

@[simp] theorem ofLines_cons (line : String) (lines : List String) :
    ofLines (line :: lines) = line ++ "\n" ++ ofLines lines := by
  unfold ofLines
  rw [List.map_cons, String.join_cons]

@[simp] theorem ofLines_append (lines more : List String) :
    ofLines (lines ++ more) = ofLines lines ++ ofLines more := by
  induction lines with
  | nil => exact (String.empty_append).symm
  | cons line lines ih => simp only [List.cons_append, ofLines_cons, ih, String.append_assoc]

/-! ## The lines of a message -/

/-- The line is about where a message comes from. -/
inductive IsOrigin (clock : String) (m : Message) : Delivery → String → Prop where
  | detailed (details : Metadata) (hdetails : m.HasDetails details) (delivery : Delivery) :
      IsOrigin clock m delivery
        ("[" ++ clock ++ "] subj: " ++ m.subject ++ " / tries: " ++ toString details.delivered ++
          " / cons seq: " ++ toString details.consumerSequence ++
          " / str seq: " ++ toString details.streamSequence ++
          " / pending: " ++ toString details.pending)
  | pulled (hplain : ∀ details, ¬m.HasDetails details) (reply : String)
      (hreply : m.reply = some reply) :
      IsOrigin clock m .pulled ("--- subject: " ++ m.subject ++ " reply: " ++ reply)
  | unanswerable (hreply : m.reply = none) :
      IsOrigin clock m .pulled ("--- subject: " ++ m.subject)
  | pushed (hplain : ∀ details, ¬m.HasDetails details) :
      IsOrigin clock m .pushed
        ("[" ++ clock ++ "] " ++ m.subject ++ " reply: " ++ m.reply.getD "")

/-- The lines about headers: one for each, between titles, and none at all without a header. -/
def headerLines : List (String × String) → List String
  | [] => []
  | header :: headers =>
      ["", "Headers:", ""] ++
        (header :: headers).map (fun header => "  " ++ header.1 ++ ": " ++ header.2) ++
        ["", "Data:"]

/-- What comes behind a body: an empty line, unless the body ends in a line break. -/
inductive IsClosing (body : String) : List String → Prop where
  | ended (start : String) (hbody : body = start ++ "\n") : IsClosing body []
  | unended (hbody : ∀ start, body ≠ start ++ "\n") : IsClosing body [""]

/-- The text shows a message at a time of day, in raw form or not. -/
inductive Shows (clock : String) (m : Message) (delivery : Delivery) : Bool → String → Prop where
  | raw {body : String} (hbody : m.HasBody body) : Shows clock m delivery true (ofLines [body])
  | full {origin body : String} {closing : List String}
      (horigin : IsOrigin clock m delivery origin) (hbody : m.HasBody body)
      (hclosing : IsClosing body closing) :
      Shows clock m delivery false
        (ofLines (origin :: headerLines m.headers ++ "" :: body :: closing))

/-- In raw form a text is shown as it is. -/
theorem Shows.eq_of_raw {clock : String} {m : Message} {delivery : Delivery} {body text : String}
    (h : Shows clock m delivery true text) (hbody : m.payload = Text.encode body) :
    text = body ++ "\n" := by
  cases h with
  | raw hbody' =>
      rw [hbody'.of_encode body hbody]
      simp

/-! ## The text of a message -/

theorem exists_isOrigin (clock : String) (m : Message) (delivery : Delivery) :
    ∃ origin, IsOrigin clock m delivery origin ∧
      messageOrigin clock m delivery = origin ++ "\n" := by
  unfold messageOrigin
  cases hdetails : m.metadata? with
  | some details =>
      exact ⟨_, .detailed details (Message.metadata?_eq_some_iff.mp hdetails) delivery, rfl⟩
  | none =>
      have hplain := Message.metadata?_eq_none_iff.mp hdetails
      cases delivery with
      | pushed => exact ⟨_, .pushed hplain, rfl⟩
      | pulled =>
          cases hreply : m.reply with
          | some reply => exact ⟨_, .pulled hplain reply hreply, rfl⟩
          | none => exact ⟨_, .unanswerable hreply, rfl⟩

theorem messageHeaders_eq (m : Message) : messageHeaders m = ofLines (headerLines m.headers) := by
  unfold messageHeaders headerLines
  cases m.headers with
  | nil => rfl
  | cons header headers =>
      rw [List.isEmpty_cons, if_neg Bool.false_ne_true]
      simp only [ofLines_append]
      unfold ofLines
      rw [List.map_map]
      rfl

theorem exists_isClosing (body : String) :
    ∃ closing, IsClosing body closing ∧
      (if body.toList.getLast? = some '\n' then "" else "\n") = ofLines closing := by
  by_cases hlast : body.toList.getLast? = some '\n'
  · obtain ⟨start, hstart⟩ := List.getLast?_eq_some_iff.mp hlast
    refine ⟨[], .ended (String.ofList start) ?_, if_pos hlast⟩
    rw [← String.toList_inj, String.toList_append, String.toList_ofList, hstart]
    rfl
  · refine ⟨[""], .unended ?_, if_neg hlast⟩
    rintro start rfl
    refine hlast ?_
    rw [String.toList_append]
    exact List.getLast?_concat

/-- The text of a message shows it. -/
theorem shows_message (clock : String) (m : Message) (delivery : Delivery) (raw : Bool) :
    Shows clock m delivery raw (message clock m delivery raw) := by
  unfold message
  cases raw with
  | true =>
      have hline : m.body ++ "\n" = ofLines [m.body] := by simp
      rw [if_pos rfl, hline]
      exact .raw m.hasBody_body
  | false =>
      obtain ⟨origin, horigin, hfirst⟩ := exists_isOrigin clock m delivery
      obtain ⟨closing, hclosing, hlast⟩ := exists_isClosing m.body
      have htext : messageOrigin clock m delivery ++ messageHeaders m ++ messageBody m =
          ofLines (origin :: headerLines m.headers ++ "" :: m.body :: closing) := by
        unfold messageBody
        dsimp only
        rw [hfirst, messageHeaders_eq, hlast]
        simp [String.append_assoc]
      rw [if_neg Bool.false_ne_true, htext]
      exact .full horigin m.hasBody_body hclosing

end Report

end JetStream
