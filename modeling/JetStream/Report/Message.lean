import JetStream.Message

/-!
# Messages in reports

A message is shown with a line about where it comes from, its headers and its body; or its body
alone.
-/

namespace JetStream.Report

/-- How a message came. -/
inductive Delivery where
  /-- It was asked for. -/
  | pulled
  /-- It was pushed to a subscription. -/
  | pushed
  deriving DecidableEq, Inhabited

/-- The line about where a message comes from, at a time of day. -/
def messageOrigin (clock : String) (m : Message) (delivery : Delivery) : String :=
  match m.metadata?, delivery with
  | some details, _ =>
      "[" ++ clock ++ "] subj: " ++ m.subject ++ " / tries: " ++ toString details.delivered ++
        " / cons seq: " ++ toString details.consumerSequence ++
        " / str seq: " ++ toString details.streamSequence ++
        " / pending: " ++ toString details.pending ++ "\n"
  | none, .pulled =>
      match m.reply with
      | some reply => "--- subject: " ++ m.subject ++ " reply: " ++ reply ++ "\n"
      | none => "--- subject: " ++ m.subject ++ "\n"
  | none, .pushed =>
      "[" ++ clock ++ "] " ++ m.subject ++ " reply: " ++ m.reply.getD "" ++ "\n"

/-- The headers of a message, if it has any. -/
def messageHeaders (m : Message) : String :=
  if m.headers.isEmpty then ""
  else
    "\nHeaders:\n\n" ++
      String.join (m.headers.map fun header => "  " ++ header.1 ++ ": " ++ header.2 ++ "\n") ++
      "\nData:\n"

/-- The body of a message, with an empty line after a body that does not end in a line break. -/
def messageBody (m : Message) : String :=
  let body := m.body
  "\n" ++ body ++ "\n" ++ if body.toList.getLast? = some '\n' then "" else "\n"

/-- A message, at a time of day; in raw form its body alone. -/
def message (clock : String) (m : Message) (delivery : Delivery) (raw : Bool) : String :=
  if raw then m.body ++ "\n"
  else messageOrigin clock m delivery ++ messageHeaders m ++ messageBody m

end JetStream.Report
