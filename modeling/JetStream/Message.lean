import JetStream.Error
import JetStream.Message.Metadata
import JetStream.Text.Utf8

/-!
# Messages

What the broker hands out: a body under a subject, with headers, and with an address for replies.
-/

namespace JetStream

/-- A message. -/
structure Message where
  subject : String
  /-- Where a reply goes; acknowledgements are replies. -/
  reply : Option String := none
  /-- Names and values, in the order in which they came. -/
  headers : List (String × String) := []
  payload : Text.Bytes := []
  deriving DecidableEq, Inhabited

namespace Message

/-- What the reply address tells about the delivery. -/
def metadata? (m : Message) : Option Metadata :=
  m.reply.bind Metadata.parse?

/-- The body as a text. -/
def body (m : Message) : String :=
  Text.ofBytesLossy m.payload

/-- Where an acknowledgement goes. -/
def replySubject (m : Message) : Except Error String :=
  match m.reply with
  | some reply => .ok reply
  | none => .error (.ack m.subject "message has no reply subject")

end Message

end JetStream
