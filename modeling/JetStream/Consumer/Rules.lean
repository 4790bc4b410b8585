import JetStream.Consumer.Config
import JetStream.Consumer.Start
import JetStream.Error

/-!
# Rules for parts of configurations

What holds for each part that an operator supplies, whether by a flag or as an answer: which names
are legal, and which value a token stands for.
-/

namespace JetStream.Consumer

/-- The characters that a name must not have, because they mean something in subjects. -/
def isIllegalInName (c : Char) : Bool :=
  c = '.' || c = '*' || c = '>'

/-- Refuses names with an illegal character. -/
def checkName (name : String) : Except Error Unit :=
  if name.toList.any isIllegalInName then
    .error (.input "durable name can not contain '.', '*', '>'")
  else .ok ()

/-- Reads a token, if there is one. -/
def readGiven {α β : Type} (token : Option α) (otherwise : β) (read : α → Except Error β) :
    Except Error β :=
  match token with
  | some token => read token
  | none => .ok otherwise

/-- A duration. -/
def readDuration (text : String) : Except Error Duration :=
  (Duration.parse text).mapError fun fault => .input fault.message

/-- Where to start. -/
def readStart (token : String) (now : Instant) : Except Error DeliverPolicy :=
  (Start.parse token now).mapError fun fault => .input fault.message

/-- The acknowledgement policy. -/
def readAckPolicy (token : String) : Except Error AckPolicy :=
  match AckPolicy.ofToken? token with
  | some policy => .ok policy
  | none => .error (.input ("invalid ack policy '" ++ token ++ "'"))

/-- The replay policy. -/
def readReplayPolicy (token : String) : Except Error ReplayPolicy :=
  match ReplayPolicy.ofToken? token with
  | some policy => .ok policy
  | none => .error (.input ("invalid replay policy '" ++ token ++ "'"))

/-- The share to sample; none of all means that nothing is sampled. -/
def readSample (percent : Int64) : Except Error (Option UInt8) :=
  if 0 ≤ percent.toInt ∧ percent.toInt ≤ 100 then
    .ok (if percent = 0 then none else some (UInt8.ofNat percent.toInt.toNat))
  else .error (.input "sample percent is not between 0 and 100")

/-- Only what is pushed has a rate. -/
def rateLimitOnPull : Error := .input "rate limits are only possible on Push consumers"

/-- Nobody could pull from a consumer without a name. -/
def ephemeralPull : Error := .input "ephemeral consumers must be push-based"

end JetStream.Consumer
