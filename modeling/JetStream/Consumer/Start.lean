import JetStream.Consumer.Policy
import JetStream.Duration.Grammar
import JetStream.Text.Integer

/-!
# Start tokens

An operator says where a consumer starts by a keyword, a sequence, or how far back in time.
-/

namespace JetStream.Start

open Text

/-- Why a token says no place to start. -/
inductive Fault where
  /-- Digits that are no sequence of 64 bits. -/
  | sequence (token : String)
  /-- Neither keyword, nor sequence, nor duration. -/
  | delta (token : String) (fault : Duration.Fault)
  /-- A duration that leads back beyond all instants. -/
  | outOfRange (token : String)
  deriving DecidableEq

/-- What the operator is told. -/
def Fault.message : Fault → String
  | sequence token => "start sequence '" ++ token ++ "' is out of range"
  | delta token fault => "could not parse starting delta '" ++ token ++ "': " ++ fault.message
  | outOfRange token => "starting delta '" ++ token ++ "' is out of range"

/-- The policy of a keyword. -/
def ofKeyword? (token : String) : Option DeliverPolicy :=
  match lower token with
  | "all" => some .all
  | "last" => some .last
  | "new" | "next" => some .new
  | _ => none

/-- Made of decimal digits, of whatever script. -/
def isNumeric (token : String) : Bool :=
  !token.isEmpty && token.toList.all isDecimalDigit

/-- The longest time to go back. -/
def maxDelta : Duration := Duration.ofMilliseconds 0x7fff_ffff_ffff_ffff

/-- The policy for a sequence. -/
def ofSequence (token : String) : Except Fault DeliverPolicy :=
  match unsigned64? token with
  | some n => .ok (.byStartSequence (UInt64.ofNat n))
  | none => .error (.sequence token)

/-- The policy for a time so far back. -/
def ofDelta (now : Instant) (token : String) : Except Fault DeliverPolicy :=
  match Duration.parse token with
  | .error fault => .error (.delta token fault)
  | .ok delta =>
      if maxDelta.nanoseconds < delta.nanoseconds then .error (.outOfRange token)
      else
        match now.subtract? delta with
        | some start => .ok (.byStartTime start)
        | none => .error (.outOfRange token)

/-- The policy that a token asks for; blanks around it do not count. -/
def parse (token : String) (now : Instant) : Except Fault DeliverPolicy :=
  let token := trim token
  match ofKeyword? token with
  | some policy => .ok policy
  | none => if isNumeric token then ofSequence token else ofDelta now token

end JetStream.Start
