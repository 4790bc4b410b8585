import JetStream.Text.Blank
import JetStream.Text.Integer

/-!
# Sample frequencies

The share of acknowledgements that is sampled, in percent.  It is written with or without percent
signs behind it.
-/

namespace JetStream.Sample

open Text

/-- Why a text is no sample frequency. -/
inductive Fault where
  /-- No number of eight bits. -/
  | invalid (text : String)
  /-- More than all. -/
  | tooLarge (percent : Nat)
  deriving DecidableEq

/-- What the operator is told. -/
def Fault.message : Fault → String
  | invalid text => "invalid sample frequency '" ++ text ++ "'"
  | tooLarge percent =>
      "sample frequency " ++ toString percent ++ " is not between 0 and 100"

/-- The text without the percent signs at its end. -/
def dropPercent (s : String) : String :=
  String.ofList (s.toList.reverse.dropWhile (· = '%')).reverse

/-- The share that a text denotes; blanks around it do not count. -/
def parse (text : String) : Except Fault UInt8 :=
  match unsigned? 255 (dropPercent (trim text)) with
  | none => .error (.invalid text)
  | some percent =>
      if 100 < percent then .error (.tooLarge percent) else .ok (UInt8.ofNat percent)

end JetStream.Sample
