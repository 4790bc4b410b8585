/-!
# Why data are refused

Data in JSON can fail to be what they should be in two ways: the text, or the form of a value, is
wrong; or the values are of the right form and a rule of this tool forbids them.  Only the second
way has a text of its own.
-/

namespace JetStream.Json

/-- Why a text or a value could not be used. -/
inductive Fault where
  /-- No JSON, or a value of a wrong form. -/
  | malformed
  /-- Of the right form, but forbidden. -/
  | refused (message : String)
  deriving DecidableEq, Inhabited

/-- What the operator is told. -/
def Fault.message : Fault → String
  | malformed => "malformed data"
  | refused message => message

/-- Whatever has no value is malformed. -/
def orMalformed {α : Type} : Option α → Except Fault α
  | some value => .ok value
  | none => .error .malformed

end JetStream.Json
