import JetStream.Consumer.Question
import JetStream.Error

/-!
# Prompters

Whoever answers questions: an operator at a terminal, a script, or nobody.  An answer may depend on
all that was asked before.
-/

namespace JetStream.Consumer

/-- Answers questions. -/
structure Prompter where
  /-- The answer to a question, after those asked before. -/
  ask : List Question → Question → Except Error String
  /-- The choice among names of streams or consumers. -/
  choose : String → List String → Except Error String

namespace Prompter

/-- Takes the declared default, where there is one. -/
def takeDefault (question : Question) : Except Error String :=
  match question.defaultAnswer with
  | some answer => .ok answer
  | none =>
      .error (.input
        (question.message ++ " is required, supply it using " ++ question.flag))

/-- Refuses to choose. -/
def refuseChoice (what : String) (_ : List String) : Except Error String :=
  .error (.input (what ++ " name is required"))

/-- Nobody is there to answer. -/
def nonInteractive : Prompter where
  ask _ := takeDefault
  choose := refuseChoice

end Prompter

end JetStream.Consumer
