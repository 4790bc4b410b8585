/-!
# Log events

What is told, beside the output, about the course of an operation.
-/

namespace JetStream.Log

/-- How much an event matters. -/
inductive Level where
  | trace
  | debug
  | info
  | warn
  | error
  deriving DecidableEq, Inhabited

/-- An event. -/
structure Event where
  level : Level
  message : String
  /-- Details under names. -/
  fields : List (String × String) := []
  deriving DecidableEq, Inhabited

/-- An event for those who look for faults. -/
def Event.debug (message : String) (fields : List (String × String)) : Event :=
  ⟨.debug, message, fields⟩

/-- An event for everybody. -/
def Event.info (message : String) (fields : List (String × String)) : Event :=
  ⟨.info, message, fields⟩

/-- An event about something that went wrong. -/
def Event.warn (message : String) (fields : List (String × String)) : Event :=
  ⟨.warn, message, fields⟩

end JetStream.Log
