import JetStream.Json.Fault
import JetStream.Text.Quoted

/-!
# Errors

Whatever an operation on consumers can fail with, the texts that operators read, and how grave each
failure is.  An error can be put into the context of what was being done; that changes its text and
never its class.
-/

namespace JetStream

/-- How the file system refuses a file: the kind of its refusal. -/
inductive FileFault where
  /-- There is no such file or directory. -/
  | notFound
  /-- The contents are no text. -/
  | invalidData
  /-- A directory where a file should be. -/
  | isDirectory
  /-- A file where a directory should be. -/
  | notDirectory
  /-- Any other kind, by its description. -/
  | other (description : String)
  deriving DecidableEq, Inhabited

/-- The text that goes with the refusal. -/
def FileFault.message : FileFault → String
  | notFound => "No such file or directory (os error 2)"
  | invalidData => "stream did not contain valid UTF-8"
  | isDirectory => "Is a directory (os error 21)"
  | notDirectory => "Not a directory (os error 20)"
  | other description => description

/-- A failed operation. -/
inductive Error where
  /-- The operator supplied something unusable. -/
  | input (reason : String)
  /-- A configuration breaks rules. -/
  | validation (violations : List String)
  /-- A stream or consumer does not exist. -/
  | notFound (reason : String)
  /-- The consumer has no cluster to hold an election in. -/
  | notClustered (stream consumer : String)
  /-- The broker or the way to it failed. -/
  | broker (reason : String)
  /-- Nothing came in the time allowed. -/
  | timeout (reason : String)
  /-- A message could not be acknowledged. -/
  | ack (subject reason : String)
  /-- The settings of the tool are unusable. -/
  | config (reason : String)
  /-- A file could not be read or written. -/
  | file (fault : FileFault) (reason : String)
  /-- Data in JSON could not be used. -/
  | json (fault : Json.Fault)
  /-- Data in YAML could not be used, for the reason that their reader gives. -/
  | yaml (reason : String)
  deriving DecidableEq, Inhabited

/-- Classes of errors, by who has to do something about them. -/
inductive ErrorKind where
  | input
  | validation
  | broker
  | cluster
  deriving DecidableEq

/-- How grave an error is. -/
inductive Severity where
  | warning
  | error
  | fatal
  deriving DecidableEq

namespace Error

/-- What a text begins with, for each class of errors. -/
def label : Error → String
  | input _ | notClustered _ _ | ack _ _ => ""
  | validation _ => "validation failed: "
  | notFound _ => "not found: "
  | broker _ => "broker error: "
  | timeout _ => "timeout: "
  | config _ => "configuration error: "
  | file _ _ => "IO error: "
  | json _ => "JSON error: "
  | yaml _ => "YAML error: "

/-- The text without its label. -/
def reason : Error → String
  | input reason | notFound reason | broker reason | timeout reason | config reason
  | file _ reason | yaml reason => reason
  | validation violations => "; ".intercalate violations
  | notClustered stream consumer =>
      "consumer " ++ Text.quoted stream ++ " > " ++ Text.quoted consumer ++ " is not clustered"
  | ack subject reason => "could not acknowledge message via " ++ subject ++ ": " ++ reason
  | json fault => fault.message

/-- What the operator reads. -/
def message (e : Error) : String :=
  e.label ++ e.reason

/-- The class. -/
def kind : Error → ErrorKind
  | input _ | config _ | json _ | yaml _ => .input
  | validation _ => .validation
  | notClustered _ _ => .cluster
  | notFound _ | broker _ | timeout _ | ack _ _ | file _ _ => .broker

/-- Trying again may help. -/
def isRetryable : Error → Bool
  | broker _ | timeout _ | file _ _ => true
  | _ => false

/-- How grave the error is. -/
def severity : Error → Severity
  | input _ | config _ | notClustered _ _ => .fatal
  | timeout _ => .warning
  | _ => .error

/-- Says what was being done.  Texts that are made of several parts stay as they are. -/
def inContext (context : String) : Error → Error
  | input reason => input (context ++ ": " ++ reason)
  | notFound reason => notFound (context ++ ": " ++ reason)
  | broker reason => broker (context ++ ": " ++ reason)
  | timeout reason => timeout (context ++ ": " ++ reason)
  | config reason => config (context ++ ": " ++ reason)
  | file fault reason => file fault (context ++ ": " ++ reason)
  | e => e

/-- The error of a file system's refusal. -/
def ofFileFault (fault : FileFault) : Error :=
  file fault fault.message

end Error

end JetStream
