import JetStream.CommandLine.Invocation
import JetStream.Consumer.Check
import JetStream.Consumer.Resolution

/-!
# Running a command line

Whatever needs no server is done: configurations are resolved, checked and saved.  Everything else
is refused once it is clear that it needs one.
-/

namespace JetStream.CommandLine

open Consumer (Config Flags Prompter)

/-- What a command line finds around it. -/
structure Surroundings where
  files : Files
  environment : Settings.Environment
  now : Instant

/-- What a command line leaves behind. -/
structure Outcome where
  /-- What the process ends with. -/
  exitCode : UInt32 := 0
  /-- What the operator reads. -/
  output : String := ""
  /-- What went wrong. -/
  error : Option String := none
  files : Files

/-- The line about the version. -/
def versionText : String := "jetctl 0.3.0\n"

/-- What the operator reads who asks for an explanation. -/
def helpText : String :=
  "JetStream consumer management\n\nUsage: jetctl [OPTIONS] <COMMAND>\n\nCommands: " ++
    ", ".intercalate (commands.map fun c => "/".intercalate c.names) ++ "\n"

/-- Why nothing is asked of a server. -/
def noServer : String :=
  "jetctl was built without the nats feature and cannot reach a server"

/-- Why nothing is deleted without asking. -/
def unconfirmed : String :=
  "use --force to delete without confirmation in non-interactive mode"

/-- The text of an error with its causes; some errors tell their cause twice. -/
def errorText (e : Error) : String :=
  match e with
  | .file _ _ | .json _ | .yaml _ => e.message ++ ": " ++ e.reason
  | _ => e.message

/-- The text about settings that cannot be used. -/
def unusableText : Settings.Unusable → String
  | .layers e => "could not load settings: " ++ errorText e
  | .overrides e => errorText e

/-- Resolves a configuration without asking anybody. -/
def resolve (s : Surroundings) (settings : Settings) (flags : Flags) : Except Error Config :=
  (Consumer.build
    { files := s.files, normalizeFileConfigs := settings.normalizeFileConfigs, now := s.now }
    .nonInteractive flags).outcome.1

/-- The outcome of a command that failed. -/
def failed (s : Surroundings) (text : String) : Outcome :=
  { exitCode := 1, error := some text, files := s.files }

/-- Does what is asked for. -/
def perform (s : Surroundings) (settings : Settings) (task : Task) : Outcome :=
  match task with
  | .online => failed s noServer
  | .delete force => failed s (if force then noServer else unconfirmed)
  | .create flags =>
      match resolve s settings flags with
      | .error e => failed s (errorText e)
      | .ok _ => failed s noServer
  | .check flags =>
      match resolve s settings flags with
      | .error e => failed s (errorText e)
      | .ok config =>
          let check := Consumer.check settings.noValidate config
          match check.result with
          | .error e => { failed s (errorText e) with output := check.output }
          | .ok () => { output := check.output, files := s.files }
  | .save flags path =>
      match resolve s settings flags with
      | .error e => failed s (errorText e)
      | .ok config =>
          match (Consumer.save settings.noValidate config s.files path).1 with
          | .error e => failed s (errorText e)
          | .ok files => { files := files }

/-- Runs an invocation with its settings. -/
def runInvocation (s : Surroundings) (invocation : Invocation) : Outcome :=
  match Settings.resolve s.files invocation.settingsPath s.environment invocation.overrides with
  | .error unusable => { failed s (unusableText unusable) with exitCode := 2 }
  | .ok settings => perform s settings invocation.task

/-- Runs a command line.  One that makes no sense has no outcome. -/
def run (s : Surroundings) (words : List String) : Option Outcome :=
  match Invocation.read words with
  | .error .usage => none
  | .error .help => some { output := helpText, files := s.files }
  | .error .version => some { output := versionText, files := s.files }
  | .ok invocation => some (runInvocation s invocation)

end JetStream.CommandLine
