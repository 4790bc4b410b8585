import JetStream.CommandLine.Arguments
import JetStream.Consumer.Flags
import JetStream.Settings.Overrides

/-!
# Invocations

What a command line asks for: a command, with settings that go for all commands and may stand before
it or after it.
-/

namespace JetStream.CommandLine

open Consumer (Flags)

/-- What is to be done.  Most commands are about consumers on a server and need one at once. -/
inductive Task where
  /-- A configuration is to be resolved and checked. -/
  | check (flags : Flags)
  /-- A configuration is to be resolved and saved under a path. -/
  | save (flags : Flags) (path : String)
  /-- A configuration is to be resolved and made a consumer. -/
  | create (flags : Flags)
  /-- A consumer is to be deleted, perhaps without asking whether it really should be. -/
  | delete (force : Bool)
  /-- Something else is to be asked of a server. -/
  | online
  deriving DecidableEq

/-- What a command line asks for. -/
structure Invocation where
  /-- The path of a settings file. -/
  settingsPath : Option String
  overrides : Settings.Overrides
  task : Task
  deriving DecidableEq

/-- A command by its names, with the options it has and the names that follow it. -/
structure Command where
  names : List String
  rules : List OptionRule
  /-- How many names must follow. -/
  needs : Nat := 0
  /-- How many names may follow. -/
  takes : Nat
  task : Arguments → Task

/-- The option that explains the others. -/
def helpRule : OptionRule := ⟨"help", .ends .help, some 'h'⟩

/-- The options that go for all commands. -/
def globalRules : List OptionRule :=
  [⟨"server", .text, none⟩, ⟨"timeout", .duration, none⟩, ⟨"settings", .path, none⟩,
   ⟨"trace", .switch, none⟩, ⟨"json-logs", .switch, none⟩, ⟨"log-level", .text, none⟩]

/-- The options for the parts of a configuration. -/
def configurationRules : List OptionRule :=
  [⟨"target", .text, none⟩, ⟨"filter", .text, none⟩, ⟨"deliver", .text, none⟩,
   ⟨"ack", .text, none⟩, ⟨"replay", .text, none⟩, ⟨"wait", .duration, none⟩,
   ⟨"sample", .signed false, none⟩, ⟨"max-deliver", .signed true, none⟩,
   ⟨"max-pending", .signed true, none⟩, ⟨"bps", .unsigned, none⟩, ⟨"pull", .switch, none⟩,
   ⟨"ephemeral", .switch, none⟩]

/-- The flags for the parts of a configuration. -/
def flags (a : Arguments) : Flags :=
  { name := a.names[1]?
    ephemeral := a.isOn "ephemeral"
    pull := a.isOn "pull"
    deliverSubject := a.text? "target"
    filterSubject := a.text? "filter"
    startPolicy := a.text? "deliver"
    ackPolicy := a.text? "ack"
    replayPolicy := a.text? "replay"
    ackWait := a.duration? "wait"
    samplePercent := a.signed? "sample"
    maxDeliver := a.signed? "max-deliver"
    maxAckPending := a.signed? "max-pending"
    rateLimit := a.unsigned? "bps"
    configFile := a.text? "config" }

/-- What to do about a new consumer. -/
def addTask (a : Arguments) : Task :=
  if a.isOn "validate" then .check (flags a)
  else
    match a.text? "output" with
    | some path => .save (flags a) path
    | none => .create (flags a)

/-- The option for output as data. -/
def jsonRule : OptionRule := ⟨"json", .switch, some 'j'⟩

/-- The option for output as it is. -/
def rawRule : OptionRule := ⟨"raw", .switch, none⟩

/-- The option against acknowledgements. -/
def noAckRule : OptionRule := ⟨"no-ack", .switch, none⟩

/-- A command that needs a server at once. -/
def onlineCommand (names : List String) (rules : List OptionRule) (takes : Nat) : Command :=
  { names := names, rules := rules, takes := takes, task := fun _ => .online }

/-- The commands. -/
def commands : List Command :=
  [{ names := ["add", "create", "new"]
     rules :=
      [⟨"config", .path, none⟩, ⟨"validate", .switch, none⟩, ⟨"output", .path, none⟩] ++
        configurationRules
     takes := 2
     task := addTask },
   { onlineCommand ["copy", "cp"] configurationRules 3 with needs := 3 },
   onlineCommand ["info", "nfo"] [jsonRule] 2,
   onlineCommand ["ls", "list"] [jsonRule] 1,
   onlineCommand ["next"] [noAckRule, rawRule, ⟨"wait", .duration, none⟩] 2,
   { names := ["rm", "delete", "del"]
     rules := [⟨"force", .switch, some 'f'⟩]
     takes := 2
     task := fun a => .delete (a.isOn "force") },
   onlineCommand ["sub"] [noAckRule, rawRule] 2,
   onlineCommand ["step-down", "elect", "down"] [jsonRule] 2,
   onlineCommand ["report"] [rawRule] 1]

/-- The words before the command. -/
def leadingGrammar : Grammar :=
  ⟨globalRules ++ [helpRule, ⟨"version", .ends .version, some 'V'⟩], none⟩

/-- The words after a command. -/
def Command.grammar (c : Command) : Grammar :=
  ⟨globalRules ++ c.rules ++ [helpRule], some c.takes⟩

/-- What the options that go for all commands say; those after the command come first. -/
def overrides (leading following : Arguments) : Settings.Overrides :=
  { server := (following.text? "server").or (leading.text? "server")
    timeout := (following.duration? "timeout").or (leading.duration? "timeout")
    logLevel := (following.text? "log-level").or (leading.text? "log-level")
    trace := following.isOn "trace" || leading.isOn "trace"
    json := following.isOn "json-logs" || leading.isOn "json-logs" }

/-- The invocation of a command. -/
def Command.invocation (c : Command) (leading following : Arguments) : Except Stop Invocation :=
  if following.names.length < c.needs then .error .usage
  else
    .ok
      { settingsPath := (following.text? "settings").or (leading.text? "settings")
        overrides := overrides leading following
        task := c.task following }

/-- Reads the words of a command line. -/
def Invocation.read (words : List String) : Except Stop Invocation := do
  let (leading, rest) ← leadingGrammar.read false {} words
  match rest with
  | [] => .error .usage
  | name :: rest =>
      match commands.find? fun c => c.names.contains name with
      | some c =>
          let (following, _) ← c.grammar.read false {} rest
          c.invocation leading following
      | none => .error (if name = "help" then .help else .usage)

end JetStream.CommandLine
