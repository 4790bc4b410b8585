import JetStream.Settings.File

/-!
# Layers of settings

Over the defaults lie those from a file, and over these what the environment supplies.
-/

namespace JetStream.Settings

open Text

/-- Looks up a variable of the environment. -/
abbrev Environment := String → Option String

/-- Any text but the empty one asks for validation to be skipped. -/
def bypassRequested (value : String) : Bool := !value.isEmpty

/-- Whether the value of a variable switches something on. -/
def isOn (value : String) : Bool :=
  !(["", "0", "false", "no", "off"].contains (lower (trim value)))

/-- The settings with what the environment supplies. -/
def withEnvironment (lookup : Environment) (s : Settings) : Except Error Settings := do
  let timeout ← match lookup "JETCTL_TIMEOUT" with
    | none => .ok s.timeout
    | some text =>
        (Duration.parse text).mapError fun fault => .config ("JETCTL_TIMEOUT: " ++ fault.message)
  .ok
    { s with
      server := ((lookup "JETCTL_SERVER").or (lookup "NATS_URL")).getD s.server
      timeout := timeout
      noValidate := ((lookup "NOVALIDATE").map bypassRequested).getD s.noValidate
      normalizeFileConfigs :=
        ((lookup "JETCTL_NORMALIZE_FILE_CONFIGS").map isOn).getD s.normalizeFileConfigs
      log := { s.log with level := (lookup "JETCTL_LOG_LEVEL").getD s.log.level } }

/-- Defaults, then a file, then the environment. -/
def load (files : Files) (path : Option String) (lookup : Environment) : Except Error Settings := do
  let base ← match path with
    | some path => ofFile files path
    | none => .ok {}
  let settings ← base.withEnvironment lookup
  settings.validate
  .ok settings

end JetStream.Settings
