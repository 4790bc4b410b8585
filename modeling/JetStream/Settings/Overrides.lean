import JetStream.Settings.Layers

/-!
# What the operator overrides

Over all other layers of settings lies what the operator says on the command line.
-/

namespace JetStream.Settings

/-- What the operator supplies for a single run. -/
structure Overrides where
  server : Option String := none
  timeout : Option Duration := none
  logLevel : Option String := none
  trace : Bool := false
  /-- Events are logged in JSON. -/
  json : Bool := false
  deriving DecidableEq, Inhabited

/-- The settings with what the operator supplies; nothing is switched off. -/
def withOverrides (o : Overrides) (s : Settings) : Settings :=
  { s with
    server := o.server.getD s.server
    timeout := o.timeout.getD s.timeout
    trace := s.trace || o.trace
    log := ⟨o.logLevel.getD s.log.level, s.log.json || o.json⟩ }

/-- Why there are no settings for a run. -/
inductive Unusable where
  /-- The file or the environment is at fault. -/
  | layers (e : Error)
  /-- What the operator supplies is at fault. -/
  | overrides (e : Error)
  deriving DecidableEq

/-- The settings for a run: those of all layers, which must be usable both without and with what the
operator supplies. -/
def resolve (files : Files) (path : Option String) (lookup : Environment) (o : Overrides) :
    Except Unusable Settings := do
  let base ← (load files path lookup).mapError .layers
  let settings := base.withOverrides o
  settings.validate.mapError .overrides
  .ok settings

end JetStream.Settings
