import JetStream.Settings.Basic
import JetStream.Yaml.Printer

/-!
# Settings as text

Settings are written as a settings file with every field.  The timeout is written in seconds, or
else in whole milliseconds.
-/

namespace JetStream.Settings

open Yaml

/-- The timeout in whole seconds, or else in whole milliseconds. -/
def timeoutText (d : Duration) : String :=
  if d.subsecond = 0 then toString d.seconds ++ "s" else toString d.milliseconds ++ "ms"

/-- The text of a settings file. -/
def text (s : Settings) : String :=
  entryText 0 "server" (scalarText 2 s.server) ++
  entryText 0 "timeout" (scalarText 2 (timeoutText s.timeout)) ++
  entryText 0 "no_validate" (boolText s.noValidate) ++
  entryText 0 "normalize_file_configs" (boolText s.normalizeFileConfigs) ++
  entryText 0 "trace" (boolText s.trace) ++
  "log:\n" ++
  entryText 2 "level" (scalarText 4 s.log.level) ++
  entryText 2 "json" (boolText s.log.json)

end JetStream.Settings
