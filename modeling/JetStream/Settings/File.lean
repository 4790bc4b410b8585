import JetStream.Duration.Grammar
import JetStream.Files
import JetStream.Log
import JetStream.Settings.Basic
import JetStream.Yaml.Reader
import JetStream.Yaml.Value

/-!
# Settings files

A settings file is a mapping in YAML.  Fields that it does not supply keep their defaults, and what
is no field does not count; but no field may stand there twice.
-/

namespace JetStream.Settings

/-- Why the text of a file makes no settings. -/
inductive Fault where
  /-- It is no YAML, or a value has the wrong form. -/
  | malformed
  /-- The timeout is no duration. -/
  | timeout (fault : Duration.Fault)
  deriving DecidableEq

/-- What the operator is told. -/
def Fault.message : Fault → String
  | malformed => "malformed data"
  | timeout fault => "timeout: " ++ fault.message

/-- The text of a scalar. -/
def readText (node : Yaml.Node) : Except Fault String :=
  match node.text? with
  | some text => .ok text
  | none => .error .malformed

/-- The text that may spell a truth value: that of a plain scalar, under any tag, or of a literal
block with the tag of truth values. -/
def truthText? : Yaml.Node → Option String
  | .scalar s => if s.style = .plain then some s.text else none
  | .tagged tag (.scalar s) =>
      if s.style = .plain ∨ (s.style = .literal ∧ tag = Yaml.boolTag) then some s.text else none
  | .tagged _ node => truthText? node
  | _ => none

/-- A truth value. -/
def readBool (node : Yaml.Node) : Except Fault Bool :=
  match (truthText? node).bind Yaml.bool? with
  | some b => .ok b
  | none => .error .malformed

/-- A duration. -/
def readTimeout (node : Yaml.Node) : Except Fault Duration := do
  (Duration.parse (← readText node)).mapError .timeout

/-- The entries of a mapping; nothing at all has none. -/
def entries (node : Yaml.Node) : Except Fault (List (Yaml.Node × Yaml.Node)) :=
  match node.untagged with
  | .mapping entries => .ok entries
  | .scalar ⟨"", .plain⟩ => .ok []
  | _ => .error .malformed

/-- Takes entries in, one after the other.  No field may stand there twice. -/
def readEntries {α : Type} (fields : List String)
    (put : String → Yaml.Node → α → Except Fault α) :
    List String → List (Yaml.Node × Yaml.Node) → α → Except Fault α
  | _, [], value => .ok value
  | seen, (name, node) :: rest, value => do
      let name ← readText name
      if fields.contains name then
        if seen.contains name then .error .malformed
        else readEntries fields put (name :: seen) rest (← put name node value)
      else readEntries fields put seen rest value

/-- Takes in a field of the settings for logging. -/
def putLog (name : String) (node : Yaml.Node) (log : LogSettings) : Except Fault LogSettings :=
  match name with
  | "level" => return { log with level := ← readText node }
  | "json" => return { log with json := ← readBool node }
  | _ => return log

/-- The settings for logging. -/
def readLog (node : Yaml.Node) : Except Fault LogSettings := do
  readEntries ["level", "json"] putLog [] (← entries node) {}

/-- Takes in a field. -/
def put (name : String) (node : Yaml.Node) (s : Settings) : Except Fault Settings :=
  match name with
  | "server" => return { s with server := ← readText node }
  | "timeout" => return { s with timeout := ← readTimeout node }
  | "no_validate" => return { s with noValidate := ← readBool node }
  | "normalize_file_configs" => return { s with normalizeFileConfigs := ← readBool node }
  | "trace" => return { s with trace := ← readBool node }
  | "log" => return { s with log := ← readLog node }
  | _ => return s

/-- The names of the fields. -/
def fields : List String :=
  ["server", "timeout", "no_validate", "normalize_file_configs", "trace", "log"]

/-- The settings of a document; those that it does not supply are the defaults. -/
def ofDocument (document : Yaml.Document) : Except Fault Settings := do
  let settings ← match document.root with
    | some root => readEntries fields put [] (← entries root) {}
    | none => .ok {}
  if document.isComplete then .ok settings else .error .malformed

/-- The settings of a text. -/
def parse (text : String) : Except Fault Settings :=
  ofDocument (Yaml.Document.read text)

/-- The settings in a file. -/
def ofFile (files : Files) (path : String) : Except Error Settings :=
  match files.readText path with
  | .error fault =>
      .error ((Error.ofFileFault fault).inContext ("could not read settings " ++ path))
  | .ok text => (parse text).mapError fun fault => .config (path ++ ": " ++ fault.message)

/-- What is told about settings that were read from a file. -/
def fileEvents (path : String) : List Log.Event :=
  [.debug "loaded settings file" [("path", path)]]

end JetStream.Settings
