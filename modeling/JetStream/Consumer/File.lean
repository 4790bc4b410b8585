import JetStream.Consumer.Config
import JetStream.Files
import JetStream.Log
import JetStream.Yaml.Reader
import JetStream.Yaml.Value

/-!
# Configuration files

A configuration file holds a document in JSON, or in YAML if its extension says so.  What the
document holds besides a configuration is told and does not count.
-/

namespace JetStream.Consumer.Config

/-- The path has the extension of YAML. -/
def isYamlPath (path : String) : Bool :=
  Files.extension? path == some "yaml" || Files.extension? path == some "yml"

/-- The document that a text holds. -/
def readDocument (isYaml : Bool) (text : String) : Except Error Json :=
  if isYaml then
    match (Yaml.Document.read text).json? with
    | some document => .ok document
    | none => .error (.yaml "malformed data")
  else
    match Json.parse? text with
    | some document => .ok document
    | none => .error (.json .malformed)

/-- What is told about a document in a file. -/
def unknownFieldsEvents (path : String) (document : Json) : List Log.Event :=
  match unknownFields document with
  | [] => []
  | names =>
      [.warn "ignoring unknown consumer configuration fields"
        [("path", path), ("fields", Text.quotedList names)]]

/-- The configuration in the text of a file, and what is told about it. -/
def ofFileText (path text : String) : Except Error Config × List Log.Event :=
  match readDocument (isYamlPath path) text with
  | .error e => (.error e, [])
  | .ok document => ((ofJson document).mapError .json, unknownFieldsEvents path document)

/-- The configuration in a file, and what is told about it. -/
def load (files : Files) (path : String) : Except Error Config × List Log.Event :=
  match files.readText path with
  | .error fault => (.error (.ofFileFault fault), [])
  | .ok text => ofFileText path text

end JetStream.Consumer.Config
