import JetStream.Error
import JetStream.NameMap
import JetStream.Text.Split
import JetStream.Text.Utf8

/-!
# Files

Contents of files under their paths, which begin with a slash or go from the working directory.  A
directory is there when a file is below it.  In a path an empty component and a `.` do not count.
-/

namespace JetStream

open Text

/-- Contents of files under their paths. -/
structure Files where
  /-- The files; components of a path are set apart by a slash. -/
  contents : NameMap Bytes
  deriving Inhabited

namespace Files

/-- The components of a path that count; a slash at its beginning is one. -/
def components (path : String) : List String :=
  let parts := (split '/' path).filter fun part => part ≠ "" && part ≠ "."
  if path.toList.head? = some '/' then "/" :: parts else parts

/-- The path with nothing but what counts. -/
def normal (path : String) : String :=
  "/".intercalate (components path)

/-- A file is below the directory of a path. -/
def isDirectory (files : Files) (parts : List String) : Bool :=
  parts.isEmpty || files.contents.any fun entry =>
    let other := components entry.1
    parts.length < other.length && parts.isPrefixOf other

/-- One of the directories that a path leads through is a file. -/
def leadsThroughFile (files : Files) (parts : List String) : Bool :=
  files.contents.any fun entry =>
    let other := components entry.1
    other.length < parts.length && other.isPrefixOf parts

/-- Why there is no file at a path. -/
def whyNot (files : Files) (path : String) : FileFault :=
  if path.isEmpty then .notFound
  else if files.isDirectory (components path) then .isDirectory
  else if files.leadsThroughFile (components path) then .notDirectory
  else .notFound

/-- The contents of a file. -/
def read (files : Files) (path : String) : Except FileFault Bytes :=
  if path.isEmpty then .error .notFound
  else
    match files.contents.get? (normal path) with
    | some bytes => .ok bytes
    | none => .error (files.whyNot path)

/-- The text of a file. -/
def readText (files : Files) (path : String) : Except FileFault String :=
  match files.read path with
  | .error fault => .error fault
  | .ok bytes =>
      match ofBytes? bytes with
      | some text => .ok text
      | none => .error .invalidData

/-- The directory with a text written to a file; the file's own directory must be there. -/
def write (files : Files) (path text : String) : Except FileFault Files :=
  if path.isEmpty then .error .notFound
  else
    let parts := components path
    if files.isDirectory parts then .error .isDirectory
    else if files.leadsThroughFile parts then .error .notDirectory
    else if files.isDirectory parts.dropLast then
      .ok ⟨files.contents.insert (normal path) (encode text)⟩
    else .error .notFound

/-- The extension of a path: what follows the last point of its last component, unless that begins
the component. -/
def extension? (path : String) : Option String :=
  match (components path).getLast? with
  | none => none
  | some file =>
      match (split '.' file).reverse with
      | [] | [_] | [_, ""] => none
      | extension :: _ => if file = ".." then none else some extension

end Files

end JetStream
