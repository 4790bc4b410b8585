import JetStream.Consumer.Schema
import JetStream.Error
import JetStream.Files

/-!
# Checking configurations

A configuration can be checked and shown, or checked and saved, without any broker.
-/

namespace JetStream.Consumer

/-- What checking a configuration comes to. -/
structure Check where
  /-- What the operator reads. -/
  output : String
  result : Except Error Unit
  events : List Log.Event

/-- Whether a report is free of violations. -/
def ValidationReport.verdict (report : ValidationReport) : Except Error Unit :=
  if report.isValid then .ok () else .error (.validation report.errors)

/-- Shows the canonical form and says whether it is valid. -/
def check (bypass : Bool) (c : Config) : Check :=
  let (report, events) := validate bypass c
  let shown := report.canonical ++ "\n\n"
  let verdict := report.verdict
  { output :=
      match verdict with
      | .ok () => shown ++ "Configuration is a valid Consumer\n"
      | .error _ => shown
    result := verdict
    events := events }

/-- The files with a valid configuration saved among them, and what is told. -/
def save (bypass : Bool) (c : Config) (files : Files) (path : String) :
    Except Error Files × List Log.Event :=
  let (report, events) := validate bypass c
  match report.verdict with
  | .error e => (.error e, events)
  | .ok () =>
      match files.write path c.canonical with
      | .error fault =>
          (.error ((Error.ofFileFault fault).inContext ("could not write " ++ path)), events)
      | .ok files =>
          (.ok files, events ++ [.info "saved consumer configuration" [("path", path)]])

end JetStream.Consumer
