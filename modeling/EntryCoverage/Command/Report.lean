import EntryCoverage.ConfigFile
import EntryCoverage.Console
import EntryCoverage.Engine

/-!
# Reports

What a command leaves behind: the files, what it told its user, and how it ended.

## Main definitions

* `Failure`: Why a command breaks off.
* `Report`: What a command leaves behind.
-/

namespace EntryCoverage

/-- Why a command breaks off. -/
inductive Failure
  | file (reason : FileError)
  | settings (reason : LoadError)
  | crash (reason : Crash)
deriving DecidableEq, Repr

/-- What a command leaves behind. -/
structure Report where
  files : FileTree
  logs : List LogLine := []
  tables : List Table := []
  /-- The exit code, which is zero if all went well. -/
  outcome : Except Failure Nat := .ok 0

end EntryCoverage
