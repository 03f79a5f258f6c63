import EntryCoverage.Config
import EntryCoverage.Source.Tree
import EntryCoverage.Text.Blank

/-!
# The Hook Call

The call that instrumentation adds to a function: the hook's path, with the
identifier of the place as a string and its line as a number.

Not every name, identifier or number can be written as one. The parts of a path
must not be empty or hold a blank, the number must not be negative, and an
identifier must not begin with a quote in such a way that the string would read as
another kind of string.

## Main definitions

* `dottedName?`: A path as source.
* `hookCall?`: The call of the hook.
* `importLine`: The statement that makes the hook known.
-/

namespace EntryCoverage

namespace Hook

open Source

/-- Whether a text can stand as a name in a tree. -/
def isWritableName (cs : List Char) : Bool := !cs.isEmpty && !cs.any Text.isBlank

/-- A path as source, if its parts can be names. -/
def dottedName? (path : String) : Option Tree :=
  if (Text.splitOn '.' path.toList).all isWritableName then some (.word path) else none

/-- Whether an identifier can stand between double quotes. A long string that begins
    with a second quote must be one in triple quotes. -/
def isWritableIdentifier (cs : List Char) : Bool :=
  match cs with
  | '"' :: rest =>
      cs.length < 4 ||
        (rest.head? == some '"' &&
          match cs.reverse with
          | '"' :: '"' :: _ => true
          | _ => false)
  | _ => true

/-- The call of the hook, if all its parts can be written. -/
def hookCall? (config : Config) (identifier : String) (line : Int) : Option Tree := do
  let path ← dottedName? config.hookPath
  if isWritableIdentifier identifier.toList && 0 ≤ line then
    some <| .node .hookCall
      [path, .word "(", .word ("\"" ++ identifier ++ "\""), .word ",", .space " ",
       .word (toString line), .word ")"]
  else none

/-- A line with one small statement on it. -/
def lineOf (small : Tree) : Tree :=
  .node .simpleLine [.node .leading [], .leaf .margin, small, .leaf (.newline none)]

/-- The statement that makes the hook known. -/
def importLine (hookNamespace : String) : Tree :=
  lineOf (.node .importStatement [.word "import", .space " ", .word hookNamespace])

/-- A call as a statement. -/
def callStatement (call : Tree) : Tree := .node .expressionStatement [call]

end Hook

end EntryCoverage
