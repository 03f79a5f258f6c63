import EntryCoverage.Toml.Document
import EntryCoverage.Toml.Scalar

/-!
# Reading TOML

The table that a TOML document stands for. A document is lines: pairs of a key and
a value, and headers that say to which table the pairs after them belong.

## Main definitions

* `Toml.parse?`: The table of a document, if it is one.
-/

namespace EntryCoverage

namespace Toml

def skipBlanks (cs : List Char) : List Char := cs.dropWhile isBlank

/-- The text after a comment, if one is there; none if it has a control character. -/
def skipComment : List Char → Option (List Char)
  | '#' :: cs =>
      let (comment, rest) := cs.span (· != '\n')
      if comment.any isControl then none else some rest
  | cs => some cs

/-- The text after blanks, line ends and comments, with at most as many steps as
    given. -/
def skipGapWithin : Nat → List Char → Option (List Char)
  | 0, cs => some cs
  | steps + 1, cs =>
      match cs.dropWhile isBlankOrNewline with
      | '#' :: rest => (skipComment ('#' :: rest)).bind (skipGapWithin steps)
      | rest => some rest

/-- The text after the blanks, line ends and comments between the items of an array. -/
def skipGap (cs : List Char) : Option (List Char) := skipGapWithin (cs.length + 1) cs

/-! ### Keys -/

def isBareKeyChar (c : Char) : Bool := c.isAlphanum || c == '-' || c == '_'

/-- One key of a path. -/
def key? (cs : List Char) : Option (String × List Char) :=
  match cs.span isBareKeyChar with
  | ([], _) => lineString? cs
  | (bare, rest) => some (String.ofList bare, rest)

/-- Keys with dots between them, and the blanks after them, with at most as many keys
    as given. -/
def pathWithin : Nat → List Char → Option (List String × List Char)
  | 0, _ => none
  | steps + 1, cs => do
      let (key, rest) ← key? cs
      match skipBlanks rest with
      | '.' :: rest =>
          let (keys, rest) ← pathWithin steps (skipBlanks rest)
          some (key :: keys, rest)
      | rest => some ([key], rest)

/-- Keys with dots between them, and the blanks after them. -/
def path? (cs : List Char) : Option (List String × List Char) := pathWithin (cs.length + 1) cs

/-! ### Values -/

/-- The words that are values. -/
def words : List (List Char × Value) :=
  [("true".toList, .bool true), ("false".toList, .bool false)]

/-- A value that has no values in it. -/
def scalar? (cs : List Char) : Option (Value × List Char) :=
  match words.findSome? fun (word, v) => (Text.after? word cs).map (v, ·) with
  | some result => some result
  | none =>
      ((string? cs).map fun (s, rest) => (.text s, rest)).orElse fun _ =>
        (moment? cs).orElse fun _ => number? cs

mutual

/-- A value, with at most as many steps as given. -/
def valueWithin : Nat → List Char → Option (Value × List Char)
  | 0, _ => none
  | steps + 1, cs =>
      match cs with
      | '[' :: rest => (itemsWithin steps rest).map fun (vs, rest) => (.list vs, rest)
      | '{' :: rest =>
          match skipBlanks rest with
          | '}' :: rest => some (.table [], rest)
          | rest => (pairsWithin steps [] rest).map fun (es, rest) => (.table (values es), rest)
      | _ => scalar? cs

/-- The items of an array that are left, and its closing bracket. A comma may follow
    the last one. -/
def itemsWithin : Nat → List Char → Option (List Value × List Char)
  | 0, _ => none
  | steps + 1, cs => do
      match ← skipGap cs with
      | ']' :: rest => some ([], rest)
      | rest =>
          let (v, rest) ← valueWithin steps rest
          match ← skipGap rest with
          | ']' :: rest => some ([v], rest)
          | ',' :: rest =>
              let (vs, rest) ← itemsWithin steps rest
              some (v :: vs, rest)
          | _ => none

/-- The pairs of an inline table that are left, of which there is at least one, and
    its closing brace. -/
def pairsWithin : Nat → Entries → List Char → Option (Entries × List Char)
  | 0, _, _ => none
  | steps + 1, done, cs => do
      let (path, value, rest) ← pairWithin steps cs
      let done ← put 0 value path done
      match skipBlanks rest with
      | '}' :: rest => some (done, rest)
      | ',' :: rest => pairsWithin steps done (skipBlanks rest)
      | _ => none

/-- A path, an equals sign and a value. -/
def pairWithin : Nat → List Char → Option (List String × Value × List Char)
  | 0, _ => none
  | steps + 1, cs => do
      let (path, rest) ← path? cs
      let '=' :: rest := rest | none
      let (value, rest) ← valueWithin steps (skipBlanks rest)
      some (path, value, rest)

end

/-! ### Lines -/

/-- A document that is read up to a line: its entries, the section that the next line
    belongs to, and the number of that section. -/
structure Reading where
  entries : Entries := []
  header : List String := []
  number : Nat := 0

/-- What a line says, and the text after it. -/
def statement? (r : Reading) (cs : List Char) : Option (Reading × List Char) :=
  match cs with
  | '[' :: '[' :: rest => do
      let (path, rest) ← path? (skipBlanks rest)
      let rest ← Text.after? [']', ']'] rest
      let entries ← appendTable path r.entries
      some (⟨entries, path, r.number + 1⟩, rest)
  | '[' :: rest => do
      let (path, rest) ← path? (skipBlanks rest)
      let rest ← Text.after? [']'] rest
      let entries ← declareTable path r.entries
      some (⟨entries, path, r.number + 1⟩, rest)
  | c :: _ =>
      if c == '#' || c == '\n' then some (r, cs)
      else do
        let (path, value, rest) ← pairWithin (cs.length + 1) cs
        let entries ← assign r.header r.number path value r.entries
        some ({ r with entries }, rest)
  | [] => some (r, [])

/-- The entries of a document, with at most as many lines as given. -/
def linesWithin : Nat → Reading → List Char → Option Entries
  | 0, _, _ => none
  | steps + 1, r, cs => do
      let (r, rest) ← statement? r (skipBlanks cs)
      match ← skipComment (skipBlanks rest) with
      | [] => some r.entries
      | '\n' :: rest => linesWithin steps r rest
      | _ => none

/-- A text in which a carriage return before a line feed is left out. -/
def withoutReturns : List Char → List Char
  | '\r' :: '\n' :: cs => '\n' :: withoutReturns cs
  | c :: cs => c :: withoutReturns cs
  | [] => []

/-- The entries of the table that a document stands for, if it is one. -/
def parse? (text : String) : Option (List (String × Value)) :=
  let cs := withoutReturns text.toList
  (linesWithin (cs.length + 1) {} cs).map values

end Toml

end EntryCoverage
