import EntryCoverage.Text.Pieces
import EntryCoverage.Text.Quoted
import EntryCoverage.Value

/-!
# Writing JSON

A value as a JSON text, on one line or on a line for each item. Characters beyond
ASCII are written as they are or, where a reader might not know the encoding, by
number.

## Main definitions

* `Json.render`: A value on one line.
* `Json.renderIndented`: A value on many lines.
-/

namespace EntryCoverage

namespace Json

/-- A character by number, as two halves where one number is not enough. -/
def numberedChar (n : Nat) : List Char :=
  let unit (u : Nat) : List Char := '\\' :: 'u' :: Text.hexDigits 4 u
  if n < 0x10000 then unit n
  else unit (0xd800 + (n - 0x10000) / 0x400) ++ unit (0xdc00 + (n - 0x10000) % 0x400)

/-- A character in a string. -/
def stringChar (ascii : Bool) (c : Char) : List Char :=
  if c == '"' || c == '\\' then ['\\', c]
  else if c == '\n' then ['\\', 'n']
  else if c == '\r' then ['\\', 'r']
  else if c == '\t' then ['\\', 't']
  else if c == '\x08' then ['\\', 'b']
  else if c == '\x0c' then ['\\', 'f']
  else if c.toNat < 0x20 || (ascii && 0x7e < c.toNat) then numberedChar c.toNat
  else [c]

def string (ascii : Bool) (s : String) : String :=
  String.ofList ('"' :: s.toList.flatMap (stringChar ascii) ++ ['"'])

mutual

/-- A value on one line. -/
def render (ascii : Bool) : Value → String
  | .null => "null"
  | .bool b => if b then "true" else "false"
  | .int n => toString n
  | .decimal text => text
  | .moment text => string ascii text
  | .text s => string ascii s
  | .list items => "[" ++ Text.joined ", " (renderItems ascii items) ++ "]"
  | .table entries => "\x7b" ++ Text.joined ", " (renderEntries ascii entries) ++ "\x7d"

def renderItems (ascii : Bool) : List Value → List String
  | [] => []
  | v :: vs => render ascii v :: renderItems ascii vs

def renderEntries (ascii : Bool) : List (String × Value) → List String
  | [] => []
  | (key, v) :: rest =>
      (string ascii key ++ ": " ++ render ascii v) :: renderEntries ascii rest

end

/-- A line end and the blanks at the start of the next line. -/
def lineBreak (depth : Nat) : String :=
  String.ofList ('\n' :: List.replicate (2 * depth) ' ')

mutual

/-- A value on many lines, each level two blanks further in, in ASCII. -/
def renderIndented (depth : Nat) : Value → String
  | .list [] => "[]"
  | .table [] => "\x7b\x7d"
  | .list items =>
      "[" ++ lineBreak (depth + 1) ++
        Text.joined ("," ++ lineBreak (depth + 1)) (indentedItems (depth + 1) items) ++
        lineBreak depth ++ "]"
  | .table entries =>
      "\x7b" ++ lineBreak (depth + 1) ++
        Text.joined ("," ++ lineBreak (depth + 1)) (indentedEntries (depth + 1) entries) ++
        lineBreak depth ++ "\x7d"
  | v => render true v

def indentedItems (depth : Nat) : List Value → List String
  | [] => []
  | v :: vs => renderIndented depth v :: indentedItems depth vs

def indentedEntries (depth : Nat) : List (String × Value) → List String
  | [] => []
  | (key, v) :: rest =>
      (string true key ++ ": " ++ renderIndented depth v) :: indentedEntries depth rest

end

end Json

end EntryCoverage
