import EntryCoverage.Json.Parser
import EntryCoverage.Source.Lexeme
import EntryCoverage.Text.CharName
import EntryCoverage.Text.Lines

/-!
# String Literals

The text that a string literal stands for.

Backslashes begin escapes, except in raw literals. A backslash before a character
that makes no escape stands for itself. Literals of bytes are not texts, but a bad
escape in one is an error all the same.

## Main definitions

* `StringValue`: What a literal stands for.
* `StringValue.ofLiteral`: What a given literal stands for.
-/

namespace EntryCoverage

namespace Source

/-- What a string literal stands for. -/
inductive StringValue
  | text (cs : List Char)
  | bytes
  /-- An escape has no meaning. -/
  | malformed
deriving DecidableEq, Repr

namespace StringValue

def isOctal (c : Char) : Bool := '0' ≤ c && c ≤ '7'

/-- The character that a letter after a backslash stands for. -/
def simpleEscape? (c : Char) : Option Char :=
  if c == '\\' || c == '\x27' || c == '"' then some c
  else if c == 'a' then some '\x07'
  else if c == 'b' then some '\x08'
  else if c == 'f' then some '\x0c'
  else if c == 'n' then some '\n'
  else if c == 'r' then some '\r'
  else if c == 't' then some '\t'
  else if c == 'v' then some '\x0b'
  else none

/-- The number that hexadecimal digits stand for, if all are such digits. -/
def hexNumber? (ds : List Char) : Option Nat :=
  ds.foldlM (fun n d => (Json.hexValue? d).map (16 * n + ·)) 0

/-- A character by `count` hexadecimal digits. -/
def hexEscape? (count : Nat) (cs : List Char) : Option (Char × List Char) := do
  let ds := cs.take count
  if ds.length < count then none
  else
    let n ← hexNumber? ds
    if n < 0x110000 then some (Char.ofNat n, cs.drop count) else none

/-- A character by its name in braces. -/
def nameEscape? : List Char → Option (Char × List Char)
  | '{' :: cs => do
      let (name, rest) := cs.span (· != '}')
      let '}' :: rest := rest | none
      let c ← Text.charNamed? name
      some (c, rest)
  | _ => none

/-- The characters after a backslash: what they stand for, and the text after
    them. Bytes know no characters beyond their range. -/
def escape? (isBytes : Bool) : List Char → Option (List Char × List Char)
  | [] => none
  | '\n' :: rest => some ([], rest)
  | c :: rest =>
      match simpleEscape? c with
      | some value => some ([value], rest)
      | none =>
          if isOctal c then
            let more := (rest.take 2).takeWhile isOctal
            let n := (c :: more).foldl (fun n d => 8 * n + (d.toNat - '0'.toNat)) 0
            some ([Char.ofNat n], rest.drop more.length)
          else if c == 'x' then one (hexEscape? 2 rest)
          else if isBytes then some (['\\', c], rest)
          else if c == 'u' then one (hexEscape? 4 rest)
          else if c == 'U' then one (hexEscape? 8 rest)
          else if c == 'N' then one (nameEscape? rest)
          else some (['\\', c], rest)
where
  one (found : Option (Char × List Char)) : Option (List Char × List Char) :=
    found.map fun (c, rest) => ([c], rest)

/-- A text without its escapes, with at most as many steps as given. -/
def unescapeWithin (isBytes : Bool) : Nat → List Char → Option (List Char)
  | _, [] => some []
  | 0, _ :: _ => none
  | steps + 1, '\\' :: rest => do
      let (value, rest) ← escape? isBytes rest
      let more ← unescapeWithin isBytes steps rest
      some (value ++ more)
  | steps + 1, c :: rest => (unescapeWithin isBytes steps rest).map (c :: ·)

/-- The text between the quotes of a literal, with line feeds for its line ends. -/
def body (quotes : Lexeme.Quotes) (cs : List Char) : List Char :=
  Text.withLineFeeds (cs.take (cs.length - if quotes.triple then 3 else 1))

/-- What a literal stands for. -/
def ofLiteral (literal : List Char) : StringValue :=
  let (letters, rest) := literal.span (!Lexeme.isQuote ·)
  match Lexeme.openingQuotes? rest with
  | none => .malformed
  | some (quotes, _, rest) =>
      let cs := body quotes rest
      let lower := letters.map Char.toLower
      let isBytes := lower.contains 'b'
      let value := if lower.contains 'r' then some cs else unescapeWithin isBytes cs.length cs
      if isBytes && cs.any (128 ≤ ·.toNat) then .malformed
      else match value with
        | none => .malformed
        | some value => if isBytes then .bytes else .text value

end StringValue

end Source

end EntryCoverage
