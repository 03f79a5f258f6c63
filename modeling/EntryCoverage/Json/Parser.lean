import EntryCoverage.Text.Pieces
import EntryCoverage.Value

/-!
# Reading JSON

The value of a JSON text. The reader takes the standard's grammar and, with it,
three words that stand for numbers without digits. A key that an object repeats
keeps its first place and its last value.

## Main definitions

* `Json.parse?`: The value of a text, if it is one.
-/

namespace EntryCoverage

namespace Json

def isSpace (c : Char) : Bool := c == ' ' || c == '\t' || c == '\n' || c == '\r'

def skipSpace (cs : List Char) : List Char := cs.dropWhile isSpace

/-- The value of a hexadecimal digit. -/
def hexValue? (c : Char) : Option Nat :=
  if '0' ≤ c && c ≤ '9' then some (c.toNat - '0'.toNat)
  else if 'a' ≤ c && c ≤ 'f' then some (c.toNat - 'a'.toNat + 10)
  else if 'A' ≤ c && c ≤ 'F' then some (c.toNat - 'A'.toNat + 10)
  else none

/-- Four hexadecimal digits. -/
def hex4? : List Char → Option (Nat × List Char)
  | a :: b :: c :: d :: rest => do
      let a ← hexValue? a
      let b ← hexValue? b
      let c ← hexValue? c
      let d ← hexValue? d
      some (((a * 16 + b) * 16 + c) * 16 + d, rest)
  | _ => none

/-- The character that a letter after a backslash stands for. -/
def escaped? (c : Char) : Option Char :=
  if c == '"' || c == '\\' || c == '/' then some c
  else if c == 'b' then some '\x08'
  else if c == 'f' then some '\x0c'
  else if c == 'n' then some '\n'
  else if c == 'r' then some '\r'
  else if c == 't' then some '\t'
  else none

/-- A character written by number, of which two in a row may stand for one. Half of
    such a pair alone is no character. -/
def numbered? (cs : List Char) : Option (Char × List Char) := do
  let (n, rest) ← hex4? cs
  if 0xd800 ≤ n && n < 0xdc00 then
    let '\\' :: 'u' :: more := rest | none
    let (m, rest) ← hex4? more
    if 0xdc00 ≤ m && m < 0xe000 then
      some (Char.ofNat (0x10000 + (n - 0xd800) * 0x400 + (m - 0xdc00)), rest)
    else none
  else if 0xdc00 ≤ n && n < 0xe000 then none
  else some (Char.ofNat n, rest)

/-- The rest of a string after its opening quote, with at most as many steps as
    given. -/
@[simp] def stringWithin : Nat → List Char → Option (List Char × List Char)
  | 0, _ => none
  | _ + 1, [] => none
  | steps + 1, c :: rest =>
      if c == '"' then some ([], rest)
      else if c == '\\' then
        match rest with
        | 'u' :: digits => do
            let (c, rest) ← numbered? digits
            let (cs, rest) ← stringWithin steps rest
            some (c :: cs, rest)
        | e :: rest => do
            let c ← escaped? e
            let (cs, rest) ← stringWithin steps rest
            some (c :: cs, rest)
        | [] => none
      else if c.toNat < 0x20 then none
      else do
        let (cs, rest) ← stringWithin steps rest
        some (c :: cs, rest)

/-- The rest of a string after its opening quote. -/
def string? (cs : List Char) : Option (String × List Char) :=
  (stringWithin cs.length cs).map fun (s, rest) => (String.ofList s, rest)

/-- The number that decimal digits stand for. -/
def natOfDigits (ds : List Char) : Nat :=
  ds.foldl (fun n d => n * 10 + (d.toNat - '0'.toNat)) 0

/-- A number: an integer, or with a fraction or an exponent a decimal. -/
def number? (cs : List Char) : Option (Value × List Char) :=
  let (sign, cs) := if cs.head? == some '-' then (['-'], cs.drop 1) else ([], cs)
  let (whole, cs) :=
    if cs.head? == some '0' then (['0'], cs.drop 1) else cs.span Char.isDigit
  if whole.isEmpty then none
  else
    let (fraction, cs) := match cs with
      | '.' :: d :: rest =>
          if d.isDigit then
            let (ds, rest) := (d :: rest).span Char.isDigit
            ('.' :: ds, rest)
          else ([], cs)
      | _ => ([], cs)
    let (power, cs) := exponent cs
    if fraction.isEmpty && power.isEmpty then
      let n : Int := natOfDigits whole
      some (.int (if sign.isEmpty then n else -n), cs)
    else some (.decimal (String.ofList (sign ++ whole ++ fraction ++ power)), cs)
where
  exponent (cs : List Char) : List Char × List Char :=
    match cs with
    | e :: rest =>
        if e == 'e' || e == 'E' then
          let (sign, rest) := match rest with
            | '+' :: r => (['+'], r)
            | '-' :: r => (['-'], r)
            | r => ([], r)
          let (ds, rest) := rest.span Char.isDigit
          if ds.isEmpty then ([], cs) else (e :: sign ++ ds, rest)
        else ([], cs)
    | [] => ([], cs)

/-- The words that are values. -/
def words : List (List Char × Value) :=
  [("null".toList, .null), ("true".toList, .bool true), ("false".toList, .bool false),
   ("NaN".toList, .decimal "NaN"), ("Infinity".toList, .decimal "Infinity"),
   ("-Infinity".toList, .decimal "-Infinity")]

mutual

/-- A value, after blanks, with at most as many steps as given. -/
@[simp] def valueWithin : Nat → List Char → Option (Value × List Char)
  | 0, _ => none
  | steps + 1, cs =>
      match skipSpace cs with
      | '"' :: rest => (string? rest).map fun (s, rest) => (.text s, rest)
      | '[' :: rest =>
          match skipSpace rest with
          | ']' :: rest => some (.list [], rest)
          | rest => (itemsWithin steps rest).map fun (vs, rest) => (.list vs, rest)
      | '{' :: rest =>
          match skipSpace rest with
          | '}' :: rest => some (.table [], rest)
          | rest => (entriesWithin steps [] rest).map fun (es, rest) => (.table es, rest)
      | cs =>
          match words.findSome? fun (word, v) => (Text.after? word cs).map (v, ·) with
          | some result => some result
          | none => number? cs

/-- The items of an array, of which there is at least one. -/
@[simp] def itemsWithin : Nat → List Char → Option (List Value × List Char)
  | 0, _ => none
  | steps + 1, cs => do
      let (v, rest) ← valueWithin steps cs
      match skipSpace rest with
      | ']' :: rest => some ([v], rest)
      | ',' :: rest =>
          let (vs, rest) ← itemsWithin steps rest
          some (v :: vs, rest)
      | _ => none

/-- The entries of an object, of which there is at least one more than `done`. -/
@[simp] def entriesWithin :
    Nat → List (String × Value) → List Char → Option (List (String × Value) × List Char)
  | 0, _, _ => none
  | steps + 1, done, cs => do
      let '"' :: rest := skipSpace cs | none
      let (key, rest) ← string? rest
      let ':' :: rest := skipSpace rest | none
      let (v, rest) ← valueWithin steps rest
      let done := putEntry key v done
      match skipSpace rest with
      | '}' :: rest => some (done, rest)
      | ',' :: rest => entriesWithin steps done rest
      | _ => none

end

/-- The value of a text, if it is one and nothing but blanks stands around it. -/
def parse? (text : String) : Option Value := do
  let cs := text.toList
  let (v, rest) ← valueWithin (cs.length + 1) cs
  if (skipSpace rest).isEmpty then some v else none

end Json

end EntryCoverage
