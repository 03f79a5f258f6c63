import EntryCoverage.Json.Parser
import EntryCoverage.Text.Pieces

/-!
# Scalars of a Document

Strings, numbers, dates and times of a TOML document. Each function reads one of
them off the front of a text and gives it with the characters after it.

## Main definitions

* `string?`: A string in one of its four forms.
* `moment?`: A date, a time of day, or both.
* `number?`: A number.
-/

namespace EntryCoverage

namespace Toml

def isBlank (c : Char) : Bool := c == ' ' || c == '\t'

def isBlankOrNewline (c : Char) : Bool := isBlank c || c == '\n'

/-- Whether a character must not stand in a comment, or in a string as it is. -/
def isControl (c : Char) : Bool := (c.toNat < 0x20 && c != '\t') || c.toNat == 0x7f

/-- Whether a character must not stand in a string of one line, or of many. -/
def isForbidden (many : Bool) (c : Char) : Bool := isControl c && !(many && c == '\n')

/-! ### Strings -/

/-- The character with a number of so many hexadecimal digits. -/
def numberedChar? (width : Nat) (cs : List Char) : Option (Char × List Char) := do
  let digits ← (cs.take width).mapM Json.hexValue?
  if digits.length ≠ width then none
  else
    let n := digits.foldl (fun n d => n * 16 + d) 0
    if n.isValidChar then some (Char.ofNat n, cs.drop width) else none

/-- The characters that letters after a backslash stand for. -/
def escapes : List (Char × Char) :=
  [('b', '\x08'), ('t', '\t'), ('n', '\n'), ('f', '\x0c'), ('r', '\r'), ('"', '"'),
   ('\\', '\\')]

/-- What an escape stands for, after its backslash. In a string of many lines a
    backslash at the end of a line takes the blanks and line ends after it away. -/
def escaped? (many : Bool) : List Char → Option (List Char × List Char)
  | [] => none
  | 'u' :: cs => (numberedChar? 4 cs).map fun (c, rest) => ([c], rest)
  | 'U' :: cs => (numberedChar? 8 cs).map fun (c, rest) => ([c], rest)
  | c :: cs =>
      match escapes.find? (·.1 == c) with
      | some (_, e) => some ([e], cs)
      | none =>
          match (c :: cs).dropWhile isBlank with
          | '\n' :: rest => if many then some ([], rest.dropWhile isBlankOrNewline) else none
          | _ => none

/-- The rest of a string with escapes after its opening quotes, with at most as many
    steps as given. -/
def escapedTextWithin (many : Bool) : Nat → List Char → Option (List Char × List Char)
  | 0, _ => none
  | _ + 1, [] => none
  | steps + 1, c :: cs =>
      if c == '"' then
        if many then
          match Text.after? ['"', '"'] cs with
          | some rest => some ([], rest)
          | none => (escapedTextWithin many steps cs).map fun (t, rest) => ('"' :: t, rest)
        else some ([], cs)
      else if c == '\\' then do
        let (e, rest) ← escaped? many cs
        let (t, rest) ← escapedTextWithin many steps rest
        some (e ++ t, rest)
      else if isForbidden many c then none
      else (escapedTextWithin many steps cs).map fun (t, rest) => (c :: t, rest)

def escapedText? (many : Bool) (cs : List Char) : Option (List Char × List Char) :=
  escapedTextWithin many (cs.length + 1) cs

/-- The rest of a string without escapes, up to its closing quotes. -/
def plainText? (many : Bool) (quotes : List Char) : List Char → Option (List Char × List Char)
  | [] => none
  | c :: cs =>
      match Text.after? quotes (c :: cs) with
      | some rest => some ([], rest)
      | none =>
          if isForbidden many c then none
          else (plainText? many quotes cs).map fun (t, rest) => (c :: t, rest)

/-- A string of many lines after its closing quotes, before which there may have been
    one or two quotes more. -/
def withExtraQuotes (quote : Char) (text rest : List Char) : List Char × List Char :=
  let extra := (rest.take 2).takeWhile (· == quote)
  (text ++ extra, rest.drop extra.length)

/-- A text without the line end that it begins with. -/
def dropNewline : List Char → List Char
  | '\n' :: cs => cs
  | cs => cs

/-- A string on one line. -/
def lineString? : List Char → Option (String × List Char)
  | '"' :: cs => (escapedText? false cs).map fun (t, rest) => (String.ofList t, rest)
  | '\x27' :: cs => (plainText? false ['\x27'] cs).map fun (t, rest) => (String.ofList t, rest)
  | _ => none

/-- A string in one of its four forms. -/
def string? (cs : List Char) : Option (String × List Char) :=
  match Text.after? ['"', '"', '"'] cs, Text.after? ['\x27', '\x27', '\x27'] cs with
  | some rest, _ => do
      let (t, rest) ← escapedText? true (dropNewline rest)
      let (t, rest) := withExtraQuotes '"' t rest
      some (String.ofList t, rest)
  | none, some rest => do
      let (t, rest) ← plainText? true ['\x27', '\x27', '\x27'] (dropNewline rest)
      let (t, rest) := withExtraQuotes '\x27' t rest
      some (String.ofList t, rest)
  | none, none => lineString? cs

/-! ### Dates and times -/

/-- Two digits, as a number with bounds. -/
def twoDigits? (least most : Nat) : List Char → Option (Nat × List Char)
  | a :: b :: rest =>
      let n := Json.natOfDigits [a, b]
      if a.isDigit && b.isDigit && least ≤ n && n ≤ most then some (n, rest) else none
  | _ => none

def isLeapYear (year : Nat) : Bool := year % 4 == 0 && (year % 100 != 0 || year % 400 == 0)

/-- How many days a month has. -/
def daysOfMonth (year month : Nat) : Nat :=
  if month = 2 then if isLeapYear year then 29 else 28
  else if month = 4 ∨ month = 6 ∨ month = 9 ∨ month = 11 then 30
  else 31

/-- The text after a date that is on the calendar, the first year of which is one. -/
def afterDate? (cs : List Char) : Option (List Char) := do
  let (century, rest) ← twoDigits? 0 99 cs
  let (ofCentury, rest) ← twoDigits? 0 99 rest
  let rest ← Text.after? ['-'] rest
  let (month, rest) ← twoDigits? 1 12 rest
  let rest ← Text.after? ['-'] rest
  let year := century * 100 + ofCentury
  let (_, rest) ← twoDigits? 1 (daysOfMonth year month) rest
  if year = 0 then none else some rest

/-- The text after a fraction of a second, if there is one. -/
def afterFraction : List Char → List Char
  | '.' :: d :: rest => if d.isDigit then rest.dropWhile Char.isDigit else '.' :: d :: rest
  | rest => rest

/-- The text after a time of day. -/
def afterTime? (cs : List Char) : Option (List Char) := do
  let (_, rest) ← twoDigits? 0 23 cs
  let rest ← Text.after? [':'] rest
  let (_, rest) ← twoDigits? 0 59 rest
  let rest ← Text.after? [':'] rest
  let (_, rest) ← twoDigits? 0 59 rest
  some (afterFraction rest)

/-- The text after what says how far a clock is from the mean one. -/
def afterOffset? : List Char → Option (List Char)
  | [] => none
  | c :: cs =>
      if c == 'z' || c == 'Z' then some cs
      else if c == '+' || c == '-' then do
        let (_, rest) ← twoDigits? 0 23 cs
        let rest ← Text.after? [':'] rest
        let (_, rest) ← twoDigits? 0 59 rest
        some rest
      else none

/-- The text after a date and, if there is one, a time on that day. -/
def afterDateAndTime? (cs : List Char) : Option (List Char) := do
  let rest ← afterDate? cs
  match rest with
  | c :: more =>
      if c == 'T' || c == 't' || c == ' ' then
        match afterTime? more with
        | some rest => some ((afterOffset? rest).getD rest)
        | none => some rest
      else some rest
  | [] => some rest

/-- A date, a time of day, or both. -/
def moment? (cs : List Char) : Option (Value × List Char) := do
  let rest ← (afterDateAndTime? cs).orElse fun _ => afterTime? cs
  some (.moment (String.ofList (cs.take (cs.length - rest.length))), rest)

/-! ### Numbers -/

/-- Digits, between which there may be single underscores, which are left out. -/
def digits? (isDigit : Char → Bool) : List Char → Option (List Char × List Char)
  | c :: cs => if isDigit c then some (go c cs) else none
  | [] => none
where
  go (last : Char) : List Char → List Char × List Char
    | '_' :: d :: cs =>
        if isDigit d then
          let (ds, rest) := go d cs
          (last :: ds, rest)
        else ([last], '_' :: d :: cs)
    | d :: cs =>
        if isDigit d then
          let (ds, rest) := go d cs
          (last :: ds, rest)
        else ([last], d :: cs)
    | [] => ([last], [])

/-- The bases that a number may be written in, besides ten. -/
def bases : List (Char × Nat) := [('x', 16), ('o', 8), ('b', 2)]

/-- The value of a digit in a base. -/
def digitValue? (base : Nat) (c : Char) : Option Nat :=
  (Json.hexValue? c).filter (· < base)

/-- A number in another base than ten. -/
def basedNumber? : List Char → Option (Value × List Char)
  | '0' :: letter :: cs => do
      let (_, base) ← bases.find? (·.1 == letter)
      let (ds, rest) ← digits? (fun c => (digitValue? base c).isSome) cs
      let n := ds.foldl (fun n d => n * base + (digitValue? base d).getD 0) 0
      some (.int n, rest)
  | _ => none

/-- A sign, if there is one. -/
def sign : List Char → List Char × List Char
  | '+' :: cs => (['+'], cs)
  | '-' :: cs => (['-'], cs)
  | cs => ([], cs)

/-- The part of a number before its point, which does not begin with a zero unless it
    is zero. -/
def whole? : List Char → Option (List Char × List Char)
  | '0' :: cs => some (['0'], cs)
  | cs => digits? Char.isDigit cs

/-- The part of a number after its point, with the point; empty if there is none. -/
def fraction (cs : List Char) : List Char × List Char :=
  match cs with
  | '.' :: rest =>
      match digits? Char.isDigit rest with
      | some (ds, rest) => ('.' :: ds, rest)
      | none => ([], cs)
  | _ => ([], cs)

/-- The power of ten that a number is multiplied by; empty if there is none. -/
def exponent (cs : List Char) : List Char × List Char :=
  match cs with
  | e :: rest =>
      if e == 'e' || e == 'E' then
        let (s, rest) := sign rest
        match digits? Char.isDigit rest with
        | some (ds, rest) => (e :: s ++ ds, rest)
        | none => ([], cs)
      else ([], cs)
  | [] => ([], cs)

/-- The words for numbers without digits. -/
def numberWords : List (List Char) := ["inf".toList, "nan".toList]

/-- A number in base ten. -/
def tenBasedNumber? (cs : List Char) : Option (Value × List Char) := do
  let (s, cs) := sign cs
  match numberWords.findSome? fun word => (Text.after? word cs).map (word, ·) with
  | some (word, rest) => some (.decimal (String.ofList (s ++ word)), rest)
  | none =>
      let (ds, rest) ← whole? cs
      let (fs, rest) := fraction rest
      let (es, rest) := exponent rest
      if fs.isEmpty && es.isEmpty then
        let n : Int := Json.natOfDigits ds
        some (.int (if s == ['-'] then -n else n), rest)
      else some (.decimal (String.ofList (s ++ ds ++ fs ++ es)), rest)

/-- A number. -/
def number? (cs : List Char) : Option (Value × List Char) :=
  (basedNumber? cs).orElse fun _ => tenBasedNumber? cs

end Toml

end EntryCoverage
