import EntryCoverage.Text.Pieces
import EntryCoverage.Text.Word
import EntryCoverage.Source.Token

/-!
# Lexemes

Reading one word, one blank or one line end off the front of a text. Each
function here takes the characters that are left and gives what it read together
with the characters after it, or nothing if the text cannot be read there.

## Main definitions

* `newline?`: A line end.
* `blanks`: Blanks, with the line ends that a backslash joins.
* `number`: A number.
* `quoted`: The rest of a string, after its opening quote.
* `literalText`: A stretch of text in a literal with fields.
* `operators`: The operators, longest first.
-/

namespace EntryCoverage

namespace Source

namespace Lexeme

/-- A line end: a line feed, a carriage return, or both. -/
def newline? : List Char → Option (List Char × List Char)
  | '\r' :: '\n' :: rest => some (['\r', '\n'], rest)
  | '\r' :: rest => some (['\r'], rest)
  | '\n' :: rest => some (['\n'], rest)
  | _ => none

def isNewline (c : Char) : Bool := c == '\n' || c == '\r'

def isSpace (c : Char) : Bool := c == ' ' || c == '\t' || c == '\x0c'

/-- What a run of blanks is: its text, and whether a backslash joins lines in it. -/
structure Blanks where
  text : List Char
  joined : Bool

/-- Reads blanks. A backslash joins two lines, so it must end its line and must
    not be the end of the text. -/
def blanks : List Char → Option (Blanks × List Char)
  | '\\' :: '\r' :: '\n' :: rest => join ['\\', '\r', '\n'] rest (blanks rest)
  | '\\' :: '\r' :: rest => join ['\\', '\r'] rest (blanks rest)
  | '\\' :: '\n' :: rest => join ['\\', '\n'] rest (blanks rest)
  | '\\' :: _ => none
  | c :: rest =>
      if isSpace c then (blanks rest).map fun (b, r) => (⟨c :: b.text, b.joined⟩, r)
      else some (⟨[], false⟩, c :: rest)
  | [] => some (⟨[], false⟩, [])
where
  join (text rest : List Char) (more : Option (Blanks × List Char)) :
      Option (Blanks × List Char) :=
    if rest.isEmpty then none else more.map fun (b, r) => (⟨text ++ b.text, true⟩, r)

/-- A comment's text, up to the line end. -/
def comment (cs : List Char) : List Char × List Char :=
  cs.span (!isNewline ·)

/-! ### Numbers -/

/-- Digits in which single underscores may stand between two of them. -/
def digits (isDigit : Char → Bool) : List Char → List Char × List Char
  | '_' :: c :: rest =>
      if isDigit c then
        let (ds, r) := digits isDigit rest
        ('_' :: c :: ds, r)
      else ([], '_' :: c :: rest)
  | c :: rest =>
      if isDigit c then
        let (ds, r) := digits isDigit rest
        (c :: ds, r)
      else ([], c :: rest)
  | [] => ([], [])

def isHexDigit (c : Char) : Bool :=
  c.isDigit || ('a' ≤ c && c ≤ 'f') || ('A' ≤ c && c ≤ 'F')

/-- The mark of an imaginary number, if there is one. -/
def imaginary : List Char → List Char × List Char
  | 'j' :: rest => (['j'], rest)
  | 'J' :: rest => (['J'], rest)
  | cs => ([], cs)

/-- An exponent with the mark of an imaginary number. An `e` that no digit follows
    is not part of the number. -/
def exponent (cs : List Char) : List Char × List Char :=
  match cs with
  | e :: sign :: d :: rest =>
      if e == 'e' || e == 'E' then
        if (sign == '+' || sign == '-') && d.isDigit then
          let (ds, r) := digits Char.isDigit (d :: rest)
          let (j, r) := imaginary r
          (e :: sign :: ds ++ j, r)
        else plain e (sign :: d :: rest)
      else imaginary cs
  | [e, d] => if e == 'e' || e == 'E' then plain e [d] else imaginary cs
  | _ => imaginary cs
where
  plain (e : Char) (rest : List Char) : List Char × List Char :=
    if rest.head?.any Char.isDigit then
      let (ds, r) := digits Char.isDigit rest
      let (j, r) := imaginary r
      (e :: ds ++ j, r)
    else ([], e :: rest)

/-- What may follow the digits before a point: a point with more digits, an
    exponent, the mark of an imaginary number. -/
def fraction : List Char → List Char × List Char
  | '.' :: c :: rest =>
      if c.isDigit then
        let (ds, r) := digits Char.isDigit (c :: rest)
        let (e, r) := exponent r
        ('.' :: ds ++ e, r)
      else
        let (e, r) := exponent (c :: rest)
        ('.' :: e, r)
  | ['.'] => (['.'], [])
  | cs => exponent cs

/-- Digits of a base, after the letter that announces it. There must be one, and
    no digit outside the base may follow. -/
def based (isDigit : Char → Bool) (mark : List Char) (cs : List Char) :
    Option (List Char × List Char) :=
  let (ds, r) := digits isDigit cs
  if ds.isEmpty || r.head?.any Char.isDigit then none else some (mark ++ ds, r)

/-- A number that begins with a digit. Zeros may stand before other digits only if
    a fraction, an exponent or the mark of an imaginary number follows. -/
def number : List Char → Option (List Char × List Char)
  | '0' :: c :: rest =>
      if c == 'x' || c == 'X' then based isHexDigit ['0', c] rest
      else if c == 'o' || c == 'O' then based (fun d => '0' ≤ d && d ≤ '7') ['0', c] rest
      else if c == 'b' || c == 'B' then based (fun d => d == '0' || d == '1') ['0', c] rest
      else
        let (zeros, r) := digits (· == '0') (c :: rest)
        let (ds, r) := if r.head?.any Char.isDigit then digits Char.isDigit r else ([], r)
        let (tail, r) := fraction r
        if !ds.isEmpty && tail.isEmpty then none else some ('0' :: zeros ++ ds ++ tail, r)
  | cs =>
      let (ds, r) := digits Char.isDigit cs
      let (tail, r) := fraction r
      some (ds ++ tail, r)

/-! ### Literals -/

def isQuote (c : Char) : Bool := c == '"' || c == '\x27'

/-- The quotes around a literal. -/
structure Quotes where
  mark : Char
  triple : Bool
deriving DecidableEq

/-- Whether a text begins with the closing quotes, and the text after them. -/
def Quotes.close? (q : Quotes) (cs : List Char) : Option (List Char × List Char) :=
  match q.triple, cs with
  | false, c :: rest => if c == q.mark then some ([c], rest) else none
  | true, a :: b :: c :: rest =>
      if a == q.mark && b == q.mark && c == q.mark then some ([a, b, c], rest) else none
  | _, _ => none

/-- The quotes that a text opens with, and the text after them. -/
def openingQuotes? : List Char → Option (Quotes × List Char × List Char)
  | a :: b :: c :: rest =>
      if !isQuote a then none
      else if b == a && c == a then some (⟨a, true⟩, [a, b, c], rest)
      else some (⟨a, false⟩, [a], b :: c :: rest)
  | a :: rest => if isQuote a then some (⟨a, false⟩, [a], rest) else none
  | [] => none

/-- Whether a literal with these quotes may hold a character as it is. -/
def Quotes.admits (q : Quotes) (c : Char) : Bool :=
  c != '\x00' && (q.triple || !isNewline c)

/-- The rest of a string after its opening quotes, the closing ones included. A
    backslash keeps the character after it from closing the string. -/
def quoted (q : Quotes) : List Char → Option (List Char × List Char)
  | [] => none
  | '\\' :: '\r' :: '\n' :: rest => (quoted q rest).map fun (t, r) => ('\\' :: '\r' :: '\n' :: t, r)
  | '\\' :: c :: rest =>
      if c == '\x00' then none else (quoted q rest).map fun (t, r) => ('\\' :: c :: t, r)
  | c :: rest =>
      match q.close? (c :: rest) with
      | some closed => some closed
      | none => if q.admits c then (quoted q rest).map fun (t, r) => (c :: t, r) else none

/-- A literal with fields, as far as reading its text goes. -/
structure Literal where
  quotes : Quotes
  raw : Bool

/-- Where reading the text of a literal stands. -/
inductive TextState
  | plain
  /-- The next character is part of the text, whatever it is. -/
  | taken
  /-- After a backslash. -/
  | escaped
  /-- Before and within the braces around a character's name. -/
  | beforeName | inName
deriving DecidableEq

/-- A stretch of text in a literal, up to a field, the end of a format
    specification or the closing quotes. A brace written twice stands for itself,
    outside a specification, and so is part of the text, as are the braces around
    a character's name. -/
def literalText (l : Literal) (inSpec : Bool) :
    TextState → List Char → Option (List Char × List Char)
  | _, [] => none
  | state, c :: rest =>
      let more (next : TextState) :=
        (literalText l inSpec next rest).map fun (t, r) => (c :: t, r)
      match state with
      | .taken => more .plain
      | .beforeName => more .inName
      | .escaped =>
          if c == '\x00' then none
          else if c == '\r' && rest.head? == some '\n' then more .taken
          else if c == 'N' && rest.head? == some '{' then more .beforeName
          else more .plain
      | _ =>
          if (l.quotes.close? (c :: rest)).isSome then some ([], c :: rest)
          else if !l.quotes.admits c then none
          else if state == .inName then more (if c == '}' then .plain else .inName)
          else if c == '\\' then
            let next := rest.head?
            if l.raw then
              more (if next.any fun d => isQuote d || d == '\\' then .taken else .plain)
            else more (if next.any fun d => d == '{' || d == '}' then .plain else .escaped)
          else if c == '{' || c == '}' then
            if rest.head? == some c && !inSpec then more .taken else some ([], c :: rest)
          else more .plain

/-- The letters that may stand before a string's quotes, for strings without and
    with fields. -/
def stringLetters : List (List Char) := [['u'], ['b'], ['r'], ['b', 'r'], ['r', 'b']]

def literalLetters : List (List Char) :=
  [['f'], ['t'], ['f', 'r'], ['r', 'f'], ['t', 'r'], ['r', 't']]

/-! ### Operators -/

/-- The operators, longest first. -/
def operators : List (List Char) :=
  [['*', '*', '='], ['/', '/', '='], ['<', '<', '='], ['>', '>', '='], ['.', '.', '.'],
   ['*', '*'], ['/', '/'], ['<', '<'], ['>', '>'], ['<', '='], ['>', '='], ['=', '='],
   ['!', '='], ['<', '>'], ['-', '>'], ['+', '='], ['-', '='], ['*', '='], ['/', '='],
   ['%', '='], ['&', '='], ['|', '='], ['^', '='], ['@', '='], [':', '='],
   ['+'], ['-'], ['*'], ['/'], ['%'], ['@'], ['&'], ['|'], ['^'], ['~'], ['<'], ['>'],
   ['('], [')'], ['['], [']'], ['{'], ['}'], [','], [':'], ['.'], [';'], ['='], ['!']]

/-- The longest operator that a text begins with. -/
def operator? (cs : List Char) : Option (List Char × List Char) :=
  operators.findSome? fun op => (Text.after? op cs).map (op, ·)

end Lexeme

end Source

end EntryCoverage
