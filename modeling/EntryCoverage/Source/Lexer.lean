import EntryCoverage.Source.Lexeme

/-!
# Reading Tokens

From the characters of a file to its tokens.

Reading goes back and forth between two situations. At the start of a logical
line, lines without words are set aside and the indentation of the first line
with words is compared with that of the open blocks. Within a line, words are
read until the line ends, which it does not do inside brackets. What is open
around the current place is a stack: brackets, literals with fields, their
fields, and the format specifications in those.

Indentation is compared by column, with tabs reaching to multiples of eight, and
again with tabs as single columns. Both must give the same answer, so that it
does not depend on how wide a tab is.

## Main definitions

* `Level`: The indentation of an open block.
* `Opened`: What may be open around a place.
* `tokens?`: The tokens of a text, or none if it cannot be read as words.
-/

namespace EntryCoverage

namespace Source

namespace Lexer

open Lexeme

/-- The indentation of a block: its text and the columns it reaches, with tabs to
    multiples of eight and with tabs as one column. -/
structure Level where
  text : List Char
  column : Nat
  narrow : Nat

def Level.outermost : Level := ⟨[], 0, 0⟩

/-- The level that a line's blanks reach. A form feed starts the line again. -/
def Level.ofBlanks (text : List Char) : Level :=
  let (column, narrow) := text.foldl
    (fun (column, narrow) c =>
      if c == '\x0c' then (0, 0)
      else if c == '\t' then ((column / 8 + 1) * 8, narrow + 1)
      else (column + 1, narrow + 1))
    (0, 0)
  ⟨text, column, narrow⟩

/-- What may be open around a place. -/
inductive Opened
  | bracket (closing : Char)
  | literal (l : Literal)
  | field
  | spec

/-- What is open: brackets and literals, blocks with the innermost first, and
    whether the line began with a backslash, which keeps its end from counting. -/
structure State where
  opened : List Opened := []
  levels : List Level := []
  joined : Bool := false

def State.level (s : State) : Level := s.levels.headD .outermost

/-- A line without words. Its ending is absent at the end of the text. -/
structure BlankLine where
  text : List Char
  comment : List Char
  ending : Option (List Char)

/-- A line end, which needs no text where it is the file's usual one. -/
def lineEnding (usual : List Char) (text : List Char) : Leaf :=
  .newline (if text == usual then none else some (String.ofList text))

def blankLeaf (text : List Char) : List Leaf :=
  if text.isEmpty then [] else [.blank (String.ofList text)]

/-- A line without words as a tree. If it begins with the indentation of the
    block that it belongs to, that part is a margin. -/
def BlankLine.toTree (usual margin : List Char) (l : BlankLine) : Tree :=
  let head := match Text.after? margin l.text with
    | some rest => .margin :: blankLeaf rest
    | none => blankLeaf l.text
  let note := if l.comment.isEmpty then [] else [.comment (String.ofList l.comment)]
  let close := match l.ending with
    | some text => lineEnding usual text
    | none => .newline none
  .node .line ((head ++ note ++ [close]).map .leaf)

/-- Splits the lines after a block into its footer and the rest. The footer ends
    with the last line that is indented like the block. -/
def splitFooter (margin : List Char) : List BlankLine → List BlankLine × List BlankLine
  | [] => ([], [])
  | l :: ls =>
      match splitFooter margin ls with
      | ([], rest) =>
          if (Text.after? margin l.text).isSome then ([l], rest) else ([], l :: rest)
      | (footer, rest) => (l :: footer, rest)

/-- The ends of blocks, each with its share of the lines before the next words,
    and the lines that no block takes. -/
def close (usual : List Char) : List Level → List BlankLine → List Token × List BlankLine
  | [], above => ([], above)
  | level :: levels, above =>
      let (footer, rest) := splitFooter level.text above
      let (tokens, rest) := close usual levels rest
      (.dedent (footer.map (·.toTree usual level.text)) :: tokens, rest)

/-- How many blocks may be open at once. -/
def maxLevels : Nat := 100

/-- The tokens at the start of a line with words, and the blocks open after it. -/
def startLine (usual : List Char) (s : State) (above : List BlankLine) (b : Blanks) :
    Option (List Token × State) :=
  let lineStart (level : Level) (above : List BlankLine) : Token :=
    .lineStart (above.map (·.toTree usual level.text))
  let here := s.level
  let next := Level.ofBlanks b.text
  if b.joined then some ([lineStart here above], { s with joined := true })
  else if next.column = here.column then
    if next.narrow = here.narrow then some ([lineStart here above], s) else none
  else if here.column < next.column then
    if here.narrow < next.narrow ∧ s.levels.length < maxLevels then
      let extra := (Text.after? here.text next.text).getD next.text
      some ([.indent (some (String.ofList extra)), lineStart next above],
        { s with levels := next :: s.levels })
    else none
  else
    let closed := s.levels.takeWhile (next.column < ·.column)
    let s := { s with levels := s.levels.drop closed.length }
    let (dedents, rest) := close usual closed above
    if next.column = s.level.column ∧ next.narrow = s.level.narrow then
      some (dedents ++ [lineStart s.level rest], s)
    else none

/-- The tokens at the end of the text. -/
def finish (usual : List Char) (s : State) (above : List BlankLine) : List Token :=
  let (dedents, rest) := close usual s.levels above
  dedents ++ [.endOfText (rest.map (·.toTree usual []))]

/-- How a line begins. -/
inductive LineHead
  | blank (line : BlankLine)
  | words (b : Blanks)
  | endOfText

def lineHead (cs : List Char) : Option (LineHead × List Char) := do
  let (b, rest) ← blanks cs
  if rest.isEmpty && b.text.isEmpty then return (.endOfText, [])
  let (note, after) := if rest.head? == some '#' then comment rest else ([], rest)
  match newline? after with
  | some (nl, after) => return (.blank ⟨b.text, note, some nl⟩, after)
  | none =>
      if after.isEmpty then return (.blank ⟨b.text, note, none⟩, [])
      else return (.words b, rest)

/-- One step within a line. -/
inductive Step
  | trivia (leaves : List Leaf) (joined : Bool) (rest : List Char)
  | words (tokens : List Token) (opened : List Opened) (rest : List Char)
  | lineEnd (leaf : Leaf) (rest : List Char)

def word (before : List Leaf) (sort : WordSort) (text : List Char) : Token :=
  .word before sort (String.ofList text)

/-- A step in the text of a literal. -/
def textStep (l : Literal) (opened : List Opened) (cs : List Char) : Option Step := do
  let inSpec := match opened with
    | .spec :: _ => true
    | _ => false
  let (text, rest) ← literalText l inSpec .plain cs
  let stretch := if text.isEmpty then [] else [word [] .literalText text]
  match rest, opened with
  | '{' :: rest, _ => some (.words (stretch ++ [word [] .operator ['{']]) (.field :: opened) rest)
  | '}' :: rest, .spec :: .field :: outer =>
      some (.words (stretch ++ [word [] .operator ['}']]) outer rest)
  | _, .literal _ :: outer => do
      let (mark, rest) ← l.quotes.close? rest
      some (.words (stretch ++ [word [] .literalEnd mark]) outer rest)
  | _, _ => none

/-- The rest of a string or literal that opens with these letters. -/
def stringStep (before : List Leaf) (opened : List Opened) (letters cs : List Char) :
    Option Step := do
  let (quotes, mark, rest) ← openingQuotes? cs
  let lower := letters.map Char.toLower
  if literalLetters.contains lower then
    let l : Literal := ⟨quotes, lower.contains 'r'⟩
    some (.words [word before .literalStart (letters ++ mark)] (.literal l :: opened) rest)
  else if letters.isEmpty || stringLetters.contains lower then
    let (text, rest) ← quoted quotes rest
    some (.words [word before .string (letters ++ mark ++ text)] opened rest)
  else none

/-- A step at an operator. Opening brackets are remembered, closing ones must
    match, and a semicolon, which stands between statements, is in none. A colon in a
    field, outside other brackets, opens its format specification. -/
def operatorStep (before : List Leaf) (opened : List Opened) (cs : List Char) :
    Option Step := do
  let (op, rest) ← operator? cs
  let found (opened : List Opened) := some (Step.words [word before .operator op] opened rest)
  match op, opened with
  | ['('], _ => found (.bracket ')' :: opened)
  | ['['], _ => found (.bracket ']' :: opened)
  | ['{'], _ => found (.bracket '}' :: opened)
  | [')'], .bracket ')' :: outer | [']'], .bracket ']' :: outer
  | ['}'], .bracket '}' :: outer | ['}'], .field :: outer => found outer
  | [')'], _ | [']'], _ | ['}'], _ | [';'], _ :: _ => none
  | ':' :: _, .field :: _ =>
      some (.words [word before .operator [':']] (.spec :: opened) (cs.drop 1))
  | _, _ => found opened

def inName (c : Char) : Bool := c.isAlphanum || c == '_' || 128 ≤ c.toNat

/-- A step within a line, outside the text of literals. -/
def wordStep (usual : List Char) (s : State) (before : List Leaf) (cs : List Char) :
    Option Step := do
  let c :: _ := cs
    | if s.opened.isEmpty && !s.joined then some (.lineEnd (.newline none) []) else none
  if isSpace c || c == '\\' then
    let (b, rest) ← blanks cs
    some (.trivia (blankLeaf b.text) s.joined rest)
  else if c == '#' then
    let (text, rest) := comment cs
    some (.trivia [.comment (String.ofList text)] s.joined rest)
  else if let some (nl, rest) := newline? cs then
    if !s.opened.isEmpty then
      let joined := (rest.dropWhile isSpace).head? == some '\\'
      match Text.after? s.level.text rest with
      | some rest => some (.trivia [lineEnding usual nl, .margin] joined rest)
      | none => some (.trivia [lineEnding usual nl] joined rest)
    else if s.joined then none
    else some (.lineEnd (lineEnding usual nl) rest)
  else if c.isDigit || (c == '.' && (cs.drop 1).head?.any Char.isDigit) then
    let (text, rest) ← if c == '.' then some (fraction cs) else number cs
    some (.words [word before .number text] s.opened rest)
  else if isQuote c then stringStep before s.opened [] cs
  else if inName c then
    let (text, rest) := cs.span inName
    match stringStep before s.opened text rest with
    | some step => some step
    | none =>
        if rest.head?.any isQuote && (stringLetters ++ literalLetters).contains (text.map Char.toLower)
        then none
        else if Text.isName text then some (.words [word before .name text] s.opened rest)
        else none
  else operatorStep before s.opened cs

def step (usual : List Char) (s : State) (before : List Leaf) (cs : List Char) : Option Step :=
  match s.opened with
  | .literal l :: _ | .spec :: .field :: .literal l :: _ => textStep l s.opened cs
  | .spec :: outer =>
      match outer.findSome? fun | .literal l => some l | _ => none with
      | some l => textStep l s.opened cs
      | none => none
  | _ => wordStep usual s before cs

mutual

/-- Reads from the start of a logical line; `above` holds the lines without words
    before it, the last one first. -/
def lines (usual : List Char) : Nat → State → List BlankLine → List Char → Option (List Token)
  | 0, _, _, _ => none
  | n + 1, s, above, cs => do
      match ← lineHead cs with
      | (.blank line, rest) => lines usual n s (line :: above) rest
      | (.endOfText, _) => some (finish usual s above.reverse)
      | (.words b, rest) =>
          let (tokens, s) ← startLine usual s above.reverse b
          (words usual n s [] rest).map (tokens ++ ·)

/-- Reads within a line; `before` holds the blanks and comments since the last
    word. -/
def words (usual : List Char) : Nat → State → List Leaf → List Char → Option (List Token)
  | 0, _, _, _ => none
  | n + 1, s, before, cs => do
      match ← step usual s before cs with
      | .trivia leaves joined rest => words usual n { s with joined } (before ++ leaves) rest
      | .words tokens opened rest => (words usual n { s with opened } [] rest).map (tokens ++ ·)
      | .lineEnd leaf rest =>
          (lines usual n { s with joined := false } [] rest).map (.newline before leaf :: ·)

end

/-- The usual line ending of a text: that of its first line. -/
def usualNewline : List Char → List Char
  | [] => ['\n']
  | c :: cs =>
      match newline? (c :: cs) with
      | some (nl, _) => nl
      | none => usualNewline cs

/-- Each step reads a character or ends a line, so this many steps are enough. -/
def tokens? (cs : List Char) : Option (List Token) :=
  lines (usualNewline cs) (2 * cs.length + 4) {} [] cs

end Lexer

end Source

end EntryCoverage
