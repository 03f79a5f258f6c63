import EntryCoverage.Log
import EntryCoverage.Text.Blank
import EntryCoverage.Text.Pieces

/-!
# The Console

How log lines and tables are shown on a console without styles. Tags in square
brackets say how the text between them is to be shown, and here they only go away:
`[path]a.py[/path]` is `a.py`. A tag begins with a small letter, a number sign, an
at sign or a slash; a slash closes what was opened under the name after it, or what
was opened last. A backslash before a tag makes it text.

## Main definitions

* `Markup.plain?`: A text without its tags, if every closing tag closes something.
* `Console.logLines`: The lines that a log line is shown on.
* `Table`: A table to be shown.
* `Console.tableLines`: The lines that a table is shown on.
-/

namespace EntryCoverage

namespace Markup

/-- Whether a tag may begin with a character. -/
def beginsTag (c : Char) : Bool :=
  ('a' ≤ c && c ≤ 'z') || c == '#' || c == '/' || c == '@'

/-- A tag after its opening bracket, and the text after its closing one. -/
def tag? : List Char → Option (List Char × List Char)
  | [] => none
  | c :: cs =>
      if beginsTag c then
        match cs.span fun d => d != '[' && d != ']' with
        | (name, ']' :: rest) => some (c :: name, rest)
        | _ => none
      else none

/-- The name under which a tag opens or closes something: its text up to an equals
    sign, in small letters. -/
def tagName (tag : List Char) : List Char :=
  (Text.strip (tag.takeWhile (· != '='))).map Char.toLower

/-- The names still open after a closing tag with a name, the last one first. -/
def closed? (name : List Char) (opened : List (List Char)) : Option (List (List Char)) :=
  if name.isEmpty then
    match opened with
    | [] => none
    | _ :: rest => some rest
  else if opened.contains name then some (opened.erase name)
  else none

/-- The names still open after a tag. -/
def afterTag? (tag : List Char) (opened : List (List Char)) : Option (List (List Char)) :=
  match tag with
  | '/' :: name => closed? (tagName name) opened
  | _ => some (tagName tag :: opened)

/-- A text without its tags, with at most as many steps as given. -/
def plainWithin : Nat → List (List Char) → List Char → Option (List Char)
  | 0, _, _ => none
  | _ + 1, _, [] => some []
  | steps + 1, opened, c :: cs =>
      let (slashes, rest) := (c :: cs).span (· == '\\')
      match rest with
      | '[' :: inner =>
          match tag? inner with
          | some (tag, rest) => do
              let kept := List.replicate (slashes.length / 2) '\\'
              if slashes.length % 2 = 1 then
                let more ← plainWithin steps opened rest
                some (kept ++ '[' :: tag ++ ']' :: more)
              else
                let more ← plainWithin steps (← afterTag? tag opened) rest
                some (kept ++ more)
          | none =>
              if slashes.length = 1 then (plainWithin steps opened inner).map ('[' :: ·)
              else (plainWithin steps opened cs).map (c :: ·)
      | _ => (plainWithin steps opened cs).map (c :: ·)

/-- Whether a character moves the cursor or rings a bell and is not shown. -/
def isSilent (c : Char) : Bool :=
  c == '\x07' || c == '\x08' || ('\x0b' ≤ c && c ≤ '\x0d')

/-- A text without its tags, if every closing tag closes something. -/
def plain? (s : String) : Option String :=
  let cs := s.toList
  (plainWithin (cs.length + 1) [] cs).map fun cs => String.ofList (cs.filter (!isSilent ·))

end Markup

/-- A table to be shown. -/
structure Table where
  title : String
  columns : List String
  rows : List (List String)
deriving DecidableEq, Repr

namespace Console

/-- The lines of a text. -/
def linesOf (s : String) : List String := (Text.splitOn '\n' s.toList).map String.ofList

/-- A text with blanks after it up to a width. -/
def padded (width : Nat) (s : String) : String :=
  s ++ String.ofList (List.replicate (width - s.length) ' ')

/-- How wide the column with the levels is. -/
def levelWidth : Nat := 8

/-- The lines of a message, the first one after its level. -/
def withLevel (level : LogLevel) : List String → List String
  | [] => []
  | first :: more =>
      (padded levelWidth level.name ++ " " ++ first) :: more.map (padded (levelWidth + 1) "" ++ ·)

/-- The lines that a text is shown on, if its tags are in order. -/
def textLines (s : String) : Option (List String) := (Markup.plain? s).map linesOf

/-- The lines that a log line is shown on, if its tags are in order. -/
def logLines (l : LogLine) : Option (List String) :=
  (textLines l.text).map (withLevel l.level)

/-- The width of the widest text. -/
def widest (texts : List String) : Nat := (texts.map String.length).foldl max 0

/-- The cells of a row side by side. -/
def rowLine (widths : List Nat) (cells : List String) : String :=
  Text.joined "  " (List.zipWith padded widths cells)

/-- The lines that a table is shown on. -/
def tableLines (t : Table) : List String :=
  let rows := t.columns :: t.rows
  let widths := (List.range t.columns.length).map fun i => widest (rows.map fun r => r.getD i "")
  t.title :: rows.map (rowLine widths)

end Console

end EntryCoverage
