import EntryCoverage.Text.Pieces

/-!
# Lines of a Text

Three ways to look at the lines of a text. A file that is read has one kind of
line end, whatever it was written with. A text in that form is split at its line
feeds. And a text that is shown on one line ends at the first of the many
characters that may end a line.

## Main definitions

* `withLineFeeds`: A text with line feeds for all its line ends.
* `splitLines`: The pieces between line feeds.
* `firstLine`: What comes before the first line boundary.
-/

namespace EntryCoverage

namespace Text

/-- A text with line feeds for all its line ends. -/
def withLineFeeds : List Char → List Char
  | '\r' :: '\n' :: cs => '\n' :: withLineFeeds cs
  | '\r' :: cs => '\n' :: withLineFeeds cs
  | c :: cs => c :: withLineFeeds cs
  | [] => []

/-- The pieces of a text between its line feeds, of which there is always one more
    than line feeds. -/
def splitLines (cs : List Char) : List (List Char) := splitOn '\n' cs

/-- Whether a line may end at a character. -/
def isLineBoundary (c : Char) : Bool :=
  ('\n' ≤ c && c ≤ '\r') || ('\x1c' ≤ c && c ≤ '\x1e') || c == '\u0085' ||
    c == '\u2028' || c == '\u2029'

/-- What comes before the first line boundary. -/
def firstLine (cs : List Char) : List Char :=
  cs.takeWhile (!isLineBoundary ·)

end Text

end EntryCoverage
