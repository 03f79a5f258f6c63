import EntryCoverage.Source.Tree
import EntryCoverage.Text.Blank
import EntryCoverage.Text.Pieces

/-!
# Provenance

Which file a piece of source comes from. Code may have been brought into a file
from another one; a comment above a statement says so, such as
`# prodcov: origin=compat/shims.py`.

A mark speaks for everything in its statement, unless a nearer mark speaks for a
part of it. Marks are read above any statement or clause that has lines of its own
above it, and only there.

## Main definitions

* `originOf?`: The file that a comment names.
* `readOrigin?`: The file that the lines above a statement name.
* `markOrigin`: A statement with one more mark above it.
-/

namespace EntryCoverage

namespace Provenance

open Source

/-- What a mark begins with, as it is written. -/
def marker : String := "# prodcov: origin="

/-- The file that a comment names: what follows the mark, if it does not begin with
    a blank, without the blanks at its end. Blanks in the mark do not matter. -/
def originOf? (comment : String) : Option String := do
  let rest ← Text.after? ['#'] comment.toList
  let rest ← Text.after? "prodcov:".toList (rest.dropWhile Text.isBlank)
  let rest ← Text.after? "origin=".toList (rest.dropWhile Text.isBlank)
  match rest with
  | [] => none
  | c :: _ => if Text.isBlank c then none else some (String.ofList (Text.stripRight rest))

/-- The comment on a line without words. -/
def commentOf? : Tree → Option String
  | .node .line ts => ts.findSome? fun | .leaf (.comment text) => some text | _ => none
  | _ => none

/-- The lines above a statement, given its parts. -/
def linesAbove : List Tree → List Tree
  | .node .leading lines :: _ => lines
  | _ => []

/-- The file that the lines above a statement name, given its parts: that of the
    first mark. -/
def readOrigin? (children : List Tree) : Option String :=
  (linesAbove children).findSome? fun line => (commentOf? line).bind originOf?

/-- The line of a mark. -/
def markLine (origin : String) : Tree :=
  .node .line [.leaf .margin, .leaf (.comment (marker ++ origin)), .leaf (.newline none)]

/-- Whether a comment with this text stays on its line. -/
def fitsComment (origin : String) : Bool :=
  origin.toList.all fun c => c != '\n' && c != '\r'

/-- A statement with one more mark above it, before all others, if the mark fits on
    a line. -/
def markOrigin (statement : Tree) (origin : String) : Option Tree :=
  if !fitsComment origin then none
  else match statement with
    | .node kind (.node .leading lines :: rest) =>
        some (.node kind (.node .leading (markLine origin :: lines) :: rest))
    | t => some t

end Provenance

end EntryCoverage
