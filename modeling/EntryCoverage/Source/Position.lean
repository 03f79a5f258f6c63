/-!
# Positions

Where something stands in a text: its line, counted from one, and its column in
that line, counted from zero in characters.

## Main definitions

* `Position`: A line and a column.
* `Position.advance`: The position after a stretch of text.
-/

namespace EntryCoverage

namespace Source

/-- A line, counted from one, and a column, counted from zero. -/
structure Position where
  line : Nat := 1
  column : Nat := 0
deriving DecidableEq, Repr, Inhabited

namespace Position

/-- The position after a stretch of text. A carriage return and the line feed after
    it end one line. -/
def advance (p : Position) : List Char → Position
  | [] => p
  | '\r' :: '\n' :: cs => advance ⟨p.line + 1, 0⟩ cs
  | c :: cs =>
      if c == '\n' || c == '\r' then advance ⟨p.line + 1, 0⟩ cs
      else advance ⟨p.line, p.column + 1⟩ cs

end Position

end Source

end EntryCoverage
