import EntryCoverage.Text.Ranges

/-!
# Blanks

Which characters count as blank in a text, and texts without the blanks at their
ends. The class is wider than the blanks between the words of a source file: it
has the Unicode spaces and the control characters that separate lines and
records.

## Main definitions

* `isBlank`: A character is blank.
* `strip`: A text without blanks at its ends.
-/

namespace EntryCoverage

namespace Text

/-- The blank characters, as ranges of code points. -/
def blanks : List (Nat × Nat) :=
  [(0x9, 0xd), (0x1c, 0x20), (0x85, 0x85), (0xa0, 0xa0), (0x1680, 0x1680), (0x2000, 0x200a),
   (0x2028, 0x2029), (0x202f, 0x202f), (0x205f, 0x205f), (0x3000, 0x3000)]

def isBlank (c : Char) : Bool := inRanges blanks c.toNat

/-- A text without the blanks at its end. -/
def stripRight (cs : List Char) : List Char :=
  (cs.reverse.dropWhile isBlank).reverse

/-- A text without the blanks at its ends. -/
def strip (cs : List Char) : List Char :=
  stripRight (cs.dropWhile isBlank)

end Text

end EntryCoverage
