import EntryCoverage.Text.CharNameTable
import EntryCoverage.Text.Pieces

/-!
# Characters by Name

The character that a name stands for. The case of letters does not matter, but for
ideographs, which have no names of their own and are known by their numbers.

## Main definitions

* `charNamed?`: The character with a name.
-/

namespace EntryCoverage

namespace Text

/-- The names on lines, with commas between them. -/
def namesOn (lines : List String) : List (List Char) :=
  lines.flatMap fun line => splitOn ',' line.toList

/-- The number of a character with a name of its own. -/
def runNumber? (name : List Char) : Option Nat :=
  nameRuns.findSome? fun (first, lines) => ((namesOn lines).idxOf? name).map (first + ·)

/-- The number of a character that has a name besides its own. -/
def otherNumber? (name : List Char) : Option Nat :=
  (otherNames.find? fun e => (namesOn [e.2]).contains name).map (·.1)

/-- The value of a hexadecimal digit with a capital letter. -/
def capitalHexValue? (c : Char) : Option Nat :=
  if '0' ≤ c && c ≤ '9' then some (c.toNat - '0'.toNat)
  else if 'A' ≤ c && c ≤ 'F' then some (c.toNat - 'A'.toNat + 10)
  else none

/-- The numbers of ideographs, as ranges. -/
def ideographs : List (Nat × Nat) :=
  [(0x3400, 0x4dbf), (0x4e00, 0x9fff), (0x20000, 0x2a6df), (0x2a700, 0x2b738),
   (0x2b740, 0x2b81d), (0x2b820, 0x2cea1), (0x2ceb0, 0x2ebe0), (0x30000, 0x3134a)]

/-- The number of an ideograph, which its name ends in. -/
def ideographNumber? (name : List Char) : Option Nat := do
  let digits ← after? "CJK UNIFIED IDEOGRAPH-".toList name
  if digits.length = 4 ∨ digits.length = 5 then
    let n := (← digits.mapM capitalHexValue?).foldl (fun n d => n * 16 + d) 0
    if ideographs.any fun (first, last) => first ≤ n && n ≤ last then some n else none
  else none

/-- The character with a name. -/
def charNamed? (name : List Char) : Option Char :=
  let upper := name.map Char.toUpper
  let number := (runNumber? upper).or ((otherNumber? upper).or (ideographNumber? name))
  number.map Char.ofNat

end Text

end EntryCoverage
