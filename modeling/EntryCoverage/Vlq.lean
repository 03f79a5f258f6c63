import EntryCoverage.Text.Quoted
import EntryCoverage.Value

/-!
# Variable-Length Quantities

Integers written in few letters. The sign goes into the lowest bit, and the
number is cut into groups of five bits, the lowest group first. Each group is
one letter of an alphabet of 64; the sixth bit of a letter says that another one
follows. A written number ends itself, so several can be written in a row.

Only integers of 32 bits are written. Reading has no such limit.

## Main definitions

* `encode`: The letters of an integer.
* `encodeInto`: The letters of a value at the end of a text.
* `decodeAt`: The integer that starts at a place, and where it ends.
* `decodeAll`: The integers written in a row.
* `VlqError`: Why writing or reading fails.
-/

namespace EntryCoverage

/-- Why writing or reading a quantity fails. -/
inductive VlqError
  | notInteger (typeName : String)
  | outOfRange (value : Int)
  | truncated (text : String)
  | invalidLetter (letter : Char) (text : String)
  /-- Reading was to begin before the start of the text. -/
  | outside
deriving DecidableEq, Repr

namespace Vlq

/-- The letters, by the value of the group they stand for. -/
def alphabet : List Char :=
  "ABCDEFGHIJKLMNOPQRSTUVWXYZabcdefghijklmnopqrstuvwxyz0123456789+/".toList

def minValue : Int := -2147483648

def maxValue : Int := 2147483647

/-- The letter of a group. -/
def letter (group : Nat) : Char := alphabet.getD group 'A'

/-- The group of a letter. -/
def group? (c : Char) : Option Nat := alphabet.idxOf? c

/-- An integer with its sign in the lowest bit. -/
def ofSigned (v : Int) : Nat := if v < 0 then 2 * v.natAbs + 1 else 2 * v.natAbs

/-- The integer whose sign is in the lowest bit. -/
def toSigned (n : Nat) : Int := if n % 2 = 1 then -(n / 2 : Nat) else (n / 2 : Nat)

/-- The groups of a number, with at most as many steps as given. -/
def groupsWithin : Nat → Nat → List Nat
  | 0, _ => []
  | steps + 1, n => if n < 32 then [n] else (n % 32 + 32) :: groupsWithin steps (n / 32)

/-- The groups of a number, the lowest first. -/
def groups (n : Nat) : List Nat := groupsWithin (n + 1) n

/-- The letters of an integer of 32 bits. -/
def letters (v : Int) : List Char := (groups (ofSigned v)).map letter

/-- The letters of an integer. -/
def encode (v : Int) : Except VlqError String :=
  if v < minValue ∨ maxValue < v then .error (.outOfRange v)
  else .ok (String.ofList (letters v))

/-- The letters of a value, which must be an integer. -/
def encodeValue : Value → Except VlqError String
  | .int v => encode v
  | v => .error (.notInteger v.typeName)

/-- Puts the letters of a value at the end of a text, one after the other. The text stays
    as it is if the value is no integer of 32 bits. -/
def encodeInto (out : String) : Value → String × Except VlqError Unit
  | .int v =>
      if v < minValue ∨ maxValue < v then (out, .error (.outOfRange v))
      else ((letters v).foldl String.push out, .ok ())
  | v => (out, .error (.notInteger v.typeName))

/-- Reads one number off a row of letters: the number and how many letters it has.
    The text is for the message if that fails. -/
def decodeNat (text : String) : List Char → Except VlqError (Nat × Nat)
  | [] => .error (.truncated text)
  | c :: cs =>
      match group? c with
      | none => .error (.invalidLetter c text)
      | some g =>
          if g < 32 then .ok (g, 1)
          else
            match decodeNat text cs with
            | .error e => .error e
            | .ok (n, count) => .ok (g % 32 + 32 * n, count + 1)

/-- The characters from a place on. A place before the start counts from the end,
    and reading then goes on from the start. -/
def readFrom? (cs : List Char) (pos : Int) : Option (List Char) :=
  if 0 ≤ pos then some (cs.drop pos.toNat)
  else if pos.natAbs ≤ cs.length then some (cs.drop (cs.length - pos.natAbs) ++ cs)
  else none

/-- The integer that starts at a place, and the place after it. -/
def decodeAt (text : String) (pos : Int) : Except VlqError (Int × Int) :=
  match readFrom? text.toList pos with
  | none => .error .outside
  | some cs => (decodeNat text cs).map fun (n, count) => (toSigned n, pos + count)

/-- The integers in a row of letters, with at most as many steps as given. -/
def decodeWithin (text : String) : Nat → List Char → Except VlqError (List Int)
  | _, [] => .ok []
  | 0, _ :: _ => .ok []
  | steps + 1, c :: cs =>
      match decodeNat text (c :: cs) with
      | .error e => .error e
      | .ok (n, count) =>
          (decodeWithin text steps ((c :: cs).drop count)).map (toSigned n :: ·)

/-- The integers written in a row. -/
def decodeAll (text : String) : Except VlqError (List Int) :=
  decodeWithin text text.toList.length text.toList

end Vlq

namespace VlqError

def message : VlqError → String
  | .notInteger typeName => s!"VLQ values must be integers, got {typeName}"
  | .outOfRange value => s!"VLQ value {value} is outside the signed 32-bit range"
  | .truncated text => "Truncated VLQ sequence in " ++ Text.quote text
  | .invalidLetter letter text =>
      "Invalid base64 character " ++ Text.quote letter.toString ++ " in " ++ Text.quote text
  | .outside => "string index out of range"

end VlqError

end EntryCoverage
