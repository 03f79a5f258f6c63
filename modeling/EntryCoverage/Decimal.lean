import EntryCoverage.Json.Parser

/-!
# Decimals

Numbers with a fraction or an exponent, and the one thing that is asked of them:
whether, rounded to the 53 bits that programs commonly keep of a number, they are
zero, one, or some other whole number of 64 bits.

## Main definitions

* `Decimal.parse?`: The number that a text stands for.
* `Decimal.rounded?`: The whole number that it rounds to, if that is whole.
-/

namespace EntryCoverage

/-- A sign, digits, and the power of ten that they are multiplied by. -/
structure Decimal where
  negative : Bool
  digits : Nat
  power : Int
deriving DecidableEq, Repr

namespace Decimal

def signed (cs : List Char) : Bool × List Char :=
  match cs with
  | '-' :: rest => (true, rest)
  | '+' :: rest => (false, rest)
  | rest => (false, rest)

/-- The number that a text stands for. Words for numbers that are no numbers, or
    without bound, stand for none. -/
def parse? (text : String) : Option Decimal :=
  let (negative, cs) := signed text.toList
  let (whole, cs) := cs.span Char.isDigit
  let (fraction, cs) := match cs with
    | '.' :: rest => rest.span Char.isDigit
    | rest => ([], rest)
  let power : Int := match cs with
    | _ :: rest =>
        let (down, ds) := signed rest
        let n : Int := Json.natOfDigits ds
        if down then -n else n
    | [] => 0
  if whole.isEmpty then none
  else some ⟨negative, Json.natOfDigits (whole ++ fraction), power - fraction.length⟩

/-- A quotient rounded to the nearest number, and to an even one in the middle. -/
def roundHalfEven (n d : Nat) : Nat :=
  let q := n / d
  let r := n % d
  if 2 * r < d then q else if d < 2 * r then q + 1 else q + q % 2

/-- The magnitude rounded to 53 bits, as a number and a power of two. No bit is
    kept below the power -1074. -/
def round53 (n d : Nat) : Nat × Int :=
  let guess : Int := (n.log2 : Int) - d.log2 - 52
  let below (e : Int) : Bool := n <<< (-e).toNat < d <<< (52 + e.toNat)
  let e := max (if below guess then guess - 1 else guess) (-1074)
  (roundHalfEven (n <<< (-e).toNat) (d <<< e.toNat), e)

/-- The whole number of 64 bits that a decimal rounds to, if it rounds to one. -/
def rounded? (x : Decimal) : Option Int :=
  let size : Int := (Nat.toDigits 10 x.digits).length + x.power
  if x.digits = 0 ∨ size < -330 then some 0
  else if 330 < size then none
  else
    let (q, e) := round53 (x.digits * Nat.pow 10 x.power.toNat) (Nat.pow 10 (-x.power).toNat)
    let unit := 1 <<< (-e).toNat
    let magnitude := q <<< e.toNat / unit
    if q % unit ≠ 0 ∨ 1 <<< 63 ≤ magnitude then none
    else some (if x.negative then -magnitude else magnitude)

end Decimal

end EntryCoverage
