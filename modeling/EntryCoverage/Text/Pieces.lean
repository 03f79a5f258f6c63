/-!
# Pieces of a Text

Taking texts apart at a mark, and putting pieces together with something between
them.

## Main definitions

* `after?`: What follows a given beginning.
* `splitOn`: The pieces between the marks of a text.
* `joined`: Pieces with a text between each two.

## Theorems

* `after?_append`: What follows the beginning of a text that was put before it.
* `length_splitOn`: There is one piece more than there are marks.
-/

namespace EntryCoverage

namespace Text

/-- What follows a given beginning, in a text that has it. -/
def after? : List Char → List Char → Option (List Char)
  | [], rest => some rest
  | p :: ps, c :: cs => if p == c then after? ps cs else none
  | _ :: _, [] => none

/-- The pieces between the marks of a text. -/
def splitOn (mark : Char) : List Char → List (List Char)
  | [] => [[]]
  | c :: cs =>
      if c == mark then [] :: splitOn mark cs
      else match splitOn mark cs with
        | piece :: pieces => (c :: piece) :: pieces
        | [] => [[c]]

/-- Pieces with a text between each two. -/
def joined (between : String) : List String → String
  | [] => ""
  | [piece] => piece
  | piece :: pieces => piece ++ between ++ joined between pieces

theorem after?_append (beginning rest : List Char) :
    after? beginning (beginning ++ rest) = some rest := by
  induction beginning with
  | nil => rfl
  | cons c cs ih => simp [after?, ih]

theorem length_splitOn (mark : Char) (cs : List Char) :
    (splitOn mark cs).length = cs.count mark + 1 := by
  induction cs with
  | nil => rfl
  | cons c cs ih =>
      by_cases h : c = mark
      · simp [splitOn, h, ih]
      · cases hs : splitOn mark cs with
        | nil => simp [hs] at ih
        | cons piece pieces =>
            rw [hs] at ih
            simpa [splitOn, h, hs, List.count_cons] using ih

end Text

end EntryCoverage
