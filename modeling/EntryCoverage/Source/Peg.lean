import EntryCoverage.Source.Token

/-!
# Parsing Expressions

A grammar as data, and reading tokens by it.

A parsing expression reads a stretch of tokens from the front and gives the
trees it stands for, or fails. Choices are ordered and repetitions take all they
can, so a grammar never has two readings of one text. Rules refer to each other
by name, and the only recursion is through those references: what a grammar
means is given by the one function `run`, and a fact about all that a grammar
can read is proved by one induction over its fuel.

Nothing that is read is lost. Every word comes back as a leaf with its blanks
before it, and a node takes the blanks before its first word out and stands
after them, so that it begins with what it is about.

## Main definitions

* `Peg`: Parsing expressions over a type of rule names.
* `Joint`: How an expression goes on after its first part.
* `Peg.run`: Reading tokens by an expression.
-/

namespace EntryCoverage

namespace Source

/-- What becomes of a first part and what follows it. -/
inductive Joint
  /-- The first part stands alone, and what follows is not read. -/
  | apart
  /-- Both stand side by side. -/
  | beside
  /-- Both are children of a node. -/
  | under (kind : Kind)

inductive Peg (Rule : Type)
  | empty
  /-- A name or an operator with this text. -/
  | word (text : String)
  /-- A word of a sort; no reserved word counts as a name. -/
  | ofSort (sort : WordSort)
  | seq (first second : Peg Rule)
  | either (first second : Peg Rule)
  | many (p : Peg Rule)
  | optional (p : Peg Rule)
  | ahead (p : Peg Rule)
  | notAhead (p : Peg Rule)
  | node (kind : Kind) (p : Peg Rule)
  /-- A first part and what may follow it; whether they belong together is decided
      when both are known. -/
  | extend (joint : Tree → List Tree → Joint) (first rest : Peg Rule)
  /-- What `p` reads, if its last tree passes the test. -/
  | such (test : Tree → Bool) (p : Peg Rule)
  /-- An operator with the blanks on both sides of it. -/
  | separator (kind : Kind) (text : String)
  /-- The lines above the line that starts here. -/
  | linesAbove (kind : Kind)
  | lineStart
  | lineEnd
  /-- A block, on the lines after this one. -/
  | block (p : Peg Rule)
  | endOfText (kind : Kind)
  | rule (name : Rule)

namespace Peg

variable {Rule : Type}

/-- All of these, one after the other. -/
def all (ps : List (Peg Rule)) : Peg Rule := ps.foldr .seq .empty

/-- The first of these that reads something. -/
def any : List (Peg Rule) → Peg Rule
  | [] => .notAhead .empty
  | [p] => p
  | p :: ps => .either p (any ps)

def many1 (p : Peg Rule) : Peg Rule := .seq p (.many p)

instance : Coe String (Peg Rule) := ⟨.word⟩

instance : Inhabited (Peg Rule) := ⟨.empty⟩

/-- The trees for the blanks before a word. -/
def trivia (before : List Leaf) : List Tree := before.map .leaf

/-- Takes out the blanks before the next word. -/
def hoist : List Token → List Tree × List Token
  | .word before sort text :: ts => (trivia before, .word [] sort text :: ts)
  | ts => ([], ts)

/-- Takes out the blank before the next word or line end, if it is the first thing
    there. -/
def hoistBlank : List Token → List Tree × List Token
  | .word (.blank b :: before) sort text :: ts => ([.leaf (.blank b)], .word before sort text :: ts)
  | .newline (.blank b :: before) leaf :: ts => ([.leaf (.blank b)], .newline before leaf :: ts)
  | ts => ([], ts)

/-- Reads tokens by an expression. The fuel bounds how deep expressions call on
    each other, and reading fails where it runs out. -/
def run (grammar : Rule → Peg Rule) :
    Nat → Peg Rule → List Token → Option (List Tree × List Token)
  | 0, _, _ => none
  | n + 1, p, ts =>
      match p with
      | .empty => some ([], ts)
      | .word text =>
          match ts with
          | .word before sort found :: rest =>
              if (sort == .name || sort == .operator) && found == text then
                some (trivia before ++ [.word found], rest)
              else none
          | _ => none
      | .ofSort sort =>
          match ts with
          | .word before found text :: rest =>
              if found == sort && !(sort == .name && reserved.contains text) then
                some (trivia before ++ [.word text], rest)
              else none
          | _ => none
      | .seq p q => do
          let (a, ts) ← run grammar n p ts
          let (b, ts) ← run grammar n q ts
          some (a ++ b, ts)
      | .either p q =>
          match run grammar n p ts with
          | some result => some result
          | none => run grammar n q ts
      | .many p =>
          match run grammar n p ts with
          | none => some ([], ts)
          | some (a, ts) => do
              let (b, ts) ← run grammar n (.many p) ts
              some (a ++ b, ts)
      | .optional p =>
          match run grammar n p ts with
          | some result => some result
          | none => some ([], ts)
      | .ahead p => (run grammar n p ts).map fun _ => ([], ts)
      | .notAhead p =>
          match run grammar n p ts with
          | some _ => none
          | none => some ([], ts)
      | .node kind p => do
          let (before, ts) := hoist ts
          let (a, ts) ← run grammar n p ts
          some (before ++ [.node kind a], ts)
      | .extend joint first rest => do
          let (before, ts) := hoist ts
          let (a, ts) ← run grammar n first ts
          let (b, after) := (run grammar n rest ts).getD ([], ts)
          match joint (a.getLastD default) b with
          | .apart => some (before ++ a, ts)
          | .beside => some (before ++ a ++ b, after)
          | .under kind => some (before ++ [.node kind (a ++ b)], after)
      | .such test p => do
          let (a, ts) ← run grammar n p ts
          if test (a.getLastD default) then some (a, ts) else none
      | .separator kind text =>
          match ts with
          | .word before .operator found :: rest =>
              if found == text then
                let (blank, rest) := hoistBlank rest
                some ([.node kind (trivia before ++ .word found :: blank)], rest)
              else none
          | _ => none
      | .linesAbove kind =>
          match ts with
          | .lineStart above :: rest => some ([.node kind above], .lineStart [] :: rest)
          | .endOfText above :: rest => some ([.node kind above], .endOfText [] :: rest)
          | _ => none
      | .lineStart =>
          match ts with
          | .lineStart [] :: rest => some ([.leaf .margin], rest)
          | _ => none
      | .lineEnd =>
          match ts with
          | .newline before leaf :: rest => some (trivia before ++ [.leaf leaf], rest)
          | _ => none
      | .block p =>
          match ts with
          | .newline before leaf :: .indent extra :: rest => do
              match ← run grammar n p rest with
              | (body, .dedent footer :: rest) =>
                  let head := trivia before ++ [.leaf leaf]
                  some ([.node (.block extra) (head ++ body ++ [.node .footer footer])], rest)
              | _ => none
          | _ => none
      | .endOfText kind =>
          match ts with
          | [.endOfText above] => some ([.node kind above], [])
          | _ => none
      | .rule name => run grammar n (grammar name) ts

/-- Without fuel, nothing is read. -/
theorem run_zero (grammar : Rule → Peg Rule) (p : Peg Rule) (ts : List Token) :
    run grammar 0 p ts = none := by
  simp only [run]

end Peg

end Source

end EntryCoverage
