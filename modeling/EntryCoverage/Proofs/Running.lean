import EntryCoverage.Proofs.Glance

/-!
# Following a Reading

What an expression comes to, with enough fuel.

A fact about one reading that the grammar does make follows the expressions it goes
through, and the fuel is of no interest as long as there is enough. `Runs` says what an
expression comes to with any fuel from some amount on. There is a lemma for each way in
which an expression can go on; the alternatives that are not taken are left to `glance`.

## Main definitions

* `Peg.Runs`: What an expression comes to with enough fuel.
-/

namespace EntryCoverage

namespace Source

namespace Peg

variable {Rule : Type}

/-- What an expression comes to with at least so much fuel. -/
def Runs (grammar : Rule → Peg Rule) (d : Nat) (p : Peg Rule) (ts : List Token)
    (result : Option (List Tree × List Token)) : Prop :=
  ∀ n, d ≤ n → run grammar n p ts = result

namespace Runs

variable {grammar : Rule → Peg Rule} {d d' : Nat} {p q : Peg Rule} {ts ts' rest : List Token}
  {a b : List Tree} {result : Option (List Tree × List Token)}

theorem mono (h : Runs grammar d p ts result) (hle : d ≤ d') : Runs grammar d' p ts result :=
  fun n hn => h n (Nat.le_trans hle hn)

/-- What fails by its verdict does so with any fuel. -/
theorem of_fails (k : Nat) (signs : List Sign) (h : glance grammar k p signs = .fails)
    (hheads : Heads signs ts) (d : Nat) : Runs grammar d p ts none :=
  fun n _ => run_of_fails k signs h hheads n

/-- To show what an expression comes to, its first step may be taken. -/
theorem of_step (h : ∀ n, d ≤ n → run grammar (n + 1) p ts = result) :
    Runs grammar (d + 1) p ts result := by
  intro n hn
  cases n with
  | zero => omega
  | succ n => exact h n (by omega)

theorem empty : Runs grammar (d + 1) .empty ts (some ([], ts)) :=
  of_step fun n _ => by simp only [run]

theorem word {sort : WordSort} (before : List Leaf) (text : String)
    (hsort : (sort == .name || sort == .operator) = true) :
    Runs grammar (d + 1) (.word text) (.word before sort text :: rest)
      (some (trivia before ++ [.word text], rest)) :=
  of_step fun n _ => by simp only [run, hsort, beq_self_eq_true, Bool.and_self, if_true]

theorem ofSort (before : List Leaf) (sort : WordSort) (text : String)
    (h : (sort == .name && reserved.contains text) = false) :
    Runs grammar (d + 1) (.ofSort sort) (.word before sort text :: rest)
      (some (trivia before ++ [.word text], rest)) :=
  of_step fun n _ => by
    simp only [run, h, beq_self_eq_true, Bool.not_false, Bool.and_self, if_true]

theorem seq (hp : Runs grammar d p ts (some (a, ts')))
    (hq : Runs grammar d q ts' (some (b, rest))) :
    Runs grammar (d + 1) (.seq p q) ts (some (a ++ b, rest)) :=
  of_step fun n hn => by
    simp only [run, hp n hn, hq n hn, Option.bind_eq_bind, Option.bind_some]

theorem either_first (hp : Runs grammar d p ts (some (a, rest))) :
    Runs grammar (d + 1) (.either p q) ts (some (a, rest)) :=
  of_step fun n hn => by simp only [run, hp n hn]

theorem either_second (hp : Runs grammar d p ts none) (hq : Runs grammar d q ts result) :
    Runs grammar (d + 1) (.either p q) ts result :=
  of_step fun n hn => by simp only [run, hp n hn, hq n hn]

theorem absent (hp : Runs grammar d p ts none) :
    Runs grammar (d + 1) (.optional p) ts (some ([], ts)) :=
  of_step fun n hn => by simp only [run, hp n hn]

theorem present (hp : Runs grammar d p ts (some (a, rest))) :
    Runs grammar (d + 1) (.optional p) ts (some (a, rest)) :=
  of_step fun n hn => by simp only [run, hp n hn]

theorem node (kind : Kind) (hp : Runs grammar d p (hoist ts).2 (some (a, rest))) :
    Runs grammar (d + 1) (.node kind p) ts (some ((hoist ts).1 ++ [.node kind a], rest)) :=
  of_step fun n hn => by simp only [run, hp n hn, Option.bind_eq_bind, Option.bind_some]

theorem such {test : Tree → Bool} (hp : Runs grammar d p ts (some (a, rest)))
    (htest : test (a.getLastD default) = true) :
    Runs grammar (d + 1) (.such test p) ts (some (a, rest)) :=
  of_step fun n hn => by
    simp only [run, hp n hn, Option.bind_eq_bind, Option.bind_some, htest, if_true]

theorem rule {name : Rule} (h : Runs grammar d (grammar name) ts result) :
    Runs grammar (d + 1) (.rule name) ts result :=
  of_step fun n hn => by simp only [run, h n hn]

theorem linesAbove (kind : Kind) (above : List Tree) :
    Runs grammar (d + 1) (.linesAbove kind) (.lineStart above :: rest)
      (some ([.node kind above], .lineStart [] :: rest)) :=
  of_step fun n _ => by simp only [run]

theorem lineStart : Runs grammar (d + 1) .lineStart (.lineStart [] :: rest)
    (some ([.leaf .margin], rest)) :=
  of_step fun n _ => by simp only [run]

theorem lineEnd (ending : Leaf) : Runs grammar (d + 1) .lineEnd (.newline [] ending :: rest)
    (some ([.leaf ending], rest)) :=
  of_step fun n _ => by simp only [run, trivia, List.map_nil, List.nil_append]

theorem endOfText (kind : Kind) (above : List Tree) :
    Runs grammar (d + 1) (.endOfText kind) [.endOfText above] (some ([.node kind above], [])) :=
  of_step fun n _ => by simp only [run]

/-- A first part that nothing belongs to. -/
theorem extend {joint : Tree → List Tree → Joint}
    (hp : Runs grammar d p (hoist ts).2 (some (a, rest)))
    (hq : Runs grammar d q rest none) {trees : List Tree}
    (hjoint : (joint (a.getLastD default) [] = .apart ∧ trees = a) ∨
      ∃ kind, joint (a.getLastD default) [] = .under kind ∧ trees = [.node kind a]) :
    Runs grammar (d + 1) (.extend joint p q) ts (some ((hoist ts).1 ++ trees, rest)) :=
  of_step fun n hn => by
    simp only [run, hp n hn, hq n hn, Option.bind_eq_bind, Option.bind_some, Option.getD_none]
    rcases hjoint with ⟨hjoint, rfl⟩ | ⟨kind, hjoint, rfl⟩
    · rw [hjoint]
    · simp only [hjoint, List.append_nil]

end Runs

end Peg

end Source

end EntryCoverage
