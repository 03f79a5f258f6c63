import EntryCoverage.Source.Peg

/-!
# What a Grammar Can Read

The trees that a parsing expression can give, apart from the tokens that it reads.

`Peg.run` says what an expression reads from given tokens; what all its trees have in
common is said with `Reads`, which leaves out the tokens, the order of choices and the
conditions on what comes next. It repeats the expressions constructor by constructor,
so a fact about trees is shown by cases on how they were read. That nothing is missed
is `sound`, the one induction over fuel.

A fact about all nodes of all trees is a matter of the expressions that make nodes.
`Admits` says what has to be checked of an expression for that, and `everywhere_of_reads`
that nothing else has to be. For conditions on what stands side by side there is `Keeps`,
which looks at parts as they are read, and does not have to go through all rules.

## Main definitions

* `Token.Regular`: What the lexer promises of a token.
* `Reads`: The trees that an expression can give.
* `Sound`: What an expression gives with some fuel can be read.
* `Tree.Everywhere`: A condition holds of all nodes of a tree.
* `Peg.Admits`, `Peg.Keeps`: The nodes that an expression makes meet a condition.

## Theorems

* `sound`, `reads_of_run`: What is read can be read.
* `everywhere_of_keeps`, `everywhere_of_reads`: If rules keep or admit a condition, it holds
  everywhere in what they read.
-/

namespace EntryCoverage

namespace Source

/-! ### Tokens -/

/-- Whether a leaf is a blank, without comments or line ends. -/
def Leaf.isBlank : Leaf → Bool
  | .blank _ => true
  | _ => false

/-- A tree is a line without words. -/
def Tree.IsLine (t : Tree) : Prop := ∃ leaves : List Leaf, t = .node .line (leaves.map .leaf)

/-- What the lexer promises of a word: no other word stands before it, only blanks stand
    before a semicolon, and no dot is in a name. -/
structure RegularWord (before : List Leaf) (sort : WordSort) (text : String) : Prop where
  trivia : before.all Leaf.isTrivia = true
  semicolon : sort = .operator → text = ";" → before.all Leaf.isBlank = true
  dotless : sort = .name → '.' ∉ text.toList

/-- What the lexer promises of a token: words are regular, and what is set aside are lines. -/
def Token.Regular : Token → Prop
  | .word before sort text => RegularWord before sort text
  | .lineStart above | .endOfText above | .dedent above => ∀ t ∈ above, t.IsLine
  | _ => True

/-! ### Conditions on all nodes -/

namespace Tree

mutual

/-- A condition on kinds and children holds of all nodes of a tree. -/
def Everywhere (ok : Kind → List Tree → Prop) : Tree → Prop
  | .leaf _ => True
  | .node kind ts => ok kind ts ∧ EverywhereAll ok ts

/-- The same for trees in a row. -/
def EverywhereAll (ok : Kind → List Tree → Prop) : List Tree → Prop
  | [] => True
  | t :: ts => t.Everywhere ok ∧ EverywhereAll ok ts

end

variable {ok : Kind → List Tree → Prop}

theorem everywhereAll_iff (ts : List Tree) :
    EverywhereAll ok ts ↔ ∀ t ∈ ts, t.Everywhere ok := by
  induction ts with
  | nil => exact ⟨fun _ t ht => absurd ht List.not_mem_nil, fun _ => trivial⟩
  | cons t ts ih => rw [EverywhereAll, ih, List.forall_mem_cons]

theorem EverywhereAll.of_mem {ts : List Tree} (h : EverywhereAll ok ts) {t : Tree} (ht : t ∈ ts) :
    t.Everywhere ok := (everywhereAll_iff ts).1 h t ht

theorem everywhereAll_append (s t : List Tree) :
    EverywhereAll ok (s ++ t) ↔ EverywhereAll ok s ∧ EverywhereAll ok t := by
  rw [everywhereAll_iff, everywhereAll_iff, everywhereAll_iff, List.forall_mem_append]

theorem everywhereAll_leaves (ls : List Leaf) : EverywhereAll ok (ls.map .leaf) := by
  induction ls with
  | nil => exact trivial
  | cons l ls ih => exact ⟨trivial, ih⟩

/-- Lines meet any condition that does not ask for more than that they are lines. -/
theorem everywhereAll_lines (hline : ∀ ts, ok .line ts) (ts : List Tree)
    (h : ∀ t ∈ ts, t.IsLine) : EverywhereAll ok ts := by
  rw [everywhereAll_iff]
  intro t ht
  rcases h t ht with ⟨leaves, rfl⟩
  exact ⟨hline _, everywhereAll_leaves leaves⟩

end Tree

namespace Peg

variable {Rule : Type}

/-! ### Reading without tokens -/

/-- The trees that an expression can give. -/
inductive Reads (grammar : Rule → Peg Rule) : Peg Rule → List Tree → Prop
  | empty : Reads grammar .empty []
  | word (before : List Leaf) (text : String) (hbefore : before.all Leaf.isTrivia = true) :
      Reads grammar (.word text) (trivia before ++ [.word text])
  | ofSort (before : List Leaf) (sort : WordSort) (text : String)
      (hbefore : before.all Leaf.isTrivia = true) (htext : sort = .name → '.' ∉ text.toList) :
      Reads grammar (.ofSort sort) (trivia before ++ [.word text])
  | seq {p q : Peg Rule} {a b : List Tree} (hp : Reads grammar p a) (hq : Reads grammar q b) :
      Reads grammar (.seq p q) (a ++ b)
  | first {p q : Peg Rule} {a : List Tree} (hp : Reads grammar p a) :
      Reads grammar (.either p q) a
  | second {p q : Peg Rule} {a : List Tree} (hq : Reads grammar q a) :
      Reads grammar (.either p q) a
  | done (p : Peg Rule) : Reads grammar (.many p) []
  | more {p : Peg Rule} {a b : List Tree} (hp : Reads grammar p a)
      (hmany : Reads grammar (.many p) b) : Reads grammar (.many p) (a ++ b)
  | absent (p : Peg Rule) : Reads grammar (.optional p) []
  | present {p : Peg Rule} {a : List Tree} (hp : Reads grammar p a) :
      Reads grammar (.optional p) a
  | ahead (p : Peg Rule) : Reads grammar (.ahead p) []
  | notAhead (p : Peg Rule) : Reads grammar (.notAhead p) []
  | node (before : List Leaf) {kind : Kind} {p : Peg Rule} {a : List Tree}
      (hp : Reads grammar p a) : Reads grammar (.node kind p) (trivia before ++ [.node kind a])
  | apart (before : List Leaf) {joint : Tree → List Tree → Joint} {p q : Peg Rule} {a : List Tree}
      (hp : Reads grammar p a) : Reads grammar (.extend joint p q) (trivia before ++ a)
  | beside (before : List Leaf) {joint : Tree → List Tree → Joint} {p q : Peg Rule}
      {a b : List Tree} (hp : Reads grammar p a) (hq : Reads grammar (.optional q) b)
      (hjoint : joint (a.getLastD default) b = .beside) :
      Reads grammar (.extend joint p q) (trivia before ++ a ++ b)
  | under (before : List Leaf) {joint : Tree → List Tree → Joint} {p q : Peg Rule}
      {a b : List Tree} {kind : Kind} (hp : Reads grammar p a)
      (hq : Reads grammar (.optional q) b) (hjoint : joint (a.getLastD default) b = .under kind) :
      Reads grammar (.extend joint p q) (trivia before ++ [.node kind (a ++ b)])
  | such {test : Tree → Bool} {p : Peg Rule} {a : List Tree} (hp : Reads grammar p a) :
      Reads grammar (.such test p) a
  | separator (kind : Kind) (text : String) (before after : List Leaf)
      (hbefore : text = ";" → before.all Leaf.isBlank = true)
      (hafter : after.all Leaf.isBlank = true) :
      Reads grammar (.separator kind text)
        [.node kind (trivia before ++ .word text :: trivia after)]
  | linesAbove (kind : Kind) (above : List Tree) (habove : ∀ t ∈ above, t.IsLine) :
      Reads grammar (.linesAbove kind) [.node kind above]
  | lineStart : Reads grammar .lineStart [.leaf .margin]
  | lineEnd (before : List Leaf) (ending : Leaf) :
      Reads grammar .lineEnd (trivia before ++ [.leaf ending])
  | block (before : List Leaf) (ending : Leaf) (extra : Option String) (footer : List Tree)
      {p : Peg Rule} {body : List Tree} (hfooter : ∀ t ∈ footer, t.IsLine)
      (hp : Reads grammar p body) :
      Reads grammar (.block p)
        [.node (.block extra)
          (trivia before ++ [.leaf ending] ++ body ++ [.node .footer footer])]
  | endOfText (kind : Kind) (above : List Tree) (habove : ∀ t ∈ above, t.IsLine) :
      Reads grammar (.endOfText kind) [.node kind above]
  | rule {name : Rule} {a : List Tree} (hrule : Reads grammar (grammar name) a) :
      Reads grammar (.rule name) a

/-- Taking out the blanks before a word leaves regular tokens. -/
theorem hoist_regular (ts : List Token) (h : ∀ t ∈ ts, t.Regular) :
    ∃ before, (hoist ts).1 = trivia before ∧ ∀ t ∈ (hoist ts).2, t.Regular := by
  unfold hoist
  split
  · rename_i before sort text ts
    rw [List.forall_mem_cons] at h
    exact ⟨before, rfl, List.forall_mem_cons.2 ⟨⟨rfl, fun _ _ => rfl, h.1.dotless⟩, h.2⟩⟩
  · exact ⟨[], rfl, h⟩

/-- The same for the blank before a word or line end. -/
theorem hoistBlank_regular (ts : List Token) (h : ∀ t ∈ ts, t.Regular) :
    ∃ after, (hoistBlank ts).1 = trivia after ∧ after.all Leaf.isBlank = true ∧
      ∀ t ∈ (hoistBlank ts).2, t.Regular := by
  unfold hoistBlank
  split
  · rename_i b before sort text ts
    rw [List.forall_mem_cons] at h
    refine ⟨[.blank b], rfl, rfl, List.forall_mem_cons.2 ⟨⟨h.1.trivia, ?_, h.1.dotless⟩, h.2⟩⟩
    -- If all that stands before a semicolon is blank, so is what is left of it.
    exact h.1.semicolon
  · rename_i b before leaf ts
    rw [List.forall_mem_cons] at h
    exact ⟨[.blank b], rfl, rfl, List.forall_mem_cons.2 ⟨trivial, h.2⟩⟩
  · exact ⟨[], rfl, rfl, h⟩

/-- What an expression gives from regular tokens, with so much fuel, can be read, and it
    leaves regular tokens. -/
def Sound (grammar : Rule → Peg Rule) (n : Nat) (p : Peg Rule) : Prop :=
  ∀ (ts rest : List Token) (trees : List Tree), (∀ t ∈ ts, t.Regular) →
    run grammar n p ts = some (trees, rest) →
      Reads grammar p trees ∧ ∀ t ∈ rest, t.Regular

namespace Sound

variable {grammar : Rule → Peg Rule} {n : Nat} {p q : Peg Rule}

theorem empty : Sound grammar (n + 1) .empty := by
  intro ts rest trees hts h
  simp only [run, Option.some.injEq, Prod.mk.injEq] at h
  rcases h with ⟨rfl, rfl⟩
  exact ⟨.empty, hts⟩

/-- A word is read with what stands before it. -/
theorem word (text : String) : Sound grammar (n + 1) (.word text) := by
  intro ts rest trees hts h
  simp only [run] at h
  split at h
  · rename_i before sort found rest'
    split at h
    · simp only [Option.some.injEq, Prod.mk.injEq] at h
      rcases h with ⟨rfl, rfl⟩
      rename_i hfound
      rw [Bool.and_eq_true, beq_iff_eq] at hfound
      rw [hfound.2]
      rw [List.forall_mem_cons] at hts
      exact ⟨.word before text hts.1.trivia, hts.2⟩
    · simp only [reduceCtorEq] at h
  · simp only [reduceCtorEq] at h

theorem ofSort (sort : WordSort) : Sound grammar (n + 1) (.ofSort sort) := by
  intro ts rest trees hts h
  simp only [run] at h
  split at h
  · split at h
    · rename_i hsort
      rw [Bool.and_eq_true, beq_iff_eq] at hsort
      rw [List.forall_mem_cons] at hts
      simp only [Option.some.injEq, Prod.mk.injEq] at h
      rcases h with ⟨rfl, rfl⟩
      exact ⟨.ofSort _ sort _ hts.1.trivia fun hname => hts.1.dotless (hsort.1.trans hname), hts.2⟩
    · simp only [reduceCtorEq] at h
  · simp only [reduceCtorEq] at h

/-- The second part is read from what the first one leaves. -/
theorem seq (hfirst : Sound grammar n p) (hsecond : Sound grammar n q) :
    Sound grammar (n + 1) (.seq p q) := by
  intro ts rest trees hts h
  simp only [run, Option.bind_eq_bind, Option.bind_eq_some_iff, Prod.exists,
    Option.some.injEq, Prod.mk.injEq] at h
  rcases h with ⟨a, ts', hp, b, ts'', hq, rfl, rfl⟩
  rcases hfirst ts ts' a hts hp with ⟨ha, hts'⟩
  rcases hsecond ts' ts'' b hts' hq with ⟨hb, hts''⟩
  exact ⟨.seq ha hb, hts''⟩

/-- The second choice is read from where the first one was tried. -/
theorem either (hfirst : Sound grammar n p) (hsecond : Sound grammar n q) :
    Sound grammar (n + 1) (.either p q) := by
  intro ts rest trees hts h
  simp only [run] at h
  split at h
  · rename_i result hp
    cases h
    rcases hfirst ts _ _ hts hp with ⟨ha, hrest⟩
    exact ⟨.first ha, hrest⟩
  · rcases hsecond ts _ _ hts h with ⟨hb, hrest⟩
    exact ⟨.second hb, hrest⟩

/-- A repetition ends where the expression reads nothing more. -/
theorem many (hone : Sound grammar n p) (hmore : Sound grammar n (.many p)) :
    Sound grammar (n + 1) (.many p) := by
  intro ts rest trees hts h
  simp only [run] at h
  split at h
  · simp only [Option.some.injEq, Prod.mk.injEq] at h
    rcases h with ⟨rfl, rfl⟩
    exact ⟨.done p, hts⟩
  · rename_i a ts' hp
    simp only [Option.bind_eq_bind, Option.bind_eq_some_iff, Prod.exists,
      Option.some.injEq, Prod.mk.injEq] at h
    rcases h with ⟨b, ts'', hmany, rfl, rfl⟩
    rcases hone ts ts' a hts hp with ⟨ha, hts'⟩
    rcases hmore ts' ts'' b hts' hmany with ⟨hb, hts''⟩
    exact ⟨.more ha hb, hts''⟩

theorem optional (hinner : Sound grammar n p) : Sound grammar (n + 1) (.optional p) := by
  intro ts rest trees hts h
  simp only [run] at h
  split at h
  · rename_i result hp
    cases h
    rcases hinner ts _ _ hts hp with ⟨ha, hrest⟩
    exact ⟨.present ha, hrest⟩
  · simp only [Option.some.injEq, Prod.mk.injEq] at h
    rcases h with ⟨rfl, rfl⟩
    exact ⟨.absent p, hts⟩

/-- Looking ahead leaves everything to be read. -/
theorem ahead : Sound grammar (n + 1) (.ahead p) := by
  intro ts rest trees hts h
  simp only [run, Option.map_eq_some_iff, Prod.mk.injEq] at h
  rcases h with ⟨-, -, rfl, rfl⟩
  exact ⟨.ahead p, hts⟩

theorem notAhead : Sound grammar (n + 1) (.notAhead p) := by
  intro ts rest trees hts h
  simp only [run] at h
  split at h
  · simp only [reduceCtorEq] at h
  · simp only [Option.some.injEq, Prod.mk.injEq] at h
    rcases h with ⟨rfl, rfl⟩
    exact ⟨.notAhead p, hts⟩

/-- A node is made of what is read after the blanks before it. -/
theorem node (kind : Kind) (hinner : Sound grammar n p) :
    Sound grammar (n + 1) (.node kind p) := by
  intro ts rest trees hts h
  rcases hoist_regular ts hts with ⟨before, hbefore, hts'⟩
  simp only [run, Option.bind_eq_bind, Option.bind_eq_some_iff, Prod.exists,
    Option.some.injEq, Prod.mk.injEq] at h
  rcases h with ⟨a, ts', hp, rfl, rfl⟩
  rcases hinner _ ts' a hts' hp with ⟨ha, hrest⟩
  rw [hbefore]
  exact ⟨.node before ha, hrest⟩

/-- A test does not change what is read. -/
theorem such (test : Tree → Bool) (hinner : Sound grammar n p) :
    Sound grammar (n + 1) (.such test p) := by
  intro ts rest trees hts h
  simp only [run, Option.bind_eq_bind, Option.bind_eq_some_iff, Prod.exists] at h
  rcases h with ⟨a, ts', hp, h⟩
  rcases hinner ts ts' a hts hp with ⟨ha, hrest⟩
  split at h
  · simp only [Option.some.injEq, Prod.mk.injEq] at h
    rcases h with ⟨rfl, rfl⟩
    exact ⟨.such ha, hrest⟩
  · simp only [reduceCtorEq] at h

/-- A separator takes in what stands before it: before a semicolon, only blanks. -/
theorem separator (kind : Kind) (text : String) :
    Sound grammar (n + 1) (.separator kind text) := by
  intro ts rest trees hts h
  simp only [run] at h
  split at h
  · rename_i before found rest'
    split at h
    · rename_i hfound
      rw [List.forall_mem_cons] at hts
      rcases hoistBlank_regular rest' hts.2 with ⟨after, hafter, hall, hrest⟩
      simp only [Option.some.injEq, Prod.mk.injEq] at h
      rcases h with ⟨rfl, rfl⟩
      rw [hafter, eq_of_beq hfound]
      exact ⟨.separator kind text before after
        (fun htext => hts.1.semicolon rfl ((eq_of_beq hfound).trans htext)) hall, hrest⟩
    · simp only [reduceCtorEq] at h
  · simp only [reduceCtorEq] at h

/-- What is set aside above a line is taken from its token, which stays. -/
theorem linesAbove (kind : Kind) : Sound grammar (n + 1) (.linesAbove kind) := by
  intro ts rest trees hts h
  simp only [run] at h
  split at h
  · rename_i above rest'
    rw [List.forall_mem_cons] at hts
    simp only [Option.some.injEq, Prod.mk.injEq] at h
    rcases h with ⟨rfl, rfl⟩
    exact ⟨.linesAbove kind above hts.1,
      List.forall_mem_cons.2 ⟨fun t ht => absurd ht List.not_mem_nil, hts.2⟩⟩
  · rename_i above rest'
    rw [List.forall_mem_cons] at hts
    simp only [Option.some.injEq, Prod.mk.injEq] at h
    rcases h with ⟨rfl, rfl⟩
    exact ⟨.linesAbove kind above hts.1,
      List.forall_mem_cons.2 ⟨fun t ht => absurd ht List.not_mem_nil, hts.2⟩⟩
  · simp only [reduceCtorEq] at h

/-- A first part is read, and the joint says what becomes of what follows. -/
theorem extend (joint : Tree → List Tree → Joint) (hfirst : Sound grammar n p)
    (hsecond : Sound grammar n q) : Sound grammar (n + 1) (.extend joint p q) := by
  intro ts rest trees hts h
  rcases hoist_regular ts hts with ⟨before, hbefore, hts'⟩
  simp only [run, Option.bind_eq_bind, Option.bind_eq_some_iff, Prod.exists] at h
  rcases h with ⟨a, ts', hp, h⟩
  rcases hfirst _ ts' a hts' hp with ⟨ha, hrest⟩
  -- What follows may be missing, like an optional part.
  have hmore : Reads grammar (.optional q)
      ((run grammar n q ts').getD ([], ts')).1 ∧
      ∀ t ∈ ((run grammar n q ts').getD ([], ts')).2, t.Regular := by
    cases hq : run grammar n q ts' with
    | none => exact ⟨.absent q, hrest⟩
    | some result =>
        rcases hsecond ts' _ _ hrest hq with ⟨hb, hrest'⟩
        exact ⟨.present hb, hrest'⟩
  split at h
  · simp only [Option.some.injEq, Prod.mk.injEq] at h
    rcases h with ⟨rfl, rfl⟩
    rw [hbefore]
    exact ⟨.apart before ha, hrest⟩
  · rename_i hjoint
    simp only [Option.some.injEq, Prod.mk.injEq] at h
    rcases h with ⟨rfl, rfl⟩
    rw [hbefore]
    exact ⟨.beside before ha hmore.1 hjoint, hmore.2⟩
  · rename_i hjoint
    simp only [Option.some.injEq, Prod.mk.injEq] at h
    rcases h with ⟨rfl, rfl⟩
    rw [hbefore]
    exact ⟨.under before ha hmore.1 hjoint, hmore.2⟩

theorem lineStart : Sound grammar (n + 1) .lineStart := by
  intro ts rest trees hts h
  simp only [run] at h
  split at h
  · simp only [Option.some.injEq, Prod.mk.injEq] at h
    rcases h with ⟨rfl, rfl⟩
    exact ⟨.lineStart, (List.forall_mem_cons.1 hts).2⟩
  · simp only [reduceCtorEq] at h

theorem lineEnd : Sound grammar (n + 1) .lineEnd := by
  intro ts rest trees hts h
  simp only [run] at h
  split at h
  · simp only [Option.some.injEq, Prod.mk.injEq] at h
    rcases h with ⟨rfl, rfl⟩
    exact ⟨.lineEnd _ _, (List.forall_mem_cons.1 hts).2⟩
  · simp only [reduceCtorEq] at h

/-- Nothing is left behind the end of the text. -/
theorem endOfText (kind : Kind) : Sound grammar (n + 1) (.endOfText kind) := by
  intro ts rest trees hts h
  simp only [run] at h
  split at h
  · rename_i above
    simp only [Option.some.injEq, Prod.mk.injEq] at h
    rcases h with ⟨rfl, rfl⟩
    exact ⟨.endOfText kind above (List.forall_mem_cons.1 hts).1,
      fun t ht => absurd ht List.not_mem_nil⟩
  · simp only [reduceCtorEq] at h

/-- A block ends with what is set aside before the next line of less indentation. -/
theorem block (hinner : Sound grammar n p) : Sound grammar (n + 1) (.block p) := by
  intro ts rest trees hts h
  simp only [run] at h
  split at h
  · rename_i before ending extra rest'
    simp only [Option.bind_eq_bind, Option.bind_eq_some_iff, Prod.exists] at h
    rcases h with ⟨body, after, hp, h⟩
    rw [List.forall_mem_cons, List.forall_mem_cons] at hts
    rcases hinner rest' after body hts.2.2 hp with ⟨hbody, hafter⟩
    split at h
    · rename_i footer rest'' heq
      simp only [Prod.mk.injEq] at heq
      rcases heq with ⟨rfl, rfl⟩
      rw [List.forall_mem_cons] at hafter
      simp only [Option.some.injEq, Prod.mk.injEq] at h
      rcases h with ⟨rfl, rfl⟩
      exact ⟨.block before ending extra footer hafter.1 hbody, hafter.2⟩
    · simp only [reduceCtorEq] at h
  · simp only [reduceCtorEq] at h

/-- A name stands for its expression. -/
theorem rule {name : Rule} (hinner : Sound grammar n (grammar name)) :
    Sound grammar (n + 1) (.rule name) := by
  intro ts rest trees hts h
  simp only [run] at h
  rcases hinner ts rest trees hts h with ⟨ha, hrest⟩
  exact ⟨.rule ha, hrest⟩

end Sound

variable {grammar : Rule → Peg Rule}

/-- Every expression is sound. The induction is on the fuel, and each kind of expression
    is one case of it. -/
theorem sound (n : Nat) (p : Peg Rule) : Sound grammar n p := by
  induction n generalizing p with
  | zero =>
      intro ts rest trees _ h
      rw [run_zero] at h
      simp only [reduceCtorEq] at h
  | succ n ih =>
      cases p with
      | empty => exact .empty
      | word text => exact .word text
      | ofSort sort => exact .ofSort sort
      | separator kind text => exact .separator kind text
      | seq p q => exact .seq (ih p) (ih q)
      | either p q => exact .either (ih p) (ih q)
      -- A repetition goes on with one step less.
      | many p => exact .many (ih p) (ih (.many p))
      | optional p => exact .optional (ih p)
      | ahead p => exact .ahead
      | notAhead p => exact .notAhead
      | node kind p => exact .node kind (ih p)
      | such test p => exact .such test (ih p)
      | extend joint p q => exact .extend joint (ih p) (ih q)
      | lineStart => exact .lineStart
      | lineEnd => exact .lineEnd
      | linesAbove kind => exact .linesAbove kind
      | block p => exact .block (ih p)
      | endOfText kind => exact .endOfText kind
      | rule name => exact .rule (ih (grammar name))

/-- What is read from regular tokens can be read. -/
theorem reads_of_run (n : Nat) (p : Peg Rule) (ts rest : List Token) (trees : List Tree)
    (hts : ∀ t ∈ ts, t.Regular) (h : run grammar n p ts = some (trees, rest)) :
    Reads grammar p trees :=
  (sound n p ts rest trees hts h).1

/-! ### Sequences and choices -/

theorem reads_seq_iff (p q : Peg Rule) (a : List Tree) : Reads grammar (.seq p q) a ↔
    ∃ b c, a = b ++ c ∧ Reads grammar p b ∧ Reads grammar q c := by
  constructor
  · intro h
    cases h with
    | seq hp hq => exact ⟨_, _, rfl, hp, hq⟩
  · rintro ⟨b, c, rfl, hp, hq⟩
    exact .seq hp hq

/-- What a sequence reads begins with what its first expression reads. -/
theorem reads_all_cons {p : Peg Rule} {ps : List (Peg Rule)} {a : List Tree}
    (h : Reads grammar (all (p :: ps)) a) :
    ∃ b c, a = b ++ c ∧ Reads grammar p b ∧ Reads grammar (all ps) c :=
  (reads_seq_iff p (all ps) a).1 h

/-- What a sequence reads can be cut where the sequence is. -/
theorem reads_all_append {ps qs : List (Peg Rule)} {a : List Tree}
    (h : Reads grammar (all (ps ++ qs)) a) :
    ∃ b c, a = b ++ c ∧ Reads grammar (all ps) b ∧ Reads grammar (all qs) c := by
  induction ps generalizing a with
  | nil => exact ⟨[], a, rfl, .empty, h⟩
  | cons p ps ih =>
      rcases reads_all_cons h with ⟨b, c, rfl, hp, hrest⟩
      rcases ih hrest with ⟨d, e, rfl, hps, hqs⟩
      exact ⟨b ++ d, e, (List.append_assoc b d e).symm, .seq hp hps, hqs⟩

/-- What a sequence reads ends in what its last expression reads. -/
theorem reads_all_concat {ps : List (Peg Rule)} {p : Peg Rule} {a : List Tree}
    (h : Reads grammar (all (ps ++ [p])) a) :
    ∃ b c, a = b ++ c ∧ Reads grammar (all ps) b ∧ Reads grammar p c := by
  rcases reads_all_append h with ⟨b, c, rfl, hps, hlast⟩
  rcases reads_all_cons hlast with ⟨d, e, rfl, hp, hempty⟩
  cases hempty
  exact ⟨b, d, by rw [List.append_nil], hps, hp⟩

/-- What a choice reads is read by one of its alternatives. -/
theorem reads_any {ps : List (Peg Rule)} {a : List Tree} (hne : ps ≠ [])
    (h : Reads grammar (any ps) a) : ∃ p ∈ ps, Reads grammar p a := by
  induction ps with
  | nil => exact absurd rfl hne
  | cons p ps ih =>
      cases ps with
      | nil => exact ⟨p, List.mem_cons_self, h⟩
      | cons q qs =>
          cases h with
          | first hp => exact ⟨p, List.mem_cons_self, hp⟩
          | second hrest =>
              rcases ih (List.cons_ne_nil q qs) hrest with ⟨r, hr, hread⟩
              exact ⟨r, List.mem_cons_of_mem p hr, hread⟩

/-! ### What expressions make -/

/-- Whatever a joint makes of its parts meets a condition. -/
def Makes (ok : Kind → List Tree → Prop) (joint : Tree → List Tree → Joint) : Prop :=
  ∀ first rest kind, joint first rest = .under kind → ∀ a, ok kind a

/-- The nodes that an expression itself makes, not those of the rules that it refers to,
    meet a condition. -/
@[simp] def Admits (grammar : Rule → Peg Rule) (ok : Kind → List Tree → Prop) : Peg Rule → Prop
  | .seq p q | .either p q => p.Admits grammar ok ∧ q.Admits grammar ok
  | .many p | .optional p | .such _ p => p.Admits grammar ok
  | .node kind p => p.Admits grammar ok ∧ ∀ a, Reads grammar p a → ok kind a
  | .extend joint p q => p.Admits grammar ok ∧ q.Admits grammar ok ∧ Makes ok joint
  | .separator kind text => ∀ before after : List Leaf,
      (text = ";" → before.all Leaf.isBlank = true) → after.all Leaf.isBlank = true →
        ok kind (trivia before ++ .word text :: trivia after)
  | .linesAbove kind | .endOfText kind => ∀ a, ok kind a
  | .block p => p.Admits grammar ok ∧ (∀ extra a, ok (.block extra) a) ∧ ∀ a, ok .footer a
  | _ => True

theorem admits_all_iff {ok : Kind → List Tree → Prop} (ps : List (Peg Rule)) :
    (all ps).Admits grammar ok ↔ ∀ p ∈ ps, p.Admits grammar ok := by
  induction ps with
  | nil => exact ⟨fun _ p hp => absurd hp List.not_mem_nil, fun _ => trivial⟩
  | cons p ps ih =>
      rw [List.forall_mem_cons, ← ih]
      exact Iff.rfl

/-- The same for conditions that depend on how parts follow each other: of what a joint or a
    block puts together, only that has to meet the condition which can be read. The rules
    that an expression refers to are among given ones. -/
@[simp] def Keeps (grammar : Rule → Peg Rule) (among : Rule → Prop) (ok : Kind → List Tree → Prop) :
    Peg Rule → Prop
  | .seq p q | .either p q => p.Keeps grammar among ok ∧ q.Keeps grammar among ok
  | .many p | .optional p | .such _ p => p.Keeps grammar among ok
  | .node kind p => p.Keeps grammar among ok ∧ ∀ a, Reads grammar p a → ok kind a
  | .extend joint p q => p.Keeps grammar among ok ∧ q.Keeps grammar among ok ∧
      ∀ a b kind, Reads grammar p a → Reads grammar (.optional q) b →
        joint (a.getLastD default) b = .under kind → ok kind (a ++ b)
  | .separator kind text => ∀ before after : List Leaf,
      (text = ";" → before.all Leaf.isBlank = true) → after.all Leaf.isBlank = true →
        ok kind (trivia before ++ .word text :: trivia after)
  | .linesAbove kind | .endOfText kind => ∀ a, ok kind a
  | .block p => p.Keeps grammar among ok ∧
      (∀ (before : List Leaf) ending extra body footer, Reads grammar p body →
        ok (.block extra) (trivia before ++ [.leaf ending] ++ body ++ [.node .footer footer])) ∧
          ∀ a, ok .footer a
  | .rule name => among name
  | _ => True

section Keeps

variable {among : Rule → Prop} {ok : Kind → List Tree → Prop}

theorem keeps_all_iff (ps : List (Peg Rule)) :
    (all ps).Keeps grammar among ok ↔ ∀ p ∈ ps, p.Keeps grammar among ok := by
  induction ps with
  | nil => exact ⟨fun _ p hp => absurd hp List.not_mem_nil, fun _ => trivial⟩
  | cons p ps ih =>
      rw [List.forall_mem_cons, ← ih]
      exact Iff.rfl

/-- What is admitted whatever the parts are is kept. -/
theorem Admits.keeps {p : Peg Rule} (h : p.Admits grammar ok) :
    p.Keeps grammar (fun _ => True) ok := by
  induction p with
  | seq p q ihp ihq => exact ⟨ihp h.1, ihq h.2⟩
  | either p q ihp ihq => exact ⟨ihp h.1, ihq h.2⟩
  | many p ih => exact ih h
  | optional p ih => exact ih h
  | such test p ih => exact ih h
  | node kind p ih => exact ⟨ih h.1, h.2⟩
  | extend joint p q ihp ihq =>
      exact ⟨ihp h.1, ihq h.2.1, fun a b kind _ _ hjoint => h.2.2 _ _ kind hjoint _⟩
  | separator kind text => exact h
  | linesAbove kind => exact h
  | endOfText kind => exact h
  | block p ih => exact ⟨ih h.1, fun _ _ extra _ _ _ => h.2.1 extra _, h.2.2⟩
  | empty | word | ofSort | ahead | notAhead | lineStart | lineEnd | rule => exact trivial

/-- If the expressions of rules that refer to each other keep a condition, it holds of all
    nodes of what they read. -/
theorem everywhere_of_keeps (hline : ∀ ts, ok .line ts)
    (hrules : ∀ name, among name → (grammar name).Keeps grammar among ok) (p : Peg Rule)
    (a : List Tree) (h : Reads grammar p a) (hp : p.Keeps grammar among ok) :
    Tree.EverywhereAll ok a := by
  have htrivia : ∀ before, Tree.EverywhereAll ok (trivia before) := Tree.everywhereAll_leaves
  induction h with
  | empty | done | absent | ahead | notAhead => exact trivial
  | word before text hbefore =>
      exact (Tree.everywhereAll_append _ _).2 ⟨htrivia before, trivial, trivial⟩
  | ofSort before sort text hbefore htext =>
      exact (Tree.everywhereAll_append _ _).2 ⟨htrivia before, trivial, trivial⟩
  | seq _ _ ihp ihq => exact (Tree.everywhereAll_append _ _).2 ⟨ihp hp.1, ihq hp.2⟩
  | first _ ih => exact ih hp.1
  | second _ ih => exact ih hp.2
  | more _ _ ihp ihmany => exact (Tree.everywhereAll_append _ _).2 ⟨ihp hp, ihmany hp⟩
  | present _ ih => exact ih hp
  | node before hread ih =>
      exact (Tree.everywhereAll_append _ _).2
        ⟨htrivia before, ⟨hp.2 _ hread, ih hp.1⟩, trivial⟩
  | apart before _ ih => exact (Tree.everywhereAll_append _ _).2 ⟨htrivia before, ih hp.1⟩
  | beside before _ _ _ ihp ihq =>
      -- What is read stands beside what was read before, and no node is made.
      refine (Tree.everywhereAll_append _ _).2 ⟨?_, ihq hp.2.1⟩
      exact (Tree.everywhereAll_append _ _).2 ⟨htrivia before, ihp hp.1⟩
  | under before hread hread' hjoint ihp ihq =>
      -- A node is made of both, of a kind that the joint says.
      refine (Tree.everywhereAll_append _ _).2 ⟨htrivia before, ⟨?_, ?_⟩, trivial⟩
      · exact hp.2.2 _ _ _ hread hread' hjoint
      · exact (Tree.everywhereAll_append _ _).2 ⟨ihp hp.1, ihq hp.2.1⟩
  | such _ ih => exact ih hp
  | separator kind text before after hbefore hafter =>
      refine ⟨⟨hp before after hbefore hafter, ?_⟩, trivial⟩
      exact (Tree.everywhereAll_append _ _).2 ⟨htrivia before, trivial, htrivia after⟩
  | linesAbove kind above habove =>
      exact ⟨⟨hp above, Tree.everywhereAll_lines hline above habove⟩, trivial⟩
  | lineStart => exact ⟨trivial, trivial⟩
  | lineEnd before ending =>
      exact (Tree.everywhereAll_append _ _).2 ⟨htrivia before, trivial, trivial⟩
  | block before ending extra footer hfooter hread ih =>
      refine ⟨⟨hp.2.1 before ending extra _ footer hread, ?_⟩, trivial⟩
      rw [Tree.everywhereAll_append, Tree.everywhereAll_append, Tree.everywhereAll_append]
      exact ⟨⟨⟨htrivia before, trivial, trivial⟩, ih hp.1⟩,
        ⟨hp.2.2 footer, Tree.everywhereAll_lines hline footer hfooter⟩, trivial⟩
  | endOfText kind above habove =>
      exact ⟨⟨hp above, Tree.everywhereAll_lines hline above habove⟩, trivial⟩
  | rule _ ih => exact ih (hrules _ hp)

/-- If the expressions of all rules meet a condition, it holds of all nodes of what they
    read. -/
theorem everywhere_of_reads (hline : ∀ ts, ok .line ts)
    (hrules : ∀ name, (grammar name).Admits grammar ok) (p : Peg Rule) (a : List Tree)
    (h : Reads grammar p a) (hp : p.Admits grammar ok) : Tree.EverywhereAll ok a :=
  everywhere_of_keeps hline (fun name _ => (hrules name).keeps) p a h hp.keeps

end Keeps

end Peg

end Source

end EntryCoverage
