import EntryCoverage.Proofs.Parsed
import EntryCoverage.Proofs.Ways

/-!
# Where Comments Stand

The node of a tree that holds the line right above a statement.

A line without words is held by the statement below it, or by the file if it is above the
first statement, or by the block that ends there if it is indented as that block is. Which
of these it is does not show in the order of the source, in which the line is simply above
the statement. `lineAbove?` reads a tree in that order, and gives the line with the kind of
node that holds it.

The statement itself holds it unless the file or a block does (`lineAbove?_cases`). What
has to be excluded is a line that waits, having been read for a statement whose first word
never came, when the next statement begins. It is a matter of the grammar alone: `flow`
says of an expression whether such a line may wait behind what it reads, and `Orderly`
that none waits where a statement begins. Both look at the expressions only, and
`placed_of_reads` carries their verdict to all trees.

## Main definitions

* `SetAside`: A line without words, with the kind of node that holds it.
* `lineAfter`: The line that stands right before what follows a tree.
* `Tree.lineAbove?`: The line right above the node at the end of a way.
* `Placed`: No line waits where a statement begins.
* `Peg.flow`, `Peg.Orderly`: The same of an expression.

## Theorems

* `placed_of_reads`: What an orderly expression reads is placed.
* `grammar_orderly`: The rules are orderly.
* `lineAbove?_cases`: What holds the line right above a statement.
-/

namespace EntryCoverage

namespace Source

/-! ### The line above -/

/-- Whether nodes of a kind hold lines without words. -/
def Kind.holdsLines : Kind → Bool
  | .header | .footer | .leading | .gap => true
  | _ => false

/-- Whether nodes of a kind are statements on lines of their own. -/
def Kind.isStatement : Kind → Bool
  | .functionDef | .classDef | .ifStatement | .forStatement | .whileStatement | .withStatement
  | .tryStatement | .tryStarStatement | .matchStatement | .simpleLine => true
  | _ => false

/-- A line without words, and the kind of the node that holds it. -/
structure SetAside where
  place : Kind
  line : Tree

mutual

/-- The line without words that stands right before what follows a tree, if one does,
    given the one that stands right before the tree. -/
def lineAfter (last : Option SetAside) : Tree → Option SetAside
  | .leaf _ => none
  | .node kind ts =>
      if kind.holdsLines then (ts.getLast?.map (⟨kind, ·⟩)).or last
      else lineAfterAll last ts

/-- The same for trees in a row. -/
def lineAfterAll (last : Option SetAside) : List Tree → Option SetAside
  | [] => last
  | t :: ts => lineAfterAll (lineAfter last t) ts

end

theorem lineAfterAll_append (last : Option SetAside) (ts us : List Tree) :
    lineAfterAll last (ts ++ us) = lineAfterAll (lineAfterAll last ts) us := by
  induction ts generalizing last with
  | nil => rfl
  | cons t ts ih => exact ih (lineAfter last t)

/-- The line without words right above the node at the end of a way, given the one right
    above the tree. Lines that the node itself begins with are above it. -/
def Tree.lineAbove? (last : Option SetAside) (t : Tree) : Way → Option SetAside
  | [] => match t.children with
    | .node .leading lines :: _ => lineAfter last (.node .leading lines)
    | _ => last
  | i :: w => t.children[i]?.bind (·.lineAbove? (lineAfterAll last (t.children.take i)) w)

/-! ### No line waits -/

/-- No line waits for its statement: if there is one, a file or a block holds it. -/
def Settled (last : Option SetAside) : Prop :=
  ∀ s, last = some s → s.place = .header ∨ s.place = .footer

theorem settled_none : Settled none := fun _ h => absurd h.symm (Option.some_ne_none _)

mutual

/-- Where a statement begins, no line waits, and it begins with the lines above it. -/
def Placed (last : Option SetAside) : Tree → Prop
  | .leaf _ => True
  | .node kind ts =>
      (kind.isStatement = true →
        Settled last ∧ ∃ lines rest, ts = .node .leading lines :: rest) ∧ PlacedAll last ts

/-- The same for trees in a row. -/
def PlacedAll (last : Option SetAside) : List Tree → Prop
  | [] => True
  | t :: ts => Placed last t ∧ PlacedAll (lineAfter last t) ts

end

theorem placedAll_append (last : Option SetAside) (ts us : List Tree) :
    PlacedAll last (ts ++ us) ↔ PlacedAll last ts ∧ PlacedAll (lineAfterAll last ts) us := by
  induction ts generalizing last with
  | nil => exact (iff_of_eq (true_and _)).symm
  | cons t ts ih =>
      rw [List.cons_append, PlacedAll, PlacedAll, ih, and_assoc]
      exact Iff.rfl

/-- In a row that is placed, each tree is. -/
theorem PlacedAll.getElem? {last : Option SetAside} {ts : List Tree} (h : PlacedAll last ts)
    {i : Nat} {t : Tree} (ht : ts[i]? = some t) : Placed (lineAfterAll last (ts.take i)) t := by
  rcases List.getElem?_eq_some_iff.1 ht with ⟨hi, rfl⟩
  rw [← List.take_append_drop i ts, List.drop_eq_getElem_cons hi, placedAll_append] at h
  exact h.2.1

theorem placedAll_leaves (last : Option SetAside) (ls : List Leaf) :
    PlacedAll last (ls.map .leaf) := by
  induction ls generalizing last with
  | nil => exact trivial
  | cons l ls ih => exact ⟨trivial, ih none⟩

/-- Leaves stand between lines and what follows. -/
theorem lineAfterAll_leaves (last : Option SetAside) (ls : List Leaf) :
    lineAfterAll last (ls.map .leaf) = last ∨ lineAfterAll last (ls.map .leaf) = none := by
  induction ls generalizing last with
  | nil => exact .inl rfl
  | cons l ls ih =>
      right
      rcases ih none with h | h
      · exact h
      · exact h

theorem placedAll_lines (last : Option SetAside) (ts : List Tree) (h : ∀ t ∈ ts, t.IsLine) :
    PlacedAll last ts := by
  induction ts generalizing last with
  | nil => exact trivial
  | cons t ts ih =>
      rw [List.forall_mem_cons] at h
      rcases h.1 with ⟨leaves, rfl⟩
      exact ⟨⟨fun hline => absurd hline Bool.false_ne_true, placedAll_leaves last leaves⟩,
        ih _ h.2⟩

/-! ### Expressions behind which no line waits -/

namespace Peg

variable {Rule : Type}

/-- Whether a line may wait behind what an expression reads, given whether one may wait
    before it. -/
@[simp] def flow : Peg Rule → Bool → Bool
  | .empty, s | .ahead _, s | .notAhead _, s => s
  | .word _, _ | .ofSort _, _ | .separator _ _, _ | .lineStart, _ | .lineEnd, _ => false
  | .rule _, _ => false
  | .seq p q, s => q.flow (p.flow s)
  | .either p q, s => p.flow s || q.flow s
  | .many _, s => s
  | .optional p, s => s || p.flow s
  | .node _ p, s | .such _ p, s => p.flow s
  | .extend _ p q, s => p.flow s || q.flow (p.flow s)
  | .linesAbove kind, s | .endOfText kind, s => s || kind == .leading || kind == .gap
  | .block p, _ => p.flow false

/-- Whether what an expression reads begins with the lines above it. -/
@[simp] def leads : Peg Rule → Bool
  | .linesAbove kind => kind == .leading
  | .seq p _ | .such _ p => p.leads
  | _ => false

/-- An expression makes no node of a kind that is not meant for what it reads, given whether
    a line may wait before it: none that holds lines, and statements only if no line waits
    and they begin with the lines above them. -/
def Suits (s : Bool) (p : Peg Rule) (kind : Kind) : Prop :=
  kind.holdsLines = false ∧ (kind.isStatement = true → s = false ∧ p.leads = true)

/-- No line waits where an expression begins a statement or refers to a rule, given whether
    one may wait before it. -/
@[simp] def Orderly : Peg Rule → Bool → Prop
  | .seq p q, s => p.Orderly s ∧ q.Orderly (p.flow s)
  | .either p q, s => p.Orderly s ∧ q.Orderly s
  | .many p, s => p.Orderly s ∧ (p.flow s = true → s = true)
  | .optional p, s | .such _ p, s => p.Orderly s
  | .node kind p, s => p.Orderly s ∧ Suits s p kind
  | .extend joint p q, s =>
      p.Orderly s ∧ q.Orderly (p.flow s) ∧ Makes (fun kind _ => Suits s p kind) joint
  | .separator kind _, _ => kind.holdsLines = false ∧ kind.isStatement = false
  | .linesAbove kind, _ | .endOfText kind, _ => kind.holdsLines = true
  | .block p, _ => p.Orderly false
  | .rule _, s => s = false
  | _, _ => True

/-- A line may wait, or none does. -/
def Allows (s : Bool) (last : Option SetAside) : Prop := s = false → Settled last

theorem Allows.mono {s s' : Bool} {last : Option SetAside} (h : Allows s last)
    (hle : s = true → s' = true) : Allows s' last := by
  intro hs'
  refine h ?_
  cases s with
  | false => rfl
  | true => exact absurd (hle rfl) (by rw [hs']; exact Bool.false_ne_true)

theorem allows_none (s : Bool) : Allows s none := fun _ => settled_none

/-- Leaves let no line wait that did not wait before. -/
theorem Allows.leaves {s : Bool} {last : Option SetAside} (h : Allows s last) (ls : List Leaf) :
    Allows s (lineAfterAll last (ls.map .leaf)) := by
  rcases lineAfterAll_leaves last ls with heq | heq
  · rwa [heq]
  · rw [heq]
    exact allows_none s

/-- A word lets no line wait. -/
theorem lineAfterAll_word (last : Option SetAside) (before : List Leaf) (l : Leaf) :
    lineAfterAll last (trivia before ++ [.leaf l]) = none := by
  rw [lineAfterAll_append]
  rfl

theorem placedAll_word (last : Option SetAside) (before : List Leaf) (l : Leaf) :
    PlacedAll last (trivia before ++ [.leaf l]) := by
  rw [placedAll_append]
  exact ⟨placedAll_leaves last before, trivial, trivial⟩

/-- What is set aside waits if a statement is to have it, and only then. -/
theorem Allows.lineAfter {s : Bool} {last : Option SetAside} {kind : Kind} (h : Allows s last)
    (hkind : kind.holdsLines = true) (above : List Tree) :
    Allows (s || kind == .leading || kind == .gap) (lineAfter last (.node kind above)) := by
  intro hflow
  rw [Bool.or_eq_false_iff, Bool.or_eq_false_iff] at hflow
  rw [Source.lineAfter, if_pos hkind]
  cases above.getLast? with
  | none => exact h hflow.1.1
  | some line =>
      rintro _ ⟨⟩
      cases kind with
      | header => exact .inl rfl
      | footer => exact .inr rfl
      | leading => exact absurd hflow.1.2 Bool.noConfusion
      | gap => exact absurd hflow.2 Bool.noConfusion
      | _ => exact absurd hkind Bool.false_ne_true

/-- What is set aside is no statement. -/
theorem placed_lines (last : Option SetAside) {kind : Kind} (hkind : kind.holdsLines = true)
    (above : List Tree) (h : ∀ t ∈ above, t.IsLine) : Placed last (.node kind above) := by
  refine ⟨fun hstatement => ?_, placedAll_lines last above h⟩
  cases kind <;> first
    | exact absurd hstatement Bool.false_ne_true
    | exact absurd hkind Bool.false_ne_true

variable {grammar : Rule → Peg Rule}

/-- What leads begins with the lines above it. -/
theorem exists_of_leads {p : Peg Rule} {a : List Tree} (h : Reads grammar p a)
    (hleads : p.leads = true) : ∃ lines rest, a = .node .leading lines :: rest := by
  induction h with
  | seq _ _ ih _ =>
      rcases ih hleads with ⟨lines, rest, rfl⟩
      exact ⟨lines, _, rfl⟩
  | such _ ih => exact ih hleads
  | linesAbove kind above _ =>
      rw [leads, beq_iff_eq] at hleads
      rw [hleads]
      exact ⟨above, [], rfl⟩
  | _ => exact absurd hleads Bool.false_ne_true

/-- A node of a suitable kind is placed if what is in it is, and no more lines wait behind
    it than behind what is in it. -/
theorem Suits.placed {s s' : Bool} {p : Peg Rule} {kind : Kind} {last : Option SetAside}
    {before : List Leaf} {ts us : List Tree} (h : Suits s p kind) (hread : Reads grammar p ts)
    (hlast : Allows s (lineAfterAll last (trivia before)))
    (hall : PlacedAll (lineAfterAll last (trivia before)) (ts ++ us))
    (hafter : Allows s' (lineAfterAll (lineAfterAll last (trivia before)) (ts ++ us))) :
    PlacedAll last (trivia before ++ [.node kind (ts ++ us)]) ∧
      Allows s' (lineAfterAll last (trivia before ++ [.node kind (ts ++ us)])) := by
  rw [placedAll_append, lineAfterAll_append]
  refine ⟨⟨placedAll_leaves last before, ⟨fun hstatement => ?_, hall⟩, trivial⟩, ?_⟩
  · rcases h.2 hstatement with ⟨hs, hleads⟩
    rcases exists_of_leads hread hleads with ⟨lines, rest, rfl⟩
    exact ⟨hlast hs, lines, rest ++ us, rfl⟩
  · rw [lineAfterAll, Source.lineAfter, h.1]
    exact hafter

/-- If the rules are orderly, what an orderly expression reads is placed. -/
theorem placed_of_reads
    (hrules : ∀ name, (grammar name).Orderly false ∧ (grammar name).flow false = false)
    {p : Peg Rule} {a : List Tree} (h : Reads grammar p a) (s : Bool) (hp : p.Orderly s)
    (last : Option SetAside) (hlast : Allows s last) :
    PlacedAll last a ∧ Allows (p.flow s) (lineAfterAll last a) := by
  -- Along what is read: `last` waits before it, and `s` says whether something may.
  induction h generalizing s last with
  | empty | ahead | notAhead => exact ⟨trivial, hlast⟩
  | done => exact ⟨trivial, hlast⟩
  | absent => exact ⟨trivial, hlast.mono fun hs => by rw [flow, hs, Bool.true_or]⟩
  | word before text hbefore =>
      exact ⟨placedAll_word _ _ _, by rw [Tree.word, lineAfterAll_word]; exact allows_none _⟩
  | ofSort before sort text hbefore htext =>
      exact ⟨placedAll_word _ _ _, by rw [Tree.word, lineAfterAll_word]; exact allows_none _⟩
  | lineStart => exact ⟨⟨trivial, trivial⟩, allows_none _⟩
  | lineEnd before ending =>
      exact ⟨placedAll_word _ _ _, by rw [lineAfterAll_word]; exact allows_none _⟩
  | seq _ _ ihp ihq =>
      rcases ihp s hp.1 last hlast with ⟨ha, hafter⟩
      rcases ihq _ hp.2 _ hafter with ⟨hb, hend⟩
      rw [placedAll_append, lineAfterAll_append]
      exact ⟨⟨ha, hb⟩, hend⟩
  | first _ ih =>
      rcases ih s hp.1 last hlast with ⟨ha, hafter⟩
      exact ⟨ha, hafter.mono fun hs => by rw [flow, hs, Bool.true_or]⟩
  | second _ ih =>
      rcases ih s hp.2 last hlast with ⟨ha, hafter⟩
      exact ⟨ha, hafter.mono fun hs => by rw [flow, hs, Bool.or_true]⟩
  | more _ _ ihp ihmany =>
      -- One round more leaves things as the repetition found them.
      rcases ihp s hp.1 last hlast with ⟨ha, hafter⟩
      rcases ihmany s hp _ (hafter.mono hp.2) with ⟨hb, hend⟩
      rw [placedAll_append, lineAfterAll_append]
      exact ⟨⟨ha, hb⟩, hend⟩
  | present _ ih =>
      rcases ih s hp last hlast with ⟨ha, hafter⟩
      exact ⟨ha, hafter.mono fun hs => by rw [flow, hs, Bool.or_true]⟩
  | such _ ih => exact ih s hp last hlast
  | @node before kind p a hread ih =>
      have hbefore := hlast.leaves before
      rcases ih s hp.1 _ hbefore with ⟨ha, hafter⟩
      rw [← List.append_nil a] at ha hafter ⊢
      exact hp.2.placed hread hbefore ha hafter
  | apart before _ ih =>
      rcases ih s hp.1 _ (hlast.leaves before) with ⟨ha, hafter⟩
      rw [placedAll_append, lineAfterAll_append]
      exact ⟨⟨placedAll_leaves last before, ha⟩,
        hafter.mono fun hs => by rw [flow, hs, Bool.true_or]⟩
  | beside before _ _ _ ihp ihq =>
      rcases ihp s hp.1 _ (hlast.leaves before) with ⟨ha, hafter⟩
      rcases ihq _ hp.2.1 _ hafter with ⟨hb, hend⟩
      simp only [placedAll_append, lineAfterAll_append]
      exact ⟨⟨⟨placedAll_leaves last before, ha⟩, hb⟩, hend⟩
  | under before hread _ hjoint ihp ihq =>
      have hbefore := hlast.leaves before
      rcases ihp s hp.1 _ hbefore with ⟨ha, hafter⟩
      rcases ihq _ hp.2.1 _ hafter with ⟨hb, hend⟩
      refine (hp.2.2 _ _ _ hjoint []).placed hread hbefore ((placedAll_append _ _ _).2 ⟨ha, hb⟩) ?_
      rw [lineAfterAll_append]
      exact hend
  | separator kind text before after _ _ =>
      refine ⟨⟨⟨fun hstatement => ?_, ?_⟩, trivial⟩, ?_⟩
      · rw [hp.2] at hstatement
        exact absurd hstatement Bool.false_ne_true
      · exact (placedAll_append _ _ _).2
          ⟨placedAll_leaves last before, trivial, placedAll_leaves none after⟩
      · -- Behind the sign there are blanks only.
        rw [lineAfterAll, Source.lineAfter, hp.1, if_neg Bool.false_ne_true, lineAfterAll_append]
        exact (allows_none _).leaves after
  | linesAbove kind above habove =>
      exact ⟨⟨placed_lines last hp above habove, trivial⟩, hlast.lineAfter hp above⟩
  | endOfText kind above habove =>
      exact ⟨⟨placed_lines last hp above habove, trivial⟩, hlast.lineAfter hp above⟩
  | @block before ending extra footer p _ hfooter _ ih =>
      -- The end of the line that the block follows lets no line wait.
      rcases ih false hp none (allows_none false) with ⟨hbody, hafter⟩
      have hholds : Kind.footer.holdsLines = true := rfl
      have hend := hafter.lineAfter hholds footer
      have hflow : (p.flow false || Kind.footer == .leading || Kind.footer == .gap) =
          p.flow false := by
        cases p.flow false <;> rfl
      refine ⟨⟨⟨fun hstatement => absurd hstatement Bool.false_ne_true, ?_⟩, trivial⟩, ?_⟩
      · rw [placedAll_append, placedAll_append, lineAfterAll_word]
        exact ⟨⟨placedAll_word last before ending, hbody⟩, placed_lines _ rfl footer hfooter,
          trivial⟩
      · have hblock : (Kind.block extra).holdsLines = false := rfl
        rw [lineAfterAll, Source.lineAfter, hblock, if_neg Bool.false_ne_true, lineAfterAll_append,
          lineAfterAll_append, lineAfterAll_word]
        rwa [hflow] at hend
  | @rule name a _ ih =>
      cases hp
      rcases hrules name with ⟨horderly, hflow⟩
      rcases ih false horderly last hlast with ⟨ha, hafter⟩
      rw [hflow] at hafter
      exact ⟨ha, hafter⟩

end Peg

/-! ### The rules -/

section Rules

open Peg Grammar

theorem grammar_flow (name : Rule) : (grammar name).flow false = false := by
  cases name <;> rfl

/-- Expressions may grow into nodes that are neither statements nor hold lines. -/
theorem suits_of_plain {s : Bool} {p : Phrase} {kind : Kind} (hlines : kind.holdsLines = false)
    (hstatement : kind.isStatement = false) : Suits s p kind :=
  ⟨hlines, fun h => absurd (hstatement.symm.trans h) Bool.false_ne_true⟩

/-- No line waits where a rule begins a statement. -/
theorem grammar_orderly (name : Rule) : (grammar name).Orderly false := by
  cases name
  all_goals repeat' refine And.intro ?_ ?_
  all_goals first
    | exact trivial
    | exact rfl
    | exact id
    | exact fun h => absurd h Bool.false_ne_true
    | exact fun _ => ⟨rfl, rfl⟩
    | exact makes_growing _ fun _ => suits_of_plain rfl rfl
    | exact makes_itemJoint (fun _ => suits_of_plain rfl rfl) fun _ => suits_of_plain rfl rfl
    | exact makes_entryJoint (fun _ => suits_of_plain rfl rfl) fun _ => suits_of_plain rfl rfl
    | exact makes_sliceJoint fun _ => suits_of_plain rfl rfl
    | exact makes_statementJoint (fun _ => suits_of_plain rfl rfl)
        (fun _ => suits_of_plain rfl rfl) (fun _ => suits_of_plain rfl rfl)
        fun _ => suits_of_plain rfl rfl
    | exact makes_chainJoint
    | exact makes_tryJoint (fun _ => ⟨rfl, fun _ => ⟨rfl, rfl⟩⟩) fun _ => ⟨rfl, fun _ => ⟨rfl, rfl⟩⟩

end Rules

/-! ### Files -/

/-- In the tree of a file no line waits where a statement begins. -/
theorem parse?_placed {text : String} {m : Module} (h : Module.parse? text = some m) :
    Placed none m.tree := by
  have hrules := fun name => And.intro (grammar_orderly name) (grammar_flow name)
  have hplaced := Peg.placed_of_reads hrules (parse?_reads h).1 false rfl none (Peg.allows_none _)
  exact hplaced.1.1

/-- Where a statement in a tree that is placed begins, no line waits. -/
theorem Placed.at? {last : Option SetAside} {t : Tree} (h : Placed last t) {w : Way} {kind : Kind}
    {ts : List Tree} (hat : t.at? w = some (.node kind ts)) (hstatement : kind.isStatement = true) :
    ∃ before lines rest, ts = .node .leading lines :: rest ∧ Settled before ∧
      t.lineAbove? last w = lineAfter before (.node .leading lines) := by
  -- Down the way, where each child is placed behind the line that waits before it.
  induction w generalizing last t with
  | nil =>
      cases hat
      rcases h.1 hstatement with ⟨hsettled, lines, rest, rfl⟩
      exact ⟨last, lines, rest, rfl, hsettled, rfl⟩
  | cons i w ih =>
      rw [Tree.at?, Option.bind_eq_some_iff] at hat
      rcases hat with ⟨child, hchild, hat⟩
      cases t with
      | leaf l => exact absurd hchild.symm (Option.some_ne_none child)
      | node kind' us =>
          rcases ih (PlacedAll.getElem? h.2 hchild) hat with
            ⟨before, lines, rest, hts, hbefore, hline⟩
          refine ⟨before, lines, rest, hts, hbefore, ?_⟩
          rw [Tree.lineAbove?, hchild, Option.bind_some]
          exact hline

/-- The line right above a statement is the last of the lines that the statement begins
    with, or else it has none and the line is held by the file or by a block. -/
theorem lineAbove?_cases {text : String} {m : Module} (h : Module.parse? text = some m) {w : Way}
    {kind : Kind} {ts : List Tree} (hat : m.tree.at? w = some (.node kind ts))
    (hstatement : kind.isStatement = true) {s : SetAside}
    (hline : m.tree.lineAbove? none w = some s) :
    ∃ lines rest, ts = .node .leading lines :: rest ∧
      ((s.place = .leading ∧ lines.getLast? = some s.line) ∨
        ((s.place = .header ∨ s.place = .footer) ∧ lines = [])) := by
  rcases (parse?_placed h).at? hat hstatement with ⟨before, lines, rest, rfl, hbefore, habove⟩
  refine ⟨lines, rest, rfl, ?_⟩
  have hholds : Kind.leading.holdsLines = true := rfl
  rw [habove, lineAfter, if_pos hholds] at hline
  cases hlast : lines.getLast? with
  | some line =>
      rw [hlast, Option.map_some, Option.some_or, Option.some.injEq] at hline
      rw [← hline]
      exact .inl ⟨rfl, rfl⟩
  | none =>
      rw [hlast, Option.map_none, Option.none_or] at hline
      exact .inr ⟨hbefore s hline, List.getLast?_eq_none_iff.1 hlast⟩

end Source

end EntryCoverage
