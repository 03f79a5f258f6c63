import EntryCoverage.Builder
import EntryCoverage.Proofs.Lexing

/-!
# Trees That Were Read

What the tree of a file is like, whatever the file says.

Calls are put into functions by looking at shapes: the last part of a definition is its
body, a lambda has a body, and the statements on a line have semicolons between them.
None of this is in the type of trees. It is in the grammar, and `Fits` says it of a
node. The rules are checked one by one (`grammar_admits`), which is where the shapes of
`functionDef`, `lambda` and of lines are read off the expressions that read them;
`parse?_fits` carries it to every node of every file.

## Main definitions

* `Fits`: What reading promises of a node.
* `IsSmall`: An expression that reads one small statement.

## Theorems

* `grammar_admits`: The rules make nodes that fit.
* `parse?_fits`: All nodes of the tree of a file fit, and its root is a module.
-/

namespace EntryCoverage

namespace Source

open Peg

/-- What reading promises of a node, given its kind and children. -/
def Fits : Kind → List Tree → Prop
  | .functionDef, ts => ∃ head body, ts = head ++ [body] ∧ Builder.isBody body = true
  | .lambda, ts => ts ≠ []
  | .simpleLine, ts => 1 < (smallStatements ts).length →
      (afterSemicolon? (splitAfterFirst ts).2).isSome = true
  | .semicolon, ts => ∃ before after : List Leaf, before.all Leaf.isBlank = true ∧
      after.all Leaf.isBlank = true ∧ ts = trivia before ++ .word ";" :: trivia after
  | .hookCall, _ | .sequenced, _ | .separator, _ => False
  | _, _ => True

/-! ### Small statements -/

section Small

variable {Rule : Type} {grammar : Rule → Peg Rule}

/-- An expression reads one tree that may stand as a small statement, perhaps after
    blanks. -/
def IsSmall (grammar : Rule → Peg Rule) (p : Peg Rule) : Prop :=
  ∀ a, Reads grammar p a → ∃ before t, a = trivia before ++ [t] ∧ isSmallStatement t = true

theorem IsSmall.node (kind : Kind) (p : Peg Rule)
    (hkind : ∀ ts, isSmallStatement (.node kind ts) = true) : IsSmall grammar (.node kind p) := by
  intro a h
  cases h with
  | node before hp => exact ⟨before, _, rfl, hkind _⟩

theorem IsSmall.any (ps : List (Peg Rule)) (hne : ps ≠ []) (h : ∀ p ∈ ps, IsSmall grammar p) :
    IsSmall grammar (any ps) := by
  intro a hread
  rcases reads_any hne hread with ⟨p, hp, hread⟩
  exact h p hp a hread

theorem IsSmall.such (test : Tree → Bool) (p : Peg Rule) (h : IsSmall grammar p) :
    IsSmall grammar (.such test p) := by
  intro a hread
  cases hread with
  | such hp => exact h a hp

theorem IsSmall.rule (name : Rule) (h : IsSmall grammar (grammar name)) :
    IsSmall grammar (.rule name) := by
  intro a hread
  cases hread with
  | rule hrule => exact h a hrule

/-- A first part that may be a small statement stays one, unless what follows stands
    beside it. -/
theorem IsSmall.extend (joint : Tree → List Tree → Joint) (p q : Peg Rule) (h : IsSmall grammar p)
    (hbeside : ∀ first rest, joint first rest ≠ .beside)
    (hunder : ∀ first rest kind, joint first rest = .under kind →
      ∀ ts, isSmallStatement (.node kind ts) = true) : IsSmall grammar (.extend joint p q) := by
  intro a hread
  cases hread with
  | apart before hp =>
      rcases h _ hp with ⟨more, t, rfl, ht⟩
      refine ⟨before ++ more, t, ?_, ht⟩
      rw [trivia, trivia, trivia, List.map_append, List.append_assoc]
  | beside before hp hq hjoint => exact absurd hjoint (hbeside _ _)
  -- What follows lies under a new node together with the first part.
  | under before hp hq hjoint => exact ⟨before, _, rfl, hunder _ _ _ hjoint _⟩

/-- Growing into a node of a kind is such a way to go on. -/
theorem IsSmall.growing (kind : Kind) (p q : Peg Rule) (h : IsSmall grammar p)
    (hkind : ∀ ts, isSmallStatement (.node kind ts) = true) :
    IsSmall grammar (.extend (Grammar.growing kind) p q) := by
  refine IsSmall.extend _ p q h (fun first rest => ?_) (fun first rest kind' hunder => ?_)
  · cases rest <;> exact Joint.noConfusion
  · cases rest with
    | nil => exact absurd hunder Joint.noConfusion
    | cons t ts =>
        cases hunder
        exact hkind

end Small

section Chain

open Grammar

/-! Expressions may stand as small statements: each rule below is read by the one before
it, up to the atoms. -/

theorem isSmall_strings : IsSmall grammar strings :=
  .growing _ _ _ (.any _ (List.cons_ne_nil _ _) (List.forall_mem_cons.2 ⟨.node _ _ fun _ => rfl,
    List.forall_mem_singleton.2 (.node _ _ fun _ => rfl)⟩)) fun _ => rfl

theorem isSmall_atom : IsSmall grammar atom := by
  refine .any _ (List.cons_ne_nil _ _) ?_
  simp only [List.forall_mem_cons, List.not_mem_nil, false_implies, implies_true, and_true]
  exact ⟨.node _ _ fun _ => rfl, .node _ _ fun _ => rfl, isSmall_strings, .node _ _ fun _ => rfl,
    .such _ _ (.node _ _ fun _ => rfl), .such _ _ (.node _ _ fun _ => rfl),
    .such _ _ (.node _ _ fun _ => rfl), .node _ _ fun _ => rfl, .node _ _ fun _ => rfl⟩

theorem isSmall_primary : IsSmall grammar (.rule .primary) :=
  .rule _ (.growing _ _ _ isSmall_atom fun _ => rfl)

theorem isSmall_awaited : IsSmall grammar awaited :=
  .any _ (List.cons_ne_nil _ _) (List.forall_mem_cons.2 ⟨.node _ _ fun _ => rfl,
    List.forall_mem_singleton.2 isSmall_primary⟩)

theorem isSmall_operand : IsSmall grammar operand :=
  .any _ (List.cons_ne_nil _ _) (List.forall_mem_cons.2 ⟨.node _ _ fun _ => rfl,
    List.forall_mem_singleton.2 isSmall_awaited⟩)

theorem isSmall_arithmetic : IsSmall grammar (.rule .arithmetic) :=
  .rule _ (.growing _ _ _ isSmall_operand fun _ => rfl)

theorem isSmall_inversion : IsSmall grammar (.rule .inversion) :=
  .rule _ (.any _ (List.cons_ne_nil _ _) (List.forall_mem_cons.2 ⟨.node _ _ fun _ => rfl,
    List.forall_mem_singleton.2 (.growing _ _ _ isSmall_arithmetic fun _ => rfl)⟩))

theorem isSmall_disjunction : IsSmall grammar (.rule .disjunction) :=
  .rule _ (.growing _ _ _ isSmall_inversion fun _ => rfl)

theorem isSmall_expression : IsSmall grammar (.rule .expression) :=
  .rule _ (.any _ (List.cons_ne_nil _ _) (List.forall_mem_cons.2 ⟨.node _ _ fun _ => rfl,
    List.forall_mem_singleton.2 (.growing _ _ _ isSmall_disjunction fun _ => rfl)⟩))

theorem isSmall_expressions : IsSmall grammar (.rule .expressions) :=
  .rule _ (.growing _ _ _ (.any _ (List.cons_ne_nil _ _) (List.forall_mem_cons.2
    ⟨.node _ _ fun _ => rfl, List.forall_mem_singleton.2 isSmall_expression⟩)) fun _ => rfl)

theorem isSmall_expressionStatement : IsSmall grammar expressionStatement := by
  refine .any _ (List.cons_ne_nil _ _) (List.forall_mem_cons.2 ⟨.node _ _ fun _ => rfl,
    List.forall_mem_singleton.2 (.extend _ _ _ isSmall_expressions ?_ ?_)⟩)
  · intro first rest
    unfold statementJoint
    split_ifs <;> exact Joint.noConfusion
  · intro first rest kind hunder
    unfold statementJoint at hunder
    split_ifs at hunder <;> cases hunder <;> exact fun _ => rfl

theorem isSmall_smallStatement : IsSmall grammar (.rule .smallStatement) := by
  refine .rule _ (.any _ (List.cons_ne_nil _ _) ?_)
  simp only [List.forall_mem_cons, List.not_mem_nil, false_implies, implies_true, and_true]
  exact ⟨.node _ _ fun _ => rfl, .node _ _ fun _ => rfl, .node _ _ fun _ => rfl,
    .node _ _ fun _ => rfl, isSmall_expressionStatement⟩

/-! ### Nodes that calls depend on -/

/-- The body of a statement is the last of the parts that are read for it. -/
theorem reads_suite {a : List Tree} (h : Reads grammar (.rule .suite) a) :
    ∃ before body, a = trivia before ++ [body] ∧ Builder.isBody body = true := by
  cases h with
  | rule hsuite =>
      rcases reads_any (List.cons_ne_nil _ _) hsuite with ⟨p, hp, hread⟩
      rcases List.mem_cons.1 hp with rfl | hp
      · cases hread with
        | block before ending extra footer hfooter hbody => exact ⟨[], _, rfl, rfl⟩
      · rw [List.mem_singleton.1 hp] at hread
        cases hread with
        | node before hbody => exact ⟨before, _, rfl, rfl⟩

/-- What ends in a body fits a definition. -/
theorem fits_functionDef (ps : List Phrase) {a : List Tree}
    (h : Reads grammar (all (ps ++ [.rule .suite])) a) : Fits .functionDef a := by
  rcases reads_all_concat h with ⟨head, last, rfl, -, hlast⟩
  rcases reads_suite hlast with ⟨before, body, rfl, hbody⟩
  exact ⟨head ++ trivia before, body, (List.append_assoc _ _ _).symm, hbody⟩

/-- What begins with a word fits a lambda. -/
theorem fits_lambda {a : List Tree} {text : String} {ps : List Phrase}
    (h : Reads grammar (all (.word text :: ps)) a) : Fits .lambda a := by
  rcases reads_all_cons h with ⟨b, c, rfl, hword, -⟩
  cases hword with
  | word before =>
      intro hnil
      rw [List.append_assoc, List.append_eq_nil_iff] at hnil
      exact absurd hnil.2 (List.cons_ne_nil _ _)

theorem isSmallStatement_trivia (before : List Leaf) :
    ∀ t ∈ trivia before, isSmallStatement t = false := by
  intro t ht
  rcases List.mem_map.1 ht with ⟨l, -, rfl⟩
  rfl

/-- The first small statement of a line is found after what is none. -/
theorem splitAfterFirst_append (lead rest : List Tree) (t : Tree)
    (hlead : ∀ u ∈ lead, isSmallStatement u = false) (ht : isSmallStatement t = true) :
    splitAfterFirst (lead ++ t :: rest) = (lead ++ [t], rest) := by
  induction lead with
  | nil => rw [List.nil_append, splitAfterFirst, if_pos ht, List.nil_append]
  | cons u us ih =>
      rw [List.forall_mem_cons] at hlead
      rw [List.cons_append, splitAfterFirst, hlead.1, if_neg Bool.false_ne_true, ih hlead.2,
        List.cons_append]

/-- The start of a line holds no small statement. -/
theorem reads_opening {a : List Tree} (h : Reads grammar opening a) :
    ∀ t ∈ a, isSmallStatement t = false := by
  rcases reads_all_cons h with ⟨above, b, rfl, habove, hb⟩
  rcases reads_all_cons hb with ⟨margin, c, rfl, hmargin, hc⟩
  cases habove
  cases hmargin
  cases hc
  simp only [List.cons_append, List.nil_append, List.forall_mem_cons, List.not_mem_nil,
    false_implies, implies_true, and_true]
  exact ⟨rfl, rfl⟩

/-- After the first of the small statements on a line, a semicolon comes next or no
    small statement follows. -/
theorem reads_smallStatements {a : List Tree} (h : Reads grammar Grammar.smallStatements a) :
    ∃ before t rest, a = trivia before ++ t :: rest ∧ isSmallStatement t = true ∧
      ((afterSemicolon? rest).isSome = true ∨ ∀ u ∈ rest, isSmallStatement u = false) := by
  rcases reads_all_cons h with ⟨b, c, rfl, hb, hc⟩
  rcases isSmall_smallStatement b hb with ⟨before, t, rfl, ht⟩
  refine ⟨before, t, c, (List.append_assoc _ _ _).trans rfl, ht, ?_⟩
  rcases reads_all_cons hc with ⟨more, d, rfl, hmore, hd⟩
  -- Either more statements follow, each after a semicolon, or there may be a last one.
  cases hmore with
  | more hnext _ =>
      rcases reads_all_cons hnext with ⟨semicolon, e, rfl, hsemicolon, -⟩
      cases hsemicolon
      exact .inl rfl
  | done =>
      rcases reads_all_cons hd with ⟨last, e, rfl, hlast, he⟩
      cases hlast with
      | present hsemicolon =>
          cases hsemicolon
          exact .inl rfl
      | absent =>
          rcases reads_all_cons he with ⟨ending, f, rfl, hending, hf⟩
          cases hending with
          | lineEnd before ending =>
              cases hf
              right
              rw [List.nil_append, List.nil_append, List.append_nil, List.forall_mem_append]
              exact ⟨isSmallStatement_trivia before, List.forall_mem_singleton.2 rfl⟩

/-- On a line, a semicolon stands right after the first of several small statements. -/
theorem fits_simpleLine {a : List Tree}
    (h : Reads grammar (all [opening, Grammar.smallStatements]) a) : Fits .simpleLine a := by
  rcases reads_all_cons h with ⟨start, b, rfl, hstart, hb⟩
  rcases reads_all_cons hb with ⟨line, c, rfl, hline, hc⟩
  cases hc
  rcases reads_smallStatements hline with ⟨before, t, rest, rfl, ht, hrest⟩
  have hlead : ∀ u ∈ start ++ trivia before, isSmallStatement u = false :=
    List.forall_mem_append.2 ⟨reads_opening hstart, isSmallStatement_trivia before⟩
  intro hmany
  rw [List.append_nil, ← List.append_assoc] at hmany ⊢
  rw [splitAfterFirst_append _ rest t hlead ht]
  rcases hrest with hsemicolon | hnone
  · exact hsemicolon
  · -- Without a semicolon there is no second statement.
    have hcount : (smallStatements ((start ++ trivia before) ++ t :: rest)).length = 1 := by
      rw [EntryCoverage.smallStatements, List.filter_append, List.filter_cons_of_pos ht,
        List.filter_eq_nil_iff.2 fun u hu => by rw [hlead u hu]; exact Bool.false_ne_true,
        List.filter_eq_nil_iff.2 fun u hu => by rw [hnone u hu]; exact Bool.false_ne_true]
      rfl
    omega

/-! ### All rules -/

section Joints

variable {ok : Kind → List Tree → Prop}

theorem makes_growing (kind : Kind) (h : ∀ a, ok kind a) : Makes ok (growing kind) := by
  intro first rest kind' hunder
  cases rest with
  | nil => exact absurd hunder Joint.noConfusion
  | cons t ts =>
      cases hunder
      exact h

theorem makes_itemJoint (hcomprehension : ∀ a, ok .comprehension a) (htuple : ∀ a, ok .tuple a) :
    Makes ok itemJoint := by
  intro first rest kind hunder
  unfold itemJoint at hunder
  split at hunder
  · cases hunder
  · split_ifs at hunder
    cases hunder
    exact hcomprehension
  · cases hunder
    exact htuple

theorem makes_entryJoint (hcomprehension : ∀ a, ok .comprehension a)
    (hentry : ∀ a, ok .dictElement a) : Makes ok entryJoint := by
  intro first rest kind hunder
  unfold entryJoint at hunder
  split_ifs at hunder <;> cases hunder
  · exact hcomprehension
  · exact hentry

theorem makes_sliceJoint (hslice : ∀ a, ok .slice a) : Makes ok sliceJoint := by
  intro first rest kind hunder
  unfold sliceJoint at hunder
  split_ifs at hunder
  cases hunder
  exact hslice

theorem makes_statementJoint (hexpression : ∀ a, ok .expressionStatement a)
    (hassignment : ∀ a, ok .assignment a) (hannotated : ∀ a, ok .annotatedAssignment a)
    (haugmented : ∀ a, ok .augmentedAssignment a) : Makes ok statementJoint := by
  intro first rest kind hunder
  unfold statementJoint at hunder
  split_ifs at hunder <;> cases hunder
  · exact hexpression
  · exact hassignment
  · exact hannotated
  · exact haugmented

theorem makes_chainJoint : Makes ok chainJoint := by
  intro first rest kind hunder
  unfold chainJoint at hunder
  split_ifs at hunder

theorem makes_tryJoint (hstar : ∀ a, ok .tryStarStatement a) (htry : ∀ a, ok .tryStatement a) :
    Makes ok tryJoint := by
  intro first rest kind hunder
  unfold tryJoint at hunder
  split_ifs at hunder <;> cases hunder
  · exact hstar
  · exact htry

end Joints

theorem admits_smallStatements : Admits grammar Fits Grammar.smallStatements := by
  have hsemicolon : Admits grammar Fits (.separator .semicolon ";") :=
    fun before after hbefore hafter => ⟨before, after, hbefore rfl, hafter, rfl⟩
  exact ⟨trivial, ⟨hsemicolon, trivial, trivial⟩, hsemicolon, trivial, trivial⟩

theorem admits_opening : Admits grammar Fits opening := ⟨fun _ => trivial, trivial, trivial⟩

theorem admits_typeParameters : Admits grammar Fits typeParameters := by
  simp only [typeParameters, row, identifier, starredOr, starred, admits_all_iff, any, Admits, Fits,
    List.forall_mem_cons, List.not_mem_nil, false_implies, implies_true, and_self]

theorem admits_parameterRow (annotated : Bool) :
    Admits grammar Fits (parameterRow annotated) := by
  cases annotated <;>
    simp only [parameterRow, row, identifier, starredOr, starred, admits_all_iff, any, Admits, Fits,
      List.forall_mem_cons, List.not_mem_nil, false_implies, implies_true, and_self, if_true,
      Bool.false_eq_true, if_false]

theorem admits_decorators : Admits grammar Fits decorators := by
  simp only [decorators, admits_all_iff, Admits, Fits, List.forall_mem_cons, List.not_mem_nil,
    false_implies, implies_true, and_self]

theorem admits_functionDef : Admits grammar Fits functionDef := by
  refine ⟨?_, fun a h => fits_functionDef [_, _, _, _, _, _, _, _, _, _] h⟩
  simp only [admits_all_iff, admits_decorators, admits_typeParameters, identifier, Admits, Fits,
    List.forall_mem_cons, List.not_mem_nil, false_implies, implies_true, and_self]

theorem admits_lambda : Admits grammar Fits lambda := by
  refine ⟨?_, fun a h => fits_lambda h⟩
  simp only [admits_all_iff, admits_parameterRow, Admits, List.forall_mem_cons, List.not_mem_nil,
    false_implies, implies_true, and_self]

/-- The rules make nodes that fit: definitions, lambdas and lines by how they are read,
    all others because nothing is asked of them. -/
theorem grammar_admits (name : Rule) : (grammar name).Admits grammar Fits := by
  have hitem : Makes Fits itemJoint := makes_itemJoint (fun _ => trivial) fun _ => trivial
  have hentry : Makes Fits entryJoint := makes_entryJoint (fun _ => trivial) fun _ => trivial
  have hslice : Makes Fits sliceJoint := makes_sliceJoint fun _ => trivial
  have hstatement : Makes Fits statementJoint := makes_statementJoint (fun _ => trivial)
    (fun _ => trivial) (fun _ => trivial) fun _ => trivial
  have htry : Makes Fits tryJoint := makes_tryJoint (fun _ => trivial) fun _ => trivial
  cases name
  all_goals simp only [grammar, row, strictRow, rowRest, tupled, identifier, starred, starredOr,
    yielded, comparisonOperator, binaryOperator, comparison, awaited, operand, strings,
    parenthesized, bracketed, braced, atom, arguments, subscript, trailer, augmentedSign,
    assignedValue, expressionStatement, dottedName, importStatement, importFrom, keywordStatement,
    typeAlias, classDef, elseClause, ifStatement, whileStatement, targets, forStatement,
    withStatement, tryStatement, matchStatement, captured, starPattern, patternItem,
    literalPattern, classPatternArguments, mappingPattern, parenthesizedPattern, closedPattern,
    admits_smallStatements, admits_opening, admits_typeParameters,
    admits_parameterRow, admits_decorators, admits_functionDef, admits_lambda, hitem, hentry,
    hslice, hstatement, makes_chainJoint, htry, admits_all_iff, any, many1, Admits, Fits,
    List.forall_mem_cons, List.not_mem_nil, false_implies, implies_true, and_true, true_and]
  -- What is left are lines, and expressions that grow into nodes.
  all_goals repeat' apply And.intro
  all_goals first
    | exact fun _ h => fits_simpleLine h
    | exact makes_growing _ fun _ => trivial

end Chain

/-! ### Files -/

/-- A node that begins with the lines above it has no blanks before it, because such
    lines are not read where a word comes next. -/
theorem run_node_linesAbove {Rule : Type} {grammar : Rule → Peg Rule} {n : Nat} {kind lead : Kind}
    {p : Peg Rule} {ts rest : List Token} {trees : List Tree}
    (h : run grammar n (.node kind (.seq (.linesAbove lead) p)) ts = some (trees, rest)) :
    ∃ above more, trees = [.node kind (.node lead above :: more)] := by
  -- The node, the sequence and the lines take a step each.
  rcases n with _ | _ | _ | n
  · rw [run_zero] at h
    simp only [reduceCtorEq] at h
  · simp only [run, Option.bind_eq_bind, Option.bind_none, reduceCtorEq] at h
  · simp only [run, Option.bind_eq_bind, Option.bind_none, reduceCtorEq] at h
  · simp only [run, Option.bind_eq_bind, Option.bind_eq_some_iff, Prod.exists, Option.some.injEq,
      Prod.mk.injEq] at h
    rcases h with ⟨a, rest', ⟨b, ts', hlines, c, ts'', -, rfl, rfl⟩, rfl, rfl⟩
    cases ts with
    | nil => cases hlines
    | cons t ts =>
        cases t with
        | lineStart | endOfText =>
            cases hlines
            exact ⟨_, _, rfl⟩
        | word | newline | indent | dedent => cases hlines

theorem withUsualIndent_regular (usual : String) (t : Token) (h : t.Regular) :
    (t.withUsualIndent usual).Regular := by
  cases t with
  | indent extra => exact trivial
  | word | newline | dedent | lineStart | endOfText => exact h

/-- The tree of a file can be read as one, and above its root, which is a module, nothing
    can be marked. -/
theorem parse?_reads {text : String} {m : Module} (h : Module.parse? text = some m) :
    Reads Grammar.grammar (.rule .file) [m.tree] ∧
      ∃ above more, m.tree = .node .module (.node .header above :: more) := by
  simp only [Module.parse?, read?, Option.bind_eq_bind, Option.bind_eq_some_iff, Prod.exists,
    Option.some.injEq] at h
  rcases h with ⟨trees, layout, ⟨tokens, htokens, hrun⟩, rfl⟩
  split at hrun
  · rename_i trees' hfile
    simp only [Option.some.injEq, Prod.mk.injEq] at hrun
    rcases hrun with ⟨rfl, rfl⟩
    -- The tokens of the lexer are regular, also once the usual indentation is left out.
    have hregular : ∀ t ∈ tokens.map (·.withUsualIndent
        ((firstIndent tokens).getD ({} : Layout).indent)), t.Regular := by
      intro t ht
      rcases List.mem_map.1 ht with ⟨u, hu, rfl⟩
      exact withUsualIndent_regular _ u (Lexer.tokens_regular htokens u hu)
    have hreads := reads_of_run _ _ _ _ _ hregular hfile
    have hroot : ∃ above more, trees' = [.node .module (.node .header above :: more)] := by
      -- The fuel is some number, and without any nothing is read.
      revert hfile
      generalize depthPerToken * _ = fuel
      intro hfile
      cases fuel with
      | zero =>
          rw [run_zero] at hfile
          simp only [reduceCtorEq] at hfile
      | succ n => exact run_node_linesAbove hfile
    rcases hroot with ⟨above, more, rfl⟩
    exact ⟨hreads, above, more, rfl⟩
  · simp only [reduceCtorEq] at hrun

/-- All nodes of the tree of a file fit, and its root is a module. -/
theorem parse?_fits {text : String} {m : Module} (h : Module.parse? text = some m) :
    m.tree.Everywhere Fits ∧
      ∃ above more, m.tree = .node .module (.node .header above :: more) := by
  rcases parse?_reads h with ⟨hreads, hroot⟩
  have hfits : Tree.EverywhereAll Fits [m.tree] :=
    everywhere_of_reads (fun _ => trivial) grammar_admits _ _ hreads trivial
  exact ⟨hfits.1, hroot⟩

end Source

end EntryCoverage
