import EntryCoverage.Proofs.ImportFrame

/-!
# What Nodes Are Made Of

The kinds of the nodes that a node has as parts, where calls depend on them.

Strings in a row are made of strings, an expression statement of one expression, and a block
of statements and what is set aside below them. This is not in the type of trees, and most
of it not in the kinds that joints give either: how many parts a node has is a matter of how
its parts are read. `Shaped` says it of a node. It holds in every file (`parse?_shaped`): most
nodes are of kinds that nothing is asked of, and the few ways in which the others are read are
listed once, in `MetByRules`, for this condition and any other on the same nodes.

Putting calls into a tree does not change the kinds of the parts that were there, so the shapes
are also those of a function whose inner functions have got their calls (`shaped_insertCalls`).
More generally, a condition that does not look at calls is `Indifferent` to them.

## Main definitions

* `kinds`: The kinds of the nodes among trees in a row.
* `Shape`: The kinds that parts of a node have.
* `Shaped`: A node has parts of these kinds.
* `MetByRules`: A condition holds of the nodes that matter to it, however they are read.
* `Indifferent`: A condition does not depend on calls.

## Theorems

* `MetByRules.everywhere`: A condition that is met holds of all nodes of the tree of a file.
* `parse?_shaped`: All nodes of the tree of a file have them.
* `Indifferent.everywhere_insertCall`: Such a condition holds of a function with a call if it
  holds of its parts.
* `shaped_insertCalls`: A tree with calls has these shapes, too.
-/

namespace EntryCoverage

namespace Source

/-- The kinds of the nodes among trees in a row. -/
def kinds (ts : List Tree) : List Kind := ts.filterMap Grammar.kindOf

theorem kinds_append (s t : List Tree) : kinds (s ++ t) = kinds s ++ kinds t :=
  List.filterMap_append

theorem kinds_leaves (ls : List Leaf) : kinds (ls.map .leaf) = [] := by
  rw [kinds, List.filterMap_map, List.filterMap_eq_nil_iff]
  exact fun l _ => rfl

theorem kinds_cons_node (kind : Kind) (ts us : List Tree) :
    kinds (.node kind ts :: us) = kind :: kinds us := rfl

theorem mem_kinds {kind : Kind} {ts : List Tree} :
    kind ∈ kinds ts ↔ ∃ us, Tree.node kind us ∈ ts := by
  rw [kinds, List.mem_filterMap]
  constructor
  · rintro ⟨t, ht, hkind⟩
    cases t with
    | leaf l => simp only [Grammar.kindOf, reduceCtorEq] at hkind
    | node kind' us =>
        cases hkind
        exact ⟨us, ht⟩
  · rintro ⟨us, hus⟩
    exact ⟨_, hus, rfl⟩

/-- Where there are no kinds, there are leaves only. -/
theorem exists_leaf_of_kinds {ts : List Tree} (h : kinds ts = []) {t : Tree} (ht : t ∈ ts) :
    ∃ l, t = .leaf l := by
  cases t with
  | leaf l => exact ⟨l, rfl⟩
  | node kind us =>
      have hmem := mem_kinds.2 ⟨us, ht⟩
      rw [h] at hmem
      exact absurd hmem List.not_mem_nil

/-- Of leaves, any condition on nodes holds. -/
theorem everywhereAll_of_kinds {ok : Kind → List Tree → Prop} {ts : List Tree} (h : kinds ts = []) :
    Tree.EverywhereAll ok ts := by
  rw [Tree.everywhereAll_iff]
  intro t ht
  rcases exists_leaf_of_kinds h ht with ⟨l, rfl⟩
  exact trivial

/-- What holds of all nodes of a tree holds of those below the end of a way. -/
theorem everywhere_of_at? {ok : Kind → List Tree → Prop} {t s : Tree} {w : Way}
    (h : t.Everywhere ok) (hat : t.at? w = some s) : s.Everywhere ok := by
  induction w generalizing t with
  | nil =>
      cases hat
      exact h
  | cons i w ih =>
      rw [Tree.at?, Option.bind_eq_some_iff] at hat
      rcases hat with ⟨child, hchild, hat⟩
      cases t with
      | leaf l => simp only [Tree.children, List.getElem?_nil, reduceCtorEq] at hchild
      | node kind ts =>
          exact ih ((Tree.everywhereAll_iff ts).1 h.2 child (List.mem_of_getElem? hchild)) hat

/-- There is a kind for each node. -/
theorem length_kinds (ts : List Tree) : (kinds ts).length = (Grammar.nodes ts).length := by
  induction ts with
  | nil => rfl
  | cons t ts ih =>
      cases t with
      | leaf l => exact ih
      | node kind us => exact congrArg Nat.succ ih

/-- The kinds that the parts of a node have, as far as calls depend on it. -/
def Shape : Kind → List Kind → Prop
  | .block _, ks => ∃ body, ks = body ++ [.footer] ∧ ∀ k ∈ body, k ≠ .header ∧ k ≠ .footer
  | .semicolon, ks | .string, ks => ks = []
  | .formatted, ks | .spec, ks => ∀ k ∈ ks, k = .field
  | .concatenated, ks => ∀ k ∈ ks, k = .string ∨ k = .formatted
  | .paren, ks | .expressionStatement, ks => ks.length ≤ 1
  | _, _ => True

/-- A node has parts of these kinds. -/
def Shaped (kind : Kind) (ts : List Tree) : Prop := Shape kind (kinds ts)

/-! ### Files -/

open Peg

section Read

variable {Rule : Type} {grammar : Rule → Peg Rule}

theorem Avoids.ofSort {kind : Kind} (sort : WordSort) : Avoids grammar kind (.ofSort sort) := by
  intro a h
  cases h with
  | ofSort before =>
      exact List.forall_mem_append.2 ⟨isKind_trivia, List.forall_mem_singleton.2 rfl⟩

/-- If all other kinds are avoided, what is read is of the kinds that are left. -/
theorem kinds_of_avoids {ok : Kind → Prop} {p : Peg Rule}
    (h : ∀ kind, ¬ ok kind → Avoids grammar kind p) {a : List Tree} (hread : Reads grammar p a) :
    ∀ kind ∈ kinds a, ok kind := by
  intro kind hkind
  by_contra hno
  rcases mem_kinds.1 hkind with ⟨us, hus⟩
  have hother := h kind hno a hread _ hus
  rw [Tree.isKind, beq_self_eq_true] at hother
  exact absurd hother.symm Bool.false_ne_true

/-- A small statement, or an expression that may stand as one, is one node. -/
theorem IsSmall.length_kinds {p : Peg Rule} (h : IsSmall grammar p) {a : List Tree}
    (hread : Reads grammar p a) : (kinds a).length ≤ 1 := by
  rcases h a hread with ⟨before, t, rfl, -⟩
  rw [kinds_append, trivia, kinds_leaves, List.nil_append]
  exact List.length_filterMap_le _ _

/-- A word makes no node. -/
theorem kinds_word {text : String} {a : List Tree} (h : Reads grammar (.word text) a) :
    kinds a = [] := by
  cases h with
  | word before =>
      rw [kinds_append, trivia, kinds_leaves]
      rfl

/-- One node may stand between two words. -/
theorem length_kinds_between {opening closing : String} {p : Peg Rule}
    (hp : ∀ a, Reads grammar p a → (kinds a).length ≤ 1) {a : List Tree}
    (h : Reads grammar (all [.word opening, p, .word closing]) a) : (kinds a).length ≤ 1 := by
  rcases reads_all_cons h with ⟨b, c, rfl, hopening, hc⟩
  rcases reads_all_cons hc with ⟨d, e, rfl, hd, he⟩
  rcases reads_all_cons he with ⟨f, g, rfl, hclosing, hg⟩
  cases hg
  rw [kinds_append, kinds_append, kinds_append, kinds_word hopening, kinds_word hclosing]
  simpa only [kinds, List.filterMap_nil, List.nil_append, List.append_nil] using hp d hd

end Read

section Chain

open Grammar

/-! Patterns are single nodes, as expressions are. -/

theorem isSmall_identifier : IsSmall grammar identifier := .node _ _ fun _ => rfl

theorem isSmall_dottedName : IsSmall grammar dottedName :=
  .growing _ _ _ isSmall_identifier fun _ => rfl

theorem isSmall_literalPattern : IsSmall grammar literalPattern := by
  refine .any _ (List.cons_ne_nil _ _) ?_
  simp only [List.forall_mem_cons, List.not_mem_nil, false_implies, implies_true, and_true]
  exact ⟨.node _ _ fun _ => rfl, isSmall_strings, .node _ _ fun _ => rfl⟩

theorem isSmall_closedPattern : IsSmall grammar closedPattern := by
  refine .any _ (List.cons_ne_nil _ _) ?_
  simp only [List.forall_mem_cons, List.not_mem_nil, false_implies, implies_true, and_true]
  exact ⟨.growing _ _ _ isSmall_dottedName fun _ => rfl, isSmall_literalPattern,
    .such _ _ (.node _ _ fun _ => rfl), .node _ _ fun _ => rfl, .such _ _ (.node _ _ fun _ => rfl)⟩

theorem isSmall_pattern : IsSmall grammar (.rule .pattern) :=
  .rule _ (.growing _ _ _ (.growing _ _ _ isSmall_closedPattern fun _ => rfl) fun _ => rfl)

theorem isSmall_patternItem : IsSmall grammar patternItem :=
  .any _ (List.cons_ne_nil _ _) (List.forall_mem_cons.2 ⟨.node _ _ fun _ => rfl,
    List.forall_mem_singleton.2 isSmall_pattern⟩)

theorem isSmall_named : IsSmall grammar (.rule .named) :=
  .rule _ (.any _ (List.cons_ne_nil _ _) (List.forall_mem_cons.2 ⟨.node _ _ fun _ => rfl,
    List.forall_mem_singleton.2 isSmall_expression⟩))

theorem isSmall_item : IsSmall grammar (.extend itemJoint (starredOr (.rule .named))
    (any [.rule .clauses, rowRest (starredOr (.rule .named))])) := by
  refine .extend _ _ _ (.any _ (List.cons_ne_nil _ _) (List.forall_mem_cons.2
    ⟨.node _ _ fun _ => rfl, List.forall_mem_singleton.2 isSmall_named⟩)) ?_ ?_
  · intro first rest
    unfold itemJoint
    split
    · exact Joint.noConfusion
    · split_ifs <;> exact Joint.noConfusion
    · exact Joint.noConfusion
  · intro first rest kind hunder
    exact @makes_itemJoint (fun kind ts => isSmallStatement (.node kind ts) = true)
      (fun _ => rfl) (fun _ => rfl) first rest kind hunder

/-! What the nodes are made of whose shape matters. -/

/-- A literal with fields, without its node. -/
abbrev formattedPhrase : Phrase :=
  all [.ofSort .literalStart, .many (.rule .literalPiece), .ofSort .literalEnd]

/-- One of the strings in a row. -/
abbrev stringPhrase : Phrase :=
  any [.node .string (.ofSort .string), .node .formatted formattedPhrase]

/-- Between parentheses stands one expression or pattern, or nothing. -/
theorem shaped_paren {a : List Tree} (h : Reads grammar (all ["(",
    any [yielded, .extend itemJoint (starredOr (.rule .named))
      (any [.rule .clauses, rowRest (starredOr (.rule .named))])], ")"]) a) : Shaped .paren a := by
  refine length_kinds_between (fun b hb => ?_) h
  refine IsSmall.length_kinds (.any _ (List.cons_ne_nil _ _) (List.forall_mem_cons.2
    ⟨.node _ _ fun _ => rfl, List.forall_mem_singleton.2 isSmall_item⟩)) hb

theorem shaped_patternParen {a : List Tree} (h : Reads grammar (all ["(",
    .optional (.extend (growing .tuple) patternItem (rowRest patternItem)), ")"]) a) :
    Shaped .paren a := by
  refine length_kinds_between (fun b hb => ?_) h
  cases hb with
  | absent => exact Nat.zero_le 1
  | present hpattern =>
      exact IsSmall.length_kinds (.growing _ _ _ isSmall_patternItem fun _ => rfl) hpattern

/-- The pieces of a literal are texts and fields. -/
theorem avoids_literalPiece {kind : Kind} (hne : ¬ kind = .field) :
    Avoids grammar kind (.rule .literalPiece) :=
  .rule (.any (List.cons_ne_nil _ _) (List.forall_mem_cons.2 ⟨.ofSort _,
    List.forall_mem_singleton.2 (.node fun h => hne h.symm)⟩))

theorem shaped_formatted {a : List Tree} (h : Reads grammar formattedPhrase a) :
    Shaped .formatted a := by
  refine kinds_of_avoids (fun kind hne => .all ?_) h
  simp only [List.forall_mem_cons, List.not_mem_nil, false_implies, implies_true, and_true]
  exact ⟨.ofSort _, .many (avoids_literalPiece hne), .ofSort _⟩

theorem shaped_spec {a : List Tree} (h : Reads grammar (.many (.rule .literalPiece)) a) :
    Shaped .spec a :=
  kinds_of_avoids (fun _ hne => .many (avoids_literalPiece hne)) h

theorem shaped_string {a : List Tree} (h : Reads grammar (.ofSort .string) a) :
    Shaped .string a := by
  cases h with
  | ofSort before =>
      rw [Shaped, kinds_append, trivia, kinds_leaves]
      rfl

/-- Strings in a row are strings, the first one and those that follow it. -/
theorem shaped_concatenated {a b : List Tree} (ha : Reads grammar stringPhrase a)
    (hb : Reads grammar (many1 stringPhrase) b) : Shaped .concatenated (a ++ b) := by
  have hphrase : ∀ kind, ¬ (kind = .string ∨ kind = .formatted) →
      Avoids grammar kind stringPhrase := by
    intro kind hno
    rw [not_or] at hno
    exact .any (List.cons_ne_nil _ _) (List.forall_mem_cons.2 ⟨.node fun h => hno.1 h.symm,
      List.forall_mem_singleton.2 (.node fun h => hno.2 h.symm)⟩)
  rcases (reads_seq_iff stringPhrase (.many stringPhrase) b).1 hb with ⟨c, d, rfl, hc, hd⟩
  rw [Shaped, kinds_append, kinds_append]
  exact List.forall_mem_append.2 ⟨kinds_of_avoids hphrase ha, List.forall_mem_append.2
    ⟨kinds_of_avoids hphrase hc, kinds_of_avoids (fun kind hne => .many (hphrase kind hne)) hd⟩⟩

/-- A block has statements, and below them what is set aside. -/
theorem shaped_block (before : List Leaf) (ending : Leaf) (extra : Option String)
    {p : Phrase} {body footer : List Tree} (h : Reads grammar (many1 p) body)
    (hp : ∀ kind, ¬ (kind ≠ .header ∧ kind ≠ .footer) → Avoids grammar kind p) :
    Shaped (.block extra) (trivia before ++ [.leaf ending] ++ body ++ [.node .footer footer]) := by
  refine ⟨kinds body, ?_, ?_⟩
  · rw [kinds_append, kinds_append, kinds_append, trivia, kinds_leaves]
    rfl
  · rcases (reads_seq_iff p (.many p) body).1 h with ⟨c, d, rfl, hc, hd⟩
    rw [kinds_append]
    exact List.forall_mem_append.2
      ⟨kinds_of_avoids hp hc, kinds_of_avoids (fun kind hne => .many (hp kind hne)) hd⟩

/-- The cases of a statement are statements of its block. -/
theorem shaped_statements {before : List Leaf} {ending : Leaf} {extra : Option String}
    {body footer : List Tree} (h : Reads grammar (many1 (.rule .statement)) body) :
    Shaped (.block extra) (trivia before ++ [.leaf ending] ++ body ++ [.node .footer footer]) := by
  refine shaped_block before ending extra h fun kind hno => avoids_statement ?_
  by_contra hne
  exact hno ⟨fun h => hne (.inl h), fun h => hne (.inr h)⟩

theorem shaped_cases {before : List Leaf} {ending : Leaf} {extra : Option String} {p : Phrase}
    {body footer : List Tree} (h : Reads grammar (many1 (.node .caseClause p)) body) :
    Shaped (.block extra) (trivia before ++ [.leaf ending] ++ body ++ [.node .footer footer]) := by
  refine shaped_block before ending extra h fun kind hno => .node ?_
  rintro rfl
  exact hno ⟨by decide, by decide⟩

/-! ### All rules -/

/-- The kinds of nodes that conditions may ask something of. -/
def matters : Kind → Bool
  | .block _ | .semicolon | .string | .formatted | .spec | .concatenated | .paren
  | .expressionStatement | .name | .attribute | .functionDef | .classDef => true
  | _ => false

/-- The definition of a function, without its node. -/
abbrev functionPhrase : Phrase :=
  all [decorators, .optional "async", "def", identifier, .optional typeParameters, "(",
    .optional (.rule .parameters), ")",
    .optional (.node .typeNote (all ["->", .rule .expression])), ":", .rule .suite]

/-- The definition of a class, without its node. -/
abbrev classPhrase : Phrase :=
  all [decorators, "class", identifier, .optional typeParameters,
    .optional (arguments basesInOrder), ":", .rule .suite]

/-- A condition that asks nothing of other kinds of nodes, and that is met by those nodes
    however they are read. -/
structure MetByRules (ok : Kind → List Tree → Prop) : Prop where
  other : ∀ {kind ts}, matters kind = false → ok kind ts
  semicolon : ∀ before after : List Leaf, ok .semicolon (trivia before ++ .word ";" :: trivia after)
  string : ∀ a, Reads grammar (.ofSort .string) a → ok .string a
  formatted : ∀ a, Reads grammar formattedPhrase a → ok .formatted a
  spec : ∀ a, Reads grammar (.many (.rule .literalPiece)) a → ok .spec a
  concatenated : ∀ a b, Reads grammar stringPhrase a → Reads grammar (many1 stringPhrase) b →
    ok .concatenated (a ++ b)
  paren : ∀ a, Reads grammar (all ["(", any [yielded, .extend itemJoint (starredOr (.rule .named))
    (any [.rule .clauses, rowRest (starredOr (.rule .named))])], ")"]) a → ok .paren a
  patternParen : ∀ a, Reads grammar (all ["(",
    .optional (.extend (growing .tuple) patternItem (rowRest patternItem)), ")"]) a → ok .paren a
  expression : ∀ a, Reads grammar (.rule .expressions) a → ok .expressionStatement a
  yield : ∀ p a, Reads grammar (.node .yield p) a → ok .expressionStatement a
  name : ∀ a, Reads grammar (.ofSort .name) a → ok .name a
  constant : ∀ a, Reads grammar (any ["True", "False", "None"]) a → ok .name a
  attributeName : ∀ a, Reads grammar (all [".", identifier]) a → ok .attribute a
  definedFunction : ∀ a, Reads grammar functionPhrase a → ok .functionDef a
  definedClass : ∀ a, Reads grammar classPhrase a → ok .classDef a
  statements : ∀ (before : List Leaf) ending extra body footer,
    Reads grammar (many1 (.rule .statement)) body →
      ok (.block extra) (trivia before ++ [.leaf ending] ++ body ++ [.node .footer footer])
  cases : ∀ (before : List Leaf) ending extra body footer p,
    Reads grammar (many1 (.node .caseClause p)) body →
      ok (.block extra) (trivia before ++ [.leaf ending] ++ body ++ [.node .footer footer])

/-- What is asked of no part of a node is met however a joint makes the node. -/
theorem under_of_makes {ok : Kind → List Tree → Prop} {joint : Tree → List Tree → Joint}
    (hmakes : Makes ok joint) {p q : Phrase}
    (a b : List Tree) (kind : Kind) (_ha : Reads grammar p a) (_hb : Reads grammar q b)
    (hjoint : joint (a.getLastD default) b = .under kind) : ok kind (a ++ b) :=
  hmakes _ _ kind hjoint _

namespace MetByRules

variable {ok : Kind → List Tree → Prop} (h : MetByRules ok)

include h

theorem keeps_identifier : identifier.Keeps grammar (fun _ => True) ok := ⟨trivial, h.name⟩

theorem keeps_opening : opening.Keeps grammar (fun _ => True) ok :=
  ⟨fun _ => h.other rfl, trivial, trivial⟩

theorem keeps_smallStatements : Grammar.smallStatements.Keeps grammar (fun _ => True) ok := by
  have hsemicolon : Keeps grammar (fun _ => True) ok (.separator .semicolon ";") :=
    fun before after _ _ => h.semicolon before after
  exact ⟨trivial, ⟨hsemicolon, trivial, trivial⟩, hsemicolon, trivial, trivial⟩

theorem keeps_typeParameters : typeParameters.Keeps grammar (fun _ => True) ok := by
  simp (disch := decide) only [typeParameters, row, h.keeps_identifier, starredOr, starred,
    keeps_all_iff, any, Keeps, h.other, List.forall_mem_cons, List.not_mem_nil, false_implies,
    implies_true, and_self]

theorem keeps_parameterRow (annotated : Bool) :
    (parameterRow annotated).Keeps grammar (fun _ => True) ok := by
  cases annotated <;>
    simp (disch := decide) only [parameterRow, row, h.keeps_identifier, starredOr, starred,
      keeps_all_iff, any, Keeps, h.other, List.forall_mem_cons, List.not_mem_nil, false_implies,
      implies_true, and_self, if_true, Bool.false_eq_true, if_false]

theorem keeps_decorators : decorators.Keeps grammar (fun _ => True) ok := by
  simp (disch := decide) only [decorators, keeps_all_iff, Keeps, h.other, List.forall_mem_cons,
    List.not_mem_nil, false_implies, implies_true, and_self]

theorem keeps_functionDef : functionDef.Keeps grammar (fun _ => True) ok := by
  refine ⟨?_, h.definedFunction⟩
  simp (disch := decide) only [keeps_all_iff, h.keeps_decorators, h.keeps_typeParameters,
    h.keeps_identifier, Keeps, h.other, List.forall_mem_cons, List.not_mem_nil, false_implies,
    implies_true, and_self]

theorem keeps_lambda : lambda.Keeps grammar (fun _ => True) ok := by
  refine ⟨?_, fun a _ => h.other rfl⟩
  simp only [keeps_all_iff, h.keeps_parameterRow, Keeps, List.forall_mem_cons, List.not_mem_nil,
    false_implies, implies_true, and_self]

theorem keeps_strings : strings.Keeps grammar (fun _ => True) ok := by
  have hkeeps : stringPhrase.Keeps grammar (fun _ => True) ok :=
    ⟨⟨trivial, h.string⟩, ⟨trivial, trivial, trivial, trivial⟩, h.formatted⟩
  refine ⟨hkeeps, ⟨hkeeps, hkeeps⟩, fun a b kind ha hb hjoint => ?_⟩
  cases hb with
  | absent => exact absurd hjoint Joint.noConfusion
  | present hmany =>
      -- Where strings follow, the joint makes a node of all of them.
      unfold growing at hjoint
      split at hjoint
      · exact absurd hjoint Joint.noConfusion
      · rw [← Joint.under.inj hjoint]
        exact h.concatenated a b ha hmany

/-- An expression that nothing follows is a statement. -/
theorem of_statementJoint {q : Phrase} (a b : List Tree) (kind : Kind)
    (ha : Reads grammar (.rule .expressions) a) (_hb : Reads grammar (.optional q) b)
    (hjoint : statementJoint (a.getLastD default) b = .under kind) : ok kind (a ++ b) := by
  unfold statementJoint at hjoint
  split_ifs at hjoint with hempty <;> cases hjoint
  · rw [List.isEmpty_iff.1 hempty, List.append_nil]
    exact h.expression a ha
  all_goals exact h.other rfl

/-- The rules keep the condition. -/
theorem keeps (name : Rule) : (grammar name).Keeps grammar (fun _ => True) ok := by
  have hitem : Makes ok itemJoint := makes_itemJoint (fun _ => h.other rfl) fun _ => h.other rfl
  have hentry : Makes ok entryJoint := makes_entryJoint (fun _ => h.other rfl) fun _ => h.other rfl
  have hslice : Makes ok sliceJoint := makes_sliceJoint fun _ => h.other rfl
  have htry : Makes ok tryJoint := makes_tryJoint (fun _ => h.other rfl) fun _ => h.other rfl
  cases name
  all_goals simp only [grammar, row, strictRow, rowRest, tupled, starred, starredOr,
    yielded, comparisonOperator, binaryOperator, comparison, awaited, operand,
    parenthesized, bracketed, braced, atom, arguments, subscript, trailer, augmentedSign,
    assignedValue, expressionStatement, dottedName, importStatement, importFrom, keywordStatement,
    typeAlias, classDef, elseClause, ifStatement, whileStatement, targets, forStatement,
    withStatement, tryStatement, matchStatement, captured, starPattern, patternItem,
    literalPattern, classPatternArguments, mappingPattern, parenthesizedPattern, closedPattern,
    h.keeps_smallStatements, h.keeps_opening, h.keeps_typeParameters, h.keeps_parameterRow,
    h.keeps_decorators, h.keeps_functionDef, h.keeps_lambda, h.keeps_strings, h.keeps_identifier,
    keeps_all_iff, any, many1, Keeps,
    List.forall_mem_cons, List.not_mem_nil, false_implies, implies_true, and_true, true_and]
  all_goals repeat' apply And.intro
  -- First what nothing is asked of, then the nodes that matter.
  all_goals first
    | exact fun _ => h.other rfl
    | exact fun _ _ => h.other rfl
    | exact under_of_makes (makes_growing _ fun _ => h.other rfl)
    | exact under_of_makes hitem
    | exact under_of_makes hentry
    | exact under_of_makes hslice
    | exact under_of_makes htry
    | exact under_of_makes makes_chainJoint
    | exact h.of_statementJoint
    | exact h.statements
    | exact fun _ _ _ _ _ => h.cases _ _ _ _ _ _
    | exact h.yield _
    | exact h.spec
    | exact h.paren
    | exact h.patternParen
    | exact h.constant
    | exact h.attributeName
    | exact h.definedClass

/-- The condition holds of all nodes of the tree of a file. -/
theorem everywhere {text : String} {m : Module} (hparse : Module.parse? text = some m) :
    m.tree.Everywhere ok :=
  (everywhere_of_keeps (fun _ => h.other rfl) (fun name _ => h.keeps name) _ _
    (parse?_reads hparse).1 trivial).1

end MetByRules

theorem metByRules_shaped : MetByRules Shaped where
  other {kind ts} hkind := by
    rw [Shaped, Shape.eq_def]
    split <;> first
      | exact absurd hkind.symm Bool.false_ne_true
      | exact trivial
  semicolon before after := by
    rw [Shaped, kinds_append, trivia, kinds_leaves, List.nil_append]
    exact kinds_leaves after
  string _ := shaped_string
  formatted _ := shaped_formatted
  spec _ := shaped_spec
  concatenated _ _ := shaped_concatenated
  paren _ := shaped_paren
  patternParen _ := shaped_patternParen
  expression _ := isSmall_expressions.length_kinds
  yield p _ := (IsSmall.node .yield p fun _ => rfl).length_kinds
  name _ _ := trivial
  constant _ _ := trivial
  attributeName _ _ := trivial
  definedFunction _ _ := trivial
  definedClass _ _ := trivial
  statements _ _ _ _ _ := shaped_statements
  cases _ _ _ _ _ _ := shaped_cases

end Chain

/-- All nodes of the tree of a file have these shapes. -/
theorem parse?_shaped {text : String} {m : Module} (h : Module.parse? text = some m) :
    m.tree.Everywhere Shaped := metByRules_shaped.everywhere h

end Source

/-! ### Trees with calls -/

open Source

/-- Calls leave the kinds of parts as they are. -/
theorem kinds_insertCallsAll (ts : List Tree) (calls : List (Option Tree)) :
    kinds (insertCallsAll ts calls).1 = kinds ts := by
  have hkinds : ∀ us, kinds us = (us.map Grammar.kindOf).filterMap id := fun us => by
    rw [kinds, List.filterMap_map, Function.id_comp]
  rw [hkinds, hkinds, map_insertCallsAll (fun _ _ _ => rfl)]

/-- Changing the last of trees in a row does not matter to a condition if changing each of
    them does not. -/
theorem everywhereAll_mapLast {ok : Kind → List Tree → Prop} {f : Tree → Tree} {ts : List Tree}
    (hf : ∀ t ∈ ts, (f t).Everywhere ok ↔ t.Everywhere ok) :
    Tree.EverywhereAll ok (mapLast f ts) ↔ Tree.EverywhereAll ok ts := by
  rcases List.eq_nil_or_concat ts with rfl | ⟨head, body, rfl⟩
  · exact Iff.rfl
  · rw [List.concat_eq_append] at hf ⊢
    rw [mapLast_concat, Tree.everywhereAll_append, Tree.everywhereAll_append]
    refine and_congr_right fun _ => and_congr_left fun _ => ?_
    exact hf body (List.mem_append_right _ List.mem_cons_self)

/-- A block that begins with a docstring gets its call after it. -/
theorem insertIntoBlock_of_docstring (call : Tree) {kind : Kind} {parts : List Tree}
    (ts : List Tree) (h : startsWithDocstring (.node kind parts) = true) :
    insertIntoBlock call (.node kind parts :: ts) =
      linesWithCall call (.node kind parts) ++ ts := by
  rw [insertIntoBlock, if_pos h]
  · rfl
  · exact fun l heq => Tree.noConfusion heq

/-- Any other block gets it before its first node. -/
theorem insertIntoBlock_of_not_docstring (call : Tree) {kind : Kind} {parts : List Tree}
    (ts : List Tree) (h : ¬ startsWithDocstring (.node kind parts) = true) :
    insertIntoBlock call (.node kind parts :: ts) =
      Hook.lineOf (Hook.callStatement call) :: .node kind parts :: ts := by
  rw [insertIntoBlock, if_neg h]
  exact fun l heq => Tree.noConfusion heq

/-- Lines are all that a call adds to the nodes of a block. -/
theorem kinds_insertIntoBlock (call : Tree) (ts : List Tree) :
    ∃ n, kinds (insertIntoBlock call ts) = List.replicate n .simpleLine ++ kinds ts := by
  induction ts with
  | nil => exact ⟨1, rfl⟩
  | cons t ts ih =>
      cases t with
      | leaf l => exact ih
      | node kind parts =>
          by_cases hstart : startsWithDocstring (.node kind parts) = true
          · have hkind := kind_of_startsWithDocstring hstart
            subst hkind
            rw [insertIntoBlock_of_docstring call ts hstart, kinds_append]
            unfold linesWithCall cutAfterDocstring
            dsimp only
            split
            · exact ⟨1, rfl⟩
            · exact ⟨2, rfl⟩
          · rw [insertIntoBlock_of_not_docstring call ts hstart]
            exact ⟨1, rfl⟩

/-- A condition on nodes that does not depend on calls: it asks nothing of the nodes that
    calls come with, nor of those whose parts calls are put between, but for blocks, where
    lines do not matter to it. -/
structure Indifferent (ok : Kind → List Tree → Prop) : Prop where
  function : ∀ kind ts, isFunction kind = true → ok kind ts
  line : ∀ ts, ok .simpleLine ts
  suite : ∀ ts, ok .suite ts
  leading : ok .leading []
  semicolon : ∀ ts, kinds ts = [] → ok .semicolon ts
  separator : ∀ ts, ok .separator ts
  sequenced : ∀ ts, ok .sequenced ts
  call : ∀ ts, ok .hookCall ts
  statement : ∀ ts, ok .expressionStatement [.node .hookCall ts]
  block : ∀ indent ts us n, kinds us = List.replicate n .simpleLine ++ kinds ts →
    (ok (.block indent) us ↔ ok (.block indent) ts)

namespace Indifferent

variable {ok : Kind → List Tree → Prop} (hok : Indifferent ok) {call : Tree} (hcall : IsCall call)

include hok

theorem everywhere_separator : EntryCoverage.separator.Everywhere ok :=
  ⟨hok.separator _, trivial, trivial, trivial⟩

include hcall in
theorem everywhere_call : call.Everywhere ok := by
  rcases hcall with ⟨ls, rfl⟩
  exact ⟨hok.call _, Tree.everywhereAll_leaves ls⟩

include hcall in
theorem everywhere_callStatement : (Hook.callStatement call).Everywhere ok := by
  refine ⟨?_, hok.everywhere_call hcall, trivial⟩
  rcases hcall with ⟨ls, rfl⟩
  exact hok.statement _

include hcall in
theorem everywhere_lineOf : (Hook.lineOf (Hook.callStatement call)).Everywhere ok :=
  ⟨hok.line _, ⟨hok.leading, trivial⟩, trivial, hok.everywhere_callStatement hcall, trivial,
    trivial⟩

/-- A semicolon has no nodes in it, so it can be left out. -/
theorem everywhere_semicolon {t : Tree} (ht : t.isKind .semicolon = true)
    (hshaped : t.Everywhere Shaped) : t.Everywhere ok := by
  cases t with
  | leaf l => trivial
  | node kind ts =>
      have hkind : kind = .semicolon := eq_of_beq ht
      subst hkind
      exact ⟨hok.semicolon ts hshaped.1, everywhereAll_of_kinds hshaped.1⟩

theorem everywhereAll_withoutSemicolon {ts : List Tree} (hshaped : Tree.EverywhereAll Shaped ts) :
    Tree.EverywhereAll ok ((afterSemicolon? ts).elim ts (·.2)) ↔ Tree.EverywhereAll ok ts := by
  cases hafter : afterSemicolon? ts with
  | none => exact Iff.rfl
  | some found =>
      rcases afterSemicolon?_eq_some hafter with ⟨hjoint, rfl⟩
      exact ⟨fun h => ⟨hok.everywhere_semicolon hjoint hshaped.1, h⟩, fun h => h.2⟩

/-- A docstring's line that is cut, with a call in between. -/
theorem everywhereAll_linesWithCall (hcall : IsCall call) {parts : List Tree}
    (hshaped : Tree.EverywhereAll Shaped parts) :
    Tree.EverywhereAll ok (linesWithCall call (.node .simpleLine parts)) ↔
      Tree.EverywhereAll ok parts := by
  have hline := hok.everywhere_lineOf hcall
  unfold linesWithCall cutAfterDocstring
  dsimp only
  split
  · -- The line stays as it is.
    exact ⟨fun h => h.1.2, fun h => ⟨⟨hok.line _, h⟩, hline, trivial⟩⟩
  · rw [← splitAfterFirst_fst_append_snd parts, Tree.everywhereAll_append] at hshaped
    have hrest := hok.everywhereAll_withoutSemicolon hshaped.2
    rw [← splitAfterFirst_fst_append_snd parts, Tree.everywhereAll_append, ← hrest,
      splitAfterFirst_fst_append_snd]
    constructor
    · rintro ⟨hfirst, -, hsecond, -⟩
      exact ⟨((Tree.everywhereAll_append _ _).1 hfirst.2).1, hsecond.2.2.2⟩
    · rintro ⟨hfirst, hsecond⟩
      exact ⟨⟨hok.line _, (Tree.everywhereAll_append _ _).2 ⟨hfirst, trivial, trivial⟩⟩, hline,
        ⟨hok.line _, ⟨hok.leading, trivial⟩, trivial, hsecond⟩, trivial⟩

theorem everywhereAll_insertIntoBlock (hcall : IsCall call) {ts : List Tree}
    (hshaped : Tree.EverywhereAll Shaped ts) :
    Tree.EverywhereAll ok (insertIntoBlock call ts) ↔ Tree.EverywhereAll ok ts := by
  have hline := hok.everywhere_lineOf hcall
  induction ts with
  | nil => exact ⟨fun _ => trivial, fun _ => ⟨hline, trivial⟩⟩
  | cons t ts ih =>
      cases t with
      | leaf l => exact and_congr_right fun _ => ih hshaped.2
      | node kind parts =>
          by_cases hstart : startsWithDocstring (.node kind parts) = true
          · have hkind := kind_of_startsWithDocstring hstart
            subst hkind
            rw [insertIntoBlock_of_docstring call ts hstart, Tree.everywhereAll_append,
              hok.everywhereAll_linesWithCall hcall hshaped.1.2]
            exact ⟨fun h => ⟨⟨hok.line _, h.1⟩, h.2⟩, fun h => ⟨h.1.2, h.2⟩⟩
          · rw [insertIntoBlock_of_not_docstring call ts hstart]
            exact ⟨fun h => h.2, fun h => ⟨hline, h⟩⟩

theorem everywhereAll_insertIntoSuite (hcall : IsCall call) {ts : List Tree} :
    Tree.EverywhereAll ok (insertIntoSuite call ts) ↔ Tree.EverywhereAll ok ts := by
  have hstatement := hok.everywhere_callStatement hcall
  have hgap := hok.everywhere_separator
  have hsplit := @Tree.everywhereAll_append ok (splitAfterFirst ts).1 (splitAfterFirst ts).2
  rw [splitAfterFirst_fst_append_snd] at hsplit
  unfold insertIntoSuite
  dsimp only
  split
  · exact ⟨fun h => h.2.2, fun h => ⟨hstatement, hgap, h⟩⟩
  · rw [hsplit]
    split
    · rw [Tree.everywhereAll_append]
      exact and_congr_right fun _ => ⟨fun h => h.2.2, fun h => ⟨hgap, hstatement, h⟩⟩
    · rename_i semicolon rest hafter
      rw [(afterSemicolon?_eq_some hafter).2]
      split <;> rw [Tree.everywhereAll_append]
      · exact and_congr_right fun _ => ⟨fun h => ⟨h.1, h.2.2.2⟩,
          fun h => ⟨h.1, hstatement, hgap, h.2⟩⟩
      · exact and_congr_right fun _ => ⟨fun h => ⟨h.1, h.2.2⟩, fun h => ⟨h.1, hstatement, h.2⟩⟩

include hcall

theorem everywhere_insertIntoBody (body : Tree) (hshaped : body.Everywhere Shaped) :
    ((insertIntoBody? call body).getD body).Everywhere ok ↔ body.Everywhere ok := by
  unfold insertIntoBody?
  split
  · rename_i indent ts
    rcases kinds_insertIntoBlock call ts with ⟨n, hkinds⟩
    exact and_congr (hok.block indent ts _ n hkinds)
      (hok.everywhereAll_insertIntoBlock hcall hshaped.2)
  · exact and_congr (iff_of_true (hok.suite _) (hok.suite _))
      (hok.everywhereAll_insertIntoSuite hcall)
  · exact Iff.rfl

theorem everywhere_sequenced (body : Tree) :
    (EntryCoverage.sequenced call body).Everywhere ok ↔ body.Everywhere ok :=
  ⟨fun h => h.2.2.2.2.2.1, fun h => ⟨hok.sequenced _, trivial, hok.everywhere_call hcall, trivial,
    trivial, h, trivial, trivial, trivial, trivial, trivial, trivial⟩⟩

/-- A function with a call meets the condition if its parts do. -/
theorem everywhere_insertCall {kind : Kind} {ts : List Tree} (hkind : isFunction kind = true)
    (hshaped : Tree.EverywhereAll Shaped ts) :
    (insertCall call kind ts).Everywhere ok ↔ Tree.EverywhereAll ok ts := by
  rw [insertCall_eq call kind ts hkind, Tree.Everywhere, and_iff_right (hok.function kind _ hkind)]
  unfold partsWithCall
  split
  · exact everywhereAll_mapLast fun t ht =>
      hok.everywhere_insertIntoBody hcall t ((Tree.everywhereAll_iff ts).1 hshaped t ht)
  · exact everywhereAll_mapLast fun t _ => hok.everywhere_sequenced hcall t

end Indifferent

/-- Lines before the statements of a block do not matter to its shape. -/
theorem shape_block_iff (indent : Option String) (ks : List Kind) (n : Nat) :
    Shape (.block indent) (List.replicate n .simpleLine ++ ks) ↔ Shape (.block indent) ks := by
  have hlines : ∀ k ∈ List.replicate n Kind.simpleLine, k ≠ .header ∧ k ≠ .footer := by
    intro k hk
    rw [List.eq_of_mem_replicate hk]
    exact ⟨by decide, by decide⟩
  constructor
  · rintro ⟨body, heq, hbody⟩
    -- A footer that comes last is none of the lines.
    rcases List.eq_nil_or_concat ks with rfl | ⟨ks, k, rfl⟩
    · rw [List.append_nil] at heq
      have hfooter : Kind.footer ∈ List.replicate n Kind.simpleLine := by
        rw [heq]
        exact List.mem_append_right _ List.mem_cons_self
      exact absurd rfl (hlines _ hfooter).2
    · rw [List.concat_eq_append, ← List.append_assoc] at heq
      rcases List.append_inj' heq rfl with ⟨rfl, hlast⟩
      refine ⟨ks, ?_, fun k hk => hbody k (List.mem_append_right _ hk)⟩
      rw [List.concat_eq_append, hlast]
  · rintro ⟨body, rfl, hbody⟩
    exact ⟨List.replicate n .simpleLine ++ body, (List.append_assoc _ _ _).symm,
      List.forall_mem_append.2 ⟨hlines, hbody⟩⟩

theorem indifferent_shaped : Indifferent Shaped where
  function kind ts hkind := by
    rcases (isFunction_iff kind).1 hkind with rfl | rfl <;> exact trivial
  line ts := trivial
  suite ts := trivial
  leading := trivial
  semicolon ts h := h
  separator ts := trivial
  sequenced ts := trivial
  call ts := trivial
  statement ts := Nat.le_refl 1
  block indent ts us n hkinds := by
    rw [Shaped, Shaped, hkinds]
    exact shape_block_iff indent (kinds ts) n

/-- Calls are left over, if any, as they were handed on. -/
def AllCalls (calls : List (Option Tree)) : Prop := ∀ call, some call ∈ calls → IsCall call

mutual

/-- A tree with calls has the shapes that it had. -/
theorem shaped_insertCalls : ∀ (t : Tree) (calls : List (Option Tree)), t.Everywhere Shaped →
    AllCalls calls →
      (insertCalls t calls).1.Everywhere Shaped ∧ AllCalls (insertCalls t calls).2
  | .leaf _, _, _, hcalls => ⟨trivial, hcalls⟩
  | .node kind ts, calls, h, hcalls => by
      rcases shaped_insertCallsAll ts calls h.2 hcalls with ⟨hparts, hleft⟩
      have hnode : Shaped kind (insertCallsAll ts calls).1 := by
        rw [Shaped, kinds_insertCallsAll]
        exact h.1
      rw [insertCalls]
      dsimp only
      split
      · rename_i hfunction
        split
        · rename_i call left heq
          rw [heq] at hleft
          exact ⟨(indifferent_shaped.everywhere_insertCall (hleft call List.mem_cons_self)
              ((isFunction_iff kind).2 hfunction) hparts).2 hparts,
            fun call' hcall' => hleft call' (List.mem_cons_of_mem _ hcall')⟩
        · rename_i left heq
          rw [heq] at hleft
          exact ⟨⟨hnode, hparts⟩, fun call hcall => hleft call (List.mem_cons_of_mem _ hcall)⟩
        · exact ⟨⟨hnode, hparts⟩, fun call hcall => absurd hcall List.not_mem_nil⟩
      · exact ⟨⟨hnode, hparts⟩, hleft⟩

theorem shaped_insertCallsAll : ∀ (ts : List Tree) (calls : List (Option Tree)),
    Tree.EverywhereAll Shaped ts → AllCalls calls →
      Tree.EverywhereAll Shaped (insertCallsAll ts calls).1 ∧ AllCalls (insertCallsAll ts calls).2
  | [], _, _, hcalls => ⟨trivial, hcalls⟩
  | t :: ts, calls, h, hcalls => by
      rcases shaped_insertCalls t calls h.1 hcalls with ⟨hfirst, hleft⟩
      rcases shaped_insertCallsAll ts _ h.2 hleft with ⟨hrest, hleft'⟩
      exact ⟨⟨hfirst, hrest⟩, hleft'⟩

end

end EntryCoverage
