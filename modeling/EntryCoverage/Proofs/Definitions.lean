import EntryCoverage.Proofs.Shapes

/-!
# Names and Definitions

How names and definitions are written in a file.

A name is one word, and no dot is in it; the lexer sees to that. So is a string, which may have
any characters. An attribute is a dot and a name.
A definition begins with the lines above it and its decorators. Then a word says what is
defined and its name follows, which is therefore the first name among its parts, whatever the
decorators say. Parameters, bases and annotations stand between the name and the body, and
the body comes last.

`Named` says this of a node. It holds of all nodes in the tree of a file (`parse?_named`), so
what a definition is called there is what stands behind its word (`Defines.definedName_eq`).

## Main definitions

* `IsWord`: Parts are one word.
* `Defines`: Parts define a name.
* `Named`: A node is written as names, strings, attributes and definitions are.

## Theorems

* `Defines.definedName_eq`: What a definition is called.
* `parse?_named`: All nodes of the tree of a file are written like this.
-/

namespace EntryCoverage

namespace Source

open Peg

/-- Parts are one word, perhaps behind blanks. -/
def IsWord (x : String) (ts : List Tree) : Prop :=
  ∃ before, before.all Leaf.isTrivia = true ∧ ts = trivia before ++ [.word x]

/-- What may stand before the word of a definition. -/
def Kind.isPrelude : Kind → Bool
  | .leading | .decorator | .gap => true
  | _ => false

/-- What may stand between the name of a definition and its body. -/
def Kind.isSignature : Kind → Bool
  | .typeParameters | .parameters | .typeNote | .call => true
  | _ => false

/-- Parts define a name: it stands behind a word, and the body comes last. -/
def Defines (word x : String) (ts : List Tree) : Prop :=
  ∃ before blanks inner after body,
    ts = before ++ .word word :: (trivia blanks ++ .node .name inner :: (after ++ [body])) ∧
      (∀ kind ∈ kinds before, kind.isPrelude = true) ∧ IsWord x inner ∧
        (∀ kind ∈ kinds after, kind.isSignature = true) ∧ Builder.isBody body = true

/-- A node is written as names, strings, attributes and definitions are, if it is one of
    them. -/
def Named : Kind → List Tree → Prop
  | .name, ts => ∃ x, IsWord x ts ∧ '.' ∉ x.toList
  | .string, ts => ∃ x, IsWord x ts
  | .attribute, ts => ∃ inner x, Grammar.nodes ts = [.node .name inner] ∧ IsWord x inner
  | .functionDef, ts => ∃ x, Defines "def" x ts
  | .classDef, ts => ∃ x, Defines "class" x ts
  | _, _ => True

/-! ### Parts -/

theorem nodes_append (s t : List Tree) :
    Grammar.nodes (s ++ t) = Grammar.nodes s ++ Grammar.nodes t := List.filter_append _ _

/-- Blanks are no nodes. -/
theorem nodes_trivia (before : List Leaf) : Grammar.nodes (trivia before) = [] := by
  rw [trivia, Grammar.nodes, List.filter_map, List.map_eq_nil_iff, List.filter_eq_nil_iff]
  exact fun _ _ => Bool.false_ne_true

theorem mem_nodes {kind : Kind} {us ts : List Tree} :
    .node kind us ∈ Grammar.nodes ts ↔ Tree.node kind us ∈ ts := by
  rw [Grammar.nodes, List.mem_filter]
  exact and_iff_left rfl

/-- What holds of all trees in a row holds of the nodes among them. -/
theorem Tree.EverywhereAll.nodes {ok : Kind → List Tree → Prop} {ts : List Tree}
    (h : EverywhereAll ok ts) : EverywhereAll ok (Grammar.nodes ts) :=
  (everywhereAll_iff _).2 fun _ ht => h.of_mem (List.mem_of_mem_filter ht)

/-- A word is the first one among its parts. -/
theorem IsWord.firstWord?_eq {x : String} {ts : List Tree} (h : IsWord x ts) :
    Naming.firstWord? ts = some x := by
  rcases h with ⟨before, hbefore, rfl⟩
  induction before with
  | nil => rfl
  | cons l ls ih =>
      rw [List.all_cons, Bool.and_eq_true] at hbefore
      cases l with
      | token text => exact absurd hbefore.1 Bool.false_ne_true
      | blank | comment | newline | margin => exact ih hbefore.2

/-- Where there are no names, a definition is not called anything. -/
theorem definedName_append {before : List Tree} (h : .name ∉ kinds before) (ts : List Tree) :
    Naming.definedName (before ++ ts) = Naming.definedName ts := by
  unfold Naming.definedName
  rw [List.findSome?_append, (List.findSome?_eq_none_iff (l := before)).2, Option.none_or]
  intro t ht
  split
  · exact absurd (mem_kinds.2 ⟨_, ht⟩) h
  · rfl

/-- A definition is called what its word is followed by. -/
theorem Defines.definedName_eq {word x : String} {ts : List Tree} (h : Defines word x ts) :
    Naming.definedName ts = x := by
  rcases h with ⟨before, blanks, inner, after, body, rfl, hprelude, hinner, -, -⟩
  -- Names are searched from the front, and there are none before the one behind the word.
  have hbefore : .name ∉ kinds before := fun hname => absurd (hprelude _ hname) (by decide)
  have hblanks : .name ∉ kinds (.word word :: trivia blanks) := by
    rw [show kinds (.word word :: trivia blanks) = kinds (trivia blanks) from rfl, trivia,
      kinds_leaves]
    exact List.not_mem_nil
  rw [definedName_append hbefore, ← List.cons_append, definedName_append hblanks,
    Naming.definedName, List.findSome?_cons]
  simp only [hinner.firstWord?_eq, Option.getD_some]

/-! ### Reading -/

section Read

open Grammar

/-- What is read of a name is one word without dots. -/
theorem exists_isWord {a : List Tree} (h : Reads grammar (.ofSort .name) a) :
    ∃ x, IsWord x a ∧ '.' ∉ x.toList := by
  cases h with
  | ofSort before _ text hbefore hdot => exact ⟨text, ⟨before, hbefore, rfl⟩, hdot rfl⟩

/-- What is read of a string is one word. -/
theorem exists_isWord_string {a : List Tree} (h : Reads grammar (.ofSort .string) a) :
    ∃ x, IsWord x a := by
  cases h with
  | ofSort before _ text hbefore _ => exact ⟨text, before, hbefore, rfl⟩

/-- What is read of a constant is one of three words. -/
theorem exists_isWord_constant {a : List Tree}
    (h : Reads grammar (any ["True", "False", "None"]) a) : ∃ x, IsWord x a ∧ '.' ∉ x.toList := by
  have hword : ∀ text : String, '.' ∉ text.toList → Reads grammar (.word text) a →
      ∃ x, IsWord x a ∧ '.' ∉ x.toList := by
    intro text hdot hread
    cases hread with
    | word before _ hbefore => exact ⟨text, ⟨before, hbefore, rfl⟩, hdot⟩
  rcases reads_any (List.cons_ne_nil _ _) h with ⟨p, hp, hread⟩
  simp only [List.mem_cons, List.not_mem_nil, or_false] at hp
  rcases hp with rfl | rfl | rfl
  · exact hword _ (by decide) hread
  · exact hword _ (by decide) hread
  · exact hword _ (by decide) hread

/-- What is read of an attribute has one node, which is a name. -/
theorem named_attribute {a : List Tree} (h : Reads grammar (all [".", identifier]) a) :
    Named .attribute a := by
  rcases reads_all_cons h with ⟨b, c, rfl, hdot, hc⟩
  rcases reads_all_cons hc with ⟨d, e, rfl, hname, he⟩
  cases he
  cases hdot with
  | word before _ =>
      cases hname with
      | node blanks hinner =>
          rcases exists_isWord hinner with ⟨x, hx, -⟩
          -- The dot and the blanks are no nodes.
          refine ⟨_, x, ?_, hx⟩
          rw [nodes_append, nodes_append, nodes_append, nodes_append, nodes_trivia, nodes_trivia]
          rfl

/-- A definition is read in three parts, if what it begins with and what follows its name is
    of the right kinds. -/
theorem exists_defines (word : String) (ps qs : List Phrase)
    (hps : ∀ kind : Kind, ¬ kind.isPrelude = true → Avoids grammar kind (all ps))
    (hqs : ∀ kind : Kind, ¬ kind.isSignature = true → Avoids grammar kind (all qs)) {a : List Tree}
    (h : Reads grammar (all (ps ++ .word word :: identifier :: (qs ++ [.rule .suite]))) a) :
    ∃ x, Defines word x a := by
  rcases reads_all_append h with ⟨before, b, rfl, hbefore, hb⟩
  rcases reads_all_cons hb with ⟨c, d, rfl, hword, hd⟩
  rcases reads_all_cons hd with ⟨e, f, rfl, hname, hf⟩
  rcases reads_all_concat hf with ⟨after, g, rfl, hafter, hsuite⟩
  rcases reads_suite hsuite with ⟨more, body, rfl, hbody⟩
  cases hword with
  | word blanks _ =>
      cases hname with
      | node blanks' hinner =>
          rcases exists_isWord hinner with ⟨x, hx, -⟩
          -- The blanks before the word belong to what stands before it, and those before the
          -- body to what stands between it and the name.
          refine ⟨x, before ++ trivia blanks, blanks', _, after ++ trivia more, body, ?_, ?_, hx,
            ?_, hbody⟩
          · simp only [List.append_assoc, List.cons_append, List.nil_append]
          · rw [kinds_append, trivia, kinds_leaves, List.append_nil]
            exact kinds_of_avoids hps hbefore
          · rw [kinds_append, trivia, kinds_leaves, List.append_nil]
            exact kinds_of_avoids hqs hafter

/-- A kind that is not one of some is another one than each of them. -/
theorem Kind.ne_of_not {among : Kind → Bool} {kind : Kind} (hkind : ¬ among kind = true)
    (kind' : Kind) (h : among kind' = true) : kind' ≠ kind := by
  rintro rfl
  exact hkind h

theorem avoids_decorators {kind : Kind} (hkind : ¬ kind.isPrelude = true) :
    Avoids grammar kind decorators := by
  have hne := Kind.ne_of_not hkind
  refine .all ?_
  simp only [List.forall_mem_cons, List.not_mem_nil, false_implies, implies_true, and_true]
  refine ⟨.linesAbove (hne _ rfl), .optional (.all ?_), .lineStart⟩
  simp only [List.forall_mem_cons, List.not_mem_nil, false_implies, implies_true, and_true]
  refine ⟨.node (hne _ rfl), .many (.node (hne _ rfl)), .linesAbove (hne _ rfl)⟩

theorem exists_defines_function {a : List Tree} (h : Reads grammar functionPhrase a) :
    ∃ x, Defines "def" x a := by
  refine exists_defines "def" [decorators, .optional "async"] [.optional typeParameters, "(",
    .optional (.rule .parameters), ")", .optional (.node .typeNote (all ["->", .rule .expression])),
    ":"] (fun kind hkind => .all ?_) (fun kind hkind => .all ?_) h
  · simp only [List.forall_mem_cons, List.not_mem_nil, false_implies, implies_true, and_true]
    exact ⟨avoids_decorators hkind, .optional (.word _)⟩
  · have hne := Kind.ne_of_not hkind
    simp only [List.forall_mem_cons, List.not_mem_nil, false_implies, implies_true, and_true]
    exact ⟨.optional (.node (hne _ rfl)), .word _, .optional (.rule (.such (.node (hne _ rfl)))),
      .word _, .optional (.node (hne _ rfl)), .word _⟩

theorem exists_defines_class {a : List Tree} (h : Reads grammar classPhrase a) :
    ∃ x, Defines "class" x a := by
  refine exists_defines "class" [decorators] [.optional typeParameters,
    .optional (arguments basesInOrder), ":"] (fun kind hkind => .all ?_)
    (fun kind hkind => .all ?_) h
  · exact List.forall_mem_singleton.2 (avoids_decorators hkind)
  · have hne := Kind.ne_of_not hkind
    simp only [List.forall_mem_cons, List.not_mem_nil, false_implies, implies_true, and_true]
    exact ⟨.optional (.node (hne _ rfl)), .optional (.such (.node (hne _ rfl))), .word _⟩

theorem metByRules_named : MetByRules Named where
  other {kind ts} hkind := by
    rw [Named.eq_def]
    split <;> first
      | exact absurd hkind.symm Bool.false_ne_true
      | exact trivial
  semicolon _ _ := trivial
  string _ := exists_isWord_string
  formatted _ _ := trivial
  spec _ _ := trivial
  concatenated _ _ _ _ := trivial
  paren _ _ := trivial
  patternParen _ _ := trivial
  expression _ _ := trivial
  yield _ _ _ := trivial
  name _ := exists_isWord
  constant _ := exists_isWord_constant
  attributeName _ := named_attribute
  definedFunction _ := exists_defines_function
  definedClass _ := exists_defines_class
  statements _ _ _ _ _ _ := trivial
  cases _ _ _ _ _ _ _ := trivial

end Read

/-- All nodes of the tree of a file are written as names, strings, attributes and definitions
    are. -/
theorem parse?_named {text : String} {m : Module} (h : Module.parse? text = some m) :
    m.tree.Everywhere Named := metByRules_named.everywhere h

end Source

end EntryCoverage
