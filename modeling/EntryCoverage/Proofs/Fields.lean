import EntryCoverage.Proofs.Shapes
import Mathlib.Data.List.Infix

/-!
# Literals with Fields

What stands in the fields of literals, and which calls are put there.

Some literals have fields between their texts: an expression, what it is converted to, and how
it is written, which is text with fields again. The quotes around such a literal may come
again in its fields only since recent versions of the language, so `HasCleanFields` says of a
tree that they do not. This is about expressions as they are written, with all that is nested
in them. `FieldAt` says where they are. Both can be computed.

Fields hold expressions, and the rules for expressions do not lead to statements
(`expressions_keep`). So the only functions in them are lambdas.

Calls come in one row for the functions of a tree. To say what becomes of a node somewhere in
it, one has to know which of them it gets. That is its `Share`, and it is found by the ways
to the functions: those of a part of the tree are those of the tree which begin with the way
to the part.

## Main definitions

* `DefinesNothing`: No function is defined in a literal.
* `FieldAt`: The expressions in the fields of a literal, by the ways to them.
* `Tree.HasCleanFields`: No quotes around a literal are in its fields.
* `Tree.InField`: A way leads into a field of a literal with given quotes.
* `Share`: The calls that a tree in a row gets.

## Theorems

* `parse?_definesNothing`: No literal of a file defines a function.
* `cleanFields_iff`: Whether fields are clean can be seen from the nodes in a literal.
* `exists_share`: Each tree in a row gets its share.
* `fieldAt_insertCallsAll`, `eq_of_fieldAt_insertCallsAll`: What is in the fields of a literal
  with calls is what was there, with its share of the calls.
-/

namespace EntryCoverage

namespace Source

/-! ### Expressions -/

/-- A node is no definition of a function. -/
def NoDefinition (kind : Kind) (_ : List Tree) : Prop := kind ≠ .functionDef

/-- No function is defined in a literal with fields. -/
def DefinesNothing (kind : Kind) (ts : List Tree) : Prop :=
  kind = .formatted → Tree.EverywhereAll NoDefinition ts

section Read

open Grammar Peg

/-- The rules that expressions are read by. -/
def IsExpressionRule : Rule → Prop
  | .expression | .expressions | .named | .disjunction | .inversion | .arithmetic | .primary
  | .clauses | .literalPiece => True
  | _ => False

/-- No function is defined in an expression. -/
theorem expressions_keep (name : Rule) (h : IsExpressionRule name) :
    (grammar name).Keeps grammar IsExpressionRule NoDefinition := by
  have hgrowing : ∀ kind, kind ≠ .functionDef → Makes NoDefinition (growing kind) :=
    fun kind hne => makes_growing kind fun _ => hne
  have hitem : Makes NoDefinition itemJoint := makes_itemJoint (fun _ => nofun) fun _ => nofun
  have hentry : Makes NoDefinition entryJoint := makes_entryJoint (fun _ => nofun) fun _ => nofun
  have hslice : Makes NoDefinition sliceJoint := makes_sliceJoint fun _ => nofun
  cases name
  all_goals try exact absurd h id
  all_goals simp only [grammar, row, rowRest, tupled, identifier, starred, starredOr, parameterRow,
    yielded, comparisonOperator, binaryOperator, comparison, awaited, operand, strings, lambda,
    parenthesized, bracketed, braced, atom, arguments, subscript, trailer, assignedValue, targets,
    keeps_all_iff, any, many1, Keeps, IsExpressionRule, Bool.false_eq_true, if_false,
    List.forall_mem_cons, List.not_mem_nil, false_implies, implies_true, and_true, true_and]
  all_goals repeat' apply And.intro
  all_goals first
    | exact fun _ _ => Kind.noConfusion
    | exact fun _ _ kind _ _ h => hitem _ _ kind h _
    | exact fun _ _ kind _ _ h => hentry _ _ kind h _
    | exact fun _ _ kind _ _ h => hslice _ _ kind h _
    | exact fun _ _ kind _ _ h => hgrowing _ (by decide) _ _ kind h _

/-- The fields of a literal hold expressions. -/
theorem definesNothing_formatted {a : List Tree} (h : Reads grammar formattedPhrase a) :
    DefinesNothing .formatted a := fun _ =>
  everywhere_of_keeps (fun _ => Kind.noConfusion) expressions_keep _ a h
    ⟨trivial, trivial, trivial, trivial⟩

/-- Nothing is asked of other nodes. -/
theorem metByRules_definesNothing : MetByRules DefinesNothing where
  other hkind heq := by
    rw [heq] at hkind
    exact absurd hkind (by decide)
  semicolon _ _ := nofun
  string _ _ := nofun
  formatted _ := definesNothing_formatted
  spec _ _ := nofun
  concatenated _ _ _ _ := nofun
  paren _ _ := nofun
  patternParen _ _ := nofun
  expression _ _ := nofun
  yield _ _ _ := nofun
  name _ _ := nofun
  constant _ _ := nofun
  attributeName _ _ := nofun
  definedFunction _ _ := nofun
  definedClass _ _ := nofun
  statements _ _ _ _ _ _ := nofun
  cases _ _ _ _ _ _ _ := nofun

end Read

/-- No function is defined in the literals with fields of a file. -/
theorem parse?_definesNothing {text : String} {m : Module} (h : Module.parse? text = some m) :
    m.tree.Everywhere DefinesNothing := metByRules_definesNothing.everywhere h

/-! ### Fields -/

/-- The text of quotes. -/
def Lexeme.Quotes.text (q : Lexeme.Quotes) : List Char :=
  List.replicate (if q.triple then 3 else 1) q.mark

/-- The quotes around a literal, given its parts. -/
def quotesOf? (ts : List Tree) : Option Lexeme.Quotes :=
  (Naming.firstWord? ts).bind fun start =>
    (Lexeme.openingQuotes? (start.toList.dropWhile (!Lexeme.isQuote ·))).map (·.1)

/-- Quotes open with a sign for quotes. -/
theorem Lexeme.isQuote_of_openingQuotes? {cs : List Char}
    {result : Lexeme.Quotes × List Char × List Char} (h : openingQuotes? cs = some result) :
    isQuote result.1.mark = true := by
  unfold openingQuotes? at h
  split at h
  · split_ifs at h with hquote hlong
    all_goals
      cases h
      rwa [Bool.not_eq_true', Bool.not_eq_false] at hquote
  · split_ifs at h with hquote
    cases h
    exact hquote
  · simp only [reduceCtorEq] at h

theorem isQuote_of_quotesOf? {ts : List Tree} {q : Lexeme.Quotes} (h : quotesOf? ts = some q) :
    Lexeme.isQuote q.mark = true := by
  rcases Option.bind_eq_some_iff.1 h with ⟨start, -, hopening⟩
  rcases Option.map_eq_some_iff.1 hopening with ⟨result, hresult, rfl⟩
  exact Lexeme.isQuote_of_openingQuotes? hresult

/-- The expressions in the fields among the parts of a literal, by the ways to them. What
    says how a value is written may have fields of its own. -/
inductive FieldAt : List Tree → Way → Tree → Prop
  | expression {ts parts us : List Tree} {i j : Nat} {kind : Kind}
      (hfield : ts[i]? = some (.node .field parts)) (hpart : parts[j]? = some (.node kind us))
      (hconversion : kind ≠ .conversion) (hspec : kind ≠ .spec) : FieldAt ts [i, j] (.node kind us)
  | spec {ts parts us : List Tree} {i j : Nat} {w : Way} {t : Tree}
      (hfield : ts[i]? = some (.node .field parts)) (hpart : parts[j]? = some (.node .spec us))
      (h : FieldAt us w t) : FieldAt ts (i :: j :: w) t

/-- A way leads to one expression. -/
theorem FieldAt.unique {ts : List Tree} {w : Way} {t t' : Tree} (h : FieldAt ts w t)
    (h' : FieldAt ts w t') : t = t' := by
  induction h with
  | expression hfield hpart hconversion hspec =>
      cases h' with
      | expression hfield' hpart' _ _ =>
          cases hfield.symm.trans hfield'
          exact Option.some.inj (hpart.symm.trans hpart')
      | spec hfield' hpart' h' => cases h'
  | spec hfield hpart h ih =>
      cases h' with
      | expression => cases h
      | spec hfield' hpart' h' =>
          cases hfield.symm.trans hfield'
          cases hpart.symm.trans hpart'
          exact ih h'

/-- What holds of all nodes of a literal holds of those in its fields. -/
theorem FieldAt.everywhere {ok : Kind → List Tree → Prop} {ts : List Tree} {w : Way} {t : Tree}
    (h : FieldAt ts w t) (hok : Tree.EverywhereAll ok ts) : t.Everywhere ok := by
  have hchild : ∀ {us : List Tree} {i : Nat} {u : Tree}, Tree.EverywhereAll ok us →
      us[i]? = some u → u.Everywhere ok := fun h hu =>
    (Tree.everywhereAll_iff _).1 h _ (List.mem_of_getElem? hu)
  induction h with
  | expression hfield hpart _ _ => exact hchild (hchild hok hfield).2 hpart
  | spec hfield hpart _ ih => exact ih (hchild (hchild hok hfield).2 hpart).2

/-- What a way among the parts of a literal leads to, if that is the expression in a field. -/
def fieldAt? (ts : List Tree) : Way → Option Tree
  | i :: j :: w =>
      match ts[i]? with
      | some (.node .field parts) =>
          match parts[j]?, w with
          | some (.node .spec us), w => fieldAt? us w
          | some (.node kind us), [] => if kind = .conversion then none else some (.node kind us)
          | _, _ => none
      | _ => none
  | _ => none

theorem fieldAt?_eq_some_iff {ts : List Tree} {w : Way} {t : Tree} :
    fieldAt? ts w = some t ↔ FieldAt ts w t := by
  constructor
  · intro h
    fun_induction fieldAt? ts w with
    | case1 ts i j parts hfield us w hpart ih => exact .spec hfield hpart (ih h)
    | case2 => simp only [reduceCtorEq] at h
    | case3 ts i j parts hfield kind us hspec hpart hconversion =>
        cases h
        exact .expression hfield hpart hconversion hspec
    | case4 => simp only [reduceCtorEq] at h
    | case5 => simp only [reduceCtorEq] at h
    | case6 => simp only [reduceCtorEq] at h
  · intro h
    induction h with
    | expression hfield hpart hconversion hspec =>
        rw [fieldAt?, hfield]
        simp only [hpart, if_neg hconversion]
    | spec hfield hpart _ ih =>
        rw [fieldAt?, hfield]
        simp only [hpart]
        exact ih

/-- An expression in a field is a node in the literal. -/
theorem FieldAt.mem_postorder {ts : List Tree} {w : Way} {t : Tree} (h : FieldAt ts w t)
    (kind : Kind) : w ∈ (Tree.node kind ts).postorder := by
  rw [Tree.mem_postorder]
  have hchild : ∀ {kind us} {i : Nat} {u : Tree} (v : Way), us[i]? = some u →
      (Tree.node kind us).at? (i :: v) = u.at? v := fun v hu => by
    rw [Tree.at?, Tree.children, hu, Option.bind_some]
  induction h generalizing kind with
  | expression hfield hpart _ _ => exact ⟨_, _, by rw [hchild _ hfield, hchild _ hpart, Tree.at?]⟩
  | spec hfield hpart _ ih =>
      rw [hchild _ hfield, hchild _ hpart]
      exact ih .spec

/-- The quotes around a literal are in none of the expressions in its fields. -/
def CleanFields (layout : Layout) (kind : Kind) (ts : List Tree) : Prop :=
  kind = .formatted → ∀ q, quotesOf? ts = some q →
    ∀ w e, FieldAt ts w e → ¬ q.text <:+: (e.render layout "").toList

/-- Expressions in fields are nodes, so only the ways to those have to be tried. -/
theorem cleanFields_iff (layout : Layout) (kind : Kind) (ts : List Tree) :
    CleanFields layout kind ts ↔ (kind = .formatted → ∀ q ∈ quotesOf? ts,
      ∀ w ∈ (Tree.node kind ts).postorder, ∀ e ∈ fieldAt? ts w,
        ¬ q.text <:+: (e.render layout "").toList) := by
  refine forall_congr' fun _ => forall_congr' fun q => forall_congr' fun _ => ?_
  constructor
  · exact fun h w _ e he => h w e (fieldAt?_eq_some_iff.1 he)
  · exact fun h w e he => h w (he.mem_postorder kind) e (fieldAt?_eq_some_iff.2 he)

instance (layout : Layout) (kind : Kind) (ts : List Tree) :
    Decidable (CleanFields layout kind ts) := decidable_of_iff' _ (cleanFields_iff layout kind ts)

namespace Tree

mutual

/-- Whether a condition that can be decided holds of all nodes of a tree can be decided. -/
def decideEverywhere (ok : Kind → List Tree → Prop) [∀ kind ts, Decidable (ok kind ts)] :
    ∀ t : Tree, Decidable (t.Everywhere ok)
  | .leaf _ => isTrue trivial
  | .node kind ts => @instDecidableAnd (ok kind ts) _ _ (decideEverywhereAll ok ts)

def decideEverywhereAll (ok : Kind → List Tree → Prop) [∀ kind ts, Decidable (ok kind ts)] :
    ∀ ts : List Tree, Decidable (EverywhereAll ok ts)
  | [] => isTrue trivial
  | t :: ts => @instDecidableAnd _ _ (decideEverywhere ok t) (decideEverywhereAll ok ts)

end

/-- This is so for all literals in a tree. -/
def HasCleanFields (layout : Layout) (t : Tree) : Prop := t.Everywhere (CleanFields layout)

instance (layout : Layout) (t : Tree) : Decidable (t.HasCleanFields layout) :=
  decideEverywhere (CleanFields layout) t

/-- A way leads into an expression in a field of a literal with these quotes. -/
def InField (q : Lexeme.Quotes) (t : Tree) (w : Way) : Prop :=
  ∃ u v x ts e, w = u ++ (v ++ x) ∧ t.at? u = some (.node .formatted ts) ∧
    quotesOf? ts = some q ∧ FieldAt ts v e

/-- The field is in a child, or it is one of the node. -/
theorem inField_cons_iff {q : Lexeme.Quotes} {kind : Kind} {ts : List Tree} {i : Nat} {w : Way} :
    (Tree.node kind ts).InField q (i :: w) ↔
      (∃ t, ts[i]? = some t ∧ t.InField q w) ∨
        kind = .formatted ∧ quotesOf? ts = some q ∧ ∃ v x e, i :: w = v ++ x ∧ FieldAt ts v e := by
  constructor
  · rintro ⟨u, v, x, us, e, hw, hat, hquotes, hfield⟩
    cases u with
    | nil =>
        cases hat
        exact .inr ⟨rfl, hquotes, v, x, e, hw, hfield⟩
    | cons j u =>
        rcases List.cons.inj hw with ⟨rfl, rfl⟩
        rw [at?, Option.bind_eq_some_iff] at hat
        rcases hat with ⟨t, ht, hat⟩
        exact .inl ⟨t, ht, u, v, x, us, e, rfl, hat, hquotes, hfield⟩
  · rintro (⟨t, ht, u, v, x, us, e, rfl, hat, hquotes, hfield⟩ | ⟨rfl, hquotes, v, x, e, hw, hfield⟩)
    · refine ⟨i :: u, v, x, us, e, rfl, ?_, hquotes, hfield⟩
      rw [at?, children, ht, Option.bind_some, hat]
    · exact ⟨[], v, x, ts, e, hw, rfl, hquotes, hfield⟩

/-- A way with no steps leads into no field. -/
theorem not_inField_nil (q : Lexeme.Quotes) (t : Tree) : ¬ t.InField q [] := by
  rintro ⟨u, v, x, ts, e, hnil, -, -, hfield⟩
  rcases List.append_eq_nil_iff.1 hnil.symm with ⟨-, hnil⟩
  cases hfield <;> exact List.cons_ne_nil _ _ hnil

end Tree

end Source

open Source

/-! ### Shares -/

/-- What a tree in a row, or further down in it, gets of the calls for the functions of the
    row: those for its own functions. -/
structure Share (ways : List Way) (used : List (Option Tree)) (u : Way) (t : Tree)
    (own : List (Option Tree)) : Prop where
  length : own.length = functionCount t
  mem : ∀ w call, (u ++ w, call) ∈ ways.zip used ↔ (w, call) ∈ t.functionWays.zip own

/-- Each call that a tree gets is for one of its functions. -/
theorem Share.exists_mem_zip {ways : List Way} {used own : List (Option Tree)} {u : Way} {t : Tree}
    (h : Share ways used u t own) {call : Option Tree} (hcall : call ∈ own) :
    ∃ w, (w, call) ∈ t.functionWays.zip own := by
  rcases List.getElem?_of_mem hcall with ⟨i, hi⟩
  have hlt : i < t.functionWays.length := by
    rw [Tree.length_functionWays, ← h.length]
    exact (List.getElem?_eq_some_iff.1 hi).1
  exact ⟨t.functionWays[i], List.mem_of_getElem? (List.getElem?_zip_eq_some.2
    ⟨List.getElem?_eq_getElem hlt, hi⟩)⟩

/-- The calls that a tree gets are among those for the row. -/
theorem Share.subset {ways : List Way} {used own : List (Option Tree)} {u : Way} {t : Tree}
    (h : Share ways used u t own) : own ⊆ used := by
  intro call hcall
  rcases h.exists_mem_zip hcall with ⟨w, hw⟩
  exact (List.of_mem_zip ((h.mem w call).2 hw)).2

/-- From a row to a tree in it, and from there to what is further down. -/
theorem Share.trans {ways : List Way} {used own inner : List (Option Tree)} {u v : Way} {s t : Tree}
    (h : Share ways used u s own) (hinner : Share s.functionWays own v t inner) :
    Share ways used (u ++ v) t inner where
  length := hinner.length
  mem w call := by rw [List.append_assoc, h.mem, hinner.mem]

/-- Each tree in a row gets its share of the calls. -/
theorem exists_share (i : Nat) {ts : List Tree} {used : List (Option Tree)}
    (hlength : used.length = functionCountAll ts) {j : Nat} {t : Tree} (ht : ts[j]? = some t) :
    ∃ own, Share (Tree.functionWaysAll i ts) used [i + j] t own ∧
      (insertCallsAll ts used).1[j]? = some (insertCalls t own).1 := by
  induction ts generalizing i j used with
  | nil => simp only [List.getElem?_nil, reduceCtorEq] at ht
  | cons t' ts ih =>
      rcases exists_append_of_length hlength with ⟨first, second, rfl, hfirst, hsecond⟩
      have hsplit : (t'.functionWays.map (i :: ·)).length = first.length := by
        rw [List.length_map, Tree.length_functionWays, hfirst]
      rw [Tree.functionWaysAll, insertCallsAll_cons t' ts first second hfirst]
      cases j with
      | zero =>
          cases ht
          refine ⟨first, ⟨hfirst, fun w call => ?_⟩, rfl⟩
          rw [List.zip_append hsplit, List.mem_append, List.zip_map_left, List.mem_map]
          constructor
          · rintro (⟨⟨v, call'⟩, hmem, heq⟩ | hmem)
            · cases heq
              exact hmem
            · -- Ways into the other trees begin with greater numbers.
              rcases Tree.exists_of_mem_functionWaysAll (List.of_mem_zip hmem).1 with ⟨k, v, heq⟩
              rw [List.singleton_append, List.cons.injEq] at heq
              omega
          · exact fun hmem => .inl ⟨(w, call), hmem, rfl⟩
      | succ j =>
          rcases ih (i + 1) hsecond ht with ⟨own, hshare, hget⟩
          refine ⟨own, ⟨hshare.length, fun w call => ?_⟩, hget⟩
          rw [← hshare.mem, List.zip_append hsplit, List.mem_append, List.zip_map_left, List.mem_map,
            Nat.add_assoc, Nat.add_comm 1 j]
          refine or_iff_right ?_
          rintro ⟨⟨v, call'⟩, -, heq⟩
          simp only [Prod.map_apply, id_eq, List.singleton_append, Prod.mk.injEq, List.cons.injEq]
            at heq
          omega

/-! ### Fields with calls -/

/-- Among parts with calls, nodes are where nodes of their kinds were. -/
theorem exists_of_getElem?_insertCallsAll {ts us : List Tree} {calls : List (Option Tree)} {j : Nat}
    {kind : Kind} (h : (insertCallsAll ts calls).1[j]? = some (.node kind us)) :
    ∃ us, ts[j]? = some (.node kind us) := by
  have hkinds := map_insertCallsAll (f := Grammar.kindOf) (fun _ _ _ => rfl) ts calls
  have hget : (ts.map Grammar.kindOf)[j]? = some (some kind) := by
    rw [← hkinds, List.getElem?_map, h]
    rfl
  rw [List.getElem?_map, Option.map_eq_some_iff] at hget
  rcases hget with ⟨t, ht, hkind⟩
  cases t with
  | leaf l => simp only [Grammar.kindOf, reduceCtorEq] at hkind
  | node kind' us =>
      cases hkind
      exact ⟨us, ht⟩

section Fields

variable {ts : List Tree} {used : List (Option Tree)} {v : Way}

/-- What a node in a row gets, if it is no function, its parts get. -/
theorem exists_share_node (hlength : used.length = functionCountAll ts) {i : Nat} {kind : Kind}
    {parts : List Tree} (hkind : isFunction kind = false) (ht : ts[i]? = some (.node kind parts)) :
    ∃ own, own.length = functionCountAll parts ∧
      Share (Tree.functionWaysAll 0 ts) used [i] (.node kind parts) own ∧
      (.node kind parts : Tree).functionWays = Tree.functionWaysAll 0 parts ∧
      (insertCallsAll ts used).1[i]? = some (.node kind (insertCallsAll parts own).1) := by
  rcases exists_share 0 hlength ht with ⟨own, hshare, hget⟩
  rw [Nat.zero_add] at hshare
  rw [insertCalls_node hkind] at hget
  have hcount := hshare.length
  rw [functionCount, hkind, if_neg Bool.false_ne_true, Nat.add_zero] at hcount
  exact ⟨own, hcount, hshare, Tree.functionWays_node parts hkind, hget⟩

/-- The expressions in fields stay where they are, and each one gets its share of the
    calls. -/
theorem fieldAt_insertCallsAll {e : Tree} (h : FieldAt ts v e)
    (hlength : used.length = functionCountAll ts) :
    ∃ own, Share (Tree.functionWaysAll 0 ts) used v e own ∧
      FieldAt (insertCallsAll ts used).1 v (insertCalls e own).1 := by
  induction h generalizing used with
  | @expression ts parts us i j kind hfield hpart hconversion hspec =>
      rcases exists_share_node hlength rfl hfield with ⟨own, hcount, hshare, hways, hget⟩
      rcases exists_share 0 hcount hpart with ⟨inner, hinner, hget'⟩
      rw [Nat.zero_add, ← hways] at hinner
      refine ⟨inner, hshare.trans hinner, ?_⟩
      rcases exists_insertCalls_node kind us inner with ⟨us', hnode⟩
      rw [hnode] at hget' ⊢
      exact .expression hget hget' hconversion hspec
  | spec hfield hpart _ ih =>
      rcases exists_share_node hlength rfl hfield with ⟨own, hcount, hshare, hways, hget⟩
      rcases exists_share_node hcount rfl hpart with ⟨own', hcount', hshare', hways', hget'⟩
      rcases ih hcount' with ⟨inner, hinner, hat⟩
      rw [← hways] at hshare'
      rw [← hways'] at hinner
      exact ⟨inner, hshare.trans (hshare'.trans hinner), .spec hget hget' hat⟩

/-- There are no other expressions in fields. -/
theorem exists_of_fieldAt_insertCallsAll {e' : Tree}
    (h : FieldAt (insertCallsAll ts used).1 v e')
    (hlength : used.length = functionCountAll ts) : ∃ e, FieldAt ts v e := by
  generalize hts' : (insertCallsAll ts used).1 = ts' at h
  induction h generalizing ts used with
  | expression hfield hpart hconversion hspec =>
      subst hts'
      rcases exists_of_getElem?_insertCallsAll hfield with ⟨parts, hparts⟩
      rcases exists_share_node hlength rfl hparts with ⟨own, -, -, -, hget⟩
      cases hfield.symm.trans hget
      rcases exists_of_getElem?_insertCallsAll hpart with ⟨us, hus⟩
      exact ⟨_, .expression hparts hus hconversion hspec⟩
  | spec hfield hpart _ ih =>
      subst hts'
      rcases exists_of_getElem?_insertCallsAll hfield with ⟨parts, hparts⟩
      rcases exists_share_node hlength rfl hparts with ⟨own, hcount, -, -, hget⟩
      cases hfield.symm.trans hget
      rcases exists_of_getElem?_insertCallsAll hpart with ⟨us, hus⟩
      rcases exists_share_node hcount rfl hus with ⟨own', hcount', -, -, hget'⟩
      cases hpart.symm.trans hget'
      rcases ih hcount' rfl with ⟨e, he⟩
      exact ⟨e, .spec hparts hus he⟩

/-- What is in a field with calls is what was in it, with its calls. -/
theorem eq_of_fieldAt_insertCallsAll {e' : Tree}
    (h : FieldAt (insertCallsAll ts used).1 v e')
    (hlength : used.length = functionCountAll ts) :
    ∃ e own, FieldAt ts v e ∧ Share (Tree.functionWaysAll 0 ts) used v e own ∧
      e' = (insertCalls e own).1 := by
  rcases exists_of_fieldAt_insertCallsAll h hlength with ⟨e, he⟩
  rcases fieldAt_insertCallsAll he hlength with ⟨own, hshare, hat⟩
  exact ⟨e, own, he, hshare, h.unique hat⟩

/-- Calls are no first words. -/
theorem firstWord?_insertCallsAll (ts : List Tree) (calls : List (Option Tree)) :
    Naming.firstWord? (insertCallsAll ts calls).1 = Naming.firstWord? ts := by
  induction ts generalizing calls with
  | nil => rfl
  | cons t ts ih =>
      rw [insertCallsAll]
      cases t with
      | leaf l => cases l <;> first | rfl | exact ih calls
      | node kind us =>
          rcases exists_insertCalls_node kind us calls with ⟨us', hnode⟩
          change Naming.firstWord? ((insertCalls (.node kind us) calls).1 :: _) = _
          rw [hnode]
          exact ih _

/-- A literal keeps its quotes. -/
theorem quotesOf?_insertCallsAll (ts : List Tree) (calls : List (Option Tree)) :
    quotesOf? (insertCallsAll ts calls).1 = quotesOf? ts := by
  rw [quotesOf?, quotesOf?, firstWord?_insertCallsAll]

end Fields

end EntryCoverage
