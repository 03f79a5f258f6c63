import EntryCoverage.Proofs.FileStart
import EntryCoverage.Proofs.Shapes

/-!
# The Start of a Function

What a call in a function's body comes before and after.

A body is an indented block or what stands on the function's own line, and a docstring may
have its line to itself or share it. All of these come to one thing once a body is taken as
its statements, one by one: the call is one more statement, and it comes first, or second if
the first statement is a bare string (`statementsIn_insertIntoBody`). A call is no string, so
a docstring stays what it is, and where there was none there is none.

Bare strings are not only docstrings. Bytes and strings with values in them count if they
stand in a row with others, and no function has these as its docstring, so nothing is gained
by leaving them first. Bytes do no harm there. But the values of such a row are computed, and
what they run comes before the call (`beginsWithValues`).

## Main definitions

* `statementsIn`: The statements of a body, one by one.
* `bodyDocstring?`: The docstring of a function.
* `withCall`: Statements with a call.
* `Statement.IsLiteral`: A statement is a string in which nothing is computed.
* `beginsWithValues`: A body begins with strings in a row, one of which has values in it.

## Theorems

* `statementsIn_insertIntoBody`: Where the call comes in.
* `instrumentBody_keeps_docstring`: A function keeps its docstring, or has none.
* `instrumentBody_call_first`: When nothing is computed before the call.
-/

namespace EntryCoverage

open Source

/-! ### The statements of a body -/

namespace Statement

/-- Whether it is a bare string, as calls are kept away from. -/
def isBareString : Statement → Bool
  | .small t => isDocstring t
  | .other _ => false

end Statement

/-- The statements in the body of a function, one by one. -/
def statementsIn : Tree → List Statement
  | .node (.block _) ts => statementsOf ts
  | .node .suite ts => (smallStatements ts).map .small
  | _ => []

/-- The docstring of a function, given its body: the string that is its first statement. -/
def bodyDocstring? (body : Tree) : Option Tree :=
  (statementsIn body).head?.bind Statement.docstring?

/-- Statements with one more: the first one, unless it comes behind a bare string. -/
def withCall (s : Statement) : List Statement → List Statement
  | [] => [s]
  | first :: rest => if first.isBareString then first :: s :: rest else s :: first :: rest

/-! ### Lines -/

/-- The statements on a line and those below it. -/
theorem statementsOf_cons {t : Tree} (ht : isStatement t = true) (ts : List Tree) :
    statementsOf (t :: ts) = statementsOn t ++ statementsOf ts := by
  rw [statementsOf, statements_cons, if_pos ht, List.flatMap_cons]
  rfl

/-- The line of a call is one statement. -/
theorem statementsOf_lineOf_cons (call : Tree) (ts : List Tree) :
    statementsOf (Hook.lineOf (Hook.callStatement call) :: ts) =
      .small (Hook.callStatement call) :: statementsOf ts := by
  rw [statementsOf_cons rfl]
  rfl

/-- A line has its statements, if it has any. -/
theorem statementsOn_simpleLine {ts : List Tree} {t : Tree} {more : List Tree}
    (h : smallStatements ts = t :: more) :
    statementsOn (.node .simpleLine ts) = .small t :: more.map .small := by
  rw [statementsOn, h]
  rfl

/-- A semicolon is no statement. -/
theorem smallStatements_semicolon {t : Tree} (ht : t.isKind .semicolon = true) (ts : List Tree) :
    smallStatements (t :: ts) = smallStatements ts := by
  cases t with
  | leaf l => rfl
  | node kind us =>
      have hkind : kind = .semicolon := eq_of_beq ht
      rw [hkind]
      rfl

/-- What is left out with a semicolon is no statement either. -/
theorem smallStatements_withoutSemicolon (ts : List Tree) :
    smallStatements ((afterSemicolon? ts).elim ts (·.2)) = smallStatements ts := by
  cases hafter : afterSemicolon? ts with
  | none => rfl
  | some found =>
      rcases afterSemicolon?_eq_some hafter with ⟨hjoint, rfl⟩
      rw [Option.elim_some, smallStatements_semicolon hjoint]

theorem smallStatements_eq_nil {ts : List Tree} (h : ∀ t ∈ ts, isSmallStatement t = false) :
    smallStatements ts = [] :=
  List.filter_eq_nil_iff.2 fun t ht => Bool.not_eq_true _ ▸ h t ht

/-- A line that is cut at its first statement. -/
theorem exists_splitAfterFirst {ts : List Tree} {t : Tree} {more : List Tree}
    (h : smallStatements ts = t :: more) :
    ∃ lead rest, splitAfterFirst ts = (lead ++ [t], rest) ∧ smallStatements rest = more ∧
      ∀ u ∈ lead, isSmallStatement u = false := by
  rcases splitAfterFirst_cases ts with ⟨hnone, -⟩ | ⟨lead, u, rest, rfl, hlead, hu, hsplit⟩
  · rw [smallStatements_eq_nil hnone] at h
    exact absurd h.symm (List.cons_ne_nil _ _)
  · rw [smallStatements_append lead rest u hlead hu, List.cons.injEq] at h
    rcases h with ⟨rfl, hrest⟩
    exact ⟨lead, rest, hsplit, hrest, hlead⟩

/-- The lines that come of a docstring's line have its statements, with the call behind the
    docstring. -/
theorem statementsOf_linesWithCall (call : Tree) {parts : List Tree} {t : Tree} {more : List Tree}
    (h : smallStatements parts = t :: more) :
    statementsOf (linesWithCall call (.node .simpleLine parts)) =
      .small t :: .small (Hook.callStatement call) :: more.map .small := by
  unfold linesWithCall cutAfterDocstring
  dsimp only
  split
  · rename_i hone
    rw [h, List.length_cons] at hone
    have hmore : more = [] := List.length_eq_zero_iff.1 (by omega)
    subst hmore
    rw [statementsOf_cons rfl, statementsOf_lineOf_cons, statementsOn_simpleLine h]
    rfl
  · rename_i hmany
    rcases exists_splitAfterFirst h with ⟨lead, rest, hsplit, hrest, hlead⟩
    rw [h, List.length_cons] at hmany
    -- There are statements behind the docstring, which get a line of their own.
    rcases List.exists_cons_of_ne_nil (show more ≠ [] by rintro rfl; exact hmany (Nat.le_refl 1))
      with ⟨next, last, rfl⟩
    have hsmall : isSmallStatement t = true := by
      have hin : t ∈ smallStatements parts := by
        rw [h]
        exact List.mem_cons_self
      exact (List.mem_filter.1 hin).2
    have hfirst : smallStatements ((lead ++ [t]) ++ [.leaf (.newline none)]) = [t] := by
      rw [List.append_assoc, List.singleton_append, smallStatements_append lead _ t hlead hsmall]
      rfl
    have hsecond : smallStatements (.node .leading [] :: .leaf .margin ::
        (afterSemicolon? rest).elim rest (·.2)) = next :: last := by
      rw [← hrest, ← smallStatements_withoutSemicolon rest]
      rfl
    simp only [hsplit, Option.toList_some]
    rw [statementsOf_cons rfl, statementsOf_lineOf_cons, statementsOf_cons rfl,
      statementsOn_simpleLine hfirst, statementsOn_simpleLine hsecond]
    simp only [statementsOf, statements, List.filter_nil, List.flatMap_nil, List.append_nil,
      List.map_nil, List.map_cons, List.cons_append, List.nil_append]

/-! ### Where the call comes in -/

theorem isStatement_node {kind : Kind} (ts : List Tree) (hheader : kind ≠ .header)
    (hfooter : kind ≠ .footer) : isStatement (.node kind ts) = true := by
  cases kind <;> first | rfl | exact absurd rfl hheader | exact absurd rfl hfooter

/-- A line begins with a bare string if its first statement is one. -/
theorem any_isBareString_statementsOn (t : Tree) :
    (statementsOn t).head?.any Statement.isBareString = startsWithDocstring t := by
  unfold statementsOn
  split
  · rename_i ts
    rw [startsWithDocstring]
    cases smallStatements ts with
    | nil => rfl
    | cons small more => rfl
  · rename_i hline
    unfold startsWithDocstring
    split
    · rename_i ts
      exact absurd rfl (hline ts)
    · rfl

theorem withCall_cons_of_bare {s first : Statement} (rest : List Statement)
    (h : first.isBareString = true) : withCall s (first :: rest) = first :: s :: rest := if_pos h

theorem withCall_of_not_bare {s : Statement} {ss : List Statement}
    (h : ss.head?.any Statement.isBareString = false) : withCall s ss = s :: ss := by
  cases ss with
  | nil => rfl
  | cons first rest =>
      rw [List.head?_cons, Option.any_some] at h
      rw [withCall, h, if_neg Bool.false_ne_true]

/-- Where there are no nodes but what is set aside, there are no statements. -/
theorem statementsOf_of_kinds {kind : Kind} {parts ts : List Tree} (hts : kinds ts = [])
    (hkind : kind = .header ∨ kind = .footer) : statementsOf (.node kind parts :: ts) = [] := by
  rw [statementsOf, flatMap_statementsOn_eq_nil, statements, List.filter_eq_nil_iff]
  intro u hu
  rcases List.mem_cons.1 hu with rfl | hu
  · rcases hkind with rfl | rfl <;> exact Bool.false_ne_true
  · rcases exists_leaf_of_kinds hts hu with ⟨l, rfl⟩
    exact Bool.false_ne_true

/-- The statements of a block with a call. -/
theorem statementsOf_insertIntoBlock (call : Tree) {indent : Option String} {ts : List Tree}
    (hshaped : Shaped (.block indent) ts) :
    statementsOf (insertIntoBlock call ts) =
      withCall (.small (Hook.callStatement call)) (statementsOf ts) := by
  induction ts with
  | nil => rfl
  | cons t ts ih =>
      cases t with
      | leaf l => exact ih hshaped
      | node kind parts =>
          by_cases hstart : startsWithDocstring (.node kind parts) = true
          · have hkind := kind_of_startsWithDocstring hstart
            subst hkind
            rw [insertIntoBlock_of_docstring call ts hstart, statementsOf_append]
            rw [startsWithDocstring, Option.any_eq_true] at hstart
            rcases hstart with ⟨t, hhead, hdocstring⟩
            rcases List.head?_eq_some_iff.1 hhead with ⟨more, hmore⟩
            rw [statementsOf_linesWithCall call hmore, statementsOf_cons rfl,
              statementsOn_simpleLine hmore]
            have hbare : (Statement.small t).isBareString = true := hdocstring
            exact (withCall_cons_of_bare _ hbare).symm
          · rw [insertIntoBlock_of_not_docstring call ts hstart, statementsOf_lineOf_cons]
            refine (withCall_of_not_bare ?_).symm
            rcases hshaped with ⟨body, heq, hbody⟩
            rw [kinds_cons_node] at heq
            cases body with
            | nil =>
                -- Below what is set aside, a block has no statements.
                rw [List.nil_append, List.cons.injEq] at heq
                rw [heq.1, statementsOf_of_kinds heq.2 (.inr rfl)]
                rfl
            | cons k body =>
                -- The first statement is on the line that the call is put before.
                rw [List.cons_append, List.cons.injEq] at heq
                have hk := hbody k List.mem_cons_self
                rw [← heq.1] at hk
                have hfirst := any_isBareString_statementsOn (.node kind parts)
                rw [statementsOf_cons (isStatement_node parts hk.1 hk.2), List.head?_append_of_ne_nil
                  _ (statementsOn_ne_nil _), hfirst, Bool.eq_false_iff]
                exact hstart

/-- The statements on a function's own line with a call. -/
theorem smallStatements_insertIntoSuite (call : Tree) (ts : List Tree) :
    (smallStatements (insertIntoSuite call ts)).map Statement.small =
      withCall (.small (Hook.callStatement call)) ((smallStatements ts).map .small) := by
  -- Without a docstring, the call comes first.
  have hfirst : ((smallStatements ts).head?.any isDocstring) = false →
      (smallStatements (Hook.callStatement call :: separator :: ts)).map Statement.small =
        withCall (.small (Hook.callStatement call)) ((smallStatements ts).map .small) := by
    intro hnone
    refine (withCall_of_not_bare ?_).symm
    rw [List.head?_map, Option.any_map]
    exact hnone
  unfold insertIntoSuite
  dsimp only
  rcases splitAfterFirst_cases ts with ⟨hnone, hsplit⟩ | ⟨lead, t, rest, rfl, hlead, ht, hsplit⟩
  · have hlast : ts.getLast?.any isDocstring = false := by
      rw [Bool.eq_false_iff, ne_eq, Option.any_eq_true]
      rintro ⟨u, hu, hdocstring⟩
      have hsmall := isSmallStatement_of_isDocstring hdocstring
      rw [hnone u (List.mem_of_getLast? hu)] at hsmall
      exact absurd hsmall Bool.false_ne_true
    rw [hsplit, hlast, Bool.not_false, if_pos rfl]
    exact hfirst (by rw [smallStatements_eq_nil hnone]; rfl)
  · have hsmalls := smallStatements_append lead rest t hlead ht
    have hbefore : ∀ us, smallStatements ((lead ++ [t]) ++ us) = t :: smallStatements us :=
      fun us => by
        rw [List.append_assoc, List.singleton_append, smallStatements_append lead us t hlead ht]
    rw [hsplit]
    dsimp only
    rw [List.getLast?_concat, Option.any_some]
    by_cases hdocstring : isDocstring t = true
    · have hbare : (Statement.small t).isBareString = true := hdocstring
      rw [hdocstring, Bool.not_true, if_neg Bool.false_ne_true, hsmalls, List.map_cons,
        withCall_cons_of_bare _ hbare]
      split
      · rw [hbefore]
        rfl
      · rename_i semicolon more hafter
        rcases afterSemicolon?_eq_some hafter with ⟨hjoint, hrest⟩
        rw [hrest, smallStatements_semicolon hjoint]
        -- Whether a separator follows the call or not, the statements are the same.
        split <;> rw [hbefore, smallStatements_semicolon hjoint] <;> rfl
    · rw [Bool.not_eq_true] at hdocstring
      rw [hdocstring, Bool.not_false, if_pos rfl]
      exact hfirst (by rw [hsmalls]; exact hdocstring)

/-- The statements of a body with a call are its statements with the call. -/
theorem statementsIn_insertIntoBody (call : Tree) {kind : Kind} {ts : List Tree}
    (hbody : Builder.isBody (.node kind ts) = true) (hshaped : Shaped kind ts) :
    statementsIn ((insertIntoBody? call (.node kind ts)).getD (.node kind ts)) =
      withCall (.small (Hook.callStatement call)) (statementsIn (.node kind ts)) := by
  unfold Builder.isBody at hbody
  split at hbody
  · rename_i heq
    cases heq
    exact statementsOf_insertIntoBlock call hshaped
  · rename_i heq
    cases heq
    exact smallStatements_insertIntoSuite call ts
  · exact absurd hbody Bool.false_ne_true

/-! ### Docstrings -/

theorem Statement.isBareString_of_docstring? {s : Statement} {t : Tree} (h : s.docstring? = some t) :
    s.isBareString = true := by
  cases s with
  | small small => exact isDocstring_of_docstring? h
  | other u => exact absurd h.symm (Option.some_ne_none t)

/-- A call is no docstring. -/
theorem docstring?_callStatement {call : Tree} (hcall : IsCall call) :
    (Statement.small (Hook.callStatement call)).docstring? = none := by
  rcases hcall with ⟨ls, rfl⟩
  rfl

/-- A call among statements leaves the docstring as it is. -/
theorem docstring?_withCall {s : Statement} (hs : s.docstring? = none) (ss : List Statement) :
    (withCall s ss).head?.bind Statement.docstring? = ss.head?.bind Statement.docstring? := by
  cases ss with
  | nil => exact hs
  | cons first rest =>
      by_cases hbare : first.isBareString = true
      · rw [withCall_cons_of_bare rest hbare]
        rfl
      · -- What is no bare string is no docstring, and the call that comes first is none.
        have hnone : first.docstring? = none := by
          rw [Option.eq_none_iff_forall_ne_some]
          exact fun t ht => hbare (Statement.isBareString_of_docstring? ht)
        rw [withCall, if_neg hbare]
        exact hs.trans hnone.symm

namespace Builder

variable {b : Builder} {p : Place} {call : Tree}

/-- What is entered is a call of the hook. -/
theorem isCall_of_enter (h : (b.enter p).2 = .ok call) : IsCall call := by
  rcases enter_eq_ok.1 (Prod.ext rfl h : b.enter p = ((b.enter p).1, .ok call)) with
    ⟨-, identifier, -, hmade, -⟩
  exact Engine.isCall_of_hookCall? hmade

/-- A body gets the call that is entered. -/
theorem instrumentBody_eq_ok {body : Tree} (hbody : isBody body = true)
    (h : (b.enter p).2 = .ok call) :
    (b.instrumentBody body p).2 = .ok ((insertIntoBody? call body).getD body) := by
  rw [instrumentBody, if_pos hbody]
  rcases hentered : b.enter p with ⟨b', answer⟩
  rw [hentered] at h
  dsimp only at h
  rw [h]

/-- A builder before its first call, and a place for it. -/
def fresh : Builder := { config := {} }

def firstPlace : Place := ⟨"a.py", "f", 1, 0⟩

theorem fresh_enters : ∃ call, (fresh.enter firstPlace).2 = .ok call := by
  have henters : (fresh.enter firstPlace).2.toOption.isSome = true := by decide +kernel
  cases hcall : (fresh.enter firstPlace).2 with
  | ok call => exact ⟨call, rfl⟩
  | error e =>
      rw [hcall] at henters
      exact absurd henters Bool.false_ne_true

/-- For every body, be it a block or on the function's own line, and whatever is on its lines:
    if there is a call for it, it gets the call, and its docstring is what it was. -/
theorem instrumentBody_keeps_docstring (b : Builder) (kind : Kind) (ts : List Tree) (p : Place)
    (call : Tree) (hbody : isBody (.node kind ts) = true) (hshaped : Shaped kind ts)
    (hcall : (b.enter p).2 = .ok call) :
    ∃ body', (b.instrumentBody (.node kind ts) p).2 = .ok body' ∧ Inside call body' ∧
      bodyDocstring? body' = bodyDocstring? (.node kind ts) := by
  refine ⟨_, instrumentBody_eq_ok hbody hcall, inside_insertIntoBody call _ hbody, ?_⟩
  rw [bodyDocstring?, bodyDocstring?, statementsIn_insertIntoBody call hbody hshaped]
  exact docstring?_withCall (docstring?_callStatement (isCall_of_enter hcall)) _

/-- A docstring that shares its line stays a docstring. -/
theorem instrumentBody_keeps_docstring_shared : ∃ m kind ts call body',
    Module.parse? "def f():\n    'doc'; return 2\n" = some m ∧
    m.tree.at? [1, 8] = some (.node kind ts) ∧ isBody (.node kind ts) = true ∧ Shaped kind ts ∧
    (fresh.enter firstPlace).2 = .ok call ∧
    (fresh.instrumentBody (.node kind ts) firstPlace).2 = .ok body' ∧ Inside call body' ∧
    bodyDocstring? body' = bodyDocstring? (.node kind ts) ∧
    (bodyDocstring? (.node kind ts)).map Naming.renderAlone = some "'doc'" := by
  have hread : (Module.parse? "def f():\n    'doc'; return 2\n").bind (fun m =>
      (m.tree.at? [1, 8]).map fun body =>
        (isBody body, (bodyDocstring? body).map Naming.renderAlone)) =
      some (true, some "'doc'") := by
    decide +kernel
  rcases Option.bind_eq_some_iff.1 hread with ⟨m, hparse, hread⟩
  rcases Option.map_eq_some_iff.1 hread with ⟨body, hat, hseen⟩
  rw [Prod.mk.injEq] at hseen
  cases body with
  | leaf l => exact absurd hseen.1 Bool.false_ne_true
  | node kind ts =>
      rcases fresh_enters with ⟨call, hcall⟩
      have hshaped := (everywhere_of_at? (parse?_shaped hparse) hat).1
      rcases instrumentBody_keeps_docstring fresh kind ts firstPlace call hseen.1 hshaped hcall with
        ⟨body', hmade, hinside, hkept⟩
      exact ⟨m, kind, ts, call, body', hparse, hat, hseen.1, hshaped, hcall, hmade, hinside, hkept,
        hseen.2⟩

end Builder

/-! ### What comes before the call -/

/-- The kinds of nodes that strings are made of in which nothing is computed, alone on a line
    or in parentheses. -/
def isLiteralKind : Kind → Bool
  | .expressionStatement | .paren | .string | .concatenated | .formatted => true
  | _ => false

/-- A tree is made of such nodes. -/
def IsLiteral (t : Tree) : Prop := t.Everywhere fun kind _ => isLiteralKind kind = true

/-- A statement is a string, alone or in a row, in which nothing is computed. -/
def Statement.IsLiteral : Statement → Prop
  | .small t => isDocstring t = true ∧ EntryCoverage.IsLiteral t
  | .other _ => False

/-- Whether an expression is strings in a row, one of which has values in it. -/
def hasValues (t : Tree) : Bool :=
  match t.unparenthesized with
  | .node .concatenated ts =>
      ts.any fun | .node .formatted parts => (kinds parts).contains .field | _ => false
  | _ => false

/-- Whether a body begins with such strings. -/
def beginsWithValues (body : Tree) : Bool :=
  match (statementsIn body).head? with
  | some (.small (.node .expressionStatement ts)) => (Grammar.nodes ts).any hasValues
  | _ => false

theorem isLiteral_node_iff {kind : Kind} {ts : List Tree} (hkind : isLiteralKind kind = true) :
    IsLiteral (.node kind ts) ↔ ∀ t ∈ ts, IsLiteral t := by
  rw [IsLiteral, Tree.Everywhere, Tree.everywhereAll_iff]
  exact and_iff_right hkind

theorem isLiteral_of_kinds {kind : Kind} {ts : List Tree} (hkind : isLiteralKind kind = true)
    (h : kinds ts = []) : IsLiteral (.node kind ts) := ⟨hkind, everywhereAll_of_kinds h⟩

/-- Leaves do not matter to it. -/
theorem isLiteral_nodes_iff (ts : List Tree) :
    (∀ t ∈ Grammar.nodes ts, IsLiteral t) ↔ ∀ t ∈ ts, IsLiteral t := by
  constructor
  · intro h t ht
    cases t with
    | leaf l => exact trivial
    | node kind us => exact h _ (List.mem_filter.2 ⟨ht, rfl⟩)
  · exact fun h t ht => h t (List.mem_of_mem_filter ht)

/-- In a string with or without fields, something is computed if it has a field. -/
theorem isLiteral_formatted_iff {parts : List Tree} (hshaped : Shaped .formatted parts) :
    IsLiteral (.node .formatted parts) ↔ (kinds parts).contains .field = false := by
  rw [Bool.eq_false_iff, ne_eq, List.contains_iff_mem]
  constructor
  · intro hliteral hfield
    rcases mem_kinds.1 hfield with ⟨us, hus⟩
    have hnone := ((Tree.everywhereAll_iff _).1 hliteral.2 _ hus).1
    exact absurd hnone Bool.false_ne_true
  · intro hnone
    refine isLiteral_of_kinds rfl (List.eq_nil_iff_forall_not_mem.2 fun k hk => ?_)
    rw [hshaped k hk] at hk
    exact hnone hk

/-- In strings in a row, nothing is computed if none of them has values. -/
theorem isLiteral_concatenated_iff {ts : List Tree}
    (hshaped : (Source.Tree.node .concatenated ts).Everywhere Shaped) :
    IsLiteral (.node .concatenated ts) ↔ hasValues (.node .concatenated ts) = false := by
  have hparts := (Tree.everywhereAll_iff ts).1 hshaped.2
  rw [isLiteral_node_iff rfl, hasValues, Tree.unparenthesized, List.any_eq_false]
  · refine forall₂_congr fun t ht => ?_
    cases t with
    | leaf l => exact iff_of_true trivial Bool.false_ne_true
    | node kind us =>
        -- Each of the strings has fields or none.
        rcases hshaped.1 kind (mem_kinds.2 ⟨us, ht⟩) with rfl | rfl
        · have hnone : kinds us = [] := (hparts _ ht).1
          exact iff_of_true (isLiteral_of_kinds rfl hnone) Bool.false_ne_true
        · rw [Bool.not_eq_true]
          exact isLiteral_formatted_iff (hparts _ ht).1
  · exact fun children heq => Kind.noConfusion (Source.Tree.node.inj heq).1

mutual

/-- In a string or strings in a row, in parentheses or not, nothing is computed if there
    are no values. -/
theorem isLiteral_iff : ∀ t : Tree, t.Everywhere Shaped → isStringExpression t = true →
    (IsLiteral t ↔ hasValues t = false)
  | .leaf l, _, hstring => absurd hstring Bool.false_ne_true
  | .node kind ts, hshaped, hstring => by
      by_cases hparen : kind = .paren
      · subst hparen
        rw [isLiteral_node_iff rfl]
        exact isLiteral_inner_iff ts hshaped.1 hshaped.2 hstring
      · have hbare : (Source.Tree.node kind ts).unparenthesized = .node kind ts := by
          cases kind <;> first | rfl | exact absurd rfl hparen
        rw [isStringExpression, hbare] at hstring
        split at hstring
        · rename_i heq
          cases heq
          exact iff_of_true (isLiteral_of_kinds rfl hshaped.1) rfl
        · rename_i heq
          cases heq
          exact isLiteral_concatenated_iff hshaped
        · exact absurd hstring Bool.false_ne_true

/-- The same for what stands in parentheses. -/
theorem isLiteral_inner_iff : ∀ ts : List Tree, (kinds ts).length ≤ 1 →
    Tree.EverywhereAll Shaped ts → isStringExpression (.node .paren ts) = true →
      ((∀ t ∈ ts, IsLiteral t) ↔ hasValues (.node .paren ts) = false)
  | [], _, _, hstring => absurd hstring Bool.false_ne_true
  | .leaf l :: ts, hone, hshaped, hstring => by
      rw [List.forall_mem_cons, and_iff_right (show IsLiteral (.leaf l) from trivial)]
      exact isLiteral_inner_iff ts hone hshaped.2 hstring
  | .node kind us :: ts, hone, hshaped, hstring => by
      -- There is nothing else in the parentheses.
      have hnone : kinds ts = [] :=
        List.length_eq_zero_iff.1 (Nat.le_zero.1 (Nat.le_of_succ_le_succ hone))
      have hrest : ∀ t ∈ ts, IsLiteral t :=
        (Tree.everywhereAll_iff ts).1 (everywhereAll_of_kinds hnone)
      rw [List.forall_mem_cons, and_iff_left hrest]
      exact isLiteral_iff (.node kind us) hshaped.1 hstring

end

/-- In a bare string nothing is computed if there are no values. -/
theorem isLiteral_small_iff {t : Tree} (hshaped : t.Everywhere Shaped) (h : isDocstring t = true)
    {body : Tree} (hhead : (statementsIn body).head? = some (.small t)) :
    (Statement.small t).IsLiteral ↔ beginsWithValues body = false := by
  rw [Statement.IsLiteral, and_iff_right h, beginsWithValues, hhead]
  unfold isDocstring at h
  split at h
  · rename_i ts
    -- The statement is one expression, and that is the string.
    have hone : (Grammar.nodes ts).length ≤ 1 := length_kinds ts ▸ hshaped.1
    rw [List.any_eq_true] at h
    rcases h with ⟨e, he, hstring⟩
    have hnodes : Grammar.nodes ts = [e] := by
      cases hall : Grammar.nodes ts with
      | nil =>
          rw [hall] at he
          exact absurd he List.not_mem_nil
      | cons u us =>
          rw [hall, List.length_cons] at hone
          rw [hall, List.length_eq_zero_iff.1 (show us.length = 0 by omega), List.mem_singleton] at he
          rw [List.length_eq_zero_iff.1 (show us.length = 0 by omega), he]
    have hin : e ∈ ts := List.mem_of_mem_filter he
    rw [isLiteral_node_iff rfl, ← isLiteral_nodes_iff, hnodes, List.forall_mem_singleton]
    simp only [hnodes, List.any_cons, List.any_nil, Bool.or_false]
    exact isLiteral_iff e ((Tree.everywhereAll_iff ts).1 hshaped.2 e hin) hstring
  · exact absurd h Bool.false_ne_true

/-- Strings in a row that have values in them are a bare string. -/
theorem isStringExpression_of_hasValues {t : Tree} (h : hasValues t = true) :
    isStringExpression t = true := by
  unfold hasValues at h
  unfold isStringExpression
  split at h
  · rename_i heq
    rw [heq]
  · exact absurd h Bool.false_ne_true

/-- A body that begins with such strings begins with a bare string. -/
theorem exists_of_beginsWithValues {body : Tree} (h : beginsWithValues body = true) :
    ∃ first, (statementsIn body).head? = some first ∧ first.isBareString = true := by
  unfold beginsWithValues at h
  split at h
  · rename_i ts heq
    rw [List.any_eq_true] at h
    rcases h with ⟨e, he, hvalues⟩
    exact ⟨_, heq, List.any_eq_true.2 ⟨e, he, isStringExpression_of_hasValues hvalues⟩⟩
  · exact absurd h Bool.false_ne_true

/-- What holds of all nodes of a body holds of those of its small statements. -/
theorem everywhere_of_mem_statementsIn {ok : Kind → List Tree → Prop} {body t : Tree}
    (h : body.Everywhere ok) (ht : .small t ∈ statementsIn body) : t.Everywhere ok := by
  have hparts : ∀ ts : List Tree, Tree.EverywhereAll ok ts → ∀ u ∈ smallStatements ts,
      u.Everywhere ok := fun ts hts u hu =>
    (Tree.everywhereAll_iff ts).1 hts u (List.mem_of_mem_filter hu)
  unfold statementsIn at ht
  split at ht
  · rename_i indent ts
    rcases List.mem_flatMap.1 ht with ⟨line, hline, hon⟩
    have hokay := (Tree.everywhereAll_iff ts).1 h.2 line (List.mem_of_mem_filter hline)
    unfold statementsOn at hon
    split at hon
    · split at hon
      · exact absurd (List.mem_singleton.1 hon) Statement.noConfusion
      · rcases List.mem_map.1 hon with ⟨u, hu, heq⟩
        cases heq
        exact hparts _ hokay.2 t hu
    · exact absurd (List.mem_singleton.1 hon) Statement.noConfusion
  · rcases List.mem_map.1 ht with ⟨u, hu, heq⟩
    cases heq
    exact hparts _ h.2 t hu
  · exact absurd ht List.not_mem_nil

/-- For every body of a tree that was read, with calls in inner functions or without: if there
    is a call for it, it comes behind at most one statement of the body. Nothing is computed
    there, the statement being a string, exactly if the body does not begin with strings in a
    row that have values in them. -/
theorem Builder.instrumentBody_call_first (b : Builder) (body : Tree) (p : Place) (call : Tree)
    (hbody : isBody body = true) (hshaped : body.Everywhere Shaped)
    (hcall : (b.enter p).2 = .ok call) :
    ∃ body' before after, (b.instrumentBody body p).2 = .ok body' ∧
      statementsIn body = before ++ after ∧
      statementsIn body' = before ++ .small (Hook.callStatement call) :: after ∧
      before.length ≤ 1 ∧ ((∀ s ∈ before, s.IsLiteral) ↔ beginsWithValues body = false) := by
  have hstatements : statementsIn ((insertIntoBody? call body).getD body) =
      withCall (.small (Hook.callStatement call)) (statementsIn body) := by
    cases body with
    | leaf l => exact absurd hbody Bool.false_ne_true
    | node kind ts => exact statementsIn_insertIntoBody call hbody hshaped.1
  have hmade := instrumentBody_eq_ok hbody hcall
  by_cases hbare : (statementsIn body).head?.any Statement.isBareString = true
  · -- The call comes behind the bare string that the body begins with.
    rw [Option.any_eq_true] at hbare
    rcases hbare with ⟨first, hhead, hbare⟩
    rcases List.head?_eq_some_iff.1 hhead with ⟨rest, hall⟩
    refine ⟨_, [first], rest, hmade, hall, ?_, Nat.le_refl 1, ?_⟩
    · rw [hstatements, hall, withCall_cons_of_bare rest hbare]
      rfl
    · rw [List.forall_mem_singleton]
      cases first with
      | other t => exact absurd hbare Bool.false_ne_true
      | small t =>
          have hin : .small t ∈ statementsIn body := List.mem_of_head? hhead
          exact isLiteral_small_iff (everywhere_of_mem_statementsIn hshaped hin) hbare hhead
  · -- The call comes first.
    rw [Bool.not_eq_true] at hbare
    refine ⟨_, [], statementsIn body, hmade, rfl, ?_, Nat.zero_le 1, ?_⟩
    · rw [hstatements, withCall_of_not_bare hbare]
      rfl
    · refine iff_of_true (fun s hs => absurd hs List.not_mem_nil) ?_
      rw [Bool.eq_false_iff]
      intro hvalues
      rcases exists_of_beginsWithValues hvalues with ⟨first, hhead, hfirst⟩
      rw [hhead, Option.any_some, hfirst] at hbare
      exact absurd hbare.symm Bool.false_ne_true

/-- The values of strings in a row are computed before the call. -/
theorem Builder.instrumentBody_call_first_values : ∃ m body call body' before after,
    Module.parse? "def f():\n    \"a\" f\"\x7bg()\x7d\"\n" = some m ∧
    m.tree.at? [1, 8] = some body ∧ isBody body = true ∧ body.Everywhere Shaped ∧
    (fresh.enter firstPlace).2 = .ok call ∧ (fresh.instrumentBody body firstPlace).2 = .ok body' ∧
    statementsIn body = before ++ after ∧
    statementsIn body' = before ++ .small (Hook.callStatement call) :: after ∧
    ¬ (∀ s ∈ before, s.IsLiteral) ∧ beginsWithValues body = true := by
  have hread : (Module.parse? "def f():\n    \"a\" f\"\x7bg()\x7d\"\n").bind (fun m =>
      (m.tree.at? [1, 8]).map fun body => (isBody body, beginsWithValues body)) =
      some (true, true) := by
    decide +kernel
  rcases Option.bind_eq_some_iff.1 hread with ⟨m, hparse, hread⟩
  rcases Option.map_eq_some_iff.1 hread with ⟨body, hat, hseen⟩
  rw [Prod.mk.injEq] at hseen
  rcases fresh_enters with ⟨call, hcall⟩
  have hshaped := everywhere_of_at? (parse?_shaped hparse) hat
  rcases instrumentBody_call_first fresh body firstPlace call hseen.1 hshaped hcall with
    ⟨body', before, after, hmade, hall, hall', -, hliteral⟩
  refine ⟨m, body, call, body', before, after, hparse, hat, hseen.1, hshaped, hcall, hmade, hall,
    hall', ?_, hseen.2⟩
  rw [hliteral, hseen.2]
  exact Bool.false_ne_true.symm

end EntryCoverage
