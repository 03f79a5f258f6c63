import EntryCoverage.Proofs.Removal

/-!
# The Way Back

From the tree of a file with calls in its functions back to the tree that was read.

`restore` takes the calls out of the functions whose turn says so, inner ones first.
Putting calls in goes from inside out as well, so what is around a function is changed
after it, and on the way back an outer call is still there when an inner one is taken
out. This module shows that it does not matter: in the parts of a function, going back
and putting in a call can change places (`restoreAll_partsWithCall`).

Putting in a call only looks at the shapes of statements, and going back changes no
shapes: not the kind of a node, not whether it is a docstring, and not where a line is
split. Apart from that, parts are only moved, and trees in a row go back one after the
other (`restoreAll_append_eq_some`). The one part that gets lost is the semicolon of a
split line; it is as it was read, so there is no call in it (`restore_semicolon`).

## Main definitions

* `Turn`: What is done to a function on the way back.
* `restore`: A tree without the calls in its functions.

## Theorems

* `isDocstring_restore`: Going back keeps docstrings and makes none.
* `restoreAll_splitAfterFirst`: Going back in a line goes back in its two parts.
* `restoreAll_insertIntoBlock`, `restoreAll_insertIntoSuite`: Putting a call into a body
  and going back can change places.
* `restoreAll_partsWithCall`: The same for a function.
-/

namespace EntryCoverage

open Source

/-! ### Going back -/

/-- What is done to a function on the way back. -/
inductive Turn
  /-- It has no call. -/
  | keep
  /-- Its call is taken out; a semicolon is given if its docstring's line was split. -/
  | take (joint : Option Tree)

/-- Whether a turn takes a call out. -/
def Turn.isTake : Turn → Bool
  | .keep => false
  | .take _ => true

mutual

/-- A tree without the calls in its functions, inner ones first, the calls in that order,
    and the turns that are left. Nothing if a call is not where it should be. -/
def restore : Tree → List Turn → Option (Tree × List Tree × List Turn)
  | .leaf l, turns => some (.leaf l, [], turns)
  | .node kind ts, turns =>
      match restoreAll ts turns with
      | none => none
      | some (ts, calls, turns) =>
          if isFunction kind then
            match turns with
            | [] => none
            | .keep :: turns => some (.node kind ts, calls, turns)
            | .take joint :: turns =>
                (takeOut joint kind ts).map fun (call, ts) =>
                  (.node kind ts, calls ++ [call], turns)
          else some (.node kind ts, calls, turns)

/-- The same for trees in a row. -/
def restoreAll : List Tree → List Turn → Option (List Tree × List Tree × List Turn)
  | [], turns => some ([], [], turns)
  | t :: ts, turns =>
      match restore t turns with
      | none => none
      | some (t, calls, turns) =>
          match restoreAll ts turns with
          | none => none
          | some (ts, more, turns) => some (t :: ts, calls ++ more, turns)

end

section Steps

variable {t u : Tree} {ts us vs : List Tree} {turns left : List Turn} {calls : List Tree}
  {kind : Kind}

theorem restoreAll_nil (turns : List Turn) : restoreAll [] turns = some ([], [], turns) := rfl

/-- Going back in a row goes back in its first tree and then in the others. -/
theorem restoreAll_cons_eq_some : restoreAll (t :: ts) turns = some (us, calls, left) ↔
    ∃ u vs c d mid, restore t turns = some (u, c, mid) ∧ restoreAll ts mid = some (vs, d, left) ∧
      us = u :: vs ∧ calls = c ++ d := by
  constructor
  · intro h
    rw [restoreAll] at h
    split at h
    · simp only [reduceCtorEq] at h
    · rename_i u c mid hfirst
      split at h
      · simp only [reduceCtorEq] at h
      · rename_i vs d left' hrest
        cases h
        exact ⟨u, vs, c, d, mid, hfirst, hrest, rfl, rfl⟩
  · rintro ⟨u, vs, c, d, mid, hfirst, hrest, rfl, rfl⟩
    simp only [restoreAll, hfirst, hrest]

/-- Going back in a row goes back in its parts one after the other. -/
theorem restoreAll_append_eq_some :
    restoreAll (ts ++ us) turns = some (vs, calls, left) ↔
      ∃ as bs c d mid, restoreAll ts turns = some (as, c, mid) ∧
        restoreAll us mid = some (bs, d, left) ∧ vs = as ++ bs ∧ calls = c ++ d := by
  induction ts generalizing turns vs calls with
  | nil =>
      constructor
      · exact fun h => ⟨[], vs, [], calls, turns, rfl, h, rfl, rfl⟩
      · rintro ⟨as, bs, c, d, mid, hnone, h, rfl, rfl⟩
        cases hnone
        exact h
  | cons t ts ih =>
      rw [List.cons_append, restoreAll_cons_eq_some]
      constructor
      · rintro ⟨u, vs, c, d, mid, hfirst, hrest, rfl, rfl⟩
        rcases ih.1 hrest with ⟨as, bs, c', d', mid', hts, hus, rfl, rfl⟩
        exact ⟨u :: as, bs, c ++ c', d', mid',
          restoreAll_cons_eq_some.2 ⟨u, as, c, c', mid, hfirst, hts, rfl, rfl⟩, hus, rfl,
          (List.append_assoc _ _ _).symm⟩
      · rintro ⟨as, bs, c, d, mid, hts, hus, rfl, rfl⟩
        rcases restoreAll_cons_eq_some.1 hts with ⟨u, as', c', d', mid', hfirst, hrest, rfl, rfl⟩
        have hmore := ih.2 ⟨as', bs, d', d, mid, hrest, hus, rfl, rfl⟩
        exact ⟨u, as' ++ bs, c', d' ++ d, mid', hfirst, hmore, rfl, List.append_assoc _ _ _⟩

/-- Going back in a node that is no function goes back in its children. -/
theorem restore_node_eq_some (hkind : isFunction kind = false) :
    restore (.node kind ts) turns = some (u, calls, left) ↔
      ∃ us, restoreAll ts turns = some (us, calls, left) ∧ u = .node kind us := by
  rw [restore]
  constructor
  · intro h
    split at h
    · simp only [reduceCtorEq] at h
    · rename_i us c mid hrow
      rw [if_neg (by rw [hkind]; exact Bool.false_ne_true)] at h
      cases h
      exact ⟨us, hrow, rfl⟩
  · rintro ⟨us, hrow, rfl⟩
    simp only [hrow, hkind, Bool.false_eq_true, if_false]

/-- Going back keeps the kind of a node. -/
theorem exists_of_restore_node (h : restore (.node kind ts) turns = some (u, calls, left)) :
    ∃ us, u = .node kind us := by
  rw [restore] at h
  split at h
  · simp only [reduceCtorEq] at h
  · rename_i us c mid hrow
    split at h
    · split at h
      · simp only [reduceCtorEq] at h
      · cases h
        exact ⟨us, rfl⟩
      · rename_i joint mid'
        rcases Option.map_eq_some_iff.1 h with ⟨⟨call, vs⟩, -, heq⟩
        cases heq
        exact ⟨vs, rfl⟩
    · cases h
      exact ⟨us, rfl⟩

end Steps

mutual

/-- A tree without functions stays as it is. -/
theorem restore_of_no_function : ∀ (t : Tree) (turns : List Turn),
    t.Everywhere (fun kind _ => isFunction kind = false) → restore t turns = some (t, [], turns)
  | .leaf _, _, _ => rfl
  | .node _ ts, turns, h =>
      (restore_node_eq_some h.1).2 ⟨ts, restoreAll_of_no_function ts turns h.2, rfl⟩

theorem restoreAll_of_no_function : ∀ (ts : List Tree) (turns : List Turn),
    Tree.EverywhereAll (fun kind _ => isFunction kind = false) ts →
      restoreAll ts turns = some (ts, [], turns)
  | [], _, _ => rfl
  | t :: ts, turns, h => restoreAll_cons_eq_some.2 ⟨t, ts, [], [], turns,
      restore_of_no_function t turns h.1, restoreAll_of_no_function ts turns h.2, rfl, rfl⟩

end

/-- A call stays as it is. -/
theorem restore_call (call : Tree) (hcall : IsCall call) (turns : List Turn) :
    restore call turns = some (call, [], turns) := by
  rcases hcall with ⟨ls, rfl⟩
  exact restore_of_no_function _ _ ⟨rfl, Tree.everywhereAll_leaves ls⟩

theorem restore_callStatement (call : Tree) (hcall : IsCall call) (turns : List Turn) :
    restore (Hook.callStatement call) turns = some (Hook.callStatement call, [], turns) := by
  rcases hcall with ⟨ls, rfl⟩
  exact restore_of_no_function _ _ ⟨rfl, ⟨rfl, Tree.everywhereAll_leaves ls⟩, trivial⟩

theorem restore_lineOf (call : Tree) (hcall : IsCall call) (turns : List Turn) :
    restore (Hook.lineOf (Hook.callStatement call)) turns =
      some (Hook.lineOf (Hook.callStatement call), [], turns) := by
  rcases hcall with ⟨ls, rfl⟩
  exact restore_of_no_function _ _ ⟨rfl, ⟨rfl, trivial⟩, trivial,
    ⟨rfl, ⟨rfl, Tree.everywhereAll_leaves ls⟩, trivial⟩, trivial, trivial⟩

theorem restore_separator (turns : List Turn) :
    restore separator turns = some (separator, [], turns) :=
  restore_of_no_function _ _ ⟨rfl, trivial, trivial, trivial⟩

/-! ### Shapes -/

/-- What is not in parentheses is a string by its kind. -/
theorem isStringExpression_of_ne_paren {kind : Kind} (ts us : List Tree) (h : kind ≠ .paren) :
    isStringExpression (.node kind ts) = isStringExpression (.node kind us) := by
  cases kind <;> first | rfl | exact absurd rfl h

/-- In parentheses, the first node decides. -/
theorem isStringExpression_paren (ts : List Tree) : isStringExpression (.node .paren ts) =
    ((Grammar.nodes ts).map isStringExpression).head?.any id := by
  rw [isStringExpression, Tree.unparenthesized]
  induction ts with
  | nil => rfl
  | cons t ts ih =>
      cases t with
      | leaf l => exact ih
      | node kind us =>
          rw [Tree.unparenthesized.inner, Grammar.nodes, List.filter_cons_of_pos rfl, List.map_cons,
            List.head?_cons, Option.any_some, id, isStringExpression]
          exact fun l heq => Tree.noConfusion heq

mutual

/-- Going back keeps strings and makes none. -/
theorem isStringExpression_restore : ∀ (t u : Tree) (turns left : List Turn) (calls : List Tree),
    restore t turns = some (u, calls, left) → isStringExpression t = isStringExpression u
  | .leaf _, _, _, _, _, h => by
      cases h
      rfl
  | .node kind ts, u, turns, left, calls, h => by
      by_cases hkind : kind = .paren
      · subst hkind
        rcases (restore_node_eq_some rfl).1 h with ⟨us, hrow, rfl⟩
        rw [isStringExpression_paren, isStringExpression_paren,
          map_isStringExpression_restoreAll ts us turns left calls hrow]
      · rcases exists_of_restore_node h with ⟨us, rfl⟩
        exact isStringExpression_of_ne_paren ts us hkind

theorem map_isStringExpression_restoreAll : ∀ (ts us : List Tree) (turns left : List Turn)
    (calls : List Tree), restoreAll ts turns = some (us, calls, left) →
      (Grammar.nodes ts).map isStringExpression = (Grammar.nodes us).map isStringExpression
  | [], _, _, _, _, h => by
      cases h
      rfl
  | t :: ts, us, turns, left, calls, h => by
      rcases restoreAll_cons_eq_some.1 h with ⟨u, vs, c, d, mid, hfirst, hrest, rfl, -⟩
      have hmore := map_isStringExpression_restoreAll ts vs mid left d hrest
      have hhere := isStringExpression_restore t u turns mid c hfirst
      -- Leaves are no nodes, on either side.
      cases t with
      | leaf l =>
          cases hfirst
          exact hmore
      | node kind ts' =>
          rcases exists_of_restore_node hfirst with ⟨us', rfl⟩
          rw [Grammar.nodes, List.filter_cons_of_pos rfl, List.map_cons, hhere]
          exact congrArg _ hmore

end

section Shapes

variable {t u : Tree} {ts us : List Tree} {turns left : List Turn} {calls : List Tree}

theorem isKind_restore (h : restore t turns = some (u, calls, left)) (kind : Kind) :
    t.isKind kind = u.isKind kind := by
  cases t with
  | leaf l =>
      cases h
      rfl
  | node kind' ts =>
      rcases exists_of_restore_node h with ⟨us, rfl⟩
      rfl

theorem isSmallStatement_restore (h : restore t turns = some (u, calls, left)) :
    isSmallStatement t = isSmallStatement u := by
  cases t with
  | leaf l =>
      cases h
      rfl
  | node kind ts =>
      rcases exists_of_restore_node h with ⟨us, rfl⟩
      cases kind <;> rfl

/-- Going back keeps what is told of a node by its kind or, for nodes of one kind, by
    their children in a way that going back in these keeps. -/
theorem eq_of_restore {β : Type} {p : Tree → β} (kind : Kind) (hkind : isFunction kind = false)
    (hhere : ∀ {ts us turns calls left}, restoreAll ts turns = some (us, calls, left) →
      p (.node kind ts) = p (.node kind us))
    (hother : ∀ kind' ts us, kind' ≠ kind → p (.node kind' ts) = p (.node kind' us))
    (h : restore t turns = some (u, calls, left)) : p t = p u := by
  cases t with
  | leaf l =>
      cases h
      rfl
  | node kind' ts =>
      by_cases heq : kind' = kind
      · subst heq
        rcases (restore_node_eq_some hkind).1 h with ⟨us, hrow, rfl⟩
        exact hhere hrow
      · rcases exists_of_restore_node h with ⟨us, rfl⟩
        exact hother kind' ts us heq

/-- Going back keeps docstrings and makes none. -/
theorem isDocstring_restore (h : restore t turns = some (u, calls, left)) :
    isDocstring t = isDocstring u := by
  -- Whether an expression statement is a docstring only depends on its strings.
  have hany : ∀ ts : List Tree, isDocstring (.node .expressionStatement ts) =
      ((Grammar.nodes ts).map isStringExpression).any id := by
    intro ts
    rw [isDocstring, List.any_map, Function.id_comp]
  refine eq_of_restore .expressionStatement rfl (fun hrow => ?_) ?_ h
  · rw [hany, hany, map_isStringExpression_restoreAll _ _ _ _ _ hrow]
  · intro kind ts us hkind
    cases kind <;> first | rfl | exact absurd rfl hkind

/-- Going back keeps what can be told of those trees in a row that can be told apart. -/
theorem map_filter_restoreAll {α : Type} {p : Tree → Bool} {f : Tree → α}
    (hp : ∀ {t u turns left calls}, restore t turns = some (u, calls, left) → p t = p u)
    (hf : ∀ {t u turns left calls}, restore t turns = some (u, calls, left) → f t = f u)
    (h : restoreAll ts turns = some (us, calls, left)) :
    (ts.filter p).map f = (us.filter p).map f := by
  induction ts generalizing us turns calls with
  | nil =>
      cases h
      rfl
  | cons t ts ih =>
      rcases restoreAll_cons_eq_some.1 h with ⟨u, vs, c, d, mid, hfirst, hrest, rfl, -⟩
      rw [List.filter_cons, List.filter_cons, hp hfirst]
      split
      · rw [List.map_cons, List.map_cons, hf hfirst, ih hrest]
      · exact ih hrest

/-- Going back keeps the small statements of a line apart, and which are docstrings. -/
theorem map_isDocstring_restoreAll (h : restoreAll ts turns = some (us, calls, left)) :
    (smallStatements ts).map isDocstring = (smallStatements us).map isDocstring :=
  map_filter_restoreAll isSmallStatement_restore isDocstring_restore h

theorem length_smallStatements_restoreAll (h : restoreAll ts turns = some (us, calls, left)) :
    (smallStatements ts).length = (smallStatements us).length := by
  have hlength := congrArg List.length (map_isDocstring_restoreAll h)
  rwa [List.length_map, List.length_map] at hlength

theorem any_isSmallStatement_restoreAll (h : restoreAll ts turns = some (us, calls, left)) :
    ts.any isSmallStatement = us.any isSmallStatement := by
  have hlength := length_smallStatements_restoreAll h
  rw [smallStatements, smallStatements, ← List.countP_eq_length_filter,
    ← List.countP_eq_length_filter] at hlength
  rw [Bool.eq_iff_iff, List.any_eq_true, List.any_eq_true, ← List.countP_pos_iff,
    ← List.countP_pos_iff, hlength]

/-- Going back keeps whether a line begins with a docstring. -/
theorem startsWithDocstring_restore (h : restore t turns = some (u, calls, left)) :
    startsWithDocstring t = startsWithDocstring u := by
  -- What a line begins with only depends on which of its statements are docstrings.
  have hhead : ∀ ts : List Tree, startsWithDocstring (.node .simpleLine ts) =
      ((smallStatements ts).map isDocstring).head?.any id := by
    intro ts
    rw [startsWithDocstring, List.head?_map, Option.any_map]
    rfl
  refine eq_of_restore .simpleLine rfl (fun hrow => ?_) ?_ h
  · rw [hhead, hhead, map_isDocstring_restoreAll hrow]
  · intro kind ts us hkind
    cases kind <;> first | rfl | exact absurd rfl hkind

/-- Going back in a line goes back in its two parts. -/
theorem restoreAll_splitAfterFirst (h : restoreAll ts turns = some (us, calls, left)) :
    ∃ c d mid, restoreAll (splitAfterFirst ts).1 turns = some ((splitAfterFirst us).1, c, mid) ∧
      restoreAll (splitAfterFirst ts).2 mid = some ((splitAfterFirst us).2, d, left) ∧
      calls = c ++ d := by
  induction ts generalizing us turns calls with
  | nil =>
      cases h
      exact ⟨[], [], _, rfl, rfl, rfl⟩
  | cons t ts ih =>
      rcases restoreAll_cons_eq_some.1 h with ⟨u, vs, c, d, mid, hfirst, hrest, rfl, rfl⟩
      rw [splitAfterFirst, splitAfterFirst, isSmallStatement_restore hfirst]
      split
      · exact ⟨c, d, mid, restoreAll_cons_eq_some.2 ⟨u, [], c, [], mid, hfirst, rfl, rfl,
          (List.append_nil c).symm⟩, hrest, rfl⟩
      · rcases ih hrest with ⟨c', d', mid', hbefore, hafter, rfl⟩
        exact ⟨c ++ c', d', mid', restoreAll_cons_eq_some.2 ⟨u, _, c, c', mid, hfirst, hbefore, rfl,
          rfl⟩, hafter, (List.append_assoc c c' d').symm⟩

/-- Whether a line's first part ends in a docstring does not change either. -/
theorem getLast?_isDocstring_restoreAll (h : restoreAll ts turns = some (us, calls, left)) :
    ts.getLast?.any isDocstring = us.getLast?.any isDocstring := by
  induction ts generalizing us turns calls with
  | nil =>
      cases h
      rfl
  | cons t ts ih =>
      rcases restoreAll_cons_eq_some.1 h with ⟨u, vs, c, d, mid, hfirst, hrest, rfl, -⟩
      cases ts with
      | nil =>
          cases hrest
          exact isDocstring_restore hfirst
      | cons t' ts =>
          rcases restoreAll_cons_eq_some.1 hrest with ⟨u', vs', -, -, -, -, -, rfl, -⟩
          rw [List.getLast?_cons_cons, List.getLast?_cons_cons]
          exact ih hrest

end Shapes

/-- In a row that goes back to leaves there are no calls. -/
theorem restoreAll_leaves {ts : List Tree} {ls : List Leaf} {turns left : List Turn}
    {calls : List Tree} (h : restoreAll ts turns = some (ls.map .leaf, calls, left)) :
    calls = [] ∧ left = turns := by
  induction ls generalizing ts turns calls with
  | nil =>
      cases ts with
      | nil =>
          cases h
          exact ⟨rfl, rfl⟩
      | cons t ts =>
          rcases restoreAll_cons_eq_some.1 h with ⟨u, vs, -, -, -, -, -, hcons, -⟩
          exact absurd hcons (List.cons_ne_nil u vs).symm
  | cons l ls ih =>
      cases ts with
      | nil => simp only [restoreAll, List.map_cons, Option.some.injEq, Prod.mk.injEq, reduceCtorEq,
          false_and] at h
      | cons t ts =>
          rcases restoreAll_cons_eq_some.1 h with ⟨u, vs, c, d, mid, hfirst, hrest, heq, rfl⟩
          rw [List.map_cons, List.cons.injEq] at heq
          rcases heq with ⟨rfl, rfl⟩
          rcases ih hrest with ⟨rfl, rfl⟩
          cases t with
          | leaf l' =>
              cases hfirst
              exact ⟨rfl, rfl⟩
          | node kind us =>
              rcases exists_of_restore_node hfirst with ⟨vs, hleaf⟩
              exact Tree.noConfusion hleaf

/-- A semicolon that was read has no calls in it. -/
theorem restore_semicolon {t u : Tree} {turns left : List Turn} {calls : List Tree}
    (h : restore t turns = some (u, calls, left)) (hkind : u.isKind .semicolon = true)
    (hfits : u.Everywhere Fits) : calls = [] ∧ left = turns := by
  cases t with
  | leaf l =>
      cases h
      exact ⟨rfl, rfl⟩
  | node kind ts =>
      rcases exists_of_restore_node h with ⟨us, rfl⟩
      rw [Tree.isKind, beq_iff_eq] at hkind
      subst hkind
      rcases (restore_node_eq_some rfl).1 h with ⟨vs, hrow, heq⟩
      cases heq
      rcases hfits.1 with ⟨before, after, -, -, rfl⟩
      -- A node that goes back to leaves has had nothing but leaves.
      have hleaves : Peg.trivia before ++ .word ";" :: Peg.trivia after =
          (before ++ .token ";" :: after).map Tree.leaf := by
        rw [List.map_append, List.map_cons]
        rfl
      rw [hleaves] at hrow
      exact restoreAll_leaves hrow

/-! ### Putting in and going back -/

section Commute

variable {t u : Tree} {ts us : List Tree} {turns left : List Turn} {calls : List Tree}

/-- The semicolon that parts begin with, before and after going back. -/
theorem restoreAll_afterSemicolon? (h : restoreAll ts turns = some (us, calls, left))
    (hfits : Tree.EverywhereAll Fits us) :
    (afterSemicolon? ts = none ∧ afterSemicolon? us = none) ∨
      ∃ joint joint' rest rest', afterSemicolon? ts = some (joint, rest) ∧
        afterSemicolon? us = some (joint', rest') ∧
        restore joint turns = some (joint', [], turns) ∧
        restoreAll rest turns = some (rest', calls, left) := by
  cases ts with
  | nil =>
      cases h
      exact .inl ⟨rfl, rfl⟩
  | cons t ts =>
      rcases restoreAll_cons_eq_some.1 h with ⟨u, vs, c, d, mid, hfirst, hrest, rfl, rfl⟩
      rw [afterSemicolon?, afterSemicolon?, isKind_restore hfirst]
      -- Both rows begin with a semicolon, or neither does.
      by_cases hkind : u.isKind .semicolon = true
      · rcases restore_semicolon hfirst hkind hfits.1 with ⟨rfl, rfl⟩
        exact .inr ⟨t, u, ts, vs, if_pos hkind, if_pos hkind, hfirst, hrest⟩
      · exact .inl ⟨if_neg hkind, if_neg hkind⟩

/-- What follows the first small statement of a line that was read was read as well. -/
theorem everywhereAll_splitAfterFirst (hfits : Tree.EverywhereAll Fits us) :
    Tree.EverywhereAll Fits (splitAfterFirst us).2 := by
  rw [← splitAfterFirst_fst_append_snd us, Tree.everywhereAll_append] at hfits
  exact hfits.2

/-- Cutting a docstring's line and going back can change places. -/
theorem restoreAll_linesWithCall (call : Tree) (hcall : IsCall call)
    (h : restore t turns = some (u, calls, left)) (hfits : u.Everywhere Fits)
    (hstart : startsWithDocstring u = true) :
    restoreAll (linesWithCall call t) turns = some (linesWithCall call u, calls, left) := by
  have hline := restore_lineOf call hcall
  cases t with
  | leaf l =>
      cases h
      exact absurd hstart Bool.false_ne_true
  | node kind ts =>
      rcases exists_of_restore_node h with ⟨us, rfl⟩
      have hkind := kind_of_startsWithDocstring hstart
      subst hkind
      rcases (restore_node_eq_some rfl).1 h with ⟨us', hrow, heq⟩
      cases heq
      have hlength := length_smallStatements_restoreAll hrow
      by_cases hmany : (smallStatements us).length ≤ 1
      · -- The line stays as it is.
        rw [linesWithCall, linesWithCall, cutAfterDocstring_of_le hmany,
          cutAfterDocstring_of_le (hlength ▸ hmany)]
        exact restoreAll_cons_eq_some.2 ⟨_, _, calls, [], left, h,
          restoreAll_cons_eq_some.2 ⟨_, [], [], [], left, hline left, rfl, rfl, rfl⟩, rfl,
          (List.append_nil calls).symm⟩
      · -- The line is cut at a semicolon, which no call is in.
        have hmany := Nat.lt_of_not_le hmany
        rcases restoreAll_splitAfterFirst hrow with ⟨c, d, mid, hbefore, hafter, rfl⟩
        rcases restoreAll_afterSemicolon? hafter (everywhereAll_splitAfterFirst hfits.2) with
          ⟨-, hnone⟩ | ⟨joint, joint', rest, rest', hts, hus, -, hrest⟩
        · have hsome := hfits.1 hmany
          rw [hnone] at hsome
          exact absurd hsome Bool.false_ne_true
        · rw [linesWithCall, linesWithCall, cutAfterDocstring_of_lt hmany hus,
            cutAfterDocstring_of_lt (hlength ▸ hmany) hts]
          -- The docstring's line, and the line of the rest.
          have hkind : isFunction .simpleLine = false := rfl
          have hend : restoreAll ((splitAfterFirst ts).1 ++ [.leaf (.newline none)]) turns =
              some ((splitAfterFirst us).1 ++ [.leaf (.newline none)], c, mid) :=
            restoreAll_append_eq_some.2
              ⟨_, _, c, [], mid, hbefore, rfl, rfl, (List.append_nil c).symm⟩
          have hmargin : restoreAll (.node .leading [] :: .leaf .margin :: rest) mid =
              some (.node .leading [] :: .leaf .margin :: rest', d, left) :=
            restoreAll_cons_eq_some.2 ⟨.node .leading [], _, [], d, mid, rfl,
              restoreAll_cons_eq_some.2 ⟨.leaf .margin, rest', [], d, mid, rfl, hrest, rfl, rfl⟩,
              rfl, rfl⟩
          have hfirst := (restore_node_eq_some hkind).2 ⟨_, hend, rfl⟩
          have hsecond := (restore_node_eq_some hkind).2 ⟨_, hmargin, rfl⟩
          have hlast := restoreAll_cons_eq_some.2
            ⟨_, [], d, [], left, hsecond, restoreAll_nil left, rfl, (List.append_nil d).symm⟩
          have hcallLast := restoreAll_cons_eq_some.2
            ⟨_, _, [], d, mid, hline mid, hlast, rfl, rfl⟩
          exact restoreAll_cons_eq_some.2 ⟨_, _, c, d, mid, hfirst, hcallLast, rfl, rfl⟩

/-- Putting a call into a block and going back can change places. -/
theorem restoreAll_insertIntoBlock (call : Tree) (hcall : IsCall call)
    (h : restoreAll ts turns = some (us, calls, left)) (hfits : Tree.EverywhereAll Fits us) :
    restoreAll (insertIntoBlock call ts) turns = some (insertIntoBlock call us, calls, left) := by
  have hline := restore_lineOf call hcall
  induction ts generalizing us turns calls with
  | nil =>
      cases h
      exact restoreAll_cons_eq_some.2 ⟨_, [], [], [], left, hline left, rfl, rfl, rfl⟩
  | cons t ts ih =>
      have hrow := h
      rcases restoreAll_cons_eq_some.1 h with ⟨u, vs, c, d, mid, hfirst, hrest, rfl, rfl⟩
      cases t with
      | leaf l =>
          cases hfirst
          exact restoreAll_cons_eq_some.2 ⟨_, _, [], d, turns, rfl, ih hrest hfits.2, rfl, rfl⟩
      | node kind parts =>
          have hstarts := startsWithDocstring_restore hfirst
          rcases exists_of_restore_node hfirst with ⟨parts', rfl⟩
          simp only [insertIntoBlock, hstarts]
          -- The call stands after the docstring's line, or before any other line.
          by_cases hstart : startsWithDocstring (.node kind parts') = true
          · rw [if_pos hstart, if_pos hstart]
            have hlines := restoreAll_linesWithCall call hcall hfirst hfits.1 hstart
            exact restoreAll_append_eq_some.2 ⟨_, vs, c, d, mid, hlines, hrest, rfl, rfl⟩
          · rw [if_neg hstart, if_neg hstart]
            exact restoreAll_cons_eq_some.2 ⟨_, _, [], c ++ d, turns, hline turns, hrow, rfl, rfl⟩

/-- Putting a call on a function's own line and going back can change places. -/
theorem restoreAll_insertIntoSuite (call : Tree) (hcall : IsCall call)
    (h : restoreAll ts turns = some (us, calls, left)) (hfits : Tree.EverywhereAll Fits us) :
    restoreAll (insertIntoSuite call ts) turns = some (insertIntoSuite call us, calls, left) := by
  have hstatement := restore_callStatement call hcall
  rcases restoreAll_splitAfterFirst h with ⟨c, d, mid, hbefore, hafter, rfl⟩
  -- A call with a separator before the rest of the line.
  have hcallFirst : ∀ {ts us turns calls}, restoreAll ts turns = some (us, calls, left) →
      restoreAll (Hook.callStatement call :: separator :: ts) turns =
        some (Hook.callStatement call :: separator :: us, calls, left) :=
    fun hrow => restoreAll_cons_eq_some.2 ⟨_, _, [], _, _, hstatement _,
      restoreAll_cons_eq_some.2 ⟨_, _, [], _, _, restore_separator _, hrow, rfl, rfl⟩, rfl, rfl⟩
  unfold insertIntoSuite
  simp only [getLast?_isDocstring_restoreAll hbefore]
  by_cases hdocstring : (splitAfterFirst us).1.getLast?.any isDocstring = true
  · simp only [hdocstring, Bool.not_true, Bool.false_eq_true, if_false]
    rcases restoreAll_afterSemicolon? hafter (everywhereAll_splitAfterFirst hfits) with
      ⟨hts, hus⟩ | ⟨joint, joint', rest, rest', hts, hus, hjoint, hrest⟩
    -- Without a semicolon a separator is put in, before the call; with one, the call
    -- comes after it, and a separator only if a statement follows.
    · simp only [hts, hus]
      exact restoreAll_append_eq_some.2 ⟨_, _, c, d, mid, hbefore, restoreAll_cons_eq_some.2
        ⟨_, _, [], d, mid, restore_separator mid, restoreAll_cons_eq_some.2
          ⟨_, _, [], d, mid, hstatement mid, hafter, rfl, rfl⟩, rfl, rfl⟩, rfl, rfl⟩
    · simp only [hts, hus, any_isSmallStatement_restoreAll hrest]
      split
      · exact restoreAll_append_eq_some.2 ⟨_, _, c, d, mid, hbefore, restoreAll_cons_eq_some.2
          ⟨_, _, [], d, mid, hjoint, hcallFirst hrest, rfl, rfl⟩, rfl, rfl⟩
      · exact restoreAll_append_eq_some.2 ⟨_, _, c, d, mid, hbefore, restoreAll_cons_eq_some.2
          ⟨_, _, [], d, mid, hjoint, restoreAll_cons_eq_some.2
            ⟨_, _, [], d, mid, hstatement mid, hrest, rfl, rfl⟩, rfl, rfl⟩, rfl, rfl⟩
  · simp only [hdocstring, Bool.not_false, if_true]
    exact hcallFirst h

/-- Putting a call into a body and going back can change places. -/
theorem restore_insertIntoBody (call : Tree) (hcall : IsCall call)
    (h : restore t turns = some (u, calls, left)) (hfits : u.Everywhere Fits) :
    restore ((insertIntoBody? call t).getD t) turns =
      some ((insertIntoBody? call u).getD u, calls, left) := by
  cases t with
  | leaf l =>
      cases h
      rfl
  | node kind ts =>
      rcases exists_of_restore_node h with ⟨us, rfl⟩
      cases kind with
      | block indent =>
          rcases (restore_node_eq_some rfl).1 h with ⟨us', hrow, heq⟩
          cases heq
          exact (restore_node_eq_some rfl).2
            ⟨_, restoreAll_insertIntoBlock call hcall hrow hfits.2, rfl⟩
      | suite =>
          rcases (restore_node_eq_some rfl).1 h with ⟨us', hrow, heq⟩
          cases heq
          exact (restore_node_eq_some rfl).2
            ⟨_, restoreAll_insertIntoSuite call hcall hrow hfits.2, rfl⟩
      | _ => exact h

/-- Making a pair of a call and an expression and going back can change places. -/
theorem restore_sequenced (call : Tree) (hcall : IsCall call)
    (h : restore t turns = some (u, calls, left)) :
    restore (sequenced call t) turns = some (sequenced call u, calls, left) := by
  -- The call and the words around it stay, and only the expression goes back.
  have hafter : restoreAll (t :: [.word ")", .word "[", .word "-", .word "1", .word "]"]) turns =
      some (u :: [.word ")", .word "[", .word "-", .word "1", .word "]"], calls, left) :=
    restoreAll_cons_eq_some.2 ⟨u, _, calls, [], left, h, rfl, rfl, (List.append_nil calls).symm⟩
  have hbefore : restoreAll [.word "(", call, .word ",", .space " "] turns =
      some ([.word "(", call, .word ",", .space " "], [], turns) :=
    restoreAll_cons_eq_some.2 ⟨_, _, [], [], turns, rfl, restoreAll_cons_eq_some.2
      ⟨call, _, [], [], turns, restore_call call hcall turns, rfl, rfl, rfl⟩, rfl, rfl⟩
  have hrow := restoreAll_append_eq_some.2 ⟨_, _, [], calls, turns, hbefore, hafter, rfl, rfl⟩
  exact (restore_node_eq_some rfl).2 ⟨_, hrow, rfl⟩

/-- What changes the last tree of a row and may change places with going back may do so
    in the row. -/
theorem restoreAll_mapLast (f : Tree → Tree)
    (hf : ∀ {t u turns calls}, restore t turns = some (u, calls, left) → u.Everywhere Fits →
      restore (f t) turns = some (f u, calls, left))
    (h : restoreAll ts turns = some (us, calls, left)) (hfits : Tree.EverywhereAll Fits us) :
    restoreAll (mapLast f ts) turns = some (mapLast f us, calls, left) := by
  induction ts generalizing us turns calls with
  | nil =>
      cases h
      rfl
  | cons t ts ih =>
      rcases restoreAll_cons_eq_some.1 h with ⟨u, vs, c, d, mid, hfirst, hrest, rfl, rfl⟩
      cases ts with
      | nil =>
          cases hrest
          exact restoreAll_cons_eq_some.2 ⟨f u, [], c, [], left, hf hfirst hfits.1, rfl, rfl, rfl⟩
      | cons t' ts =>
          have hlast := ih hrest hfits.2
          rcases restoreAll_cons_eq_some.1 hrest with ⟨u', vs', -, -, -, -, -, rfl, -⟩
          exact restoreAll_cons_eq_some.2 ⟨u, _, c, d, mid, hfirst, hlast, rfl, rfl⟩

/-- Putting a call into a function and going back in its parts can change places. -/
theorem restoreAll_partsWithCall (call : Tree) (hcall : IsCall call) (kind : Kind)
    (h : restoreAll ts turns = some (us, calls, left)) (hfits : Tree.EverywhereAll Fits us) :
    restoreAll (partsWithCall call kind ts) turns =
      some (partsWithCall call kind us, calls, left) := by
  unfold partsWithCall
  split
  · exact restoreAll_mapLast _ (fun hbody => restore_insertIntoBody call hcall hbody) h hfits
  · exact restoreAll_mapLast _ (fun hbody _ => restore_sequenced call hcall hbody) h hfits

end Commute

end EntryCoverage
