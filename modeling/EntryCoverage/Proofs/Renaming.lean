import EntryCoverage.Proofs.Import

/-!
# Renaming the Identifiers in a File

A file with other identifiers in its calls.

Calls are put into a tree without a look at what they say. The functions that do so do
look at the tree, which has calls in it already because inner functions come first, but
only at the kinds of its nodes and at words outside calls. So it comes to the same whether
the calls are changed before they are put in or afterwards (`insertCalls_onCalls`). That
goes through all the shapes that decide where a call is put, one lemma for each.

The import of the hook's module is the one thing that depends on the texts of whole
statements. A statement with a call is no import whatever the call says
(`Piece.isImport_iff`), so the decision is the same for both files.

## Main definitions

* `Tree.onCalls`: A tree with something done to its calls.
* `Tree.renamed`: A tree with the identifiers in its calls renamed.

## Theorems

* `insertCalls_onCalls`: Calls may be changed before or after they are put in.
* `withCalls_onCalls`: So for a file with its import.
* `renamed_hookCall`: A call with its identifier renamed.
-/

namespace EntryCoverage

open Source

namespace Source.Tree

mutual

/-- A tree with the parts of its calls changed. -/
def onCalls (g : List Tree → List Tree) : Tree → Tree
  | .leaf l => .leaf l
  | .node kind ts => .node kind (if kind = .hookCall then g ts else onCallsAll g ts)

def onCallsAll (g : List Tree → List Tree) : List Tree → List Tree
  | [] => []
  | t :: ts => t.onCalls g :: onCallsAll g ts

end

section OnCalls

variable (g : List Tree → List Tree)

theorem onCallsAll_eq_map (ts : List Tree) : onCallsAll g ts = ts.map (onCalls g) := by
  induction ts with
  | nil => rfl
  | cons t ts ih => rw [onCallsAll, ih, List.map_cons]

theorem onCalls_node {kind : Kind} (hkind : kind ≠ .hookCall) (ts : List Tree) :
    (Tree.node kind ts).onCalls g = .node kind (ts.map (onCalls g)) := by
  rw [onCalls, if_neg hkind, onCallsAll_eq_map]

mutual

/-- A tree that was read has no calls to change. -/
theorem onCalls_of_fits : ∀ t : Tree, t.Everywhere Fits → t.onCalls g = t
  | .leaf _, _ => rfl
  | .node kind ts, h => by
      have hkind : kind ≠ .hookCall := by
        rintro rfl
        exact h.1
      rw [onCalls, if_neg hkind, onCallsAll_of_fits ts h.2]

theorem onCallsAll_of_fits : ∀ ts : List Tree, EverywhereAll Fits ts → onCallsAll g ts = ts
  | [], _ => rfl
  | t :: ts, h => by rw [onCallsAll, onCalls_of_fits t h.1, onCallsAll_of_fits ts h.2]

end

/-! ### Shapes -/

theorem isKind_onCalls (kind : Kind) (t : Tree) : (t.onCalls g).isKind kind = t.isKind kind := by
  cases t <;> rfl

theorem isSmallStatement_onCalls (t : Tree) :
    isSmallStatement (t.onCalls g) = isSmallStatement t := by
  cases t with
  | leaf l => rfl
  | node kind ts => cases kind <;> rfl

mutual

theorem isStringExpression_onCalls : ∀ t : Tree,
    isStringExpression (t.onCalls g) = isStringExpression t
  | .leaf _ => rfl
  | .node kind ts => by
      by_cases hkind : kind = .paren
      · subst hkind
        rw [onCalls_node g (by decide), isStringExpression_paren, isStringExpression_paren,
          map_isStringExpression_onCalls ts]
      · rw [onCalls]
        exact isStringExpression_of_ne_paren _ ts hkind

theorem map_isStringExpression_onCalls : ∀ ts : List Tree,
    (Grammar.nodes (ts.map (onCalls g))).map isStringExpression =
      (Grammar.nodes ts).map isStringExpression
  | [] => rfl
  | .leaf _ :: ts => map_isStringExpression_onCalls ts
  | .node kind us :: ts => by
      have hhere := isStringExpression_onCalls (.node kind us)
      have hmore := map_isStringExpression_onCalls ts
      rw [onCalls] at hhere
      rw [List.map_cons, onCalls, Grammar.nodes, List.filter_cons_of_pos rfl, List.map_cons, hhere]
      exact congrArg _ hmore

end

theorem isDocstring_onCalls (t : Tree) : isDocstring (t.onCalls g) = isDocstring t := by
  have hany : ∀ ts : List Tree, isDocstring (.node .expressionStatement ts) =
      ((Grammar.nodes ts).map isStringExpression).any id := by
    intro ts
    rw [isDocstring, List.any_map, Function.id_comp]
  cases t with
  | leaf l => rfl
  | node kind ts =>
      by_cases hkind : kind = .expressionStatement
      · subst hkind
        rw [onCalls_node g (by decide), hany, hany, map_isStringExpression_onCalls]
      · cases kind <;> first | rfl | exact absurd rfl hkind

theorem smallStatements_onCalls (ts : List Tree) :
    smallStatements (ts.map (onCalls g)) = (smallStatements ts).map (onCalls g) := by
  rw [smallStatements, List.filter_map,
    show isSmallStatement ∘ onCalls g = isSmallStatement from funext (isSmallStatement_onCalls g)]
  rfl

theorem startsWithDocstring_onCalls (t : Tree) :
    startsWithDocstring (t.onCalls g) = startsWithDocstring t := by
  cases t with
  | leaf l => rfl
  | node kind ts =>
      by_cases hkind : kind = .simpleLine
      · subst hkind
        rw [onCalls_node g (by decide), startsWithDocstring, startsWithDocstring,
          smallStatements_onCalls]
        cases smallStatements ts with
        | nil => rfl
        | cons small more => exact isDocstring_onCalls g small
      · cases kind <;> first | rfl | exact absurd rfl hkind

theorem splitAfterFirst_onCalls (ts : List Tree) : splitAfterFirst (ts.map (onCalls g)) =
    ((splitAfterFirst ts).1.map (onCalls g), (splitAfterFirst ts).2.map (onCalls g)) := by
  induction ts with
  | nil => rfl
  | cons t ts ih =>
      rw [List.map_cons, splitAfterFirst, splitAfterFirst, isSmallStatement_onCalls, ih]
      split <;> rfl

theorem afterSemicolon?_onCalls (ts : List Tree) : afterSemicolon? (ts.map (onCalls g)) =
    (afterSemicolon? ts).map fun found => (found.1.onCalls g, found.2.map (onCalls g)) := by
  cases ts with
  | nil => rfl
  | cons t ts =>
      rw [List.map_cons, afterSemicolon?, afterSemicolon?, isKind_onCalls]
      split <;> rfl

/-! ### Putting calls in -/

/-- What is left of a line after a semicolon, if that comes next. -/
theorem elim_afterSemicolon?_onCalls (ts : List Tree) :
    (afterSemicolon? (ts.map (onCalls g))).elim (ts.map (onCalls g)) (·.2) =
      ((afterSemicolon? ts).elim ts (·.2)).map (onCalls g) := by
  rw [afterSemicolon?_onCalls]
  cases afterSemicolon? ts <;> rfl

theorem cutAfterDocstring_onCalls (t : Tree) : cutAfterDocstring (t.onCalls g) =
    ((cutAfterDocstring t).1.onCalls g, (cutAfterDocstring t).2.map (onCalls g)) := by
  cases t with
  | leaf l => rfl
  | node kind ts =>
      by_cases hkind : kind = .simpleLine
      · subst hkind
        rw [onCalls_node g (by decide), cutAfterDocstring, cutAfterDocstring,
          smallStatements_onCalls, List.length_map, splitAfterFirst_onCalls]
        split
        · rw [onCalls_node g (by decide)]
          rfl
        · dsimp only
          rw [elim_afterSemicolon?_onCalls, onCalls_node g (by decide), Option.map_some,
            onCalls_node g (by decide), List.map_append]
          rfl
      · cases kind <;> first | rfl | exact absurd rfl hkind

theorem lineOf_onCalls (call : Tree) : (Hook.lineOf (Hook.callStatement call)).onCalls g =
    Hook.lineOf (Hook.callStatement (call.onCalls g)) := rfl

theorem insertIntoBlock_onCalls (call : Tree) (ts : List Tree) :
    insertIntoBlock (call.onCalls g) (ts.map (onCalls g)) =
      (insertIntoBlock call ts).map (onCalls g) := by
  induction ts with
  | nil => rfl
  | cons t ts ih =>
      cases t with
      | leaf l =>
          rw [List.map_cons, onCalls, insertIntoBlock, insertIntoBlock, ih, List.map_cons, onCalls]
      | node kind us =>
          have hstarts := startsWithDocstring_onCalls g (.node kind us)
          have hcut := cutAfterDocstring_onCalls g (.node kind us)
          rw [onCalls] at hstarts hcut
          rw [List.map_cons, onCalls, insertIntoBlock, insertIntoBlock, hstarts, hcut]
          · dsimp only
            split
            · cases (cutAfterDocstring (.node kind us)).2 with
              | none => rfl
              | some rest => rfl
            · rw [List.map_cons, List.map_cons, lineOf_onCalls, onCalls]
          · exact fun l heq => Tree.noConfusion heq
          · exact fun l heq => Tree.noConfusion heq

theorem insertIntoSuite_onCalls (call : Tree) (ts : List Tree) :
    insertIntoSuite (call.onCalls g) (ts.map (onCalls g)) =
      (insertIntoSuite call ts).map (onCalls g) := by
  have hlast : ∀ ts : List Tree, ((ts.map (onCalls g)).getLast?.any isDocstring) =
      ts.getLast?.any isDocstring := by
    intro ts
    rw [List.getLast?_map]
    cases ts.getLast? with
    | none => rfl
    | some t => exact isDocstring_onCalls g t
  have hany : ∀ ts : List Tree, (ts.map (onCalls g)).any isSmallStatement =
      ts.any isSmallStatement := by
    intro ts
    rw [List.any_map]
    exact congrArg ts.any (funext (isSmallStatement_onCalls g))
  unfold insertIntoSuite
  rw [splitAfterFirst_onCalls]
  dsimp only
  rw [hlast]
  split
  · rfl
  · rw [afterSemicolon?_onCalls]
    cases afterSemicolon? (splitAfterFirst ts).2 with
    | none => rw [Option.map_none, List.map_append]; rfl
    | some found =>
        dsimp only [Option.map_some]
        rw [hany]
        split <;> rw [List.map_append] <;> rfl

theorem insertIntoBody?_onCalls (call body : Tree) :
    insertIntoBody? (call.onCalls g) (body.onCalls g) =
      (insertIntoBody? call body).map (onCalls g) := by
  cases body with
  | leaf l => rfl
  | node kind ts =>
      cases kind with
      | block indent =>
          rw [onCalls_node g Kind.noConfusion, insertIntoBody?, insertIntoBody?,
            insertIntoBlock_onCalls, Option.map_some, onCalls_node g Kind.noConfusion]
      | suite =>
          rw [onCalls_node g Kind.noConfusion, insertIntoBody?, insertIntoBody?,
            insertIntoSuite_onCalls, Option.map_some, onCalls_node g Kind.noConfusion]
      | _ => rfl

theorem sequenced_onCalls (call body : Tree) :
    (sequenced call body).onCalls g = sequenced (call.onCalls g) (body.onCalls g) := rfl

theorem mapLast_onCalls {f f' : Tree → Tree} (hf : ∀ t : Tree, f' (t.onCalls g) = (f t).onCalls g)
    (ts : List Tree) : mapLast f' (ts.map (onCalls g)) = (mapLast f ts).map (onCalls g) := by
  induction ts with
  | nil => rfl
  | cons t ts ih =>
      cases ts with
      | nil => exact congrArg (fun t => [t]) (hf t)
      | cons u us => exact congrArg (t.onCalls g :: ·) ih

/-- A call may be changed before it is put into a function or afterwards. -/
theorem partsWithCall_onCalls (call : Tree) (kind : Kind) (ts : List Tree) :
    partsWithCall (call.onCalls g) kind (ts.map (onCalls g)) =
      (partsWithCall call kind ts).map (onCalls g) := by
  unfold partsWithCall
  split
  · refine mapLast_onCalls g (fun body => ?_) ts
    rw [insertIntoBody?_onCalls]
    cases insertIntoBody? call body <;> rfl
  · exact mapLast_onCalls g (fun body => (sequenced_onCalls g call body).symm) ts

mutual

/-- The same for all functions of a tree that was read. -/
theorem insertCalls_onCalls : ∀ (t : Tree) (calls : List (Option Tree)), t.Everywhere Fits →
    insertCalls t (calls.map (Option.map (onCalls g))) =
      ((insertCalls t calls).1.onCalls g, (insertCalls t calls).2.map (Option.map (onCalls g)))
  | .leaf _, _, _ => rfl
  | .node kind ts, calls, h => by
      have hkind : kind ≠ .hookCall := by
        rintro rfl
        exact h.1
      have hrow := insertCallsAll_onCalls ts calls h.2
      rw [insertCalls, insertCalls, hrow]
      dsimp only
      split
      · rename_i hfunction
        rcases (insertCallsAll ts calls).2 with _ | ⟨_ | call, left⟩
        · rw [onCalls_node g hkind]
          rfl
        · rw [onCalls_node g hkind]
          rfl
        · have hfun := (isFunction_iff kind).2 hfunction
          simp only [List.map_cons, Option.map_some]
          rw [insertCall_eq _ _ _ hfun, insertCall_eq _ _ _ hfun, onCalls_node g hkind,
            partsWithCall_onCalls]
      · rw [onCalls_node g hkind]

theorem insertCallsAll_onCalls : ∀ (ts : List Tree) (calls : List (Option Tree)),
    EverywhereAll Fits ts → insertCallsAll ts (calls.map (Option.map (onCalls g))) =
      ((insertCallsAll ts calls).1.map (onCalls g),
        (insertCallsAll ts calls).2.map (Option.map (onCalls g)))
  | [], _, _ => rfl
  | t :: ts, calls, h => by
      rw [insertCallsAll, insertCallsAll, insertCalls_onCalls t calls h.1]
      dsimp only
      rw [insertCallsAll_onCalls ts _ h.2, List.map_cons]

end

end OnCalls

end Source.Tree

/-! ### The import -/

section Import

variable {config : Config} {gets : Way → Prop} {parts parts' : List Tree}

/-- Whether a file has the import does not depend on what its calls say. -/
theorem exists_import_onCalls {g : List Tree → List Tree}
    (h : Rewritten config gets parts parts')
    (h' : Rewritten config gets parts (parts'.map (Tree.onCalls g))) :
    (∃ line ∈ parts'.map (Tree.onCalls g), IsImport config line) ↔
      ∃ line ∈ parts', IsImport config line := by
  have hfound : ∀ {ps}, Rewritten config gets parts ps → ((∃ line ∈ ps, IsImport config line) ↔
      ∃ i line, parts[i]? = some line ∧ IsImport config line ∧ Spared gets i ∧ True) := by
    intro ps hps
    rw [← hps.exists_import_iff]
    constructor
    · rintro ⟨line, hline, himport⟩
      rcases List.getElem?_of_mem hline with ⟨i, hi⟩
      exact ⟨i, line, hi, himport, trivial⟩
    · rintro ⟨i, line, hi, himport, -⟩
      exact ⟨line, List.mem_of_getElem? hi, himport⟩
  rw [hfound h', hfound h]

/-- The import goes to the same place, or to none, whatever the calls say. -/
theorem injectImport_onCalls {g : List Tree → List Tree}
    (h : Rewritten config gets parts parts')
    (h' : Rewritten config gets parts (parts'.map (Tree.onCalls g))) :
    injectImport config.hookNamespace (parts'.map (Tree.onCalls g)) =
      (injectImport config.hookNamespace parts').map (Tree.onCalls g) := by
  by_cases hsome : ∃ line ∈ parts', IsImport config line
  · rcases (exists_import_onCalls h h').2 hsome with ⟨line', hline', himport'⟩
    rcases hsome with ⟨line, hline, himport⟩
    rw [injectImport_of_import hline' himport', injectImport_of_import hline himport]
  · have hsome' := fun hc => hsome ((exists_import_onCalls h h').1 hc)
    rw [injectImport_of_no_import fun line hline himport => hsome' ⟨line, hline, himport⟩,
      injectImport_of_no_import fun line hline himport => hsome ⟨line, hline, himport⟩,
      h'.keptFirst_eq, h.keptFirst_eq, List.map_append, List.map_cons, List.map_take,
      List.map_drop]
    rfl

/-- A file with its calls changed is the file with the changed calls put in. -/
theorem rewritten_onCalls {g : List Tree → List Tree} {ts : List Tree}
    {calls : List (Option Tree)} (hfits : Tree.EverywhereAll Fits ts)
    (hgets : List.Forall₂ (fun w call => Option.isSome call = true ↔ gets w)
      (Tree.functionWaysAll 0 ts) calls)
    (hfunctions : ∀ i w, gets (i :: w) → ∃ t, ts[i]? = some t ∧ w ∈ t.functionWays)
    (hmade : ∀ call, some call ∈ calls → ∃ identifier line,
      Hook.hookCall? config identifier line = some (call.onCalls g)) :
    Rewritten config gets ts ((insertCallsAll ts calls).1.map (Tree.onCalls g)) := by
  have hgets' : List.Forall₂ (fun w call => Option.isSome call = true ↔ gets w)
      (Tree.functionWaysAll 0 ts) (calls.map (Option.map (Tree.onCalls g))) := by
    rw [List.forall₂_map_right_iff]
    exact hgets.imp fun w call hcall => by rw [Option.isSome_map, hcall]
  have hmade' : ∀ call', some call' ∈ calls.map (Option.map (Tree.onCalls g)) →
      ∃ identifier line, Hook.hookCall? config identifier line = some call' := by
    intro call' hcall'
    rcases List.mem_map.1 hcall' with ⟨_ | call, hcall, heq⟩
    · exact absurd heq.symm (Option.some_ne_none call')
    · rw [← Option.some.inj heq]
      exact hmade call hcall
  have hpieces := pieces_insertCallsAll 0 ts _ hfits hgets' hmade'
  rw [Tree.insertCallsAll_onCalls g ts calls hfits] at hpieces
  exact ⟨hfits, hfunctions, hpieces⟩

namespace Engine

/-- A file with calls and import is the same with other calls, but for these. -/
theorem withCalls_onCalls {m : Module} {ts : List Tree}
    (htree : m.tree = .node .module ts) (hfits : Tree.EverywhereAll Fits ts)
    {calls : List (Option Tree)} {g : List Tree → List Tree}
    (hgets : List.Forall₂ (fun w call => Option.isSome call = true ↔ gets w)
      m.tree.functionWays calls)
    (hfunctions : ∀ i w, gets (i :: w) → ∃ t, ts[i]? = some t ∧ w ∈ t.functionWays)
    (hmade : ∀ call, some call ∈ calls →
      ∃ identifier line, Hook.hookCall? config identifier line = some call)
    (hmade' : ∀ call, some call ∈ calls → ∃ identifier line,
      Hook.hookCall? config identifier line = some (call.onCalls g)) :
    withCalls config m (calls.map (Option.map (Tree.onCalls g))) =
      { m with tree := (withCalls config m calls).tree.onCalls g } := by
  have hany : (calls.map (Option.map (Tree.onCalls g))).any (·.isSome) =
      calls.any (·.isSome) := by
    rw [List.any_map]
    exact congrArg calls.any (funext fun call => by cases call <;> rfl)
  rw [withCalls, withCalls, hany, htree, insertCalls_module, insertCalls_module,
    Tree.insertCallsAll_onCalls g ts calls hfits]
  dsimp only
  split
  · -- With the import, both files are made from the same one.
    rw [htree, Tree.functionWays_node _ rfl] at hgets
    have h : Rewritten config gets ts (insertCallsAll ts calls).1 :=
      ⟨hfits, hfunctions, pieces_insertCallsAll 0 ts calls hfits hgets hmade⟩
    have h' := rewritten_onCalls hfits hgets hfunctions hmade'
    rw [Module.injectImport, Module.injectImport]
    dsimp only
    rw [injectImport_onCalls h h', Tree.onCalls_node g (by decide)]
  · rw [Tree.onCalls_node g (by decide)]

end Engine

end Import

/-! ### Identifiers -/

/-- What stands between the quotes of a word. -/
def unquoted (text : String) : String := String.ofList (text.toList.drop 1).dropLast

/-- The parts of a call with its identifier renamed. -/
def renamedParts (f : String → String) : List Tree → List Tree
  | path :: bracket :: .leaf (.token quoted) :: rest =>
      path :: bracket :: .word ("\"" ++ f (unquoted quoted) ++ "\"") :: rest
  | ts => ts

/-- A tree with the identifiers in its calls renamed. -/
def Source.Tree.renamed (f : String → String) : Tree → Tree := Tree.onCalls (renamedParts f)

theorem unquoted_quoted (text : String) : unquoted ("\"" ++ text ++ "\"") = text := by
  have hlist : ("\"" ++ text ++ "\"").toList = '"' :: (text.toList ++ ['"']) := by
    simp only [String.toList_append]
    rfl
  rw [unquoted, hlist, List.drop_succ_cons, List.drop_zero, List.dropLast_concat,
    String.ofList_toList]

/-- A call with its identifier renamed is the call with the other identifier. -/
theorem renamed_hookCall {config : Config} {f : String → String} {identifier : String} {line : Int}
    {call call' : Tree} (h : Hook.hookCall? config identifier line = some call)
    (h' : Hook.hookCall? config (f identifier) line = some call') : call.renamed f = call' := by
  rcases hookCall?_eq_some _ _ _ _ h with ⟨rfl, -⟩
  rcases hookCall?_eq_some _ _ _ _ h' with ⟨rfl, -⟩
  rw [← congrArg f (unquoted_quoted identifier)]
  rfl

end EntryCoverage
