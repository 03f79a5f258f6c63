import EntryCoverage.Proofs.Insertion

/-!
# Where Calls End Up

The parts of a file with calls in them, one by one.

Calls are handed out to the functions of a file in one row, and each part of the file
takes as many of them as it has functions. `Piece` says what has become of a part: it
goes back to the part that was read, it holds a call exactly if one of its functions got
one, and without a call it is what it was. What a part of a file is for, being a docstring,
an import or any other statement, can be told from shapes that going back does not change.

A tree that holds a call has the text of the call in its own text, so it is longer than
the call, even without the blanks at its ends.

## Main definitions

* `Inside`: A tree lies in another one.
* `HasCall`: A call of the hook lies in a tree.
* `Piece`: What has become of a part of a file.

## Theorems

* `inside_insertCalls`: Calls that are put into a tree lie in it.
* `pieces_insertCallsAll`: What has become of the parts of a file.
* `length_callText_le`: The text of a tree is not shorter than that of a call in it.
-/

namespace EntryCoverage

open Source

/-! ### Calls in trees -/

/-- A tree is another one or lies in it. -/
inductive Inside (t : Tree) : Tree → Prop
  | self : Inside t t
  | child {kind : Kind} {ts : List Tree} {u : Tree} (hu : u ∈ ts) (h : Inside t u) :
      Inside t (.node kind ts)

/-- A call of the hook lies in a tree. -/
def HasCall (t : Tree) : Prop := ∃ ts, Inside (.node .hookCall ts) t

/-- What holds of all nodes of a tree holds of a node in it. -/
theorem Inside.everywhere {ok : Kind → List Tree → Prop} {t u : Tree} (h : Inside t u)
    (hok : u.Everywhere ok) : t.Everywhere ok := by
  induction h with
  | self => exact hok
  | child hu _ ih => exact ih ((Tree.everywhereAll_iff _).1 hok.2 _ hu)

/-- No call is in a tree that was read. -/
theorem not_hasCall_of_fits {t : Tree} (h : t.Everywhere Fits) : ¬ HasCall t := by
  rintro ⟨ts, hinside⟩
  exact (hinside.everywhere h).1

/-- A call is in the line that is made for it. -/
theorem inside_lineOf (call : Tree) : Inside call (Hook.lineOf (Hook.callStatement call)) := by
  refine .child (u := Hook.callStatement call) ?_ (.child List.mem_cons_self .self)
  simp only [List.mem_cons, true_or, or_true]

/-- A call is in the block that it is put into. -/
theorem inside_insertIntoBlock (call : Tree) (ts : List Tree) :
    ∃ u ∈ insertIntoBlock call ts, Inside call u := by
  induction ts with
  | nil => exact ⟨_, List.mem_cons_self, inside_lineOf call⟩
  | cons t ts ih =>
      cases t with
      | leaf l =>
          rcases ih with ⟨u, hu, hinside⟩
          exact ⟨u, List.mem_cons_of_mem _ hu, hinside⟩
      | node kind parts =>
          rw [insertIntoBlock]
          split
          · refine ⟨_, List.mem_append_left _ (List.mem_cons_of_mem _ List.mem_cons_self), ?_⟩
            exact inside_lineOf call
          · exact ⟨_, List.mem_cons_self, inside_lineOf call⟩
          · exact fun l heq => Tree.noConfusion heq

/-- A call is on the line that it is put on. -/
theorem inside_insertIntoSuite (call : Tree) (ts : List Tree) :
    ∃ u ∈ insertIntoSuite call ts, Inside call u := by
  have hmem : Hook.callStatement call ∈ insertIntoSuite call ts := by
    unfold insertIntoSuite
    dsimp only
    repeat' split
    all_goals simp only [List.mem_cons, List.mem_append, true_or, or_true]
  exact ⟨_, hmem, .child List.mem_cons_self .self⟩

theorem inside_insertIntoBody (call body : Tree) (hbody : Builder.isBody body = true) :
    Inside call ((insertIntoBody? call body).getD body) := by
  unfold Builder.isBody at hbody
  split at hbody
  · rename_i indent ts
    rcases inside_insertIntoBlock call ts with ⟨u, hu, hinside⟩
    exact .child hu hinside
  · rename_i ts
    rcases inside_insertIntoSuite call ts with ⟨u, hu, hinside⟩
    exact .child hu hinside
  · exact absurd hbody Bool.false_ne_true

/-- A call is in the function that it is put into, if that ends as functions do. -/
theorem inside_insertCall (call : Tree) {kind : Kind} (head : List Tree) (body : Tree)
    (hkind : isFunction kind = true)
    (hbody : kind = .functionDef → Builder.isBody body = true) :
    Inside call (insertCall call kind (head ++ [body])) := by
  rw [insertCall_eq call kind _ hkind, partsWithCall]
  split
  · rename_i hdef
    rw [mapLast_concat]
    exact .child (List.mem_append_right _ List.mem_cons_self)
      (inside_insertIntoBody call body (hbody hdef))
  · rw [mapLast_concat]
    refine .child (List.mem_append_right _ List.mem_cons_self) (.child (u := call) ?_ .self)
    simp only [List.mem_cons, true_or, or_true]

theorem isBody_restore {t u : Tree} {turns left : List Turn} {calls : List Tree}
    (h : restore t turns = some (u, calls, left)) : Builder.isBody t = Builder.isBody u := by
  cases t with
  | leaf l =>
      cases h
      rfl
  | node kind ts =>
      rcases exists_of_restore_node h with ⟨us, rfl⟩
      cases kind <;> rfl

/-- Going back keeps how functions end. -/
theorem exists_concat_of_restoreAll {ts us : List Tree} {turns left : List Turn}
    {calls : List Tree} {kind : Kind} (hkind : isFunction kind = true) (hfits : Fits kind us)
    (h : restoreAll ts turns = some (us, calls, left)) :
    ∃ head body, ts = head ++ [body] ∧ (kind = .functionDef → Builder.isBody body = true) := by
  rcases List.eq_nil_or_concat ts with rfl | ⟨head, body, rfl⟩
  · -- A function has parts.
    cases h
    rcases (isFunction_iff kind).1 hkind with rfl | rfl
    · rcases hfits with ⟨head, body, hnil, -⟩
      exact absurd hnil.symm (List.append_ne_nil_of_right_ne_nil _ (List.cons_ne_nil _ _))
    · exact absurd rfl hfits
  · rw [List.concat_eq_append] at h ⊢
    refine ⟨head, body, rfl, ?_⟩
    rintro rfl
    rcases hfits with ⟨head', body', rfl, hbody⟩
    rcases restoreAll_append_eq_some.1 h with ⟨as, bs, c, d, mid, -, hlast, heq, -⟩
    rcases restoreAll_cons_eq_some.1 hlast with ⟨u, vs, c', d', mid', hrestore, hnil, rfl, -⟩
    cases hnil
    have hu : body' = u := (List.append_inj' heq rfl).2 |> List.cons.inj |>.1
    rw [isBody_restore hrestore, ← hu]
    exact hbody

/-- A node that is no function gets calls in its parts only. -/
theorem insertCalls_node {kind : Kind} (hkind : isFunction kind = false) (ts : List Tree)
    (calls : List (Option Tree)) :
    (insertCalls (.node kind ts) calls).1 = .node kind (insertCallsAll ts calls).1 := by
  rw [insertCalls]
  simp only [if_neg fun h => Bool.false_ne_true (hkind.symm.trans ((isFunction_iff kind).2 h))]

mutual

/-- A tree takes as many calls as it has functions, and leaves the others. -/
theorem insertCalls_append : ∀ (t : Tree) (used rest : List (Option Tree)),
    used.length = functionCount t →
      insertCalls t (used ++ rest) = ((insertCalls t used).1, rest)
  | .leaf l, used, rest, hlength => by
      rw [List.length_eq_zero_iff.1 hlength]
      rfl
  | .node kind ts, used, rest, hlength => by
      by_cases hkind : isFunction kind = true
      · -- The function takes the call behind those for what is in it.
        rw [functionCount, if_pos hkind] at hlength
        rcases List.eq_nil_or_concat used with rfl | ⟨inner, own, rfl⟩
        · exact absurd hlength (Nat.succ_ne_zero _).symm
        · rw [List.concat_eq_append] at hlength ⊢
          rw [List.length_append, List.length_singleton] at hlength
          have hinner := Nat.succ.inj hlength
          rw [insertCalls, insertCalls, List.append_assoc,
            insertCallsAll_append ts inner ([own] ++ rest) hinner,
            insertCallsAll_append ts inner [own] hinner]
          simp only [if_pos ((isFunction_iff kind).1 hkind), List.singleton_append]
          cases own <;> rfl
      · rw [functionCount, if_neg hkind] at hlength
        rw [insertCalls, insertCalls, insertCallsAll_append ts used rest hlength]
        simp only [if_neg (fun h => hkind ((isFunction_iff kind).2 h))]

theorem insertCallsAll_append : ∀ (ts : List Tree) (used rest : List (Option Tree)),
    used.length = functionCountAll ts →
      insertCallsAll ts (used ++ rest) = ((insertCallsAll ts used).1, rest)
  | [], used, rest, hlength => by
      rw [List.length_eq_zero_iff.1 hlength]
      rfl
  | t :: ts, used, rest, hlength => by
      rw [functionCountAll] at hlength
      have hfirst : (used.take (functionCount t)).length = functionCount t := by
        rw [List.length_take]
        omega
      have hsecond : (used.drop (functionCount t)).length = functionCountAll ts := by
        rw [List.length_drop]
        omega
      rw [← List.take_append_drop (functionCount t) used, List.append_assoc, insertCallsAll,
        insertCallsAll, insertCalls_append t _ _ hfirst, insertCalls_append t _ _ hfirst]
      simp only [insertCallsAll_append ts _ rest hsecond]

end

/-- Of the calls for trees in a row, the first ones are for the first tree, and the others
    for the rest. -/
theorem insertCallsAll_cons (t : Tree) (ts : List Tree) (first second : List (Option Tree))
    (hfirst : first.length = functionCount t) :
    (insertCallsAll (t :: ts) (first ++ second)).1 =
      (insertCalls t first).1 :: (insertCallsAll ts second).1 := by
  rw [insertCallsAll, insertCalls_append t first second hfirst]

/-- The calls for trees in a row are those for the first tree and those for the rest. -/
theorem exists_append_of_length {t : Tree} {ts : List Tree} {used : List (Option Tree)}
    (h : used.length = functionCountAll (t :: ts)) :
    ∃ first second, used = first ++ second ∧ first.length = functionCount t ∧
      second.length = functionCountAll ts := by
  rw [functionCountAll] at h
  refine ⟨_, _, (List.take_append_drop (functionCount t) used).symm, ?_, ?_⟩
  · rw [List.length_take]
    omega
  · rw [List.length_drop]
    omega

mutual

/-- Calls that are put into a tree lie in it. -/
theorem inside_insertCalls : ∀ (t : Tree) (used : List (Option Tree)),
    t.Everywhere Fits → used.length = functionCount t →
      (∀ call, some call ∈ used → IsCall call) → (∃ call, some call ∈ used) →
        ∃ call, some call ∈ used ∧ Inside call (insertCalls t used).1
  | .leaf l, used, _, hlength, _, hsome => by
      rw [List.length_eq_zero_iff.1 hlength] at hsome
      rcases hsome with ⟨call, hcall⟩
      exact absurd hcall List.not_mem_nil
  | .node kind ts, used, hfits, hlength, hcalls, hsome => by
      by_cases hkind : isFunction kind = true
      · -- The last call is for the function, the others are for what is in it.
        rw [functionCount, if_pos hkind] at hlength
        rcases List.eq_nil_or_concat used with rfl | ⟨inner, own, rfl⟩
        · exact absurd hlength (Nat.succ_ne_zero _).symm
        · rw [List.concat_eq_append] at hlength hcalls hsome ⊢
          rw [List.length_append, List.length_singleton] at hlength
          have hinner : ∀ call, some call ∈ inner → IsCall call := fun call hin =>
            hcalls call (List.mem_append_left _ hin)
          rcases restoreAll_insertCallsAll ts inner [own] hfits.2 (Nat.succ.inj hlength)
            hinner with ⟨ts', turns, hinsert, -, hback⟩
          have hts' : (insertCallsAll ts inner).1 = ts' := by
            rw [insertCallsAll_append ts inner [own] (Nat.succ.inj hlength)] at hinsert
            exact congrArg Prod.fst hinsert
          rw [insertCalls, hinsert]
          simp only [if_pos ((isFunction_iff kind).1 hkind)]
          cases own with
          | some call =>
              rcases exists_concat_of_restoreAll hkind hfits.1 (hback []) with
                ⟨head, body, rfl, hbody⟩
              exact ⟨call, List.mem_append_right _ List.mem_cons_self,
                inside_insertCall call head body hkind hbody⟩
          | none =>
              have hsome' : ∃ call, some call ∈ inner := by
                rcases hsome with ⟨call, hcall⟩
                rcases List.mem_append.1 hcall with hcall | hcall
                · exact ⟨call, hcall⟩
                · exact absurd (List.mem_singleton.1 hcall) (Option.some_ne_none call)
              rcases inside_insertCallsAll ts inner hfits.2 (Nat.succ.inj hlength) hinner
                hsome' with ⟨call, hcall, u, hu, hinside⟩
              rw [hts'] at hu
              exact ⟨call, List.mem_append_left _ hcall, .child hu hinside⟩
      · rw [functionCount, if_neg hkind] at hlength
        rcases inside_insertCallsAll ts used hfits.2 hlength hcalls hsome with
          ⟨call, hcall, u, hu, hinside⟩
        rw [insertCalls]
        simp only [if_neg (fun h => hkind ((isFunction_iff kind).2 h))]
        exact ⟨call, hcall, .child hu hinside⟩

theorem inside_insertCallsAll : ∀ (ts : List Tree) (used : List (Option Tree)),
    Tree.EverywhereAll Fits ts → used.length = functionCountAll ts →
      (∀ call, some call ∈ used → IsCall call) → (∃ call, some call ∈ used) →
        ∃ call, some call ∈ used ∧ ∃ u ∈ (insertCallsAll ts used).1, Inside call u
  | [], used, _, hlength, _, hsome => by
      rw [List.length_eq_zero_iff.1 hlength] at hsome
      rcases hsome with ⟨call, hcall⟩
      exact absurd hcall List.not_mem_nil
  | t :: ts, used, hfits, hlength, hcalls, hsome => by
      rcases exists_append_of_length hlength with ⟨first, second, rfl, hfirst, hsecond⟩
      rw [insertCallsAll_cons t ts first second hfirst]
      rcases hsome with ⟨call, hcall⟩
      rcases List.mem_append.1 hcall with hcall | hcall
      · rcases inside_insertCalls t first hfits.1 hfirst
          (fun call hin => hcalls call (List.mem_append_left _ hin)) ⟨call, hcall⟩ with
          ⟨call, hcall, hinside⟩
        exact ⟨call, List.mem_append_left _ hcall, _, List.mem_cons_self, hinside⟩
      · rcases inside_insertCallsAll ts second hfits.2 hsecond
          (fun call hin => hcalls call (List.mem_append_right _ hin)) ⟨call, hcall⟩ with
          ⟨call, hcall, u, hu, hinside⟩
        exact ⟨call, List.mem_append_right _ hcall, u, List.mem_cons_of_mem _ hu, hinside⟩

end

/-! ### The parts of a file -/

namespace Source.Tree

/-- The ways to the functions of trees in a row, the first of which is child `i`. -/
def functionWaysAll (i : Nat) : List Tree → List Way
  | [] => []
  | t :: ts => t.functionWays.map (i :: ·) ++ functionWaysAll (i + 1) ts

/-- The functions of trees in a row are those of the trees. -/
theorem filter_postorderAll (f : Way → Bool) (i : Nat) (ts : List Tree)
    (hf : ∀ j t, ts[j]? = some t → ∀ w, f ((i + j) :: w) = t.isFunctionAt w) :
    (postorderAll i ts).filter f = functionWaysAll i ts := by
  induction ts generalizing i with
  | nil => rfl
  | cons t ts ih =>
      have hfirst : (f ∘ fun w => i :: w) = t.isFunctionAt := by
        funext w
        exact hf 0 t rfl w
      rw [postorderAll, List.filter_append, List.filter_map, hfirst, ih (i + 1), functionWaysAll,
        functionWays]
      intro j t' ht' w
      rw [Nat.add_assoc, Nat.add_comm 1 j]
      exact hf (j + 1) t' ht' w

/-- The functions of a node that is none are those of its children. -/
theorem functionWays_node {kind : Kind} (ts : List Tree) (hkind : isFunction kind = false) :
    (Tree.node kind ts).functionWays = functionWaysAll 0 ts := by
  have hroot : (Tree.node kind ts).isFunctionAt [] = false := hkind
  rw [functionWays, postorder, List.filter_append, List.filter_cons_of_neg
    (by rw [hroot]; exact Bool.false_ne_true), List.filter_nil, List.append_nil]
  refine filter_postorderAll _ 0 ts (fun j t ht w => ?_)
  rw [Nat.zero_add, isFunctionAt, at?, children, ht, Option.bind_some, isFunctionAt]

/-- The functions of a function are those of its children, and then itself. -/
theorem functionWays_function {kind : Kind} (ts : List Tree) (hkind : isFunction kind = true) :
    (Tree.node kind ts).functionWays = functionWaysAll 0 ts ++ [[]] := by
  have hroot : (Tree.node kind ts).isFunctionAt [] = true := hkind
  rw [functionWays, postorder, List.filter_append, List.filter_cons_of_pos hroot, List.filter_nil]
  refine congrArg (· ++ [[]]) (filter_postorderAll _ 0 ts fun j t ht w => ?_)
  rw [Nat.zero_add, isFunctionAt, at?, children, ht, Option.bind_some, isFunctionAt]

/-- A way into trees in a row begins with the number of one of them. -/
theorem exists_of_mem_functionWaysAll {i : Nat} {ts : List Tree} {w : Way}
    (h : w ∈ functionWaysAll i ts) : ∃ j u, w = (i + j) :: u := by
  induction ts generalizing i with
  | nil => exact absurd h List.not_mem_nil
  | cons t ts ih =>
      rw [functionWaysAll, List.mem_append] at h
      rcases h with h | h
      · rcases List.mem_map.1 h with ⟨u, -, rfl⟩
        exact ⟨0, u, rfl⟩
      · rcases ih h with ⟨j, u, rfl⟩
        exact ⟨j + 1, u, by rw [Nat.add_assoc, Nat.add_comm 1 j]⟩

theorem length_functionWays (t : Tree) : t.functionWays.length = functionCount t := by
  rw [(functions_stand {} { origin := "" } t).length_eq]
  exact length_walk_functions {} "" { origin := "" } {} t

theorem length_functionWaysAll (i : Nat) (ts : List Tree) :
    (functionWaysAll i ts).length = functionCountAll ts := by
  induction ts generalizing i with
  | nil => rfl
  | cons t ts ih =>
      rw [functionWaysAll, List.length_append, List.length_map, length_functionWays, ih,
        functionCountAll]

end Source.Tree

/-- What has become of a part of a file, given which functions got calls. -/
structure Piece (config : Config) (gets : Way → Prop) (t t' : Tree) : Prop where
  /-- The part goes back to the one that was read. -/
  back : ∃ turns calls left, restore t' turns = some (t, calls, left)
  /-- Without a function that got a call, it is what it was. -/
  same : (∀ w ∈ t.functionWays, ¬ gets w) → t' = t
  /-- With one, a call is in it. -/
  inside : (∃ w ∈ t.functionWays, gets w) → ∃ identifier line call,
    Hook.hookCall? config identifier line = some call ∧ Inside call t'

section Pieces

variable {config : Config}

/-- What becomes of one part. -/
theorem piece_insertCalls {gets : Way → Prop} (t : Tree) (used : List (Option Tree))
    (hfits : t.Everywhere Fits)
    (hused : List.Forall₂ (fun w call => Option.isSome call = true ↔ gets w) t.functionWays used)
    (hcalls : ∀ call, some call ∈ used →
      ∃ identifier line, Hook.hookCall? config identifier line = some call) :
    Piece config gets t (insertCalls t used).1 := by
  have hlength : used.length = functionCount t := by
    rw [← hused.length_eq, Tree.length_functionWays]
  have hcall : ∀ call, some call ∈ used → IsCall call := by
    intro call hin
    rcases hcalls call hin with ⟨identifier, line, hhook⟩
    exact Engine.isCall_of_hookCall? hhook
  refine ⟨?_, ?_, ?_⟩
  · rcases restore_insertCalls t used [] hfits hlength hcall with ⟨t', turns, hinsert, -, hback⟩
    rw [List.append_nil] at hinsert
    rw [hinsert]
    exact ⟨_, _, _, hback []⟩
  · intro hnone
    refine (insertCalls_of_none t used fun call hin => ?_).1
    rcases List.getElem?_of_mem hin with ⟨i, hi⟩
    rcases forall₂_getElem? hused.flip i call hi with ⟨w, hw, hiff⟩
    cases call with
    | none => rfl
    | some call => exact absurd (hiff.1 rfl) (hnone w (List.mem_of_getElem? hw))
  · -- The call that is found in the part need not be the one for this function.
    rintro ⟨w, hw, hgets⟩
    rcases List.getElem?_of_mem hw with ⟨i, hi⟩
    rcases forall₂_getElem? hused i w hi with ⟨call, hin, hiff⟩
    rcases Option.isSome_iff_exists.1 (hiff.2 hgets) with ⟨made, rfl⟩
    rcases inside_insertCalls t used hfits hlength hcall
      ⟨made, List.mem_of_getElem? hin⟩ with ⟨call, hin, hinside⟩
    rcases hcalls call hin with ⟨identifier, line, hhook⟩
    exact ⟨identifier, line, call, hhook, hinside⟩

/-- What becomes of the parts of a file. Ways into a part begin with its number, and the
    parts are numbered from `i` on. -/
theorem pieces_insertCallsAll {gets : Way → Prop} (i : Nat) (ts : List Tree)
    (used : List (Option Tree)) (hfits : Tree.EverywhereAll Fits ts)
    (hused : List.Forall₂ (fun w call => Option.isSome call = true ↔ gets w)
      (Tree.functionWaysAll i ts) used)
    (hcalls : ∀ call, some call ∈ used →
      ∃ identifier line, Hook.hookCall? config identifier line = some call) :
    List.Forall₂ (fun ti t' => Piece config (fun w => gets (ti.2 :: w)) ti.1 t') (ts.zipIdx i)
      (insertCallsAll ts used).1 := by
  induction ts generalizing i used with
  | nil => exact .nil
  | cons t ts ih =>
      have hlength : used.length = functionCountAll (t :: ts) := by
        rw [← hused.length_eq, Tree.length_functionWaysAll]
      rcases exists_append_of_length hlength with ⟨first, second, rfl, hfirst, hsecond⟩
      have hsplit : (t.functionWays.map (i :: ·)).length = first.length := by
        rw [List.length_map, Tree.length_functionWays, hfirst]
      -- The first calls are for the functions of the first part.
      have hhere := List.forall₂_take_append _ first second hused
      have hthere := List.forall₂_drop_append _ first second hused
      rw [Tree.functionWaysAll, List.take_left' hsplit, List.forall₂_map_left_iff] at hhere
      rw [Tree.functionWaysAll, List.drop_left' hsplit] at hthere
      rw [insertCallsAll_cons t ts first second hfirst, List.zipIdx_cons]
      exact .cons
        (piece_insertCalls t first hfits.1 hhere fun call hin =>
          hcalls call (List.mem_append_left _ hin))
        (ih (i + 1) second hfits.2 hthere fun call hin =>
          hcalls call (List.mem_append_right _ hin))

end Pieces

/-! ### Texts with calls in them -/

/-- What begins with no blank stays when blanks are taken from the left. -/
theorem infix_dropWhile {c : Char} {cs ds : List Char} (hc : Text.isBlank c = false)
    (h : c :: cs <:+: ds) : c :: cs <:+: ds.dropWhile Text.isBlank := by
  rcases h with ⟨before, after, rfl⟩
  have hstay : (c :: cs ++ after).dropWhile Text.isBlank = c :: cs ++ after :=
    List.dropWhile_cons_of_neg (by rw [hc]; exact Bool.false_ne_true)
  rw [List.append_assoc, List.dropWhile_append]
  split
  · rw [hstay]
    exact (List.prefix_append _ _).isInfix
  · exact ⟨_, after, List.append_assoc _ _ _⟩

/-- What has no blanks at its ends stays when blanks are taken from both sides. -/
theorem infix_strip {c d : Char} {cs ds : List Char} (hc : Text.isBlank c = false)
    (hd : Text.isBlank d = false) (h : c :: cs ++ [d] <:+: ds) :
    c :: cs ++ [d] <:+: Text.strip ds := by
  have hleft : c :: cs ++ [d] <:+: ds.dropWhile Text.isBlank := infix_dropWhile hc h
  have hright := List.reverse_infix.2 hleft
  rw [List.reverse_concat] at hright
  -- From the right it is the same with everything turned around.
  have hboth := List.reverse_infix.2 (infix_dropWhile hd hright)
  rwa [List.reverse_cons, List.reverse_reverse] at hboth

/-- The text of a tree in a row is in the text of the row. -/
theorem infix_renderAll (layout : Layout) (margin : String) {t : Tree} {ts : List Tree}
    (h : t ∈ ts) :
    (t.render layout margin).toList <:+: (Tree.renderAll layout margin ts).toList := by
  rcases List.append_of_mem h with ⟨before, after, rfl⟩
  rw [Tree.renderAll_append, Tree.renderAll, String.toList_append, String.toList_append]
  exact ⟨_, _, List.append_assoc _ _ _⟩

/-- The text of a tree has the text of what lies in it, at some margin. -/
theorem Inside.infix_render {t u : Tree} (h : Inside t u) (layout : Layout) (margin : String) :
    ∃ within : String, (t.render layout within).toList <:+: (u.render layout margin).toList := by
  induction h generalizing margin with
  | self => exact ⟨margin, List.infix_rfl⟩
  | @child kind ts u hu _ ih =>
      rcases ih (kind.marginWithin layout margin) with ⟨within, hinfix⟩
      exact ⟨within, hinfix.trans (infix_renderAll layout _ hu)⟩

/-- The text of a tree is not shorter than that of a call in it. -/
theorem length_callText_le {config : Config} {identifier : String} {line : Int} {call t : Tree}
    (h : Hook.hookCall? config identifier line = some call) (hinside : Inside call t) :
    (callText config identifier line).toList.length ≤ (Naming.renderAlone t).toList.length := by
  rcases hinside.infix_render {} "" with ⟨within, hinfix⟩
  rcases toList_callText h with ⟨c, cs, hc, htext⟩
  rw [render_hookCall h, htext] at hinfix
  rw [Naming.renderAlone, String.toList_ofList, htext]
  exact (infix_strip hc (by decide) hinfix).length_le

/-- A text gets no longer when blanks are taken from its ends. -/
theorem length_strip_le (cs : List Char) : (Text.strip cs).length ≤ cs.length := by
  rw [Text.strip, Text.stripRight, List.length_reverse]
  calc (List.dropWhile Text.isBlank (cs.dropWhile Text.isBlank).reverse).length
      ≤ (cs.dropWhile Text.isBlank).reverse.length := (List.dropWhile_suffix _).length_le
    _ = (cs.dropWhile Text.isBlank).length := List.length_reverse
    _ ≤ cs.length := (List.dropWhile_suffix _).length_le

/-- A number has digits. -/
theorem length_toString_pos (n : Int) : 0 < (toString n).toList.length := by
  rw [String.length_toList, Int.toString_eq_repr, Int.repr_eq_if]
  split
  · exact Nat.length_repr_pos
  · rw [String.length_append]
    exact Nat.add_pos_right _ Nat.length_repr_pos

/-- The text of a call is longer than the import of its module: it has the path of the
    module, and more signs around it than the import has. -/
theorem length_importLine_lt (config : Config) (identifier : String) (line : Int) :
    (Naming.renderAlone (Hook.importLine config.hookNamespace)).toList.length <
      (callText config identifier line).toList.length := by
  have himport : ((Hook.importLine config.hookNamespace).render {} "").toList =
      ("import ".toList ++ config.hookNamespace.toList) ++ "\n".toList := by
    simp only [Hook.importLine, Hook.lineOf, Tree.render, Tree.renderAll, Tree.word, Tree.space,
      Leaf.render, String.toList_append, String.append_empty, String.empty_append]
    rfl
  have hstrip := length_strip_le ((Hook.importLine config.hookNamespace).render {} "").toList
  have hdigits := length_toString_pos line
  rw [Naming.renderAlone, String.toList_ofList]
  simp only [himport, callText, Config.hookPath, String.toList_append, List.length_append]
    at hstrip ⊢
  have himportSigns : "import ".toList.length + "\n".toList.length = 8 := rfl
  have hcallSigns : ".".toList.length + ".".toList.length + "(\"".toList.length +
      "\", ".toList.length + ")".toList.length = 8 := rfl
  omega

end EntryCoverage
