import EntryCoverage.Proofs.Calls

/-!
# The Import of the Hook

Whether the hook is known before the first call of it runs.

A file with calls gets an import of the hook's module, after its docstring and its
`__future__` imports, or keeps the one that it has somewhere at its top level. So there
always is one (`Injected.present`), but it need not come before all calls: the one that a
file has may stand below functions with calls, and a line that must stay first may have
functions on it.

`IsSafe` says of the tree that was read when all goes well, and `Injected.first` that it
does go well exactly then. Both sides can be compared part by part. A part with a call is
longer than the import, so the imports of the new file are those that were read and got no
call; and the lines that must stay first are known from shapes, which are the same with
calls and without.

## Main definitions

* `IsImport`: A part of a file is the import of the hook's module.
* `ImportsFirst`: That import stands before all calls.
* `keptFirst`: How many parts must stay first.
* `IsSafe`: The import will stand before all calls.
* `Injected`: What is known of the import in a file of a run.

## Theorems

* `insertLine_eq`: The import is put after the parts that must stay first.
* `Piece.hasCall_iff`, `Piece.isImport_iff`: Which parts have calls, and which are imports.
* `importsFirst_injectImport_iff`: When the import stands before all calls.
* `run_imports_hook`: The import in the files of a run.
-/

namespace EntryCoverage

open Source

/-! ### The parts that must stay first -/

/-- How many of the parts of a file must stay first; `first` says that no statement came
    before. -/
def keptFirst : Bool → List Tree → Nat
  | _, [] => 0
  | first, t :: ts =>
      if isStatement t then
        if (first && isDocstringLine t) || isFutureLine t then keptFirst false ts + 1 else 0
      else if t.isKind .footer then 0
      else keptFirst first ts + 1

/-- A line is put after the parts that must stay first. -/
theorem insertLine_eq (line : Tree) (first : Bool) (ts : List Tree) :
    insertLine line first ts =
      ts.take (keptFirst first ts) ++ line :: ts.drop (keptFirst first ts) := by
  induction ts generalizing first with
  | nil => rfl
  | cons t ts ih =>
      rw [insertLine, keptFirst]
      split
      · split
        · rw [List.take_succ_cons, List.drop_succ_cons, ih false, List.cons_append]
        · rfl
      · split
        · rfl
        · rw [List.take_succ_cons, List.drop_succ_cons, ih first, List.cons_append]

theorem keptFirst_le_length (first : Bool) (ts : List Tree) :
    keptFirst first ts ≤ ts.length := by
  induction ts generalizing first with
  | nil => exact Nat.le_refl 0
  | cons t ts ih =>
      rw [keptFirst]
      split
      · split
        · exact Nat.succ_le_succ (ih false)
        · exact Nat.zero_le _
      · split
        · exact Nat.zero_le _
        · exact Nat.succ_le_succ (ih first)

/-- Whether the name of a module is `__future__`. -/
def isFutureName : Tree → Bool
  | .node .name ts => Naming.firstWord? ts == some "__future__"
  | _ => false

/-- The first node of an import tells what it imports from. -/
theorem isFutureImport_importFrom (ts : List Tree) : isFutureImport (.node .importFrom ts) =
    ((Grammar.nodes ts).map isFutureName).head?.any id := by
  rw [isFutureImport]
  cases Grammar.nodes ts with
  | nil => rfl
  | cons t ts =>
      cases t with
      | leaf l => rfl
      | node kind inner => cases kind <;> rfl

section Shapes

variable {t u : Tree} {ts us : List Tree} {turns left : List Turn} {calls : List Tree}

/-- Going back keeps what can be told of the nodes in a row. -/
theorem map_nodes_restoreAll {α : Type} {f : Tree → α}
    (hf : ∀ {t u turns left calls}, restore t turns = some (u, calls, left) → f t = f u)
    (h : restoreAll ts turns = some (us, calls, left)) :
    (Grammar.nodes ts).map f = (Grammar.nodes us).map f := by
  refine map_filter_restoreAll (fun {t u _ _ _} h => ?_) hf h
  cases t with
  | leaf l =>
      cases h
      rfl
  | node kind ts =>
      rcases exists_of_restore_node h with ⟨us, rfl⟩
      rfl

/-- Going back keeps the words that are not in nodes. -/
theorem firstWord?_restoreAll (h : restoreAll ts turns = some (us, calls, left)) :
    Naming.firstWord? ts = Naming.firstWord? us := by
  induction ts generalizing us turns calls with
  | nil =>
      cases h
      rfl
  | cons t ts ih =>
      rcases restoreAll_cons_eq_some.1 h with ⟨u, vs, c, d, mid, hfirst, hrest, rfl, -⟩
      have hmore := ih hrest
      unfold Naming.firstWord? at hmore ⊢
      cases t with
      | leaf l =>
          cases hfirst
          rw [List.findSome?_cons, List.findSome?_cons, hmore]
      | node kind ts' =>
          rcases exists_of_restore_node hfirst with ⟨us', rfl⟩
          exact hmore

theorem isFutureName_restore (h : restore t turns = some (u, calls, left)) :
    isFutureName t = isFutureName u := by
  refine eq_of_restore .name rfl (fun hrow => ?_) ?_ h
  · rw [isFutureName, isFutureName, firstWord?_restoreAll hrow]
  · intro kind ts us hkind
    cases kind <;> first | rfl | exact absurd rfl hkind

/-- Going back keeps the imports from `__future__`. -/
theorem isFutureImport_restore (h : restore t turns = some (u, calls, left)) :
    isFutureImport t = isFutureImport u := by
  refine eq_of_restore .importFrom rfl (fun hrow => ?_) ?_ h
  · rw [isFutureImport_importFrom, isFutureImport_importFrom,
      map_nodes_restoreAll isFutureName_restore hrow]
  · intro kind ts us hkind
    cases kind <;> first | rfl | exact absurd rfl hkind

/-- Going back keeps which lines are docstrings and nothing else. -/
theorem isDocstringLine_restore (h : restore t turns = some (u, calls, left)) :
    isDocstringLine t = isDocstringLine u := by
  -- Whether a line is one only depends on which of its statements are docstrings.
  have hline : ∀ ts : List Tree, isDocstringLine (.node .simpleLine ts) =
      ((smallStatements ts).map isDocstring == [true]) := by
    intro ts
    rw [isDocstringLine]
    rcases smallStatements ts with _ | ⟨small, _ | ⟨small', more⟩⟩
    · rfl
    · have hone : ∀ b : Bool, b = ([b] == [true]) := by decide
      exact hone (isDocstring small)
    · exact (Bool.and_false _).symm
  refine eq_of_restore .simpleLine rfl (fun hrow => ?_) ?_ h
  · rw [hline, hline, map_isDocstring_restoreAll hrow]
  · intro kind ts us hkind
    cases kind <;> first | rfl | exact absurd rfl hkind

/-- Going back keeps which lines import from `__future__`. -/
theorem isFutureLine_restore (h : restore t turns = some (u, calls, left)) :
    isFutureLine t = isFutureLine u := by
  have hline : ∀ ts : List Tree, isFutureLine (.node .simpleLine ts) =
      ((smallStatements ts).map isFutureImport).any id := by
    intro ts
    rw [isFutureLine, List.any_map, Function.id_comp]
  refine eq_of_restore .simpleLine rfl (fun hrow => ?_) ?_ h
  · rw [hline, hline, smallStatements, smallStatements,
      map_filter_restoreAll isSmallStatement_restore isFutureImport_restore hrow]
  · intro kind ts us hkind
    cases kind <;> first | rfl | exact absurd rfl hkind

theorem isStatement_restore (h : restore t turns = some (u, calls, left)) :
    isStatement t = isStatement u := by
  cases t with
  | leaf l =>
      cases h
      rfl
  | node kind ts =>
      rcases exists_of_restore_node h with ⟨us, rfl⟩
      cases kind <;> rfl

/-- Going back keeps how many parts must stay first. -/
theorem keptFirst_eq_of_restore (first : Bool)
    (h : List.Forall₂ (fun t t' => ∃ turns calls left, restore t' turns = some (t, calls, left))
      ts us) : keptFirst first us = keptFirst first ts := by
  induction h generalizing first with
  | nil => rfl
  | cons hpart _ ih =>
      rcases hpart with ⟨turns, calls, left, hback⟩
      rw [keptFirst, keptFirst, isStatement_restore hback, isDocstringLine_restore hback,
        isFutureLine_restore hback, isKind_restore hback, ih false, ih first]

end Shapes

/-! ### Parts with calls and without -/

/-- A part of a file is the import of the hook's module: a statement with its text. -/
def IsImport (config : Config) (t : Tree) : Prop :=
  isStatement t = true ∧
    Naming.renderAlone t = Naming.renderAlone (Hook.importLine config.hookNamespace)

/-- Among the parts of a file, the import of the hook's module stands before all calls. -/
def ImportsFirst (config : Config) (parts : List Tree) : Prop :=
  ∃ i line, parts[i]? = some line ∧ IsImport config line ∧ ∀ t ∈ parts.take i, ¬ HasCall t

/-- No function in the part of a file with this number gets a call. -/
def Spared (gets : Way → Prop) (i : Nat) : Prop := ∀ w, ¬ gets (i :: w)

/-- The import will stand before all calls: an import that was read does, or there is none
    and the parts that must stay first get no calls. What gets a call is no import any
    more. -/
def IsSafe (config : Config) (gets : Way → Prop) (parts : List Tree) : Prop :=
  (∃ i line, parts[i]? = some line ∧ IsImport config line ∧ ∀ j ≤ i, Spared gets j) ∨
    ((∀ i line, parts[i]? = some line → IsImport config line → ¬ Spared gets i) ∧
      ∀ i < keptFirst true parts, Spared gets i)

section Piece

variable {config : Config} {gets : Way → Prop} {t t' : Tree}

/-- A part has a call exactly if one of its functions got one. -/
theorem Piece.hasCall_iff (h : Piece config gets t t') (hfits : t.Everywhere Fits) :
    HasCall t' ↔ ∃ w ∈ t.functionWays, gets w := by
  constructor
  · intro hcall
    by_contra hnone
    rw [h.same fun w hw hgets => hnone ⟨w, hw, hgets⟩] at hcall
    exact not_hasCall_of_fits hfits hcall
  · intro hsome
    rcases h.inside hsome with ⟨identifier, line, call, hhook, hinside⟩
    rw [(hookCall?_eq_some config identifier line call hhook).1] at hinside
    exact ⟨_, hinside⟩

/-- A part is an import exactly if it was one and got no call: with one it is too long. -/
theorem Piece.isImport_iff (h : Piece config gets t t') :
    IsImport config t' ↔ IsImport config t ∧ ¬ ∃ w ∈ t.functionWays, gets w := by
  by_cases hsome : ∃ w ∈ t.functionWays, gets w
  · rcases h.inside hsome with ⟨identifier, line, call, hhook, hinside⟩
    have hlong := length_callText_le hhook hinside
    have hshort := length_importLine_lt config identifier line
    constructor
    · rintro ⟨-, htext⟩
      rw [htext] at hlong
      exact absurd hshort (Nat.not_lt.2 hlong)
    · exact fun himport => absurd hsome himport.2
  · rw [h.same fun w hw hgets => hsome ⟨w, hw, hgets⟩]
    exact (and_iff_left hsome).symm

end Piece

/-- The parts of a file that was read, and what they are with calls in the functions that
    get them. -/
structure Rewritten (config : Config) (gets : Way → Prop) (parts parts' : List Tree) : Prop where
  fits : Tree.EverywhereAll Fits parts
  /-- What gets a call is a function in one of the parts. -/
  functions : ∀ i w, gets (i :: w) → ∃ t, parts[i]? = some t ∧ w ∈ t.functionWays
  pieces : List.Forall₂ (fun ti t' => Piece config (fun w => gets (ti.2 :: w)) ti.1 t')
    parts.zipIdx parts'

namespace Rewritten

variable {config : Config} {gets : Way → Prop} {parts parts' : List Tree}

theorem length_eq (h : Rewritten config gets parts parts') : parts'.length = parts.length := by
  rw [← h.pieces.length_eq, List.length_zipIdx]

/-- Each part has become what a piece becomes. -/
theorem piece (h : Rewritten config gets parts parts') {i : Nat} {t : Tree}
    (ht : parts[i]? = some t) :
    ∃ t', parts'[i]? = some t' ∧ Piece config (fun w => gets (i :: w)) t t' := by
  have hzip : parts.zipIdx[i]? = some (t, i) := by
    rw [List.getElem?_zipIdx, ht, Option.map_some, Nat.zero_add]
  exact forall₂_getElem? h.pieces i (t, i) hzip

/-- Each part has been one that was read. -/
theorem piece_of_getElem? (h : Rewritten config gets parts parts') {i : Nat} {t' : Tree}
    (ht' : parts'[i]? = some t') :
    ∃ t, parts[i]? = some t ∧ Piece config (fun w => gets (i :: w)) t t' := by
  have hi : i < parts.length := by
    rw [← h.length_eq]
    exact (List.getElem?_eq_some_iff.1 ht').1
  rcases h.piece (List.getElem?_eq_getElem hi) with ⟨u, hu, hpiece⟩
  rw [ht', Option.some.injEq] at hu
  exact ⟨parts[i], List.getElem?_eq_getElem hi, hu ▸ hpiece⟩

theorem spared_iff (h : Rewritten config gets parts parts') {i : Nat} {t : Tree}
    (ht : parts[i]? = some t) :
    Spared gets i ↔ ¬ ∃ w ∈ t.functionWays, gets (i :: w) := by
  constructor
  · rintro hspared ⟨w, -, hgets⟩
    exact hspared w hgets
  · intro hnone w hgets
    rcases h.functions i w hgets with ⟨u, hu, hw⟩
    rw [ht, Option.some.injEq] at hu
    exact hnone ⟨w, hu ▸ hw, hgets⟩

/-- The first parts have no calls exactly if they are spared. -/
theorem take_iff (h : Rewritten config gets parts parts') (n : Nat) :
    (∀ t ∈ parts'.take n, ¬ HasCall t) ↔ ∀ i < n, Spared gets i := by
  have hpart : ∀ {i t t'}, parts[i]? = some t → Piece config (fun w => gets (i :: w)) t t' →
      (¬ HasCall t' ↔ Spared gets i) := by
    intro i t t' ht hpiece
    have hfits := (Tree.everywhereAll_iff _).1 h.fits t (List.mem_of_getElem? ht)
    rw [hpiece.hasCall_iff hfits, h.spared_iff ht]
  constructor
  · intro hnone i hi w hgets
    rcases h.functions i w hgets with ⟨t, ht, -⟩
    rcases h.piece ht with ⟨t', ht', hpiece⟩
    have hmem : t' ∈ parts'.take n :=
      List.mem_of_getElem? (i := i) (by rw [List.getElem?_take_of_lt hi, ht'])
    exact (hpart ht hpiece).1 (hnone t' hmem) w hgets
  · intro hspared t' ht'
    rcases List.getElem?_of_mem ht' with ⟨i, hi⟩
    rw [List.getElem?_take, Option.ite_none_right_eq_some] at hi
    rcases h.piece_of_getElem? hi.2 with ⟨t, ht, hpiece⟩
    exact (hpart ht hpiece).2 (hspared i hi.1)

/-- The imports are those that were read and are spared. -/
theorem exists_import_iff (h : Rewritten config gets parts parts') (p : Nat → Prop) :
    (∃ i line, parts'[i]? = some line ∧ IsImport config line ∧ p i) ↔
      ∃ i line, parts[i]? = some line ∧ IsImport config line ∧ Spared gets i ∧ p i := by
  constructor
  · rintro ⟨i, line', hline', himport, hp⟩
    rcases h.piece_of_getElem? hline' with ⟨line, hline, hpiece⟩
    rcases hpiece.isImport_iff.1 himport with ⟨himport, hnone⟩
    exact ⟨i, line, hline, himport, (h.spared_iff hline).2 hnone, hp⟩
  · rintro ⟨i, line, hline, himport, hspared, hp⟩
    rcases h.piece hline with ⟨line', hline', hpiece⟩
    exact ⟨i, line', hline', hpiece.isImport_iff.2 ⟨himport, (h.spared_iff hline).1 hspared⟩, hp⟩

/-- As many parts must stay first as before. -/
theorem keptFirst_eq (h : Rewritten config gets parts parts') (first : Bool) :
    keptFirst first parts' = keptFirst first parts := by
  have hback := h.pieces.imp fun _ _ hpiece => hpiece.back
  rw [← List.zipIdx_map_fst 0 parts]
  exact keptFirst_eq_of_restore first (List.forall₂_map_left_iff.2 hback)

end Rewritten

/-! ### The import among the parts -/

theorem isImport_importLine (config : Config) :
    IsImport config (Hook.importLine config.hookNamespace) := ⟨rfl, rfl⟩

/-- A file that has the import keeps its parts. -/
theorem injectImport_of_import {config : Config} {parts : List Tree} {line : Tree}
    (hmem : line ∈ parts) (himport : IsImport config line) :
    injectImport config.hookNamespace parts = parts := by
  rw [injectImport, if_pos]
  exact List.any_eq_true.2 ⟨line, List.mem_filter.2 ⟨hmem, himport.1⟩, beq_iff_eq.2 himport.2⟩

/-- A file that has it nowhere gets it after the parts that must stay first. -/
theorem injectImport_of_no_import {config : Config} {parts : List Tree}
    (hnone : ∀ line ∈ parts, ¬ IsImport config line) :
    injectImport config.hookNamespace parts =
      parts.take (keptFirst true parts) ++
        Hook.importLine config.hookNamespace :: parts.drop (keptFirst true parts) := by
  rw [injectImport, if_neg, insertLine_eq]
  intro hany
  rcases List.any_eq_true.1 hany with ⟨line, hline, htext⟩
  rcases List.mem_filter.1 hline with ⟨hline, hstatement⟩
  exact hnone line hline ⟨hstatement, beq_iff_eq.1 htext⟩

/-- The import is there. -/
theorem exists_import_injectImport (config : Config) (parts : List Tree) :
    ∃ line ∈ injectImport config.hookNamespace parts, IsImport config line := by
  by_cases hsome : ∃ line ∈ parts, IsImport config line
  · rcases hsome with ⟨line, hline, himport⟩
    rw [injectImport_of_import hline himport]
    exact ⟨line, hline, himport⟩
  · rw [injectImport_of_no_import fun line hline himport => hsome ⟨line, hline, himport⟩]
    exact ⟨_, List.mem_append_right _ List.mem_cons_self, isImport_importLine config⟩

/-- If a file gets the import, it stands before all calls exactly if the parts before it
    have none. -/
theorem importsFirst_injectImport_of_no_import {config : Config} {parts : List Tree}
    (hnone : ∀ line ∈ parts, ¬ IsImport config line) :
    ImportsFirst config (injectImport config.hookNamespace parts) ↔
      ∀ t ∈ parts.take (keptFirst true parts), ¬ HasCall t := by
  have hlength : (parts.take (keptFirst true parts)).length = keptFirst true parts := by
    rw [List.length_take, Nat.min_eq_left (keptFirst_le_length true parts)]
  rw [injectImport_of_no_import hnone]
  constructor
  · rintro ⟨i, line, hline, himport, hbefore⟩
    -- Before and after it there is no import.
    rcases Nat.lt_trichotomy i (keptFirst true parts) with hlt | rfl | hgt
    · rw [List.getElem?_append_left (by rwa [hlength])] at hline
      exact absurd himport (hnone line (List.mem_of_mem_take (List.mem_of_getElem? hline)))
    · rwa [List.take_left' hlength] at hbefore
    · rw [List.getElem?_append_right (by rw [hlength]; exact Nat.le_of_lt hgt), hlength,
        List.getElem?_cons, if_neg (Nat.sub_ne_zero_of_lt hgt)] at hline
      exact absurd himport (hnone line (List.mem_of_mem_drop (List.mem_of_getElem? hline)))
  · intro hbefore
    refine ⟨keptFirst true parts, _, ?_, isImport_importLine config, ?_⟩
    · rw [List.getElem?_append_right (Nat.le_of_eq hlength), hlength, Nat.sub_self]
      rfl
    · rwa [List.take_left' hlength]

/-- When the import stands before all calls, told from the parts that were read. -/
theorem importsFirst_injectImport_iff {config : Config} {gets : Way → Prop}
    {parts parts' : List Tree} (h : Rewritten config gets parts parts') :
    ImportsFirst config (injectImport config.hookNamespace parts') ↔
      IsSafe config gets parts := by
  have hfirst : (∃ i line, parts'[i]? = some line ∧ IsImport config line ∧
      ∀ t ∈ parts'.take i, ¬ HasCall t) ↔
        ∃ i line, parts[i]? = some line ∧ IsImport config line ∧ ∀ j ≤ i, Spared gets j := by
    simp only [h.take_iff]
    rw [h.exists_import_iff]
    simp only [Nat.le_iff_lt_or_eq, or_imp, forall_and, forall_eq, and_comm]
  by_cases hsome : ∃ line ∈ parts', IsImport config line
  · -- The import is where it was.
    rcases hsome with ⟨line', hline', himport'⟩
    rw [injectImport_of_import hline' himport', ImportsFirst, hfirst]
    refine ⟨.inl, fun hsafe => hsafe.resolve_right fun hnone => ?_⟩
    rcases List.getElem?_of_mem hline' with ⟨i, hi⟩
    rcases (h.exists_import_iff fun _ => True).1 ⟨i, line', hi, himport', trivial⟩ with
      ⟨i, line, hline, himport, hspared, -⟩
    exact hnone.1 i line hline himport hspared
  · -- The import is new.
    have hnone : ∀ line ∈ parts', ¬ IsImport config line :=
      fun line hline himport => hsome ⟨line, hline, himport⟩
    rw [importsFirst_injectImport_of_no_import hnone, h.take_iff, h.keptFirst_eq]
    have hread : ∀ i line, parts[i]? = some line → IsImport config line → ¬ Spared gets i := by
      intro i line hline himport hspared
      rcases (h.exists_import_iff fun _ => True).2
        ⟨i, line, hline, himport, hspared, trivial⟩ with ⟨i, line', hline', himport', -⟩
      exact hnone line' (List.mem_of_getElem? hline') himport'
    refine ⟨fun hspared => .inr ⟨hread, hspared⟩, fun hsafe => ?_⟩
    rcases hsafe with ⟨i, line, hline, himport, hspared⟩ | hsafe
    · exact absurd (hspared i (Nat.le_refl i)) (hread i line hline himport)
    · exact hsafe.2

/-! ### The files of a run -/

namespace Engine

/-- What is known of the import in a file that a run went through, given the files before
    it, its tree, what became of it, and its calls. -/
structure Injected (config : Config) (earlier : List SourceUnit) (u : SourceUnit) (m : Module)
    (result : InstrumentedUnit) (calls : List (Option Tree)) : Prop where
  /-- The code is that of the tree with calls and the import. -/
  written : result.code = (withCalls config m calls).render
  /-- Of the functions of the tree, those that are chosen got calls. -/
  chosen : List.Forall₂ (fun w call => Option.isSome call = true ↔
      IsOpen config earlier u.name ∧ Chosen config u.name m.tree w)
    m.tree.functionWays calls
  /-- The calls are calls of the hook. -/
  made : ∀ call, some call ∈ calls →
    ∃ identifier line, Hook.hookCall? config identifier line = some call
  /-- A file with calls has the import at its top level. -/
  present : 0 < result.siteCount →
    ∃ line ∈ (withCalls config m calls).tree.children, IsImport config line
  /-- It stands before all calls exactly if it was safe to put it where it is. -/
  first : 0 < result.siteCount →
    (ImportsFirst config (withCalls config m calls).tree.children ↔
      IsSafe config (Chosen config u.name m.tree) m.tree.children)

/-- What is chosen in a tree is a function in one of its parts, if the tree is none. -/
theorem Chosen.exists_mem_functionWays {config : Config} {file : String} {t : Tree} {i : Nat}
    {w : Way} (h : Chosen config file t (i :: w)) :
    ∃ part, t.children[i]? = some part ∧ w ∈ part.functionWays := by
  rcases h.isFunction with ⟨kind, ts, hat, hkind⟩
  rw [Tree.at?, Option.bind_eq_some_iff] at hat
  rcases hat with ⟨part, hpart, hat⟩
  refine ⟨part, hpart, List.mem_filter.2 ⟨(Tree.mem_postorder part w).2 ⟨kind, ts, hat⟩, ?_⟩⟩
  rw [Tree.isFunctionAt, hat]
  exact (isFunction_iff kind).2 (hkind.imp id And.left)

/-- A file is no function, so calls go into its parts. -/
theorem insertCalls_module (ts : List Tree) (calls : List (Option Tree)) :
    (insertCalls (.node .module ts) calls).1 = .node .module (insertCallsAll ts calls).1 :=
  insertCalls_node rfl ts calls

/-- The parts of a file that gets calls are its parts with calls and the import. -/
theorem children_withCalls {config : Config} {m : Module} {ts : List Tree}
    {calls : List (Option Tree)} (htree : m.tree = .node .module ts)
    (hinject : config.injectHookImport = true) (hany : calls.any (·.isSome) = true) :
    (withCalls config m calls).tree.children =
      injectImport config.hookNamespace (insertCallsAll ts calls).1 := by
  have hinsert : (insertCalls m.tree calls).1 = .node .module (insertCallsAll ts calls).1 := by
    rw [htree, insertCalls]
    rfl
  rw [withCalls, hinject, hany, Bool.and_self, if_pos rfl, Module.injectImport]
  simp only [hinsert, Tree.children]

/-- What was planned for a tree that was read, and what comes of its import. -/
theorem Planned.injected {config : Config} {d : Done} {u : SourceUnit} {earlier : List SourceUnit}
    (h : Planned config d.name (earlier.any fun e => definesHook config e.name) d.nodes d.sites
      d.calls) (hname : u.name = d.name) (hparse : Module.parse? u.code = some d.source)
    (hinject : config.injectHookImport = true) :
    Injected config earlier u d.source (d.result config) d.calls := by
  have hchosen := h.calls_chosen
  rcases parse?_fits hparse with ⟨hfits, above, more, htree⟩
  have hsites : 0 < (d.result config).siteCount →
      d.calls.any (·.isSome) = true ∧ IsOpen config earlier d.name := by
    intro hsites
    rw [Done.result, ← h.length_calls, ← List.countP_eq_length_filter,
      List.countP_pos_iff] at hsites
    rcases hsites with ⟨call, hcall, hissome⟩
    rcases List.getElem?_of_mem hcall with ⟨i, hi⟩
    rcases forall₂_getElem? hchosen.flip i call hi with ⟨w, -, hiff⟩
    exact ⟨List.any_eq_true.2 ⟨call, hcall, hissome⟩, (hiff.1 hissome).1⟩
  refine ⟨rfl, by rw [hname]; exact hchosen, h.calls_made, fun hpos => ?_, fun hpos => ?_⟩
  · rw [children_withCalls htree hinject (hsites hpos).1]
    exact exists_import_injectImport config _
  · rw [children_withCalls htree hinject (hsites hpos).1, hname]
    -- In an open file, the chosen functions are those that got calls.
    have hgets := hchosen.imp fun _ _ hiff => hiff.trans (and_iff_right (hsites hpos).2)
    refine importsFirst_injectImport_iff
      ⟨?_, fun i w hchosen => hchosen.exists_mem_functionWays, ?_⟩
    · rw [htree] at hfits ⊢
      exact hfits.2
    · rw [htree] at hgets hfits ⊢
      rw [Tree.functionWays_node _ rfl] at hgets
      exact pieces_insertCallsAll 0 _ _ hfits.2 hgets h.calls_made

/-- Every file of a run has the import that goes with its calls. -/
def InjectsImports (config : Config) (units : List SourceUnit) (o : Outcome) : Prop :=
  ∀ i u, units[i]? = some u → ∃ m result calls, Module.parse? u.code = some m ∧
    o.units[i]? = some result ∧ Injected config (units.take i) u m result calls

/-- Whatever the files, after a run that ends well and is to import the hook's module, every
    file with calls has the import. It stands before all calls if one that was read does, or
    if none was read and no function gets a call in the lines that must stay first; in any
    other file a call comes before it. -/
theorem run_imports_hook (config : Config) (counter : Int) (units : List SourceUnit)
    (o : Outcome) (h : (run config counter units).outcome = .ok o) (hsuccess : o.success = true)
    (hinject : config.injectHookImport = true) : InjectsImports config units o := by
  rcases run_ok h hsuccess with ⟨done, seen, hended⟩
  rcases hended.handled.planned hended.root with ⟨-, hplanned⟩
  intro i u hu
  rcases forall₂_getElem? hended.parsed i u hu with ⟨d, hd, hname, hparse⟩
  have hd' := hplanned i d hd
  rw [Bool.false_or, hended.any_definesHook] at hd'
  refine ⟨d.source, d.result config, d.calls, hparse, ?_, hd'.injected hname hparse hinject⟩
  rw [hended.units, List.getElem?_map, hd, Option.map_some]

/-- A program whose second file calls a lambda before it imports the hook's module. -/
def lateImport : List SourceUnit :=
  [⟨"instrument_code.py", ""⟩, ⟨"a.py", "x = (lambda: 0)()\nimport instrument_code\n"⟩]

/-- What becomes of the code of its second file. -/
def lateImportCode : String :=
  "x = (lambda: (instrument_code.instrument_code_instance.instrument_code" ++
    "(\"C\", 1), 0)[-1])()\nimport instrument_code\n"

/-- The import that is there keeps another one out, and the call comes before it. -/
theorem run_imports_hook_late : ∃ o, (run {} 0 lateImport).outcome = .ok o ∧ o.success = true ∧
    ({} : Config).injectHookImport = true ∧ InjectsImports {} lateImport o ∧
      o.units.map (·.code) = ["", lateImportCode] := by
  have hends : (run {} 0 lateImport).outcome.toOption.map
      (fun o => (o.success, o.units.map (·.code))) = some (true, ["", lateImportCode]) := by
    decide +kernel
  rcases exists_outcome hends with ⟨o, houtcome, hseen⟩
  rcases Prod.mk.inj hseen with ⟨hsuccess, hcode⟩
  exact ⟨o, houtcome, hsuccess, rfl,
    run_imports_hook {} 0 lateImport o houtcome hsuccess rfl, hcode⟩

end Engine

end EntryCoverage
