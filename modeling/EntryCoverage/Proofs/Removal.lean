import EntryCoverage.Proofs.Parsed
import EntryCoverage.Visit

/-!
# Taking Calls Out

How to get a call out of a function again, given the function only.

A call is found where it was put: a definition has it as its first statement, or as its
second one after a docstring, and a lambda has it in the pair that is its body. What
cannot be seen is whether a docstring's line was split, since the two lines that come of
it look like any others. So whoever takes a call out of a block has to know that, and
brings the semicolon that was there (`joint`); its blanks are all that is not in the
tree any more.

Taking out is the inverse of putting in, one function at a time
(`takeOut_insertCall`). It needs the tree to be one that was read: only then are split
lines split at a semicolon, and only then is every separator one that came with a call.

## Main definitions

* `hookStatement?`, `hookLine?`: The call that a statement or a line is.
* `linesWithCall`: A docstring's line with a call after the docstring.
* `takeFromBlock`, `takeFromSuite`, `takeFromPair`: Statements or an expression without
  the call.
* `takeOut`: A function without its call.

## Theorems

* `takeFromBlock_insertIntoBlock`, `takeFromSuite_insertIntoSuite`: A body without the
  call that was put into it.
* `takeOut_insertCall`: A function without the call that was put into it.
-/

namespace EntryCoverage

open Source

/-! ### Calls -/

/-- A tree is a call of the hook, made of words and blanks. -/
def IsCall (call : Tree) : Prop := ∃ ls : List Leaf, call = .node .hookCall (ls.map .leaf)

/-- The call that a small statement is. -/
def hookStatement? : Tree → Option Tree
  | .node .expressionStatement [.node .hookCall ts] => some (.node .hookCall ts)
  | _ => none

/-- The call that a line is. -/
def hookLine? : Tree → Option Tree
  | .node .simpleLine [.node .leading [], .leaf .margin, statement, .leaf (.newline none)] =>
      hookStatement? statement
  | _ => none

/-! ### Taking out -/

/-- Two lines as one, with a semicolon where the first one ended. -/
def joinLines (joint : Tree) : Tree → Tree → Option Tree
  | .node .simpleLine first, .node .simpleLine (.node .leading [] :: .leaf .margin :: rest) =>
      match first.getLast? with
      | some (.leaf (.newline none)) => some (.node .simpleLine (first.dropLast ++ joint :: rest))
      | _ => none
  | _, _ => none

/-- The call in the statements of a block, and the statements without it. A semicolon is
    given if the docstring's line was split. -/
def takeFromBlock (joint : Option Tree) : List Tree → Option (Tree × List Tree)
  | [] => none
  | .leaf l :: ts => (takeFromBlock joint ts).map fun (call, ts) => (call, .leaf l :: ts)
  | t :: ts =>
      match hookLine? t with
      | some call => some (call, ts)
      | none =>
          if startsWithDocstring t then
            match joint, ts with
            | none, line :: ts => (hookLine? line).map fun call => (call, t :: ts)
            | some joint, line :: rest :: ts => do
                let call ← hookLine? line
                let t ← joinLines joint t rest
                some (call, t :: ts)
            | _, _ => none
          else none

/-- The call in the statements on a function's own line after a docstring, and the
    statements without it. -/
def takeAfter (docstring : List Tree) : List Tree → Option (Tree × List Tree)
  | gap :: statement :: rest =>
      match hookStatement? statement with
      | none => none
      | some call =>
          if gap.isKind .separator then some (call, docstring ++ rest)
          else if gap.isKind .semicolon then
            match rest with
            | t :: ts =>
                some (call, docstring ++ gap :: if t.isKind .separator then ts else t :: ts)
            | [] => some (call, docstring ++ [gap])
          else none
  | _ => none

/-- The call that statements on a function's own line begin with, and the statements
    after it. -/
def takeFirst : List Tree → Option (Tree × List Tree)
  | statement :: gap :: rest =>
      if gap.isKind .separator then (hookStatement? statement).map fun call => (call, rest)
      else none
  | _ => none

/-- The call in the statements on a function's own line, and the statements without
    it. -/
def takeFromSuite (ts : List Tree) : Option (Tree × List Tree) :=
  match takeFirst ts with
  | some taken => some taken
  | none =>
      let (first, rest) := splitAfterFirst ts
      if first.getLast?.any isDocstring then takeAfter first rest else none

/-- The call in a function's body, and the body without it. -/
def takeFromBody (joint : Option Tree) : Tree → Option (Tree × Tree)
  | .node (.block indent) ts =>
      (takeFromBlock joint ts).map fun (call, ts) => (call, .node (.block indent) ts)
  | .node .suite ts => (takeFromSuite ts).map fun (call, ts) => (call, .node .suite ts)
  | _ => none

/-- The call in a pair of a call and an expression, of which the last is taken, and the
    expression. -/
def takeFromPair : Tree → Option (Tree × Tree)
  | .node .sequenced
      [.leaf (.token "("), .node .hookCall ts, .leaf (.token ","), .leaf (.blank " "), body,
        .leaf (.token ")"), .leaf (.token "["), .leaf (.token "-"), .leaf (.token "1"),
        .leaf (.token "]")] => some (.node .hookCall ts, body)
  | _ => none

/-- The call in a function, and the function's parts without it. -/
def takeOut (joint : Option Tree) (kind : Kind) (ts : List Tree) : Option (Tree × List Tree) :=
  match ts.getLast? with
  | none => none
  | some last =>
      let taken := if kind = .functionDef then takeFromBody joint last else takeFromPair last
      taken.map fun (call, last) => (call, ts.dropLast ++ [last])

/-! ### Where calls are found -/

theorem hookStatement?_callStatement (call : Tree) (h : IsCall call) :
    hookStatement? (Hook.callStatement call) = some call := by
  rcases h with ⟨ls, rfl⟩
  rfl

theorem hookLine?_lineOf (call : Tree) (h : IsCall call) :
    hookLine? (Hook.lineOf (Hook.callStatement call)) = some call := by
  rcases h with ⟨ls, rfl⟩
  rfl

/-- What is a call is a small statement and no docstring. -/
theorem of_hookStatement? {t call : Tree} (h : hookStatement? t = some call) :
    isSmallStatement t = true ∧ isDocstring t = false := by
  unfold hookStatement? at h
  split at h
  · exact ⟨rfl, rfl⟩
  · simp only [reduceCtorEq] at h

theorem hookStatement?_of_isDocstring {t : Tree} (h : isDocstring t = true) :
    hookStatement? t = none := by
  refine Option.eq_none_iff_forall_ne_some.2 fun call hcall => ?_
  rw [(of_hookStatement? hcall).2] at h
  exact absurd h Bool.false_ne_true

theorem hookStatement?_of_not_small {t : Tree} (h : isSmallStatement t = false) :
    hookStatement? t = none := by
  refine Option.eq_none_iff_forall_ne_some.2 fun call hcall => ?_
  rw [(of_hookStatement? hcall).1] at h
  exact absurd h.symm Bool.false_ne_true

/-- A line that begins with a docstring is no call. -/
theorem hookLine?_of_startsWithDocstring {t : Tree} (h : startsWithDocstring t = true) :
    hookLine? t = none := by
  refine Option.eq_none_iff_forall_ne_some.2 fun call hcall => ?_
  unfold hookLine? at hcall
  split at hcall
  · rename_i statement
    rcases of_hookStatement? hcall with ⟨hsmall, hdocstring⟩
    -- The call is the first small statement of its line.
    have hstart : startsWithDocstring (.node .simpleLine
        [.node .leading [], .leaf .margin, statement, .leaf (.newline none)]) =
          isDocstring statement := by
      rw [startsWithDocstring, smallStatements, List.filter_cons_of_neg Bool.false_ne_true,
        List.filter_cons_of_neg Bool.false_ne_true, List.filter_cons_of_pos hsmall,
        List.head?_cons, Option.any_some]
    rw [hstart, hdocstring] at h
    exact absurd h Bool.false_ne_true
  · simp only [reduceCtorEq] at hcall

/-! ### Blocks -/

/-- A line either has no small statement or is cut after its first one. -/
theorem splitAfterFirst_cases (ts : List Tree) :
    ((∀ t ∈ ts, isSmallStatement t = false) ∧ splitAfterFirst ts = (ts, [])) ∨
      ∃ lead t rest, ts = lead ++ t :: rest ∧ (∀ u ∈ lead, isSmallStatement u = false) ∧
        isSmallStatement t = true ∧ splitAfterFirst ts = (lead ++ [t], rest) := by
  induction ts with
  | nil => exact .inl ⟨fun t ht => absurd ht List.not_mem_nil, rfl⟩
  | cons t ts ih =>
      cases ht : isSmallStatement t with
      | true =>
          refine .inr ⟨[], t, ts, rfl, fun u hu => absurd hu List.not_mem_nil, ht, ?_⟩
          rw [splitAfterFirst, if_pos ht, List.nil_append]
      | false =>
          rw [splitAfterFirst, if_neg (by rw [ht]; exact Bool.false_ne_true)]
          rcases ih with ⟨hnone, hsplit⟩ | ⟨lead, u, rest, rfl, hlead, hu, hsplit⟩
          · exact .inl ⟨List.forall_mem_cons.2 ⟨ht, hnone⟩, by rw [hsplit]⟩
          · exact .inr ⟨t :: lead, u, rest, rfl, List.forall_mem_cons.2 ⟨ht, hlead⟩, hu,
              by rw [hsplit, List.cons_append]⟩

theorem splitAfterFirst_fst_append_snd (ts : List Tree) :
    (splitAfterFirst ts).1 ++ (splitAfterFirst ts).2 = ts := by
  rcases splitAfterFirst_cases ts with ⟨-, hsplit⟩ | ⟨lead, t, rest, rfl, -, -, hsplit⟩
  · rw [hsplit, List.append_nil]
  · rw [hsplit, List.append_assoc, List.singleton_append]

theorem afterSemicolon?_eq_some {ts : List Tree} {found : Tree × List Tree}
    (h : afterSemicolon? ts = some found) :
    found.1.isKind .semicolon = true ∧ ts = found.1 :: found.2 := by
  cases ts with
  | nil => simp only [afterSemicolon?, reduceCtorEq] at h
  | cons t ts =>
      rw [afterSemicolon?] at h
      split at h
      · rename_i ht
        cases h
        exact ⟨ht, rfl⟩
      · simp only [reduceCtorEq] at h

/-- The first small statement comes after what is none. -/
theorem smallStatements_append (lead rest : List Tree) (t : Tree)
    (hlead : ∀ u ∈ lead, isSmallStatement u = false) (ht : isSmallStatement t = true) :
    smallStatements (lead ++ t :: rest) = t :: smallStatements rest := by
  have hnone : lead.filter isSmallStatement = [] :=
    List.filter_eq_nil_iff.2 fun u hu => by rw [hlead u hu]; exact Bool.false_ne_true
  rw [smallStatements, List.filter_append, hnone, List.nil_append, List.filter_cons_of_pos ht,
    smallStatements]

/-- A line with one small statement is not cut. -/
theorem cutAfterDocstring_of_le {ts : List Tree} (h : (smallStatements ts).length ≤ 1) :
    cutAfterDocstring (.node .simpleLine ts) = (.node .simpleLine ts, none) := by
  rw [cutAfterDocstring, if_pos h]

/-- A line with more of them is cut at the semicolon after the first one. -/
theorem cutAfterDocstring_of_lt {ts rest : List Tree} {joint : Tree}
    (h : 1 < (smallStatements ts).length)
    (hafter : afterSemicolon? (splitAfterFirst ts).2 = some (joint, rest)) :
    cutAfterDocstring (.node .simpleLine ts) =
      (.node .simpleLine ((splitAfterFirst ts).1 ++ [.leaf (.newline none)]),
        some (.node .simpleLine (.node .leading [] :: .leaf .margin :: rest))) := by
  rw [cutAfterDocstring, if_neg (Nat.not_le_of_lt h)]
  simp only [hafter, Option.elim_some]

/-- What stands before the semicolon, the semicolon and what stands after it are the
    line. -/
theorem splitAfterFirst_of_semicolon {ts rest : List Tree} {joint : Tree}
    (hafter : afterSemicolon? (splitAfterFirst ts).2 = some (joint, rest)) :
    ts = (splitAfterFirst ts).1 ++ joint :: rest ∧ joint.isKind .semicolon = true := by
  rcases afterSemicolon?_eq_some hafter with ⟨hjoint, hrest⟩
  have hline := splitAfterFirst_fst_append_snd ts
  rw [hrest] at hline
  exact ⟨hline.symm, hjoint⟩

/-- The first part of a line begins with a docstring if the line does. -/
theorem startsWithDocstring_splitAfterFirst (ts after : List Tree)
    (h : startsWithDocstring (.node .simpleLine ts) = true) :
    startsWithDocstring (.node .simpleLine ((splitAfterFirst ts).1 ++ after)) = true := by
  rcases splitAfterFirst_cases ts with ⟨hnone, -⟩ | ⟨lead, t, rest, rfl, hlead, ht, hsplit⟩
  · have hempty : smallStatements ts = [] :=
      List.filter_eq_nil_iff.2 fun t ht => by rw [hnone t ht]; exact Bool.false_ne_true
    rw [startsWithDocstring, hempty] at h
    exact absurd h Bool.false_ne_true
  · rw [startsWithDocstring, smallStatements_append _ _ _ hlead ht] at h
    rw [hsplit, startsWithDocstring, List.append_assoc, List.singleton_append,
      smallStatements_append _ _ _ hlead ht]
    exact h

/-- A semicolon of a split line is one that was read: blanks and the sign. -/
def IsJoint (joint : Option Tree) : Prop := ∀ t, joint = some t → ∃ ts, t = .node .semicolon ts ∧
  Fits .semicolon ts

theorem isJoint_none : IsJoint none := fun _ h => nomatch h

/-- A semicolon in a tree that was read can join lines. -/
theorem isJoint_some {t : Tree} (hkind : t.isKind .semicolon = true) (h : t.Everywhere Fits) :
    IsJoint (some t) := by
  intro u hu
  cases hu
  cases t with
  | leaf l => exact absurd hkind Bool.false_ne_true
  | node kind ts =>
      rw [Tree.isKind, beq_iff_eq] at hkind
      subst hkind
      exact ⟨ts, rfl, h.1⟩

theorem joinLines_split (joint : Tree) (first rest : List Tree) :
    joinLines joint (.node .simpleLine (first ++ [.leaf (.newline none)]))
      (.node .simpleLine (.node .leading [] :: .leaf .margin :: rest)) =
        some (.node .simpleLine (first ++ joint :: rest)) := by
  simp only [joinLines, List.getLast?_concat, List.dropLast_concat]

section Find

variable {call t line : Tree}

/-- A call at the beginning of a block is found there. -/
theorem takeFromBlock_first (joint : Option Tree) (ts : List Tree)
    (hline : hookLine? line = some call) : takeFromBlock joint (line :: ts) = some (call, ts) := by
  cases line with
  | leaf l => simp only [hookLine?, reduceCtorEq] at hline
  | node kind parts => simp only [takeFromBlock, hline]

/-- A call after a docstring is found there. -/
theorem takeFromBlock_second (ts : List Tree) (ht : startsWithDocstring t = true)
    (hline : hookLine? line = some call) :
    takeFromBlock none (t :: line :: ts) = some (call, t :: ts) := by
  cases t with
  | leaf l => simp only [startsWithDocstring, Bool.false_eq_true] at ht
  | node kind parts =>
      simp only [takeFromBlock, hookLine?_of_startsWithDocstring ht, if_pos ht, hline,
        Option.map_some]

/-- If the docstring's line was split, it is joined again. -/
theorem takeFromBlock_split (joint rest joined : Tree) (ts : List Tree)
    (ht : startsWithDocstring t = true) (hline : hookLine? line = some call)
    (hjoined : joinLines joint t rest = some joined) :
    takeFromBlock (some joint) (t :: line :: rest :: ts) = some (call, joined :: ts) := by
  cases t with
  | leaf l => simp only [startsWithDocstring, Bool.false_eq_true] at ht
  | node kind parts =>
      simp only [takeFromBlock, hookLine?_of_startsWithDocstring ht, if_pos ht, hline, hjoined,
        Option.bind_eq_bind, Option.bind_some]

end Find

theorem kind_of_startsWithDocstring {kind : Kind} {ts : List Tree}
    (h : startsWithDocstring (.node kind ts) = true) : kind = .simpleLine := by
  unfold startsWithDocstring at h
  split at h
  · rename_i heq
    exact (Tree.node.inj heq).1
  · exact absurd h Bool.false_ne_true

/-- The lines that a call stands between. -/
def linesWithCall (call t : Tree) : List Tree :=
  (cutAfterDocstring t).1 :: Hook.lineOf (Hook.callStatement call) :: (cutAfterDocstring t).2.toList

/-- A call after a docstring is taken out, and the docstring's line is joined if it was
    split. -/
theorem takeFromBlock_linesWithCall (call : Tree) (hcall : IsCall call) (parts ts : List Tree)
    (hfits : Tree.Everywhere Fits (.node .simpleLine parts))
    (hstart : startsWithDocstring (.node .simpleLine parts) = true) :
    ∃ joint, IsJoint joint ∧
      takeFromBlock joint (linesWithCall call (.node .simpleLine parts) ++ ts) =
        some (call, .node .simpleLine parts :: ts) := by
  have hline := hookLine?_lineOf call hcall
  by_cases hmany : (smallStatements parts).length ≤ 1
  · rw [linesWithCall, cutAfterDocstring_of_le hmany]
    exact ⟨none, isJoint_none, takeFromBlock_second ts hstart hline⟩
  · -- The line is split, and the semicolon that was read joins it.
    have hmany := Nat.lt_of_not_le hmany
    cases hafter : afterSemicolon? (splitAfterFirst parts).2 with
    | none =>
        -- A line of several statements that was read has a semicolon there.
        have hsemicolon := hfits.1 hmany
        rw [hafter] at hsemicolon
        exact absurd hsemicolon Bool.false_ne_true
    | some found =>
        rcases found with ⟨joint, rest⟩
        rcases splitAfterFirst_of_semicolon hafter with ⟨hparts, hjoint⟩
        have hread := hfits.2
        rw [hparts, Tree.everywhereAll_append] at hread
        have hjoined : joinLines joint
            (.node .simpleLine ((splitAfterFirst parts).1 ++ [.leaf (.newline none)]))
            (.node .simpleLine (.node .leading [] :: .leaf .margin :: rest)) =
              some (.node .simpleLine parts) := by
          rw [joinLines_split, ← hparts]
        rw [linesWithCall, cutAfterDocstring_of_lt hmany hafter]
        exact ⟨some joint, isJoint_some hjoint hread.2.1, takeFromBlock_split joint _ _ ts
          (startsWithDocstring_splitAfterFirst parts _ hstart) hline hjoined⟩

/-- The call that was put into a block can be taken out of it. -/
theorem takeFromBlock_insertIntoBlock (call : Tree) (hcall : IsCall call) (ts : List Tree)
    (hfits : Tree.EverywhereAll Fits ts) :
    ∃ joint, IsJoint joint ∧ takeFromBlock joint (insertIntoBlock call ts) = some (call, ts) := by
  have hline := hookLine?_lineOf call hcall
  induction ts with
  | nil => exact ⟨none, isJoint_none, takeFromBlock_first none [] hline⟩
  | cons t ts ih =>
      cases t with
      | leaf l =>
          rcases ih hfits.2 with ⟨joint, hjoint, htake⟩
          exact ⟨joint, hjoint, by rw [insertIntoBlock, takeFromBlock, htake, Option.map_some]⟩
      | node kind parts =>
          rw [insertIntoBlock]
          by_cases hstart : startsWithDocstring (.node kind parts) = true
          · rw [if_pos hstart]
            have hkind := kind_of_startsWithDocstring hstart
            subst hkind
            exact takeFromBlock_linesWithCall call hcall parts ts hfits.1 hstart
          · rw [if_neg hstart]
            exact ⟨none, isJoint_none, takeFromBlock_first none _ hline⟩
          · exact fun l h => nomatch h

/-! ### Suites -/

theorem takeFirst_separator (call : Tree) (hcall : IsCall call) (ts : List Tree) :
    takeFirst (Hook.callStatement call :: separator :: ts) = some (call, ts) := by
  have hgap : separator.isKind .separator = true := rfl
  rw [takeFirst, if_pos hgap, hookStatement?_callStatement call hcall, Option.map_some]

/-- Where a docstring comes first, no call does. -/
theorem takeFirst_docstring (lead rest : List Tree) (t : Tree)
    (hlead : ∀ u ∈ lead, isSmallStatement u = false) (ht : isDocstring t = true) :
    takeFirst (lead ++ t :: rest) = none := by
  -- What comes first is no small statement or is the docstring, and neither is a call.
  have hhead : ∀ u, (lead ++ t :: rest).head? = some u → hookStatement? u = none := by
    intro u hu
    cases lead with
    | nil =>
        cases hu
        exact hookStatement?_of_isDocstring ht
    | cons v lead =>
        cases hu
        exact hookStatement?_of_not_small (hlead _ List.mem_cons_self)
  unfold takeFirst
  split
  · rename_i statement gap rest' heq
    rw [hhead statement (by rw [heq]; rfl)]
    split
    · rfl
    · rfl
  · rfl

theorem isSmallStatement_of_isDocstring {t : Tree} (h : isDocstring t = true) :
    isSmallStatement t = true := by
  unfold isDocstring at h
  split at h
  · rfl
  · exact absurd h Bool.false_ne_true

/-- In a tree that was read, no part is a separator. -/
theorem isKind_separator_of_fits {t : Tree} (h : t.Everywhere Fits) :
    t.isKind .separator = false := by
  cases t with
  | leaf l => rfl
  | node kind ts =>
      rw [Tree.isKind, beq_eq_false_iff_ne]
      rintro rfl
      exact h.1

theorem isKind_separator_of_semicolon {t : Tree} (h : t.isKind .semicolon = true) :
    t.isKind .separator = false := by
  cases t with
  | leaf l => rfl
  | node kind ts =>
      rw [Tree.isKind, beq_iff_eq] at h
      subst h
      rfl

/-- After a docstring, the call is looked for behind it. -/
theorem takeFromSuite_docstring (lead rest : List Tree) (t : Tree)
    (hlead : ∀ u ∈ lead, isSmallStatement u = false) (ht : isDocstring t = true) :
    takeFromSuite ((lead ++ [t]) ++ rest) = takeAfter (lead ++ [t]) rest := by
  rw [List.append_assoc, List.singleton_append, takeFromSuite, takeFirst_docstring _ _ _ hlead ht,
    splitAfterFirst_append _ _ _ hlead (isSmallStatement_of_isDocstring ht)]
  simp only [List.getLast?_concat, Option.any_some, ht, if_true]

section After

variable {call : Tree} (docstring rest : List Tree) (joint : Tree)

theorem takeAfter_separator (hcall : IsCall call) :
    takeAfter docstring (separator :: Hook.callStatement call :: rest) =
      some (call, docstring ++ rest) := by
  have hgap : separator.isKind .separator = true := rfl
  simp only [takeAfter, hookStatement?_callStatement call hcall, if_pos hgap]

theorem takeAfter_semicolon_separator (hcall : IsCall call)
    (hjoint : joint.isKind .semicolon = true) :
    takeAfter docstring (joint :: Hook.callStatement call :: separator :: rest) =
      some (call, docstring ++ joint :: rest) := by
  have hgap : separator.isKind .separator = true := rfl
  simp only [takeAfter, hookStatement?_callStatement call hcall, hjoint,
    isKind_separator_of_semicolon hjoint, Bool.false_eq_true, if_false, if_true, if_pos hgap]

theorem takeAfter_semicolon (hcall : IsCall call) (hjoint : joint.isKind .semicolon = true)
    (hrest : ∀ t ∈ rest, t.isKind .separator = false) :
    takeAfter docstring (joint :: Hook.callStatement call :: rest) =
      some (call, docstring ++ joint :: rest) := by
  cases rest with
  | nil =>
      simp only [takeAfter, hookStatement?_callStatement call hcall, hjoint,
        isKind_separator_of_semicolon hjoint, Bool.false_eq_true, if_false, if_true]
  | cons t ts =>
      simp only [takeAfter, hookStatement?_callStatement call hcall, hjoint,
        isKind_separator_of_semicolon hjoint, hrest t List.mem_cons_self, Bool.false_eq_true,
        if_false, if_true]

end After

/-- The call that was put on a function's own line can be taken out again. -/
theorem takeFromSuite_insertIntoSuite (call : Tree) (hcall : IsCall call) (ts : List Tree)
    (hfits : Tree.EverywhereAll Fits ts) :
    takeFromSuite (insertIntoSuite call ts) = some (call, ts) := by
  -- Without a docstring, the call comes first.
  have hfirst : takeFromSuite (Hook.callStatement call :: separator :: ts) = some (call, ts) := by
    rw [takeFromSuite, takeFirst_separator call hcall]
  rw [insertIntoSuite]
  rcases splitAfterFirst_cases ts with ⟨hnone, hsplit⟩ | ⟨lead, t, rest, rfl, hlead, ht, hsplit⟩
  · -- A line without statements has no docstring.
    have hlast : ts.getLast?.any isDocstring = false := by
      cases hlast : ts.getLast? with
      | none => rfl
      | some t =>
          have hsmall := hnone t (List.mem_of_getLast? hlast)
          rw [Option.any_some, ← Bool.not_eq_true]
          intro hdocstring
          rw [isSmallStatement_of_isDocstring hdocstring] at hsmall
          exact absurd hsmall.symm Bool.false_ne_true
    simp only [hsplit, hlast, Bool.not_false, if_true]
    exact hfirst
  · simp only [hsplit, List.getLast?_concat, Option.any_some]
    cases hdocstring : isDocstring t with
    | false =>
        simp only [Bool.not_false, if_true]
        exact hfirst
    | true =>
        simp only [Bool.not_true, Bool.false_eq_true, if_false]
        rw [List.append_cons lead t rest] at hfits ⊢
        have hrest := (Tree.everywhereAll_iff _).1 ((Tree.everywhereAll_append _ _).1 hfits).2
        cases hsemicolon : afterSemicolon? rest with
        | none =>
            refine (takeFromSuite_docstring lead _ t hlead hdocstring).trans ?_
            exact takeAfter_separator _ _ hcall
        | some found =>
            rcases afterSemicolon?_eq_some hsemicolon with ⟨hjoint, rfl⟩
            -- With statements after it, the call is followed by a separator of its own.
            by_cases hmore : found.2.any isSmallStatement = true
            · simp only [if_pos hmore]
              refine (takeFromSuite_docstring lead _ t hlead hdocstring).trans ?_
              exact takeAfter_semicolon_separator _ _ _ hcall hjoint
            · simp only [if_neg hmore]
              refine (takeFromSuite_docstring lead _ t hlead hdocstring).trans ?_
              exact takeAfter_semicolon _ _ _ hcall hjoint fun u hu =>
                isKind_separator_of_fits (hrest u (List.mem_cons_of_mem _ hu))

/-! ### Functions -/

/-- The call that was put into a body can be taken out of it. -/
theorem takeFromBody_insertIntoBody (call : Tree) (hcall : IsCall call) (body : Tree)
    (hbody : Builder.isBody body = true) (hfits : body.Everywhere Fits) :
    ∃ joint, IsJoint joint ∧
      takeFromBody joint ((insertIntoBody? call body).getD body) = some (call, body) := by
  cases body with
  | leaf l => exact absurd hbody Bool.false_ne_true
  | node kind ts =>
      unfold Builder.isBody at hbody
      split at hbody
      · rename_i indent ts' heq
        cases heq
        rcases takeFromBlock_insertIntoBlock call hcall ts hfits.2 with ⟨joint, hjoint, htake⟩
        refine ⟨joint, hjoint, ?_⟩
        rw [insertIntoBody?, Option.getD_some, takeFromBody, htake, Option.map_some]
      · rename_i ts' heq
        cases heq
        refine ⟨none, isJoint_none, ?_⟩
        rw [insertIntoBody?, Option.getD_some, takeFromBody,
          takeFromSuite_insertIntoSuite call hcall ts hfits.2, Option.map_some]
      · exact absurd hbody Bool.false_ne_true

/-- The call that was paired with an expression can be taken out of the pair. -/
theorem takeFromPair_sequenced (call body : Tree) (hcall : IsCall call) :
    takeFromPair (sequenced call body) = some (call, body) := by
  rcases hcall with ⟨ls, rfl⟩
  rfl

theorem mapLast_concat (f : Tree → Tree) (ts : List Tree) (t : Tree) :
    mapLast f (ts ++ [t]) = ts ++ [f t] := by
  induction ts with
  | nil => rfl
  | cons u us ih =>
      cases us with
      | nil => rfl
      | cons v vs => exact congrArg (u :: ·) ih

/-- The parts of a function with a call. -/
def partsWithCall (call : Tree) (kind : Kind) (ts : List Tree) : List Tree :=
  if kind = .functionDef then mapLast (fun body => (insertIntoBody? call body).getD body) ts
  else mapLast (sequenced call) ts

theorem insertCall_eq (call : Tree) (kind : Kind) (ts : List Tree) (h : isFunction kind = true) :
    insertCall call kind ts = .node kind (partsWithCall call kind ts) := by
  cases kind <;> first | rfl | exact absurd h Bool.false_ne_true

/-- The call that was put into a function can be taken out of it. -/
theorem takeOut_insertCall (call : Tree) (hcall : IsCall call) (kind : Kind) (ts : List Tree)
    (hkind : isFunction kind = true) (hfits : Tree.Everywhere Fits (.node kind ts)) :
    ∃ joint, IsJoint joint ∧ takeOut joint kind (partsWithCall call kind ts) = some (call, ts) := by
  unfold isFunction at hkind
  split at hkind
  · -- a definition, whose last part is its body
    rcases hfits.1 with ⟨head, body, rfl, hbody⟩
    have hparts := (Tree.everywhereAll_append _ _).1 hfits.2
    rcases takeFromBody_insertIntoBody call hcall body hbody hparts.2.1 with ⟨joint, hjoint, htake⟩
    refine ⟨joint, hjoint, ?_⟩
    rw [partsWithCall, if_pos rfl, mapLast_concat, takeOut, List.getLast?_concat]
    simp only [if_true, htake, Option.map_some, List.dropLast_concat]
  · -- a lambda, which has parts
    rcases List.eq_nil_or_concat ts with rfl | ⟨head, body, rfl⟩
    · exact absurd rfl hfits.1
    · refine ⟨none, isJoint_none, ?_⟩
      rw [List.concat_eq_append, partsWithCall, if_neg Kind.noConfusion, mapLast_concat, takeOut,
        List.getLast?_concat]
      simp only [reduceCtorEq, if_false, takeFromPair_sequenced call body hcall, Option.map_some,
        List.dropLast_concat]
  · exact absurd hkind Bool.false_ne_true

end EntryCoverage
