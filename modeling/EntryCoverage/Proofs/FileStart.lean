import EntryCoverage.Proofs.ImportFrame

/-!
# The Start of a File

What the import of the hook's module does to the statements that only count at the start of
a file: its docstring, which is its first statement, and the imports from `__future__`,
which only the docstring and each other may come before.

The import is put in among lines, and the statements that matter may share a line. Lines
stay first for what is on them: any line with an import from `__future__` does, but one with
a docstring only does without anything else on it. So a docstring that shares its line loses
its place, unless the line is kept for an import.

The imports from `__future__` never come to harm, with a docstring or without. The line at
which the import is put in imports nothing from `__future__`, and is not the docstring alone
if it is the first one. So it has a statement that no import from `__future__` may follow,
and all of them were above it (`futuresFirst_append_iff`).

## Main definitions

* `plainString?`: The string that an expression is.
* `Statement`: A statement of a file, whatever line it is on.
* `statementsOf`: The statements of a file, one by one.
* `moduleDocstring?`: The docstring of a file.
* `FuturesFirst`: Imports from `__future__` stand first.
* `SharesLine`: The docstring of a file shares its line.

## Theorems

* `staysFirst_of_statementsOn`: A line whose statements may all come before an import from
  `__future__` stays first.
* `futuresFirst_append_iff`: The imports from `__future__` are on the lines that stay first.
* `Imported.futuresFirst_iff`: Whether they stand first is as it was.
* `sharesLine_iff`: When the import is put above the docstring.
* `injectImport_keeps_start`: The start of a file with the import.
-/

namespace EntryCoverage

open Source

/-! ### Statements -/

/-- A string literal is text, and not bytes. -/
def isTextLiteral : Tree → Bool
  | .node .string ts =>
      (Naming.firstWord? ts).any fun literal =>
        !(literal.toList.takeWhile (!Lexeme.isQuote ·)).any fun c => c == 'b' || c == 'B'
  | _ => false

/-- The string that an expression is, if it is one or several in a row, in parentheses or
    not, and none of them has values in it or is bytes. -/
def plainString? (t : Tree) : Option Tree :=
  match t.unparenthesized with
  | .node .string ts => if isTextLiteral (.node .string ts) then some (.node .string ts) else none
  | .node .concatenated ts =>
      if (Grammar.nodes ts).all isTextLiteral then some (.node .concatenated ts) else none
  | _ => none

/-- Whether a small statement imports from `__future__` itself, and not from a module of
    that name that is next to this one. -/
def importsFuture : Tree → Bool
  | .node .importFrom ts =>
      isFutureImport (.node .importFrom ts) && !Grammar.hasWord "." ts && !Grammar.hasWord "..." ts
  | _ => false

mutual

/-- Whether a tree has an import from `__future__` anywhere. -/
def hasFutureImport : Tree → Bool
  | .leaf _ => false
  | .node kind ts => importsFuture (.node kind ts) || anyHasFutureImport ts

/-- The same for trees in a row. -/
def anyHasFutureImport : List Tree → Bool
  | [] => false
  | t :: ts => hasFutureImport t || anyHasFutureImport ts

end

/-- A statement of a file: a small one, or another one with all that is in it. -/
inductive Statement
  | small (t : Tree)
  | other (t : Tree)

namespace Statement

/-- Whether it is an import from `__future__`. -/
def isFuture : Statement → Bool
  | .small t => importsFuture t
  | .other _ => false

/-- Whether there is an import from `__future__` in it. -/
def hasFuture : Statement → Bool
  | .small t | .other t => hasFutureImport t

/-- The string that it is, if it is nothing else. -/
def docstring? : Statement → Option Tree
  | .small (.node .expressionStatement ts) => (Grammar.nodes ts).head?.bind plainString?
  | _ => none

/-- A statement that imports from `__future__` may follow, if it has this number: one of
    them, or the docstring. -/
def MayLead (i : Nat) (s : Statement) : Prop :=
  s.isFuture = true ∨ (i = 0 ∧ s.docstring?.isSome = true)

instance (i : Nat) (s : Statement) : Decidable (s.MayLead i) :=
  inferInstanceAs (Decidable (_ ∨ _))

end Statement

/-- The statements on a line, or a statement that takes several. A line without any stands
    for itself. -/
def statementsOn : Tree → List Statement
  | .node .simpleLine ts =>
      if (smallStatements ts).isEmpty then [.other (.node .simpleLine ts)]
      else (smallStatements ts).map .small
  | t => [.other t]

/-- The statements of a file, one by one. -/
def statementsOf (parts : List Tree) : List Statement := (statements parts).flatMap statementsOn

/-- The docstring of a file: the string that is its first statement. -/
def moduleDocstring? (parts : List Tree) : Option Tree :=
  (statementsOf parts).head?.bind Statement.docstring?

/-- Nothing but the docstring and other imports from `__future__` comes before an import
    from `__future__`. -/
def FuturesFirst (ss : List Statement) : Prop :=
  ∀ (j : Nat) (s : Statement), ss[j]? = some s → s.hasFuture = true →
    s.isFuture = true ∧ ∀ i < j, ∀ s' : Statement, ss[i]? = some s' → s'.MayLead i

instance (ss : List Statement) : Decidable (FuturesFirst ss) :=
  decidable_of_iff (∀ j < ss.length, ∀ s ∈ ss[j]?, s.hasFuture = true →
      s.isFuture = true ∧ ∀ i < j, ∀ s' ∈ ss[i]?, s'.MayLead i)
    ⟨fun h j s hs => h j (List.getElem?_eq_some_iff.1 hs).1 s hs, fun h j _ s hs => h j s hs⟩

/-- The docstring of a file shares its line with other statements, none of which imports
    from a module named `__future__`. -/
def SharesLine (parts : List Tree) : Prop :=
  (moduleDocstring? parts).isSome = true ∧ ∃ ts more,
    statements parts = .node .simpleLine ts :: more ∧ 1 < (smallStatements ts).length ∧
      ∀ t ∈ smallStatements ts, isFutureImport t = false

/-! ### Lines that stay first -/

theorem isFutureImport_of_importsFuture {t : Tree} (h : importsFuture t = true) :
    isFutureImport t = true := by
  unfold importsFuture at h
  split at h
  · rw [Bool.and_eq_true, Bool.and_eq_true] at h
    exact h.1.1
  · exact absurd h Bool.false_ne_true

theorem isStringExpression_of_plainString? {t u : Tree} (h : plainString? t = some u) :
    isStringExpression t = true := by
  unfold plainString? at h
  unfold isStringExpression
  split at h <;> simp_all only [reduceCtorEq]

theorem Statement.isDocstring_of_docstring? {t u : Tree}
    (h : (Statement.small t).docstring? = some u) : isDocstring t = true := by
  unfold docstring? at h
  split at h
  · rename_i ts heq
    rw [Statement.small.injEq] at heq
    rcases Option.bind_eq_some_iff.1 h with ⟨first, hfirst, hplain⟩
    rw [heq, isDocstring]
    exact List.any_eq_true.2
      ⟨first, List.mem_of_head? hfirst, isStringExpression_of_plainString? hplain⟩
  · simp only [reduceCtorEq] at h

/-- A line with a docstring and nothing else has one statement. -/
theorem length_of_isDocstringLine {ts : List Tree}
    (h : isDocstringLine (.node .simpleLine ts) = true) : (smallStatements ts).length = 1 := by
  rw [isDocstringLine] at h
  rcases hsmalls : smallStatements ts with _ | ⟨small, _ | ⟨small', more⟩⟩
  · simp only [hsmalls, Bool.false_eq_true] at h
  · rfl
  · simp only [hsmalls, Bool.false_eq_true] at h

theorem statementsOn_ne_nil (t : Tree) : statementsOn t ≠ [] := by
  unfold statementsOn
  split
  · rename_i ts
    split
    · exact List.cons_ne_nil _ _
    · rename_i hsome
      rw [List.isEmpty_iff] at hsome
      exact mt List.map_eq_nil_iff.1 hsome
  · exact List.cons_ne_nil _ _

/-- A line with an import from `__future__` stays first. -/
theorem isFutureLine_of_isFuture {t : Tree} {s : Statement} (hs : s ∈ statementsOn t)
    (hfuture : s.isFuture = true) : isFutureLine t = true := by
  unfold statementsOn at hs
  split at hs
  · rename_i ts
    split at hs
    · rw [List.mem_singleton.1 hs] at hfuture
      exact absurd hfuture Bool.false_ne_true
    · rcases List.mem_map.1 hs with ⟨small, hsmall, rfl⟩
      exact List.any_eq_true.2 ⟨small, hsmall, isFutureImport_of_importsFuture hfuture⟩
  · rw [List.mem_singleton.1 hs] at hfuture
    exact absurd hfuture Bool.false_ne_true

/-- A docstring is on a line of small statements, the first of them. -/
theorem exists_of_docstring? {t : Tree} {s : Statement} (hs : (statementsOn t).head? = some s)
    (hdocstring : s.docstring?.isSome = true) :
    ∃ ts small more, t = .node .simpleLine ts ∧ smallStatements ts = small :: more ∧
      s = .small small ∧ isDocstring small = true := by
  rcases Option.isSome_iff_exists.1 hdocstring with ⟨u, hu⟩
  unfold statementsOn at hs
  split at hs
  · rename_i ts
    split at hs
    · cases hs
      simp only [Statement.docstring?, reduceCtorEq] at hu
    · rw [List.head?_map, Option.map_eq_some_iff] at hs
      rcases hs with ⟨small, hsmall, rfl⟩
      rcases List.head?_eq_some_iff.1 hsmall with ⟨more, hmore⟩
      exact ⟨ts, small, more, rfl, hmore, rfl, Statement.isDocstring_of_docstring? hu⟩
  · cases hs
    simp only [Statement.docstring?, reduceCtorEq] at hu

/-- A line stays first if imports from `__future__` may follow all statements on it. -/
theorem staysFirst_of_statementsOn {k : Nat} {t : Tree}
    (h : ∀ (i : Nat) (s : Statement), (statementsOn t)[i]? = some s → s.MayLead (k + i)) : StaysFirst k t := by
  by_cases hfuture : ∃ s ∈ statementsOn t, s.isFuture = true
  · rcases hfuture with ⟨s, hs, hfuture⟩
    exact .inr (isFutureLine_of_isFuture hs hfuture)
  · -- No more than the first statement is left, and that is the docstring.
    have hdocstring : ∀ (i : Nat) (s : Statement), (statementsOn t)[i]? = some s →
        k + i = 0 ∧ s.docstring?.isSome = true := fun i s hs =>
      (h i s hs).resolve_left fun hyes => hfuture ⟨s, List.mem_of_getElem? hs, hyes⟩
    rcases List.exists_cons_of_ne_nil (statementsOn_ne_nil t) with ⟨s, more, hon⟩
    have hfirst := hdocstring 0 s (by rw [hon]; rfl)
    rcases exists_of_docstring? (by rw [hon]; rfl) hfirst.2 with
      ⟨ts, small, rest, rfl, hsmalls, -, hsmall⟩
    have hrest : rest = [] := by
      cases rest with
      | nil => rfl
      | cons small' rest =>
          have hsecond := hdocstring 1 (.small small') (by rw [statementsOn, hsmalls]; rfl)
          omega
    refine .inl ⟨hfirst.1, ?_⟩
    rw [isDocstringLine, hsmalls, hrest]
    exact hsmall

/-! ### Where imports from `__future__` are -/

section Futures

variable {before after : List Statement} {lead rest : List Tree}

theorem FuturesFirst.of_append (h : FuturesFirst (before ++ after)) : FuturesFirst before := by
  have hget : ∀ {i : Nat} {s : Statement}, before[i]? = some s →
      (before ++ after)[i]? = some s := fun hs => by
    rw [List.getElem?_append_left (List.getElem?_eq_some_iff.1 hs).1, hs]
  intro j s hs hfuture
  rcases h j s (hget hs) hfuture with ⟨hyes, hbefore⟩
  exact ⟨hyes, fun i hi s' hs' => hbefore i hi s' (hget hs')⟩

/-- Statements without imports from `__future__` may follow. -/
theorem FuturesFirst.append (h : FuturesFirst before)
    (hnone : ∀ s ∈ after, s.hasFuture = false) : FuturesFirst (before ++ after) := by
  intro j s hs hfuture
  have hj : j < before.length := by
    by_contra hj
    rw [List.getElem?_append_right (Nat.not_lt.1 hj)] at hs
    rw [hnone s (List.mem_of_getElem? hs)] at hfuture
    exact absurd hfuture Bool.false_ne_true
  rw [List.getElem?_append_left hj] at hs
  rcases h j s hs hfuture with ⟨hyes, hbefore⟩
  refine ⟨hyes, fun i hi s' hs' => hbefore i hi s' ?_⟩
  rwa [List.getElem?_append_left (Nat.lt_trans hi hj)] at hs'

/-- An import from `__future__` has nothing before it but what may lead, also in the middle of
    a file. -/
theorem FuturesFirst.mayLead {s : Statement} (h : FuturesFirst (before ++ after)) (hs : s ∈ after)
    (hfuture : s.hasFuture = true) :
    s.isFuture = true ∧ ∃ j, after[j]? = some s ∧
      ∀ i < j, ∀ s' : Statement, after[i]? = some s' → s'.MayLead (before.length + i) := by
  have hget : ∀ i, (before ++ after)[before.length + i]? = after[i]? := fun i => by
    rw [List.getElem?_append_right (Nat.le_add_right _ _), Nat.add_sub_cancel_left]
  rcases List.getElem?_of_mem hs with ⟨j, hj⟩
  rcases h (before.length + j) s ((hget j).trans hj) hfuture with ⟨hyes, hbefore⟩
  exact ⟨hyes, j, hj, fun i hi s' hs' =>
    hbefore _ (Nat.add_lt_add_left hi _) s' ((hget i).trans hs')⟩

theorem flatMap_statementsOn_eq_nil (ts : List Tree) :
    ts.flatMap statementsOn = [] ↔ ts = [] := by
  rw [List.flatMap_eq_nil_iff]
  constructor
  · intro hnone
    exact List.eq_nil_iff_forall_not_mem.2 fun t ht => statementsOn_ne_nil t (hnone t ht)
  · rintro rfl t ht
    exact absurd ht List.not_mem_nil

/-- The line that ends the run of those that must stay first has no import from
    `__future__`, and none follows it. -/
theorem hasFuture_eq_false_of_leadingRun (hrun : LeadingRun lead (lead ++ rest))
    (h : FuturesFirst (lead.flatMap statementsOn ++ rest.flatMap statementsOn)) :
    ∀ s ∈ rest.flatMap statementsOn, s.hasFuture = false := by
  intro s hs
  by_contra hfuture
  rw [Bool.not_eq_false] at hfuture
  cases rest with
  | nil => exact absurd hs List.not_mem_nil
  | cons t rest =>
      have hstop : ¬ StaysFirst lead.length t := hrun.longest t (by simp)
      have hlength : (lead.flatMap statementsOn).length = 0 → lead.length = 0 := by
        rw [List.length_eq_zero_iff, List.length_eq_zero_iff, flatMap_statementsOn_eq_nil]
        exact id
      rcases h.mayLead hs hfuture with ⟨hyes, j, hj, hbefore⟩
      rw [List.flatMap_cons] at hj hbefore
      refine hstop ?_
      rcases Nat.lt_or_ge j (statementsOn t).length with hlt | hge
      · -- The import is on the line.
        rw [List.getElem?_append_left hlt] at hj
        exact .inr (isFutureLine_of_isFuture (List.mem_of_getElem? hj) hyes)
      · -- The import is below it, so all statements on it may lead.
        have hline : StaysFirst (lead.flatMap statementsOn).length t := by
          refine staysFirst_of_statementsOn fun i s' hs' => ?_
          have hi := (List.getElem?_eq_some_iff.1 hs').1
          refine hbefore i (Nat.lt_of_lt_of_le hi hge) s' ?_
          rw [List.getElem?_append_left hi, hs']
        exact hline.imp_left (And.imp_left hlength)

/-- The imports from `__future__` stand first exactly if they are among the lines that must
    stay first, and stand first there. -/
theorem futuresFirst_append_iff (hrun : LeadingRun lead (lead ++ rest)) :
    FuturesFirst (lead.flatMap statementsOn ++ rest.flatMap statementsOn) ↔
      FuturesFirst (lead.flatMap statementsOn) ∧
        ∀ s ∈ rest.flatMap statementsOn, s.hasFuture = false :=
  ⟨fun h => ⟨h.of_append, hasFuture_eq_false_of_leadingRun hrun h⟩, fun h => h.1.append h.2⟩

/-- The same with a statement between the two that is none of those that stand first. -/
theorem futuresFirst_append_cons_iff {s : Statement} (hno : s.hasFuture = false)
    (hstop : ∀ i, ¬ s.MayLead i) :
    FuturesFirst (before ++ s :: after) ↔
      FuturesFirst before ∧ ∀ s' ∈ after, s'.hasFuture = false := by
  constructor
  · refine fun h => ⟨h.of_append, fun s' hs' => ?_⟩
    by_contra hfuture
    rw [Bool.not_eq_false] at hfuture
    rcases h.mayLead (List.mem_cons_of_mem s hs') hfuture with ⟨-, j, hj, hbefore⟩
    cases j with
    | zero =>
        cases hj
        rw [hno] at hfuture
        exact absurd hfuture Bool.false_ne_true
    | succ j => exact hstop _ (hbefore 0 (Nat.zero_lt_succ j) s rfl)
  · exact fun h => h.1.append (List.forall_mem_cons.2 ⟨hno, h.2⟩)

end Futures

/-! ### With the import -/

section Import

variable {config : Config} {parts parts' : List Tree}

theorem statements_append (ss ts : List Tree) :
    statements (ss ++ ts) = statements ss ++ statements ts := List.filter_append ..

theorem statementsOf_append (ss ts : List Tree) :
    statementsOf (ss ++ ts) = statementsOf ss ++ statementsOf ts := by
  rw [statementsOf, statements_append, List.flatMap_append]
  rfl

/-- The import is one more statement of a file. -/
theorem statementsOf_importLine (hookNamespace : String) (ts : List Tree) :
    statementsOf (Hook.importLine hookNamespace :: ts) =
      .small (.node .importStatement [.word "import", .space " ", .word hookNamespace]) ::
        statementsOf ts := rfl

/-- With the import, the imports from `__future__` stand first exactly if they did before. -/
theorem Imported.futuresFirst_iff (h : Imported config parts parts') :
    FuturesFirst (statementsOf parts') ↔ FuturesFirst (statementsOf parts) := by
  cases h with
  | kept _ _ _ => exact Iff.rfl
  | added before after hnone hrun =>
      rw [statements_append] at hrun
      rw [statementsOf_append, statementsOf_append, statementsOf_importLine,
        futuresFirst_append_cons_iff rfl fun i => ?_]
      · exact (futuresFirst_append_iff hrun).symm
      · rintro (hfuture | ⟨-, hdocstring⟩)
        · exact absurd hfuture Bool.false_ne_true
        · exact absurd hdocstring Bool.false_ne_true

/-- A docstring is on the first of the lines of a file. -/
theorem exists_of_moduleDocstring? {u : Tree} (h : moduleDocstring? parts = some u) :
    ∃ ts small rest more, statements parts = .node .simpleLine ts :: more ∧
      smallStatements ts = small :: rest ∧ isDocstring small = true := by
  rcases Option.bind_eq_some_iff.1 h with ⟨s, hs, hu⟩
  rw [statementsOf] at hs
  cases hparts : statements parts with
  | nil => simp only [hparts, List.flatMap_nil, List.head?_nil, reduceCtorEq] at hs
  | cons t more =>
      rw [hparts, List.flatMap_cons, List.head?_append_of_ne_nil _ (statementsOn_ne_nil t)] at hs
      rcases exists_of_docstring? hs (by rw [hu]; rfl) with
        ⟨ts, small, rest, rfl, hsmalls, -, hsmall⟩
      exact ⟨ts, small, rest, more, rfl, hsmalls, hsmall⟩

/-- The import is put above a docstring exactly if that shares its line. -/
theorem sharesLine_iff {before after : List Tree}
    (hrun : LeadingRun (statements before) (statements (before ++ after))) :
    SharesLine (before ++ after) ↔
      (moduleDocstring? (before ++ after)).isSome = true ∧ statements before = [] := by
  constructor
  · rintro ⟨hdocstring, ts, more, hparts, hlength, hnone⟩
    refine ⟨hdocstring, ?_⟩
    cases hlead : statements before with
    | nil => rfl
    | cons t lead =>
        -- The first line stays first, for neither of the two reasons.
        have hstays := hrun.stays 0 t (by rw [hlead]; rfl)
        rw [statements_append, hlead, List.cons_append, List.cons.injEq] at hparts
        rw [hparts.1] at hstays
        rcases hstays with ⟨-, hline⟩ | hfuture
        · exact absurd (length_of_isDocstringLine hline) (Nat.ne_of_gt hlength)
        · rcases List.any_eq_true.1 hfuture with ⟨small, hsmall, hyes⟩
          exact absurd ((hnone small hsmall).symm.trans hyes) Bool.false_ne_true
  · rintro ⟨hdocstring, hlead⟩
    refine ⟨hdocstring, ?_⟩
    rcases Option.isSome_iff_exists.1 hdocstring with ⟨u, hu⟩
    rcases exists_of_moduleDocstring? hu with ⟨ts, small, rest, more, hparts, hsmalls, hsmall⟩
    have hstop : ¬ StaysFirst 0 (.node .simpleLine ts) := by
      have hlongest := hrun.longest (.node .simpleLine ts)
      rw [hlead, hparts] at hlongest
      exact hlongest rfl
    rw [StaysFirst, not_or, isFutureLine, Bool.not_eq_true, List.any_eq_false] at hstop
    refine ⟨ts, more, hparts, ?_, fun t ht => Bool.not_eq_true _ ▸ hstop.2 t ht⟩
    cases rest with
    | nil =>
        refine absurd ⟨rfl, ?_⟩ hstop.1
        rw [isDocstringLine, hsmalls]
        exact hsmall
    | cons small' rest =>
        rw [hsmalls]
        exact Nat.one_lt_succ_succ _

/-- A file with a docstring has none any more, if the import is put above it. -/
theorem moduleDocstring?_append_importLine {before : List Tree} (h : statements before = [])
    (hookNamespace : String) (after : List Tree) :
    moduleDocstring? (before ++ Hook.importLine hookNamespace :: after) = none := by
  rw [moduleDocstring?, statementsOf_append, statementsOf, h, statementsOf_importLine]
  rfl

/-- If the import is put after a statement, the docstring is what it was. -/
theorem moduleDocstring?_append {before : List Tree} (h : statements before ≠ [])
    (after : List Tree) : moduleDocstring? (before ++ after) = moduleDocstring? before := by
  have hne : statementsOf before ≠ [] := mt (flatMap_statementsOn_eq_nil _).1 h
  rw [moduleDocstring?, statementsOf_append, List.head?_append_of_ne_nil _ hne]
  rfl

/-- The docstring of a file stays what it was, unless it shares its line and the import is
    new. -/
theorem Imported.moduleDocstring?_eq (h : Imported config parts parts')
    (hkeeps : (∃ line ∈ parts, IsImport config line) ∨ ¬ SharesLine parts) :
    moduleDocstring? parts' = moduleDocstring? parts := by
  cases h with
  | kept _ _ _ => rfl
  | added before after hnone hrun =>
      by_cases hlead : statements before = []
      · -- There was no docstring that could have been lost.
        rcases hkeeps with ⟨line, hline, himport⟩ | hshares
        · exact absurd himport (hnone line hline)
        · rw [sharesLine_iff hrun, not_and_or, Bool.not_eq_true, Option.isSome_eq_false_iff,
            Option.isNone_iff_eq_none] at hshares
          rw [moduleDocstring?_append_importLine hlead, hshares.resolve_right fun h => h hlead]
      · rw [moduleDocstring?_append hlead, moduleDocstring?_append hlead]

/-- A docstring that shares its line is lost when the import is put in. -/
theorem Imported.moduleDocstring?_eq_none (h : Imported config parts parts')
    (hnone : ∀ line ∈ parts, ¬ IsImport config line) (hshares : SharesLine parts) :
    moduleDocstring? parts' = none := by
  cases h with
  | kept _ line hline himport => exact absurd himport (hnone line hline)
  | added before after _ hrun =>
      exact moduleDocstring?_append_importLine ((sharesLine_iff hrun).1 hshares).2 _ _

/-- The start of a file with the import of the hook's module. Whether imports from
    `__future__` stand first is as it was. The docstring is what it was, unless the import is
    new and the docstring shares its line with statements none of which imports from a module
    named `__future__`. In that case the file has no docstring any more. -/
theorem injectImport_keeps_start (config : Config) (parts : List Tree)
    (hfooter : FooterLast parts) :
    (FuturesFirst (statementsOf (injectImport config.hookNamespace parts)) ↔
      FuturesFirst (statementsOf parts)) ∧
    (moduleDocstring? (injectImport config.hookNamespace parts) = moduleDocstring? parts ↔
      (∃ line ∈ parts, IsImport config line) ∨ ¬ SharesLine parts) ∧
    ((∀ line ∈ parts, ¬ IsImport config line) → SharesLine parts →
      moduleDocstring? (injectImport config.hookNamespace parts) = none) := by
  have himported := imported_injectImport config hfooter
  refine ⟨himported.futuresFirst_iff, ⟨fun hsame => ?_, himported.moduleDocstring?_eq⟩,
    himported.moduleDocstring?_eq_none⟩
  by_contra hlost
  rw [not_or, not_exists, not_not] at hlost
  have hnone := himported.moduleDocstring?_eq_none
    (fun line hline himport => hlost.1 line ⟨hline, himport⟩) hlost.2
  have hsome := hlost.2.1
  rw [← hsame, hnone] at hsome
  exact absurd hsome Bool.false_ne_true

/-- A file whose docstring shares its line and is lost, and one that keeps its docstring and
    its import from `__future__`. -/
theorem injectImport_keeps_start_lost : ∃ lost kept : Module,
    Module.parse? "\"doc\"; x = 1\n" = some lost ∧
    Module.parse? "\"doc\"\nfrom __future__ import division\nx = 1\n" = some kept ∧
    SharesLine lost.tree.children ∧
    moduleDocstring? (injectImport "instrument_code" lost.tree.children) = none ∧
    FuturesFirst (statementsOf (injectImport "instrument_code" kept.tree.children)) ∧
    (moduleDocstring? (injectImport "instrument_code" kept.tree.children)).map
      Naming.renderAlone = some "\"doc\"" ∧
    (kept.injectImport "instrument_code").render =
      "\"doc\"\nfrom __future__ import division\nimport instrument_code\nx = 1\n" := by
  have hlost : (Module.parse? "\"doc\"; x = 1\n").map (fun m =>
      ((moduleDocstring? m.tree.children).isSome,
        (moduleDocstring? (injectImport "instrument_code" m.tree.children)).isSome)) =
      some (true, false) := by
    decide +kernel
  have hkept : (Module.parse? "\"doc\"\nfrom __future__ import division\nx = 1\n").map
      (fun m => (decide (FuturesFirst (statementsOf m.tree.children)),
        (moduleDocstring? (injectImport "instrument_code" m.tree.children)).map
          Naming.renderAlone, (m.injectImport "instrument_code").render)) =
      some (true, some "\"doc\"",
        "\"doc\"\nfrom __future__ import division\nimport instrument_code\nx = 1\n") := by
    decide +kernel
  rcases Option.map_eq_some_iff.1 hlost with ⟨lost, hparse, hseen⟩
  rcases Option.map_eq_some_iff.1 hkept with ⟨kept, hparse', hseen'⟩
  simp only [Prod.mk.injEq, Option.isSome_eq_false_iff, Option.isNone_iff_eq_none] at hseen
  simp only [Prod.mk.injEq, decide_eq_true_eq] at hseen'
  rcases injectImport_keeps_start {} _ (footerLast_of_parse? hparse) with ⟨-, hsame, -⟩
  rcases injectImport_keeps_start {} _ (footerLast_of_parse? hparse') with ⟨hfutures, -, -⟩
  refine ⟨lost, kept, hparse, hparse', ?_, hseen.2, hfutures.2 hseen'.1, hseen'.2⟩
  -- Without sharing its line, the docstring would be what it was.
  by_contra hshares
  have hdocstring := hsame.2 (.inr hshares)
  rw [← hdocstring, hseen.2] at hseen
  exact absurd hseen.1 Bool.false_ne_true

end Import

end EntryCoverage
