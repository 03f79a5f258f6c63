import EntryCoverage.Proofs.Import
import EntryCoverage.Proofs.SideBySide

/-!
# The Import as a Frame

What importing the hook's module changes, and what it leaves alone.

Whether to import is asked when a file is written, after its calls were made, and nothing
that is carried on depends on the answer. So the runs with and without imports go side by
side, their traces included, and differ at most in the texts of files
(`run_frames_import`). Of a file with calls the difference is told on the tree with calls:
it has the import somewhere and stays as it is, or it gets one line more.

Where that line goes is found by going through the parts of the file, which are not only
its statements: comments stand above the first one and below the last one. The search
stops at the comments below, so what it finds is the longest run of statements that must
stay first only because no statement comes after them (`footerLast_of_parse?`).

## Main definitions

* `Avoids`: No tree of a kind is among those that an expression reads.
* `FooterLast`: No statement comes after the footer of a file.
* `StaysFirst`, `LeadingRun`: The statements at the start that must stay first.
* `Imported`: The parts of a file with the import of the hook's module.
* `FrameOf`: A file with the import and without.
* `Framed`: What runs with imports and without give.

## Theorems

* `leadingRun_keptFirst`: As many parts are kept first as the longest run needs.
* `imported_injectImport`: What comes of the parts of a file.
* `run_frames_import`: Runs with imports and without differ in nothing else.
-/

namespace EntryCoverage

open Source

/-! ### The parts of a file -/

namespace Source

section Avoids

open Peg

variable {Rule : Type} {grammar : Rule → Peg Rule} {kind : Kind}

/-- No tree of a kind is among those that an expression reads. -/
def Avoids (grammar : Rule → Peg Rule) (kind : Kind) (p : Peg Rule) : Prop :=
  ∀ a, Reads grammar p a → ∀ t ∈ a, t.isKind kind = false

theorem isKind_trivia {before : List Leaf} : ∀ t ∈ trivia before, t.isKind kind = false := by
  intro t ht
  rcases List.mem_map.1 ht with ⟨l, -, rfl⟩
  rfl

theorem isKind_node {kind' : Kind} {ts : List Tree} (hne : kind' ≠ kind) :
    (Tree.node kind' ts).isKind kind = false := beq_eq_false_iff_ne.2 hne

namespace Avoids

theorem word (text : String) : Avoids grammar kind (.word text) := by
  intro a h
  cases h with
  | word before => exact List.forall_mem_append.2 ⟨isKind_trivia, List.forall_mem_singleton.2 rfl⟩

theorem lineStart : Avoids grammar kind .lineStart := by
  intro a h
  cases h
  exact List.forall_mem_singleton.2 rfl

theorem linesAbove {kind' : Kind} (hne : kind' ≠ kind) :
    Avoids grammar kind (.linesAbove kind') := by
  intro a h
  cases h
  exact List.forall_mem_singleton.2 (isKind_node hne)

theorem node {kind' : Kind} {p : Peg Rule} (hne : kind' ≠ kind) :
    Avoids grammar kind (.node kind' p) := by
  intro a h
  cases h with
  | node before hp =>
      exact List.forall_mem_append.2 ⟨isKind_trivia, List.forall_mem_singleton.2 (isKind_node hne)⟩

theorem block {p : Peg Rule} (hne : ∀ extra, Kind.block extra ≠ kind) :
    Avoids grammar kind (.block p) := by
  intro a h
  cases h with
  | block before ending extra footer hfooter hp =>
      exact List.forall_mem_singleton.2 (isKind_node (hne extra))

theorem all {ps : List (Peg Rule)} (h : ∀ p ∈ ps, Avoids grammar kind p) :
    Avoids grammar kind (all ps) := by
  induction ps with
  | nil =>
      intro a hread
      cases hread
      exact fun t ht => absurd ht List.not_mem_nil
  | cons p ps ih =>
      rw [List.forall_mem_cons] at h
      intro a hread
      rcases reads_all_cons hread with ⟨b, c, rfl, hb, hc⟩
      exact List.forall_mem_append.2 ⟨h.1 b hb, ih h.2 c hc⟩

theorem any {ps : List (Peg Rule)} (hne : ps ≠ []) (h : ∀ p ∈ ps, Avoids grammar kind p) :
    Avoids grammar kind (any ps) := by
  intro a hread
  rcases reads_any hne hread with ⟨p, hp, hread⟩
  exact h p hp a hread

theorem many {p : Peg Rule} (h : Avoids grammar kind p) : Avoids grammar kind (.many p) := by
  intro a hread
  generalize hq : Peg.many p = q at hread
  -- The induction is on how often the expression was read.
  induction hread with
  | done => exact fun t ht => absurd ht List.not_mem_nil
  | more hp _ _ ih =>
      cases hq
      exact List.forall_mem_append.2 ⟨h _ hp, ih rfl⟩
  | _ => cases hq

theorem optional {p : Peg Rule} (h : Avoids grammar kind p) :
    Avoids grammar kind (.optional p) := by
  intro a hread
  cases hread with
  | absent => exact fun t ht => absurd ht List.not_mem_nil
  | present hp => exact h a hp

theorem such {test : Tree → Bool} {p : Peg Rule} (h : Avoids grammar kind p) :
    Avoids grammar kind (.such test p) := by
  intro a hread
  cases hread with
  | such hp => exact h a hp

theorem rule {name : Rule} (h : Avoids grammar kind (grammar name)) :
    Avoids grammar kind (.rule name) := by
  intro a hread
  cases hread with
  | rule hrule => exact h a hrule

/-- What goes on with a new node around it avoids what its beginning avoids. -/
theorem extend {joint : Tree → List Tree → Joint} {p q : Peg Rule} (h : Avoids grammar kind p)
    (hbeside : ∀ first rest, joint first rest ≠ .beside)
    (hunder : ∀ first rest, joint first rest ≠ .under kind) :
    Avoids grammar kind (.extend joint p q) := by
  intro a hread
  cases hread with
  | apart before hp => exact List.forall_mem_append.2 ⟨isKind_trivia, h _ hp⟩
  | beside before hp hq hjoint => exact absurd hjoint (hbeside _ _)
  | under before hp hq hjoint =>
      refine List.forall_mem_append.2 ⟨isKind_trivia, List.forall_mem_singleton.2 ?_⟩
      refine isKind_node ?_
      rintro rfl
      exact hunder _ _ hjoint

end Avoids

open Grammar

section SetAside

/-! What stands above the first statement or below the last one is part of no statement. -/

variable (hkind : kind = .header ∨ kind = .footer)

include hkind

theorem avoids_opening : Avoids Grammar.grammar kind opening := by
  have hne : Kind.leading ≠ kind := by rcases hkind with rfl | rfl <;> decide
  exact .all (List.forall_mem_cons.2 ⟨.linesAbove hne, List.forall_mem_singleton.2 .lineStart⟩)

theorem avoids_suite : Avoids Grammar.grammar kind (.rule .suite) := by
  have hblock : ∀ extra, Kind.block extra ≠ kind := by
    rcases hkind with rfl | rfl <;> exact fun _ => Kind.noConfusion
  have hsuite : Kind.suite ≠ kind := by rcases hkind with rfl | rfl <;> decide
  exact .rule (.any (List.cons_ne_nil _ _) (List.forall_mem_cons.2
    ⟨.block hblock, List.forall_mem_singleton.2 (.node hsuite)⟩))

/-- A `try` statement is a node of its own, or what stands before its handlers. -/
theorem avoids_tryStatement : Avoids Grammar.grammar kind tryStatement := by
  refine .such (.extend (.all ?_) (fun first rest => ?_) fun first rest => ?_)
  · simp only [List.forall_mem_cons, List.not_mem_nil, false_implies, implies_true, and_true]
    exact ⟨avoids_opening hkind, .word _, .word _, avoids_suite hkind⟩
  · unfold tryJoint
    split_ifs <;> exact Joint.noConfusion
  · unfold tryJoint
    rcases hkind with rfl | rfl <;> split_ifs <;>
      simp only [ne_eq, reduceCtorEq, Joint.under.injEq, not_false_eq_true]

/-- No statement is a header or a footer. -/
theorem avoids_statement : Avoids Grammar.grammar kind (.rule .statement) := by
  have hne : ∀ kind' : Kind, kind' ≠ .header → kind' ≠ .footer → kind' ≠ kind := by
    rintro kind' hheader hfooter rfl
    exact hkind.elim hheader hfooter
  refine .rule (.any (List.cons_ne_nil _ _) ?_)
  simp only [List.forall_mem_cons, List.not_mem_nil, false_implies, implies_true, and_true]
  refine ⟨?_, ?_, ?_, ?_, ?_, ?_, avoids_tryStatement hkind, ?_, ?_⟩ <;>
    exact .node (hne _ (by decide) (by decide))

end SetAside

end Avoids

end Source

/-- No statement comes after the footer of a file. -/
def FooterLast (parts : List Tree) : Prop :=
  parts.Pairwise fun t u => t.isKind .footer = true → isStatement u = false

/-- In a file that was read, the footer is the last part. -/
theorem footerLast_of_parse? {text : String} {m : Module} (h : Module.parse? text = some m) :
    FooterLast m.tree.children := by
  rcases parse?_reads h with ⟨hreads, above, more, htree⟩
  rw [htree] at hreads ⊢
  cases hreads with
  | rule hrule =>
  generalize htrees : [Source.Tree.node .module (.node .header above :: more)] = trees at hrule
  cases hrule with
  | @node before _ _ a ha =>
      -- The one tree that was read is the root, and its parts are those of the rule.
      have hparts : a = .node .header above :: more := by
        have hlast := congrArg List.getLast? htrees
        rw [List.getLast?_singleton, List.getLast?_concat, Option.some.injEq,
          Tree.node.injEq] at hlast
        exact hlast.2.symm
      rw [Tree.children, ← hparts]
      rcases Peg.reads_all_cons ha with ⟨b, c, rfl, hheader, hc⟩
      rcases Peg.reads_all_cons hc with ⟨d, e, rfl, hstatements, he⟩
      rcases Peg.reads_all_cons he with ⟨f, g, rfl, hfooter, hg⟩
      cases hheader
      cases hfooter
      cases hg
      have havoid := Avoids.many (avoids_statement (.inr rfl)) d hstatements
      rw [FooterLast, List.append_nil, List.singleton_append, List.pairwise_cons,
        List.pairwise_append]
      have hnever : ∀ {t u : Tree}, t.isKind .footer = false → t.isKind .footer = true →
          isStatement u = false := fun hno hyes => absurd (hno.symm.trans hyes) Bool.false_ne_true
      exact ⟨fun u _ => hnever rfl, List.pairwise_of_forall_mem_list fun t ht u _ =>
        hnever (havoid t ht), List.pairwise_singleton _ _, fun t ht u _ => hnever (havoid t ht)⟩

/-- A node with calls is a node of the same kind. -/
theorem exists_insertCalls_node (kind : Kind) (ts : List Tree) (calls : List (Option Tree)) :
    ∃ us, (insertCalls (.node kind ts) calls).1 = .node kind us := by
  rw [insertCalls]
  generalize insertCallsAll ts calls = inner
  rcases inner with ⟨us, left⟩
  dsimp only
  split
  · rename_i hfunction
    rcases left with _ | ⟨_ | call, left⟩
    · exact ⟨us, rfl⟩
    · exact ⟨us, rfl⟩
    · exact ⟨_, insertCall_eq call kind us ((isFunction_iff kind).2 hfunction)⟩
  · exact ⟨us, rfl⟩

/-- What is told from the kind of a tree is told of the tree with calls. -/
theorem map_insertCallsAll {α : Type} {f : Tree → α}
    (hf : ∀ kind ts us, f (.node kind ts) = f (.node kind us)) (ts : List Tree)
    (calls : List (Option Tree)) : (insertCallsAll ts calls).1.map f = ts.map f := by
  induction ts generalizing calls with
  | nil => rfl
  | cons t ts ih =>
      rw [insertCallsAll, List.map_cons, List.map_cons, ih]
      congr 1
      cases t with
      | leaf l => rfl
      | node kind ts =>
          rcases exists_insertCalls_node kind ts calls with ⟨us, hnode⟩
          rw [hnode]
          exact hf kind us ts

theorem FooterLast.insertCallsAll {ts : List Tree} (h : FooterLast ts)
    (calls : List (Option Tree)) : FooterLast (insertCallsAll ts calls).1 := by
  have hsame := map_insertCallsAll (f := fun t => (t.isKind .footer, isStatement t))
    (fun kind ts us => by cases kind <;> rfl) ts calls
  have hpairs : ∀ ts, FooterLast ts ↔ (ts.map fun t => (t.isKind .footer, isStatement t)).Pairwise
      fun a b => a.1 = true → b.2 = false := by
    intro ts
    rw [List.pairwise_map]
    exact Iff.rfl
  rw [hpairs] at h ⊢
  rwa [hsame]

/-! ### Where the import goes -/

/-- The statements of a file. -/
def statements (parts : List Tree) : List Tree := parts.filter isStatement

/-- A statement with this number among those of a file must stay before the import: it is
    the file's docstring, or a line with an import from `__future__`. -/
def StaysFirst (i : Nat) (t : Tree) : Prop :=
  (i = 0 ∧ isDocstringLine t = true) ∨ isFutureLine t = true

/-- The longest run of statements at the start that must stay first. -/
structure LeadingRun (lead all : List Tree) : Prop where
  starts : lead <+: all
  stays : ∀ i t, lead[i]? = some t → StaysFirst i t
  longest : ∀ t, all[lead.length]? = some t → ¬ StaysFirst lead.length t

/-- The parts of a file with the import of the hook's module: those that it has, if one of
    them is that import, and else one line more, after the statements that must stay
    first. -/
inductive Imported (config : Config) : List Tree → List Tree → Prop
  | kept (parts : List Tree) (line : Tree) (hline : line ∈ parts)
      (himport : IsImport config line) : Imported config parts parts
  | added (before after : List Tree) (hnone : ∀ line ∈ before ++ after, ¬ IsImport config line)
      (hlead : LeadingRun (statements before) (statements (before ++ after))) :
      Imported config (before ++ after)
        (before ++ Hook.importLine config.hookNamespace :: after)

theorem statements_cons (t : Tree) (ts : List Tree) :
    statements (t :: ts) = if isStatement t then t :: statements ts else statements ts :=
  List.filter_cons

/-- As many parts are kept first as the longest run of statements needs. The induction goes
    on in the middle of a file, and `k` statements came before. -/
theorem keptFirst_leads (k : Nat) (ts : List Tree) (hfooter : FooterLast ts) :
    (∀ i t, (statements (ts.take (keptFirst (k == 0) ts)))[i]? = some t → StaysFirst (k + i) t) ∧
      ∀ t, (statements ts)[(statements (ts.take (keptFirst (k == 0) ts))).length]? = some t →
        ¬ StaysFirst (k + (statements (ts.take (keptFirst (k == 0) ts))).length) t := by
  induction ts generalizing k with
  | nil => exact ⟨fun i t ht => absurd ht.symm (Option.some_ne_none t), fun t ht =>
      absurd ht.symm (Option.some_ne_none t)⟩
  | cons t ts ih =>
      rw [FooterLast, List.pairwise_cons] at hfooter
      have hstays : StaysFirst k t ↔
          ((k == 0) && isDocstringLine t || isFutureLine t) = true := by
        rw [StaysFirst, Bool.or_eq_true, Bool.and_eq_true, beq_iff_eq]
      rw [keptFirst]
      split
      · rename_i hstatement
        split
        · -- The statement must stay first, and is followed by others.
          rename_i hyes
          rcases ih (k + 1) hfooter.2 with ⟨hmore, hend⟩
          rw [show (k + 1 == 0) = false from rfl] at hmore hend
          rw [List.take_succ_cons, statements_cons, statements_cons, if_pos hstatement,
            if_pos hstatement]
          constructor
          · intro i u hu
            cases i with
            | zero =>
                cases hu
                exact hstays.2 hyes
            | succ i =>
                have hlater := hmore i u hu
                rwa [Nat.add_right_comm, Nat.add_assoc] at hlater
          · intro u hu
            have hlater := hend u hu
            rwa [Nat.add_right_comm, Nat.add_assoc] at hlater
        · -- The statement need not, and ends the run.
          rename_i hno
          rw [List.take_zero, statements_cons, if_pos hstatement]
          refine ⟨fun i u hu => absurd hu.symm (Option.some_ne_none u), fun u hu => ?_⟩
          cases hu
          exact fun hstay => hno (hstays.1 hstay)
      · rename_i hstatement
        split
        · -- After the footer there is no statement left.
          rename_i hisFooter
          have hrest : statements ts = [] := List.filter_eq_nil_iff.2 fun u hu => by
            rw [hfooter.1 u hu hisFooter]
            exact Bool.false_ne_true
          rw [List.take_zero, statements_cons, if_neg hstatement, hrest]
          exact ⟨fun i u hu => absurd hu.symm (Option.some_ne_none u),
            fun u hu => absurd hu.symm (Option.some_ne_none u)⟩
        · rw [List.take_succ_cons, statements_cons, statements_cons, if_neg hstatement,
            if_neg hstatement]
          exact ih k hfooter.2

/-- The parts that are kept first are those with the longest run of statements that must
    stay first. -/
theorem leadingRun_keptFirst {ts : List Tree} (hfooter : FooterLast ts) :
    LeadingRun (statements (ts.take (keptFirst true ts))) (statements ts) := by
  rcases keptFirst_leads 0 ts hfooter with ⟨hstays, hend⟩
  refine ⟨⟨statements (ts.drop (keptFirst true ts)), ?_⟩, fun i t ht => ?_, fun t ht => ?_⟩
  · rw [statements, statements, ← List.filter_append, List.take_append_drop]
    rfl
  · have hstay := hstays i t ht
    rwa [Nat.zero_add] at hstay
  · have hlast := hend t ht
    rwa [Nat.zero_add] at hlast

/-- What comes of the parts of a file that is to import the hook's module. -/
theorem imported_injectImport (config : Config) {parts : List Tree} (hfooter : FooterLast parts) :
    Imported config parts (injectImport config.hookNamespace parts) := by
  by_cases hsome : ∃ line ∈ parts, IsImport config line
  · rcases hsome with ⟨line, hline, himport⟩
    rw [injectImport_of_import hline himport]
    exact .kept parts line hline himport
  · have hnone : ∀ line ∈ parts, ¬ IsImport config line :=
      fun line hline himport => hsome ⟨line, hline, himport⟩
    have hcut := List.take_append_drop (keptFirst true parts) parts
    have hlead := leadingRun_keptFirst hfooter
    have hadded : Imported config _ _ := .added (parts.take (keptFirst true parts))
      (parts.drop (keptFirst true parts)) (by rwa [hcut]) (by rwa [hcut])
    rw [injectImport_of_no_import hnone]
    rwa [hcut] at hadded

namespace Engine

/-! ### Runs with imports and without -/

/-- A file of a program after a run without imports and after one with them, given its tree,
    its calls, and the parts of the tree with calls in either case. -/
structure FrameOf (config : Config) (u : SourceUnit) (m : Module) (calls : List (Option Tree))
    (parts parts' : List Tree) (off on : InstrumentedUnit) : Prop where
  parsed : Module.parse? u.code = some m
  /-- Both have the calls. -/
  inserted : (insertCalls m.tree calls).1 = .node .module parts
  siteCount : off.siteCount = (calls.filter (·.isSome)).length ∧ on.siteCount = off.siteCount
  name : off.name = u.name ∧ on.name = u.name
  codeOff : off.code = ({ m with tree := .node .module parts } : Module).render
  codeOn : on.code = ({ m with tree := .node .module parts' } : Module).render
  /-- A file without calls is the same in both. -/
  same : off.siteCount = 0 → parts' = parts
  /-- One with calls has the import, if there are imports. -/
  imported : 0 < off.siteCount → Imported config parts parts'

/-- What a run without imports gives, and what the same run with them gives. -/
structure Framed (config : Config) (units : List SourceUnit) (off on : Outcome) : Prop where
  sites : on.sites = off.sites
  mapping : on.mapping = off.mapping
  changedScopes : on.changedScopes = off.changedScopes
  trace : on.trace = off.trace
  files : off.units.length = units.length ∧ on.units.length = units.length ∧
    ∀ (i : Nat) (u : SourceUnit), units[i]? = some u → ∃ m calls parts parts' fileOff fileOn,
      off.units[i]? = some fileOff ∧ on.units[i]? = some fileOn ∧
        FrameOf config u m calls parts parts' fileOff fileOn

/-- A file that was read, written without imports and with them. -/
theorem frameOf_written {config : Config} {u : SourceUnit} {m : Module}
    (hparse : Module.parse? u.code = some m) (calls : List (Option Tree)) :
    ∃ parts parts', FrameOf config u m calls parts parts'
      (written (importing config false) (u.name, m) calls)
      (written (importing config true) (u.name, m) calls) := by
  rcases parse?_fits hparse with ⟨-, above, more, htree⟩
  have hfooter := footerLast_of_parse? hparse
  have hinsert : (insertCalls m.tree calls).1 =
      .node .module (insertCallsAll (.node .header above :: more) calls).1 := by
    rw [htree, insertCalls_module]
  rw [htree] at hfooter
  have hoff : (withCalls (importing config false) m calls).render = ({ m with
      tree := .node .module (insertCallsAll (.node .header above :: more) calls).1 } :
        Module).render := by
    rw [withCalls, ← hinsert]
    rfl
  have hcount : (written (importing config false) (u.name, m) calls).siteCount = 0 ↔
      calls.any (·.isSome) = false := by
    rw [written, List.length_eq_zero_iff, List.filter_eq_nil_iff, List.any_eq_false]
  cases hany : calls.any (·.isSome) with
  | false =>
      -- A file without calls is written as it would be without imports.
      have hon : withCalls (importing config true) m calls =
          withCalls (importing config false) m calls := by
        rw [withCalls, withCalls, hany, Bool.and_false, Bool.and_false]
        rfl
      refine ⟨_, _, hparse, hinsert, ⟨rfl, rfl⟩, ⟨rfl, rfl⟩, hoff, ?_, fun _ => rfl, fun hpos => ?_⟩
      · rw [written, hon, hoff]
      · exact absurd (hcount.2 hany) (Nat.pos_iff_ne_zero.1 hpos)
  | true =>
      refine ⟨_, injectImport config.hookNamespace _, hparse, hinsert, ⟨rfl, rfl⟩, ⟨rfl, rfl⟩,
        hoff, ?_, fun hzero => ?_, fun _ =>
          imported_injectImport config (hfooter.insertCallsAll calls)⟩
      · rw [written, withCalls, hany, Bool.and_true, importing, if_pos rfl, Module.injectImport]
        simp only [hinsert]
      · rw [hcount.1 hzero] at hany
        exact absurd hany Bool.false_ne_true

/-- Whatever the settings, a run with imports ends well if the one without does, and the
    other way round, and the two give the same but for the texts of files with calls: these
    have the import of the hook's module, and nothing else is different. -/
theorem run_frames_import (config : Config) (inject : Bool) (counter : Int)
    (units : List SourceUnit) (o : Outcome)
    (h : (run (importing config inject) counter units).outcome = .ok o)
    (hsuccess : o.success = true) :
    ∃ off on, (run (importing config false) counter units).outcome = .ok off ∧
      off.success = true ∧ (run (importing config true) counter units).outcome = .ok on ∧
        on.success = true ∧ Framed config units off on := by
  rcases (ends_well_iff _ counter units o).1 ⟨h, hsuccess⟩ with
    ⟨modules, p, results, hreads, hunits, rfl⟩
  -- From the run that is given to the one without imports, and from there to the one with.
  rcases instrumentUnits_beside false parallel_eq
      (balanced_opening _ counter units.length) rfl hunits with ⟨_, callss, -, -, hoff, rfl⟩
  rcases instrumentUnits_beside true parallel_eq
      (balanced_opening (importing config false) counter units.length) rfl hoff with
    ⟨_, callss', hlength, hresults, hon, rfl⟩
  rw [hresults] at hoff
  rcases (ends_well_iff _ counter units _).2 ⟨modules, _, _, hreads, hoff, rfl⟩ with
    ⟨houtcome, hsuccess⟩
  rcases (ends_well_iff _ counter units _).2 ⟨modules, _, _, hreads, hon, rfl⟩ with
    ⟨houtcome', hsuccess'⟩
  refine ⟨_, _, houtcome, hsuccess, houtcome', hsuccess', rfl, rfl, rfl, rfl, ?_⟩
  have hsize : ∀ config', (List.zipWith (written config') modules callss').length =
      units.length := fun config' => by
    rw [List.length_zipWith, hlength, Nat.min_self, hreads.length_eq]
  refine ⟨hsize _, hsize _, fun i u hu => ?_⟩
  rcases forall₂_getElem? hreads i u hu with ⟨⟨name, m⟩, hm, rfl, hparse⟩
  -- There are calls for the file, because there are for each.
  have hi : i < callss'.length := by
    rw [hlength]
    exact (List.getElem?_eq_some_iff.1 hm).1
  have hwritten : ∀ config', (List.zipWith (written config') modules callss')[i]? =
      some (written config' (u.name, m) callss'[i]) := fun config' => by
    rw [List.getElem?_zipWith_eq_some]
    exact ⟨_, _, hm, List.getElem?_eq_getElem hi, rfl⟩
  rcases frameOf_written hparse callss'[i] with ⟨parts, parts', hframe⟩
  exact ⟨m, callss'[i], parts, parts', _, _, hwritten _, hwritten _, hframe⟩

/-- A program with a file that has a docstring and an import from `__future__`, one that has
    the hook's import, and one that gets no calls. -/
def importSample : List SourceUnit :=
  [⟨"instrument_code.py", ""⟩,
    ⟨"a.py", "\"a\"\n\nfrom __future__ import x\n\"b\"\ndef f(): 0\n"⟩,
    ⟨"b.py", "def g(): 0\nimport instrument_code\n"⟩, ⟨"c.py", "\"c\"\n"⟩]

/-- The import in the sample is inserted, kept and left out. -/
theorem run_frames_import_sample : ∃ o, (run (importing {} true) 0 importSample).outcome = .ok o ∧
    o.success = true ∧ o.units.map (·.siteCount) = [0, 1, 1, 0] ∧
    ∃ off on, (run (importing {} false) 0 importSample).outcome = .ok off ∧
      off.success = true ∧ (run (importing {} true) 0 importSample).outcome = .ok on ∧
        on.success = true ∧ Framed {} importSample off on := by
  have hends : (run (importing {} true) 0 importSample).outcome.toOption.map
      (fun o => (o.success, o.units.map (·.siteCount))) = some (true, [0, 1, 1, 0]) := by
    decide +kernel
  rcases exists_outcome hends with ⟨o, houtcome, hseen⟩
  rcases Prod.mk.inj hseen with ⟨hsuccess, hcounts⟩
  exact ⟨o, houtcome, hsuccess, hcounts,
    run_frames_import {} true 0 importSample o houtcome hsuccess⟩

end Engine

end EntryCoverage
