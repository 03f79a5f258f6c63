import EntryCoverage.Proofs.Parsed
import EntryCoverage.Proofs.Run
import EntryCoverage.Proofs.Ways

/-!
# Which Functions Get Calls

The functions of a program that a run puts calls into, with nothing of the run in the
answer.

A run decides node by node, with a flag that files leave to each other and marks that
statements hand down to what is in them. The answer does without: a file is open if it
does not define the hook and an earlier one does (`IsOpen`), and in an open file the
nodes that get calls are the functions that come from it (`Chosen`). The flag turns into
names of files because the root of a file comes from the file itself, so a file that
defines the hook always lets it be seen (`any_marksHook`).

Sites are in the order in which nodes are looked at. `Enumerates` says of the sites of a
file that they are those of the chosen nodes, each once and children first.

## Main definitions

* `NamesHook`: A file's name ends as that of the file that defines the hook.
* `IsOpen`: A file's functions may get calls.
* `Chosen`: A node gets a call if its file is open.
* `Enumerates`: Sites are those of the chosen nodes in their order.

## Theorems

* `definesHook_iff`: The hook's file is known by the end of its name.
* `any_marksHook`: A file that defines the hook lets it be seen, and no other does.
* `Handled.planned`: The flag that a file begins with.
* `run_chooses`: The sites of a run, and its warning.
-/

namespace EntryCoverage

open Source

/-- What follows a beginning is there exactly if the text begins so. -/
theorem Text.after?_isSome_iff (beginning cs : List Char) :
    (Text.after? beginning cs).isSome = true ↔ beginning <+: cs := by
  induction beginning generalizing cs with
  | nil => exact ⟨fun _ => List.nil_prefix, fun _ => rfl⟩
  | cons b bs ih =>
      cases cs with
      | nil =>
          rw [List.prefix_nil]
          exact ⟨fun h => absurd h Bool.false_ne_true, fun h => absurd h (List.cons_ne_nil _ _)⟩
      | cons c cs =>
          rw [Text.after?, List.cons_prefix_cons, ← ih]
          by_cases hbc : b = c
          · rw [if_pos (beq_iff_eq.2 hbc)]
            exact ⟨fun h => ⟨hbc, h⟩, fun h => h.2⟩
          · rw [if_neg (fun h => hbc (beq_iff_eq.1 h))]
            exact ⟨fun h => absurd h Bool.false_ne_true, fun h => absurd h.1 hbc⟩

/-- In lists that correspond, what stands at a place of one has its like in the other. -/
theorem forall₂_getElem? {α β : Type} {R : α → β → Prop} {l : List α} {m : List β}
    (h : List.Forall₂ R l m) (i : Nat) (a : α) (ha : l[i]? = some a) :
    ∃ b, m[i]? = some b ∧ R a b := by
  induction h generalizing i with
  | nil => simp only [List.getElem?_nil, reduceCtorEq] at ha
  | cons hab _ ih =>
      cases i with
      | zero => exact ⟨_, rfl, Option.some.inj ha ▸ hab⟩
      | succ i => exact ih i ha

namespace Engine

/-! ### The file of the hook -/

/-- A file's name ends as that of the file that defines the hook. -/
def NamesHook (config : Config) (name : String) : Prop :=
  config.hookFileName.toList <:+ name.toList

theorem definesHook_iff (config : Config) (name : String) :
    definesHook config name = true ↔ NamesHook config name := by
  rw [definesHook, Text.after?_isSome_iff, List.reverse_prefix]
  exact Iff.rfl

/-- A file that defines the hook lets it be seen, and no other does: its root comes from
    the file, and what comes from elsewhere does not count. -/
theorem any_marksHook (config : Config) (d : Done)
    (hroot : ∃ above more, d.source.tree = .node .module (.node .header above :: more)) :
    d.nodes.any (marksHook config d.name) = definesHook config d.name := by
  rcases hroot with ⟨above, more, htree⟩
  rw [Done.nodes, visits, htree, walk, List.any_append, List.any_cons, List.any_nil, Bool.or_false]
  cases hdefines : definesHook config d.name with
  | true =>
      -- Nothing is marked above the root, so the root comes from the file.
      have horigin : ({ origin := d.name } : Context).originOf (.node .header above :: more) =
          d.name := rfl
      rw [marksHook, hdefines, Bool.and_true, horigin, decide_eq_true rfl, Bool.or_true]
  | false =>
      have hnone : ∀ v, marksHook config d.name v = false := fun v => by
        rw [marksHook, hdefines, Bool.and_false]
      rw [hnone, Bool.or_false, List.any_eq_false]
      exact fun v _ => by rw [hnone v]; exact Bool.false_ne_true

/-- The flag that a file begins with says whether an earlier file defines the hook, and
    the flag at the end whether any file does. -/
theorem Handled.planned {config : Config} {seen last : Bool} {done : List Done}
    (h : Handled config seen done last)
    (hroot : ∀ d ∈ done, ∃ above more,
      d.source.tree = .node .module (.node .header above :: more)) :
    last = (seen || done.any fun e => definesHook config e.name) ∧
      ∀ i d, done[i]? = some d → Planned config d.name
        (seen || (done.take i).any fun e => definesHook config e.name) d.nodes d.sites d.calls := by
  induction h with
  | nil seen =>
      refine ⟨(Bool.or_false seen).symm, fun i d hd => ?_⟩
      simp only [List.getElem?_nil, reduceCtorEq] at hd
  | @cons d done seen last hplanned hdone ih =>
      rw [List.forall_mem_cons] at hroot
      -- The flag after the first file is known from the file's name.
      rw [any_marksHook config d hroot.1] at ih
      rcases ih hroot.2 with ⟨hlast, hrest⟩
      refine ⟨by rw [hlast, List.any_cons, Bool.or_assoc], fun i e he => ?_⟩
      cases i with
      | zero =>
          -- No file is before the first one.
          cases he
          rw [List.take_zero, List.any_nil, Bool.or_false]
          exact hplanned
      | succ i =>
          rw [List.take_succ_cons, List.any_cons, ← Bool.or_assoc]
          exact hrest i e he

/-! ### The nodes of a file -/

/-- A node gets a call if its file is open: it is a definition, or a lambda if the
    settings do not leave lambdas out, and comes from the file. -/
structure Chosen (config : Config) (file : String) (t : Tree) (w : Way) : Prop where
  isFunction : ∃ kind ts, t.at? w = some (.node kind ts) ∧
    (kind = .functionDef ∨ (kind = .lambda ∧ config.instrumentLambdas = true))
  origin : t.originAt file w = file

/-- A site is that of the node at the end of a way, with a name and a position that the
    visit of the node gives. -/
def SiteAt (config : Config) (file : String) (m : Module) (w : Way) (s : Site) : Prop :=
  ∃ v call, (w, v) ∈ m.tree.postorder.zip (visits m.layout { origin := file } m.tree) ∧
    m.tree.at? w = some (.node v.kind v.children) ∧ Serves config file v s call

/-- Sites are those of the chosen nodes, each once, children before their parents. -/
def Enumerates (config : Config) (file : String) (m : Module) (sites : List Site) : Prop :=
  ∃ ways : List Way, ways.Nodup ∧ ways.Pairwise Way.Before ∧
    (∀ w, w ∈ ways ↔ Chosen config file m.tree w) ∧ List.Forall₂ (SiteAt config file m) ways sites

theorem getsCall_iff (config : Config) (kind : Kind) : getsCall config kind = true ↔
    kind = .functionDef ∨ (kind = .lambda ∧ config.instrumentLambdas = true) := by
  cases kind <;> simp only [getsCall, reduceCtorEq, false_and, or_self, Bool.false_eq_true,
    true_and, true_or, false_or]

/-- A node gets a call exactly if it is chosen and its file is open. -/
theorem selects_iff_chosen {config : Config} {file : String} {seen : Bool} {t : Tree} {w : Way}
    {v : Visit} (h : Tree.Stands file t w v) : selects config file seen v = true ↔
      (seen && !definesHook config file) = true ∧ Chosen config file t w := by
  rw [selects, Bool.and_assoc, Bool.and_eq_true]
  refine and_congr_right fun _ => ?_
  rw [Bool.and_eq_true, decide_eq_true_eq, getsCall_iff, h.origin]
  constructor
  · rintro ⟨horigin, hkind⟩
    exact ⟨⟨v.kind, v.children, h.node, hkind⟩, horigin⟩
  · rintro ⟨⟨kind, ts, hat, hkind⟩, horigin⟩
    rw [h.node, Option.some.injEq, Tree.node.injEq] at hat
    rw [hat.1]
    exact ⟨horigin, hkind⟩

/-- Pairs of lists that correspond. -/
theorem mem_zip_of_getElem? {α β : Type} {l : List α} {m : List β} {i : Nat} {a : α} {b : β}
    (ha : l[i]? = some a) (hb : m[i]? = some b) : (a, b) ∈ l.zip m := by
  refine List.mem_of_getElem? (i := i) ?_
  rw [List.getElem?_zip_eq_some]
  exact ⟨ha, hb⟩

/-- The sites of an open file are those of its chosen nodes. -/
theorem Planned.enumerates {config : Config} {d : Done}
    (h : Planned config d.name true d.nodes d.sites d.calls)
    (hopen : definesHook config d.name = false) :
    Enumerates config d.name d.source d.sites := by
  have hstand := Tree.visits_stand d.source.layout { origin := d.name } d.source.tree
  have hlength := hstand.length_eq
  -- The nodes that get calls, with the ways to them.
  let pairs := (d.source.tree.postorder.zip d.nodes).filter fun wv =>
    selects config d.name true wv.2
  have hpair : ∀ wv ∈ pairs, Tree.Stands d.name d.source.tree wv.1 wv.2 ∧
      selects config d.name true wv.2 = true ∧ wv ∈ d.source.tree.postorder.zip d.nodes := by
    intro wv hwv
    rcases List.mem_filter.1 hwv with ⟨hzip, hselects⟩
    exact ⟨List.forall₂_zip hstand hzip, hselects, hzip⟩
  have hfst : (d.source.tree.postorder.zip d.nodes).map (·.1) = d.source.tree.postorder :=
    List.map_fst_zip (Nat.le_of_eq hlength)
  have hsnd : pairs.map (·.2) = d.nodes.filter (selects config d.name true) := by
    have hnodes : (d.source.tree.postorder.zip d.nodes).map (·.2) = d.nodes :=
      List.map_snd_zip (Nat.le_of_eq hlength.symm)
    rw [← hnodes, List.filter_map]
    rfl
  -- As a part of the list of all ways, theirs keep its order.
  have hsublist : (pairs.map (·.1)).Sublist d.source.tree.postorder := by
    conv => rhs; rw [← hfst]
    exact List.filter_sublist.map _
  refine ⟨pairs.map (·.1), hsublist.nodup (Tree.nodup_postorder _),
    (Tree.pairwise_postorder _).sublist hsublist, ?_, ?_⟩
  · intro w
    constructor
    · intro hw
      rcases List.mem_map.1 hw with ⟨wv, hwv, rfl⟩
      rcases hpair wv hwv with ⟨hstands, hselects, -⟩
      exact ((selects_iff_chosen hstands).1 hselects).2
    · -- A chosen node is a node of the tree, so it is visited.
      intro hchosen
      rcases hchosen.isFunction with ⟨kind, ts, hat, -⟩
      have hw := (Tree.mem_postorder d.source.tree w).2 ⟨kind, ts, hat⟩
      rcases List.getElem?_of_mem hw with ⟨i, hi⟩
      rcases forall₂_getElem? hstand i w hi with ⟨v, hv, hstands⟩
      refine List.mem_map.2 ⟨(w, v), List.mem_filter.2 ⟨mem_zip_of_getElem? hi hv, ?_⟩, rfl⟩
      exact (selects_iff_chosen hstands).2 ⟨by rw [hopen]; rfl, hchosen⟩
  · -- Sites are those of the visits in the pairs.
    have hserve := h.sites_serve
    rw [← hsnd, List.forall₂_map_left_iff] at hserve
    rw [List.forall₂_map_left_iff, List.forall₂_iff_zip]
    refine ⟨hserve.length_eq, fun {wv s} hmem => ?_⟩
    rcases hpair wv (List.of_mem_zip hmem).1 with ⟨hstands, -, hzip⟩
    rcases List.forall₂_zip hserve hmem with ⟨call, hcall⟩
    exact ⟨wv.2, call, hzip, hstands.node, hcall⟩

/-- A file that is not open has no sites: it defines the hook, or the hook was not seen
    before it. -/
theorem Planned.sites_eq_nil {config : Config} {d : Done} {seen : Bool}
    (h : Planned config d.name seen d.nodes d.sites d.calls)
    (hclosed : (seen && !definesHook config d.name) = false) : d.sites = [] := by
  have hserve := h.sites_serve
  have hnone : d.nodes.filter (selects config d.name seen) = [] := by
    rw [List.filter_eq_nil_iff]
    intro v _
    rw [selects, hclosed, Bool.false_and, Bool.false_and]
    exact Bool.false_ne_true
  rw [hnone] at hserve
  exact List.forall₂_nil_left_iff.1 hserve

/-! ### The whole run -/

/-- A file may get calls: its name does not end as that of the file that defines the
    hook, but that of an earlier file does. -/
def IsOpen (config : Config) (earlier : List SourceUnit) (name : String) : Prop :=
  ¬ NamesHook config name ∧ ∃ e ∈ earlier, NamesHook config e.name

theorem isOpen_iff (config : Config) (earlier : List SourceUnit) (name : String) :
    IsOpen config earlier name ↔
      ((earlier.any fun e => definesHook config e.name) && !definesHook config name) = true := by
  rw [IsOpen, Bool.and_eq_true, Bool.not_eq_true', ← Bool.not_eq_true, definesHook_iff,
    List.any_eq_true, and_comm]
  exact and_congr_left fun _ => exists_congr fun e => and_congr_right fun _ =>
    (definesHook_iff config e.name).symm

section Ended

variable {config : Config} {counter : Int} {units : List SourceUnit} {logs : List LogLine}
  {o : Outcome} {done : List Done} {seen : Bool}

/-- The files that a run went through are modules, above which nothing is marked. -/
theorem Ended.root (h : Ended config counter units logs o done seen) : ∀ d ∈ done,
    ∃ above more, d.source.tree = .node .module (.node .header above :: more) := by
  intro d hd
  rcases List.getElem?_of_mem hd with ⟨i, hi⟩
  rcases forall₂_getElem? h.parsed.flip i d hi with ⟨u, -, -, hparse⟩
  exact (parse?_fits hparse).2

/-- The files before one that was gone through define the hook if those given do. -/
theorem Ended.any_definesHook (h : Ended config counter units logs o done seen) (n : Nat) :
    ((done.take n).any fun e => definesHook config e.name) =
      (units.take n).any fun e => definesHook config e.name := by
  have hnames := congrArg (fun names => (names.take n).any (definesHook config)) h.names
  simp only [← List.map_take, List.any_map] at hnames
  exact hnames.symm

/-- What each file of a run got: if it is open, the sites of its chosen nodes, and otherwise
    none. -/
theorem Ended.covered (h : Ended config counter units logs o done seen) {i : Nat} {u : SourceUnit}
    (hu : units[i]? = some u) :
    ∃ d, done[i]? = some d ∧ Module.parse? u.code = some d.source ∧
      (IsOpen config (units.take i) u.name → Enumerates config u.name d.source d.sites) ∧
        (¬ IsOpen config (units.take i) u.name → d.sites = []) := by
  rcases forall₂_getElem? h.parsed i u hu with ⟨d, hd, hname, hparse⟩
  have hplanned := (h.handled.planned h.root).2 i d hd
  rw [Bool.false_or, h.any_definesHook] at hplanned
  refine ⟨d, hd, hparse, fun hopen => ?_, fun hclosed => ?_⟩
  · rw [hname, isOpen_iff, Bool.and_eq_true, Bool.not_eq_true'] at hopen
    rw [hopen.1] at hplanned
    rw [hname]
    exact hplanned.enumerates hopen.2
  · rw [hname, isOpen_iff, Bool.not_eq_true] at hclosed
    exact hplanned.sites_eq_nil hclosed

/-- The user is warned if the hook was not seen. -/
theorem Ended.warned (h : Ended config counter units logs o done seen) :
    ⟨.warning, missingHook config⟩ ∈ logs ↔ seen = false := by
  -- Only the lines of its level matter.
  have hmem : ⟨.warning, missingHook config⟩ ∈ logs ↔
      ⟨.warning, missingHook config⟩ ∈ logs.filter (·.level = .warning) :=
    ⟨fun hin => List.mem_filter.2 ⟨hin, rfl⟩, fun hin => (List.mem_filter.1 hin).1⟩
  rw [hmem, h.logged]
  cases seen with
  | true =>
      rw [if_pos rfl]
      exact ⟨fun hin => absurd hin List.not_mem_nil, fun hc => absurd hc.symm Bool.false_ne_true⟩
  | false =>
      rw [if_neg Bool.false_ne_true]
      exact ⟨fun _ => rfl, fun _ => List.mem_singleton_self _⟩

/-- The trace has a warning if the hook was not seen. -/
theorem Ended.traced (h : Ended config counter units logs o done seen) :
    (∃ e ∈ o.trace.events, e.kind = .warning ∧ e.description = missingHook config) ↔
      seen = false := by
  constructor
  · rintro ⟨e, he, hkind, -⟩
    have htold : (e.description, e.metadata) ∈ o.trace.told .warning :=
      List.mem_map.2 ⟨e, List.mem_filter.2 ⟨he, decide_eq_true hkind⟩, rfl⟩
    rw [h.warnings] at htold
    cases seen with
    | true => exact absurd htold List.not_mem_nil
    | false => rfl
  · rintro rfl
    have htold : (missingHook config, [("level", .text "warning")]) ∈ o.trace.told .warning := by
      rw [h.warnings, if_neg Bool.false_ne_true]
      exact List.mem_singleton_self _
    rcases List.mem_map.1 htold with ⟨e, he, hdescription⟩
    rcases List.mem_filter.1 he with ⟨he, hkind⟩
    exact ⟨e, he, of_decide_eq_true hkind, congrArg Prod.fst hdescription⟩

end Ended

/-- Which functions a run puts calls into, and when it warns. -/
structure Choice (config : Config) (units : List SourceUnit) (logs : List LogLine) (o : Outcome) :
    Prop where
  /-- The sites of an open file are those of its chosen nodes; any other file has
      none. -/
  blocks : ∃ blocks : List (List Site), o.sites = blocks.flatten ∧ blocks.length = units.length ∧
    ∀ i u, units[i]? = some u → ∃ m result block, Module.parse? u.code = some m ∧
      o.units[i]? = some result ∧ blocks[i]? = some block ∧ result.siteCount = block.length ∧
      (IsOpen config (units.take i) u.name → Enumerates config u.name m block) ∧
      (¬ IsOpen config (units.take i) u.name → result.siteCount = 0)
  /-- The user is told if no file defines the hook, and so is the trace. -/
  warned : ⟨.warning, missingHook config⟩ ∈ logs ↔ ∀ u ∈ units, ¬ NamesHook config u.name
  traced : (∃ e ∈ o.trace.events, e.kind = .warning ∧ e.description = missingHook config) ↔
    ∀ u ∈ units, ¬ NamesHook config u.name

/-- Whatever the settings and the files, a run that ends well puts calls into the chosen
    functions of open files, in their order, and warns if no file defines the hook. -/
theorem run_chooses (config : Config) (counter : Int) (units : List SourceUnit) (o : Outcome)
    (h : (run config counter units).outcome = .ok o) (hsuccess : o.success = true) :
    Choice config units (run config counter units).logs o := by
  rcases run_ok h hsuccess with ⟨done, seen, hended⟩
  rcases hended.handled.planned hended.root with ⟨hlast, -⟩
  -- The flag at the end is that of all files.
  have hseen : seen = false ↔ ∀ u ∈ units, ¬ NamesHook config u.name := by
    have hall := hended.any_definesHook units.length
    have hlength : done.length = units.length := hended.parsed.length_eq.symm
    rw [← hlength, List.take_length, hlength, List.take_length] at hall
    rw [hlast, Bool.false_or, hall, List.any_eq_false]
    exact forall₂_congr fun u _ => not_congr (definesHook_iff config u.name)
  refine ⟨⟨done.map (·.sites), ?_, ?_, ?_⟩, ?_, ?_⟩
  · rw [hended.sites, List.flatMap_def]
  · rw [List.length_map, hended.parsed.length_eq]
  · intro i u hu
    rcases hended.covered hu with ⟨d, hd, hparse, hopen, hclosed⟩
    refine ⟨d.source, d.result config, d.sites, hparse, ?_, ?_, rfl, hopen, ?_⟩
    · rw [hended.units, List.getElem?_map, hd, Option.map_some]
    · rw [List.getElem?_map, hd, Option.map_some]
    · intro hno
      rw [Done.result, hclosed hno, List.length_nil]
  · exact hended.warned.trans hseen
  · exact hended.traced.trans hseen

/-- The choice in the sample. -/
theorem run_chooses_sample : ∃ o, (run sampleConfig 0 sample).outcome = .ok o ∧
    o.success = true ∧ Choice sampleConfig sample (run sampleConfig 0 sample).logs o := by
  rcases sample_ends with ⟨o, houtcome, hsuccess⟩
  exact ⟨o, houtcome, hsuccess, run_chooses sampleConfig 0 sample o houtcome hsuccess⟩

end Engine

end EntryCoverage
