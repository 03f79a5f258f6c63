import EntryCoverage.Builder
import EntryCoverage.Proofs.Registry

/-!
# The Books in Step

Four records are kept of the calls that a run adds: the registry of places, the list
of sites, the list of changes and the trace. Different functions write them, and this
module shows that they never disagree as long as nothing fails.

The sites are what the others are measured by. `Balanced` says that the registry
holds what it would hold after the places of the sites had been asked for in their
order, that every site has the identifier of its place, and that changes and trace
tell of the sites one by one. `enter_ok` is the one step that adds a site, and it
keeps that; every other step leaves the books as they are but for events that tell of
no mutation and no warning, which is what `Quiet` says.

The text that the trace has for a call is that of the call in a file, because a path
that can be written begins with no blank and a call ends in a parenthesis
(`renderAlone_hookCall`).

## Main definitions

* `callText`: The text of a call.
* `Trace.told`: What a trace tells in the events of a kind.
* `mutationOf`: What the trace says about a site.
* `Builder.Balanced`: The books agree.
* `Builder.Quiet`: Books that differ in events of no account.

## Theorems

* `isSome_hookCall?_iff`: When a call can be written.
* `renderAlone_hookCall`: A call is traced as it is written.
* `Balanced.of_quiet`: Quiet steps keep the books balanced.
* `enter_ok`: A call that is made adds one site to balanced books.
-/

namespace EntryCoverage

open Source

/-! ### The text of a call -/

/-- The text of a call of the hook. -/
def callText (config : Config) (identifier : String) (line : Int) : String :=
  config.hookPath ++ "(\"" ++ identifier ++ "\", " ++ toString line ++ ")"

/-- A text without blanks at its ends stays as it is. -/
theorem strip_eq_self (c d : Char) (cs : List Char) (hc : Text.isBlank c = false)
    (hd : Text.isBlank d = false) : Text.strip (c :: cs ++ [d]) = c :: cs ++ [d] := by
  -- Nothing is taken from the left, and of the reverse nothing either.
  have hleft : (c :: cs ++ [d]).dropWhile Text.isBlank = c :: cs ++ [d] := by
    rw [List.cons_append, List.dropWhile_cons_of_neg (by rw [hc]; exact Bool.false_ne_true)]
  rw [Text.strip, hleft, Text.stripRight, List.reverse_concat,
    List.dropWhile_cons_of_neg (by rw [hd]; exact Bool.false_ne_true), ← List.reverse_concat,
    List.reverse_reverse]

/-- A path that can be written begins with a character that is not blank. -/
theorem path_of_dottedName? (path : String) (t : Tree) (h : Hook.dottedName? path = some t) :
    t = .word path ∧ ∃ c cs, path.toList = c :: cs ∧ Text.isBlank c = false := by
  unfold Hook.dottedName? at h
  split at h
  · rename_i hparts
    refine ⟨(Option.some.inj h).symm, ?_⟩
    cases hpath : path.toList with
    | nil =>
        rw [hpath] at hparts
        exact absurd hparts (by decide)
    | cons c cs =>
        refine ⟨c, cs, rfl, ?_⟩
        -- The first part of the path begins with its first character.
        rw [hpath, Text.splitOn] at hparts
        split at hparts
        · simp only [List.all_cons, Hook.isWritableName, List.isEmpty_nil, Bool.not_true,
            Bool.false_and, Bool.false_eq_true] at hparts
        · split at hparts <;>
            simp only [List.all_cons, Hook.isWritableName, List.any_cons, Bool.and_eq_true,
              Bool.not_eq_true', Bool.or_eq_false_iff] at hparts
          · exact hparts.1.2.1
          · exact hparts.1.2.1
  · simp only [reduceCtorEq] at h

/-- The parts of a call that can be written. -/
theorem hookCall?_eq_some (config : Config) (identifier : String) (line : Int) (call : Tree)
    (h : Hook.hookCall? config identifier line = some call) :
    call = .node .hookCall
        [.word config.hookPath, .word "(", .word ("\"" ++ identifier ++ "\""), .word ",",
          .space " ", .word (toString line), .word ")"] ∧
      ∃ c cs, config.hookPath.toList = c :: cs ∧ Text.isBlank c = false := by
  unfold Hook.hookCall? at h
  cases hpath : Hook.dottedName? config.hookPath with
  | none => simp only [hpath, bind, Option.bind, reduceCtorEq] at h
  | some path =>
      rcases path_of_dottedName? _ _ hpath with ⟨rfl, hfirst⟩
      simp only [hpath, bind, Option.bind] at h
      split at h
      · exact ⟨(Option.some.inj h).symm, hfirst⟩
      · simp only [reduceCtorEq] at h

/-- A call can be written exactly if its path, its identifier and its line can. -/
theorem isSome_hookCall?_iff (config : Config) (identifier : String) (line : Int) :
    (Hook.hookCall? config identifier line).isSome = true ↔
      (Hook.dottedName? config.hookPath).isSome = true ∧
        Hook.isWritableIdentifier identifier.toList = true ∧ 0 ≤ line := by
  unfold Hook.hookCall?
  cases Hook.dottedName? config.hookPath with
  | none => simp only [bind, Option.bind, Option.isSome_none, Bool.false_eq_true, false_and]
  | some path =>
      simp only [bind, Option.bind, Option.isSome_ite, Bool.and_eq_true, decide_eq_true_eq,
        Option.isSome_some, true_and]

/-- A quantity can stand between quotes. -/
theorem isWritableIdentifier_text (n : Int) :
    Hook.isWritableIdentifier (Vlq.text n).toList = true := by
  rw [Vlq.text, String.toList_ofList]
  cases hletters : Vlq.letters n with
  | nil => rfl
  | cons c cs =>
      -- A quote is no letter of the alphabet.
      have hc : c ≠ '"' := by
        rintro rfl
        have hmem := Vlq.mem_alphabet_of_mem_letters n '"' (hletters ▸ List.mem_cons_self)
        exact absurd hmem (by decide)
      unfold Hook.isWritableIdentifier
      split
      · rename_i heq
        exact absurd (List.cons.inj heq).1 hc
      · rfl

section HookCall

variable {config : Config} {identifier : String} {line : Int} {call : Tree}

/-- The text of a call, wherever it stands. -/
theorem render_hookCall (h : Hook.hookCall? config identifier line = some call) (layout : Layout)
    (margin : String) : call.render layout margin = callText config identifier line := by
  rcases hookCall?_eq_some config identifier line call h with ⟨rfl, -⟩
  simp only [Tree.render, Tree.renderAll, Tree.word, Tree.space, Leaf.render, callText,
    String.append_assoc, String.append_empty]
  rfl

/-- The text of a call begins with its path and ends in a parenthesis, so it has no blanks
    at its ends. -/
theorem toList_callText (h : Hook.hookCall? config identifier line = some call) :
    ∃ c cs, Text.isBlank c = false ∧
      (callText config identifier line).toList = c :: cs ++ [')'] := by
  rcases hookCall?_eq_some config identifier line call h with ⟨-, c, cs, hpath, hc⟩
  refine ⟨c, cs ++ ("(\"" ++ identifier ++ "\", " ++ toString line).toList, hc, ?_⟩
  simp only [callText, String.toList_append, hpath, List.cons_append, List.append_assoc]
  rfl

end HookCall

/-- A call is traced as it is written. -/
theorem renderAlone_hookCall (config : Config) (identifier : String) (line : Int) (call : Tree)
    (h : Hook.hookCall? config identifier line = some call) :
    Naming.renderAlone call = callText config identifier line := by
  rcases toList_callText h with ⟨c, cs, hc, htext⟩
  rw [Naming.renderAlone, render_hookCall h, htext, strip_eq_self _ _ _ hc (by decide), ← htext,
    String.ofList_toList]

/-! ### Books that agree -/

/-- What a trace tells in the events of a kind: the description and the data of each. -/
def Trace.told (t : Trace) (kind : EventKind) : List (String × List (String × Value)) :=
  (t.events.filter (·.kind = kind)).map fun e => (e.description, e.metadata)

/-- What the trace says about a site. -/
def mutationOf (config : Config) (s : Site) : String × List (String × Value) :=
  ("Instrumented " ++ s.place.function,
    [("before", .text "(function entry)"),
      ("after", .text (callText config s.identifier s.place.line)),
      ("file", .text s.place.file), ("line", .int s.place.line)])

theorem Trace.told_record (t : Trace) (kind kind' : EventKind) (description : String)
    (metadata : List (String × Value)) :
    (t.record kind description metadata).told kind' =
      t.told kind' ++ if kind = kind' then [(description, metadata)] else [] := by
  unfold Trace.told Trace.record
  rw [List.filter_append, List.map_append]
  congr 1
  by_cases hk : kind = kind'
  · rw [if_pos hk, List.filter_cons_of_pos (by simpa using hk), List.filter_nil, List.map_singleton]
  · rw [if_neg hk, List.filter_cons_of_neg (by simpa using hk), List.filter_nil, List.map_nil]

/-- The start of a phase tells nothing of another kind. -/
theorem Trace.told_startPhase (t : Trace) (name detail : String) (kind : EventKind)
    (h : kind ≠ .phaseStart) : (t.startPhase name detail).told kind = t.told kind :=
  (t.told_record .phaseStart kind _ _).trans (by rw [if_neg h.symm, List.append_nil])

/-- The end of a phase tells nothing of another kind. -/
theorem Trace.told_endPhase (t : Trace) (kind : EventKind) (h : kind ≠ .phaseEnd) :
    t.endPhase.told kind = t.told kind := by
  unfold Trace.endPhase
  split
  · rfl
  · unfold Trace.told
    rw [List.filter_append, List.filter_cons_of_neg (by simpa using h.symm), List.filter_nil,
      List.append_nil]

/-- A look at a function tells nothing of another kind. -/
theorem Trace.told_inspection (t : Trace) (function outcome detail : String) (kind : EventKind)
    (h : kind ≠ .inspection) : (t.inspection function outcome detail).told kind = t.told kind :=
  (t.told_record .inspection kind _ _).trans (by rw [if_neg h.symm, List.append_nil])

/-- The places of sites, in the order of the sites. -/
def coordinates (sites : List Site) : List Coordinate := sites.map (·.place.coordinate)

namespace Builder

/-- The books agree: the registry, whose numbers began after `start`, was asked for the
    places of the sites, each site has the identifier of its place, and changes and
    trace tell of the same sites in the same order. -/
structure Balanced (start : Int) (b : Builder) : Prop where
  registry : b.registry.After start (coordinates b.sites)
  numbered : ∀ s ∈ b.sites, Vlq.encode
    (start + ((coordinates b.sites).eraseDups.idxOf s.place.coordinate : Int) + 1) =
      .ok s.identifier
  changes : b.changes = b.sites.map fun s => ⟨s.place.file, s.place.function⟩
  mutations : b.trace.told .mutation = b.sites.map (mutationOf b.config)
  warnings : b.trace.told .warning = []

/-- Nothing but the trace has changed, and it tells of no mutation or warning more. -/
structure Quiet (b b' : Builder) : Prop where
  config : b'.config = b.config
  registry : b'.registry = b.registry
  sites : b'.sites = b.sites
  changes : b'.changes = b.changes
  mutations : b'.trace.told .mutation = b.trace.told .mutation
  warnings : b'.trace.told .warning = b.trace.told .warning

theorem Quiet.refl (b : Builder) : Quiet b b := ⟨rfl, rfl, rfl, rfl, rfl, rfl⟩

/-- Quiet steps keep the books balanced. -/
theorem Balanced.of_quiet {start : Int} {b b' : Builder} (hb : b.Balanced start)
    (hq : Quiet b b') : b'.Balanced start where
  registry := by
    rw [hq.registry, hq.sites]
    exact hb.registry
  numbered := by
    rw [hq.sites]
    exact hb.numbered
  changes := by
    rw [hq.changes, hq.sites]
    exact hb.changes
  mutations := by
    rw [hq.mutations, hq.sites, hq.config]
    exact hb.mutations
  warnings := hq.warnings.trans hb.warnings

section NoteChange

variable (b : Builder) (p : Place) (call : Tree)

@[simp] theorem noteChange_config : (b.noteChange p call).config = b.config := rfl

@[simp] theorem noteChange_registry : (b.noteChange p call).registry = b.registry := rfl

@[simp] theorem noteChange_sites : (b.noteChange p call).sites = b.sites := rfl

@[simp] theorem noteChange_changes :
    (b.noteChange p call).changes = b.changes ++ [⟨p.file, p.function⟩] := rfl

theorem mutations_noteChange :
    (b.noteChange p call).trace.told .mutation = b.trace.told .mutation ++
      [("Instrumented " ++ p.function,
        [("before", .text "(function entry)"), ("after", .text (Naming.renderAlone call)),
          ("file", .text p.file), ("line", .int p.line)])] := by
  unfold noteChange Trace.mutation
  rw [Trace.told_record, if_pos rfl]
  simp only [List.foldl_cons, List.foldl_nil, putEntry, String.reduceBEq, Bool.false_eq_true,
    if_false]

theorem warnings_noteChange :
    (b.noteChange p call).trace.told .warning = b.trace.told .warning := by
  unfold noteChange Trace.mutation
  rw [Trace.told_record, if_neg (by decide), List.append_nil]

end NoteChange

/-- A call that is made adds one site to balanced books, and all four records tell of
    it. -/
theorem enter_ok {start : Int} {b b' : Builder} (hb : b.Balanced start) (p : Place) (call : Tree)
    (h : b.enter p = (b', .ok call)) :
    b'.Balanced start ∧ b'.config = b.config ∧
      ∃ identifier, b'.sites = b.sites ++ [⟨p, identifier⟩] ∧
        Hook.hookCall? b.config identifier p.line = some call := by
  unfold enter allocate at h
  cases hencode : b.registry.encode p.coordinate with
  | mk registry answer =>
    cases answer with
    | error reason => simp only [hencode, Prod.mk.injEq, reduceCtorEq, and_false] at h
    | ok identifier =>
        simp only [hencode] at h
        cases hcall : Hook.hookCall? b.config identifier p.line with
        | none => simp only [hcall, Prod.mk.injEq, reduceCtorEq, and_false] at h
        | some made =>
            simp only [hcall, Prod.mk.injEq, Except.ok.injEq] at h
            rcases h with ⟨rfl, rfl⟩
            rcases Registry.encode_ok hb.registry p.coordinate registry identifier hencode with
              ⟨hafter, hnumber⟩
            -- The place was asked for after those of the sites there were.
            have hplaces : coordinates (b.sites ++ [⟨p, identifier⟩]) =
                coordinates b.sites ++ [p.coordinate] := List.map_append
            refine ⟨⟨?_, ?_, ?_, ?_, ?_⟩, rfl, identifier, rfl, hcall⟩
            · rw [noteChange_registry, noteChange_sites, hplaces]
              exact hafter
            · -- The ranks of earlier places do not move.
              intro s hs
              rw [noteChange_sites] at hs ⊢
              rw [hplaces]
              rcases List.mem_append.1 hs with hs | hs
              · have hplace : s.place.coordinate ∈ coordinates b.sites := List.mem_map_of_mem hs
                rw [idxOf_eraseDups_append _ _ _ hplace]
                exact hb.numbered s hs
              · rw [List.mem_singleton.1 hs]
                exact hnumber
            · rw [noteChange_changes, noteChange_sites, hb.changes, List.map_append,
                List.map_singleton]
            · rw [mutations_noteChange, noteChange_sites, noteChange_config, hb.mutations,
                renderAlone_hookCall _ _ _ _ hcall, List.map_append, List.map_singleton, mutationOf]
            · rw [warnings_noteChange, hb.warnings]

end Builder

end EntryCoverage
