import EntryCoverage.Proofs.Outcomes
import EntryCoverage.Proofs.Renaming
import EntryCoverage.Proofs.Steps
import Mathlib.Data.Fin.VecNotation
import Mathlib.Data.List.FinRange
import Mathlib.Data.Set.Function

/-!
# The Order of Files

What depends on the order of a program's files.

Files leave each other two things: whether the hook's file was there, and what identifiers
were handed out. If the same files follow one that defines the hook, the first is the same
for every file in both orders, so each file asks for the same places. The rows of requests
of the two programs are then made of the same blocks in different orders, and whether a
row can be served does not depend on the order of its requests
(`exists_serve_eq_ok_iff`).

When both runs end well, their registries were asked for the same places in different
orders. Identifiers are written ranks, so the two registries differ by a bijection between
identifiers that keeps what they stand for (`Registry.After.renaming`), and file by file
the sites and calls are the same with their identifiers renamed (`Planned.renamed`). Files
of the same name may ask for the same place and then share an identifier, in both orders;
so the bijection is one of identifiers and not of sites.

## Main definitions

* `FollowsHook`: A file comes after one that defines the hook.
* `EndsWell`: A run ends well and gives an outcome.
* `FileRenamed`: A file after runs in either order.
* `Renamed`: What runs over a program in either order give.

## Theorems

* `requests_ofFn`: The requests of a program, file by file.
* `exists_serve_eq_ok_iff`: When a row of requests is served.
* `exists_endsWell_perm`: Runs in either order end well, or none does.
* `Planned.renamed`: The same nodes looked at in two runs.
* `run_reordered`: The order of files only renames identifiers.
-/

namespace EntryCoverage

open Source

/-! ### Lists as families -/

theorem exists_eq_ofFn {α : Type} {n : Nat} (l : List α) (h : l.length = n) :
    ∃ f : Fin n → α, l = List.ofFn f := by
  subst h
  exact ⟨l.get, (List.ofFn_get l).symm⟩

theorem forall₂_ofFn_iff {α β : Type} {n : Nat} {R : α → β → Prop} {f : Fin n → α}
    {g : Fin n → β} : List.Forall₂ R (List.ofFn f) (List.ofFn g) ↔ ∀ i, R (f i) (g i) := by
  rw [List.forall₂_iff_get]
  simp only [List.length_ofFn, List.get_eq_getElem, List.getElem_ofFn, true_and]
  exact ⟨fun h i => h i i.2 i.2, fun h i hi _ => h ⟨i, hi⟩⟩

theorem getElem?_ofFn_val {α : Type} {n : Nat} (f : Fin n → α) (i : Fin n) :
    (List.ofFn f)[(i : Nat)]? = some (f i) := by
  rw [List.getElem?_eq_getElem (by rw [List.length_ofFn]; exact i.2), List.getElem_ofFn]

/-- Among the first items of a family there is one with a property. -/
theorem any_take_ofFn {α : Type} {n : Nat} (f : Fin n → α) (p : α → Bool) (i : Fin n) :
    ((List.ofFn f).take i).any p = true ↔ ∃ j < i, p (f j) = true := by
  rw [List.any_eq_true]
  constructor
  · rintro ⟨a, ha, hp⟩
    rcases List.getElem?_of_mem ha with ⟨k, hk⟩
    rw [List.getElem?_take, Option.ite_none_right_eq_some] at hk
    rcases hk with ⟨hki, hk⟩
    have hfound := (getElem?_ofFn_val f ⟨k, Nat.lt_trans hki i.2⟩).symm.trans hk
    exact ⟨⟨k, Nat.lt_trans hki i.2⟩, hki, Option.some.inj hfound ▸ hp⟩
  · rintro ⟨j, hj, hp⟩
    refine ⟨f j, List.mem_of_getElem? (i := (j : Nat)) ?_, hp⟩
    rw [List.getElem?_take_of_lt hj, getElem?_ofFn_val]

/-- The same blocks in another order have the same items. -/
theorem perm_flatten_ofFn {α : Type} {n : Nat} {f g : Fin n → List α} (σ : Equiv.Perm (Fin n))
    (h : ∀ i, g i = f (σ i)) : (List.ofFn g).flatten.Perm (List.ofFn f).flatten := by
  have hg : g = f ∘ σ := funext h
  rw [hg]
  exact (σ.ofFn_comp_perm f).flatten

namespace Registry

/-- Two registries that were asked for the same places differ by a renaming of
    identifiers, under which they stand for the same places. -/
theorem After.renaming {start : Int} {called called' : List Coordinate} {r r' : Registry}
    (h : After start called r) (h' : After start called' r')
    (hsame : ∀ c, c ∈ called ↔ c ∈ called') :
    ∃ f : String → String, Set.BijOn f {x | x ∈ (⟨r.rows⟩ : Mapping).entries.map (·.1)}
        {x | x ∈ (⟨r'.rows⟩ : Mapping).entries.map (·.1)} ∧
      (∀ x ∈ (⟨r.rows⟩ : Mapping).entries.map (·.1), ∃ c,
        (⟨r.rows⟩ : Mapping).decode x = .ok c ∧ (⟨r'.rows⟩ : Mapping).decode (f x) = .ok c) ∧
      ∀ c ∈ called, f (Vlq.text (start + (called.eraseDups.idxOf c : Int) + 1)) =
        Vlq.text (start + (called'.eraseDups.idxOf c : Int) + 1) := by
  -- An identifier is renamed by way of the place that it stands for.
  let f : String → String := fun x =>
    match (⟨r.rows⟩ : Mapping).decode x with
    | .ok c => Vlq.text (start + (called'.eraseDups.idxOf c : Int) + 1)
    | .error _ => x
  have hf : ∀ c ∈ called, f (Vlq.text (start + (called.eraseDups.idxOf c : Int) + 1)) =
      Vlq.text (start + (called'.eraseDups.idxOf c : Int) + 1) := by
    intro c hc
    simp only [f, h.decode c hc]
  refine ⟨f, ⟨?_, ?_, ?_⟩, ?_, hf⟩
  · intro x hx
    rcases (h.mem_entries_iff x).1 hx with ⟨c, hc, rfl⟩
    rw [hf c hc]
    exact (h'.mem_entries_iff _).2 ⟨c, (hsame c).1 hc, rfl⟩
  · -- Different places have different ranks in the other registry, too.
    intro x hx y hy hxy
    rcases (h.mem_entries_iff x).1 hx with ⟨c, hc, rfl⟩
    rcases (h.mem_entries_iff y).1 hy with ⟨d, hd, rfl⟩
    rw [hf c hc, hf d hd] at hxy
    have hrank := Vlq.text_inj _ _ hxy
    have hcd : c = d :=
      (List.idxOf_inj (List.mem_eraseDups.2 ((hsame c).1 hc))).1 (by omega)
    rw [hcd]
  · intro y hy
    rcases (h'.mem_entries_iff y).1 hy with ⟨c, hc, rfl⟩
    have hc' := (hsame c).2 hc
    exact ⟨_, (h.mem_entries_iff _).2 ⟨c, hc', rfl⟩, hf c hc'⟩
  · intro x hx
    rcases (h.mem_entries_iff x).1 hx with ⟨c, hc, rfl⟩
    refine ⟨c, h.decode c hc, ?_⟩
    rw [hf c hc]
    exact h'.decode c ((hsame c).1 hc)

end Registry

/-- A site with its identifier renamed. -/
def Site.renamed (f : String → String) (s : Site) : Site :=
  { s with identifier := f s.identifier }

namespace Engine

variable {config : Config} {start : Int}

/-! ### The requests of a program -/

/-- A file of a program comes after one that defines the hook. -/
def FollowsHook {n : Nat} (config : Config) (units : Fin n → SourceUnit) (i : Fin n) : Prop :=
  ∃ j < i, NamesHook config (units j).name

/-- The requests of a program are those of its files, one after the other. -/
theorem requests_ofFn (config : Config) {n : Nat} (seen : Bool)
    (modules : Fin n → String × Module) :
    requests config seen (List.ofFn modules) = (List.ofFn fun i =>
      requestsOf config (modules i).1
        (seen || ((List.ofFn modules).take i).any fun e => definesHook config e.1)
        (visits (modules i).2.layout { origin := (modules i).1 } (modules i).2.tree)).flatten := by
  induction n generalizing seen with
  | zero => rfl
  | succ n ih =>
      rw [List.ofFn_succ, requests, ih, List.ofFn_succ, List.flatten_cons]
      simp only [Fin.val_zero, List.take_zero, List.any_nil, Bool.or_false, Fin.val_succ,
        List.take_succ_cons, List.any_cons, Bool.or_assoc]

/-- A row of requests is served in full if all of them name a place, the path can be
    written, and there is room for the places. -/
theorem exists_serve_eq_ok_iff (writable : Bool) (called : List Coordinate) (row : List Request)
    (hroom : called.eraseDups.length ≤ Registry.room start) :
    (∃ called', serve writable start called row = .ok called') ↔
      (∀ a ∈ row, ∃ c, a = .ok c) ∧ (row = [] ∨ writable = true) ∧
        (called ++ places row).eraseDups.length ≤ Registry.room start := by
  induction row generalizing called with
  | nil =>
      refine ⟨fun _ => ⟨fun _ ha => absurd ha List.not_mem_nil, .inl rfl, ?_⟩, fun _ => ⟨_, rfl⟩⟩
      rw [places, List.filterMap_nil, List.append_nil]
      exact hroom
  | cons a row ih =>
      cases a with
      | error reason =>
          constructor
          · rintro ⟨called', hserve⟩
            simp only [serve, reduceCtorEq] at hserve
          · rintro ⟨hnamed, -, -⟩
            rcases hnamed _ List.mem_cons_self with ⟨c, hc⟩
            simp only [reduceCtorEq] at hc
      | ok c =>
          have hplaces : called ++ places (.ok c :: row) = (called ++ [c]) ++ places row :=
            List.append_cons called c (places row)
          rw [hplaces, serve]
          split
          · -- There is no room for this place, so none for all of them.
            rename_i hfull
            have hle := length_eraseDups_le_append (called ++ [c]) (places row)
            constructor
            · rintro ⟨called', hserve⟩
              simp only [reduceCtorEq] at hserve
            · rintro ⟨-, -, hfits⟩
              omega
          · rename_i hfits
            cases writable with
            | true =>
                rw [if_pos rfl, ih (called ++ [c]) (by omega)]
                simp only [List.forall_mem_cons, Except.ok.injEq, exists_eq', true_and, or_true]
            | false =>
                -- The first request that names a place is one too many.
                rw [if_neg Bool.false_ne_true]
                simp only [reduceCtorEq, exists_false, List.cons_ne_nil, Bool.false_eq_true,
                  or_self, false_and, and_false]

/-- Distinct items are as many in any order. -/
theorem length_eraseDups_perm {l l' : List Coordinate} (h : l.Perm l') :
    l.eraseDups.length = l'.eraseDups.length := by
  have hperm : l.eraseDups.Perm l'.eraseDups := by
    rw [List.perm_ext_iff_of_nodup (nodup_eraseDups l) (nodup_eraseDups l')]
    intro c
    rw [List.mem_eraseDups, List.mem_eraseDups, h.mem_iff]
  exact hperm.length_eq

/-- Whether a row of requests is served does not depend on its order. -/
theorem exists_serve_perm (writable : Bool) {row row' : List Request} (h : row.Perm row') :
    (∃ called, serve writable start [] row = .ok called) ↔
      ∃ called, serve writable start [] row' = .ok called := by
  have hplaces : (places row).Perm (places row') := h.filterMap _
  have hnil : row = [] ↔ row' = [] := by
    rw [← List.length_eq_zero_iff, h.length_eq, List.length_eq_zero_iff]
  rw [exists_serve_eq_ok_iff _ _ _ (Nat.zero_le _), exists_serve_eq_ok_iff _ _ _ (Nat.zero_le _),
    List.nil_append, List.nil_append, length_eraseDups_perm hplaces, hnil]
  refine and_congr_left fun _ => forall_congr' fun a => ?_
  rw [h.mem_iff]

/-- A run ends well and gives an outcome. -/
def EndsWell (config : Config) (counter : Int) (units : List SourceUnit) (o : Outcome) : Prop :=
  (run config counter units).outcome = .ok o ∧ o.success = true

/-- A run ends well if its files have trees and its requests are served. -/
theorem exists_endsWell_iff (config : Config) {counter : Int} (hcounter : 0 ≤ counter)
    (units : List SourceUnit) : (∃ o, EndsWell config counter units o) ↔
      ∃ modules, Reads units modules ∧ ∃ called,
        serve (pathWritable config) counter [] (requests config false modules) = .ok called := by
  constructor
  · rintro ⟨o, hends⟩
    rcases (ends_well_iff config counter units o).1 hends with ⟨modules, -, -, hreads, -, -⟩
    refine ⟨modules, hreads, ?_⟩
    have hend := run_eq_serve config counter hcounter units modules hreads
    cases hserve : serve (pathWritable config) counter [] (requests config false modules) with
    | ok called => exact ⟨called, rfl⟩
    | error stop =>
        rw [hserve] at hend
        cases stop with
        | crash reason =>
            rw [hends.1] at hend
            simp only [reduceCtorEq] at hend
        | registry reason =>
            rcases hend with ⟨trace, hfailed⟩
            rw [hends.1, Except.ok.injEq] at hfailed
            have hsuccess := hends.2
            rw [hfailed] at hsuccess
            exact absurd hsuccess Bool.false_ne_true
  · rintro ⟨modules, hreads, called, hserve⟩
    have hend := run_eq_serve config counter hcounter units modules hreads
    rw [hserve] at hend
    rcases hend with ⟨o, houtcome, hsuccess, -⟩
    exact ⟨o, houtcome, hsuccess⟩

section Order

variable {n : Nat} {u : Fin n → SourceUnit} {σ : Equiv.Perm (Fin n)}

/-- The files before one that define the hook. -/
theorem any_take_definesHook (u : Fin n → SourceUnit) (i : Fin n) :
    (((List.ofFn u).take i).any fun e => definesHook config e.name) = true ↔
      FollowsHook config u i := by
  rw [any_take_ofFn]
  exact exists_congr fun j => and_congr_right fun _ => definesHook_iff config (u j).name

/-- If the same files follow one that defines the hook, each sees the same of it. -/
theorem any_definesHook_perm (hσ : ∀ i, FollowsHook config (u ∘ σ) i ↔ FollowsHook config u (σ i))
    (i : Fin n) : (((List.ofFn (u ∘ σ)).take i).any fun e => definesHook config e.name) =
      ((List.ofFn u).take (σ i)).any fun e => definesHook config e.name := by
  rw [Bool.eq_iff_iff, any_take_definesHook, any_take_definesHook, hσ]

/-- A program in another order asks for the same, its files in that order. -/
theorem requests_perm (hσ : ∀ i, FollowsHook config (u ∘ σ) i ↔ FollowsHook config u (σ i))
    {modules : Fin n → String × Module} (hreads : Reads (List.ofFn u) (List.ofFn modules))
    (hreads' : Reads (List.ofFn (u ∘ σ)) (List.ofFn (modules ∘ σ))) :
    (requests config false (List.ofFn (modules ∘ σ))).Perm
      (requests config false (List.ofFn modules)) := by
  rw [requests_ofFn, requests_ofFn]
  refine perm_flatten_ofFn σ fun i => ?_
  rw [hreads.any_definesHook, hreads'.any_definesHook, any_definesHook_perm hσ,
    Function.comp_apply]

/-- Whether a run ends well does not depend on the order of its files. -/
theorem exists_endsWell_perm {counter : Int} (hcounter : 0 ≤ counter)
    (hσ : ∀ i, FollowsHook config (u ∘ σ) i ↔ FollowsHook config u (σ i)) :
    (∃ o, EndsWell config counter (List.ofFn u) o) ↔
      ∃ o, EndsWell config counter (List.ofFn (u ∘ σ)) o := by
  have hsame : ∀ modules : Fin n → String × Module,
      Reads (List.ofFn (u ∘ σ)) (List.ofFn (modules ∘ σ)) ↔
        Reads (List.ofFn u) (List.ofFn modules) := by
    intro modules
    rw [Reads, Reads, forall₂_ofFn_iff, forall₂_ofFn_iff]
    exact σ.forall_congr_right (q := fun i => (u i).name = (modules i).1 ∧
      Module.parse? (u i).code = some (modules i).2)
  have hserved : ∀ modules : Fin n → String × Module,
      Reads (List.ofFn u) (List.ofFn modules) →
      ((∃ called, serve (pathWritable config) counter []
          (requests config false (List.ofFn (modules ∘ σ))) = .ok called) ↔
        ∃ called, serve (pathWritable config) counter []
          (requests config false (List.ofFn modules)) = .ok called) := fun modules hreads =>
    exists_serve_perm _ (requests_perm hσ hreads ((hsame modules).2 hreads))
  rw [exists_endsWell_iff config hcounter, exists_endsWell_iff config hcounter]
  constructor
  · rintro ⟨modules, hreads, hserve⟩
    rcases exists_eq_ofFn modules (hreads.length_eq.symm.trans List.length_ofFn) with
      ⟨modules, rfl⟩
    exact ⟨_, (hsame modules).2 hreads, (hserved modules hreads).2 hserve⟩
  · rintro ⟨modules, hreads, hserve⟩
    rcases exists_eq_ofFn modules (hreads.length_eq.symm.trans List.length_ofFn) with
      ⟨modules, rfl⟩
    -- The trees of the program in the order that was given.
    have hback : (modules ∘ σ.symm) ∘ σ = modules :=
      funext fun i => congrArg modules (σ.symm_apply_apply i)
    rw [← hback] at hreads hserve
    have hreads' := (hsame _).1 hreads
    exact ⟨_, hreads', (hserved _ hreads').1 hserve⟩

end Order

/-! ### The same nodes in two runs -/

section Parallel

variable {file : String} {seen : Bool} {v : Visit} {vs : List Visit} {sites sites' : List Site}
  {calls calls' : List (Option Tree)}

/-- The sites of a node are at one place. -/
theorem Serves.place_eq {s s' : Site} {call call' : Tree} (h : Serves config file v s call)
    (h' : Serves config file v s' call') : s'.place = s.place := by
  have hname := h'.name.symm.trans h.name
  rw [Except.ok.injEq] at hname
  rcases s with ⟨⟨f, function, line, column⟩, identifier⟩
  rcases s' with ⟨⟨f', function', line', column'⟩, identifier'⟩
  rw [Place.mk.injEq]
  exact ⟨h'.file.trans h.file.symm, hname, h'.line.trans h.line.symm,
    h'.column.trans h.column.symm⟩

/-- A node that is looked at in two runs has a site and a call in both, or in neither. -/
theorem Looked.alike {here here' : List Site} {call call' : Option Tree}
    (h : Looked config file seen v here call) (h' : Looked config file seen v here' call') :
    (here = [] ∧ call = none ∧ here' = [] ∧ call' = none) ∨
      ∃ s made s' made', here = [s] ∧ call = some made ∧ here' = [s'] ∧ call' = some made' ∧
        Serves config file v s made ∧ Serves config file v s' made' := by
  cases h with
  | passed hno =>
      cases h' with
      | passed _ => exact .inl ⟨rfl, rfl, rfl, rfl⟩
      | called hyes _ _ _ => exact absurd (hno.symm.trans hyes) Bool.false_ne_true
  | called hyes s made hs =>
      cases h' with
      | passed hno => exact absurd (hno.symm.trans hyes) Bool.false_ne_true
      | called _ s' made' hs' => exact .inr ⟨s, made, s', made', rfl, rfl, rfl, rfl, hs, hs'⟩

/-- The same nodes have sites at the same places. -/
theorem Planned.places_eq (h : Planned config file seen vs sites calls)
    (h' : Planned config file seen vs sites' calls') :
    sites'.map (·.place) = sites.map (·.place) := by
  induction h generalizing sites' calls' with
  | nil =>
      cases h'
      rfl
  | cons hv _ ih =>
      rcases h' with _ | ⟨hv', hvs'⟩
      rw [List.map_append, List.map_append, ih hvs']
      rcases hv.alike hv' with ⟨rfl, -, rfl, -⟩ | ⟨s, made, s', made', rfl, -, rfl, -, hs, hs'⟩
      · rfl
      · rw [List.map_singleton, List.map_singleton, hs.place_eq hs']

/-- If their identifiers differ by a renaming, so do their sites and calls. -/
theorem Planned.renamed {f : String → String} (h : Planned config file seen vs sites calls)
    (h' : Planned config file seen vs sites' calls')
    (hf : ∀ s ∈ sites, ∀ s' ∈ sites', s'.place = s.place → s'.identifier = f s.identifier) :
    sites' = sites.map (Site.renamed f) ∧ calls' = calls.map (Option.map (Tree.renamed f)) := by
  induction h generalizing sites' calls' with
  | nil =>
      cases h'
      exact ⟨rfl, rfl⟩
  | @cons v vs here sites call calls hv _ ih =>
      rcases h' with _ | @⟨_, _, here', sites', call', calls', hv', hvs'⟩
      have hhere : here' = here.map (Site.renamed f) ∧ call' = call.map (Tree.renamed f) := by
        rcases hv.alike hv' with ⟨rfl, rfl, rfl, rfl⟩ |
          ⟨s, made, s', made', rfl, rfl, rfl, rfl, hs, hs'⟩
        · exact ⟨rfl, rfl⟩
        · have hplace := hs.place_eq hs'
          have hidentifier := hf s (List.mem_append_left _ List.mem_cons_self) s'
            (List.mem_append_left _ List.mem_cons_self) hplace
          have hsite : s' = s.renamed f := by
            rw [Site.renamed, ← hplace, ← hidentifier]
          have hcall := hs'.call
          rw [hsite] at hcall
          rw [hsite, Option.map_some, renamed_hookCall hs.call hcall]
          exact ⟨rfl, rfl⟩
      rcases ih hvs' fun s hs s' hs' =>
        hf s (List.mem_append_right _ hs) s' (List.mem_append_right _ hs') with ⟨hsites, hcalls⟩
      rw [hhere.1, hhere.2, hsites, hcalls, List.map_append]
      refine ⟨rfl, ?_⟩
      split <;> rfl

/-- A file with its calls renamed. -/
theorem Planned.withCalls_renamed {d : Done} {u : SourceUnit} {earlier : List SourceUnit}
    {f : String → String}
    (h : Planned config d.name (earlier.any fun e => definesHook config e.name) d.nodes d.sites
      d.calls) (hparse : Module.parse? u.code = some d.source)
    (hmade : ∀ call, some call ∈ d.calls → ∃ identifier line,
      Hook.hookCall? config identifier line = some (call.renamed f)) :
    withCalls config d.source (d.calls.map (Option.map (Tree.renamed f))) =
      { d.source with tree := (withCalls config d.source d.calls).tree.renamed f } := by
  rcases parse?_fits hparse with ⟨hfits, above, more, htree⟩
  rw [htree] at hfits
  exact withCalls_onCalls htree hfits.2 h.calls_chosen
    (fun i w hgets => hgets.2.exists_mem_functionWays.imp fun part hpart => by
      rwa [htree] at hpart) h.calls_made hmade

end Parallel

/-! ### Runs in another order -/

/-- A file of a program after a run, and after one over the same files in another order,
    given its tree, its calls, and its sites in either order. -/
structure FileRenamed (config : Config) (f : String → String) (u : SourceUnit) (m : Module)
    (calls : List (Option Tree)) (block block' : List Site) (file file' : InstrumentedUnit) :
    Prop where
  parsed : Module.parse? u.code = some m
  name : file.name = u.name ∧ file'.name = u.name
  siteCount : file.siteCount = block.length ∧ file'.siteCount = block.length
  /-- The sites are at the same places, in the same order. -/
  sites : block' = block.map (Site.renamed f)
  /-- The calls are those of the sites. -/
  made : List.Forall₂ (fun s call => Hook.hookCall? config s.identifier s.place.line = some call)
    block calls.reduceOption
  code : file.code = (withCalls config m calls).render
  code' : file'.code =
    ({ m with tree := (withCalls config m calls).tree.renamed f } : Module).render

/-- What a run over files in one order gives, `o`, and what a run over the same files in
    another order gives, `o'`. -/
structure Renamed (config : Config) {n : Nat} (u : Fin n → SourceUnit) (σ : Equiv.Perm (Fin n))
    (f : String → String) (o o' : Outcome) : Prop where
  /-- Identifiers correspond one to one, and stand for the same places. -/
  mapping : ∃ m m', o.mapping = some m ∧ o'.mapping = some m' ∧
    Set.BijOn f {x | x ∈ m.entries.map (·.1)} {x | x ∈ m'.entries.map (·.1)} ∧
      ∀ x ∈ m.entries.map (·.1), ∃ c, m.decode x = .ok c ∧ m'.decode (f x) = .ok c
  files : o.units.length = n ∧ o'.units.length = n ∧ ∃ blocks blocks' : Fin n → List Site,
    o.sites = (List.ofFn blocks).flatten ∧ o'.sites = (List.ofFn blocks').flatten ∧
      ∀ i, ∃ m calls file file', o.units[(σ i : Nat)]? = some file ∧
        o'.units[(i : Nat)]? = some file' ∧
          FileRenamed config f (u (σ i)) m calls (blocks (σ i)) (blocks' i) file file'

section Ended

variable {counter : Int} {logs : List LogLine} {o : Outcome} {seen : Bool}

/-- The files that a run went through, as a family. -/
theorem Ended.exists_family {n : Nat} {u : Fin n → SourceUnit} {done : List Done}
    (h : Ended config counter (List.ofFn u) logs o done seen) : ∃ d : Fin n → Done,
      o.units = List.ofFn (fun i => (d i).result config) ∧
      o.sites = (List.ofFn fun i => (d i).sites).flatten ∧
      (∀ i, ∀ s ∈ (d i).sites, s ∈ o.sites) ∧
      (∀ i, (u i).name = (d i).name ∧ Module.parse? (u i).code = some (d i).source) ∧
      ∀ i, Planned config (d i).name
        (((List.ofFn u).take i).any fun e => definesHook config e.name) (d i).nodes (d i).sites
        (d i).calls := by
  rcases exists_eq_ofFn done (h.parsed.length_eq.symm.trans List.length_ofFn) with ⟨d, rfl⟩
  have hparsed := forall₂_ofFn_iff.1 h.parsed
  refine ⟨d, ?_, ?_, fun i s hs => ?_, hparsed, fun i => ?_⟩
  · rw [h.units, List.map_ofFn]
    rfl
  · rw [h.sites, List.flatMap_def, List.map_ofFn]
    rfl
  · rw [h.sites]
    exact List.mem_flatMap_of_mem (List.mem_ofFn.2 ⟨i, rfl⟩) hs
  · have hplanned := (h.handled.planned h.root).2 i (d i) (getElem?_ofFn_val d i)
    rwa [Bool.false_or, h.any_definesHook] at hplanned

/-- The identifiers of a run are the written ranks of the places of its sites. -/
theorem Ended.identifier_eq {units : List SourceUnit} {done : List Done}
    (h : Ended config counter units logs o done seen) {s : Site} (hs : s ∈ o.sites) :
    s.identifier = Vlq.text
      (counter + ((coordinates o.sites).eraseDups.idxOf s.place.coordinate : Int) + 1) :=
  ((Vlq.encode_eq_ok_iff _ _).1 (h.numbered s hs)).2

end Ended

/-- A file that was planned in two runs, if their identifiers differ by a renaming. -/
theorem fileRenamed_result {d d' : Done} {u : SourceUnit} {earlier : List SourceUnit}
    {seen' : Bool} {f : String → String}
    (hparsed : u.name = d.name ∧ Module.parse? u.code = some d.source)
    (hparsed' : u.name = d'.name ∧ Module.parse? u.code = some d'.source)
    (h : Planned config d.name (earlier.any fun e => definesHook config e.name) d.nodes d.sites
      d.calls)
    (h' : Planned config d'.name seen' d'.nodes d'.sites d'.calls)
    (hrenamed : d'.sites = d.sites.map (Site.renamed f) ∧
      d'.calls = d.calls.map (Option.map (Tree.renamed f))) :
    FileRenamed config f u d.source d.calls d.sites d'.sites (d.result config)
      (d'.result config) := by
  have hsource : d'.source = d.source := Option.some.inj (hparsed'.2.symm.trans hparsed.2)
  have hmade : ∀ call, some call ∈ d.calls → ∃ identifier line,
      Hook.hookCall? config identifier line = some (call.renamed f) := fun call hcall =>
    h'.calls_made _ (hrenamed.2 ▸ List.mem_map_of_mem hcall)
  exact
    { parsed := hparsed.2
      name := ⟨hparsed.1.symm, hparsed'.1.symm⟩
      siteCount := ⟨rfl, by rw [Done.result, hrenamed.1, List.length_map]⟩
      sites := hrenamed.1
      made := h.calls_serve
      code := rfl
      code' := by
        rw [Done.result, hsource, hrenamed.2, h.withCalls_renamed hparsed.2 hmade] }

section Order

variable {n : Nat} {u : Fin n → SourceUnit} {σ : Equiv.Perm (Fin n)} {counter : Int}
  {o o' : Outcome}

/-- Two runs over the same files in different orders that end well differ by a renaming of
    identifiers. -/
theorem exists_renamed (hσ : ∀ i, FollowsHook config (u ∘ σ) i ↔ FollowsHook config u (σ i))
    (h : EndsWell config counter (List.ofFn u) o)
    (h' : EndsWell config counter (List.ofFn (u ∘ σ)) o') :
    ∃ f, Renamed config u σ f o o' := by
  rcases run_ok h.1 h.2 with ⟨done, seen, hended⟩
  rcases run_ok h'.1 h'.2 with ⟨done', seen', hended'⟩
  rcases hended.exists_family with ⟨d, hunits, hsites, hmem, hparsed, hplanned⟩
  rcases hended'.exists_family with
    ⟨d', hunits', hsites', hmem', hparsed', hplanned'⟩
  -- What was planned for a file in the other order was planned for the same nodes.
  have hname : ∀ i, (d' i).name = (d (σ i)).name := fun i =>
    (hparsed' i).1.symm.trans (hparsed (σ i)).1
  have hsource : ∀ i, (d' i).source = (d (σ i)).source := fun i =>
    Option.some.inj ((hparsed' i).2.symm.trans (hparsed (σ i)).2)
  have hsame : ∀ i, Planned config (d (σ i)).name
      (((List.ofFn u).take (σ i)).any fun e => definesHook config e.name) (d (σ i)).nodes
      (d' i).sites (d' i).calls := by
    intro i
    have hother := hplanned' i
    rwa [any_definesHook_perm hσ, Done.nodes, hname, hsource] at hother
  -- So the sites of the two runs are at the same places, and that is all that an identifier
  -- depends on.
  have hperm : (o'.sites.map (·.place)).Perm (o.sites.map (·.place)) := by
    rw [hsites, hsites', List.map_flatten, List.map_flatten, List.map_ofFn, List.map_ofFn]
    exact perm_flatten_ofFn σ fun i => (hplanned (σ i)).places_eq (hsame i)
  have hcalled : ∀ c, c ∈ coordinates o.sites ↔ c ∈ coordinates o'.sites := by
    intro c
    have hmem := ((hperm.map Place.coordinate).mem_iff (a := c)).symm
    rwa [List.map_map, List.map_map] at hmem
  rcases hended.registry with ⟨r, hafter, hmapping⟩
  rcases hended'.registry with ⟨r', hafter', hmapping'⟩
  rcases hafter.renaming hafter' hcalled with ⟨f, hbij, hdecode, hf⟩
  have hidentifier : ∀ s ∈ o.sites, ∀ s' ∈ o'.sites, s'.place = s.place →
      s'.identifier = f s.identifier := by
    intro s hs s' hs' hplace
    rw [hended.identifier_eq hs, hended'.identifier_eq hs', hf _ (List.mem_map_of_mem hs), hplace]
  refine ⟨f, ⟨⟨r.rows⟩, ⟨r'.rows⟩, hmapping, hmapping', hbij, hdecode⟩,
    by rw [hunits, List.length_ofFn], by rw [hunits', List.length_ofFn],
    fun i => (d i).sites, fun i => (d' i).sites, hsites, hsites', fun i => ?_⟩
  refine ⟨(d (σ i)).source, (d (σ i)).calls, _, _, by rw [hunits]; exact getElem?_ofFn_val _ (σ i),
    by rw [hunits']; exact getElem?_ofFn_val _ i, ?_⟩
  refine fileRenamed_result (hparsed (σ i)) (hparsed' i) (hplanned (σ i)) (hplanned' i) ?_
  exact (hplanned (σ i)).renamed (hsame i) fun s hs s' hs' =>
    hidentifier s (hmem (σ i) s hs) s' (hmem' i s' hs')

/-- Whatever the settings and the files, if the same files follow one that defines the hook
    in another order, a run in that order ends well exactly if the run in the order that is
    given does, and then the two differ by a renaming of identifiers. -/
theorem run_reordered (config : Config) (counter : Int) (hcounter : 0 ≤ counter) {n : Nat}
    (u : Fin n → SourceUnit) (σ : Equiv.Perm (Fin n))
    (hσ : ∀ i, FollowsHook config (u ∘ σ) i ↔ FollowsHook config u (σ i)) :
    ((∃ o, EndsWell config counter (List.ofFn u) o) ↔
        ∃ o', EndsWell config counter (List.ofFn (u ∘ σ)) o') ∧
      ∀ o o', EndsWell config counter (List.ofFn u) o →
        EndsWell config counter (List.ofFn (u ∘ σ)) o' → ∃ f, Renamed config u σ f o o' :=
  ⟨exists_endsWell_perm hcounter hσ, fun _ _ h h' => exists_renamed hσ h h'⟩

end Order

/-- A program with two files of one name that ask for the same place, and another file
    between them. -/
def orderSample : Fin 4 → SourceUnit :=
  ![⟨"instrument_code.py", ""⟩, ⟨"a.py", "def f(): 0\n"⟩, ⟨"b.py", "def g(): 0\n"⟩,
    ⟨"a.py", "def f(): 1\n"⟩]

/-- With the second file and the third exchanged, their identifiers are, too. -/
theorem run_reordered_swapped : (0 : Int) ≤ 0 ∧
    (∀ i, FollowsHook {} (orderSample ∘ Equiv.swap 1 2) i ↔
      FollowsHook {} orderSample (Equiv.swap 1 2 i)) ∧
    ∃ o o', EndsWell {} 0 (List.ofFn orderSample) o ∧
      EndsWell {} 0 (List.ofFn (orderSample ∘ Equiv.swap 1 2)) o' ∧
      o.sites.map (·.identifier) = ["C", "E", "C"] ∧
      o'.sites.map (·.identifier) = ["C", "E", "E"] ∧
      ∃ f, Renamed {} orderSample (Equiv.swap 1 2) f o o' := by
  have hσ : ∀ i, FollowsHook {} (orderSample ∘ Equiv.swap 1 2) i ↔
      FollowsHook {} orderSample (Equiv.swap 1 2 i) := by
    unfold FollowsHook NamesHook
    decide +kernel
  have hends : (run {} 0 (List.ofFn orderSample)).outcome.toOption.map
      (fun o => (o.success, o.sites.map (·.identifier))) = some (true, ["C", "E", "C"]) := by
    decide +kernel
  have hends' : (run {} 0 (List.ofFn (orderSample ∘ Equiv.swap 1 2))).outcome.toOption.map
      (fun o => (o.success, o.sites.map (·.identifier))) = some (true, ["C", "E", "E"]) := by
    decide +kernel
  rcases exists_outcome hends with ⟨o, houtcome, hseen⟩
  rcases exists_outcome hends' with ⟨o', houtcome', hseen'⟩
  rcases Prod.mk.inj hseen with ⟨hsuccess, hidentifiers⟩
  rcases Prod.mk.inj hseen' with ⟨hsuccess', hidentifiers'⟩
  exact ⟨by decide, hσ, o, o', ⟨houtcome, hsuccess⟩, ⟨houtcome', hsuccess'⟩, hidentifiers,
    hidentifiers', (run_reordered {} 0 (by decide) orderSample (Equiv.swap 1 2) hσ).2 o o'
      ⟨houtcome, hsuccess⟩ ⟨houtcome', hsuccess'⟩⟩

end Engine

end EntryCoverage
