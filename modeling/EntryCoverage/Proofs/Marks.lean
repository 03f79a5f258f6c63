import EntryCoverage.Proofs.Insertion
import EntryCoverage.Proofs.Placement

/-!
# Code From Elsewhere

What a mark above a statement keeps calls away from.

A mark says which file a statement comes from, and code that comes from elsewhere gets no
calls. Origins are handed down, so a mark above a statement speaks for all that is in it,
up to a nearer mark (`originAt_ne`). But only the lines that a statement itself begins with
are read. By `lineAbove?_cases`, these have the line right above the statement unless the
file holds it, above its first statement, or a block that ends there. A mark on such a line
is not seen, and the statement below it gets its calls.

## Main definitions

* `Provenance.markOn?`: The file that a line names.
* `Tree.Remarked`: On a way into a tree there is a mark that names a file.
* `MarkedAbove`: The line right above a statement names a file.
* `Spares`: What marks keep calls away from in a file of a run.

## Theorems

* `originAt_ne`: Without nearer marks, what is in a statement comes from where it does.
* `run_spares_marked`: Marks keep calls away in all files of a run.
-/

namespace EntryCoverage

open Source

namespace Provenance

/-- The file that a line without words names. -/
def markOn? (line : Tree) : Option String := (commentOf? line).bind originOf?

/-- If a line above a statement names a file, a file is read. -/
theorem exists_readOrigin?_of_mem {ts : List Tree} {line : Tree} {origin : String}
    (hline : line ∈ linesAbove ts) (hmark : markOn? line = some origin) :
    ∃ first, readOrigin? ts = some first := by
  rw [← Option.isSome_iff_exists, readOrigin?, List.isSome_findSome?, List.any_eq_true]
  refine ⟨line, hline, ?_⟩
  rw [← markOn?, hmark]
  rfl

end Provenance

open Provenance

namespace Source.Tree

/-- Below the root of a tree, on a way into it, there is a mark that names a file. -/
def Remarked (file : String) (t : Tree) (w : Way) : Prop :=
  ∃ n, 0 < n ∧ n ≤ w.length ∧ (t.at? (w.take n)).bind markOf? = some file

/-- Where the nodes in a tree come from is decided in it, but for what is handed down to
    it. -/
theorem exists_originAt_append (file : String) {t s : Tree} {w : Way} (hat : t.at? w = some s) :
    ∃ outer, ∀ v, t.originAt file (w ++ v) = s.originAt outer v := by
  induction w generalizing file t with
  | nil =>
      cases hat
      exact ⟨file, fun v => rfl⟩
  | cons i w ih =>
      rw [at?, Option.bind_eq_some_iff] at hat
      rcases hat with ⟨child, hchild, hat⟩
      rcases ih (t.markOf?.getD file) hat with ⟨outer, houter⟩
      refine ⟨outer, fun v => ?_⟩
      rw [List.cons_append, originAt, hchild]
      exact houter v

/-- What is in a tree that does not come from a file does not come from it either, unless
    a nearer mark says so. -/
theorem originAt_ne {file outer : String} {t : Tree} {w : Way}
    (hhere : t.markOf?.getD outer ≠ file) (hbelow : ¬ t.Remarked file w) :
    t.originAt outer w ≠ file := by
  induction w generalizing t outer with
  | nil => exact hhere
  | cons i w ih =>
      rw [originAt]
      cases hchild : t.children[i]? with
      | none => exact hhere
      | some child =>
          have hat : ∀ v, t.at? (i :: v) = child.at? v := fun v => by
            rw [at?, hchild, Option.bind_some]
          refine ih ?_ ?_
          -- The child has a mark of its own, or comes from where its parent does.
          · cases hmark : child.markOf? with
            | none => exact hhere
            | some origin =>
                rintro rfl
                refine hbelow ⟨1, Nat.one_pos, Nat.succ_le_succ (Nat.zero_le _), ?_⟩
                rw [List.take_succ_cons, List.take_zero, hat, at?, Option.bind_some, hmark]
                rfl
          · rintro ⟨n, hpos, hn, hmark⟩
            exact hbelow ⟨n + 1, Nat.succ_pos n, Nat.succ_le_succ hn, by
              rwa [List.take_succ_cons, hat]⟩

end Source.Tree

/-- The line right above the statement at the end of a way names a file. The line is
    given with the kind of node that holds it. -/
structure MarkedAbove (t : Tree) (w : Way) (kind : Kind) (ts : List Tree) (s : SetAside)
    (origin : String) : Prop where
  node : t.at? w = some (.node kind ts)
  statement : kind.isStatement = true
  above : t.lineAbove? none w = some s
  mark : markOn? s.line = some origin

section MarkedAbove

variable {text : String} {m : Module} {w : Way} {kind : Kind} {ts : List Tree} {s : SetAside}
  {origin : String}

/-- Unless a file or a block holds it, the mark is read, or another one above it. -/
theorem MarkedAbove.exists_readOrigin? (h : MarkedAbove m.tree w kind ts s origin)
    (hparse : Module.parse? text = some m) (hheader : s.place ≠ .header)
    (hfooter : s.place ≠ .footer) : ∃ first, readOrigin? ts = some first := by
  rcases lineAbove?_cases hparse h.node h.statement h.above with
    ⟨lines, rest, rfl, ⟨-, hlast⟩ | ⟨hplace, -⟩⟩
  · exact exists_readOrigin?_of_mem (List.mem_of_getLast? hlast) h.mark
  · exact absurd hplace (not_or.2 ⟨hheader, hfooter⟩)

/-- If a file or a block holds it, nothing is read above the statement. -/
theorem MarkedAbove.readOrigin?_eq_none (h : MarkedAbove m.tree w kind ts s origin)
    (hparse : Module.parse? text = some m) (hplace : s.place = .header ∨ s.place = .footer) :
    readOrigin? ts = none := by
  rcases lineAbove?_cases hparse h.node h.statement h.above with
    ⟨lines, rest, rfl, ⟨hleading, -⟩ | ⟨-, rfl⟩⟩
  · rw [hleading] at hplace
    exact absurd hplace (by decide)
  · rfl

/-- What is in a statement with a mark that is read, and with no nearer mark that names
    the file, does not come from the file. -/
theorem MarkedAbove.originAt_ne (h : MarkedAbove m.tree w kind ts s origin)
    (hparse : Module.parse? text = some m) (hheader : s.place ≠ .header)
    (hfooter : s.place ≠ .footer) {file : String} (hforeign : readOrigin? ts ≠ some file) {v : Way}
    (hbelow : ¬ Tree.Remarked file (.node kind ts) v) : m.tree.originAt file (w ++ v) ≠ file := by
  rcases h.exists_readOrigin? hparse hheader hfooter with ⟨first, hfirst⟩
  rcases Tree.exists_originAt_append file h.node with ⟨outer, houter⟩
  rw [houter]
  refine Tree.originAt_ne ?_ hbelow
  rintro rfl
  refine hforeign ?_
  rw [Tree.markOf?, hfirst, Option.getD_some]

end MarkedAbove

namespace Engine

/-- What marks keep calls away from in a file that a run went through, given its tree, what
    became of it, and its calls. -/
structure Spares (config : Config) (u : SourceUnit) (m : Module) (result : InstrumentedUnit)
    (calls : List (Option Tree)) : Prop where
  /-- The code is that of the tree with calls, one or none for each function. -/
  written : result.code = (withCalls config m calls).render
  covered : calls.length = m.tree.functionWays.length
  /-- A mark right above a statement keeps calls out of it, unless a mark in it names the
      file again, or one further up above it. The mark must not be held by the file or
      by a block. -/
  spared : ∀ w kind ts s origin, MarkedAbove m.tree w kind ts s origin → s.place ≠ .header →
    s.place ≠ .footer → readOrigin? ts ≠ some u.name →
      ∀ v, ¬ Tree.Remarked u.name (.node kind ts) v →
        ∀ call, (w ++ v, call) ∈ m.tree.functionWays.zip calls → call = none
  /-- A mark that is held by the file or by a block is not read for the statement below. -/
  missed : ∀ w kind ts s origin, MarkedAbove m.tree w kind ts s origin →
    s.place = .header ∨ s.place = .footer → readOrigin? ts = none

/-- Every file of a run is spared what its marks are for. -/
def SparesMarked (config : Config) (units : List SourceUnit) (o : Outcome) : Prop :=
  ∀ (i : Nat) u, units[i]? = some u → ∃ m result calls, Module.parse? u.code = some m ∧
    o.units[i]? = some result ∧ Spares config u m result calls

/-- Whatever the settings and the files, in a run that ends well a mark above a statement
    keeps calls out of all that is in the statement, wherever it stands, unless it is held
    by the file, above the first statement, or by a block that ends there. -/
theorem run_spares_marked (config : Config) (counter : Int) (units : List SourceUnit)
    (o : Outcome) (h : (run config counter units).outcome = .ok o) (hsuccess : o.success = true) :
    SparesMarked config units o := by
  rcases run_ok h hsuccess with ⟨done, seen, hended⟩
  rcases hended.handled.planned hended.root with ⟨-, hplanned⟩
  intro i u hu
  rcases forall₂_getElem? hended.parsed i u hu with ⟨d, hd, hname, hparse⟩
  have hd' := hplanned i d hd
  rw [Bool.false_or, hended.any_definesHook] at hd'
  have hchosen := hd'.calls_chosen
  refine ⟨d.source, d.result config, d.calls, hparse, ?_, rfl, hchosen.length_eq.symm, ?_,
    fun w kind ts s origin hmarked => hmarked.readOrigin?_eq_none hparse⟩
  · rw [hended.units, List.getElem?_map, hd, Option.map_some]
  · intro w kind ts s origin hmarked hheader hfooter hforeign v hbelow call hcall
    -- A function with a call would come from the file.
    rw [← Option.not_isSome_iff_eq_none, (List.forall₂_zip hchosen hcall)]
    rintro ⟨-, hin⟩
    rw [hname] at hforeign hbelow
    exact hmarked.originAt_ne hparse hheader hfooter hforeign hbelow hin.origin

/-- A program whose second file has two functions with marks right above them. The first
    one is the first statement of the file. -/
def marked : List SourceUnit :=
  [⟨"instrument_code.py", ""⟩,
   ⟨"a.py", "# prodcov: origin=shim.py\ndef f():\n    pass\n" ++
      "# prodcov: origin=shim.py\ndef g():\n    pass\n"⟩]

/-- What becomes of the code of its second file. -/
def markedCode : String :=
  "# prodcov: origin=shim.py\nimport instrument_code\ndef f():\n" ++
    "    instrument_code.instrument_code_instance.instrument_code(\"C\", 3)\n    pass\n" ++
      "# prodcov: origin=shim.py\ndef g():\n    pass\n"

/-- The second mark keeps a call away, but the first one is not read. -/
theorem run_spares_marked_second : ∃ o, (run {} 0 marked).outcome = .ok o ∧ o.success = true ∧
    SparesMarked {} marked o ∧ o.units.map (·.code) = ["", markedCode] := by
  have hends : (run {} 0 marked).outcome.toOption.map
      (fun o => (o.success, o.units.map (·.code))) = some (true, ["", markedCode]) := by
    decide +kernel
  rcases exists_outcome hends with ⟨o, houtcome, hseen⟩
  rcases Prod.mk.inj hseen with ⟨hsuccess, hcode⟩
  exact ⟨o, houtcome, hsuccess, run_spares_marked {} 0 marked o houtcome hsuccess, hcode⟩

end Engine

end EntryCoverage
