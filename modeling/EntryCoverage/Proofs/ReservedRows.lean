import EntryCoverage.Proofs.MappingText

/-!
# Reserved Rows

Where the lists of names of a mapping come from.

A mapping is checked by its keys: they are distinct, and those of the three reserved rows are
among them. Its lists are looked up by what a row is. A reserved row has the key of its list,
so there are not two of them, but a key alone does not make a reserved row. An identifier may
be any text, that of a reserved key included, and then its row stands where the list should
be. Such a mapping passes the check and has no list, and where a list is missing no name is
ever found.

A line whose key begins with a blank is read as a reserved row or not at all, and the
identifiers of a registry are written quantities. So neither way leads to such a mapping.

## Main definitions

* `Row.listed?`: The names that a row lists, if it is that of a list.
* `lists`: The lists that the rows of a mapping have by a name.

## Theorems

* `names_eq`: The names of a mapping are those of its first list.
* `length_filterMap_listed?_le`: There is one list at most.
* `filterMap_listed?_eq_nil_iff`: There is none exactly if an identifier has taken its key.
* `lists_eq_iff`, `lists_of_coordinate`: The lists of a mapping, and those that are missing.
* `ofRows_lists`: Where the lists of names come from.
-/

namespace EntryCoverage

/-- The names that a row lists, if it is the row of a list. -/
def Row.listed? (n : Namespace) : Row → Option (List String)
  | .reserved n' values => if n' = n then some values else none
  | .coordinate _ _ => none

namespace Mapping

/-- The lists that the rows of a mapping have by a name. -/
def lists (m : Mapping) (n : Namespace) : List (List String) := m.rows.filterMap (Row.listed? n)

theorem key_inj {n n' : Namespace} : n.key = n'.key ↔ n = n' := by
  cases n <;> cases n' <;> decide

/-- A row that lists names has the key of the list. -/
theorem key_of_listed? {n : Namespace} {row : Row} {names : List String}
    (h : row.listed? n = some names) : row.key = n.key := by
  cases row with
  | reserved n' values =>
      rw [Row.listed?, Option.ite_none_right_eq_some] at h
      rw [Row.key, h.1]
  | coordinate identifier key => simp only [Row.listed?, reduceCtorEq] at h

variable {rows : List Row} (m : Mapping) (n : Namespace)

/-- The names of a mapping are those of its first list. -/
theorem names_eq : m.names n = (m.lists n).head?.getD [] := by
  rw [lists, List.head?_filterMap]
  rfl

/-- Without the key there is no list. -/
theorem filterMap_listed?_eq_nil (h : n.key ∉ rows.map Row.key) :
    rows.filterMap (Row.listed? n) = [] := by
  rw [List.filterMap_eq_nil_iff]
  intro row hrow
  cases hlisted : row.listed? n with
  | none => rfl
  | some names => exact absurd (List.mem_map.2 ⟨row, hrow, key_of_listed? hlisted⟩) h

/-- If keys are distinct, there is one list at most. -/
theorem length_filterMap_listed?_le (h : (rows.map Row.key).Nodup) :
    (rows.filterMap (Row.listed? n)).length ≤ 1 := by
  induction rows with
  | nil => exact Nat.zero_le _
  | cons row rows ih =>
      rw [List.map_cons, List.nodup_cons] at h
      cases hlisted : row.listed? n with
      | none =>
          rw [List.filterMap_cons_none hlisted]
          exact ih h.2
      | some names =>
          -- The key is taken, so no other row has it.
          rw [key_of_listed? hlisted] at h
          rw [List.filterMap_cons_some hlisted, filterMap_listed?_eq_nil n h.1]
          exact Nat.le_refl _

/-- A list is missing exactly if its key is that of an identifier, given that it is a key. -/
theorem filterMap_listed?_eq_nil_iff (h : (rows.map Row.key).Nodup)
    (hkey : n.key ∈ rows.map Row.key) :
    rows.filterMap (Row.listed? n) = [] ↔ ∃ key, .coordinate n.key key ∈ rows := by
  rw [List.filterMap_eq_nil_iff]
  constructor
  · intro hnone
    rcases List.mem_map.1 hkey with ⟨row, hrow, hn⟩
    cases row with
    | reserved n' values =>
        have hlisted := hnone _ hrow
        rw [Row.listed?, if_pos (key_inj.1 hn)] at hlisted
        simp only [reduceCtorEq] at hlisted
    | coordinate identifier key =>
        rw [Row.key] at hn
        exact ⟨key, hn ▸ hrow⟩
  · rintro ⟨key, hcoordinate⟩ row hrow
    cases hlisted : row.listed? n with
    | none => rfl
    | some names =>
        have hsame := List.inj_on_of_nodup_map h hrow hcoordinate (key_of_listed? hlisted)
        rw [hsame] at hlisted
        simp only [Row.listed?, reduceCtorEq] at hlisted

/-- A list is there exactly if its key is not that of an identifier, and then the names are
    those of its row. -/
theorem lists_eq_iff {m : Mapping} (h : ofRows rows = .ok m) :
    m.lists n = [m.names n] ↔ ∀ key, .coordinate n.key key ∉ m.rows := by
  rcases (ofRows_eq_ok_iff rows m).1 h with ⟨hnodup, hkeys, rfl⟩
  have hnil := filterMap_listed?_eq_nil_iff n hnodup (hkeys n)
  have hle := length_filterMap_listed?_le n hnodup
  rw [← not_exists, ← hnil, names_eq, lists]
  cases hlists : rows.filterMap (Row.listed? n) with
  | nil => exact iff_of_false (List.cons_ne_nil _ _).symm fun hc => hc rfl
  | cons names more =>
      rw [hlists, List.length_cons] at hle
      have hmore : more = [] := List.length_eq_zero_iff.1 (by omega)
      rw [hmore]
      exact iff_of_true rfl (List.cons_ne_nil _ _)

/-- A list whose key is that of an identifier is not there, and has no names. -/
theorem lists_of_coordinate {m : Mapping} {key : String} (h : ofRows rows = .ok m)
    (hrow : .coordinate n.key key ∈ m.rows) : m.lists n = [] ∧ m.names n = [] := by
  rcases (ofRows_eq_ok_iff rows m).1 h with ⟨hnodup, hkeys, rfl⟩
  have hnil := (filterMap_listed?_eq_nil_iff n hnodup (hkeys n)).2 ⟨key, hrow⟩
  refine ⟨hnil, ?_⟩
  rw [names_eq, lists, hnil]
  rfl

/-- An identifier that begins with no blank has not the key of a list. -/
theorem coordinate_notMem_of_plain (h : ∀ row ∈ rows, row.Plain) (key : String) :
    .coordinate n.key key ∉ rows := by
  intro hrow
  have hplain := h _ hrow
  rw [Row.Plain, toList_key] at hplain
  exact hplain rfl

/-- No row of a mapping that was read passes for that of a list. -/
theorem plain_of_carries {lines : List (List Char)} (h : List.Forall₂ Carries lines rows) :
    ∀ row ∈ rows, row.Plain := by
  intro row hrow
  rcases exists_carries_of_mem h hrow with ⟨line, -, hcarries⟩
  exact hcarries.plain

/-- What the check of rows comes to. Keys are distinct. A list of names is that of the one
    row that lists it, unless an identifier has the key of the list; in that case no row
    lists it and it is empty. In mappings that were read, and in those of registries, all
    three lists are those of their rows. -/
theorem ofRows_lists (rows : List Row) (m : Mapping) (h : ofRows rows = .ok m) :
    m.rows = rows ∧ (rows.map Row.key).Nodup ∧
    (∀ n, m.lists n = [m.names n] ↔ ∀ key, .coordinate n.key key ∉ rows) ∧
    (∀ n key, .coordinate n.key key ∈ rows → m.lists n = [] ∧ m.names n = []) ∧
    (∀ text, ofText text = .ok m → ∀ n, m.lists n = [m.names n]) ∧
    ∀ (start : Int) (calls : List Coordinate) (final : Registry),
      (Registry.encodeAll { counter := start } calls).1.materialize = (final, .ok m) →
        ∀ n, m.lists n = [m.names n] := by
  rcases (ofRows_eq_ok_iff rows m).1 h with ⟨hnodup, -, rfl⟩
  have hplain : (∀ row ∈ rows, row.Plain) → ∀ n, (⟨rows⟩ : Mapping).lists n = [names ⟨rows⟩ n] :=
    fun hrows n => (lists_eq_iff n h).2 fun key => coordinate_notMem_of_plain n hrows key
  refine ⟨rfl, hnodup, fun n => lists_eq_iff n h, fun n key => lists_of_coordinate n h, ?_, ?_⟩
  · intro text hread
    exact hplain (plain_of_carries ((ofText_eq_ok_iff text _).1 hread).1)
  · intro start calls final hfinal
    have hempty : Registry.Written { counter := start } := fun e he => absurd he List.not_mem_nil
    have hrows := ((ofRows_eq_ok_iff _ _).1 (Registry.materialize_ok hfinal)).2.2
    rw [Mapping.mk.injEq] at hrows
    exact hplain (hrows ▸ (hempty.encodeAll calls).plain)

/-- A mapping that passes the check without the list of files, because an identifier has
    taken its key, and a mapping that was read. -/
theorem ofRows_lists_taken :
    let taken : List Row :=
      [.coordinate " FileNames" "AAA", .reserved .functions ["f"], .reserved .kinds ["T"]]
    let whole : List Row :=
      [.reserved .files ["a"], .reserved .functions ["f"], .reserved .kinds ["T"]]
    ofRows taken = .ok ⟨taken⟩ ∧
      lists ⟨taken⟩ .files = [] ∧ names ⟨taken⟩ .files = [] ∧ lists ⟨taken⟩ .kinds = [["T"]] ∧
      ofText " FileNames:[\"a\"]\n FunctionNames:[\"f\"]\n Types:[\"T\"]" = .ok ⟨whole⟩ ∧
      lists ⟨whole⟩ .files = [["a"]] := by
  intro taken whole
  have hvalid : ∀ rows, (rows = taken ∨ rows = whole) → ofRows rows = .ok ⟨rows⟩ := by
    rintro rows (rfl | rfl)
    all_goals
      refine (ofRows_eq_ok_iff _ _).2 ⟨by decide, fun n => ?_, rfl⟩
      cases n <;> decide
  have hread : ofText " FileNames:[\"a\"]\n FunctionNames:[\"f\"]\n Types:[\"T\"]" =
      .ok ⟨[.reserved .files ["a"], .reserved .functions ["f"], .reserved .kinds ["T"]]⟩ := by
    cbv
  rcases ofRows_lists taken ⟨taken⟩ (hvalid _ (.inl rfl)) with ⟨-, -, hlists, htaken, -, -⟩
  have hfiles := htaken .files "AAA" List.mem_cons_self
  have hkinds : ∀ key, .coordinate (Namespace.key .kinds) key ∉ taken := by
    intro key hrow
    simp only [taken, List.mem_cons, List.not_mem_nil, Row.coordinate.injEq, reduceCtorEq,
      or_false] at hrow
    exact absurd hrow.1 (by decide)
  have hwhole := (ofRows_lists whole ⟨whole⟩ (hvalid _ (.inr rfl))).2.2.2.2.1 _ hread .files
  exact ⟨hvalid _ (.inl rfl), hfiles.1, hfiles.2, (hlists .kinds).2 hkinds, hread, hwhole⟩

end Mapping

end EntryCoverage
