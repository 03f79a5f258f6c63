import EntryCoverage.Proofs.Json
import EntryCoverage.Proofs.MappingGrammar
import EntryCoverage.Proofs.Registry
import Mathlib.Data.List.Sort
import Mathlib.Data.String.Basic

/-!
# Mappings as Text

Which mappings survive being written and read again.

Three layers lie between the rows of a mapping and its text, and each is undone by a
layer of reading. Names become a list in JSON, both parts of a row are written with
backslashes, and the rows are sorted and put on lines. `parts_line` takes the line of a
row apart again, down to its key and its value, so what remains is whether a line with
that key and that value carries the row they came from (`carries_line_iff`). It does
unless an identifier begins with the blank that marks reserved rows, in which case the
line carries such a row or none at all.

Sorting keeps the keys, so the sorted rows are a mapping if the rows are one, and it
does nothing to rows that are sorted, so a mapping that was read is written as the text
it was read from. A registry's identifiers are written quantities, whose letters all
come after the blank; its mapping is therefore read back, and its reserved rows stand
first.

## Main definitions

* `Row.Plain`: A row whose key does not pass for that of a reserved row.
* `Registry.Written`: A registry whose identifiers are written quantities.

## Theorems

* `Text.splitLines_flatMap`: Lines that were put together are split again.
* `sortedRows_eq_insertionSort`: Rows are sorted by insertion.
* `carries_line_iff`: The rows that their lines carry.
* `ofText_toText_iff`: The mappings that are read back.
* `toText_sortedRows`: A mapping that was read back is written as it was.
* `Registry.sortedRows_rows`: Where the rows of a registry's mapping end up.
* `text_round_trip`: Writing and reading a mapping.
-/

namespace EntryCoverage

namespace Text

/-! ### Order and lines -/

theorem precedes_iff_lt (a b : String) : precedes a b ↔ a < b := precedes_iff_lex

/-- A piece without the mark ends at the mark that follows it. -/
theorem splitOn_append (mark : Char) (piece rest : List Char) (h : mark ∉ piece) :
    splitOn mark (piece ++ mark :: rest) = piece :: splitOn mark rest := by
  induction piece with
  | nil => rw [List.nil_append, splitOn, if_pos (beq_self_eq_true _)]
  | cons c cs ih =>
      rw [List.mem_cons, not_or] at h
      have hne : (c == mark) = false := beq_eq_false_iff_ne.2 (Ne.symm h.1)
      rw [List.cons_append, splitOn, hne, ih h.2]
      rfl

/-- Lines that were put together, each with its end, are split again. Nothing follows
    the last end, and that nothing counts as a line. -/
theorem splitLines_flatMap (lines : List (List Char)) (h : ∀ line ∈ lines, '\n' ∉ line) :
    splitLines (lines.flatMap fun line => line ++ ['\n']) = lines ++ [[]] := by
  induction lines with
  | nil => rfl
  | cons line lines ih =>
      have hmore := ih fun l hl => h l (List.mem_cons_of_mem _ hl)
      rw [List.flatMap_cons, List.append_assoc, List.singleton_append, splitLines,
        splitOn_append _ _ _ (h line List.mem_cons_self)]
      exact congrArg (line :: ·) hmore

end Text

/-- A row whose key does not pass for that of a reserved row. -/
def Row.Plain : Row → Prop
  | .reserved _ _ => True
  | .coordinate identifier _ => identifier.toList.head? ≠ some ' '

namespace Mapping

/-! ### Sorted rows -/

theorem insertRow_eq_orderedInsert (row : Row) (rows : List Row) :
    insertRow row rows = rows.orderedInsert (fun r s => r.key ≤ s.key) row := by
  induction rows with
  | nil => rfl
  | cons r rows ih =>
      rw [insertRow, List.orderedInsert]
      by_cases hlt : r.key < row.key
      · rw [if_pos ((Text.precedes_iff_lt _ _).2 hlt), if_neg (not_le.2 hlt), ih]
      · rw [if_neg (fun hc => hlt ((Text.precedes_iff_lt _ _).1 hc)), if_pos (not_lt.1 hlt)]

/-- Rows are sorted by insertion. -/
theorem sortedRows_eq_insertionSort (m : Mapping) :
    m.sortedRows = m.rows.insertionSort fun r s => r.key ≤ s.key := by
  rw [sortedRows, List.insertionSort]
  congr 1
  funext row rows
  exact insertRow_eq_orderedInsert row rows

theorem perm_sortedRows (m : Mapping) : m.sortedRows.Perm m.rows := by
  rw [sortedRows_eq_insertionSort]
  exact List.perm_insertionSort _ _

/-- Sorting does nothing to rows that are sorted. -/
theorem sortedRows_sortedRows (m : Mapping) :
    (⟨m.sortedRows⟩ : Mapping).sortedRows = m.sortedRows := by
  have : Std.Total fun r s : Row => r.key ≤ s.key := ⟨fun r s => le_total r.key s.key⟩
  have : IsTrans Row fun r s => r.key ≤ s.key := ⟨fun _ _ _ h h' => le_trans h h'⟩
  rw [sortedRows_eq_insertionSort, sortedRows_eq_insertionSort]
  exact (List.pairwise_insertionSort _ _).insertionSort_eq

/-- The sorted rows of a mapping are a mapping. -/
theorem ofRows_sortedRows {rows : List Row} {m : Mapping} (h : ofRows rows = .ok m) :
    ofRows m.sortedRows = .ok ⟨m.sortedRows⟩ := by
  rcases (ofRows_eq_ok_iff rows m).1 h with ⟨hnodup, hkeys, rfl⟩
  have hperm := (perm_sortedRows ⟨rows⟩).map Row.key
  refine (ofRows_eq_ok_iff _ _).2 ⟨hperm.nodup_iff.2 hnodup, fun n => ?_, rfl⟩
  exact hperm.mem_iff.2 (hkeys n)

/-! ### Rows and lines -/

theorem newline_notMem_line (row : Row) : '\n' ∉ row.line := by
  rw [Row.line, List.mem_append, List.mem_cons, not_or, not_or]
  exact ⟨newline_notMem_escape _, by decide, newline_notMem_escape _⟩

/-- A text of rows is split into their lines. -/
theorem splitLines_toText (m : Mapping) :
    Text.splitLines m.toText.toList = m.sortedRows.map Row.line ++ [[]] := by
  have hlines : (m.sortedRows.flatMap fun row => row.line ++ ['\n']) =
      (m.sortedRows.map Row.line).flatMap fun line => line ++ ['\n'] := by
    rw [List.flatMap_map]
  rw [toText, String.toList_ofList, hlines]
  refine Text.splitLines_flatMap _ (fun line hline => ?_)
  rcases List.mem_map.1 hline with ⟨row, -, rfl⟩
  exact newline_notMem_line row

/-- No line of a row is empty, so these are the lines of the text. -/
theorem writtenLines_toText (m : Mapping) : writtenLines m.toText = m.sortedRows.map Row.line := by
  have hsplit := splitLines_toText m
  rw [Text.splitLines, Text.splitOn_eq] at hsplit
  have hlines : ∀ line ∈ m.sortedRows.map Row.line, decide (line ≠ []) = true := by
    intro line hline
    rcases List.mem_map.1 hline with ⟨row, -, rfl⟩
    rw [decide_eq_true_eq, Row.line]
    exact List.append_ne_nil_of_right_ne_nil _ (List.cons_ne_nil _ _)
  rw [writtenLines, hsplit, List.filter_append, List.filter_eq_self.2 hlines]
  exact List.append_nil _

/-- The line of a row comes apart into the key and the value of the row. -/
theorem parts_line (row : Row) : Parts row.line row.key.toList row.value.toList :=
  (splitLine_eq_ok_iff _ _ _).1 (splitLine_escape _ _)

theorem Carries.plain {line : List Char} {row : Row} (h : Carries line row) : row.Plain := by
  cases h with
  | reserved _ _ => trivial
  | coordinate _ hkey => rwa [Row.Plain, String.toList_ofList]

/-- The rows that their lines carry: those whose keys do not pass for that of a reserved
    row. -/
theorem carries_line_iff (row : Row) : Carries row.line row ↔ row.Plain := by
  refine ⟨Carries.plain, fun hplain => ?_⟩
  have hparts := parts_line row
  cases row with
  | reserved n values => exact .reserved hparts (Json.textList_render values)
  | coordinate identifier key =>
      have hcarries := Carries.coordinate hparts hplain
      rwa [Row.key, Row.value, String.ofList_toList, String.ofList_toList] at hcarries

/-- The mappings that are read back: those without an identifier that passes for the
    key of a reserved row. -/
theorem ofText_toText_iff {rows : List Row} {m : Mapping} (h : ofRows rows = .ok m) :
    ofText m.toText = .ok ⟨m.sortedRows⟩ ↔ ∀ row ∈ m.rows, row.Plain := by
  rcases (ofRows_eq_ok_iff _ _).1 (ofRows_sortedRows h) with ⟨hnodup, hkeys, -⟩
  rw [ofText_eq_ok_iff, and_iff_left ⟨hnodup, hkeys⟩, writtenLines_toText,
    List.forall₂_map_left_iff, List.forall₂_same]
  exact forall_congr' fun row => by rw [(perm_sortedRows m).mem_iff, carries_line_iff]

/-- A mapping with the rows of another one in their order is written as that one is. -/
theorem toText_sortedRows (m : Mapping) : (⟨m.sortedRows⟩ : Mapping).toText = m.toText := by
  rw [toText, sortedRows_sortedRows, toText]

end Mapping

/-! ### The mapping of a registry -/

namespace Registry

/-- A registry whose identifiers are written quantities. -/
def Written (r : Registry) : Prop := ∀ e ∈ r.identifiers, ∃ v : Int, e.2 = Vlq.text v

theorem Written.allocate {r : Registry} (h : r.Written) (key : String) :
    (r.allocate key).1.Written := by
  unfold Registry.allocate
  dsimp only
  split
  · exact h
  · cases hnext : Vlq.encode (r.counter + 1) with
    | error reason => exact h
    | ok identifier =>
        intro e he
        rcases List.mem_append.1 he with he | he
        · exact h e he
        · rw [List.mem_singleton.1 he]
          exact ⟨_, ((Vlq.encode_eq_ok_iff _ _).1 hnext).2⟩

/-- A call writes quantities only, whether it succeeds or not. -/
theorem Written.encode {r : Registry} (h : r.Written) (c : Coordinate) :
    (r.encode c).1.Written := by
  unfold Registry.encode
  split
  · exact h
  · dsimp only
    split
    · exact h
    · split
      · exact h
      · refine Written.allocate ?_ _
        exact h

theorem Written.encodeAll {r : Registry} (h : r.Written) (calls : List Coordinate) :
    (r.encodeAll calls).1.Written := by
  induction calls generalizing r with
  | nil => exact h
  | cons c cs ih => exact ih (h.encode c)

/-- A quantity has a letter at least, and letters come after the blank. -/
theorem exists_text_eq_cons (v : Int) :
    ∃ c cs, (Vlq.text v).toList = c :: cs ∧ ' ' < c := by
  have hletters : ∀ c ∈ Vlq.alphabet, ' ' < c := Json.le_toNat_of_all 33 rfl
  rw [Vlq.text, String.toList_ofList]
  cases hcs : Vlq.letters v with
  | nil => exact absurd hcs (Vlq.letters_ne_nil v)
  | cons c cs =>
      have hc : c ∈ Vlq.letters v := hcs ▸ List.mem_cons_self
      exact ⟨c, cs, rfl, hletters c (Vlq.mem_alphabet_of_mem_letters v c hc)⟩

/-- The keys of reserved rows come before every quantity. -/
theorem key_lt_text (n : Namespace) (v : Int) : n.key < Vlq.text v := by
  have hkey : n.key.toList = ' ' :: n.rowName.toList := by
    cases n <;> rfl
  rcases exists_text_eq_cons v with ⟨c, cs, hcs, hc⟩
  rw [String.lt_iff_toList_lt, hkey, hcs]
  exact List.Lex.rel hc

theorem Written.plain {r : Registry} (h : r.Written) : ∀ row ∈ r.rows, row.Plain := by
  intro row hrow
  rcases List.mem_append.1 hrow with hrow | hrow
  · rcases List.mem_map.1 hrow with ⟨n, -, rfl⟩
    trivial
  · rcases List.mem_map.1 hrow with ⟨e, he, rfl⟩
    rcases h e he with ⟨v, hv⟩
    rcases exists_text_eq_cons v with ⟨c, cs, hcs, hc⟩
    rw [Row.Plain, hv, hcs]
    exact fun hspace => absurd (Option.some.inj hspace) (ne_of_gt hc)

/-- Where the rows of a registry's mapping end up: the reserved rows come first and keep
    their order. -/
theorem sortedRows_rows {r : Registry} (h : r.Written) :
    (⟨r.rows⟩ : Mapping).sortedRows =
      (Namespace.all.map fun n => .reserved n (r.table n).names) ++
        (⟨r.identifiers.map fun (key, identifier) => .coordinate identifier key⟩ :
          Mapping).sortedRows := by
  have hkeys : ∀ (n : Namespace) (row : Row),
      (row ∈ r.identifiers.map fun (key, identifier) => Row.coordinate identifier key) →
        n.key ≤ row.key := by
    intro n row hrow
    rcases List.mem_map.1 hrow with ⟨e, he, rfl⟩
    rcases h e he with ⟨v, hv⟩
    have hlt := key_lt_text n v
    rw [← hv] at hlt
    exact le_of_lt hlt
  have hreserved : ∀ n n' : Namespace, Text.precedes n.key n'.key → n.key ≤ n'.key :=
    fun n n' hlt => le_of_lt ((Text.precedes_iff_lt _ _).1 hlt)
  rw [Mapping.sortedRows_eq_insertionSort, Mapping.sortedRows_eq_insertionSort, rows]
  simp only [Namespace.all, List.map_cons, List.map_nil, List.cons_append, List.nil_append]
  -- Each reserved row comes before the later ones and before every identifier.
  rw [List.insertionSort_cons_of_forall_rel, List.insertionSort_cons_of_forall_rel,
    List.insertionSort_cons_of_forall_rel]
  · exact hkeys .kinds
  · exact List.forall_mem_cons.2 ⟨hreserved .functions .kinds (by decide), hkeys .functions⟩
  · exact List.forall_mem_cons.2 ⟨hreserved .files .functions (by decide),
      List.forall_mem_cons.2 ⟨hreserved .files .kinds (by decide), hkeys .files⟩⟩

/-- A registry becomes the mapping of its rows or none. -/
theorem materialize_ok {r final : Registry} {m : Mapping}
    (h : r.materialize = (final, .ok m)) : Mapping.ofRows r.rows = .ok m := by
  unfold materialize at h
  split at h
  · simp only [Prod.mk.injEq, reduceCtorEq, and_false] at h
  · cases hrows : Mapping.ofRows r.rows with
    | error reason =>
        simp only [hrows, Except.mapError, Prod.mk.injEq, reduceCtorEq, and_false] at h
    | ok found =>
        simp only [hrows, Except.mapError, Prod.mk.injEq, Except.ok.injEq] at h
        rw [h.2]

end Registry

namespace Mapping

/-- Writing and reading a mapping. It is read back, in the order of its keys, exactly if
    no identifier begins with a blank, and what was read back is written as the same
    text. The mapping of a registry is always read back, whatever calls were made and
    whichever of them failed, and its text begins with the three reserved rows. -/
theorem text_round_trip (rows : List Row) (m : Mapping) (h : ofRows rows = .ok m) :
    ((∃ loaded, ofText m.toText = .ok loaded ∧ loaded.rows = m.sortedRows) ↔
      ∀ identifier key, Row.coordinate identifier key ∈ m.rows →
        identifier.toList.head? ≠ some ' ') ∧
    (∀ loaded, ofText m.toText = .ok loaded → loaded.rows = m.sortedRows →
      loaded.toText = m.toText) ∧
    (∀ (start : Int) (calls : List Coordinate) (final : Registry),
      (Registry.encodeAll { counter := start } calls).1.materialize = (final, .ok m) →
        (∀ identifier key, Row.coordinate identifier key ∈ m.rows →
          identifier.toList.head? ≠ some ' ') ∧
        (Text.splitLines m.toText.toList).take 3 =
          [.files, .functions, .kinds].map fun n => (Row.reserved n (m.names n)).line) := by
  have hplain : (∀ row ∈ m.rows, row.Plain) ↔ ∀ identifier key,
      Row.coordinate identifier key ∈ m.rows → identifier.toList.head? ≠ some ' ' := by
    constructor
    · intro hall identifier key hrow
      exact hall _ hrow
    · intro hall row hrow
      cases row with
      | reserved n values => trivial
      | coordinate identifier key => exact hall identifier key hrow
  refine ⟨?_, ?_, ?_⟩
  · rw [← hplain, ← ofText_toText_iff h]
    constructor
    · rintro ⟨loaded, hread, hrows⟩
      exact hrows ▸ hread
    · intro hread
      exact ⟨_, hread, rfl⟩
  · intro loaded _ hrows
    have hloaded : loaded = ⟨m.sortedRows⟩ := congrArg Mapping.mk hrows
    rw [hloaded]
    exact toText_sortedRows m
  · -- The identifiers of a registry are quantities, and no quantity begins with a blank.
    intro start calls final hfinal
    have hempty : Registry.Written { counter := start } := fun e he => absurd he List.not_mem_nil
    have hwritten := hempty.encodeAll calls
    have hm := ((ofRows_eq_ok_iff _ _).1 (Registry.materialize_ok hfinal)).2.2
    subst hm
    refine ⟨hplain.1 hwritten.plain, ?_⟩
    rw [splitLines_toText, Registry.sortedRows_rows hwritten]
    simp only [Registry.names_rows]
    rfl

/-- Names and keys with all the characters that are written in another form: a mapping,
    and read back. -/
theorem text_round_trip_special :
    let rows : List Row :=
      [.coordinate "a:\\\n" "\r\"", .reserved .kinds ["\x00", "\\n"],
        .reserved .files ["a\\b:c.py", "\"\n"], .coordinate "" " ", .reserved .functions []]
    ofRows rows = .ok ⟨rows⟩ ∧
      ∃ loaded, ofText (⟨rows⟩ : Mapping).toText = .ok loaded ∧
        loaded.rows = (⟨rows⟩ : Mapping).sortedRows ∧
        loaded.toText = (⟨rows⟩ : Mapping).toText := by
  intro rows
  have hrows : ofRows rows = .ok ⟨rows⟩ := by
    refine (ofRows_eq_ok_iff _ _).2 ⟨by decide, fun n => ?_, rfl⟩
    cases n <;> decide
  have hblank : ∀ identifier key, Row.coordinate identifier key ∈ rows →
      identifier.toList.head? ≠ some ' ' := by
    intro identifier key hrow
    simp only [rows, List.mem_cons, List.not_mem_nil, Row.coordinate.injEq, reduceCtorEq,
      or_false, false_or] at hrow
    rcases hrow with ⟨rfl, -⟩ | ⟨rfl, -⟩ <;> decide
  rcases text_round_trip rows ⟨rows⟩ hrows with ⟨hiff, hsame, -⟩
  rcases hiff.2 hblank with ⟨loaded, hread, hloaded⟩
  exact ⟨hrows, loaded, hread, hloaded, hsame loaded hread hloaded⟩

end Mapping

end EntryCoverage
