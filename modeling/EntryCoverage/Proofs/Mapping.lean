import EntryCoverage.Mapping.Basic
import Mathlib.Data.List.Basic

/-!
# Valid Mappings

When rows are a mapping, and what reading an identifier off one comes down to.

Rows are searched for a key that occurs again with the keys so far in hand, so the
fact about that search is about any keys so far: nothing is found exactly when the
keys of the rows are distinct and none of them is among those. With no keys so far
that is the condition that a mapping has (`ofRows_eq_ok_iff`).

Once the positions of an identifier are known, its place depends on the lists of names
only. `NameAt` says which name a position has, and below zero positions count from the
end of the list.

## Main definitions

* `NameAt`: A name at a position of a list.
* `placeAt?`: The place with the names at three positions.

## Theorems

* `duplicateKey?_eq_none_iff`: No key occurs again exactly when all are distinct.
* `ofRows_eq_ok_iff`: The rows that are a mapping.
* `decodeIndices_of_entry`: An identifier with a row of three quantities.
* `decode_of_unknown`: An identifier without a row.
* `itemAt?_eq_some_iff`: What is found at a position.
* `placeAt?_eq_some_iff`: The place with the names at three positions.
* `decode_of_positions`: An identifier whose positions are known.
* `decode_of_indices`: An identifier whose positions are those of three names.
-/

namespace EntryCoverage

namespace Mapping

theorem duplicateKey?_eq_none_iff (rows : List Row) (seen : List String) :
    duplicateKey? seen rows = none ↔
      (rows.map Row.key).Nodup ∧ ∀ row ∈ rows, row.key ∉ seen := by
  induction rows generalizing seen with
  | nil => simp only [duplicateKey?, List.map_nil, List.nodup_nil, List.not_mem_nil,
      IsEmpty.forall_iff, implies_true, and_self]
  | cons row rows ih =>
      rw [duplicateKey?]
      by_cases hseen : row.key ∈ seen
      · -- the key was seen before
        rw [if_pos (List.contains_iff_mem.2 hseen)]
        constructor
        · intro hc
          simp only [reduceCtorEq] at hc
        · rintro ⟨-, hfresh⟩
          exact absurd hseen (hfresh row List.mem_cons_self)
      · -- a fresh key, which the rows after it must not have either
        rw [if_neg (fun hc => hseen (List.contains_iff_mem.1 hc)), ih, List.map_cons,
          List.nodup_cons]
        constructor
        · rintro ⟨hnodup, hfresh⟩
          refine ⟨⟨fun hmem => ?_, hnodup⟩, ?_⟩
          · rcases List.mem_map.1 hmem with ⟨r, hr, hkey⟩
            exact hfresh r hr (hkey ▸ List.mem_cons_self)
          · intro r hr
            rcases List.mem_cons.1 hr with rfl | hr
            · exact hseen
            · exact fun hc => hfresh r hr (List.mem_cons_of_mem _ hc)
        · rintro ⟨⟨hhead, hnodup⟩, hfresh⟩
          refine ⟨hnodup, fun r hr hc => ?_⟩
          rcases List.mem_cons.1 hc with hkey | hc
          · exact hhead (hkey ▸ List.mem_map_of_mem hr)
          · exact hfresh r (List.mem_cons_of_mem _ hr) hc

/-- Rows are a mapping exactly when their keys are distinct and those of the three
    reserved rows are among them. -/
theorem ofRows_eq_ok_iff (rows : List Row) (m : Mapping) :
    ofRows rows = .ok m ↔
      (rows.map Row.key).Nodup ∧ (∀ n : Namespace, n.key ∈ rows.map Row.key) ∧ m = ⟨rows⟩ := by
  have hall : ∀ n : Namespace, n ∈ Namespace.all := fun n => by cases n <;> decide
  have hdup := duplicateKey?_eq_none_iff rows []
  unfold ofRows
  cases hd : duplicateKey? [] rows with
  | some key =>
      simp only [reduceCtorEq, false_iff]
      rintro ⟨hnodup, -⟩
      rw [hdup.2 ⟨hnodup, fun _ _ => List.not_mem_nil⟩] at hd
      simp only [reduceCtorEq] at hd
  | none =>
      have hnodup := (hdup.1 hd).1
      cases hmiss : Namespace.all.find? fun n => rows.all (·.key != n.key) with
      | some n =>
          -- a reserved row that is missing
          simp only [reduceCtorEq, false_iff]
          rintro ⟨-, hkeys, -⟩
          rcases List.mem_map.1 (hkeys n) with ⟨r, hr, hkey⟩
          have hne := List.find?_some hmiss
          rw [List.all_eq_true] at hne
          exact absurd hkey (bne_iff_ne.1 (hne r hr))
      | none =>
          have hkeys : ∀ n : Namespace, n.key ∈ rows.map Row.key := by
            intro n
            have hn := List.find?_eq_none.1 hmiss n (hall n)
            rw [List.all_eq_true] at hn
            by_contra hc
            refine hn (fun r hr => bne_iff_ne.2 fun hkey => hc ?_)
            exact hkey ▸ List.mem_map_of_mem hr
          constructor
          · intro hm
            exact ⟨hnodup, hkeys, (Except.ok.inj hm).symm⟩
          · rintro ⟨-, -, rfl⟩
            rfl

variable (m : Mapping) (identifier : String)

/-- An identifier that no row has stands for nothing. -/
theorem decode_of_unknown (h : identifier ∉ m.entries.map (·.1)) :
    m.decode identifier = .error (.unknownIdentifier identifier) := by
  have hfind : m.entries.find? (·.1 == identifier) = none := by
    rw [List.find?_eq_none]
    intro e he hc
    exact h (eq_of_beq hc ▸ List.mem_map_of_mem he)
  rw [decode, decodeIndices, hfind]
  rfl

/-- An identifier with a row of three quantities stands for those. -/
theorem decodeIndices_of_entry (key : String) (i j k : Int)
    (hfind : m.entries.find? (·.1 == identifier) = some (identifier, key))
    (hkey : Vlq.decodeAll key = .ok [i, j, k]) :
    m.decodeIndices identifier = .ok (i, j, k) := by
  rw [decodeIndices, hfind]
  simp only [hkey]

/-- A name at a position of a list. Below zero, positions count from the end: the last name
    has the position before zero. -/
def NameAt (names : List String) : Int → String → Prop
  | .ofNat n, name => names[n]? = some name
  | .negSucc n, name => names.reverse[n]? = some name

/-- What is found at a position is the name there. -/
theorem itemAt?_eq_some_iff (names : List String) (index : Int) (name : String) :
    itemAt? names index = some name ↔ NameAt names index name := by
  cases index with
  | ofNat n =>
      have hn : (0 : Int) ≤ Int.ofNat n := Int.natCast_nonneg n
      rw [itemAt?, if_pos hn]
      exact Iff.rfl
  | negSucc n =>
      rw [itemAt?, if_neg (Int.not_le.2 (Int.negSucc_lt_zero n)), Int.natAbs_negSucc, NameAt]
      by_cases hn : n.succ ≤ names.length
      · rw [if_pos hn, List.getElem?_reverse hn, Nat.sub_sub, Nat.add_comm 1 n]
      · -- There is nothing so far from the end.
        rw [if_neg hn, List.getElem?_eq_none (by rw [List.length_reverse]; omega)]

/-- The place with the names at three positions, if each of them is that of a name. -/
def placeAt? (i j k : Int) : Option Coordinate := do
  let file ← itemAt? (m.names .files) i
  let function ← itemAt? (m.names .functions) j
  let kind ← itemAt? (m.names .kinds) k
  some { file, function, kind }

theorem placeAt?_eq_some_iff (i j k : Int) (c : Coordinate) :
    m.placeAt? i j k = some c ↔ NameAt (m.names .files) i c.file ∧
      NameAt (m.names .functions) j c.function ∧ NameAt (m.names .kinds) k c.kind := by
  simp only [placeAt?, Option.bind_eq_bind, Option.bind_eq_some_iff, itemAt?_eq_some_iff,
    Option.some.injEq]
  constructor
  · rintro ⟨file, hfile, function, hfunction, kind, hkind, rfl⟩
    exact ⟨hfile, hfunction, hkind⟩
  · rintro ⟨hfile, hfunction, hkind⟩
    exact ⟨c.file, hfile, c.function, hfunction, c.kind, hkind, rfl⟩

/-- An identifier whose positions are known stands for the place with the names there, or is
    refused because there is none. -/
theorem decode_of_positions (i j k : Int) (h : m.decodeIndices identifier = .ok (i, j, k)) :
    m.decode identifier = match m.placeAt? i j k with
      | some c => .ok c
      | none => .error (.missingName identifier) := by
  rw [decode, h]
  rfl

/-- An identifier whose positions are those of three names stands for the place
    with those names. -/
theorem decode_of_indices (i j k : Nat) (c : Coordinate)
    (hindices : m.decodeIndices identifier = .ok ((i : Int), (j : Int), (k : Int)))
    (hfile : (m.names .files)[i]? = some c.file)
    (hfunction : (m.names .functions)[j]? = some c.function)
    (hkind : (m.names .kinds)[k]? = some c.kind) : m.decode identifier = .ok c := by
  rw [decode_of_positions m identifier i j k hindices,
    (placeAt?_eq_some_iff m i j k c).2 ⟨hfile, hfunction, hkind⟩]

end Mapping

end EntryCoverage
