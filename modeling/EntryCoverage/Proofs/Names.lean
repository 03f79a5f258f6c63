import EntryCoverage.Registry
import Mathlib.Data.List.Basic
import Mathlib.Data.List.Induction

/-!
# Names in First-Seen Order

What a table of names is after any row of look-ups: the distinct names of the row,
each where it first stood, with its place in that order as its position.

The distinct items of a list are its `eraseDups`, which keeps first occurrences.
A list that goes on keeps the order it had, so what matters about `eraseDups` here
is how it takes one more item (`eraseDups_concat`) and that no item that it already
has is moved by later ones (`idxOf_eraseDups_append`). The second fact is why a
position that was once handed out stays right while the tables grow.

## Main definitions

* `NameTable.ofNames`: The table of names in their order.

## Theorems

* `nodup_eraseDups`: The distinct items are distinct.
* `eraseDups_concat`: One more item is added unless it is there.
* `idxOf_eraseDups_append`: Later items do not move earlier ones.
* `length_eraseDups_map_le`: Images are not more than the items.
* `idxOf_eraseDups_map_le`: Images are not seen later than the items.
* `position_ofNames`: A look-up gives the place of a name and keeps the order.
-/

namespace EntryCoverage

section FirstSeen

variable {α β : Type} [DecidableEq α] [DecidableEq β]

theorem nodup_eraseDups (xs : List α) : xs.eraseDups.Nodup := by
  induction h : xs.length using Nat.strongRecOn generalizing xs with
  | _ n ih =>
    cases xs with
    | nil => exact List.nodup_nil
    | cons x xs =>
        -- What comes after an item is distinct from it, and shorter than the list.
        rw [List.eraseDups_cons, List.nodup_cons, List.mem_eraseDups, List.mem_filter]
        refine ⟨fun hx => ?_, ih _ ?_ _ rfl⟩
        · simp only [beq_self_eq_true, Bool.not_true, Bool.false_eq_true, and_false] at hx
        · have hle := List.length_filter_le (fun b => !b == x) xs
          rw [List.length_cons] at h
          omega

/-- One more item comes last, unless it is there already. -/
theorem eraseDups_concat (xs : List α) (x : α) :
    (xs ++ [x]).eraseDups = if x ∈ xs then xs.eraseDups else xs.eraseDups ++ [x] := by
  rw [List.eraseDups_append]
  by_cases hx : x ∈ xs
  · have hrest : [x].removeAll xs = [] := by
      simp only [List.removeAll, List.filter_eq_nil_iff, List.mem_singleton, forall_eq,
        List.elem_eq_contains, List.contains_iff_mem, Bool.not_eq_true', Bool.not_eq_false]
      exact hx
    rw [if_pos hx, hrest, List.eraseDups_nil, List.append_nil]
  · have hrest : [x].removeAll xs = [x] := by
      simp only [List.removeAll, List.filter_eq_self, List.mem_singleton, forall_eq,
        List.elem_eq_contains, Bool.not_eq_true', List.contains_eq_mem, decide_eq_false_iff_not]
      exact hx
    rw [if_neg hx, hrest]
    rfl

/-- Later items do not move an item that is there. -/
theorem idxOf_eraseDups_append (xs ys : List α) (x : α) (h : x ∈ xs) :
    (xs ++ ys).eraseDups.idxOf x = xs.eraseDups.idxOf x := by
  rw [List.eraseDups_append, List.idxOf_append_of_mem (List.mem_eraseDups.2 h)]

theorem length_eraseDups_le_append (xs ys : List α) :
    xs.eraseDups.length ≤ (xs ++ ys).eraseDups.length := by
  rw [List.eraseDups_append, List.length_append]
  omega

/-- Items that differ in what is read off them differ, so what is read off a list
    has no more distinct items than the list. -/
theorem length_eraseDups_map_le (f : α → β) (xs : List α) :
    (xs.map f).eraseDups.length ≤ xs.eraseDups.length := by
  -- Images of the distinct items are all the images there are.
  have hsub : (xs.map f).eraseDups ⊆ xs.eraseDups.map f := by
    intro y hy
    rcases List.mem_map.1 (List.mem_eraseDups.1 hy) with ⟨x, hx, rfl⟩
    exact List.mem_map_of_mem (List.mem_eraseDups.2 hx)
  have hle := (nodup_eraseDups (xs.map f)).length_le_of_subset hsub
  rw [List.length_map] at hle
  exact hle

/-- An item of a list has a place among the list's distinct items. -/
theorem idxOf_eraseDups_lt (xs : List α) (x : α) (h : x ∈ xs) :
    xs.eraseDups.idxOf x < xs.eraseDups.length :=
  List.idxOf_lt_length_of_mem (List.mem_eraseDups.2 h)

theorem getElem?_idxOf_eraseDups (xs : List α) (x : α) (h : x ∈ xs) :
    xs.eraseDups[xs.eraseDups.idxOf x]? = some x := by
  rw [List.getElem?_eq_getElem (idxOf_eraseDups_lt xs x h), List.getElem_idxOf]

/-- What is read off an item is seen with it at the latest, so it comes no later among
    what is distinct. -/
theorem idxOf_eraseDups_map_le (f : α → β) (xs : List α) (x : α) (h : x ∈ xs) :
    (xs.map f).eraseDups.idxOf (f x) ≤ xs.eraseDups.idxOf x := by
  -- The induction is from the end: an item that comes later moves neither place.
  induction xs using List.reverseRecOn with
  | nil => exact absurd h List.not_mem_nil
  | append_singleton ys y ih =>
      rw [List.map_append, List.map_singleton]
      by_cases hx : x ∈ ys
      · rw [idxOf_eraseDups_append _ _ _ hx,
          idxOf_eraseDups_append _ _ _ (List.mem_map_of_mem hx)]
        exact ih hx
      · have hy : x = y := by simpa [hx] using h
        subst hy
        have hd : x ∉ ys.eraseDups := fun hmem => hx (List.mem_eraseDups.1 hmem)
        have hlast : (ys ++ [x]).eraseDups.idxOf x = ys.eraseDups.length := by
          rw [eraseDups_concat, if_neg hx, List.idxOf_append_of_notMem hd, List.idxOf_cons_self,
            Nat.add_zero]
        -- Among the images there is at most one more than there were.
        have hmem : f x ∈ ys.map f ++ [f x] := List.mem_append_right _ (List.mem_singleton_self _)
        have hlt := idxOf_eraseDups_lt _ _ hmem
        have hlen : (ys.map f ++ [f x]).eraseDups.length ≤ (ys.map f).eraseDups.length + 1 := by
          rw [eraseDups_concat]
          split <;> simp
        have hle := length_eraseDups_map_le f ys
        omega

end FirstSeen

namespace NameTable

/-- The table of names in their order, each with its place as its position. -/
def ofNames (names : List String) : NameTable :=
  names.zipIdx.map fun (name, i) => (name, (i : Int))

theorem names_ofNames (ns : List String) : (ofNames ns).names = ns := by
  rw [names, ofNames, List.map_map]
  exact List.zipIdx_map_fst 0 ns

theorem length_ofNames (ns : List String) : (ofNames ns).length = ns.length := by
  rw [ofNames, List.length_map, List.length_zipIdx]

/-- Searching a table finds a name at its first place. The induction is on the
    names, with the place of the first one as a parameter. -/
theorem find?_zipIdx (ns : List String) (k : Nat) (name : String) :
    (((ns.zipIdx k).map fun (name, i) => (name, (i : Int))).find? (·.1 == name)) =
      if name ∈ ns then some (name, ((k + ns.idxOf name : Nat) : Int)) else none := by
  induction ns generalizing k with
  | nil => rfl
  | cons n ns ih =>
      rw [List.zipIdx_cons, List.map_cons, List.find?_cons]
      by_cases hn : n = name
      · subst hn
        simp only [beq_self_eq_true, List.mem_cons, true_or, if_true, List.idxOf_cons_self,
          Nat.add_zero]
      · have hne : (n == name) = false := beq_eq_false_iff_ne.2 hn
        simp only [hne, ih, List.mem_cons, Ne.symm hn, false_or, List.idxOf_cons, cond_false]
        rw [Nat.add_assoc, Nat.add_comm 1]

/-- A look-up in a table of distinct names gives a name's place in first-seen order,
    and the table of that order with the name in it. -/
theorem position_ofNames (ns : List String) (name : String) :
    (ofNames ns.eraseDups).position name =
      (((ns ++ [name]).eraseDups.idxOf name : Int), ofNames (ns ++ [name]).eraseDups) := by
  unfold position
  rw [show (ofNames ns.eraseDups).find? (·.1 == name) = _ from
    find?_zipIdx ns.eraseDups 0 name, eraseDups_concat]
  by_cases h : name ∈ ns
  · rw [if_pos (List.mem_eraseDups.2 h), if_pos h, Nat.zero_add]
  · -- A new name comes last, and the table's length is its place.
    have hd : name ∉ ns.eraseDups := fun hc => h (List.mem_eraseDups.1 hc)
    rw [if_neg hd, if_neg h, List.idxOf_append_of_notMem hd]
    simp only [length_ofNames, List.idxOf_cons_self, Nat.add_zero]
    rw [ofNames, ofNames, List.zipIdx_append, List.map_append]
    simp only [Nat.zero_add, List.zipIdx_singleton, List.map_cons, List.map_nil]

end NameTable

end EntryCoverage
