import EntryCoverage.Proofs.Mapping
import EntryCoverage.Proofs.Names
import EntryCoverage.Proofs.Vlq
import Mathlib.Data.List.Nodup

/-!
# What a Registry Remembers

A registry's tables as a function of the calls that it answered.

Three tables of names, a table of composite keys and a counter are changed by every
call, and an identifier is right only if all of them agree. `Records` says what they
hold in terms of two lists: the places that were asked for, which fix the names and
their positions, and the places that were granted an identifier, which fix the rest.
The two differ once calls fail. `After` is the case that no call failed, in which the
places granted are the distinct places asked for, and the counter is at their number.

A composite key is written with the positions at the time of its call, and the tables
grow afterwards. `keyAfter_append` says that this does not matter, because a name
keeps its position. With it `encode_eq` gives everything that one call can do, and the
facts about rows of calls and about the mapping at the end follow from it.

## Main definitions

* `keyAfter`: The composite key of a place, given the places asked for.
* `Records`: What a registry holds.
* `After`: What a registry holds if it answered all calls.
* `encodeAll`: The answers to calls in a row.
* `Consistent`: Identifiers and a mapping that fit a row of calls.

## Theorems

* `keyAfter_append`: Later calls do not change a composite key.
* `keyAfter_inj`: Different places have different composite keys.
* `encode_eq`: What a call does.
* `encode_ok`: What a call that succeeds does.
* `encode_succeeds`: A call succeeds while numbers are left.
* `encodeAll_spec`: A row of calls is answered in full while numbers are left.
* `materialize_eq`: A registry always becomes a mapping.
* `decode_granted`: The mapping gives every granted place back.
* `encodeAll_consistent`: A fresh registry answers any row of calls rightly.
-/

namespace EntryCoverage

namespace Registry

/-! ### Composite keys -/

/-- The composite key of a place, given the places asked for. -/
def keyAfter (called : List Coordinate) (c : Coordinate) : String :=
  Vlq.text ((called.map (·.file)).eraseDups.idxOf c.file) ++
    Vlq.text ((called.map (·.function)).eraseDups.idxOf c.function) ++
    Vlq.text ((called.map (·.kind)).eraseDups.idxOf c.kind)

/-- Later calls do not change the composite key of a place that was asked for. -/
theorem keyAfter_append (called more : List Coordinate) (c : Coordinate) (h : c ∈ called) :
    keyAfter (called ++ more) c = keyAfter called c := by
  unfold keyAfter
  rw [List.map_append, List.map_append, List.map_append,
    idxOf_eraseDups_append _ _ _ (List.mem_map_of_mem h),
    idxOf_eraseDups_append _ _ _ (List.mem_map_of_mem h),
    idxOf_eraseDups_append _ _ _ (List.mem_map_of_mem h)]

/-- Different places have different composite keys: the keys differ in one of the
    positions, and positions tell names apart. -/
theorem keyAfter_inj (called : List Coordinate) (c d : Coordinate) (h : c ∈ called)
    (hkey : keyAfter called c = keyAfter called d) : c = d := by
  -- In a list of names, equal positions are those of one name.
  have hname : ∀ f : Coordinate → String,
      (((called.map f).eraseDups.idxOf (f c) : Nat) : Int) = (called.map f).eraseDups.idxOf (f d) →
        f c = f d := by
    intro f hf
    have hmem : f c ∈ (called.map f).eraseDups := List.mem_eraseDups.2 (List.mem_map_of_mem h)
    exact (List.idxOf_inj hmem).1 (Int.ofNat_inj.1 hf)
  rcases Vlq.text3_inj _ _ _ _ _ _ hkey with ⟨hfile, hfunction, hkind⟩
  have h1 := hname (·.file) hfile
  have h2 := hname (·.function) hfunction
  have h3 := hname (·.kind) hkind
  cases c
  cases d
  rw [Coordinate.mk.injEq]
  exact ⟨h1, h2, h3⟩

theorem compositeKey_eq_ok (a b c : Int) (key : String) (h : compositeKey a b c = .ok key) :
    key = Vlq.text a ++ Vlq.text b ++ Vlq.text c := by
  unfold compositeKey at h
  cases ha : Vlq.encode a with
  | error e => simp only [ha, bind, Except.bind, reduceCtorEq] at h
  | ok sa =>
      cases hb : Vlq.encode b with
      | error e => simp only [ha, hb, bind, Except.bind, reduceCtorEq] at h
      | ok sb =>
          cases hc : Vlq.encode c with
          | error e => simp only [ha, hb, hc, bind, Except.bind, reduceCtorEq] at h
          | ok sc =>
              simp only [ha, hb, hc, bind, Except.bind, Except.ok.injEq] at h
              rw [← h, ((Vlq.encode_eq_ok_iff a sa).1 ha).2, ((Vlq.encode_eq_ok_iff b sb).1 hb).2,
                ((Vlq.encode_eq_ok_iff c sc).1 hc).2]

theorem compositeKey_of_le (a b c : Nat) (ha : (a : Int) ≤ Vlq.maxValue)
    (hb : (b : Int) ≤ Vlq.maxValue) (hc : (c : Int) ≤ Vlq.maxValue) :
    compositeKey a b c = .ok (Vlq.text a ++ Vlq.text b ++ Vlq.text c) := by
  have hmin : ∀ n : Nat, Vlq.minValue ≤ (n : Int) := by
    intro n
    rw [Vlq.minValue]
    omega
  unfold compositeKey
  rw [Vlq.encode_eq_ok a ⟨hmin a, ha⟩, Vlq.encode_eq_ok b ⟨hmin b, hb⟩,
    Vlq.encode_eq_ok c ⟨hmin c, hc⟩]
  rfl

/-! ### What the tables hold -/

/-- What a registry holds, given the number it began with, the places asked for, and
    the places that were granted an identifier, in their order. -/
structure Records (start : Int) (called granted : List Coordinate) (r : Registry) : Prop where
  files : r.files = .ofNames (called.map (·.file)).eraseDups
  functions : r.functions = .ofNames (called.map (·.function)).eraseDups
  kinds : r.kinds = .ofNames (called.map (·.kind)).eraseDups
  identifiers : r.identifiers =
    granted.mapIdx fun j c => (keyAfter called c, Vlq.text (start + (j : Int) + 1))
  called_of_granted : ∀ c ∈ granted, c ∈ called
  nodup : granted.Nodup

/-- A registry with the names of places in its tables. -/
def withNames (r : Registry) (called : List Coordinate) : Registry :=
  { r with
    files := .ofNames (called.map (·.file)).eraseDups
    functions := .ofNames (called.map (·.function)).eraseDups
    kinds := .ofNames (called.map (·.kind)).eraseDups }

variable {start : Int} {called granted : List Coordinate} {r : Registry}

theorem Records.withNames (h : Records start called granted r) (more : List Coordinate) :
    Records start (called ++ more) granted (r.withNames (called ++ more)) where
  files := rfl
  functions := rfl
  kinds := rfl
  identifiers := by
    refine h.identifiers.trans ?_
    refine List.mapIdx_eq_mapIdx_iff.2 (fun j hj => ?_)
    -- Granted places were asked for, so their keys stay as they are.
    rw [keyAfter_append called more _ (h.called_of_granted _ (List.getElem_mem hj))]
  called_of_granted := fun c hc => List.mem_append_left _ (h.called_of_granted c hc)
  nodup := h.nodup

/-- In a list of pairs with distinct first parts, searching finds the one there is. -/
theorem find?_of_nodup {β : Type} (l : List (String × β)) (hnodup : (l.map (·.1)).Nodup)
    (e : String × β) (he : e ∈ l) : l.find? (·.1 == e.1) = some e := by
  induction l with
  | nil => exact absurd he List.not_mem_nil
  | cons x l ih =>
      rw [List.map_cons, List.nodup_cons] at hnodup
      rcases List.mem_cons.1 he with rfl | he
      · exact List.find?_cons_of_pos (beq_self_eq_true _)
      · have hne : (x.1 == e.1) = false := by
          refine beq_eq_false_iff_ne.2 (fun hc => hnodup.1 ?_)
          exact hc ▸ List.mem_map_of_mem he
        rw [List.find?_cons, hne]
        exact ih hnodup.2 he

/-- A composite key is found if its place was granted an identifier, and only then. -/
theorem Records.find?_key (h : Records start called granted r) (c : Coordinate) :
    r.identifiers.find? (·.1 == keyAfter called c) =
      if c ∈ granted then
        some (keyAfter called c, Vlq.text (start + (granted.idxOf c : Int) + 1))
      else none := by
  have hkeys : r.identifiers.map (·.1) = granted.map (keyAfter called) := by
    rw [h.identifiers]
    refine List.ext_getElem? (fun j => ?_)
    simp only [List.getElem?_map, List.getElem?_mapIdx, Option.map_map]
    rfl
  by_cases hg : c ∈ granted
  · -- Keys are distinct, so the one that is found is that of the place.
    rw [if_pos hg]
    have hnodup : (r.identifiers.map (·.1)).Nodup := by
      rw [hkeys]
      refine h.nodup.map_on (fun d hd e _ hde => ?_)
      exact keyAfter_inj called d e (h.called_of_granted d hd) hde
    refine find?_of_nodup _ hnodup (keyAfter called c, _) ?_
    rw [h.identifiers, List.mem_mapIdx]
    refine ⟨granted.idxOf c, List.idxOf_lt_length_of_mem hg, ?_⟩
    rw [List.getElem_idxOf]
  · -- A key that is found is that of a granted place, which has no other place's key.
    rw [if_neg hg, List.find?_eq_none]
    intro e he hkey
    have hmem : e.1 ∈ granted.map (keyAfter called) := hkeys ▸ List.mem_map_of_mem he
    rcases List.mem_map.1 hmem with ⟨d, hd, hde⟩
    rw [eq_of_beq hkey] at hde
    exact hg (keyAfter_inj called d c (h.called_of_granted d hd) hde ▸ hd)

/-! ### One call -/

/-- What a call does. The names are in the tables afterwards, whatever else happens;
    a position that is too large ends the call, a place that was granted an identifier
    has it, and any other place is given a new one. -/
theorem encode_eq (h : Records start called granted r) (hopen : r.materialized = false)
    (c : Coordinate) :
    r.encode c =
      match compositeKey
        (((called ++ [c]).map (·.file)).eraseDups.idxOf c.file)
        (((called ++ [c]).map (·.function)).eraseDups.idxOf c.function)
        (((called ++ [c]).map (·.kind)).eraseDups.idxOf c.kind) with
      | .error reason => (r.withNames (called ++ [c]), .error (.invariant reason))
      | .ok _ =>
          if c ∈ granted then
            (r.withNames (called ++ [c]),
              .ok (Vlq.text (start + (granted.idxOf c : Int) + 1)))
          else (r.withNames (called ++ [c])).allocate (keyAfter (called ++ [c]) c) := by
  have hmap : ∀ f : Coordinate → String, (called ++ [c]).map f = called.map f ++ [f c] := by
    intro f
    rw [List.map_append]
    rfl
  -- The search is in the identifiers, which the names do not change.
  have hfind : r.identifiers.find? (·.1 == keyAfter (called ++ [c]) c) =
      if c ∈ granted then
        some (keyAfter (called ++ [c]) c, Vlq.text (start + (granted.idxOf c : Int) + 1))
      else none := (h.withNames [c]).find?_key c
  unfold encode
  rw [if_neg (by rw [hopen]; exact Bool.false_ne_true), h.files, h.functions, h.kinds,
    NameTable.position_ofNames, NameTable.position_ofNames, NameTable.position_ofNames,
    ← hmap (·.file), ← hmap (·.function), ← hmap (·.kind)]
  dsimp only
  cases hkey : compositeKey
      (((called ++ [c]).map (·.file)).eraseDups.idxOf c.file)
      (((called ++ [c]).map (·.function)).eraseDups.idxOf c.function)
      (((called ++ [c]).map (·.kind)).eraseDups.idxOf c.kind) with
  | error reason => rfl
  | ok key =>
      -- A key that could be made is that of the place, which the search knows about.
      have hkeyEq : key = keyAfter (called ++ [c]) c := compositeKey_eq_ok _ _ _ _ hkey
      subst hkeyEq
      simp only [hfind]
      by_cases hg : c ∈ granted
      · rw [if_pos hg]
        exact (if_pos hg).symm
      · rw [if_neg hg]
        exact (if_neg hg).symm

theorem allocate_ok (r r' : Registry) (key identifier : String)
    (h : r.allocate key = (r', .ok identifier)) :
    r' = { r with
      counter := r.counter + 1
      identifiers := r.identifiers ++ [(key, identifier)] } ∧
      Vlq.encode (r.counter + 1) = .ok identifier := by
  unfold allocate at h
  dsimp only at h
  split at h
  · simp only [Prod.mk.injEq, reduceCtorEq, and_false] at h
  · cases hnext : Vlq.encode (r.counter + 1) with
    | error reason => simp only [hnext, Prod.mk.injEq, reduceCtorEq, and_false] at h
    | ok found =>
        simp only [hnext, Prod.mk.injEq, Except.ok.injEq] at h
        rcases h with ⟨hr, rfl⟩
        exact ⟨hr.symm, rfl⟩

theorem allocate_of_inRange (r : Registry) (key : String)
    (h : Vlq.minValue ≤ r.counter + 1 ∧ r.counter + 1 ≤ Vlq.maxValue) :
    ∃ r', r.allocate key = (r', .ok (Vlq.text (r.counter + 1))) := by
  unfold allocate
  dsimp only
  rw [if_neg (by omega), Vlq.encode_eq_ok _ h]
  exact ⟨_, rfl⟩

/-! ### Calls that succeed -/

/-- What a registry holds that answered all calls: the distinct places asked for were
    granted identifiers, by the numbers that follow the one it began with. -/
structure After (start : Int) (called : List Coordinate) (r : Registry) : Prop
    extends Records start called called.eraseDups r where
  counter : r.counter = start + called.eraseDups.length
  isOpen : r.materialized = false
  inRange : ∀ j < called.eraseDups.length,
    Vlq.minValue ≤ start + (j : Int) + 1 ∧ start + (j : Int) + 1 ≤ Vlq.maxValue

theorem after_nil (start : Int) : After start [] { counter := start } where
  files := rfl
  functions := rfl
  kinds := rfl
  identifiers := rfl
  called_of_granted := fun _ hc => hc
  nodup := List.nodup_nil
  counter := (Int.add_zero start).symm
  isOpen := rfl
  inRange := fun _ hj => absurd hj (Nat.not_lt_zero _)

/-- A call that succeeds gives a place the number of its rank among the distinct
    places, and leaves tables that hold it. -/
theorem encode_ok (h : After start called r) (c : Coordinate) (r' : Registry)
    (identifier : String) (hcall : r.encode c = (r', .ok identifier)) :
    After start (called ++ [c]) r' ∧
      Vlq.encode (start + ((called ++ [c]).eraseDups.idxOf c : Int) + 1) = .ok identifier := by
  rw [encode_eq h.toRecords h.isOpen] at hcall
  split at hcall
  · simp only [Prod.mk.injEq, reduceCtorEq, and_false] at hcall
  · by_cases hc : c ∈ called
    · -- The place has its identifier, and only the names may be new.
      have hsame : (called ++ [c]).eraseDups = called.eraseDups := by
        rw [eraseDups_concat, if_pos hc]
      rw [if_pos (List.mem_eraseDups.2 hc)] at hcall
      simp only [Prod.mk.injEq, Except.ok.injEq] at hcall
      rcases hcall with ⟨rfl, rfl⟩
      have hrange := h.inRange _ (idxOf_eraseDups_lt called c hc)
      rw [hsame]
      refine ⟨⟨?_, ?_, h.isOpen, ?_⟩, Vlq.encode_eq_ok _ hrange⟩
      · rw [hsame]
        exact h.toRecords.withNames [c]
      · rw [hsame]
        exact h.counter
      · rw [hsame]
        exact h.inRange
    · -- The place is new, and so is its number.
      have hd : c ∉ called.eraseDups := fun hmem => hc (List.mem_eraseDups.1 hmem)
      have hmore : (called ++ [c]).eraseDups = called.eraseDups ++ [c] := by
        rw [eraseDups_concat, if_neg hc]
      have hidx : (called ++ [c]).eraseDups.idxOf c = called.eraseDups.length := by
        rw [hmore, List.idxOf_append_of_notMem hd, List.idxOf_cons_self, Nat.add_zero]
      rw [if_neg hd] at hcall
      rcases allocate_ok _ _ _ _ hcall with ⟨rfl, hnext⟩
      have hcounter : (r.withNames (called ++ [c])).counter + 1 =
          start + (called.eraseDups.length : Int) + 1 := congrArg (· + 1) h.counter
      rw [hcounter] at hnext
      have hnew := (Vlq.encode_eq_ok_iff _ _).1 hnext
      have hrec := h.toRecords.withNames [c]
      rw [hidx]
      refine ⟨⟨⟨rfl, rfl, rfl, ?_, ?_, nodup_eraseDups _⟩, ?_, h.isOpen, ?_⟩, hnext⟩
      · rw [hmore, List.mapIdx_concat, ← hrec.identifiers, ← hnew.2]
      · exact fun d hmem => List.mem_eraseDups.1 hmem
      · rw [hmore, List.length_append, List.length_singleton]
        exact hcounter.trans (Int.add_assoc _ _ _)
      · intro j hj
        rw [hmore, List.length_append, List.length_singleton] at hj
        by_cases hlast : j = called.eraseDups.length
        · rw [hlast]
          exact hnew.1
        · exact h.inRange j (by omega)

/-- A call succeeds while numbers are left. There are not more names than places, so
    no position is too large before the numbers are used up. -/
theorem encode_succeeds (h : After start called r) (hstart : 0 ≤ start) (c : Coordinate)
    (hleft : start + ((called ++ [c]).eraseDups.length : Int) ≤ Vlq.maxValue) :
    ∃ r' identifier, r.encode c = (r', .ok identifier) := by
  -- A position is below the number of names, of which there are no more than places.
  have hposition : ∀ f : Coordinate → String,
      (((called ++ [c]).map f).eraseDups.idxOf (f c) : Int) ≤ Vlq.maxValue := by
    intro f
    have hmem : f c ∈ (called ++ [c]).map f :=
      List.mem_map_of_mem (List.mem_append_right _ List.mem_cons_self)
    have hlt := idxOf_eraseDups_lt _ _ hmem
    have hle := length_eraseDups_map_le f (called ++ [c])
    omega
  rw [encode_eq h.toRecords h.isOpen, compositeKey_of_le _ _ _ (hposition (·.file))
    (hposition (·.function)) (hposition (·.kind))]
  by_cases hc : c ∈ called
  · exact ⟨_, _, if_pos (List.mem_eraseDups.2 hc)⟩
  · -- The place is new, and a number is left for it.
    have hlen : (called ++ [c]).eraseDups.length = called.eraseDups.length + 1 := by
      rw [eraseDups_concat, if_neg hc, List.length_append, List.length_singleton]
    have hcounter : (r.withNames (called ++ [c])).counter =
        start + (called.eraseDups.length : Int) := h.counter
    rcases allocate_of_inRange (r.withNames (called ++ [c])) (keyAfter (called ++ [c]) c)
      (by rw [hcounter, Vlq.minValue]; omega) with ⟨r', hr'⟩
    exact ⟨r', _, (if_neg (fun hmem => hc (List.mem_eraseDups.1 hmem))).trans hr'⟩

/-! ### Rows of calls -/

/-- The answers to calls in a row, and the registry after them. -/
def encodeAll (r : Registry) : List Coordinate → Registry × List (Except RegistryError String)
  | [] => (r, [])
  | c :: cs =>
      let (r, answer) := r.encode c
      let (r, answers) := encodeAll r cs
      (r, answer :: answers)

/-- A row of calls is answered in full while numbers are left, each place with the
    number of its rank. The induction is on the calls that are left, and the calls
    before them are what the tables hold. -/
theorem encodeAll_spec (h : After start called r) (hstart : 0 ≤ start)
    (calls : List Coordinate)
    (hleft : start + ((called ++ calls).eraseDups.length : Int) ≤ Vlq.maxValue) :
    After start (called ++ calls) (r.encodeAll calls).1 ∧
      (r.encodeAll calls).2 = calls.map fun c =>
        .ok (Vlq.text (start + ((called ++ calls).eraseDups.idxOf c : Int) + 1)) := by
  induction calls generalizing called r with
  | nil =>
      rw [List.append_nil]
      exact ⟨h, rfl⟩
  | cons c cs ih =>
      have hassoc : called ++ c :: cs = (called ++ [c]) ++ cs := List.append_cons called c cs
      -- If numbers are left for the whole row, one is left for its first call.
      have hprefix : (called ++ [c]).eraseDups.length ≤ (called ++ c :: cs).eraseDups.length := by
        rw [hassoc]
        exact length_eraseDups_le_append _ _
      rcases encode_succeeds h hstart c (by omega) with ⟨r', identifier, hcall⟩
      rcases encode_ok h c r' identifier hcall with ⟨hafter, hid⟩
      rcases ih hafter (by rw [← hassoc]; exact hleft) with ⟨hend, hanswers⟩
      -- The calls that follow do not move the place of the first one.
      have hc : c ∈ called ++ [c] := List.mem_append_right _ List.mem_cons_self
      rw [encodeAll, hcall, hassoc]
      refine ⟨hend, ?_⟩
      rw [List.map_cons, idxOf_eraseDups_append _ _ _ hc, ← ((Vlq.encode_eq_ok_iff _ _).1 hid).2]
      exact congrArg _ hanswers

/-! ### The mapping at the end -/

theorem entries_rows (r : Registry) :
    (⟨r.rows⟩ : Mapping).entries = r.identifiers.map fun e => (e.2, e.1) := by
  rw [Mapping.entries, rows, List.filterMap_append, List.filterMap_map]
  refine (List.nil_append _).trans ?_
  rw [List.filterMap_map, ← List.filterMap_eq_map]
  rfl

theorem names_rows (r : Registry) (n : Namespace) :
    (⟨r.rows⟩ : Mapping).names n = (r.table n).names := by
  cases n <;> rfl

theorem Records.identifiers_snd (h : Records start called granted r) :
    r.identifiers.map (·.2) = granted.mapIdx fun j _ => Vlq.text (start + (j : Int) + 1) := by
  rw [h.identifiers]
  refine List.ext_getElem? (fun j => ?_)
  simp only [List.getElem?_map, List.getElem?_mapIdx, Option.map_map]
  rfl

/-- Different numbers are written differently, so no identifier is issued twice. -/
theorem Records.nodup_identifiers (h : Records start called granted r) :
    (r.identifiers.map (·.2)).Nodup := by
  rw [h.identifiers_snd, List.Nodup, List.pairwise_iff_getElem]
  intro i j hi hj hij hc
  rw [List.getElem_mapIdx, List.getElem_mapIdx] at hc
  have hnumber := Vlq.text_inj _ _ hc
  omega

/-- No identifier is the key of a reserved row, which begins with a blank. -/
theorem key_ne_text (n : Namespace) (v : Int) : n.key ≠ Vlq.text v := by
  intro hc
  have hspace : ' ' ∈ n.key.toList := by
    cases n <;> decide
  rw [hc, Vlq.text, String.toList_ofList] at hspace
  exact Vlq.ne_space_of_mem_letters v ' ' hspace rfl

/-- A registry becomes a mapping of its rows, whatever calls it answered or
    refused. -/
theorem materialize_eq (h : Records start called granted r) (hopen : r.materialized = false) :
    r.materialize = ({ r with materialized := true }, .ok ⟨r.rows⟩) := by
  have hkeys : r.rows.map Row.key = Namespace.all.map Namespace.key ++ r.identifiers.map (·.2) := by
    rw [rows, List.map_append, List.map_map, List.map_map]
    rfl
  have hrows : Mapping.ofRows r.rows = .ok ⟨r.rows⟩ := by
    refine (Mapping.ofRows_eq_ok_iff _ _).2 ⟨?_, ?_, rfl⟩
    · -- Reserved keys are distinct, identifiers are distinct, and no key is of both kinds.
      rw [hkeys, List.nodup_append]
      refine ⟨by decide, h.nodup_identifiers, ?_⟩
      rintro a ha b hb rfl
      rcases List.mem_map.1 ha with ⟨n, -, rfl⟩
      rw [h.identifiers_snd, List.mem_mapIdx] at hb
      rcases hb with ⟨j, -, hj⟩
      exact key_ne_text n _ hj.symm
    · intro n
      rw [hkeys]
      refine List.mem_append_left _ (List.mem_map_of_mem ?_)
      cases n <;> decide
  rw [materialize, if_neg (by rw [hopen]; exact Bool.false_ne_true), hrows]
  rfl

/-- The mapping gives every granted place back: its identifier leads to its composite
    key, the key to its positions, and the positions to its names. -/
theorem decode_granted (h : Records start called granted r) (j : Nat) (c : Coordinate)
    (hj : granted[j]? = some c) :
    (⟨r.rows⟩ : Mapping).decode (Vlq.text (start + (j : Int) + 1)) = .ok c := by
  have hc : c ∈ called := h.called_of_granted c (List.mem_of_getElem? hj)
  have hentry : (Vlq.text (start + (j : Int) + 1), keyAfter called c) ∈
      (⟨r.rows⟩ : Mapping).entries := by
    rw [entries_rows]
    refine List.mem_map.2 ⟨(keyAfter called c, Vlq.text (start + (j : Int) + 1)), ?_, rfl⟩
    rw [h.identifiers, List.mem_mapIdx]
    rcases List.getElem?_eq_some_iff.1 hj with ⟨hlt, heq⟩
    exact ⟨j, hlt, by rw [heq]⟩
  have hnodup : ((⟨r.rows⟩ : Mapping).entries.map (·.1)).Nodup := by
    rw [entries_rows, List.map_map]
    exact h.nodup_identifiers
  -- A name stands in its table at its position.
  have hname : ∀ f : Coordinate → String, (called.map f).eraseDups[
      (called.map f).eraseDups.idxOf (f c)]? = some (f c) :=
    fun f => getElem?_idxOf_eraseDups _ _ (List.mem_map_of_mem hc)
  -- From the identifier to the key, the positions and the names.
  refine Mapping.decode_of_indices _ _ _ _ _ c
    (Mapping.decodeIndices_of_entry _ _ _ _ _ _ (find?_of_nodup _ hnodup _ hentry)
      (Vlq.decodeAll_text3 _ _ _)) ?_ ?_ ?_
  · rw [names_rows, table, h.files, NameTable.names_ofNames]
    exact hname (·.file)
  · rw [names_rows, table, h.functions, NameTable.names_ofNames]
    exact hname (·.function)
  · rw [names_rows, table, h.kinds, NameTable.names_ofNames]
    exact hname (·.kind)

/-- Nothing but the granted identifiers is in the mapping. -/
theorem Records.mem_entries_iff (h : Records start called granted r) (identifier : String) :
    identifier ∈ (⟨r.rows⟩ : Mapping).entries.map (·.1) ↔
      ∃ j < granted.length, identifier = Vlq.text (start + (j : Int) + 1) := by
  rw [entries_rows, List.map_map]
  change identifier ∈ r.identifiers.map (·.2) ↔ _
  rw [h.identifiers_snd, List.mem_mapIdx]
  constructor
  · rintro ⟨j, hj, rfl⟩
    exact ⟨j, hj, rfl⟩
  · rintro ⟨j, hj, rfl⟩
    exact ⟨j, hj, rfl⟩

/-- If no call failed, the mapping has the identifiers of the places asked for, and each
    is the number of its place's rank. -/
theorem After.mem_entries_iff (h : After start called r) (identifier : String) :
    identifier ∈ (⟨r.rows⟩ : Mapping).entries.map (·.1) ↔
      ∃ c ∈ called, identifier = Vlq.text (start + (called.eraseDups.idxOf c : Int) + 1) := by
  rw [h.toRecords.mem_entries_iff]
  constructor
  · rintro ⟨j, hj, rfl⟩
    refine ⟨called.eraseDups[j], List.mem_eraseDups.1 (List.getElem_mem hj), ?_⟩
    rw [(nodup_eraseDups called).idxOf_getElem]
  · rintro ⟨c, hc, rfl⟩
    exact ⟨_, idxOf_eraseDups_lt called c hc, rfl⟩

/-- If no call failed, the mapping gives every place asked for back. -/
theorem After.decode (h : After start called r) (c : Coordinate) (hc : c ∈ called) :
    (⟨r.rows⟩ : Mapping).decode (Vlq.text (start + (called.eraseDups.idxOf c : Int) + 1)) =
      .ok c :=
  decode_granted h.toRecords _ c (getElem?_idxOf_eraseDups _ _ hc)

/-! ### A fresh registry -/

/-- A registry that answered a row of calls, the identifiers that it gave, and the
    mapping that it became, all in keeping with the calls. -/
structure Consistent (calls : List Coordinate) (r : Registry) (identifiers : List String)
    (final : Registry) (m : Mapping) : Prop where
  /-- No call fails. -/
  answers : encodeAll {} calls = (r, identifiers.map .ok)
  /-- Two calls have the same identifier exactly if they ask for the same place. -/
  same_iff : ∀ (i j : Nat) (c d : Coordinate) (x y : String), calls[i]? = some c →
    calls[j]? = some d → identifiers[i]? = some x → identifiers[j]? = some y → (x = y ↔ c = d)
  /-- The place that is seen first gets number one, the next one number two. -/
  numbered : ∀ (i j : Nat) (c : Coordinate) (x : String), calls[i]? = some c →
    calls.eraseDups[j]? = some c → identifiers[i]? = some x → Vlq.encode ((j : Int) + 1) = .ok x
  files : r.files.names = (calls.map (·.file)).eraseDups
  functions : r.functions.names = (calls.map (·.function)).eraseDups
  kinds : r.kinds.names = (calls.map (·.kind)).eraseDups
  materialized : r.materialize = (final, .ok m)
  keys : ∀ x, x ∈ m.entries.map (·.1) ↔ x ∈ identifiers
  decode_issued : ∀ (i : Nat) (c : Coordinate) (x : String), calls[i]? = some c →
    identifiers[i]? = some x → m.decode x = .ok c
  decode_other : ∀ x, x ∉ identifiers → m.decode x = .error (.unknownIdentifier x)
  /-- A registry that has become a mapping refuses everything and stays as it is. -/
  encode_refused : ∀ c, final.encode c = (final, .error .finalized)
  materialize_refused : final.materialize = (final, .error .alreadyMaterialized)

/-- A fresh registry answers every call of any row with no more distinct places than
    there are numbers, and all that it answers, lists and becomes fits the row. -/
theorem encodeAll_consistent (calls : List Coordinate)
    (hdistinct : calls.eraseDups.length ≤ 2147483647) :
    ∃ (r : Registry) (identifiers : List String) (final : Registry) (m : Mapping),
      Consistent calls r identifiers final m := by
  have hleft : (0 : Int) + (([] ++ calls).eraseDups.length : Int) ≤ Vlq.maxValue := by
    rw [List.nil_append, Vlq.maxValue]
    omega
  rcases encodeAll_spec (after_nil 0) (Int.le_refl 0) calls hleft with ⟨hafter, hanswers⟩
  rw [List.nil_append] at hafter hanswers
  have hrec := hafter.toRecords
  -- Every identifier is the text of its place's rank.
  have hid : ∀ {i : Nat} {c : Coordinate} {x : String}, calls[i]? = some c →
      (calls.map fun c => Vlq.text (0 + (calls.eraseDups.idxOf c : Int) + 1))[i]? = some x →
        x = Vlq.text (0 + (calls.eraseDups.idxOf c : Int) + 1) := by
    intro i c x hc hx
    rw [List.getElem?_map, hc] at hx
    exact (Option.some.inj hx).symm
  have hkeys : ∀ x, x ∈ (⟨((encodeAll {} calls).1).rows⟩ : Mapping).entries.map (·.1) ↔
      x ∈ calls.map fun c => Vlq.text (0 + (calls.eraseDups.idxOf c : Int) + 1) := by
    intro x
    rw [hafter.mem_entries_iff, List.mem_map]
    exact exists_congr fun c => and_congr_right fun _ => eq_comm
  refine ⟨(encodeAll {} calls).1,
    calls.map fun c => Vlq.text (0 + (calls.eraseDups.idxOf c : Int) + 1),
    { (encodeAll {} calls).1 with materialized := true }, ⟨((encodeAll {} calls).1).rows⟩, ?_⟩
  exact
    { answers := by
        rw [List.map_map]
        exact Prod.ext rfl hanswers
      same_iff := by
        -- Texts tell numbers apart, and ranks tell places apart.
        intro i j c d x y hc hd hx hy
        rw [hid hc hx, hid hd hy]
        constructor
        · intro htext
          have hnumber := Vlq.text_inj _ _ htext
          exact (List.idxOf_inj (List.mem_eraseDups.2 (List.mem_of_getElem? hc))).1 (by omega)
        · rintro rfl
          rfl
      numbered := by
        intro i j c x hc hj hx
        rcases List.getElem?_eq_some_iff.1 hj with ⟨hlt, hget⟩
        have hidx : calls.eraseDups.idxOf c = j := by
          rw [← hget, (nodup_eraseDups calls).idxOf_getElem]
        have hrange := hafter.inRange j hlt
        rw [Int.zero_add] at hrange
        rw [hid hc hx, hidx, Int.zero_add]
        exact Vlq.encode_eq_ok _ hrange
      files := by rw [hrec.files, NameTable.names_ofNames]
      functions := by rw [hrec.functions, NameTable.names_ofNames]
      kinds := by rw [hrec.kinds, NameTable.names_ofNames]
      materialized := materialize_eq hrec hafter.isOpen
      keys := hkeys
      decode_issued := by
        intro i c x hc hx
        rw [hid hc hx]
        exact hafter.decode c (List.mem_of_getElem? hc)
      decode_other := fun x hx => Mapping.decode_of_unknown _ _ (fun hc => hx ((hkeys x).1 hc))
      encode_refused := fun _ => rfl
      materialize_refused := rfl }

/-- Calls that share names and repeat a place: within the bound, and answered rightly. -/
theorem encodeAll_consistent_repeated :
    let calls : List Coordinate :=
      [⟨"a.py", "f", "Type.FUNCTION"⟩, ⟨"b.py", "f", "Type.FUNCTION"⟩,
        ⟨"a.py", "f", "Type.FUNCTION"⟩, ⟨"a.py", "b.py", "f"⟩]
    calls.eraseDups.length ≤ 2147483647 ∧
      ∃ (r : Registry) (identifiers : List String) (final : Registry) (m : Mapping),
        Consistent calls r identifiers final m := by
  intro calls
  have hdistinct : calls.eraseDups.length ≤ 2147483647 := by decide
  exact ⟨hdistinct, encodeAll_consistent calls hdistinct⟩

end Registry

end EntryCoverage
