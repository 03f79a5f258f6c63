import EntryCoverage.Command.Sources
import EntryCoverage.Proofs.HookPath
import EntryCoverage.Proofs.Writing

/-!
# Destinations

Where the files of a program go, and which of them go to one place.

A destination is the output directory with the names of a unit's path after it, from which
the double dots are left out. So two units are only told apart by the names that are left,
and the place that a destination leads to is below that of the output directory. A path
that begins with two slashes is the exception. Its beginning is kept, and then it does not
matter what the output directory is.

Paths and their texts say the same as long as the names of a path are such as a text can
have between slashes. Then a path is read back from its text.

## Main definitions

* `Path.Proper`: The paths that texts stand for.
* `Path.onward`: The names of a path without its double dots.
* `Path.Plain`: A path that begins nowhere else and leads only on.
* `Strays`: A unit does not go below the output directory.
* `Alike`: Two units have the same destination.

## Theorems

* `Path.proper_ofText`, `Path.ofText_text`: Paths and their texts.
* `destination_of_ne`, `destination_of_eq`: The destination of a unit, by how its name begins.
* `destination_joins_iff`: Which destinations are below the output directory.
* `destination_eq_iff`: Which units have the same destination.
* `FileTree.locate_join`: A path that leads only on leads to a place below.
* `locate_destination_inj`: Destinations below one directory that lead to one place are one.
-/

namespace EntryCoverage

/-! ### Paths and their texts -/

/-- A piece of a text has no mark. -/
theorem Text.notMem_of_mem_splitOn (mark : Char) (cs piece : List Char)
    (h : piece ∈ splitOn mark cs) : mark ∉ piece := by
  induction cs generalizing piece with
  | nil =>
      rw [splitOn, List.mem_singleton] at h
      exact h ▸ List.not_mem_nil
  | cons c cs ih =>
      rw [splitOn] at h
      split at h
      · rcases List.mem_cons.1 h with rfl | h
        · exact List.not_mem_nil
        · exact ih piece h
      · rename_i hc
        rcases exists_splitOn mark cs with ⟨first, more, hcs⟩
        rw [hcs] at h ih
        rcases List.mem_cons.1 h with rfl | h
        · rw [List.mem_cons, not_or]
          exact ⟨fun hmark => hc (beq_iff_eq.2 hmark.symm), ih first List.mem_cons_self⟩
        · exact ih piece (List.mem_cons_of_mem _ h)

/-- The pieces of texts without marks that were put together. -/
theorem Text.splitOn_joined {mark : Char} {between : String} (hbetween : between.toList = [mark])
    {pieces : List String} (hne : pieces ≠ []) (h : ∀ piece ∈ pieces, mark ∉ piece.toList) :
    splitOn mark (joined between pieces).toList = pieces.map String.toList := by
  induction pieces with
  | nil => exact absurd rfl hne
  | cons piece pieces ih =>
      have hpiece := splitOn_of_notMem mark piece.toList (h piece List.mem_cons_self)
      cases pieces with
      | nil => exact hpiece
      | cons next pieces =>
          have hjoined : joined between (piece :: next :: pieces) =
              piece ++ between ++ joined between (next :: pieces) := rfl
          rw [hjoined, String.toList_append, String.toList_append, hbetween, List.append_assoc,
            List.singleton_append, splitOn_append_cons, hpiece,
            ih (List.cons_ne_nil _ _) fun p hp => h p (List.mem_cons_of_mem _ hp)]
          rfl

namespace Path

/-- A name that can stand between slashes and says something. -/
structure IsPart (name : String) : Prop where
  ne_empty : name.toList ≠ []
  ne_dot : name.toList ≠ ['.']
  slash_notMem : '/' ∉ name.toList

instance (name : String) : Decidable (IsPart name) :=
  decidable_of_iff (name.toList ≠ [] ∧ name.toList ≠ ['.'] ∧ '/' ∉ name.toList)
    ⟨fun h => ⟨h.1, h.2.1, h.2.2⟩, fun h => ⟨h.ne_empty, h.ne_dot, h.slash_notMem⟩⟩

/-- The paths that texts stand for. -/
structure Proper (p : Path) : Prop where
  slashes : p.slashes ≤ 2
  parts : ∀ name ∈ p.names, IsPart name

instance (p : Path) : Decidable p.Proper :=
  decidable_of_iff (p.slashes ≤ 2 ∧ ∀ name ∈ p.names, IsPart name)
    ⟨fun h => ⟨h.1, h.2⟩, fun h => ⟨h.slashes, h.parts⟩⟩

/-- A text stands for a proper path. -/
theorem proper_ofText (s : String) : (ofText s).Proper where
  slashes := by
    change slashesOf s.toList ≤ 2
    rw [slashesOf]
    split <;> omega
  parts := by
    intro name hname
    rcases List.mem_map.1 hname with ⟨cs, hcs, rfl⟩
    rw [List.mem_filter, decide_eq_true_eq] at hcs
    rcases hcs with ⟨hpiece, hempty, hdot⟩
    refine ⟨?_, ?_, ?_⟩ <;> rw [String.toList_ofList]
    · exact hempty
    · exact hdot
    · exact Text.notMem_of_mem_splitOn '/' _ _ hpiece

/-- The names of a path are read off its text, however many slashes that begins with. -/
theorem namesOf_joined (n : Nat) {names : List String} (h : ∀ name ∈ names, IsPart name) :
    namesOf (List.replicate n '/' ++ (Text.joined "/" names).toList) = names := by
  induction n with
  | zero =>
      rw [List.replicate_zero, List.nil_append, namesOf]
      by_cases hne : names = []
      · subst hne
        rfl
      · have hall : (names.map String.toList).filter (fun name => name ≠ [] ∧ name ≠ ['.']) =
            names.map String.toList := by
          rw [List.filter_eq_self]
          intro cs hcs
          rcases List.mem_map.1 hcs with ⟨name, hname, rfl⟩
          exact decide_eq_true ⟨(h name hname).ne_empty, (h name hname).ne_dot⟩
        rw [Text.splitOn_joined rfl hne fun name hname => (h name hname).slash_notMem, hall,
          List.map_map]
        exact (List.map_congr_left fun name _ => String.ofList_toList).trans (List.map_id names)
  | succ n ih =>
      -- There is nothing before the first slash.
      rw [List.replicate_succ, List.cons_append, namesOf, Text.splitOn,
        if_pos (beq_self_eq_true '/'), List.filter_cons_of_neg (by decide)]
      exact ih

/-- The slashes that a text begins with are those before its names. -/
theorem slashesOf_joined {n : Nat} (hn : n ≤ 2) {names : List String}
    (h : ∀ name ∈ names, IsPart name) :
    slashesOf (List.replicate n '/' ++ (Text.joined "/" names).toList) = n := by
  have hrest : (Text.joined "/" names).toList.takeWhile (· == '/') = [] := by
    cases names with
    | nil => rfl
    | cons name names =>
        -- The first name has a first letter, and it is no slash.
        have hname := h name List.mem_cons_self
        have hfirst : ∃ more, (Text.joined "/" (name :: names)).toList = name.toList ++ more := by
          cases names with
          | nil => exact ⟨[], (List.append_nil _).symm⟩
          | cons next names =>
              have hjoined : Text.joined "/" (name :: next :: names) =
                  name ++ "/" ++ Text.joined "/" (next :: names) := rfl
              rw [hjoined, String.toList_append, String.toList_append, List.append_assoc]
              exact ⟨_, rfl⟩
        rcases hfirst with ⟨more, hmore⟩
        rw [hmore]
        cases hcs : name.toList with
        | nil => exact absurd hcs hname.ne_empty
        | cons c cs =>
            rw [List.cons_append, List.takeWhile_cons_of_neg]
            intro hc
            exact hname.slash_notMem (hcs ▸ beq_iff_eq.1 hc ▸ List.mem_cons_self)
  have hcount : ((List.replicate n '/' ++ (Text.joined "/" names).toList).takeWhile
      (· == '/')).length = n := by
    rw [List.takeWhile_append_of_pos, hrest, List.append_nil, List.length_replicate]
    intro c hc
    rw [List.eq_of_mem_replicate hc]
    rfl
  rw [slashesOf, hcount]
  match n, hn with
  | 0, _ | 1, _ | 2, _ => rfl

/-- A path is read back from its text. -/
theorem ofText_text {p : Path} (h : p.Proper) : ofText p.text = p := by
  unfold text
  split
  · -- The path that says nothing is written as a dot, which says nothing.
    rename_i hnothing
    rcases p with ⟨slashes, names⟩
    rcases hnothing with ⟨rfl, rfl⟩
    decide
  · rw [ofText, String.toList_append, String.toList_ofList, namesOf_joined _ h.parts,
      slashesOf_joined h.slashes h.parts]

/-- The names of a path that lead on: all but the double dots. -/
def onward (p : Path) : List String := p.names.filter (· ≠ "..")

theorem notMem_onward (p : Path) : ".." ∉ p.onward := by
  intro hmem
  have hne := (List.mem_filter.1 hmem).2
  exact absurd rfl (of_decide_eq_true hne)

/-- A path that begins where it is taken and leads only on. -/
structure Plain (p : Path) : Prop where
  relative : p.slashes = 0
  onwards : ".." ∉ p.names

theorem Plain.onward_eq {p : Path} (h : p.Plain) : p.onward = p.names := by
  rw [onward, List.filter_eq_self]
  intro name hname
  refine decide_eq_true ?_
  rintro rfl
  exact h.onwards hname

end Path

/-! ### Destinations as paths -/

/-- Without two slashes at its beginning, a unit's path is taken from the output directory. -/
theorem destination_of_ne {name : String} (h : (Path.ofText name).slashes ≠ 2) (output : Path) :
    destination output name = output.join ⟨0, (Path.ofText name).onward⟩ := by
  unfold destination
  dsimp only
  rw [if_neg h]
  rfl

/-- With two of them, it is taken from the top. -/
theorem destination_of_eq {name : String} (h : (Path.ofText name).slashes = 2) (output : Path) :
    destination output name = ⟨2, (Path.ofText name).onward⟩ := by
  unfold destination
  dsimp only
  rw [if_pos h]
  rfl

/-- A unit does not go below the output directory: its name begins with two slashes, and the
    output directory is not on the way that it takes from the top. -/
def Strays (output : Path) (name : String) : Prop :=
  (Path.ofText name).slashes = 2 ∧
    ¬ (output.slashes = 2 ∧ output.names <+: (Path.ofText name).onward)

/-- A destination that does not stray is the output directory joined with a relative path
    that leads only on. -/
theorem destination_joins_iff (output : Path) (name : String) :
    (∃ inner, ".." ∉ inner ∧ destination output name = output.join ⟨0, inner⟩) ↔
      ¬ Strays output name := by
  by_cases htwo : (Path.ofText name).slashes = 2
  · rw [destination_of_eq htwo, Strays, not_and_not_right]
    constructor
    · rintro ⟨inner, -, hjoin⟩ -
      rw [Path.join_of_relative rfl, Path.mk.injEq] at hjoin
      exact ⟨hjoin.1.symm, inner, hjoin.2.symm⟩
    · intro hway
      rcases hway htwo with ⟨houtput, inner, hinner⟩
      refine ⟨inner, fun hmem => ?_, ?_⟩
      · exact Path.notMem_onward _ (hinner ▸ List.mem_append_right _ hmem)
      · rw [Path.join_of_relative rfl, houtput, hinner]
  · refine iff_of_true ⟨_, Path.notMem_onward _, destination_of_ne htwo output⟩ ?_
    exact fun hstrays => htwo hstrays.1

/-- Two units have the same destination: the same names are left of both, and both begin with
    two slashes or neither does. If only one does, it spells the output directory out. -/
inductive Alike (output : Path) (p q : Path) : Prop
  | below (hp : p.slashes ≠ 2) (hq : q.slashes ≠ 2) (h : p.onward = q.onward)
  | apart (hp : p.slashes = 2) (hq : q.slashes = 2) (h : p.onward = q.onward)
  | spelled (houtput : output.slashes = 2) (hp : p.slashes = 2) (hq : q.slashes ≠ 2)
      (h : p.onward = output.names ++ q.onward)
  | spelled' (houtput : output.slashes = 2) (hp : p.slashes ≠ 2) (hq : q.slashes = 2)
      (h : q.onward = output.names ++ p.onward)

theorem destination_eq_iff (output : Path) (name other : String) :
    destination output name = destination output other ↔
      Alike output (Path.ofText name) (Path.ofText other) := by
  by_cases hp : (Path.ofText name).slashes = 2 <;> by_cases hq : (Path.ofText other).slashes = 2
  · rw [destination_of_eq hp, destination_of_eq hq, Path.mk.injEq, and_iff_right rfl]
    refine ⟨.apart hp hq, fun h => ?_⟩
    cases h with
    | apart _ _ h => exact h
    | below hne _ _ | spelled' _ hne _ _ => exact absurd hp hne
    | spelled _ _ hne _ => exact absurd hq hne
  · rw [destination_of_eq hp, destination_of_ne hq, Path.join_of_relative rfl, Path.mk.injEq]
    refine ⟨fun h => .spelled h.1.symm hp hq h.2, fun h => ?_⟩
    cases h with
    | spelled houtput _ _ h => exact ⟨houtput.symm, h⟩
    | below hne _ _ | spelled' _ hne _ _ => exact absurd hp hne
    | apart _ heq _ => exact absurd heq hq
  · rw [destination_of_ne hp, destination_of_eq hq, Path.join_of_relative rfl, Path.mk.injEq]
    refine ⟨fun h => .spelled' h.1 hp hq h.2.symm, fun h => ?_⟩
    cases h with
    | spelled' houtput _ _ h => exact ⟨houtput, h.symm⟩
    | below _ hne _ => exact absurd hq hne
    | apart heq _ _ | spelled _ heq _ _ => exact absurd heq hp
  · rw [destination_of_ne hp, destination_of_ne hq, Path.join_of_relative rfl,
      Path.join_of_relative rfl, Path.mk.injEq, and_iff_right rfl, List.append_cancel_left_eq]
    refine ⟨.below hp hq, fun h => ?_⟩
    cases h with
    | below _ _ h => exact h
    | apart heq _ _ | spelled _ heq _ _ => exact absurd heq hp
    | spelled' _ _ heq _ => exact absurd heq hq

/-- Plain paths that are alike are one path. -/
theorem Alike.eq_of_plain {output p q : Path} (h : Alike output p q) (hp : p.Plain)
    (hq : q.Plain) : p = q := by
  have hne : ∀ {r : Path}, r.Plain → r.slashes ≠ 2 := by
    intro r hr
    rw [hr.relative]
    omega
  cases h with
  | below _ _ h =>
      rcases p with ⟨slashes, names⟩
      rcases q with ⟨slashes', names'⟩
      rw [hp.onward_eq, hq.onward_eq] at h
      rw [Path.mk.injEq]
      exact ⟨hp.relative.trans hq.relative.symm, h⟩
  | apart heq _ _ | spelled _ heq _ _ => exact absurd heq (hne hp)
  | spelled' _ _ heq _ => exact absurd heq (hne hq)

/-! ### Destinations as places -/

namespace FileTree

theorem walk_append_eq_ok {t : FileTree} {l m : Location} {names more : List String} :
    t.walk l (names ++ more) = .ok m ↔ ∃ k, t.walk l names = .ok k ∧ t.walk k more = .ok m := by
  induction names generalizing l with
  | nil => simp only [List.nil_append, walk, Except.ok.injEq, exists_eq_left']
  | cons name names ih =>
      rw [List.cons_append, walk, walk]
      split
      · simp only [reduceCtorEq, false_and, exists_false]
      · simp only [reduceCtorEq, false_and, exists_false]
      · exact ih

/-- Names that lead only on lead to the place that they spell out. -/
theorem walk_onward {t : FileTree} {l m : Location} {names : List String} (h : ".." ∉ names)
    (hwalk : t.walk l names = .ok m) : m = l ++ names := by
  induction names generalizing l with
  | nil => exact (Except.ok.inj hwalk).symm.trans (List.append_nil l).symm
  | cons name names ih =>
      rw [List.mem_cons, not_or] at h
      rw [walk] at hwalk
      split at hwalk
      · simp only [reduceCtorEq] at hwalk
      · simp only [reduceCtorEq] at hwalk
      · rw [ih h.2 hwalk, step, if_neg (Ne.symm h.1), List.append_assoc, List.singleton_append]

/-- A path that is joined with names that lead only on leads to a place below its own. -/
theorem locate_join {t : FileTree} {p : Path} {l : Location} {inner : List String}
    (h : ".." ∉ inner) (hlocate : t.locate (p.join ⟨0, inner⟩) = .ok l) :
    ∃ base, t.locate p = .ok base ∧ l = base ++ inner := by
  rw [Path.join_of_relative rfl] at hlocate
  rcases walk_append_eq_ok.1 hlocate with ⟨base, hbase, hinner⟩
  exact ⟨base, hbase, walk_onward h hinner⟩

end FileTree

/-- Destinations below one directory that lead to one place are one destination. -/
theorem locate_destination_inj {t : FileTree} {output : Path} {name other : String}
    {l : Location} (hname : ¬ Strays output name) (hother : ¬ Strays output other)
    (hl : t.locate (destination output name) = .ok l)
    (hl' : t.locate (destination output other) = .ok l) :
    destination output name = destination output other := by
  rcases (destination_joins_iff output name).2 hname with ⟨inner, honward, hjoin⟩
  rcases (destination_joins_iff output other).2 hother with ⟨inner', honward', hjoin'⟩
  rw [hjoin] at hl
  rw [hjoin'] at hl'
  rcases FileTree.locate_join honward hl with ⟨base, hbase, rfl⟩
  rcases FileTree.locate_join honward' hl' with ⟨base', hbase', hplace⟩
  rw [hbase, Except.ok.injEq] at hbase'
  rw [← hbase', List.append_cancel_left_eq] at hplace
  rw [hjoin, hjoin', hplace]

end EntryCoverage
