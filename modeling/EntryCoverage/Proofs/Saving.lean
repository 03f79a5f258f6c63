import EntryCoverage.Proofs.Writing

/-!
# When Saving Succeeds

Whether texts can be saved at paths, and what the tree is afterwards, told from the tree as
it was before.

On the way to a file stand the places that the names of its path lead through. Saving makes a
directory of each of them where nothing is, the outer ones first, and only a file there can
prevent it. The file itself must not go where a directory is, or is being made
(`save_eq_ok_iff`). Nothing but the way and the file changes, and so what one text needs of
the tree can be asked before the others are saved: in a row, each of them must be able to be
saved alone, and none may go to a place on the way of another one (`saveAll_eq_ok_iff`).

## Main definitions

* `passed`, `way`, `through`: The places on the way to that of a path.
* `Passable`: A place where no file is.
* `Furnished`: A tree in which directories were made at places.
* `Writable`: A path at which a text can be saved.
* `Saved`: A tree in which a text was saved.
* `Clear`: Paths none of which leads to a place on the way of another one.
* `SavedAll`: A tree in which texts were saved in a row.
* `Wrote`: A tree in which texts were written, and nothing else was done.

## Theorems

* `walk_eq_ok_iff`: Names lead somewhere if there are directories on their way.
* `furnished_ensureWay`, `exists_ensureWay`: Which directories are made, and when they can be.
* `save_eq_ok_iff`, `saved_of_save`: When a text can be saved, and what it changes.
* `Saved.writable_iff`: What one text leaves of the room for others.
* `saveAll_eq_ok_iff`, `savedAll_of_saveAll`: The same for texts in a row.
* `wrote_of_saveAll`: Saving texts writes their files, and no others.
-/

namespace EntryCoverage

namespace FileTree

/-! ### Ways -/

/-- The places that names lead through from a place on: that one, and those of all names but
    the last. -/
def passed : Location → List String → List Location
  | _, [] => []
  | l, name :: names => l :: passed (step l name) names

/-- The places on the way to that of a path. -/
def way (t : FileTree) (p : Path) : List Location := passed (t.start p) p.names

/-- A place where no file is. -/
def Passable (t : FileTree) (l : Location) : Prop := ∀ content, t.find? l ≠ some (.file content)

instance (t : FileTree) (l : Location) : Decidable (t.Passable l) :=
  match h : t.find? l with
  | some (.file content) => isFalse fun hpass => hpass content h
  | some .directory => isTrue fun content => by rw [h]; simp
  | none => isTrue fun content => by rw [h]; simp

theorem Passable.of_directory {t : FileTree} {l : Location} (h : t.find? l = some .directory) :
    t.Passable l := by
  intro content hfile
  rw [h] at hfile
  simp only [Option.some.injEq, reduceCtorEq] at hfile

theorem passed_concat (l : Location) (names : List String) (name : String) :
    passed l (names ++ [name]) = passed l names ++ [names.foldl step l] := by
  induction names generalizing l with
  | nil => rfl
  | cons first names ih =>
      rw [List.cons_append, passed, ih, passed, List.cons_append, List.foldl_cons]

/-- Names lead somewhere if there are directories on their way. -/
theorem walk_eq_ok_iff {t : FileTree} {l m : Location} {names : List String} :
    t.walk l names = .ok m ↔
      (∀ q ∈ passed l names, t.find? q = some .directory) ∧ m = names.foldl step l := by
  induction names generalizing l with
  | nil =>
      rw [walk, Except.ok.injEq, passed, List.foldl_nil]
      exact ⟨fun h => ⟨fun q hq => absurd hq List.not_mem_nil, h.symm⟩, fun h => h.2.symm⟩
  | cons name names ih =>
      rw [walk, passed, List.forall_mem_cons, List.foldl_cons]
      split
      · rename_i hfind
        simp only [hfind, reduceCtorEq, false_and]
      · rename_i hfind
        simp only [hfind, Option.some.injEq, reduceCtorEq, false_and]
      · rename_i hfind
        rw [ih, and_iff_right hfind]

/-- If no file is on their way, names lead somewhere, or something is missing. -/
theorem walk_of_passable {t : FileTree} {l : Location} {names : List String}
    (h : ∀ q ∈ passed l names, t.Passable q) :
    t.walk l names = .ok (names.foldl step l) ∨ t.walk l names = .error .missing := by
  induction names generalizing l with
  | nil => exact .inl rfl
  | cons name names ih =>
      rw [passed, List.forall_mem_cons] at h
      rw [walk]
      split
      · exact .inr rfl
      · rename_i content hfind
        exact absurd hfind (h.1 content)
      · exact ih h.2

theorem locate_eq_ok_iff {t : FileTree} {p : Path} {l : Location} :
    t.locate p = .ok l ↔ (∀ q ∈ t.way p, t.find? q = some .directory) ∧ l = t.resolve p :=
  walk_eq_ok_iff

theorem locate_of_passable {t : FileTree} {p : Path} (h : ∀ q ∈ t.way p, t.Passable q) :
    t.locate p = .ok (t.resolve p) ∨ t.locate p = .error .missing :=
  walk_of_passable h

/-- The places of paths only depend on where relative ones begin. -/
theorem way_congr {t t' : FileTree} (h : t'.home = t.home) (p : Path) : t'.way p = t.way p := by
  rw [way, way, start, start, h]

theorem resolve_congr {t t' : FileTree} (h : t'.home = t.home) (p : Path) :
    t'.resolve p = t.resolve p := by
  rw [resolve, resolve, start, start, h]

/-! ### Directories -/

/-- A tree in which directories were made at places, and nothing else was. -/
structure Furnished (places : List Location) (t t' : FileTree) : Prop where
  home : t'.home = t.home
  inside : ∀ l ∈ places, t'.find? l = some .directory
  outside : ∀ l, l ∉ places → t'.find? l = t.find? l

theorem Furnished.append {places more : List Location} {t t' t'' : FileTree}
    (h : Furnished places t t') (hmore : Furnished more t' t'') :
    Furnished (places ++ more) t t'' where
  home := hmore.home.trans h.home
  inside := by
    intro l hl
    by_cases hmem : l ∈ more
    · exact hmore.inside l hmem
    · rw [hmore.outside l hmem]
      exact h.inside l ((List.mem_append.1 hl).resolve_right hmem)
  outside := by
    intro l hl
    rw [List.mem_append, not_or] at hl
    rw [hmore.outside l hl.2, h.outside l hl.1]

theorem furnished_put {t : FileTree} {l : Location} (h : t.find? l = none) :
    Furnished [l] t (t.put l .directory) where
  home := rfl
  inside := by
    intro m hm
    have hne : l ≠ [] := by
      rintro rfl
      simp only [find?, if_true, reduceCtorEq] at h
    rw [List.mem_singleton.1 hm, find?_put t hne]
  outside := fun m hm => find?_put_of_ne t (fun heq => hm (List.mem_singleton.2 heq)) _

/-- Where there are directories on the way to it, a directory is made, unless a file is
    there. -/
theorem ensureDirectory_of_way {t : FileTree} {p : Path}
    (hway : ∀ q ∈ t.way p, t.find? q = some .directory) :
    (t.Passable (t.resolve p) →
      ∃ t', t.ensureDirectory p = .ok t' ∧ Furnished [t.resolve p] t t') ∧
    (¬ t.Passable (t.resolve p) → t.ensureDirectory p = .error .alreadyThere) := by
  have hlocate : t.locate p = .ok (t.resolve p) := locate_eq_ok_iff.2 ⟨hway, rfl⟩
  unfold ensureDirectory makeDirectory isDirectory lookup
  simp only [hlocate, bind, Except.bind]
  cases hfind : t.find? (t.resolve p) with
  | none =>
      exact ⟨fun _ => ⟨_, rfl, furnished_put hfind⟩,
        fun hfile => absurd (fun content hc => by simp [hfind] at hc) hfile⟩
  | some found =>
      cases found with
      | directory =>
          refine ⟨fun _ => ⟨t, rfl, rfl, fun l hl => ?_, fun _ _ => rfl⟩,
            fun hfile => absurd (Passable.of_directory hfind) hfile⟩
          rw [List.mem_singleton.1 hl, hfind]
      | file content => exact ⟨fun hpass => absurd hfind (hpass content), fun _ => rfl⟩

/-- What a path leads to that cannot be followed is not made a directory. -/
theorem ensureDirectory_of_error {t : FileTree} {p : Path} {e : FileError}
    (h : t.locate p = .error e) : t.ensureDirectory p = .error e := by
  unfold ensureDirectory makeDirectory isDirectory lookup
  simp only [h, bind, Except.bind, Bool.false_eq_true, if_false]

/-- A directory is only made where there are directories on the way to it. -/
theorem way_of_ensureDirectory {t t' : FileTree} {p : Path} (h : t.ensureDirectory p = .ok t') :
    ∀ q ∈ t.way p, t.find? q = some .directory := by
  cases hlocate : t.locate p with
  | error e =>
      rw [ensureDirectory_of_error hlocate] at h
      simp only [reduceCtorEq] at h
  | ok l => exact (locate_eq_ok_iff.1 hlocate).1

theorem furnished_ensureDirectory {t t' : FileTree} {p : Path}
    (h : t.ensureDirectory p = .ok t') :
    t.Passable (t.resolve p) ∧ Furnished [t.resolve p] t t' := by
  rcases ensureDirectory_of_way (way_of_ensureDirectory h) with ⟨hmade, hrefused⟩
  by_cases hpass : t.Passable (t.resolve p)
  · rcases hmade hpass with ⟨made, hok, hfurnished⟩
    rw [h, Except.ok.injEq] at hok
    exact ⟨hpass, hok ▸ hfurnished⟩
  · rw [hrefused hpass] at h
    simp only [reduceCtorEq] at h

/-- The places that a path leads through, the one that it leads to with them. -/
def through (t : FileTree) (p : Path) : List Location := t.way p ++ [t.resolve p]

theorem way_eq_through (t : FileTree) (slashes : Nat) (names : List String) (name : String) :
    t.way ⟨slashes, names ++ [name]⟩ = t.through ⟨slashes, names⟩ :=
  passed_concat _ names name

/-- A directory that is made at once had directories on its way before. -/
theorem through_of_ensureDirectory {t t' : FileTree} {p : Path}
    (h : t.ensureDirectory p = .ok t') :
    (∀ q ∈ t.through p, t.Passable q) ∧ Furnished (t.through p) t t' := by
  have hway := way_of_ensureDirectory h
  rcases furnished_ensureDirectory h with ⟨hpass, hfurnished⟩
  refine ⟨fun q hq => ?_, Furnished.append ⟨rfl, hway, fun _ _ => rfl⟩ hfurnished⟩
  rcases List.mem_append.1 hq with hq | hq
  · exact .of_directory (hway q hq)
  · exact List.mem_singleton.1 hq ▸ hpass

/-- A directory is made with all those on the way to it, and no file was on the way. -/
theorem furnished_ensureWay {t t' : FileTree} {slashes : Nat} {names : List String}
    (h : t.ensureWay slashes names = .ok t') :
    (∀ q ∈ t.through ⟨slashes, names.reverse⟩, t.Passable q) ∧
      Furnished (t.through ⟨slashes, names.reverse⟩) t t' := by
  induction names generalizing t t' with
  | nil => exact through_of_ensureDirectory h
  | cons name outer ih =>
      rw [ensureWay] at h
      split at h
      · rcases exists_of_bind_eq_ok h with ⟨t₁, houter, hinner⟩
        rcases ih houter with ⟨hpass, hfurnished⟩
        rcases furnished_ensureDirectory hinner with ⟨hend, hmade⟩
        rw [resolve_congr hfurnished.home, List.reverse_cons] at hend hmade
        rw [List.reverse_cons, through, way_eq_through]
        refine ⟨fun q hq => ?_, hfurnished.append hmade⟩
        rcases List.mem_append.1 hq with hq | hq
        · exact hpass q hq
        · -- Unless the last place is also on the way, it is what it was.
          rw [List.mem_singleton.1 hq]
          by_cases hmem : t.resolve ⟨slashes, outer.reverse ++ [name]⟩ ∈
              t.through ⟨slashes, outer.reverse⟩
          · exact hpass _ hmem
          · intro content
            rw [← hfurnished.outside _ hmem]
            exact hend content
      · exact through_of_ensureDirectory h

/-- A directory is made with all those on the way to it, if no file is in the way. -/
theorem exists_ensureWay (t : FileTree) (slashes : Nat) (names : List String)
    (h : ∀ q ∈ t.through ⟨slashes, names.reverse⟩, t.Passable q) :
    ∃ t', t.ensureWay slashes names = .ok t' := by
  induction names with
  | nil =>
      have hend := h _ (List.mem_append_right _ List.mem_cons_self)
      rcases (ensureDirectory_of_way fun q hq => absurd hq List.not_mem_nil).1 hend with
        ⟨t', hok, -⟩
      exact ⟨t', hok⟩
  | cons name outer ih =>
      rw [List.reverse_cons, through, way_eq_through] at h
      have hway : ∀ q ∈ t.through ⟨slashes, outer.reverse⟩, t.Passable q :=
        fun q hq => h q (List.mem_append_left _ hq)
      have hend := h _ (List.mem_append_right _ List.mem_cons_self)
      rw [ensureWay, List.reverse_cons]
      have hpassable : ∀ q ∈ t.way ⟨slashes, outer.reverse ++ [name]⟩, t.Passable q := by
        rw [way_eq_through]
        exact hway
      rcases locate_of_passable hpassable with hok | hmissing
      · have hdirectories := (locate_eq_ok_iff.1 hok).1
        rcases (ensureDirectory_of_way hdirectories).1 hend with ⟨t', hmade, -⟩
        exact ⟨t', by simp only [hmade]⟩
      · -- The directories on the way are made first, and then this one can be.
        rcases ih hway with ⟨t₁, houter⟩
        rcases furnished_ensureWay houter with ⟨-, hfurnished⟩
        have hdirectories : ∀ q ∈ t₁.way ⟨slashes, outer.reverse ++ [name]⟩,
            t₁.find? q = some .directory := by
          rw [way_congr hfurnished.home, way_eq_through]
          exact hfurnished.inside
        have hpass : t₁.Passable (t₁.resolve ⟨slashes, outer.reverse ++ [name]⟩) := by
          rw [resolve_congr hfurnished.home]
          by_cases hmem : t.resolve ⟨slashes, outer.reverse ++ [name]⟩ ∈
              t.through ⟨slashes, outer.reverse⟩
          · exact .of_directory (hfurnished.inside _ hmem)
          · intro content
            rw [hfurnished.outside _ hmem]
            exact hend content
        rcases (ensureDirectory_of_way hdirectories).1 hpass with ⟨t', hmade, -⟩
        refine ⟨t', ?_⟩
        simp only [ensureDirectory_of_error hmissing, houter, bind, Except.bind, hmade]

/-! ### One text -/

/-- A path at which a text can be saved: it has a last name, no file is on its way, and where
    it leads there is no directory, nor will one be made. -/
structure Writable (t : FileTree) (p : Path) : Prop where
  named : p.names ≠ []
  way : ∀ q ∈ t.way p, t.Passable q
  target : t.find? (t.resolve p) ≠ some .directory
  apart : t.resolve p ∉ t.way p

instance (t : FileTree) (p : Path) : Decidable (t.Writable p) :=
  decidable_of_iff (p.names ≠ [] ∧ (∀ q ∈ t.way p, t.Passable q) ∧
      t.find? (t.resolve p) ≠ some .directory ∧ t.resolve p ∉ t.way p)
    ⟨fun h => ⟨h.1, h.2.1, h.2.2.1, h.2.2.2⟩, fun h => ⟨h.named, h.way, h.target, h.apart⟩⟩

/-- A tree in which a text was saved: there are directories on the way to its file, and
    everything else is as it was. -/
structure Saved (t : FileTree) (p : Path) (text : String) (t' : FileTree) : Prop where
  home : t'.home = t.home
  way : ∀ q ∈ t.way p, t'.find? q = some .directory
  file : t'.find? (t.resolve p) = some (.file text.toUTF8)
  elsewhere : ∀ l, l ≠ t.resolve p → l ∉ t.way p → t'.find? l = t.find? l

/-- The way of a path with a last name is that of its parent, with the place of that. -/
theorem through_parent (t : FileTree) {p : Path} (h : p.names ≠ []) :
    t.through p.parent = t.way p := by
  have hnames := List.dropLast_append_getLast h
  rw [Path.parent, ← way_eq_through, hnames]

/-- The directories that a text needs. -/
theorem ensureDirectories_spec (t : FileTree) (p : Path) :
    (∀ t', t.ensureDirectories p = .ok t' →
      (∀ q ∈ t.through p, t.Passable q) ∧ Furnished (t.through p) t t') ∧
    ((∀ q ∈ t.through p, t.Passable q) → ∃ t', t.ensureDirectories p = .ok t') := by
  have hpath : (⟨p.slashes, p.names.reverse.reverse⟩ : Path) = p := by
    rw [List.reverse_reverse]
  constructor
  · intro t' h
    have hspec := furnished_ensureWay h
    rwa [hpath] at hspec
  · intro h
    rw [← hpath] at h
    exact exists_ensureWay t p.slashes p.names.reverse h

/-- A text is written where there are directories on the way, unless one is in its place. -/
theorem writeText_of_way {t : FileTree} {p : Path} (text : String)
    (hway : ∀ q ∈ t.way p, t.find? q = some .directory) :
    t.writeText p text =
      if t.find? (t.resolve p) = some .directory then .error .isADirectory
      else .ok (t.put (t.resolve p) (.file text.toUTF8)) := by
  have hlocate : t.locate p = .ok (t.resolve p) := locate_eq_ok_iff.2 ⟨hway, rfl⟩
  unfold writeText
  simp only [hlocate, bind, Except.bind]
  split
  · rename_i hfind
    rw [if_pos hfind]
  · rename_i hfind
    rw [if_neg hfind]

/-- What is written when the directories on the way to a file were made. -/
theorem writeText_of_furnished {t t₁ : FileTree} {p : Path} (h : Furnished (t.way p) t t₁)
    (text : String) :
    t₁.writeText p text =
      if t₁.find? (t.resolve p) = some .directory then .error .isADirectory
      else .ok (t₁.put (t.resolve p) (.file text.toUTF8)) := by
  rw [← resolve_congr h.home]
  refine writeText_of_way text ?_
  rw [way_congr h.home]
  exact h.inside

/-- A path without a last name is that of a directory. -/
theorem save_of_nil (t : FileTree) {p : Path} (h : p.names = []) (text : String) :
    ∀ t', t.save p text ≠ .ok t' := by
  intro t' hsave
  rcases exists_of_bind_eq_ok hsave with ⟨t₁, hways, hwrite⟩
  have hparent : p.parent = p := by
    rw [Path.parent, h, List.dropLast_nil, ← h]
  have hfurnished := ((ensureDirectories_spec t p).1 t₁ (hparent ▸ hways)).2
  have hnone : t.way p = [] := by
    rw [way, h, passed]
  rw [through, hnone, List.nil_append] at hfurnished
  have hway : Furnished (t.way p) t₁ t₁ :=
    ⟨rfl, fun q hq => absurd (hnone ▸ hq) List.not_mem_nil, fun _ _ => rfl⟩
  rw [← way_congr hfurnished.home] at hway
  rw [writeText_of_furnished hway, resolve_congr hfurnished.home,
    if_pos (hfurnished.inside _ List.mem_cons_self)] at hwrite
  simp only [reduceCtorEq] at hwrite

/-- What a text changes that is saved, and what there was before. -/
theorem saved_of_save {t t' : FileTree} {p : Path} {text : String}
    (h : t.save p text = .ok t') : t.Writable p ∧ t.Saved p text t' := by
  have hnamed : p.names ≠ [] := fun hnil => save_of_nil t hnil text t' h
  rcases exists_of_bind_eq_ok h with ⟨t₁, hways, hwrite⟩
  rcases (ensureDirectories_spec t p.parent).1 t₁ hways with ⟨hpass, hfurnished⟩
  rw [through_parent t hnamed] at hpass hfurnished
  rw [writeText_of_furnished hfurnished] at hwrite
  split at hwrite
  · simp only [reduceCtorEq] at hwrite
  · rename_i htarget
    have hapart : t.resolve p ∉ t.way p := fun hmem => htarget (hfurnished.inside _ hmem)
    have hne : t.resolve p ≠ [] := by
      intro hnil
      rw [hnil] at htarget
      exact htarget rfl
    rw [Except.ok.injEq] at hwrite
    subst hwrite
    refine ⟨⟨hnamed, hpass, ?_, hapart⟩, hfurnished.home, fun q hq => ?_, find?_put t₁ hne _,
      fun l hl hout => ?_⟩
    · rwa [← hfurnished.outside _ hapart]
    · have hother : q ≠ t.resolve p := fun heq => hapart (heq ▸ hq)
      rw [find?_put_of_ne t₁ hother, hfurnished.inside q hq]
    · rw [find?_put_of_ne t₁ hl, hfurnished.outside l hout]

/-- A text can be saved at writable paths, and at no others. -/
theorem save_eq_ok_iff (t : FileTree) (p : Path) (text : String) :
    (∃ t', t.save p text = .ok t') ↔ t.Writable p := by
  constructor
  · rintro ⟨t', h⟩
    exact (saved_of_save h).1
  · intro h
    have hpass : ∀ q ∈ t.through p.parent, t.Passable q := by
      rw [through_parent t h.named]
      exact h.way
    rcases (ensureDirectories_spec t p.parent).2 hpass with ⟨t₁, hways⟩
    have hfurnished := ((ensureDirectories_spec t p.parent).1 t₁ hways).2
    rw [through_parent t h.named] at hfurnished
    have htarget : t₁.find? (t.resolve p) ≠ some .directory := by
      rw [hfurnished.outside _ h.apart]
      exact h.target
    refine ⟨t₁.put (t.resolve p) (.file text.toUTF8), ?_⟩
    rw [save, hways]
    exact (writeText_of_furnished hfurnished text).trans (if_neg htarget)

/-! ### Texts in a row -/

/-- What one text leaves of the room for others: a path that is writable afterwards was
    writable before, and neither of the two leads to a place on the way of the other. -/
theorem Saved.writable_iff {t t' : FileTree} {p : Path} {text : String} (h : t.Saved p text t')
    (hp : t.Writable p) (q : Path) :
    t'.Writable q ↔ t.Writable q ∧ t.resolve p ∉ t.way q ∧ t.resolve q ∉ t.way p := by
  have hway := way_congr h.home q
  have hresolve := resolve_congr h.home q
  constructor
  · intro hq
    have hover : t.resolve p ∉ t.way q := by
      intro hmem
      exact hq.way _ (hway ▸ hmem) _ h.file
    have hunder : t.resolve q ∉ t.way p := by
      intro hmem
      exact hq.target (hresolve ▸ h.way _ hmem)
    refine ⟨⟨hq.named, fun l hl content hfile => ?_, fun hdirectory => ?_, ?_⟩, hover, hunder⟩
    · -- A file on the way is neither the one that was saved nor on the way of that.
      have hne : l ≠ t.resolve p := fun heq => hover (heq ▸ hl)
      have hout : l ∉ t.way p := fun hmem => hp.way l hmem content hfile
      refine hq.way l (hway ▸ hl) content ?_
      rw [h.elsewhere l hne hout, hfile]
    · have hne : t.resolve q ≠ t.resolve p := fun heq => hp.target (heq ▸ hdirectory)
      apply hq.target
      rw [hresolve, h.elsewhere _ hne hunder, hdirectory]
    · rw [← hway, ← hresolve]
      exact hq.apart
  · rintro ⟨hq, hover, hunder⟩
    refine ⟨hq.named, fun l hl content hfile => ?_, fun hdirectory => ?_, ?_⟩
    · rw [hway] at hl
      have hne : l ≠ t.resolve p := fun heq => hover (heq ▸ hl)
      by_cases hmem : l ∈ t.way p
      · rw [h.way l hmem] at hfile
        simp only [Option.some.injEq, reduceCtorEq] at hfile
      · rw [h.elsewhere l hne hmem] at hfile
        exact hq.way l hl content hfile
    · rw [hresolve] at hdirectory
      by_cases heq : t.resolve q = t.resolve p
      · rw [heq, h.file] at hdirectory
        simp only [Option.some.injEq, reduceCtorEq] at hdirectory
      · rw [h.elsewhere _ heq hunder] at hdirectory
        exact hq.target hdirectory
    · rw [hway, hresolve]
      exact hq.apart

/-- Paths none of which leads to a place on the way of another one. -/
def Clear (t : FileTree) (paths : List Path) : Prop :=
  ∀ p ∈ paths, ∀ q ∈ paths, t.resolve p ∉ t.way q

instance (t : FileTree) (paths : List Path) : Decidable (t.Clear paths) :=
  inferInstanceAs (Decidable (∀ p ∈ paths, ∀ q ∈ paths, t.resolve p ∉ t.way q))

theorem clear_cons_iff {t : FileTree} {p : Path} {paths : List Path} :
    t.Clear (p :: paths) ↔ t.resolve p ∉ t.way p ∧
      (∀ q ∈ paths, t.resolve p ∉ t.way q ∧ t.resolve q ∉ t.way p) ∧ t.Clear paths := by
  simp only [Clear, List.forall_mem_cons]
  constructor
  · rintro ⟨⟨hown, hover⟩, hrest⟩
    exact ⟨hown, fun q hq => ⟨hover q hq, (hrest q hq).1⟩, fun q hq => (hrest q hq).2⟩
  · rintro ⟨hown, hcross, hrest⟩
    exact ⟨⟨hown, fun q hq => (hcross q hq).1⟩, fun q hq => ⟨(hcross q hq).2, hrest q hq⟩⟩

/-- Texts can be saved in a row exactly if each of them can be saved alone, and none goes to
    a place on the way of another one. -/
theorem saveAll_eq_ok_iff (t : FileTree) (outputs : List (Path × String)) :
    (∃ t', t.saveAll outputs = (t', .ok ())) ↔
      (∀ p ∈ outputs.map (·.1), t.Writable p) ∧ t.Clear (outputs.map (·.1)) := by
  induction outputs generalizing t with
  | nil =>
      exact iff_of_true ⟨t, rfl⟩
        ⟨fun p hp => absurd hp List.not_mem_nil, fun p hp => absurd hp List.not_mem_nil⟩
  | cons output outputs ih =>
      rw [List.map_cons, List.forall_mem_cons, clear_cons_iff]
      have hclear : ∀ {t₁ : FileTree}, t₁.home = t.home →
          (t₁.Clear (outputs.map (·.1)) ↔ t.Clear (outputs.map (·.1))) := by
        intro t₁ hhome
        simp only [Clear, resolve_congr hhome, way_congr hhome]
      constructor
      · rintro ⟨t', hall⟩
        rcases saveAll_cons_eq_ok.1 hall with ⟨t₁, hsave, hrest⟩
        rcases saved_of_save hsave with ⟨hfirst, hsaved⟩
        rcases (ih t₁).1 ⟨t', hrest⟩ with ⟨hwritable, hlater⟩
        have hroom := fun q hq => (hsaved.writable_iff hfirst q).1 (hwritable q hq)
        exact ⟨⟨hfirst, fun q hq => (hroom q hq).1⟩, hfirst.apart, fun q hq => (hroom q hq).2,
          (hclear hsaved.home).1 hlater⟩
      · rintro ⟨⟨hfirst, hwritable⟩, -, hcross, hlater⟩
        rcases (save_eq_ok_iff t output.1 output.2).2 hfirst with ⟨t₁, hsave⟩
        have hsaved := (saved_of_save hsave).2
        have hroom := fun q hq => (hsaved.writable_iff hfirst q).2 ⟨hwritable q hq, hcross q hq⟩
        rcases (ih t₁).2 ⟨hroom, (hclear hsaved.home).2 hlater⟩ with ⟨t', hrest⟩
        exact ⟨t', saveAll_cons_eq_ok.2 ⟨t₁, hsave, hrest⟩⟩

/-- A tree in which texts were saved in a row: each place that they go to has a file with the
    last of them, there are directories on their ways, and everything else is as it was. -/
structure SavedAll (t : FileTree) (outputs : List (Path × String)) (t' : FileTree) : Prop where
  home : t'.home = t.home
  way : ∀ output ∈ outputs, ∀ q ∈ t.way output.1, t'.find? q = some .directory
  file : ∀ before output after, outputs = before ++ output :: after →
    (∀ later ∈ after, t.resolve later.1 ≠ t.resolve output.1) →
      t'.find? (t.resolve output.1) = some (.file output.2.toUTF8)
  elsewhere : ∀ l, (∀ output ∈ outputs, l ≠ t.resolve output.1 ∧ l ∉ t.way output.1) →
    t'.find? l = t.find? l

theorem savedAll_nil (t : FileTree) : t.SavedAll [] t where
  home := rfl
  way := fun _ hmem => absurd hmem List.not_mem_nil
  file := fun before output after h => absurd h.symm (by simp)
  elsewhere := fun _ _ => rfl

/-- What texts change that are saved in a row. -/
theorem savedAll_of_saveAll {t t' : FileTree} {outputs : List (Path × String)}
    (h : t.saveAll outputs = (t', .ok ())) : t.SavedAll outputs t' := by
  have hclear := ((saveAll_eq_ok_iff t outputs).1 ⟨t', h⟩).2
  induction outputs generalizing t with
  | nil =>
      rw [saveAll, Prod.mk.injEq] at h
      exact h.1 ▸ savedAll_nil t
  | cons first outputs ih =>
      rcases saveAll_cons_eq_ok.1 h with ⟨t₁, hsave, hrest⟩
      rcases saved_of_save hsave with ⟨hfirst, hsaved⟩
      have hlater := ih hrest ((saveAll_eq_ok_iff t₁ outputs).1 ⟨t', hrest⟩).2
      have hresolve := resolve_congr hsaved.home
      have hway := way_congr hsaved.home
      rw [List.map_cons, clear_cons_iff, List.forall_mem_map] at hclear
      rcases hclear with ⟨-, hcross, -⟩
      -- What is not touched again is as the first text left it.
      have hkept : ∀ l, (∀ output ∈ outputs, l ≠ t.resolve output.1 ∧ l ∉ t.way output.1) →
          t'.find? l = t₁.find? l := by
        intro l hl
        refine hlater.elsewhere l fun output hmem => ?_
        rw [hresolve, hway]
        exact hl output hmem
      refine ⟨hlater.home.trans hsaved.home, ?_, ?_, ?_⟩
      · intro output hmem q hq
        by_cases hagain : ∃ later ∈ outputs, q ∈ t.way later.1
        · rcases hagain with ⟨later, hmem', hq'⟩
          exact hlater.way later hmem' q (by rwa [hway])
        · rw [not_exists] at hagain
          rcases List.mem_cons.1 hmem with rfl | hmem
          · rw [hkept q fun later hmem' =>
              ⟨fun heq => (hcross later hmem').2 (heq ▸ hq), fun hq' => hagain later ⟨hmem', hq'⟩⟩]
            exact hsaved.way q hq
          · exact absurd ⟨hmem, hq⟩ (hagain output)
      · intro before output after hsplit hlast
        cases before with
        | nil =>
            rw [List.nil_append, List.cons.injEq] at hsplit
            rcases hsplit with ⟨rfl, rfl⟩
            rw [hkept _ fun later hmem => ⟨(hlast later hmem).symm, (hcross later hmem).1⟩]
            exact hsaved.file
        | cons other before =>
            rw [List.cons_append, List.cons.injEq] at hsplit
            have hfile := hlater.file before output after hsplit.2 fun later hmem => by
              rw [hresolve, hresolve]
              exact hlast later hmem
            rwa [hresolve] at hfile
      · intro l hl
        rw [List.forall_mem_cons] at hl
        rw [hkept l hl.2, hsaved.elsewhere l hl.1.1 hl.1.2]

/-- A tree in which texts were written, and nothing else was done: each place that they go to
    has a file with the last of them, no other file is new, changed or gone, and what else is
    new are directories on the way. -/
structure Wrote (t : FileTree) (outputs : List (Path × String)) (t' : FileTree) : Prop where
  file : ∀ before output after, outputs = before ++ output :: after →
    (∀ later ∈ after, t.resolve later.1 ≠ t.resolve output.1) →
      t'.find? (t.resolve output.1) = some (.file output.2.toUTF8)
  others : ∀ l, (∀ output ∈ outputs, l ≠ t.resolve output.1) →
    ∀ content, t'.find? l = some (.file content) ↔ t.find? l = some (.file content)
  made : ∀ l, t'.find? l ≠ t.find? l → (∃ output ∈ outputs, l = t.resolve output.1) ∨
    (∃ output ∈ outputs, l ∈ t.way output.1) ∧ t.find? l = none ∧
      t'.find? l = some .directory

theorem wrote_of_saveAll {t t' : FileTree} {outputs : List (Path × String)}
    (h : t.saveAll outputs = (t', .ok ())) : t.Wrote outputs t' := by
  have hsaved := savedAll_of_saveAll h
  have hwritable := ((saveAll_eq_ok_iff t outputs).1 ⟨t', h⟩).1
  rw [List.forall_mem_map] at hwritable
  -- On the way to a text there was no file, and there is none now.
  have hway : ∀ l, (∃ output ∈ outputs, l ∈ t.way output.1) →
      t.Passable l ∧ t'.find? l = some .directory := by
    rintro l ⟨output, hmem, hl⟩
    exact ⟨(hwritable output hmem).way l hl, hsaved.way output hmem l hl⟩
  have hkept : ∀ l, (∀ output ∈ outputs, l ≠ t.resolve output.1) →
      (¬ ∃ output ∈ outputs, l ∈ t.way output.1) → t'.find? l = t.find? l := by
    intro l hplace hout
    exact hsaved.elsewhere l fun output hmem =>
      ⟨hplace output hmem, fun hl => hout ⟨output, hmem, hl⟩⟩
  refine ⟨hsaved.file, fun l hplace content => ?_, fun l hnew => ?_⟩
  · by_cases hout : ∃ output ∈ outputs, l ∈ t.way output.1
    · rcases hway l hout with ⟨hpass, hdirectory⟩
      refine iff_of_false (fun hfile => ?_) (hpass content)
      rw [hdirectory] at hfile
      simp only [Option.some.injEq, reduceCtorEq] at hfile
    · rw [hkept l hplace hout]
  · by_cases hplace : ∃ output ∈ outputs, l = t.resolve output.1
    · exact .inl hplace
    · have hplaces : ∀ output ∈ outputs, l ≠ t.resolve output.1 :=
        fun output hmem heq => hplace ⟨output, hmem, heq⟩
      by_cases hout : ∃ output ∈ outputs, l ∈ t.way output.1
      · rcases hway l hout with ⟨hpass, hdirectory⟩
        refine .inr ⟨hout, ?_, hdirectory⟩
        cases hfind : t.find? l with
        | none => rfl
        | some found =>
            cases found with
            | directory => exact absurd (hdirectory.trans hfind.symm) hnew
            | file content => exact absurd hfind (hpass content)
      · exact absurd (hkept l hplaces hout) hnew

end FileTree

end EntryCoverage
