import EntryCoverage.Proofs.Destinations
import Mathlib.Data.List.Nodup

/-!
# The Names of Units

Which names the files of a program get.

A file that is named on the command line is called by its path, as it is seen from the
directory where the command runs; the files of a directory are called by their paths from
there. Either way a name is the text of a path whose names can stand between slashes, so
that path is read back from it. The paths from a directory are plain. So roots and double
dots only come into names by paths to files on the command line.

## Main definitions

* `FileTree.Proper`: A tree whose places have names that files can have.
* `seenFrom`: A path as it is seen from the directory where the command runs.

## Theorems

* `collectAfter_ok`: The files that are found are those of the paths, under different names.
* `nodup_names`: No two files of a program have the same name.
* `exists_path_of_mem`: The path that a name is the text of.
* `text_ofText_of_mem`: A name is the text of the path that is read from it.
-/

namespace EntryCoverage

namespace Path

theorem namesAfter?_append (names more : List String) :
    namesAfter? names (names ++ more) = some more := by
  induction names with
  | nil => rfl
  | cons name names ih => rw [List.cons_append, namesAfter?, if_pos rfl, ih]

theorem eq_append_of_namesAfter? {names all more : List String}
    (h : namesAfter? names all = some more) : all = names ++ more := by
  induction names generalizing all with
  | nil => exact Option.some.inj h
  | cons name names ih =>
      cases all with
      | nil => simp only [namesAfter?, reduceCtorEq] at h
      | cons first all =>
          rw [namesAfter?] at h
          split at h
          · rename_i hname
            rw [ih h, hname, List.cons_append]
          · simp only [reduceCtorEq] at h

end Path

namespace FileTree

/-- The places of a tree have names that can stand between slashes and are no double dots. -/
def Proper (t : FileTree) : Prop :=
  ∀ e ∈ t.entries, ∀ name ∈ e.1, Path.IsPart name ∧ name ≠ ".."

instance (t : FileTree) : Decidable t.Proper :=
  inferInstanceAs (Decidable (∀ e ∈ t.entries, ∀ name ∈ e.1, Path.IsPart name ∧ name ≠ ".."))

/-- What is below a directory is reached by names of the tree. -/
theorem exists_of_mem_filesBelow {t : FileTree} (ht : t.Proper) {p file : Path}
    (h : file ∈ t.filesBelow p) : ∃ names, file = p.join ⟨0, names⟩ ∧
      ∀ name ∈ names, Path.IsPart name ∧ name ≠ ".." := by
  unfold filesBelow at h
  split at h
  · exact absurd h List.not_mem_nil
  · rename_i l _
    rcases List.mem_map.1 h with ⟨names, hnames, rfl⟩
    rw [List.mem_mergeSort, List.mem_filterMap] at hnames
    rcases hnames with ⟨e, he, hbelow⟩
    have hentry := Path.eq_append_of_namesAfter? (Option.filter_eq_some_iff.1 hbelow).1
    exact ⟨names, rfl, fun name hname => ht e he name (hentry ▸ List.mem_append_right _ hname)⟩

end FileTree

/-- A path as it is seen from the directory where the command runs. -/
def seenFrom (t : FileTree) (p : Path) : Path := (Path.relativeTo? ⟨1, t.home⟩ p).getD p

theorem proper_seenFrom (t : FileTree) {p : Path} (h : p.Proper) : (seenFrom t p).Proper := by
  unfold seenFrom Path.relativeTo?
  split
  · cases hafter : Path.namesAfter? t.home p.names with
    | none => exact h
    | some names =>
        have hnames := Path.eq_append_of_namesAfter? hafter
        exact ⟨Nat.zero_le 2, fun name hname =>
          h.parts name (hnames ▸ List.mem_append_right _ hname)⟩
  · exact h

/-! ### The names in a directory -/

/-- The files of a directory have the texts of plain paths for their names. -/
theorem exists_plain_of_mem {t : FileTree} (ht : t.Proper) {p : Path} {source : String × Path}
    (h : source ∈ directorySources t p) :
    ∃ q : Path, q.Proper ∧ q.Plain ∧ source.1 = q.text := by
  rcases List.mem_filterMap.1 h with ⟨file, hfile, hsource⟩
  split at hsource
  · rcases FileTree.exists_of_mem_filesBelow ht hfile with ⟨names, rfl, hnames⟩
    have hinner : Path.relativeTo? p (p.join ⟨0, names⟩) = some ⟨0, names⟩ := by
      rw [Path.join_of_relative rfl, Path.relativeTo?, if_pos rfl, Path.namesAfter?_append]
      rfl
    rw [hinner, Option.map_some, Option.some.injEq] at hsource
    refine ⟨⟨0, names⟩, ⟨Nat.zero_le 2, fun name hname => (hnames name hname).1⟩,
      ⟨rfl, fun hmem => (hnames _ hmem).2 rfl⟩, ?_⟩
    rw [← hsource]
  · simp only [reduceCtorEq] at hsource

/-! ### The names of a program -/

theorem addSources_ok {done more all : List (String × Path)}
    (h : addSources done more = .ok all) :
    all = done ++ more ∧ ((done.map (·.1)).Nodup → (all.map (·.1)).Nodup) := by
  induction more generalizing done with
  | nil =>
      rw [addSources, Except.ok.injEq] at h
      exact ⟨by rw [List.append_nil, h], fun hdone => h ▸ hdone⟩
  | cons source more ih =>
      rcases source with ⟨name, file⟩
      rw [addSources] at h
      split at h
      · simp only [reduceCtorEq] at h
      · rename_i hnone
        rcases ih h with ⟨hall, hnodup⟩
        refine ⟨by rw [hall, List.append_assoc, List.singleton_append], fun hdone => hnodup ?_⟩
        -- The name was looked for among those that are there.
        rw [List.map_append, List.map_singleton, ← List.concat_eq_append, List.nodup_concat]
        refine ⟨fun hmem => ?_, hdone⟩
        rcases List.mem_map.1 hmem with ⟨source, hsource, hname⟩
        exact List.find?_eq_none.1 hnone source hsource (beq_iff_eq.2 hname)

/-- The files that are found are those of the paths, and no two have one name. -/
theorem collectAfter_ok {t : FileTree} {done all : List (String × Path)} {paths : List Path}
    (h : collectAfter t done paths = .ok all) (hdone : (done.map (·.1)).Nodup) :
    (all.map (·.1)).Nodup ∧ ∀ source ∈ all, source ∈ done ∨
      ∃ p ∈ paths, ∃ found, sourcesAt t p = .ok found ∧ source ∈ found := by
  induction paths generalizing done with
  | nil =>
      rw [collectAfter, Except.ok.injEq] at h
      exact h ▸ ⟨hdone, fun _ hsource => .inl hsource⟩
  | cons p paths ih =>
      rw [collectAfter] at h
      cases hfound : sourcesAt t p with
      | error e => simp only [hfound, reduceCtorEq] at h
      | ok found =>
          simp only [hfound] at h
          cases hadd : addSources done found with
          | error e => simp only [hadd, reduceCtorEq] at h
          | ok done' =>
              simp only [hadd] at h
              rcases addSources_ok hadd with ⟨rfl, hnodup⟩
              rcases ih h (hnodup hdone) with ⟨hall, hfrom⟩
              refine ⟨hall, fun source hsource => ?_⟩
              rcases hfrom source hsource with hmem | ⟨q, hq, found', hfound', hmem⟩
              · rcases List.mem_append.1 hmem with hmem | hmem
                · exact .inl hmem
                · exact .inr ⟨p, List.mem_cons_self, found, hfound, hmem⟩
              · exact .inr ⟨q, List.mem_cons_of_mem _ hq, found', hfound', hmem⟩

section Program

variable {t : FileTree} {paths : List Path} {sources : List (String × Path)}
  (h : collectSources t paths = .ok sources)

include h

/-- No two files of a program have the same name. -/
theorem nodup_names : (sources.map (·.1)).Nodup :=
  (collectAfter_ok h List.nodup_nil).1

/-- A name is the text of a path that is read back from it. The path is plain, or it is that
    of a file on the command line. -/
theorem exists_path_of_mem (ht : t.Proper) (hpaths : ∀ p ∈ paths, p.Proper) {name : String}
    (hname : name ∈ sources.map (·.1)) :
    ∃ q : Path, q.Proper ∧ name = q.text ∧
      (q.Plain ∨ ∃ p ∈ paths, t.isFile p = true ∧ q = seenFrom t p) := by
  rcases List.mem_map.1 hname with ⟨source, hsource, rfl⟩
  rcases (collectAfter_ok h List.nodup_nil).2 source hsource with
    hmem | ⟨p, hp, found, hfound, hmem⟩
  · exact absurd hmem List.not_mem_nil
  · unfold sourcesAt at hfound
    split at hfound
    · rename_i hfile
      rw [← Except.ok.inj hfound, List.mem_singleton] at hmem
      exact ⟨seenFrom t p, proper_seenFrom t (hpaths p hp), by rw [hmem]; rfl,
        .inr ⟨p, hp, hfile, rfl⟩⟩
    · split at hfound
      · rw [← Except.ok.inj hfound] at hmem
        rcases exists_plain_of_mem ht hmem with ⟨q, hproper, hplain, htext⟩
        exact ⟨q, hproper, htext, .inl hplain⟩
      · simp only [reduceCtorEq] at hfound

theorem text_ofText_of_mem (ht : t.Proper) (hpaths : ∀ p ∈ paths, p.Proper) {name : String}
    (hname : name ∈ sources.map (·.1)) : (Path.ofText name).text = name := by
  rcases exists_path_of_mem h ht hpaths hname with ⟨q, hproper, rfl, -⟩
  rw [Path.ofText_text hproper]

end Program

/-- The files of a program keep their names when they are read. -/
theorem names_readSources {t : FileTree} {sources : List (String × Path)}
    {units : List SourceUnit} (h : readSources t sources = .ok units) :
    units.map (·.name) = sources.map (·.1) := by
  induction sources generalizing units with
  | nil =>
      rw [readSources, Except.ok.injEq] at h
      exact h ▸ rfl
  | cons source sources ih =>
      rcases source with ⟨name, file⟩
      rw [readSources] at h
      split at h
      · simp only [reduceCtorEq] at h
      · cases hrest : readSources t sources with
        | error e => simp only [hrest, Except.map, reduceCtorEq] at h
        | ok rest =>
            simp only [hrest, Except.map, Except.ok.injEq] at h
            rw [← h, List.map_cons, List.map_cons, ih hrest]

end EntryCoverage
