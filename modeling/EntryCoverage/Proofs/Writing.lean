import EntryCoverage.Proofs.Files

/-!
# What Saving Changes

What a tree is after texts were saved in it.

Saving a text makes the directories on the way to its file, where nothing was, and puts the
file at the place that its path leads to. Nothing else changes, and what was a directory
still is one. So paths lead where they led before, and what is known of one text is carried
on to texts that are saved one after the other (`writtenAt_saveAll`).

All texts that go to one place go into one file, which holds the last of them. So none of
the texts is lost exactly if those of one place are the same text (`lookup_saveAll_iff`).

## Main definitions

* `WrittenAt`: A tree in which files were written at some places.
* `Reached`: The places that the paths of texts lead to.

## Theorems

* `WrittenAt.locate`: A path leads where it led before.
* `save_writes`: What one text changes.
* `exists_saved`: If not all texts can be saved, those before the first one that cannot are.
* `writtenAt_saveAll`: What texts change that are saved one after the other.
* `lookup_saveAll`: What is found at the place of a text in the end.
* `lookup_saveAll_iff`: When none of the texts is lost.
-/

namespace EntryCoverage

/-- Steps in a row succeed if the first one does, and the others from what it gives. -/
theorem exists_of_bind_eq_ok {ε α β : Type} {x : Except ε α} {f : α → Except ε β} {b : β}
    (h : (x >>= f) = .ok b) : ∃ a, x = .ok a ∧ f a = .ok b := by
  cases x with
  | error e => simp only [bind, Except.bind, reduceCtorEq] at h
  | ok a => exact ⟨a, rfl, h⟩

namespace FileTree

/-- A tree in which files were written at some places. At all others it has what it had,
    but for directories that were made where nothing was. -/
structure WrittenAt (places : Location → Prop) (t t' : FileTree) : Prop where
  home : t'.home = t.home
  directories : ∀ l, t.find? l = some .directory → t'.find? l = some .directory
  elsewhere : ∀ l, ¬ places l →
    t'.find? l = t.find? l ∨ t.find? l = none ∧ t'.find? l = some .directory

namespace WrittenAt

variable {places places' : Location → Prop} {t t' t'' : FileTree}

theorem refl (places : Location → Prop) (t : FileTree) : WrittenAt places t t :=
  ⟨rfl, fun _ h => h, fun _ _ => .inl rfl⟩

theorem mono (h : WrittenAt places t t') (hle : ∀ l, places l → places' l) :
    WrittenAt places' t t' :=
  ⟨h.home, h.directories, fun l hl => h.elsewhere l fun hc => hl (hle l hc)⟩

theorem trans (h : WrittenAt places t t') (h' : WrittenAt places t' t'') :
    WrittenAt places t t'' where
  home := h'.home.trans h.home
  directories := fun l hl => h'.directories l (h.directories l hl)
  elsewhere := by
    intro l hl
    rcases h'.elsewhere l hl with hsame' | ⟨hnone', hmade'⟩
    · rw [hsame']
      exact h.elsewhere l hl
    · rcases h.elsewhere l hl with hsame | ⟨-, hmade⟩
      · exact .inr ⟨hsame ▸ hnone', hmade'⟩
      · rw [hmade] at hnone'
        simp only [reduceCtorEq] at hnone'

/-- Every name on a way is that of a directory, and directories stay. -/
theorem walk (h : WrittenAt places t t') (l m : Location) (names : List String)
    (hwalk : t.walk l names = .ok m) : t'.walk l names = .ok m := by
  induction names generalizing l with
  | nil => exact hwalk
  | cons name names ih =>
      unfold FileTree.walk at hwalk ⊢
      cases hfind : t.find? l with
      | none => simp only [hfind, reduceCtorEq] at hwalk
      | some found =>
          cases found with
          | file content => simp only [hfind, reduceCtorEq] at hwalk
          | directory =>
              simp only [hfind] at hwalk
              simp only [h.directories l hfind]
              exact ih _ hwalk

/-- A path leads where it led before. -/
theorem locate (h : WrittenAt places t t') {p : Path} {l : Location}
    (hlocate : t.locate p = .ok l) : t'.locate p = .ok l := by
  have hstart : t'.start p = t.start p := by
    rw [start, start, h.home]
  rw [FileTree.locate, hstart]
  exact h.walk _ _ _ hlocate

/-- A file is at a place where none was written only if it was there before. -/
theorem find?_file (h : WrittenAt places t t') {l : Location} (hl : ¬ places l)
    {content : ByteArray} (hfile : t.find? l = some (.file content)) :
    t'.find? l = some (.file content) := by
  rcases h.elsewhere l hl with hsame | ⟨hnone, -⟩
  · rw [hsame, hfile]
  · rw [hfile] at hnone
    simp only [reduceCtorEq] at hnone

end WrittenAt

/-! ### Directories -/

theorem writtenAt_makeDirectory {t t' : FileTree} {p : Path} (h : t.makeDirectory p = .ok t') :
    WrittenAt (fun _ => False) t t' := by
  rcases exists_of_bind_eq_ok h with ⟨l, -, h⟩
  cases hfind : t.find? l with
  | some found => simp only [hfind, reduceCtorEq] at h
  | none =>
      simp only [hfind, Except.ok.injEq] at h
      have hne : l ≠ [] := by
        rintro rfl
        simp only [find?, if_true, reduceCtorEq] at hfind
      have hother : ∀ m, m ≠ l → (t.put l .directory).find? m = t.find? m :=
        fun m hm => find?_put_of_ne t hm .directory
      subst h
      refine ⟨rfl, fun m hm => ?_, fun m _ => ?_⟩
      · have hml : m ≠ l := by
          rintro rfl
          simp only [hfind, reduceCtorEq] at hm
        rw [hother m hml, hm]
      · by_cases hml : m = l
        · exact .inr ⟨hml ▸ hfind, hml ▸ find?_put t hne .directory⟩
        · exact .inl (hother m hml)

theorem writtenAt_ensureDirectory {t t' : FileTree} {p : Path}
    (h : t.ensureDirectory p = .ok t') : WrittenAt (fun _ => False) t t' := by
  unfold ensureDirectory at h
  cases hmade : t.makeDirectory p with
  | ok made =>
      simp only [hmade, Except.ok.injEq] at h
      exact h ▸ writtenAt_makeDirectory hmade
  | error e =>
      simp only [hmade] at h
      split at h
      · exact Except.ok.inj h ▸ .refl _ t
      · simp only [reduceCtorEq] at h

/-- The directories on a way are made one in the other, the outer ones first. -/
theorem writtenAt_ensureWay {t t' : FileTree} (slashes : Nat) (names : List String)
    (h : t.ensureWay slashes names = .ok t') : WrittenAt (fun _ => False) t t' := by
  induction names generalizing t t' with
  | nil => exact writtenAt_ensureDirectory h
  | cons name outer ih =>
      unfold ensureWay at h
      dsimp only at h
      split at h
      · rcases exists_of_bind_eq_ok h with ⟨t₁, houter, hinner⟩
        exact (ih houter).trans (writtenAt_ensureDirectory hinner)
      · exact writtenAt_ensureDirectory h

/-! ### Texts -/

/-- A text is put at the place that its path leads to, and nothing else changes. -/
theorem writeText_writes {t t' : FileTree} {p : Path} {text : String}
    (h : t.writeText p text = .ok t') :
    ∃ l, t'.locate p = .ok l ∧ t'.find? l = some (.file text.toUTF8) ∧
      WrittenAt (· = l) t t' := by
  rcases exists_of_bind_eq_ok h with ⟨l, hlocate, h⟩
  split at h
  · simp only [reduceCtorEq] at h
  · rename_i hdirectory
    have hne : l ≠ [] := by
      rintro rfl
      exact hdirectory rfl
    have hwritten : WrittenAt (· = l) t (t.put l (.file text.toUTF8)) := by
      refine ⟨rfl, fun m hm => ?_, fun m hm => .inl (find?_put_of_ne t hm _)⟩
      have hml : m ≠ l := fun hc => hdirectory (hc ▸ hm)
      rw [find?_put_of_ne t hml, hm]
    rw [← Except.ok.inj h]
    exact ⟨l, hwritten.locate hlocate, find?_put t hne _, hwritten⟩

/-- What one text changes: the file at the place that its path leads to. -/
theorem save_writes {t t' : FileTree} {p : Path} {text : String} (h : t.save p text = .ok t') :
    ∃ l, t'.locate p = .ok l ∧ t'.find? l = some (.file text.toUTF8) ∧
      WrittenAt (· = l) t t' := by
  rcases exists_of_bind_eq_ok h with ⟨t₁, hways, hwrite⟩
  rcases writeText_writes hwrite with ⟨l, hlocate, hfind, hwritten⟩
  have hmade : WrittenAt (fun _ => False) t t₁ := writtenAt_ensureWay _ _ hways
  exact ⟨l, hlocate, hfind, (hmade.mono fun _ hc => hc.elim).trans hwritten⟩

/-! ### Texts one after the other -/

theorem saveAll_cons_eq_ok {t t' : FileTree} {output : Path × String}
    {outputs : List (Path × String)} :
    t.saveAll (output :: outputs) = (t', .ok ()) ↔
      ∃ t₁, t.save output.1 output.2 = .ok t₁ ∧ t₁.saveAll outputs = (t', .ok ()) := by
  rw [saveAll]
  cases t.save output.1 output.2 with
  | error e => simp only [Prod.mk.injEq, reduceCtorEq, and_false, false_and, exists_false]
  | ok t₁ => simp only [Except.ok.injEq, exists_eq_left']

/-- If not all texts can be saved, those before the first one that cannot are. -/
theorem exists_saved {t t' : FileTree} {outputs : List (Path × String)}
    {answer : Except FileError Unit} (h : t.saveAll outputs = (t', answer)) :
    ∃ saved left, outputs = saved ++ left ∧ t.saveAll saved = (t', .ok ()) := by
  induction outputs generalizing t with
  | nil =>
      rw [saveAll, Prod.mk.injEq] at h
      exact ⟨[], [], rfl, by rw [saveAll, h.1]⟩
  | cons output outputs ih =>
      rw [saveAll] at h
      cases hsave : t.save output.1 output.2 with
      | error e =>
          simp only [hsave, Prod.mk.injEq] at h
          exact ⟨[], output :: outputs, rfl, by rw [saveAll, h.1]⟩
      | ok t₁ =>
          simp only [hsave] at h
          rcases ih h with ⟨saved, left, rfl, hsaved⟩
          exact ⟨output :: saved, left, rfl, saveAll_cons_eq_ok.2 ⟨t₁, hsave, hsaved⟩⟩

/-- The places that the paths of texts lead to. -/
def Reached (t : FileTree) (outputs : List (Path × String)) (l : Location) : Prop :=
  ∃ output ∈ outputs, t.locate output.1 = .ok l

/-- What texts change that are saved one after the other: the files at the places that their
    paths lead to. -/
theorem writtenAt_saveAll {t t' : FileTree} {outputs : List (Path × String)}
    (h : t.saveAll outputs = (t', .ok ())) :
    (∀ output ∈ outputs, ∃ l, t'.locate output.1 = .ok l) ∧
      WrittenAt (t'.Reached outputs) t t' := by
  induction outputs generalizing t with
  | nil =>
      rw [saveAll, Prod.mk.injEq] at h
      exact ⟨fun _ hmem => absurd hmem List.not_mem_nil, h.1 ▸ .refl _ t⟩
  | cons output outputs ih =>
      rcases saveAll_cons_eq_ok.1 h with ⟨t₁, hsave, hrest⟩
      rcases save_writes hsave with ⟨l, hlocate, -, hfirst⟩
      rcases ih hrest with ⟨hlead, hlater⟩
      -- The first path leads to the same place in the end.
      have hend : t'.locate output.1 = .ok l := hlater.locate hlocate
      constructor
      · intro output' hmem
        rcases List.mem_cons.1 hmem with rfl | hmem
        · exact ⟨l, hend⟩
        · exact hlead output' hmem
      · refine (hfirst.mono fun m hm => ?_).trans (hlater.mono fun m hm => ?_)
        · exact ⟨output, List.mem_cons_self, hm ▸ hend⟩
        · rcases hm with ⟨output', hmem, hm⟩
          exact ⟨output', List.mem_cons_of_mem _ hmem, hm⟩

theorem lookup_eq_ok_iff {t : FileTree} {p : Path} {e : Entry} :
    t.lookup p = .ok e ↔ ∃ l, t.locate p = .ok l ∧ t.find? l = some e := by
  unfold lookup
  cases t.locate p with
  | error reason => simp only [bind, Except.bind, reduceCtorEq, false_and, exists_false]
  | ok l =>
      simp only [bind, Except.bind, Except.ok.injEq, exists_eq_left']
      cases t.find? l with
      | none => simp only [reduceCtorEq]
      | some found => simp only [Except.ok.injEq, Option.some.injEq]

/-- At the place of a text, the last text that goes there is found in the end. -/
theorem lookup_saveAll {t t' : FileTree} {outputs : List (Path × String)}
    (h : t.saveAll outputs = (t', .ok ())) {output : Path × String} (hmem : output ∈ outputs) :
    ∃ last ∈ outputs, t'.locate last.1 = t'.locate output.1 ∧
      t'.lookup output.1 = .ok (.file last.2.toUTF8) := by
  induction outputs generalizing t output with
  | nil => exact absurd hmem List.not_mem_nil
  | cons first outputs ih =>
      rcases saveAll_cons_eq_ok.1 h with ⟨t₁, hsave, hrest⟩
      have hlater : ∀ output ∈ outputs, ∃ last ∈ first :: outputs,
          t'.locate last.1 = t'.locate output.1 ∧
            t'.lookup output.1 = .ok (.file last.2.toUTF8) := by
        intro output hmem
        rcases ih hrest hmem with ⟨last, hlast, hfound⟩
        exact ⟨last, List.mem_cons_of_mem _ hlast, hfound⟩
      rcases List.mem_cons.1 hmem with rfl | hmem
      · rcases save_writes hsave with ⟨l, hlocate, hfind, -⟩
        have hwritten := (writtenAt_saveAll hrest).2
        have hend := hwritten.locate hlocate
        by_cases hreached : t'.Reached outputs l
        · -- A later text goes to the same place, and its last one is found there.
          rcases hreached with ⟨output', hmem', hlocate'⟩
          rcases hlater output' hmem' with ⟨last, hlast, hsame, hfound⟩
          refine ⟨last, hlast, by rw [hsame, hlocate', hend], ?_⟩
          rcases lookup_eq_ok_iff.1 hfound with ⟨m, hm, hentry⟩
          rw [hlocate', Except.ok.injEq] at hm
          exact lookup_eq_ok_iff.2 ⟨m, hm ▸ hend, hentry⟩
        · exact ⟨output, List.mem_cons_self, rfl,
            lookup_eq_ok_iff.2 ⟨l, hend, hwritten.find?_file hreached hfind⟩⟩
      · exact hlater output hmem

theorem toUTF8_injective {s s' : String} (h : s.toUTF8 = s'.toUTF8) : s = s' := by
  have hread : ∀ text : String, String.fromUTF8? text.toUTF8 = some text :=
    fun text => dif_pos text.isValidUTF8
  exact Option.some.inj (by rw [← hread s, h, hread s'])

/-- Of texts that nothing else is saved over, all are found at their places in the end exactly
    if those that go to one place are the same text. -/
theorem lookup_saveAll_iff {t t' : FileTree} {outputs chosen : List (Path × String)}
    (h : t.saveAll outputs = (t', .ok ())) (hchosen : ∀ output ∈ chosen, output ∈ outputs)
    (hover : ∀ output ∈ chosen, ∀ other ∈ outputs,
      t'.locate other.1 = t'.locate output.1 → other ∈ chosen) :
    (∀ output ∈ chosen, t'.lookup output.1 = .ok (.file output.2.toUTF8)) ↔
      ∀ output ∈ chosen, ∀ other ∈ chosen,
        t'.locate output.1 = t'.locate other.1 → output.2 = other.2 := by
  constructor
  · intro hall output hmem other hmem' hsame
    rcases lookup_eq_ok_iff.1 (hall output hmem) with ⟨l, hl, hfound⟩
    rcases lookup_eq_ok_iff.1 (hall other hmem') with ⟨l', hl', hfound'⟩
    rw [hsame, hl', Except.ok.injEq] at hl
    rw [← hl, hfound', Option.some.injEq, Entry.file.injEq] at hfound
    exact (toUTF8_injective hfound).symm
  · intro hsame output hmem
    rcases lookup_saveAll h (hchosen output hmem) with ⟨last, hlast, hplace, hfound⟩
    rw [hfound, hsame last (hover output hmem last hlast hplace) output hmem hplace]

end FileTree

end EntryCoverage
