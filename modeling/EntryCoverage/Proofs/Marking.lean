import EntryCoverage.Proofs.Origins

/-!
# Marks That Are Written

Reading what was written above a statement.

A mark is written as a text and read as a pattern: blanks may stand between its words, the file
does not begin with a blank, and blanks behind it are dropped. So not every text that is written
is read. What follows the sign may be empty or begin with a blank (`CanName` says it does not), and
then the line is a comment like any other, and what was read before is read again. Otherwise
the file is read without the blanks at its end, which is the whole text if it is `Bare`.

A mark goes above all lines that a statement has. Reading takes the first mark, so the one
written last is read, unless it names nothing, whatever stack of marks and comments it was put
on (`markOf?_foldlM_markOrigin`).

## Main definitions

* `HasLines`: A tree has lines of its own above it, as statements do.
* `FitsLine`: A text has no line ends.
* `CanName`, `Bare`: What is read of a text.
* `ReadsBack`: Marks above a statement are read as they were written.

## Theorems

* `originOf?_marker`: What is read of a mark that was written.
* `markOf?_foldlM_markOrigin`: Of several marks the last one counts that names a file.
* `markOrigin_reads_back`: This is so for all statements of all files.
-/

namespace EntryCoverage

open Source

/-! ### Blanks at the end -/

namespace Text

/-- Nothing is dropped from a text exactly if it does not end in a blank. -/
theorem stripRight_eq_self_iff {c : Char} {cs : List Char} (hc : isBlank c = false) :
    stripRight (c :: cs) = c :: cs ↔ (c :: cs).getLast?.any (!isBlank ·) = true := by
  rw [stripRight_eq_iff hc]
  exact and_iff_right ⟨[], rfl, (List.append_nil _).symm⟩

end Text

namespace Provenance

/-! ### One mark -/

/-- A tree has lines of its own above it: it begins with them. -/
def HasLines (t : Tree) : Prop := ∃ kind lines rest, t = .node kind (.node .leading lines :: rest)

/-- A text has no line ends. -/
def FitsLine (origin : String) : Prop := '\n' ∉ origin.toList ∧ '\r' ∉ origin.toList

/-- A text does not begin with a blank, and is not empty. -/
def CanName (origin : String) : Prop := origin.toList.head?.any (!Text.isBlank ·) = true

instance : DecidablePred CanName := fun origin =>
  inferInstanceAs (Decidable (origin.toList.head?.any (!Text.isBlank ·) = true))

/-- A text without the blanks at its end. -/
def named (origin : String) : String := String.ofList (Text.stripRight origin.toList)

/-- A text has no blanks at its ends, and is not empty. -/
def Bare (origin : String) : Prop :=
  CanName origin ∧ origin.toList.getLast?.any (!Text.isBlank ·) = true

theorem fitsComment_iff (origin : String) : fitsComment origin = true ↔ FitsLine origin := by
  rw [fitsComment, List.all_eq_true, FitsLine]
  constructor
  · intro h
    refine ⟨fun hin => ?_, fun hin => ?_⟩ <;>
      exact absurd (h _ hin) (by decide)
  · rintro ⟨hfeed, hreturn⟩ c hc
    rw [Bool.and_eq_true, bne_iff_ne, bne_iff_ne]
    exact ⟨fun h => hfeed (h ▸ hc), fun h => hreturn (h ▸ hc)⟩

/-- A text that can name a file begins with a character that is no blank. -/
theorem CanName.exists_cons {origin : String} (h : CanName origin) :
    ∃ c cs, origin.toList = c :: cs ∧ Text.isBlank c = false := by
  unfold CanName at h
  cases horigin : origin.toList with
  | nil =>
      rw [horigin] at h
      exact absurd h Bool.false_ne_true
  | cons c cs =>
      rw [horigin, List.head?_cons, Option.any_some, Bool.not_eq_true'] at h
      exact ⟨c, cs, rfl, h⟩

/-- What is read of a text that can name a file is the text exactly if it is bare. -/
theorem CanName.named_eq_iff {origin : String} (h : CanName origin) :
    named origin = origin ↔ Bare origin := by
  rcases h.exists_cons with ⟨c, cs, horigin, hc⟩
  rw [Bare, and_iff_right h, named, horigin, ← Text.stripRight_eq_self_iff hc, ← horigin]
  constructor
  · intro heq
    rw [← String.toList_ofList (l := Text.stripRight origin.toList), heq]
  · intro heq
    rw [heq, String.ofList_toList]

/-- The sign of a mark, word by word. -/
theorem toList_marker : marker.toList = ['#'] ++ (' ' :: ("prodcov:".toList ++
    (' ' :: "origin=".toList))) := rfl

/-- What is read of a mark that was written: the text behind the sign, without blanks at its
    end, if it can name a file. -/
theorem originOf?_marker (origin : String) :
    originOf? (marker ++ origin) = if CanName origin then some (named origin) else none := by
  -- The two blanks in the sign are skipped, and nothing else.
  have hskip : ∀ (c : Char) (cs : List Char), Text.isBlank c = false →
      (' ' :: (c :: cs)).dropWhile Text.isBlank = c :: cs := fun c cs hc => by
    rw [List.dropWhile_cons_of_pos (by decide),
      List.dropWhile_cons_of_neg (by rw [hc]; exact Bool.false_ne_true)]
  have hword :
      (' ' :: ("prodcov:".toList ++ ((' ' :: "origin=".toList) ++ origin.toList))).dropWhile
        Text.isBlank = "prodcov:".toList ++ ((' ' :: "origin=".toList) ++ origin.toList) :=
    hskip 'p' _ (by decide)
  have hsign : ((' ' :: "origin=".toList) ++ origin.toList).dropWhile Text.isBlank =
      "origin=".toList ++ origin.toList := hskip 'o' _ (by decide)
  rw [originOf?, String.toList_append, toList_marker, List.append_assoc, Text.after?_append,
    List.cons_append, List.append_assoc]
  simp only [Option.bind_eq_bind, Option.bind_some, hword, Text.after?_append, hsign]
  by_cases hname : CanName origin
  · rw [if_pos hname, named]
    rcases hname.exists_cons with ⟨c, cs, horigin, hc⟩
    simp only [horigin, hc, Bool.false_eq_true, if_false]
  · -- Behind the sign is nothing, or a blank, which the sign must not be followed by.
    rw [if_neg hname]
    split
    · rfl
    · rename_i c cs horigin
      rw [CanName, horigin, List.head?_cons, Option.any_some, Bool.not_eq_true',
        Bool.not_eq_false] at hname
      rw [if_pos hname]

/-- What is read above a statement with one more mark. -/
theorem markOf?_markOrigin {s : Tree} (hs : HasLines s) {origin : String}
    (hfits : FitsLine origin) : ∃ t, markOrigin s origin = some t ∧ HasLines t ∧
      t.markOf? = if CanName origin then some (named origin) else s.markOf? := by
  rcases hs with ⟨kind, lines, rest, rfl⟩
  have hfits' : ¬ (!fitsComment origin) = true := by
    rw [(fitsComment_iff origin).2 hfits]
    exact Bool.false_ne_true
  -- The mark goes above all lines, where it is the first that reading looks at.
  refine ⟨.node kind (.node .leading (markLine origin :: lines) :: rest), ?_, ⟨_, _, _, rfl⟩, ?_⟩
  · rw [markOrigin, if_neg hfits']
  · have hline : (commentOf? (markLine origin)).bind originOf? = originOf? (marker ++ origin) := rfl
    rw [Tree.markOf?, readOrigin?, linesAbove, List.findSome?_cons, hline, originOf?_marker]
    by_cases hname : CanName origin
    · -- The new mark is read.
      rw [if_pos hname, if_pos hname]
    · -- It names nothing, so reading goes on below it.
      rw [if_neg hname, if_neg hname]
      rfl

/-- What was written is read exactly if it is bare, whatever was there before. -/
theorem markOf?_eq_some_self_iff {s t : Tree} {origin : String}
    (ht : t.markOf? = if CanName origin then some (named origin) else s.markOf?) :
    t.markOf? = some origin ↔ Bare origin := by
  rw [ht]
  split
  · rename_i hname
    rw [Option.some.injEq, hname.named_eq_iff]
  · -- What is read elsewhere can name a file, too.
    rename_i hname
    refine iff_of_false (fun hmark => hname ?_) fun hbare => hname hbare.1
    rcases (Tree.markOf?_eq_some_iff s origin).1 hmark with ⟨kind, ts, -, -, line, -, -, hline, -⟩
    rcases hline with ⟨comment, -, -, hhead, -⟩
    exact hhead

/-! ### Several marks -/

/-- Of several marks, written one after the other, the last one counts that names a file, and
    what was there before if none does. -/
theorem markOf?_foldlM_markOrigin (origins : List String) {s : Tree} (hs : HasLines s)
    (hfits : ∀ origin ∈ origins, FitsLine origin) :
    ∃ t, origins.foldlM markOrigin s = some t ∧ HasLines t ∧
      t.markOf? = ((origins.filter CanName).getLast?.map named).or s.markOf? := by
  induction origins generalizing s with
  | nil => exact ⟨s, rfl, hs, rfl⟩
  | cons origin origins ih =>
      rw [List.forall_mem_cons] at hfits
      rcases markOf?_markOrigin hs hfits.1 with ⟨t, ht, hlines, hmark⟩
      rcases ih hlines hfits.2 with ⟨u, hu, hlines', hmark'⟩
      refine ⟨u, ?_, hlines', ?_⟩
      · rw [List.foldlM_cons, ht]
        exact hu
      · -- What this one names counts only if no later one names anything.
        rw [hmark', hmark, List.filter_cons]
        by_cases hname : CanName origin
        · rw [if_pos hname, if_pos (decide_eq_true hname)]
          cases hlast : (origins.filter CanName).getLast? with
          | none =>
              rw [List.getLast?_eq_none_iff] at hlast
              rw [hlast]
              rfl
          | some last =>
              rw [List.getLast?_cons, hlast]
              rfl
        · rw [if_neg hname, if_neg (by rwa [decide_eq_true_eq])]

/-- Marks above a statement are read as they were written. -/
structure ReadsBack (s : Tree) : Prop where
  /-- One more mark is read without the blanks at its end; if it is empty or begins with a
      blank, what was read before is read. -/
  once : ∀ origin : String, FitsLine origin → ∃ t : Tree, markOrigin s origin = some t ∧
    t.markOf? = (if CanName origin then some (named origin) else s.markOf?) ∧
      (t.markOf? = some origin ↔ Bare origin)
  /-- The same for several marks, of which the last one counts that names a file. -/
  several : ∀ origins : List String, (∀ origin ∈ origins, FitsLine origin) →
    ∃ t : Tree, origins.foldlM markOrigin s = some t ∧
      t.markOf? = ((origins.filter CanName).getLast?.map named).or s.markOf?
  /-- If all of them are bare, the last one is read. -/
  last : ∀ origins : List String, origins ≠ [] →
    (∀ origin ∈ origins, FitsLine origin ∧ Bare origin) →
      ∃ t : Tree, origins.foldlM markOrigin s = some t ∧ t.markOf? = origins.getLast?

/-- Marks above a statement are read as they were written, whatever stands above it. The
    statements of all files are meant, and whatever else has lines above it. -/
theorem markOrigin_reads_back :
    (∀ text m w kind ts, Module.parse? text = some m → m.tree.at? w = some (.node kind ts) →
      kind.isStatement = true → HasLines (.node kind ts)) ∧
    ∀ s, HasLines s → ReadsBack s := by
  refine ⟨?_, fun s hs => ⟨?_, ?_, ?_⟩⟩
  · intro text m w kind ts hparse hat hstatement
    rcases (parse?_placed hparse).at? hat hstatement with ⟨-, lines, rest, rfl, -, -⟩
    exact ⟨kind, lines, rest, rfl⟩
  · intro origin hfits
    rcases markOf?_markOrigin hs hfits with ⟨t, ht, -, hmark⟩
    exact ⟨t, ht, hmark, markOf?_eq_some_self_iff hmark⟩
  · intro origins hfits
    rcases markOf?_foldlM_markOrigin origins hs hfits with ⟨t, ht, -, hmark⟩
    exact ⟨t, ht, hmark⟩
  · intro origins hne horigins
    rcases markOf?_foldlM_markOrigin origins hs (fun o ho => (horigins o ho).1) with
      ⟨t, ht, -, hmark⟩
    refine ⟨t, ht, ?_⟩
    -- All of them name a file, and what is read of the last one is all of it.
    have hall : origins.filter CanName = origins :=
      List.filter_eq_self.2 fun o ho => decide_eq_true (horigins o ho).2.1
    rw [hmark, hall, List.getLast?_eq_some_getLast hne, Option.map_some, Option.some_or]
    have hlast := (horigins _ (List.getLast_mem hne)).2
    rw [hlast.1.named_eq_iff.2 hlast]

end Provenance

end EntryCoverage
