import EntryCoverage.Proofs.Reading
import EntryCoverage.Source.Lexer
import Mathlib.Data.List.TakeDrop

/-!
# Tokens Are Regular

What the grammar relies on and only the lexer can know: that nothing but blanks stands
before a semicolon, that no word is hidden in what stands before another one, and that no
dot is in a name.

Comments and line ends do stand before words, but only inside brackets, and no
semicolon is in a bracket. Outside of brackets a comment is followed by the end of its
line, so no word can come next. `Settled` is the invariant that says so, `Step.Regular`
what one step makes of it, and the two loops of the lexer, from line to line and from
word to word, keep it together (`lines_words_regular`).

## Main definitions

* `Settled`: No words were read since the last one, and outside of brackets only blanks.
* `Step.Regular`: A step keeps its promises.

## Theorems

* `step_regular`: Every step within a line keeps them.
* `tokens_regular`: All tokens of a text are regular.
-/

namespace EntryCoverage

namespace Source

namespace Lexer

open Lexeme

/-! ### Words -/

/-- A word that is no name is regular, unless it is a semicolon with more than blanks before
    it. -/
theorem word_regular {before : List Leaf} {sort : WordSort} (text : List Char)
    (hbefore : before.all Leaf.isTrivia = true) (hname : sort ≠ .name)
    (h : sort = .operator → text = [';'] → before.all Leaf.isBlank = true) :
    (word before sort text).Regular where
  trivia := hbefore
  semicolon hsort htext := by
    refine h hsort ?_
    rw [← String.toList_ofList (l := text), htext]
    rfl
  dotless hsort := absurd hsort hname

/-- What is no operator is no semicolon. -/
theorem word_regular_of_ne {before : List Leaf} (text : List Char) {sort : WordSort}
    (hbefore : before.all Leaf.isTrivia = true) (hname : sort ≠ .name) (h : sort ≠ .operator) :
    ∀ t ∈ [word before sort text], t.Regular :=
  List.forall_mem_singleton.2 (word_regular _ hbefore hname fun hsort => absurd hsort h)

/-- A name is made of letters and the like, and no dot is one. -/
theorem name_regular {before : List Leaf} {text : List Char}
    (hbefore : before.all Leaf.isTrivia = true) (h : Text.isName text = true) :
    ∀ t ∈ [word before .name text], t.Regular := by
  refine List.forall_mem_singleton.2 ⟨hbefore, WordSort.noConfusion, fun _ hdot => ?_⟩
  rw [String.toList_ofList] at hdot
  cases text with
  | nil => exact absurd hdot List.not_mem_nil
  | cons c cs =>
      rw [Text.isName, Bool.and_eq_true, List.all_eq_true] at h
      rcases List.mem_cons.1 hdot with rfl | hdot
      · exact absurd h.1 (by decide)
      · exact absurd (h.2 _ hdot) (by decide)

/-- Words with nothing before them are regular, if they are no names. -/
theorem stretch_regular (text mark : List Char) {sort : WordSort} (hname : sort ≠ .name) :
    ∀ t ∈ (if text.isEmpty then [] else [word [] .literalText text]) ++ [word [] sort mark],
      t.Regular := by
  intro t ht
  rcases List.mem_append.1 ht with ht | ht
  · split at ht
    · exact absurd ht List.not_mem_nil
    · rw [List.mem_singleton.1 ht]
      exact word_regular _ rfl WordSort.noConfusion fun _ _ => rfl
  · rw [List.mem_singleton.1 ht]
    exact word_regular _ rfl hname fun _ _ => rfl

/-! ### Steps -/

/-- No words were read since the last one, and outside of brackets only blanks, or the line
    ends here. -/
structure Settled (s : State) (before : List Leaf) (cs : List Char) : Prop where
  trivia : before.all Leaf.isTrivia = true
  blank : s.opened = [] → before.all Leaf.isBlank = true ∨ cs = [] ∨ (newline? cs).isSome = true

/-- Nothing was read yet. -/
theorem settled_nil (s : State) (cs : List Char) : Settled s [] cs := ⟨rfl, fun _ => .inl rfl⟩

/-- A step gives regular tokens, and after blanks and comments things are settled. -/
def Step.Regular (s : State) (before : List Leaf) : Step → Prop
  | .trivia leaves joined rest => Settled { s with joined } (before ++ leaves) rest
  | .words tokens _ _ => ∀ t ∈ tokens, t.Regular
  | .lineEnd _ _ => True

variable {usual : List Char} {s : State} {before : List Leaf} {cs : List Char} {taken : Step}

/-- A comment ends where its line does. -/
theorem newline_after_comment (cs : List Char) :
    (comment cs).2 = [] ∨ (newline? (comment cs).2).isSome = true := by
  rw [comment, List.span_eq_takeWhile_dropWhile]
  cases hrest : cs.dropWhile (!isNewline ·) with
  | nil => exact .inl rfl
  | cons c rest =>
      have hc : isNewline c = true := by
        have hnot := List.head_dropWhile_not (!isNewline ·) (l := cs) (by
          rw [hrest]
          exact List.cons_ne_nil _ _)
        simp only [hrest, List.head_cons, Bool.not_eq_false'] at hnot
        exact hnot
      -- A line end begins with a carriage return or a line feed.
      right
      rw [isNewline, Bool.or_eq_true, beq_iff_eq, beq_iff_eq] at hc
      rcases hc with rfl | rfl
      · rfl
      · cases rest with
        | nil => rfl
        | cons d rest =>
            by_cases hd : d = '\n'
            · rw [hd]
              rfl
            · rw [newline?]
              · rfl
              · exact fun _ h => hd (List.cons.inj h).1

theorem textStep_regular {l : Literal} {opened : List Opened}
    (h : textStep l opened cs = some taken) : taken.Regular s before := by
  simp only [textStep, Option.bind_eq_bind, Option.bind_eq_some_iff, Prod.exists] at h
  rcases h with ⟨text, rest, -, h⟩
  -- What ends the text of a literal is a quote or a brace.
  split at h
  · cases h
    exact stretch_regular _ _ WordSort.noConfusion
  · cases h
    exact stretch_regular _ _ WordSort.noConfusion
  · simp only [Option.bind_eq_some_iff, Prod.exists] at h
    rcases h with ⟨mark, rest', -, h⟩
    cases h
    exact stretch_regular _ _ WordSort.noConfusion
  · simp only [reduceCtorEq] at h

theorem stringStep_regular {opened : List Opened} {letters : List Char}
    (hbefore : before.all Leaf.isTrivia = true)
    (h : stringStep before opened letters cs = some taken) : taken.Regular s before := by
  simp only [stringStep, Option.bind_eq_bind, Option.bind_eq_some_iff, Prod.exists] at h
  rcases h with ⟨quotes, mark, rest, -, h⟩
  split at h
  · cases h
    exact word_regular_of_ne _ hbefore WordSort.noConfusion WordSort.noConfusion
  · split at h
    · simp only [Option.bind_eq_some_iff, Prod.exists] at h
      rcases h with ⟨text, rest', -, h⟩
      cases h
      exact word_regular_of_ne _ hbefore WordSort.noConfusion WordSort.noConfusion
    · simp only [reduceCtorEq] at h

/-- An operator is regular if only blanks stand before it outside of brackets, because
    a semicolon in brackets is none. -/
theorem operatorStep_regular {opened : List Opened}
    (htrivia : before.all Leaf.isTrivia = true)
    (hbefore : opened = [] → before.all Leaf.isBlank = true)
    (h : operatorStep before opened cs = some taken) : taken.Regular s before := by
  simp only [operatorStep, Option.bind_eq_bind, Option.bind_eq_some_iff, Prod.exists] at h
  rcases h with ⟨op, rest, -, h⟩
  have hother : ∀ text : List Char, text ≠ [';'] → ∀ t ∈ [word before .operator text], t.Regular :=
    fun text hne => List.forall_mem_singleton.2
      (word_regular _ htrivia WordSort.noConfusion fun _ htext => absurd htext hne)
  split at h
  all_goals cases h
  -- Seven brackets and the colon are written out, and none of them is a semicolon.
  iterate 8 exact hother _ (by decide)
  rename_i hsemicolon _
  by_cases hop : op = [';']
  · refine List.forall_mem_singleton.2 (word_regular _ htrivia WordSort.noConfusion
      fun _ _ => hbefore ?_)
    cases opened with
    | nil => rfl
    | cons o os => exact absurd rfl (hsemicolon o os hop)
  · exact hother op hop

theorem all_isTrivia_blankLeaf (text : List Char) : (blankLeaf text).all Leaf.isTrivia = true := by
  unfold blankLeaf
  split
  · rfl
  · rfl

theorem all_isBlank_blankLeaf (text : List Char) : (blankLeaf text).all Leaf.isBlank = true := by
  unfold blankLeaf
  split
  · rfl
  · rfl

/-- Where a character is that begins no line end, only blanks were read. -/
theorem Settled.all_isBlank {c : Char} {rest : List Char} (h : Settled s before (c :: rest))
    (hnewline : newline? (c :: rest) = none) (hopened : s.opened = []) :
    before.all Leaf.isBlank = true := by
  rcases h.blank hopened with hblank | hend | hline
  · exact hblank
  · exact absurd hend (List.cons_ne_nil _ _)
  · rw [hnewline] at hline
    exact absurd hline Bool.false_ne_true

theorem newline?_of_isSpace (c : Char) (rest : List Char) (h : isSpace c = true ∨ c = '\\') :
    newline? (c :: rest) = none := by
  -- Neither blanks nor backslashes begin a line end.
  have hc : c ≠ '\r' ∧ c ≠ '\n' := by
    rcases h with h | rfl
    · simp only [isSpace, Bool.or_eq_true, beq_iff_eq] at h
      rcases h with (rfl | rfl) | rfl <;> decide
    · decide
  unfold newline?
  split
  · rename_i heq
    exact absurd (List.cons.inj heq).1 hc.1
  · rename_i heq
    exact absurd (List.cons.inj heq).1 hc.1
  · rename_i heq
    exact absurd (List.cons.inj heq).1 hc.2
  · rfl

theorem wordStep_regular (hsettled : Settled s before cs)
    (h : wordStep usual s before cs = some taken) : taken.Regular s before := by
  unfold wordStep at h
  split at h
  · rename_i c rest
    split at h
    · -- blanks
      rename_i hspace
      rw [Bool.or_eq_true, beq_iff_eq] at hspace
      simp only [Option.bind_eq_bind, Option.bind_eq_some_iff, Prod.exists] at h
      rcases h with ⟨b, rest', -, h⟩
      cases h
      refine ⟨?_, fun hopened => .inl ?_⟩
      · rw [List.all_append, all_isTrivia_blankLeaf, hsettled.trivia]
        rfl
      · rw [List.all_append, all_isBlank_blankLeaf,
          hsettled.all_isBlank (newline?_of_isSpace c rest hspace) hopened]
        rfl
    · split at h
      · -- a comment
        cases h
        refine ⟨?_, fun _ => .inr (newline_after_comment (c :: rest))⟩
        rw [List.all_append, hsettled.trivia]
        rfl
      · split at h
        · -- a line end, which counts outside of brackets only
          split at h
          · rename_i hopened
            rw [Bool.not_eq_true', List.isEmpty_eq_false_iff] at hopened
            split at h
            all_goals
              cases h
              refine ⟨?_, fun hnil => absurd hnil hopened⟩
              rw [List.all_append, hsettled.trivia]
              rfl
          · split at h
            · simp only [reduceCtorEq] at h
            · cases h
              exact trivial
        · rename_i hnewline
          have hnone : newline? (c :: rest) = none :=
            Option.eq_none_iff_forall_ne_some.2 fun nl hnl => hnewline _ _ hnl
          split at h
          · -- a number
            simp only [Option.bind_eq_bind, Option.bind_some] at h
            split at h
            · cases h
              exact word_regular_of_ne _ hsettled.trivia WordSort.noConfusion WordSort.noConfusion
            · rcases Option.bind_eq_some_iff.1 h with ⟨found, -, h⟩
              cases h
              exact word_regular_of_ne _ hsettled.trivia WordSort.noConfusion WordSort.noConfusion
          · split at h
            · exact stringStep_regular hsettled.trivia h
            · split at h
              · -- a name, which may be the letters before a string
                simp only at h
                split at h
                · rename_i step hstring
                  cases h
                  exact stringStep_regular hsettled.trivia hstring
                · split at h
                  · simp only [reduceCtorEq] at h
                  · split at h
                    · rename_i hisName
                      cases h
                      exact name_regular hsettled.trivia hisName
                    · simp only [reduceCtorEq] at h
              · exact operatorStep_regular hsettled.trivia (hsettled.all_isBlank hnone) h
  · split at h
    · cases h
      exact trivial
    · simp only [reduceCtorEq] at h

/-- Every step within a line keeps its promises. -/
theorem step_regular (hsettled : Settled s before cs)
    (h : step usual s before cs = some taken) : taken.Regular s before := by
  unfold step at h
  split at h
  · exact textStep_regular h
  · exact textStep_regular h
  · split at h
    · exact textStep_regular h
    · simp only [reduceCtorEq] at h
  · exact wordStep_regular hsettled h

/-! ### Lines -/

theorem isLine_toTree (usual margin : List Char) (l : BlankLine) : (l.toTree usual margin).IsLine :=
  ⟨_, rfl⟩

theorem isLine_of_mem_map_toTree (usual margin : List Char) (ls : List BlankLine) :
    ∀ t ∈ ls.map (·.toTree usual margin), t.IsLine := by
  intro t ht
  rcases List.mem_map.1 ht with ⟨l, -, rfl⟩
  exact isLine_toTree usual margin l

/-- The ends of blocks are regular. -/
theorem close_regular (usual : List Char) (levels : List Level) (above : List BlankLine) :
    ∀ t ∈ (close usual levels above).1, t.Regular := by
  induction levels generalizing above with
  | nil => exact fun t ht => absurd ht List.not_mem_nil
  | cons level levels ih =>
      rw [close]
      exact List.forall_mem_cons.2 ⟨isLine_of_mem_map_toTree usual _ _, ih _⟩

/-- The tokens at the start of a line are regular. -/
theorem startLine_regular {above : List BlankLine} {b : Blanks} {tokens : List Token} {s' : State}
    (h : startLine usual s above b = some (tokens, s')) : ∀ t ∈ tokens, t.Regular := by
  have hstart : ∀ (level : Level) (above : List BlankLine),
      (Token.lineStart (above.map (·.toTree usual level.text))).Regular :=
    fun level above => isLine_of_mem_map_toTree usual level.text above
  unfold startLine at h
  simp only at h
  split at h
  · cases h
    exact List.forall_mem_singleton.2 (hstart _ _)
  · split at h
    · split at h
      · cases h
        exact List.forall_mem_singleton.2 (hstart _ _)
      · simp only [reduceCtorEq] at h
    · split at h
      · split at h
        · cases h
          exact List.forall_mem_cons.2 ⟨trivial, List.forall_mem_singleton.2 (hstart _ _)⟩
        · simp only [reduceCtorEq] at h
      · split at h
        · cases h
          exact List.forall_mem_append.2
            ⟨close_regular usual _ _, List.forall_mem_singleton.2 (hstart _ _)⟩
        · simp only [reduceCtorEq] at h

theorem finish_regular (usual : List Char) (s : State) (above : List BlankLine) :
    ∀ t ∈ finish usual s above, t.Regular := by
  rw [finish]
  exact List.forall_mem_append.2 ⟨close_regular usual _ _,
    List.forall_mem_singleton.2 (isLine_of_mem_map_toTree usual [] _)⟩

/-- Both loops give regular tokens, that within a line if things are settled. The
    induction is on the fuel that they share. -/
theorem lines_words_regular (usual : List Char) (n : Nat) :
    (∀ (s : State) (above : List BlankLine) (cs : List Char) (tokens : List Token),
      lines usual n s above cs = some tokens → ∀ t ∈ tokens, t.Regular) ∧
    (∀ (s : State) (before : List Leaf) (cs : List Char) (tokens : List Token),
      Settled s before cs → words usual n s before cs = some tokens → ∀ t ∈ tokens, t.Regular) := by
  induction n with
  | zero =>
      refine ⟨fun s above cs tokens h => ?_, fun s before cs tokens _ h => ?_⟩
      · simp only [lines, reduceCtorEq] at h
      · simp only [words, reduceCtorEq] at h
  | succ n ih =>
      refine ⟨fun s above cs tokens h => ?_, fun s before cs tokens hsettled h => ?_⟩
      · simp only [lines, Option.bind_eq_bind, Option.bind_eq_some_iff, Prod.exists] at h
        rcases h with ⟨head, rest, -, h⟩
        cases head with
        | blank line => exact ih.1 _ _ _ _ h
        | endOfText =>
            cases h
            exact finish_regular usual s _
        -- A line begins with nothing before its first word, so things are settled.
        | words b =>
            simp only [Option.bind_eq_some_iff, Prod.exists, Option.map_eq_some_iff] at h
            rcases h with ⟨first, s', hfirst, more, hmore, rfl⟩
            exact List.forall_mem_append.2 ⟨startLine_regular hfirst,
              ih.2 s' [] rest more (settled_nil _ _) hmore⟩
      · simp only [words, Option.bind_eq_bind, Option.bind_eq_some_iff] at h
        rcases h with ⟨taken, htaken, h⟩
        have hregular := step_regular hsettled htaken
        -- After blanks the step says that things are settled, after words nothing was read.
        cases taken with
        | trivia leaves joined rest => exact ih.2 _ _ _ _ hregular h
        | words first opened rest =>
            rcases Option.map_eq_some_iff.1 h with ⟨more, hmore, rfl⟩
            exact List.forall_mem_append.2 ⟨hregular,
              ih.2 { s with opened } [] rest more (settled_nil _ _) hmore⟩
        | lineEnd leaf rest =>
            rcases Option.map_eq_some_iff.1 h with ⟨more, hmore, rfl⟩
            exact List.forall_mem_cons.2 ⟨trivial, ih.1 _ _ _ _ hmore⟩

/-- All tokens of a text are regular. -/
theorem tokens_regular {cs : List Char} {tokens : List Token} (h : tokens? cs = some tokens) :
    ∀ t ∈ tokens, t.Regular :=
  (lines_words_regular _ _).1 _ _ _ _ h

end Lexer

end Source

end EntryCoverage
