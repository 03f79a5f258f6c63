import EntryCoverage.Source.Lexer
import EntryCoverage.Source.Peg
import Mathlib.Data.List.Basic

/-!
# Telling from the Next Tokens

What the first tokens rule out.

Most of the choices that a grammar has at a place are ruled out by the next few tokens,
and often by what sort of tokens they are, whatever else they may say. `Sign` is what may
be known of a token, and `glance` goes through an expression with signs instead of
tokens. It may give up, but what it says is so: an expression that it says fails gives
nothing from any tokens with these signs, with any fuel (`run_of_fails`). As it computes,
the alternatives that a reading does not take are dealt with by running it.

## Main definitions

* `Sign`: What may be known of a token.
* `Verdict`: What signs say about an expression.
* `Peg.glance`: The verdict on an expression.

## Theorems

* `glance_means`: Verdicts are right.
* `run_of_fails`: What fails by its verdict fails.
-/

namespace EntryCoverage

namespace Source

/-- A text that may be a name and is no reserved word. -/
def isFreeName (text : String) : Bool :=
  text.toList.all Lexer.inName && !reserved.contains text

/-- What may be known of a token. -/
inductive Sign
  /-- It is this word. -/
  | word (sort : WordSort) (text : String)
  /-- It is a name that is not reserved. -/
  | name
  /-- It is a string or a number. -/
  | literal (sort : WordSort)
  | lineStart | lineEnd | endOfText
deriving DecidableEq

namespace Sign

/-- A token has a sign. -/
def Of : Sign → Token → Prop
  | .word sort text, .word _ sort' text' => sort' = sort ∧ text' = text
  | .name, .word _ sort text => sort = .name ∧ isFreeName text = true
  | .literal sort, .word _ sort' _ => sort' = sort
  | .lineStart, .lineStart _ => True
  | .lineEnd, .newline _ _ => True
  | .endOfText, .endOfText _ => True
  | _, _ => False

/-- Whether a token with a sign may be read as a word with this text. -/
def mayBe (text : String) : Sign → Bool
  | .word sort found => (sort == .name || sort == .operator) && found == text
  | .name => isFreeName text
  | .literal sort => sort == .name || sort == .operator
  | _ => false

/-- Whether it may be read as a word of this sort. -/
def mayHave (sort : WordSort) : Sign → Bool
  | .word found text => found == sort && !(sort == .name && reserved.contains text)
  | .name => sort == .name
  | .literal found => found == sort
  | _ => false

/-- Whether it may be read as an operator between blanks. -/
def maySeparate (text : String) : Sign → Bool
  | .word sort found => sort == .operator && found == text
  | .literal sort => sort == .operator
  | _ => false

def isLineStart : Sign → Bool
  | .lineStart => true
  | _ => false

def isLineEnd : Sign → Bool
  | .lineEnd => true
  | _ => false

def isEndOfText : Sign → Bool
  | .endOfText => true
  | _ => false

variable {before : List Leaf} {sort : WordSort} {found : String}

theorem mayBe_of {s : Sign} {text : String} (h : s.Of (.word before sort found))
    (hread : ((sort == .name || sort == .operator) && found == text) = true) :
    s.mayBe text = true := by
  cases s with
  | word sort' text' =>
      rcases h with ⟨rfl, rfl⟩
      exact hread
  | name =>
      rcases h with ⟨rfl, hfree⟩
      rw [Bool.and_eq_true, beq_iff_eq] at hread
      exact hread.2 ▸ hfree
  | literal sort' =>
      cases h
      rw [Bool.and_eq_true] at hread
      exact hread.1
  | lineStart | lineEnd | endOfText => exact absurd h id

theorem mayHave_of {s : Sign} {sort' : WordSort} (h : s.Of (.word before sort found))
    (hread : (sort == sort' && !(sort' == .name && reserved.contains found)) = true) :
    s.mayHave sort' = true := by
  cases s with
  | word sort₁ text₁ =>
      rcases h with ⟨rfl, rfl⟩
      exact hread
  | name =>
      rcases h with ⟨rfl, -⟩
      rw [Bool.and_eq_true, beq_iff_eq] at hread
      exact beq_iff_eq.2 hread.1.symm
  | literal sort₁ =>
      cases h
      rw [Bool.and_eq_true] at hread
      exact hread.1
  | lineStart | lineEnd | endOfText => exact absurd h id

theorem maySeparate_of {s : Sign} {text : String} (h : s.Of (.word before .operator found))
    (hread : (found == text) = true) : s.maySeparate text = true := by
  cases s with
  | word sort' text' =>
      rcases h with ⟨rfl, rfl⟩
      exact hread
  | name => exact absurd h.1 (by decide)
  | literal sort' =>
      cases h
      rfl
  | lineStart | lineEnd | endOfText => exact absurd h id

theorem isLineStart_of {s : Sign} {above : List Tree} (h : s.Of (.lineStart above)) :
    s.isLineStart = true := by
  cases s with
  | lineStart => rfl
  | word _ _ | name | literal _ | lineEnd | endOfText => exact absurd h id

theorem isLineEnd_of {s : Sign} {ending : Leaf} (h : s.Of (.newline before ending)) :
    s.isLineEnd = true := by
  cases s with
  | lineEnd => rfl
  | word _ _ | name | literal _ | lineStart | endOfText => exact absurd h id

theorem isEndOfText_of {s : Sign} {above : List Tree} (h : s.Of (.endOfText above)) :
    s.isEndOfText = true := by
  cases s with
  | endOfText => rfl
  | word _ _ | name | literal _ | lineStart | lineEnd => exact absurd h id

end Sign

/-- The first of the tokens have these signs. -/
def Heads : List Sign → List Token → Prop
  | [], _ => True
  | s :: ss, t :: ts => s.Of t ∧ Heads ss ts
  | _ :: _, [] => False

/-- What signs say about an expression. -/
inductive Verdict
  | fails
  /-- If it gives anything, it reads so many tokens. -/
  | reads (count : Nat)
  | unclear
deriving DecidableEq

namespace Verdict

/-- The verdict on two expressions in a row, given that on the second one. -/
def andThen (next : Nat → Verdict) : Verdict → Verdict
  | fails => fails
  | unclear => unclear
  | reads n =>
      match next n with
      | fails => fails
      | unclear => unclear
      | reads m => reads (n + m)

/-- The verdict on one token that is read if its sign is right. -/
def ofFirst (ok : Sign → Bool) : List Sign → Verdict
  | [] => unclear
  | s :: _ => if ok s then reads 1 else fails

/-- A verdict is right about what an expression gives. -/
def Means (signs : List Sign) (result : Option (List Tree × List Token)) : Verdict → Prop
  | fails => result = none
  | reads count => ∀ trees rest, result = some (trees, rest) → Heads (signs.drop count) rest
  | unclear => True

/-- What becomes of the trees does not matter. -/
theorem Means.mapTrees {signs : List Sign} {v : Verdict}
    {result : Option (List Tree × List Token)} (h : v.Means signs result)
    (f : List Tree → List Tree) :
    v.Means signs (result.bind fun (trees, rest) => some (f trees, rest)) := by
  cases v with
  | fails =>
      have hnone : result = none := h
      rw [hnone]
      rfl
  | unclear => trivial
  | reads n =>
      intro trees rest heq
      rcases Option.bind_eq_some_iff.1 heq with ⟨⟨trees', rest'⟩, hresult, hpair⟩
      simp only [Option.some.injEq, Prod.mk.injEq] at hpair
      exact h trees' rest (hpair.2 ▸ hresult)

end Verdict

namespace Peg

variable {Rule : Type}

/-- The verdict on an expression before tokens with these signs. The depth bounds how far
    rules are followed. -/
def glance (grammar : Rule → Peg Rule) : Nat → Peg Rule → List Sign → Verdict
  | 0, _, _ => .unclear
  | k + 1, p, signs =>
      match p with
      | .empty | .notAhead _ => .reads 0
      | .word text => .ofFirst (Sign.mayBe text) signs
      | .ofSort sort => .ofFirst (Sign.mayHave sort) signs
      | .seq p q => (glance grammar k p signs).andThen fun n => glance grammar k q (signs.drop n)
      | .either p q =>
          match glance grammar k p signs with
          | .fails => glance grammar k q signs
          | _ => .unclear
      | .many p | .optional p =>
          match glance grammar k p signs with
          | .fails => .reads 0
          | _ => .unclear
      | .ahead p =>
          match glance grammar k p signs with
          | .fails => .fails
          | _ => .reads 0
      | .node _ p | .such _ p => glance grammar k p signs
      | .extend _ first rest =>
          -- What follows is not read if it fails.
          (glance grammar k first signs).andThen fun n =>
            match glance grammar k rest (signs.drop n) with
            | .fails => .reads 0
            | _ => .unclear
      | .separator _ text => .ofFirst (Sign.maySeparate text) signs
      | .linesAbove _ =>
          match signs with
          | [] => .unclear
          | s :: _ => if s.isLineStart || s.isEndOfText then .reads 0 else .fails
      | .lineStart => .ofFirst Sign.isLineStart signs
      | .lineEnd => .ofFirst Sign.isLineEnd signs
      | .block _ =>
          match signs with
          | [] => .unclear
          | s :: _ => if s.isLineEnd then .unclear else .fails
      | .endOfText _ => .ofFirst Sign.isEndOfText signs
      | .rule name => glance grammar k (grammar name) signs

/-! ### Verdicts are right -/

/-- Signs of what comes later do not depend on how the blanks before a word are read. -/
theorem heads_hoist (signs : List Sign) (ts : List Token) (h : Heads signs ts) :
    Heads signs (hoist ts).2 := by
  unfold hoist
  split
  · cases signs with
    | nil => trivial
    | cons s ss => cases s <;> exact h
  · exact h

theorem heads_hoistBlank (signs : List Sign) (ts : List Token) (h : Heads signs ts) :
    Heads signs (hoistBlank ts).2 := by
  unfold hoistBlank
  split
  · cases signs with
    | nil => trivial
    | cons s ss => cases s <;> exact h
  · cases signs with
    | nil => trivial
    | cons s ss => cases s <;> exact h
  · exact h

/-- A verdict on two results in a row. -/
theorem means_andThen {signs : List Sign} {v : Verdict} {next : Nat → Verdict}
    {first : Option (List Tree × List Token)}
    {second : List Tree × List Token → Option (List Tree × List Token)}
    (hfirst : v.Means signs first)
    (hsecond : ∀ n trees rest, v = .reads n → first = some (trees, rest) →
      (next n).Means (signs.drop n) (second (trees, rest))) :
    (v.andThen next).Means signs (first.bind second) := by
  cases v with
  | fails =>
      have hnone : first = none := hfirst
      rw [hnone]
      rfl
  | unclear => trivial
  | reads n =>
      cases hresult : first with
      | none =>
          rw [Verdict.andThen]
          split
          · rfl
          · trivial
          · exact fun _ _ h => absurd h.symm (Option.some_ne_none _)
      | some result =>
          rcases result with ⟨trees, rest⟩
          have hnext := hsecond n trees rest rfl hresult
          rw [Verdict.andThen, Option.bind_some]
          split
          · rename_i hfails
            rw [hfails] at hnext
            exact hnext
          · trivial
          · rename_i m hreads
            rw [hreads] at hnext
            intro trees' rest' heq
            have hheads := hnext trees' rest' heq
            rwa [List.drop_drop] at hheads

/-- Only a token whose sign is right is read, and nothing after it. -/
def OneToken (ok : Sign → Bool) (read : List Token → Option (List Tree × List Token)) : Prop :=
  ∀ t ts trees rest, read (t :: ts) = some (trees, rest) →
    (∀ s : Sign, s.Of t → ok s = true) ∧ ∀ ss, Heads ss ts → Heads ss rest

/-- One token that is read if its sign is right. -/
theorem OneToken.means {ok : Sign → Bool} {read : List Token → Option (List Tree × List Token)}
    (h : OneToken ok read) {signs : List Sign} {ts : List Token} (hheads : Heads signs ts) :
    (Verdict.ofFirst ok signs).Means signs (read ts) := by
  cases signs with
  | nil => trivial
  | cons s ss =>
      cases ts with
      | nil => exact absurd hheads id
      | cons t ts =>
          rw [Verdict.ofFirst]
          split
          · exact fun trees rest hread => (h t ts trees rest hread).2 ss hheads.2
          · rename_i hok
            cases hread : read (t :: ts) with
            | none => rfl
            | some result => exact absurd ((h t ts _ _ hread).1 s hheads.1) hok

theorem oneToken_word (grammar : Rule → Peg Rule) (n : Nat) (text : String) :
    OneToken (Sign.mayBe text) (run grammar (n + 1) (.word text)) := by
  intro t ts trees rest hread
  cases t with
  | word before sort found =>
      simp only [run] at hread
      split at hread
      · rename_i hok
        simp only [Option.some.injEq, Prod.mk.injEq] at hread
        exact ⟨fun _ hof => Sign.mayBe_of hof hok, fun _ hss => hread.2 ▸ hss⟩
      · exact absurd hread.symm (Option.some_ne_none _)
  | _ => simp only [run, reduceCtorEq] at hread

theorem oneToken_ofSort (grammar : Rule → Peg Rule) (n : Nat) (sort : WordSort) :
    OneToken (Sign.mayHave sort) (run grammar (n + 1) (.ofSort sort)) := by
  intro t ts trees rest hread
  cases t with
  | word before found text =>
      simp only [run] at hread
      split at hread
      · rename_i hok
        simp only [Option.some.injEq, Prod.mk.injEq] at hread
        exact ⟨fun _ hof => Sign.mayHave_of hof hok, fun _ hss => hread.2 ▸ hss⟩
      · exact absurd hread.symm (Option.some_ne_none _)
  | _ => simp only [run, reduceCtorEq] at hread

theorem oneToken_separator (grammar : Rule → Peg Rule) (n : Nat) (kind : Kind) (text : String) :
    OneToken (Sign.maySeparate text) (run grammar (n + 1) (.separator kind text)) := by
  intro t ts trees rest hread
  cases t with
  | word before sort found =>
      cases sort with
      | operator =>
          simp only [run] at hread
          split at hread
          · rename_i hok
            simp only [Option.some.injEq, Prod.mk.injEq] at hread
            exact ⟨fun _ hof => Sign.maySeparate_of hof hok,
              fun ss hss => hread.2 ▸ heads_hoistBlank ss ts hss⟩
          · exact absurd hread.symm (Option.some_ne_none _)
      | _ => simp only [run, reduceCtorEq] at hread
  | _ => simp only [run, reduceCtorEq] at hread

theorem oneToken_lineStart (grammar : Rule → Peg Rule) (n : Nat) :
    OneToken Sign.isLineStart (run grammar (n + 1) .lineStart) := by
  intro t ts trees rest hread
  cases t with
  | lineStart above =>
      cases above with
      | nil =>
          simp only [run, Option.some.injEq, Prod.mk.injEq] at hread
          exact ⟨fun _ => Sign.isLineStart_of, fun _ hss => hread.2 ▸ hss⟩
      | cons _ _ => simp only [run, reduceCtorEq] at hread
  | _ => simp only [run, reduceCtorEq] at hread

theorem oneToken_lineEnd (grammar : Rule → Peg Rule) (n : Nat) :
    OneToken Sign.isLineEnd (run grammar (n + 1) .lineEnd) := by
  intro t ts trees rest hread
  cases t with
  | newline before ending =>
      simp only [run, Option.some.injEq, Prod.mk.injEq] at hread
      exact ⟨fun _ => Sign.isLineEnd_of, fun _ hss => hread.2 ▸ hss⟩
  | _ => simp only [run, reduceCtorEq] at hread

theorem oneToken_endOfText (grammar : Rule → Peg Rule) (n : Nat) (kind : Kind) :
    OneToken Sign.isEndOfText (run grammar (n + 1) (.endOfText kind)) := by
  intro t ts trees rest hread
  cases t with
  | endOfText above =>
      cases ts with
      | nil =>
          simp only [run, Option.some.injEq, Prod.mk.injEq] at hread
          exact ⟨fun _ => Sign.isEndOfText_of, fun _ hss => hread.2 ▸ hss⟩
      | cons _ _ => simp only [run, reduceCtorEq] at hread
  | _ => simp only [run, reduceCtorEq] at hread

/-- A verdict is right for any fuel. -/
theorem glance_means (grammar : Rule → Peg Rule) (k : Nat) (p : Peg Rule) (signs : List Sign)
    (ts : List Token) (hheads : Heads signs ts) (n : Nat) :
    (glance grammar k p signs).Means signs (run grammar n p ts) := by
  -- The induction follows the depth of the verdict; the fuel goes along with it.
  induction k generalizing p signs ts n with
  | zero => trivial
  | succ k ih =>
      cases n with
      | zero =>
          rw [run_zero]
          cases glance grammar (k + 1) p signs with
          | fails => rfl
          | reads _ => exact fun _ _ h => absurd h.symm (Option.some_ne_none _)
          | unclear => trivial
      | succ n =>
          -- What a verdict says if the expression that it is on reads nothing.
          have hnothing : ∀ {rest : List Token}, Heads signs rest →
              ∀ trees' rest', some (([] : List Tree), rest) = some (trees', rest') →
                Heads (signs.drop 0) rest' := by
            intro rest hrest trees' rest' heq
            simp only [Option.some.injEq, Prod.mk.injEq] at heq
            rw [← heq.2]
            exact hrest
          cases p with
          | empty =>
              simp only [glance, run]
              exact hnothing hheads
          | word text => exact (oneToken_word grammar n text).means hheads
          | ofSort sort => exact (oneToken_ofSort grammar n sort).means hheads
          | seq p q =>
              simp only [glance, run]
              refine means_andThen (ih p signs ts hheads n) ?_
              intro count trees rest hreads hrun
              have hfirst := ih p signs ts hheads n
              rw [hreads] at hfirst
              exact (ih q _ rest (hfirst trees rest hrun) n).mapTrees (trees ++ ·)
          | either p q =>
              have hfirst := ih p signs ts hheads n
              cases hverdict : glance grammar k p signs with
              | fails =>
                  rw [hverdict] at hfirst
                  simp only [glance, hverdict, run, show run grammar n p ts = none from hfirst]
                  exact ih q signs ts hheads n
              | reads _ | unclear =>
                  simp only [glance, hverdict]
                  trivial
          | many p | optional p =>
              have hfirst := ih p signs ts hheads n
              cases hverdict : glance grammar k p signs with
              | fails =>
                  rw [hverdict] at hfirst
                  simp only [glance, hverdict, run, show run grammar n p ts = none from hfirst]
                  exact hnothing hheads
              | reads _ | unclear =>
                  simp only [glance, hverdict]
                  trivial
          | ahead p =>
              have hfirst := ih p signs ts hheads n
              have hsome : ∀ trees rest,
                  (run grammar n p ts).map (fun _ => (([] : List Tree), ts)) = some (trees, rest) →
                    Heads (signs.drop 0) rest := by
                intro trees rest heq
                rcases Option.map_eq_some_iff.1 heq with ⟨_, -, hpair⟩
                exact hnothing hheads trees rest (congrArg some hpair)
              cases hverdict : glance grammar k p signs with
              | fails =>
                  rw [hverdict] at hfirst
                  simp only [glance, hverdict, run, show run grammar n p ts = none from hfirst]
                  rfl
              | reads _ | unclear =>
                  simp only [glance, hverdict, run]
                  exact hsome
          | notAhead p =>
              simp only [glance, run]
              split
              · exact fun _ _ heq => absurd heq.symm (Option.some_ne_none _)
              · exact hnothing hheads
          | node kind p =>
              simp only [glance, run]
              exact (ih p signs _ (heads_hoist signs ts hheads) n).mapTrees
                fun trees => (hoist ts).1 ++ [.node kind trees]
          | extend joint first rest =>
              simp only [glance, run]
              refine means_andThen (ih first signs _ (heads_hoist signs ts hheads) n) ?_
              intro count trees more hreads hrun
              have hfirst := ih first signs _ (heads_hoist signs ts hheads) n
              rw [hreads] at hfirst
              have hmore : Heads (signs.drop count) more := hfirst trees more hrun
              have hrest := ih rest _ more hmore n
              cases hverdict : glance grammar k rest (signs.drop count) with
              | reads _ | unclear => trivial
              | fails =>
                  rw [hverdict] at hrest
                  rw [show run grammar n rest more = none from hrest]
                  intro trees' rest' heq
                  simp only [Option.getD_none] at heq
                  -- However the first part is taken, what follows is still to be read.
                  split at heq <;>
                    simp only [Option.some.injEq, Prod.mk.injEq] at heq <;>
                    exact heq.2 ▸ hmore
          | such test p =>
              have hinner := ih p signs ts hheads n
              simp only [glance, run]
              cases hverdict : glance grammar k p signs with
              | fails =>
                  rw [hverdict] at hinner
                  rw [show run grammar n p ts = none from hinner]
                  rfl
              | unclear => trivial
              | reads count =>
                  rw [hverdict] at hinner
                  intro trees rest heq
                  rcases Option.bind_eq_some_iff.1 heq with ⟨⟨trees', rest'⟩, hresult, htest⟩
                  dsimp only at htest
                  split at htest
                  · simp only [Option.some.injEq, Prod.mk.injEq] at htest
                    exact hinner trees' rest (htest.2 ▸ hresult)
                  · exact absurd htest.symm (Option.some_ne_none _)
          | separator kind text => exact (oneToken_separator grammar n kind text).means hheads
          | linesAbove kind =>
              simp only [glance, run]
              cases signs with
              | nil => trivial
              | cons s ss =>
                  cases ts with
                  | nil => exact absurd hheads id
                  | cons t ts' =>
                      rcases hheads with ⟨hof, hrest⟩
                      -- The lines are taken, and the same tokens are left but for them.
                      cases t with
                      | lineStart above =>
                          dsimp only
                          rw [Sign.isLineStart_of hof, Bool.true_or, if_pos rfl]
                          intro trees rest hread
                          simp only [Option.some.injEq, Prod.mk.injEq] at hread
                          rw [← hread.2]
                          exact ⟨by cases s <;> exact hof, hrest⟩
                      | endOfText above =>
                          dsimp only
                          rw [Sign.isEndOfText_of hof, Bool.or_true, if_pos rfl]
                          intro trees rest hread
                          simp only [Option.some.injEq, Prod.mk.injEq] at hread
                          rw [← hread.2]
                          exact ⟨by cases s <;> exact hof, hrest⟩
                      | _ =>
                          dsimp only
                          split
                          · exact fun _ _ hread => absurd hread.symm (Option.some_ne_none _)
                          · rfl
          | lineStart => exact (oneToken_lineStart grammar n).means hheads
          | lineEnd => exact (oneToken_lineEnd grammar n).means hheads
          | block p =>
              simp only [glance, run]
              cases signs with
              | nil => trivial
              | cons s ss =>
                  cases ts with
                  | nil => exact absurd hheads id
                  | cons t ts' =>
                      dsimp only
                      cases hend : s.isLineEnd with
                      | true => trivial
                      | false =>
                          -- A block begins at a line end, which these signs rule out.
                          cases t with
                          | newline before ending =>
                              exact absurd (hend.symm.trans (Sign.isLineEnd_of hheads.1))
                                Bool.false_ne_true
                          | _ => rfl
          | endOfText kind => exact (oneToken_endOfText grammar n kind).means hheads
          | rule name =>
              simp only [glance, run]
              exact ih (grammar name) signs ts hheads n

/-- What fails by its verdict gives nothing. -/
theorem run_of_fails {grammar : Rule → Peg Rule} (k : Nat) {p : Peg Rule} (signs : List Sign)
    {ts : List Token} (h : glance grammar k p signs = .fails) (hheads : Heads signs ts) (n : Nat) :
    run grammar n p ts = none := by
  have hmeans := glance_means grammar k p signs ts hheads n
  rw [h] at hmeans
  exact hmeans

end Peg

end Source

end EntryCoverage
