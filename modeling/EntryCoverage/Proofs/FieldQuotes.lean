import EntryCoverage.Proofs.Fields
import EntryCoverage.Proofs.ReservedWords

/-!
# Quotes in Fields

When a call brings the quotes around a literal into one of its fields.

A call has its identifier between double quotes, wherever it is put. In a field of a literal
that is in double quotes itself, these are the quotes around the literal, and older versions of
the language end the literal there. Nothing in the code that puts calls in looks at what is
around a function. So if fields were clean, `run_keeps_fields` says exactly when they are not
any more: when a function in such a field got a call.

For all other quotes, the text of a call must not bring them in. It has no single quotes, and
only two double quotes, one less than three in a row. But it could join what was there, so that
they stand in a row with others. That is ruled out by the ends of what is put in: where no
function is defined, a text with calls is the old one with pieces put into it (`Woven`), and
they begin and end in signs that are no quotes.

## Main definitions

* `Woven`: A text is another one with pieces put into it.
* `IsQuoting`: A call has no quotes but the two around its identifier.
* `StaysClean`: Fields stay clean exactly as far as calls are not in them.
* `Engine.KeepsFields`: What becomes of the fields in a file of a run.

## Theorems

* `Woven.infix_of_replicate`: No row of a character comes from pieces with others at their ends.
* `extends_insertCalls`: An expression with calls is woven from it.
* `count_callText`: The quotes in the text of a call.
* `cleanFields_insertCallsAll_iff`: One literal with calls.
* `staysClean`: A tree with calls.
* `Engine.run_keeps_fields`: The files of a run.
-/

namespace EntryCoverage

open Source

/-! ### Texts with more in them -/

/-- A text is another one with pieces put into it. -/
inductive Woven (piece : List Char → Prop) : List Char → List Char → Prop
  | nil : Woven piece [] []
  | keep (c : Char) {s t : List Char} (h : Woven piece s t) : Woven piece (c :: s) (c :: t)
  | put {p s t : List Char} (hp : piece p) (h : Woven piece s t) : Woven piece s (p ++ t)

/-- A text in which a character does not come so often, and not at an end. -/
structure Spaced (c : Char) (n : Nat) (p : List Char) : Prop where
  first : p.head? ≠ some c
  last : p.getLast? ≠ some c
  count : p.count c < n

/-- A text whose ends are other characters. -/
theorem Spaced.of_ends {c d e : Char} {n : Nat} {mid : List Char} (hd : d ≠ c) (he : e ≠ c)
    (hcount : mid.count c < n) : Spaced c n (d :: (mid ++ [e])) where
  first h := hd (Option.some.inj h)
  last h := by
    rw [← List.cons_append, List.getLast?_concat] at h
    exact he (Option.some.inj h)
  count := by
    rwa [List.count_cons_of_ne hd, List.count_append, List.count_cons_of_ne he, List.count_nil,
      Nat.add_zero]

namespace Woven

variable {piece : List Char → Prop} {s t s' t' : List Char}

theorem refl (s : List Char) : Woven piece s s := by
  induction s with
  | nil => exact .nil
  | cons c s ih => exact .keep c ih

theorem append (h : Woven piece s t) (h' : Woven piece s' t') :
    Woven piece (s ++ s') (t ++ t') := by
  induction h with
  | nil => exact h'
  | keep c _ ih => exact .keep c ih
  | put hp _ ih =>
      rw [List.append_assoc]
      exact .put hp ih

/-- A piece may also come last. -/
theorem append_piece (h : Woven piece s t) {p : List Char} (hp : piece p) :
    Woven piece s (t ++ p) := by
  have hlast : Woven piece [] (p ++ []) := .put hp .nil
  have happend := h.append hlast
  rwa [List.append_nil, List.append_nil] at happend

variable {c : Char} {n : Nat}

/-- If a text begins with a character so often, so does the one without the pieces. -/
theorem prefix_of_replicate (hpiece : ∀ p, piece p → Spaced c n p) (h : Woven piece s t) (m : Nat)
    (ht : List.replicate m c <+: t) : List.replicate m c <+: s := by
  induction h generalizing m with
  | nil => exact ht
  | keep d _ ih =>
      cases m with
      | zero => exact List.nil_prefix
      | succ m =>
          rw [List.replicate_succ, List.cons_prefix_cons] at ht ⊢
          exact ⟨ht.1, ih m ht.2⟩
  | @put p s t hp _ ih =>
      cases m with
      | zero => exact List.nil_prefix
      | succ m =>
          -- A piece that is not empty begins with another character.
          cases p with
          | nil => exact ih _ ht
          | cons d p =>
              rw [List.replicate_succ, List.cons_append, List.cons_prefix_cons] at ht
              exact absurd (congrArg some ht.1.symm) (hpiece _ hp).first

/-- No row of a character ends behind a piece that it begins in. -/
theorem infix_of_infix_append {p : List Char} (hlast : p.getLast? ≠ some c) (hcount : p.count c < n)
    (h : List.replicate n c <:+: p ++ t) : List.replicate n c <:+: t := by
  induction p with
  | nil => exact h
  | cons d p ih =>
      have hrest : p.count c < n := Nat.lt_of_le_of_lt (List.count_le_count_cons ..) hcount
      rw [List.cons_append, List.infix_cons_iff] at h
      rcases h with h | h
      · -- The row would be in the piece, or the piece would be in the row.
        rcases List.prefix_or_prefix_of_prefix h (List.prefix_append (d :: p) t) with hin | hin
        · have hle := hin.sublist.count_le c
          rw [List.count_replicate_self] at hle
          omega
        · have hend := List.mem_of_mem_getLast? (List.getLast?_eq_some_getLast (List.cons_ne_nil d p))
          exact absurd (by
            rw [List.getLast?_eq_some_getLast (List.cons_ne_nil d p)]
            exact congrArg some (List.eq_of_mem_replicate (hin.subset hend))) hlast
      · refine ih ?_ hrest h
        cases p with
        | nil => exact nofun
        | cons e p => rwa [List.getLast?_cons_cons] at hlast

/-- Pieces put no row of a character into a text. -/
theorem infix_of_replicate (hpiece : ∀ p, piece p → Spaced c n p) (h : Woven piece s t)
    (ht : List.replicate n c <:+: t) : List.replicate n c <:+: s := by
  induction h with
  | nil => exact ht
  | keep d h ih =>
      rw [List.infix_cons_iff] at ht ⊢
      rcases ht with ht | ht
      · exact .inl ((Woven.keep d h).prefix_of_replicate hpiece n ht)
      · exact .inr (ih ht)
  | put hp _ ih => exact ih (infix_of_infix_append (hpiece _ hp).last (hpiece _ hp).count ht)

end Woven

/-! ### Expressions with calls -/

/-- A tree has the text of another one with pieces put into it. -/
def Extends (piece : List Char → Prop) (layout : Layout) (t t' : Tree) : Prop :=
  ∀ margin, Woven piece (t.render layout margin).toList (t'.render layout margin).toList

/-- What the pair of a call and an expression has before the expression, and behind it. -/
structure AllowsPairs (piece : List Char → Prop) (layout : Layout) (calls : List (Option Tree)) :
    Prop where
  opening : ∀ call, some call ∈ calls → ∀ margin : String,
    piece ('(' :: ((call.render layout margin).toList ++ [',', ' ']))
  closing : piece ")[-1]".toList

section Extends

variable {piece : List Char → Prop} {layout : Layout} {ts ts' : List Tree}

theorem AllowsPairs.mono {calls calls' : List (Option Tree)} (h : AllowsPairs piece layout calls')
    (hsub : calls ⊆ calls') : AllowsPairs piece layout calls where
  opening call hcall := h.opening call (hsub hcall)
  closing := h.closing

theorem woven_renderAll (h : List.Forall₂ (Extends piece layout) ts ts') (margin : String) :
    Woven piece (Tree.renderAll layout margin ts).toList (Tree.renderAll layout margin ts').toList := by
  induction h with
  | nil => exact .nil
  | cons hfirst _ ih =>
      rw [Tree.renderAll, Tree.renderAll, String.toList_append, String.toList_append]
      exact (hfirst margin).append ih

theorem extends_node (h : List.Forall₂ (Extends piece layout) ts ts') (kind : Kind) :
    Extends piece layout (.node kind ts) (.node kind ts') := fun margin => by
  rw [Tree.render, Tree.render]
  exact woven_renderAll h _

/-- The pair has the text of the expression. -/
theorem Extends.sequenced {calls : List (Option Tree)} (hcalls : AllowsPairs piece layout calls)
    {call t t' : Tree} (hcall : some call ∈ calls) (h : Extends piece layout t t') :
    Extends piece layout t (sequenced call t') := fun margin => by
  have htext : ((EntryCoverage.sequenced call t').render layout margin).toList =
      ('(' :: ((call.render layout margin).toList ++ [',', ' '])) ++
        ((t'.render layout margin).toList ++ ")[-1]".toList) := by
    simp only [EntryCoverage.sequenced, Tree.render, Tree.renderAll, Tree.word, Tree.space,
      Leaf.render, Kind.marginWithin, String.toList_append, String.append_empty, List.append_assoc,
      List.cons_append]
    rfl
  rw [htext]
  exact .put (hcalls.opening call hcall margin) ((h margin).append_piece hcalls.closing)

theorem forall₂_mapLast {R : Tree → Tree → Prop} {f : Tree → Tree}
    (hf : ∀ t u, R t u → R t (f u)) (h : List.Forall₂ R ts ts') :
    List.Forall₂ R ts (mapLast f ts') := by
  induction h with
  | nil => exact .nil
  | cons hfirst hrest ih =>
      cases hrest with
      | nil => exact .cons (hf _ _ hfirst) .nil
      | cons => exact .cons hfirst ih

mutual

/-- Where no function is defined, calls are put into lambdas, and the text stays but for the
    pieces of pairs. -/
theorem extends_insertCalls : ∀ (t : Tree) (used : List (Option Tree)),
    t.Everywhere NoDefinition → used.length = functionCount t → AllowsPairs piece layout used →
      Extends piece layout t (insertCalls t used).1
  | .leaf _, _, _, _, _ => fun _ => .refl _
  | .node kind ts, used, hno, hlength, hcalls => by
      by_cases hkind : isFunction kind = true
      · -- The function is a lambda, and the last call is its own.
        rcases (isFunction_iff kind).1 hkind with rfl | rfl
        · exact absurd rfl hno.1
        rw [functionCount, if_pos hkind] at hlength
        rcases List.eq_nil_or_concat used with rfl | ⟨inner, own, rfl⟩
        · exact absurd hlength (Nat.succ_ne_zero _).symm
        · rw [List.concat_eq_append] at hlength hcalls ⊢
          rw [List.length_append, List.length_singleton] at hlength
          have hparts := extends_insertCallsAll ts inner hno.2 (Nat.succ.inj hlength)
            (hcalls.mono (List.subset_append_left _ _))
          rw [insertCalls, insertCallsAll_append ts inner [own] (Nat.succ.inj hlength)]
          simp only
          cases own with
          | none => exact extends_node hparts _
          | some call =>
              refine extends_node (forall₂_mapLast (fun t u h => ?_) hparts) _
              exact h.sequenced hcalls (List.mem_append_right _ List.mem_cons_self)
      · rw [functionCount, if_neg hkind] at hlength
        rw [insertCalls_node (Bool.eq_false_iff.2 hkind)]
        exact extends_node (extends_insertCallsAll ts used hno.2 hlength hcalls) kind

theorem extends_insertCallsAll : ∀ (ts : List Tree) (used : List (Option Tree)),
    Tree.EverywhereAll NoDefinition ts → used.length = functionCountAll ts →
      AllowsPairs piece layout used →
        List.Forall₂ (Extends piece layout) ts (insertCallsAll ts used).1
  | [], _, _, _, _ => .nil
  | t :: ts, used, hno, hlength, hcalls => by
      rcases exists_append_of_length hlength with ⟨first, second, rfl, hfirst, hsecond⟩
      rw [insertCallsAll_cons t ts first second hfirst]
      exact .cons
        (extends_insertCalls t first hno.1 hfirst (hcalls.mono (List.subset_append_left _ _)))
        (extends_insertCallsAll ts second hno.2 hsecond
          (hcalls.mono (List.subset_append_right _ _)))

end

end Extends

/-! ### The quotes of a call -/

/-- No character of a name is a quote. -/
theorem not_isQuote_of_isNameChar {c : Char} (h : Config.isNameChar c = true) :
    Lexeme.isQuote c = false := by
  rw [Bool.eq_false_iff]
  intro hquote
  rw [Lexeme.isQuote, Bool.or_eq_true, beq_iff_eq, beq_iff_eq] at hquote
  rcases hquote with rfl | rfl <;> exact absurd h (by decide)

section Quotes

variable {config : Config} {v line : Int} {call : Tree}

/-- The quotes in the text of a call are the two around its identifier. -/
theorem count_callText (h : config.Accepted)
    (hcall : Hook.hookCall? config (Vlq.text v) line = some call) {c : Char}
    (hc : Lexeme.isQuote c = true) :
    (callText config (Vlq.text v) line).toList.count c = if c = '"' then 2 else 0 := by
  have hnone : ∀ {cs : List Char}, (∀ d ∈ cs, Lexeme.isQuote d = false) → cs.count c = 0 :=
    fun hcs => List.count_eq_zero.2 fun hmem => Bool.false_ne_true ((hcs c hmem).symm.trans hc)
  rcases Engine.of_hookCall? hcall with ⟨⟨n, rfl⟩, hwritable⟩
  have hisPart := Engine.isPart_of_accepted h (h.writable_iff.1 hwritable)
  have hpart : ∀ part ∈ Text.splitOn '.' config.hookPath.toList,
      ∀ d ∈ part, Lexeme.isQuote d = false := by
    intro part hpart d hd
    rcases hisPart part hpart with ⟨e, name, rfl, -, hname⟩
    exact not_isQuote_of_isNameChar (hname d hd)
  rcases Text.exists_splitOn '.' config.hookPath.toList with ⟨first, parts, hsplit⟩
  rw [hsplit, List.forall_mem_cons] at hpart
  have hdotted : ∀ d ∈ Lexer.dotted parts, Lexeme.isQuote d = false := by
    intro d hd
    rcases List.mem_flatMap.1 hd with ⟨part, hmem, hd⟩
    rcases List.mem_cons.1 hd with rfl | hd
    · decide
    · exact hpart.2 part hmem d hd
  have hletters : ∀ d ∈ Vlq.letters v, Lexeme.isQuote d = false := by
    have halphabet : Vlq.alphabet.all (!Lexeme.isQuote ·) = true := by
      decide
    intro d hd
    have hmem := List.all_eq_true.1 halphabet d (Vlq.mem_alphabet_of_mem_letters v d hd)
    rwa [Bool.not_eq_true'] at hmem
  have hdigits : ∀ d ∈ Nat.toDigits 10 n, Lexeme.isQuote d = false := by
    intro d hd
    refine not_isQuote_of_isNameChar ?_
    have hdigit := Nat.isDigit_of_mem_toDigits (by omega) (by omega) hd
    simp only [Config.isNameChar, Char.isAlphanum, hdigit, Bool.or_true, Bool.true_or]
  rw [← renderAlone_hookCall config _ _ call hcall, Engine.toList_call_parts hsplit hcall,
    Lexer.argumentText]
  simp only [List.count_append, List.count_cons, List.count_nil, hnone hpart.1, hnone hdotted,
    hnone hletters, hnone hdigits]
  rw [Lexeme.isQuote, Bool.or_eq_true, beq_iff_eq, beq_iff_eq] at hc
  rcases hc with rfl | rfl <;> rfl

end Quotes

/-- The quotes that calls are written with. -/
def Hook.quotes : Lexeme.Quotes := ⟨'"', false⟩

/-- A call of the hook whose only quotes are the two around its identifier. -/
structure IsQuoting (call : Tree) : Prop where
  isCall : IsCall call
  count : ∀ (layout : Layout) (margin : String) c, Lexeme.isQuote c = true →
    (call.render layout margin).toList.count c = if c = '"' then 2 else 0

section Expressions

variable {layout : Layout} {calls : List (Option Tree)} {q : Lexeme.Quotes}

/-- What pairs put into a text: the calls with what is around them, and how pairs end. -/
inductive PairPiece (layout : Layout) (calls : List (Option Tree)) : List Char → Prop
  | opening {call : Tree} (hcall : some call ∈ calls) (margin : String) :
      PairPiece layout calls ('(' :: ((call.render layout margin).toList ++ [',', ' ']))
  | closing : PairPiece layout calls ")[-1]".toList

/-- Quotes other than those of calls cannot come from calls: there are not enough of them in
    a call, and they are not at its ends. -/
theorem spaced_of_pairPiece (hcalls : ∀ call, some call ∈ calls → IsQuoting call)
    (hquote : Lexeme.isQuote q.mark = true) (hne : q ≠ Hook.quotes) {p : List Char}
    (h : PairPiece layout calls p) : Spaced q.mark (if q.triple then 3 else 1) p := by
  have henough : (if q.mark = '"' then 2 else 0) < if q.triple then 3 else 1 := by
    rcases q with ⟨mark, triple⟩
    cases triple
    · have hmark : mark ≠ '"' := fun heq => hne (by rw [heq]; rfl)
      dsimp only
      rw [if_neg hmark]
      exact Nat.one_pos
    · rw [if_pos rfl]
      split_ifs <;> decide
  have hother : ∀ d, Lexeme.isQuote d = false → d ≠ q.mark := by
    rintro d hd rfl
    exact Bool.false_ne_true (hd.symm.trans hquote)
  cases h with
  | opening hcall margin =>
      rw [List.append_cons]
      refine .of_ends (hother _ (by decide)) (hother _ (by decide)) ?_
      rw [List.count_append, (hcalls _ hcall).count layout margin _ hquote,
        List.count_cons_of_ne (hother ',' (by decide)), List.count_nil]
      exact henough
  | closing =>
      refine @Spaced.of_ends _ ')' ']' _ "[-1".toList (hother _ (by decide)) (hother _ (by decide)) ?_
      rw [List.count_eq_zero.2 fun hmem => ?_]
      · exact Nat.lt_of_le_of_lt (Nat.zero_le _) henough
      · have hall : "[-1".toList.all (!Lexeme.isQuote ·) = true := by decide
        have hnot := List.all_eq_true.1 hall _ hmem
        rw [hquote] at hnot
        exact Bool.false_ne_true hnot

/-- If other quotes are not in an expression, they are not in it with calls. -/
theorem not_infix_insertCalls {e : Tree} (hno : e.Everywhere NoDefinition)
    (hlength : calls.length = functionCount e)
    (hcalls : ∀ call, some call ∈ calls → IsQuoting call) (hquote : Lexeme.isQuote q.mark = true)
    (hne : q ≠ Hook.quotes) {margin : String}
    (h : ¬ q.text <:+: (e.render layout margin).toList) :
    ¬ q.text <:+: ((insertCalls e calls).1.render layout margin).toList := by
  have hpairs : AllowsPairs (PairPiece layout calls) layout calls :=
    ⟨fun call hcall margin => .opening hcall margin, .closing⟩
  exact fun hinfix => h ((extends_insertCalls e calls hno hlength hpairs margin).infix_of_replicate
    (fun p hp => spaced_of_pairPiece hcalls hquote hne hp) hinfix)

/-- With a call, the quotes of calls are in a tree. -/
theorem infix_insertCalls {e call : Tree} (hfits : e.Everywhere Fits)
    (hlength : calls.length = functionCount e)
    (hcalls : ∀ call, some call ∈ calls → IsQuoting call) (hcall : some call ∈ calls)
    (margin : String) :
    Hook.quotes.text <:+: ((insertCalls e calls).1.render layout margin).toList := by
  rcases inside_insertCalls e calls hfits hlength (fun call h => (hcalls call h).isCall)
    ⟨call, hcall⟩ with ⟨call, hcall, hinside⟩
  rcases hinside.infix_render layout margin with ⟨within, hinfix⟩
  have hcount := (hcalls call hcall).count layout within '"' rfl
  rw [if_pos rfl] at hcount
  have hmem : '"' ∈ (call.render layout within).toList :=
    List.count_pos_iff.1 (by rw [hcount]; exact Nat.two_pos)
  rcases List.append_of_mem hmem with ⟨before, after, htext⟩
  refine List.IsInfix.trans ⟨before, after, ?_⟩ hinfix
  rw [htext, List.append_assoc]
  rfl

end Expressions

/-! ### Literals with calls -/

theorem indifferent_cleanFields (layout : Layout) : Indifferent (CleanFields layout) where
  function kind ts hkind heq := by
    rw [heq] at hkind
    exact absurd hkind Bool.false_ne_true
  line _ := nofun
  suite _ := nofun
  leading := nofun
  semicolon _ _ := nofun
  separator _ := nofun
  sequenced _ := nofun
  call _ := nofun
  statement _ := nofun
  block _ _ _ _ _ := iff_of_true nofun nofun

section Literals

variable {layout : Layout}

/-- A literal gets its quotes into a field exactly by a call for a function in one, if they
    are those of calls. -/
theorem cleanFields_insertCallsAll_iff {kind : Kind} {ts : List Tree} {used : List (Option Tree)}
    (hfits : Tree.EverywhereAll Fits ts) (hno : DefinesNothing kind ts)
    (hclean : CleanFields layout kind ts) (hlength : used.length = functionCountAll ts)
    (hcalls : ∀ call, some call ∈ used → IsQuoting call) :
    CleanFields layout kind (insertCallsAll ts used).1 ↔
      ∀ w call, (w, some call) ∈ (Tree.functionWaysAll 0 ts).zip used →
        ¬ (kind = .formatted ∧ quotesOf? ts = some Hook.quotes ∧
          ∃ v x e, w = v ++ x ∧ FieldAt ts v e) := by
  constructor
  · rintro hclean' w call hcall ⟨rfl, hquotes, v, x, e, rfl, hfield⟩
    rcases fieldAt_insertCallsAll hfield hlength with ⟨own, hshare, hfield'⟩
    have hown := (List.of_mem_zip ((hshare.mem x _).1 hcall)).2
    rw [← quotesOf?_insertCallsAll ts used] at hquotes
    exact hclean' rfl _ hquotes v _ hfield' (infix_insertCalls (hfield.everywhere hfits) hshare.length
      (fun call h => hcalls call (hshare.subset h)) hown "")
  · rintro hnone rfl q hquotes v e' hfield'
    rw [quotesOf?_insertCallsAll] at hquotes
    rcases eq_of_fieldAt_insertCallsAll hfield' hlength with ⟨e, own, hfield, hshare, rfl⟩
    have hbefore := hclean rfl q hquotes v e hfield
    by_cases hq : q = Hook.quotes
    · -- A call in the expression would be one for a function in a field.
      have hsame : (insertCalls e own).1 = e := by
        refine (insertCalls_of_none e own fun call hown => ?_).1
        cases call with
        | none => rfl
        | some call =>
            rcases hshare.exists_mem_zip hown with ⟨x, hx⟩
            exact absurd ⟨rfl, hq ▸ hquotes, v, x, e, rfl, hfield⟩
              (hnone (v ++ x) call ((hshare.mem x _).2 hx))
      rwa [hsame]
    · exact not_infix_insertCalls (hfield.everywhere (hno rfl)) hshare.length
        (fun call h => hcalls call (hshare.subset h)) (isQuote_of_quotesOf? hquotes) hq hbefore

/-- No call is for a function in a field of a literal that has the quotes of calls. -/
def NoneInField (t : Tree) (used : List (Option Tree)) : Prop :=
  ∀ w call, (w, some call) ∈ t.functionWays.zip used → ¬ t.InField Hook.quotes w

/-- What is known of a tree in which fields are clean before calls are put in. -/
structure Prepared (layout : Layout) (t : Tree) : Prop where
  fits : t.Everywhere Fits
  shaped : t.Everywhere Shaped
  definesNothing : t.Everywhere DefinesNothing
  clean : t.HasCleanFields layout

theorem Prepared.child {kind : Kind} {ts : List Tree} (h : Prepared layout (.node kind ts)) {t : Tree}
    (ht : t ∈ ts) : Prepared layout t where
  fits := (Tree.everywhereAll_iff ts).1 h.fits.2 t ht
  shaped := (Tree.everywhereAll_iff ts).1 h.shaped.2 t ht
  definesNothing := (Tree.everywhereAll_iff ts).1 h.definesNothing.2 t ht
  clean := (Tree.everywhereAll_iff ts).1 h.clean.2 t ht

/-- Whether fields stay clean is a matter of the calls for functions in fields. -/
def StaysClean (layout : Layout) (t : Tree) : Prop :=
  ∀ used : List (Option Tree), used.length = functionCount t →
    (∀ call, some call ∈ used → IsQuoting call) →
      ((insertCalls t used).1.HasCleanFields layout ↔ NoneInField t used)

section Row

variable {ts : List Tree} {used : List (Option Tree)}

/-- For trees in a row it is a matter of the fields in each of them. -/
theorem everywhereAll_cleanFields_iff (hrow : ∀ t ∈ ts, StaysClean layout t)
    (hlength : used.length = functionCountAll ts)
    (hcalls : ∀ call, some call ∈ used → IsQuoting call) :
    Tree.EverywhereAll (CleanFields layout) (insertCallsAll ts used).1 ↔
      ∀ i w call, (i :: w, some call) ∈ (Tree.functionWaysAll 0 ts).zip used →
        ¬ ∃ t, ts[i]? = some t ∧ t.InField Hook.quotes w := by
  have hpart : ∀ i t, ts[i]? = some t → ∃ own, Share (Tree.functionWaysAll 0 ts) used [i] t own ∧
      (insertCallsAll ts used).1[i]? = some (insertCalls t own).1 ∧
        ((insertCalls t own).1.HasCleanFields layout ↔ NoneInField t own) := by
    intro i t ht
    rcases exists_share 0 hlength ht with ⟨own, hshare, hget⟩
    rw [Nat.zero_add] at hshare
    exact ⟨own, hshare, hget, hrow t (List.mem_of_getElem? ht) own hshare.length
      fun call hown => hcalls call (hshare.subset hown)⟩
  rw [Tree.everywhereAll_iff]
  constructor
  · rintro hclean i w call hcall ⟨t, ht, hfield⟩
    rcases hpart i t ht with ⟨own, hshare, hget, hiff⟩
    exact hiff.1 (hclean _ (List.mem_of_getElem? hget)) w call ((hshare.mem w _).1 hcall) hfield
  · intro hnone t' ht'
    rcases List.getElem?_of_mem ht' with ⟨i, hi⟩
    cases t' with
    | leaf l => exact trivial
    | node kind us =>
        rcases exists_of_getElem?_insertCallsAll hi with ⟨us', ht⟩
        rcases hpart i _ ht with ⟨own, hshare, hget, hiff⟩
        rw [Option.some.inj (hi.symm.trans hget)]
        exact hiff.2 fun w call hcall hfield =>
          hnone i w call ((hshare.mem w _).2 hcall) ⟨_, ht, hfield⟩

/-- The same for a node that is no function. -/
theorem staysClean_node {kind : Kind} (h : Prepared layout (.node kind ts))
    (hrow : ∀ t ∈ ts, StaysClean layout t) (hkind : isFunction kind = false) :
    StaysClean layout (.node kind ts) := by
  intro used hlength hcalls
  rw [functionCount, hkind, if_neg Bool.false_ne_true, Nat.add_zero] at hlength
  rw [insertCalls_node hkind, Tree.HasCleanFields, Tree.Everywhere,
    cleanFields_insertCallsAll_iff h.fits.2 h.definesNothing.1 h.clean.1 hlength hcalls,
    everywhereAll_cleanFields_iff hrow hlength hcalls, NoneInField, Tree.functionWays_node ts hkind]
  constructor
  · rintro ⟨hnode, hparts⟩ w call hcall hfield
    rcases Tree.exists_of_mem_functionWaysAll (List.of_mem_zip hcall).1 with ⟨i, u, rfl⟩
    rcases Tree.inField_cons_iff.1 hfield with hchild | hhere
    · exact hparts _ u call hcall hchild
    · exact hnode _ call hcall hhere
  · intro hnone
    refine ⟨fun w call hcall hhere => ?_, fun i w call hcall hchild =>
      hnone _ call hcall (Tree.inField_cons_iff.2 (.inl hchild))⟩
    rcases Tree.exists_of_mem_functionWaysAll (List.of_mem_zip hcall).1 with ⟨i, u, rfl⟩
    exact hnone _ call hcall (Tree.inField_cons_iff.2 (.inr hhere))

/-- The same for a function. Its own call is in none of its fields. -/
theorem staysClean_function {kind : Kind} (h : Prepared layout (.node kind ts))
    (hrow : ∀ t ∈ ts, StaysClean layout t) (hkind : isFunction kind = true) :
    StaysClean layout (.node kind ts) := by
  intro used hlength hcalls
  rw [functionCount, if_pos hkind] at hlength
  rcases List.eq_nil_or_concat used with rfl | ⟨inner, own, rfl⟩
  · exact absurd hlength (Nat.succ_ne_zero _).symm
  rw [List.concat_eq_append] at hlength hcalls ⊢
  rw [List.length_append, List.length_singleton] at hlength
  have hinner := Nat.succ.inj hlength
  have hinnerCalls : ∀ call, some call ∈ inner → IsQuoting call := fun call hcall =>
    hcalls call (List.mem_append_left _ hcall)
  have hnode : (insertCalls (.node kind ts) (inner ++ [own])).1.HasCleanFields layout ↔
      Tree.EverywhereAll (CleanFields layout) (insertCallsAll ts inner).1 := by
    have hshaped := (shaped_insertCallsAll ts inner h.shaped.2 fun call hcall =>
      (hinnerCalls call hcall).isCall).1
    rw [insertCalls, insertCallsAll_append ts inner [own] hinner]
    simp only [if_pos ((isFunction_iff kind).1 hkind)]
    cases own with
    | none => exact and_iff_right ((indifferent_cleanFields layout).function kind _ hkind)
    | some call =>
        exact (indifferent_cleanFields layout).everywhere_insertCall
          (hcalls call (List.mem_append_right _ List.mem_cons_self)).isCall hkind hshaped
  have hways : (.node kind ts : Tree).functionWays = Tree.functionWaysAll 0 ts ++ [[]] :=
    Tree.functionWays_function ts hkind
  have hlengths : (Tree.functionWaysAll 0 ts).length = inner.length := by
    rw [Tree.length_functionWaysAll, hinner]
  have hnot : kind ≠ .formatted := by
    rintro rfl
    exact Bool.false_ne_true hkind
  rw [hnode, everywhereAll_cleanFields_iff hrow hinner hinnerCalls, NoneInField, hways,
    List.zip_append hlengths]
  constructor
  · intro hnone w call hcall hfield
    rcases List.mem_append.1 hcall with hcall | hcall
    · rcases Tree.exists_of_mem_functionWaysAll (List.of_mem_zip hcall).1 with ⟨i, u, rfl⟩
      rcases Tree.inField_cons_iff.1 hfield with hchild | ⟨heq, -⟩
      · exact hnone _ u call hcall hchild
      · exact hnot heq
    · rw [List.mem_singleton.1 (List.of_mem_zip hcall).1] at hfield
      exact Tree.not_inField_nil _ _ hfield
  · exact fun hnone i w call hcall hchild =>
      hnone _ call (List.mem_append_left _ hcall) (Tree.inField_cons_iff.2 (.inl hchild))

end Row

mutual

/-- If the fields in a tree are clean, they stay so exactly if no call is for a function in a
    field of a literal that has the quotes of calls. -/
theorem staysClean : ∀ t : Tree, Prepared layout t → StaysClean layout t
  | .leaf l, _ => fun used _ _ => iff_of_true trivial fun w call hcall =>
      absurd (List.of_mem_zip hcall).1 List.not_mem_nil
  | .node kind ts, h => by
      have hrow := staysCleanAll ts fun t ht => h.child ht
      by_cases hkind : isFunction kind = true
      · exact staysClean_function h hrow hkind
      · exact staysClean_node h hrow (Bool.eq_false_iff.2 hkind)

theorem staysCleanAll : ∀ ts : List Tree, (∀ t ∈ ts, Prepared layout t) →
    ∀ t ∈ ts, StaysClean layout t
  | [], _ => fun _ ht => absurd ht List.not_mem_nil
  | t :: ts, h => List.forall_mem_cons.2
      ⟨staysClean t (h t List.mem_cons_self),
        staysCleanAll ts fun u hu => h u (List.mem_cons_of_mem t hu)⟩

end

end Literals

/-! ### The files of a run -/

/-- The import does not matter to a condition that holds of its line. -/
theorem everywhereAll_injectImport {ok : Kind → List Tree → Prop} {hookNamespace : String}
    (hline : (Hook.importLine hookNamespace).Everywhere ok) (parts : List Tree) :
    Tree.EverywhereAll ok (injectImport hookNamespace parts) ↔ Tree.EverywhereAll ok parts := by
  unfold injectImport
  dsimp only
  split
  · exact Iff.rfl
  · rw [insertLine_eq, Tree.everywhereAll_append, Tree.EverywhereAll, and_iff_right hline,
      ← Tree.everywhereAll_append, List.take_append_drop]

namespace Engine

/-- It has no literals with fields. -/
theorem hasCleanFields_withCalls {config : Config} {m : Module} {ts : List Tree}
    (htree : m.tree = .node .module ts) (calls : List (Option Tree)) (layout : Layout) :
    (withCalls config m calls).tree.HasCleanFields layout ↔
      (insertCalls m.tree calls).1.HasCleanFields layout := by
  have hline : (Hook.importLine config.hookNamespace).Everywhere (CleanFields layout) :=
    ⟨nofun, ⟨nofun, trivial⟩, trivial, ⟨nofun, trivial, trivial, trivial, trivial⟩, trivial, trivial⟩
  have hmodule : ∀ us, CleanFields layout .module us := fun _ => nofun
  have hinsert : (insertCalls m.tree calls).1 = .node .module (insertCallsAll ts calls).1 := by
    rw [htree, insertCalls_module]
  rw [withCalls]
  split
  · rw [Module.injectImport]
    simp only [hinsert]
    exact and_congr (iff_of_true (hmodule _) (hmodule _)) (everywhereAll_injectImport hline _)
  · exact Iff.rfl

/-- What becomes of the fields of literals in a file that a run went through, given the files
    before it, its tree, what became of it, and its calls. -/
structure KeepsFields (config : Config) (earlier : List SourceUnit) (u : SourceUnit) (m : Module)
    (result : InstrumentedUnit) (calls : List (Option Tree)) : Prop where
  /-- The code is that of the tree with calls. -/
  written : result.code = (withCalls config m calls).render
  /-- If no expression in a field had the quotes around its literal, none has them with calls,
      unless a function in a field got a call, and the literal has the quotes of calls. -/
  clean : m.tree.HasCleanFields m.layout →
    ((withCalls config m calls).tree.HasCleanFields m.layout ↔
      ∀ w, IsOpen config earlier u.name → Chosen config u.name m.tree w →
        ¬ m.tree.InField Hook.quotes w)

/-- A call with the letters of a number in it has no other quotes than its own. -/
theorem isQuoting_of_hookCall? {config : Config} (h : config.Accepted) {v line : Int} {call : Tree}
    (hcall : Hook.hookCall? config (Vlq.text v) line = some call) : IsQuoting call where
  isCall := isCall_of_hookCall? hcall
  count layout margin c hc := by
    rw [render_hookCall hcall]
    exact count_callText h hcall hc

/-- The calls of a file are for the functions that are chosen in it. -/
theorem noneInField_iff {config : Config} {earlier : List SourceUnit} {file : String} {t : Tree}
    {calls : List (Option Tree)}
    (h : List.Forall₂ (fun w call => Option.isSome call = true ↔
      IsOpen config earlier file ∧ Chosen config file t w) t.functionWays calls) :
    NoneInField t calls ↔ ∀ w, IsOpen config earlier file → Chosen config file t w →
      ¬ t.InField Hook.quotes w := by
  constructor
  · intro hnone w hopen hchosen
    rcases hchosen.isFunction with ⟨kind, ts, hat, hkind⟩
    have hw : w ∈ t.functionWays := by
      refine List.mem_filter.2 ⟨(Tree.mem_postorder t w).2 ⟨kind, ts, hat⟩, ?_⟩
      rw [Tree.isFunctionAt, hat]
      exact (isFunction_iff kind).2 (hkind.imp id And.left)
    rcases List.getElem?_of_mem hw with ⟨i, hi⟩
    rcases forall₂_getElem? h i w hi with ⟨call, hcall, hiff⟩
    rcases Option.isSome_iff_exists.1 (hiff.2 ⟨hopen, hchosen⟩) with ⟨made, rfl⟩
    exact hnone w made (List.mem_of_getElem? (List.getElem?_zip_eq_some.2 ⟨hi, hcall⟩))
  · intro hnone w call hcall
    have hgets := (List.forall₂_zip h hcall).1 rfl
    exact hnone w hgets.1 hgets.2

/-- Every file of a run keeps its fields as far as calls do not have the quotes around them. -/
def KeepsAllFields (config : Config) (units : List SourceUnit) (o : Outcome) : Prop :=
  ∀ (i : Nat) u, units[i]? = some u → ∃ m result calls, Module.parse? u.code = some m ∧
    o.units[i]? = some result ∧ KeepsFields config (units.take i) u m result calls

/-- For all settings that are made from values and all files, a run that ends well puts the
    quotes around a literal into an expression in one of its fields exactly by a call for a
    function in a field of a literal in double quotes. -/
theorem run_keeps_fields (values : List (String × Value)) (config : Config)
    (hconfig : Config.ofValues values = .ok config) (counter : Int) (units : List SourceUnit)
    (o : Outcome) (h : (run config counter units).outcome = .ok o) (hsuccess : o.success = true) :
    KeepsAllFields config units o := by
  rcases run_ok h hsuccess with ⟨done, seen, hended⟩
  rcases hended.handled.planned hended.root with ⟨-, hplanned⟩
  intro i u hu
  rcases forall₂_getElem? hended.parsed i u hu with ⟨d, hd, hname, hparse⟩
  have hd' := hplanned i d hd
  rw [Bool.false_or, hended.any_definesHook] at hd'
  have hchosen := hd'.calls_chosen
  rw [← hname] at hchosen
  have hlength : d.calls.length = functionCount d.source.tree := by
    rw [← hchosen.length_eq, Tree.length_functionWays]
  -- Each call is that of a site, and a site has the letters of its number.
  have hcalls : ∀ call, some call ∈ d.calls → IsQuoting call := by
    intro call hcall
    rcases List.getElem?_of_mem (List.reduceOption_mem_iff.2 hcall) with ⟨j, hj⟩
    rcases forall₂_getElem? hd'.calls_serve.flip j call hj with ⟨s, hs, hmade⟩
    have hsite : s ∈ o.sites := by
      rw [hended.sites]
      exact List.mem_flatMap.2 ⟨d, List.mem_of_getElem? hd, List.mem_of_getElem? hs⟩
    rw [((Vlq.encode_eq_ok_iff _ _).1 (hended.numbered s hsite)).2] at hmade
    exact isQuoting_of_hookCall? (Config.accepted_of_ofValues hconfig) hmade
  refine ⟨d.source, d.result config, d.calls, hparse, ?_, rfl, fun hclean => ?_⟩
  · rw [hended.units, List.getElem?_map, hd, Option.map_some]
  · rcases parse?_fits hparse with ⟨hfits, above, more, htree⟩
    have hprepared : Prepared d.source.layout d.source.tree :=
      ⟨hfits, parse?_shaped hparse, parse?_definesNothing hparse, hclean⟩
    rw [hasCleanFields_withCalls htree, staysClean d.source.tree hprepared d.calls hlength hcalls,
      noneInField_iff hchosen]

/-- Whether the quotes around literals are in their fields, in a text that is a file. -/
def cleanFields? (text : String) : Option Bool :=
  (Module.parse? text).map fun m => decide (m.tree.HasCleanFields m.layout)

/-- A program with a lambda in a literal in double quotes, and one in single quotes. -/
def fieldSample : List SourceUnit :=
  [⟨"instrument_code.py", ""⟩, ⟨"a.py", "x = f\"\x7b(lambda: 0)()\x7d\"\n"⟩,
   ⟨"b.py", "y = f'\x7b(lambda: 0)()\x7d'\n"⟩]

/-- What becomes of its code. -/
def fieldSampleCode : List String :=
  ["",
   "import instrument_code\nx = f\"\x7b(lambda: (instrument_code." ++
     "instrument_code_instance.instrument_code(\"C\", 1), 0)[-1])()\x7d\"\n",
   "import instrument_code\ny = f'\x7b(lambda: (instrument_code." ++
     "instrument_code_instance.instrument_code(\"E\", 1), 0)[-1])()\x7d'\n"]

/-- The first literal has its quotes in its field, the second one has not. -/
theorem run_keeps_fields_single : Config.ofValues [] = .ok {} ∧
    ∃ o, (run {} 0 fieldSample).outcome = .ok o ∧ o.success = true ∧
      KeepsAllFields {} fieldSample o ∧
      fieldSample.map (fun u => cleanFields? u.code) = [some true, some true, some true] ∧
      o.units.map (·.code) = fieldSampleCode ∧
      o.units.map (fun u => cleanFields? u.code) = [some true, some false, some true] := by
  have hconfig : Config.ofValues [] = .ok {} := by
    decide +kernel
  have hbefore : fieldSample.map (fun u => cleanFields? u.code) =
      [some true, some true, some true] := by
    decide +kernel
  have hends : (run {} 0 fieldSample).outcome.toOption.map (fun o => (o.success,
      o.units.map (·.code), o.units.map fun u => cleanFields? u.code)) =
        some (true, fieldSampleCode, [some true, some false, some true]) := by
    decide +kernel
  rcases exists_outcome hends with ⟨o, houtcome, hseen⟩
  simp only [Prod.mk.injEq] at hseen
  rcases hseen with ⟨hsuccess, hcode, hafter⟩
  exact ⟨hconfig, o, houtcome, hsuccess,
    run_keeps_fields [] {} hconfig 0 fieldSample o houtcome hsuccess, hbefore, hcode, hafter⟩

end Engine

end EntryCoverage
