import EntryCoverage.Json.Parser
import Mathlib.Data.List.Basic
import Mathlib.Data.List.DropRight
import Mathlib.Data.List.TakeWhile

/-!
# Lists of Texts in JSON

Which texts are lists of texts, and of which ones.

A list may be written in many ways. Blanks stand around every item, a character stands for
itself or is written with a backslash, by a letter or by number, and where one number is
not enough there are two. `SpellsChar` and `Spells` say what a string may look like, `Items`
and `TextList` do so for what is around strings. None of them knows of a reader.

The reader has a number of steps in hand, of which a string takes one for each character
and a list takes one for each item. Every item and every character is written with at least
one character, so the length of the text is enough for both. In the other direction nothing
needs to be counted: what was read is what a list of texts is written as, however many
steps were left.

## Main definitions

* `Blank`: Characters that may stand between the parts of a text.
* `SpellsChar`, `Spells`: What a string is written as.
* `Items`, `TextList`: What a list of texts is written as.

## Theorems

* `stringWithin_of_spellsChar`: A character is read off what it is written as.
* `string?_eq_some_iff`: The strings that are read.
* `valueWithin_text_iff`: The texts that are read.
* `itemsWithin_of_items`, `items_of_itemsWithin`: The items that are read.
* `parse?_texts_iff`: The lists of texts that are read.
-/

namespace EntryCoverage

namespace Json

/-- Characters that may stand between the parts of a text. -/
def Blank (cs : List Char) : Prop := ∀ c ∈ cs, isSpace c = true

/-- What a character may be written as in a string: itself, unless it is a quote, a
    backslash or a control character; a backslash and the letter that stands for it; or its
    number, which is that of a pair if it has more than four digits. -/
inductive SpellsChar : List Char → Char → Prop
  | plain {c : Char} (hquote : c ≠ '"') (hslash : c ≠ '\\') (hshown : ¬ c.toNat < 0x20) :
      SpellsChar [c] c
  | letter {e c : Char} (h : escaped? e = some c) : SpellsChar ['\\', e] c
  | number {ds : List Char} {n : Nat} (h : hex4? ds = some (n, []))
      (hwhole : n < 0xd800 ∨ 0xe000 ≤ n) : SpellsChar ('\\' :: 'u' :: ds) (Char.ofNat n)
  | pair {ds ds' : List Char} {high low : Nat} (hhigh : high < 0x400) (hlow : low < 0x400)
      (h : hex4? ds = some (0xd800 + high, [])) (h' : hex4? ds' = some (0xdc00 + low, [])) :
      SpellsChar ('\\' :: 'u' :: ds ++ '\\' :: 'u' :: ds')
        (Char.ofNat (0x10000 + high * 0x400 + low))

/-- What characters in a row may be written as between the quotes of a string. -/
inductive Spells : List Char → List Char → Prop
  | nil : Spells [] []
  | cons {w rest : List Char} {c : Char} {cs : List Char} (h : SpellsChar w c)
      (hrest : Spells rest cs) : Spells (w ++ rest) (c :: cs)

/-- What the items of a list of texts may be written as, if there are any: strings with
    blanks around them and commas between them. -/
inductive Items : List Char → List String → Prop
  | last {before w after : List Char} {s : String} (hbefore : Blank before)
      (h : Spells w s.toList) (hafter : Blank after) :
      Items (before ++ '"' :: (w ++ '"' :: after)) [s]
  | more {before w after rest : List Char} {s : String} {texts : List String}
      (hbefore : Blank before) (h : Spells w s.toList) (hafter : Blank after)
      (hrest : Items rest texts) :
      Items (before ++ '"' :: (w ++ '"' :: (after ++ ',' :: rest))) (s :: texts)

/-- What a list of texts may be written as. -/
inductive TextList : List Char → List String → Prop
  | empty {before within after : List Char} (hbefore : Blank before) (hwithin : Blank within)
      (hafter : Blank after) : TextList (before ++ '[' :: (within ++ ']' :: after)) []
  | items {before w after : List Char} {texts : List String} (hbefore : Blank before)
      (h : Items w texts) (hafter : Blank after) :
      TextList (before ++ '[' :: (w ++ ']' :: after)) texts

/-! ### Blanks -/

/-- Blanks are passed over, and what comes after them is looked at. -/
theorem skipSpace_append {before : List Char} (h : Blank before) (cs : List Char) :
    skipSpace (before ++ cs) = skipSpace cs := by
  induction before with
  | nil => rfl
  | cons c before ih =>
      rw [List.cons_append, skipSpace, List.dropWhile_cons, if_pos (h c List.mem_cons_self)]
      exact ih fun d hd => h d (List.mem_cons_of_mem _ hd)

theorem skipSpace_cons {c : Char} (h : isSpace c = false) (cs : List Char) :
    skipSpace (c :: cs) = c :: cs := by
  rw [skipSpace, List.dropWhile_cons, h]
  exact if_neg Bool.false_ne_true

/-- What is passed over is blank. -/
theorem exists_blank (cs : List Char) : ∃ before, Blank before ∧ cs = before ++ skipSpace cs :=
  ⟨cs.takeWhile isSpace, fun _ hc => List.mem_takeWhile_imp hc,
    List.takeWhile_append_dropWhile.symm⟩

/-! ### Characters -/

/-- Four digits are read as they are, whatever follows them. -/
theorem hex4?_append {cs : List Char} {n : Nat} (h : hex4? cs = some (n, []))
    (rest : List Char) : hex4? (cs ++ rest) = some (n, rest) := by
  unfold hex4? at h
  split at h
  · simp only [Option.bind_eq_bind, Option.bind_eq_some_iff, Option.some.injEq,
      Prod.mk.injEq] at h
    rcases h with ⟨a, ha, b, hb, c, hc, d, hd, hn, rfl⟩
    simp only [List.cons_append, List.nil_append, hex4?, ha, hb, hc, hd, Option.bind_eq_bind,
      Option.bind_some, hn]
  · simp only [reduceCtorEq] at h

/-- Four digits that were read stand at the beginning. -/
theorem exists_of_hex4? {cs rest : List Char} {n : Nat} (h : hex4? cs = some (n, rest)) :
    ∃ ds, cs = ds ++ rest ∧ hex4? ds = some (n, []) := by
  unfold hex4? at h
  split at h
  · rename_i a b c d more
    refine ⟨[a, b, c, d], ?_⟩
    simp only [Option.bind_eq_bind, Option.bind_eq_some_iff, Option.some.injEq,
      Prod.mk.injEq] at h
    rcases h with ⟨va, ha, vb, hb, vc, hc, vd, hd, hn, rfl⟩
    refine ⟨rfl, ?_⟩
    simp only [hex4?, ha, hb, hc, hd, Option.bind_eq_bind, Option.bind_some, hn]
  · simp only [reduceCtorEq] at h

/-- One number is enough for a character that is no half of a pair. -/
theorem numbered?_of_whole {cs rest : List Char} {n : Nat} (h : hex4? cs = some (n, rest))
    (hwhole : n < 0xd800 ∨ 0xe000 ≤ n) : numbered? cs = some (Char.ofNat n, rest) := by
  simp only [numbered?, h, Option.bind_eq_bind, Option.bind_some, Bool.and_eq_true,
    decide_eq_true_eq]
  rw [if_neg (by omega), if_neg (by omega)]

/-- Two halves in a row are one character. -/
theorem numbered?_of_pair {cs mid rest : List Char} {high low : Nat} (hhigh : high < 0x400)
    (hlow : low < 0x400) (h : hex4? cs = some (0xd800 + high, '\\' :: 'u' :: mid))
    (h' : hex4? mid = some (0xdc00 + low, rest)) :
    numbered? cs = some (Char.ofNat (0x10000 + high * 0x400 + low), rest) := by
  simp only [numbered?, h, h', Option.bind_eq_bind, Option.bind_some, Bool.and_eq_true,
    decide_eq_true_eq]
  rw [if_pos (by omega), if_pos (by omega), Nat.add_sub_cancel_left, Nat.add_sub_cancel_left]

/-- A character that needs no other form is read as it is. -/
theorem stringWithin_plain (c : Char) (hquote : c ≠ '"') (hslash : c ≠ '\\')
    (hshown : ¬ c.toNat < 0x20) (steps : Nat) (rest : List Char) :
    stringWithin (steps + 1) (c :: rest) =
      (stringWithin steps rest).map fun (cs, rest) => (c :: cs, rest) := by
  have hq : (c == '"') = false := beq_eq_false_iff_ne.2 hquote
  have hs : (c == '\\') = false := beq_eq_false_iff_ne.2 hslash
  rw [stringWithin.eq_def]
  simp only [hq, hs, Bool.false_eq_true, if_false, if_neg hshown]
  cases stringWithin steps rest <;> rfl

/-- A letter after a backslash is read as what it stands for. -/
theorem stringWithin_escaped (e c : Char) (hletter : e ≠ 'u') (h : escaped? e = some c)
    (steps : Nat) (rest : List Char) :
    stringWithin (steps + 1) ('\\' :: e :: rest) =
      (stringWithin steps rest).map fun (cs, rest) => (c :: cs, rest) := by
  have hq : ('\\' == '"') = false := by decide
  rw [stringWithin.eq_def]
  simp only [hq, Bool.false_eq_true, if_false, beq_self_eq_true, if_true, h,
    Option.bind_eq_bind, Option.bind_some]
  cases stringWithin steps rest <;> rfl

/-- A character by number is read as that character, and the string goes on. -/
theorem stringWithin_numbered {digits mid : List Char} {c : Char}
    (h : numbered? digits = some (c, mid)) (steps : Nat) :
    stringWithin (steps + 1) ('\\' :: 'u' :: digits) =
      (stringWithin steps mid).map fun (cs, rest) => (c :: cs, rest) := by
  rw [stringWithin, if_neg (by decide), if_pos (by decide)]
  simp only [h, Option.bind_eq_bind, Option.bind_some]
  cases stringWithin steps mid <;> rfl

/-- A character is read off what it is written as, and the string goes on with what
    follows. -/
theorem stringWithin_of_spellsChar {w : List Char} {c : Char} (h : SpellsChar w c) (steps : Nat)
    (rest : List Char) :
    stringWithin (steps + 1) (w ++ rest) =
      (stringWithin steps rest).map fun (cs, rest) => (c :: cs, rest) := by
  cases h with
  | plain hquote hslash hshown => exact stringWithin_plain c hquote hslash hshown steps rest
  | @letter e _ h =>
      refine stringWithin_escaped e c ?_ h steps rest
      rintro rfl
      have hnone : escaped? 'u' = none := by decide
      rw [hnone] at h
      simp only [reduceCtorEq] at h
  | number h hwhole =>
      exact stringWithin_numbered (numbered?_of_whole (hex4?_append h rest) hwhole) steps
  | @pair ds ds' high low hhigh hlow h h' =>
      -- The first half asks for the second one, which follows it.
      have hpair := numbered?_of_pair hhigh hlow (hex4?_append h ('\\' :: 'u' :: (ds' ++ rest)))
        (hex4?_append h' rest)
      have hread := stringWithin_numbered hpair steps
      simpa only [List.cons_append, List.append_assoc] using hread

/-- A character by number that was read stands at the beginning. -/
theorem exists_of_numbered? {digits mid : List Char} {c : Char}
    (h : numbered? digits = some (c, mid)) :
    ∃ w, '\\' :: 'u' :: digits = w ++ mid ∧ SpellsChar w c := by
  simp only [numbered?, Option.bind_eq_bind, Option.bind_eq_some_iff, Bool.and_eq_true,
    decide_eq_true_eq] at h
  rcases h with ⟨⟨n, rest⟩, hn, h⟩
  rcases exists_of_hex4? hn with ⟨ds, rfl, hds⟩
  dsimp only at h
  split at h
  · -- half of a pair, and the other half
    rename_i hhigh
    split at h
    · rename_i more
      rw [Option.bind_eq_some_iff] at h
      rcases h with ⟨⟨m, rest'⟩, hm, h⟩
      rcases exists_of_hex4? hm with ⟨ds', rfl, hds'⟩
      rw [Option.ite_none_right_eq_some, Option.some.injEq, Prod.mk.injEq] at h
      rcases h with ⟨hlow, rfl, rfl⟩
      refine ⟨'\\' :: 'u' :: ds ++ '\\' :: 'u' :: ds', ?_, ?_⟩
      · simp only [List.cons_append, List.append_assoc]
      · refine .pair (by omega) (by omega) ?_ ?_
        · rw [hds, Nat.add_sub_cancel' hhigh.1]
        · rw [hds', Nat.add_sub_cancel' hlow.1]
    · simp only [reduceCtorEq] at h
  · rw [Option.ite_none_left_eq_some, Option.some.injEq, Prod.mk.injEq] at h
    rcases h with ⟨hlow, rfl, rfl⟩
    exact ⟨'\\' :: 'u' :: ds, rfl, .number hds (by omega)⟩

/-! ### Strings -/

/-- A string ends with its quote or goes on after one of its characters. -/
theorem stringWithin_cases {steps : Nat} {cs s rest : List Char}
    (h : stringWithin (steps + 1) cs = some (s, rest)) :
    (s = [] ∧ cs = '"' :: rest) ∨ ∃ w c mid s', cs = w ++ mid ∧ SpellsChar w c ∧ s = c :: s' ∧
      stringWithin steps mid = some (s', rest) := by
  cases cs with
  | nil => simp only [stringWithin, reduceCtorEq] at h
  | cons c cs =>
      rw [stringWithin.eq_def] at h
      dsimp only at h
      split at h
      · rename_i hquote
        rw [Option.some.injEq, Prod.mk.injEq] at h
        exact Or.inl ⟨h.1.symm, by rw [eq_of_beq hquote, h.2]⟩
      · rename_i hquote
        have hquote : c ≠ '"' := fun hc => hquote (beq_iff_eq.2 hc)
        refine Or.inr ?_
        split at h
        · rename_i hslash
          rw [eq_of_beq hslash]
          split at h
          · -- by number
            simp only [Option.bind_eq_bind, Option.bind_eq_some_iff, Option.some.injEq,
              Prod.mk.injEq] at h
            rcases h with ⟨⟨d, mid⟩, hd, ⟨s', rest'⟩, hs', rfl, rfl⟩
            rcases exists_of_numbered? hd with ⟨w, hw, hspells⟩
            exact ⟨w, d, mid, s', hw, hspells, rfl, hs'⟩
          · -- by letter
            rename_i e more _
            simp only [Option.bind_eq_bind, Option.bind_eq_some_iff, Option.some.injEq,
              Prod.mk.injEq] at h
            rcases h with ⟨d, hd, ⟨s', rest'⟩, hs', rfl, rfl⟩
            exact ⟨['\\', e], d, more, s', rfl, .letter hd, rfl, hs'⟩
          · simp only [reduceCtorEq] at h
        · rename_i hslash
          have hslash : c ≠ '\\' := fun hc => hslash (beq_iff_eq.2 hc)
          split at h
          · simp only [reduceCtorEq] at h
          · rename_i hshown
            simp only [Option.bind_eq_bind, Option.bind_eq_some_iff, Option.some.injEq,
              Prod.mk.injEq] at h
            rcases h with ⟨⟨s', rest'⟩, hs', rfl, rfl⟩
            exact ⟨[c], c, cs, s', rfl, .plain hquote hslash hshown, rfl, hs'⟩

/-- What was read as a string is what that string may be written as, and its quote. -/
theorem spells_of_stringWithin {steps : Nat} {cs s rest : List Char}
    (h : stringWithin steps cs = some (s, rest)) : ∃ w, cs = w ++ '"' :: rest ∧ Spells w s := by
  induction steps generalizing cs s with
  | zero => simp only [stringWithin, reduceCtorEq] at h
  | succ steps ih =>
      rcases stringWithin_cases h with ⟨rfl, rfl⟩ | ⟨w, c, mid, s', rfl, hspells, rfl, hmore⟩
      · exact ⟨[], rfl, .nil⟩
      · rcases ih hmore with ⟨w', rfl, hrest⟩
        exact ⟨w ++ w', (List.append_assoc _ _ _).symm, .cons hspells hrest⟩

theorem SpellsChar.ne_nil {w : List Char} {c : Char} (h : SpellsChar w c) : w ≠ [] := by
  cases h <;> exact List.cons_ne_nil _ _

/-- No character is written as nothing. -/
theorem Spells.length_le {w cs : List Char} (h : Spells w cs) : cs.length ≤ w.length := by
  induction h with
  | nil => exact Nat.le_refl _
  | cons h _ ih =>
      have hpos := List.length_pos_iff.2 h.ne_nil
      rw [List.length_cons, List.length_append]
      omega

/-- A string is read off what it may be written as, with a step for each character. -/
theorem stringWithin_of_spells {w cs : List Char} (h : Spells w cs) (steps : Nat)
    (rest : List Char) (hsteps : cs.length < steps) :
    stringWithin steps (w ++ '"' :: rest) = some (cs, rest) := by
  induction h generalizing steps with
  | nil =>
      cases steps with
      | zero => exact absurd hsteps (Nat.not_lt_zero _)
      | succ steps => rfl
  | cons h _ ih =>
      cases steps with
      | zero => exact absurd hsteps (Nat.not_lt_zero _)
      | succ steps =>
          rw [List.append_assoc, stringWithin_of_spellsChar h,
            ih steps (Nat.lt_of_succ_lt_succ hsteps)]
          rfl

/-- The strings that are read. -/
theorem string?_eq_some_iff (cs rest : List Char) (s : String) :
    string? cs = some (s, rest) ↔ ∃ w, cs = w ++ '"' :: rest ∧ Spells w s.toList := by
  rw [string?, Option.map_eq_some_iff]
  constructor
  · rintro ⟨⟨s', rest'⟩, hread, heq⟩
    rcases Prod.mk.inj heq with ⟨rfl, rfl⟩
    rw [String.toList_ofList]
    exact spells_of_stringWithin hread
  · rintro ⟨w, rfl, hspells⟩
    have hle := hspells.length_le
    refine ⟨(s.toList, rest), stringWithin_of_spells hspells _ rest ?_, ?_⟩
    · rw [List.length_append, List.length_cons]
      omega
    · exact congrArg (·, rest) (String.ofList_toList)

/-! ### Values -/

/-- Whether a value has no parts and is no text. -/
def isScalar : Value → Bool
  | .text _ | .list _ | .table _ => false
  | _ => true

theorem isScalar_of_words {cs rest : List Char} {v : Value}
    (h : (words.findSome? fun (word, v) => (Text.after? word cs).map (v, ·)) = some (v, rest)) :
    isScalar v = true := by
  rcases List.exists_of_findSome?_eq_some h with ⟨⟨word, u⟩, hmem, hword⟩
  rcases Option.map_eq_some_iff.1 hword with ⟨_, -, heq⟩
  rw [← (Prod.mk.inj heq).1]
  exact (by decide : ∀ entry ∈ words, isScalar entry.2 = true) (word, u) hmem

theorem isScalar_of_number? {cs rest : List Char} {v : Value} (h : number? cs = some (v, rest)) :
    isScalar v = true := by
  -- Whatever its parts are, it is an integer or a decimal in the end.
  have hend : ∀ (short : Bool) (n : Int) (t : String) (mid : List Char),
      (if short then some (Value.int n, mid) else some (.decimal t, mid)) = some (v, rest) →
        isScalar v = true := by
    intro short n t mid hv
    cases short <;> (rw [← (Prod.mk.inj (Option.some.inj hv)).1]; rfl)
  simp only [number?] at h
  rw [Option.ite_none_left_eq_some] at h
  exact hend _ _ _ _ h.2

/-- A value that is no scalar begins with a quote or a bracket. -/
theorem valueWithin_cases {steps : Nat} {cs rest : List Char} {v : Value}
    (h : valueWithin (steps + 1) cs = some (v, rest)) :
    isScalar v = true ∨ (∃ es, v = .table es) ∨
      (∃ s mid, v = .text s ∧ skipSpace cs = '"' :: mid ∧ string? mid = some (s, rest)) ∨
      ∃ vs mid, v = .list vs ∧ skipSpace cs = '[' :: mid ∧
        ((vs = [] ∧ skipSpace mid = ']' :: rest) ∨
          itemsWithin steps (skipSpace mid) = some (vs, rest)) := by
  rw [valueWithin] at h
  split at h
  · rename_i mid hcs
    rcases Option.map_eq_some_iff.1 h with ⟨⟨s, rest'⟩, hs, heq⟩
    rcases Prod.mk.inj heq with ⟨rfl, rfl⟩
    exact .inr (.inr (.inl ⟨s, mid, rfl, hcs, hs⟩))
  · rename_i mid hcs
    refine .inr (.inr (.inr ?_))
    split at h
    · rename_i hclose
      rcases Prod.mk.inj (Option.some.inj h) with ⟨rfl, rfl⟩
      exact ⟨[], mid, rfl, hcs, .inl ⟨rfl, hclose⟩⟩
    · rcases Option.map_eq_some_iff.1 h with ⟨⟨vs, rest'⟩, hvs, heq⟩
      rcases Prod.mk.inj heq with ⟨rfl, rfl⟩
      exact ⟨vs, mid, rfl, hcs, .inr hvs⟩
  · refine .inr (.inl ?_)
    split at h
    · exact ⟨[], (Prod.mk.inj (Option.some.inj h)).1.symm⟩
    · rcases Option.map_eq_some_iff.1 h with ⟨⟨es, rest'⟩, -, heq⟩
      exact ⟨es, (Prod.mk.inj heq).1.symm⟩
  · refine .inl ?_
    split at h
    · rename_i hword
      rw [h] at hword
      exact isScalar_of_words hword
    · exact isScalar_of_number? h

/-- The texts that are read: strings after blanks. -/
theorem valueWithin_text_iff (steps : Nat) (cs rest : List Char) (s : String) :
    valueWithin (steps + 1) cs = some (.text s, rest) ↔
      ∃ before w, Blank before ∧ cs = before ++ '"' :: (w ++ '"' :: rest) ∧ Spells w s.toList := by
  constructor
  · intro h
    rcases valueWithin_cases h with hscalar | ⟨es, htable⟩ | ⟨s', mid, htext, hmid, hread⟩ |
      ⟨vs, mid, hlist, -⟩
    · exact absurd hscalar Bool.false_ne_true
    · exact absurd htable (by simp only [reduceCtorEq, not_false_eq_true])
    · cases htext
      rcases exists_blank cs with ⟨before, hbefore, hcs⟩
      rcases (string?_eq_some_iff mid rest s).1 hread with ⟨w, rfl, hspells⟩
      refine ⟨before, w, hbefore, ?_, hspells⟩
      rw [← hmid, ← hcs]
    · exact absurd hlist (by simp only [reduceCtorEq, not_false_eq_true])
  · rintro ⟨before, w, hbefore, rfl, hspells⟩
    have hread := (string?_eq_some_iff _ rest s).2 ⟨w, rfl, hspells⟩
    rw [valueWithin, skipSpace_append hbefore, skipSpace_cons (by decide)]
    simp only [hread, Option.map_some]

/-! ### Lists -/

theorem skipSpace_skipSpace (cs : List Char) : skipSpace (skipSpace cs) = skipSpace cs :=
  List.dropWhile_idempotent isSpace cs

/-- The items of a list are read with the blanks before them or without. -/
theorem itemsWithin_skipSpace (steps : Nat) (cs : List Char) :
    itemsWithin steps (skipSpace cs) = itemsWithin steps cs := by
  have hvalue : ∀ k, valueWithin k (skipSpace cs) = valueWithin k cs := by
    intro k
    cases k with
    | zero => rfl
    | succ k => rw [valueWithin, valueWithin, skipSpace_skipSpace]
  cases steps with
  | zero => rfl
  | succ steps => rw [itemsWithin, itemsWithin, hvalue]

/-- Every item is written with a quote at least. -/
theorem Items.length_le {w : List Char} {texts : List String} (h : Items w texts) :
    texts.length ≤ w.length := by
  induction h with
  | last _ _ _ =>
      simp only [List.length_append, List.length_cons, List.length_nil]
      omega
  | more _ _ _ _ ih =>
      simp only [List.length_append, List.length_cons]
      omega

/-- What the items of a list are written as begins with a quote, after blanks. -/
theorem Items.exists_skipSpace {w : List Char} {texts : List String} (h : Items w texts)
    (rest : List Char) : ∃ mid, skipSpace (w ++ rest) = '"' :: mid := by
  cases h with
  | last hbefore _ _ =>
      rw [List.append_assoc, skipSpace_append hbefore]
      exact ⟨_, skipSpace_cons (by decide) _⟩
  | more hbefore _ _ _ =>
      rw [List.append_assoc, skipSpace_append hbefore]
      exact ⟨_, skipSpace_cons (by decide) _⟩

section Item

variable {before w after mid rest : List Char} {s : String}

/-- A string before the end of a list is its last item. -/
theorem itemsWithin_last (hbefore : Blank before) (h : Spells w s.toList) (hafter : Blank after)
    (hmid : skipSpace mid = ']' :: rest) (steps : Nat) :
    itemsWithin (steps + 2) (before ++ '"' :: (w ++ '"' :: (after ++ mid))) =
      some ([.text s], rest) := by
  have hvalue := (valueWithin_text_iff steps _ (after ++ mid) s).2 ⟨before, w, hbefore, rfl, h⟩
  rw [itemsWithin, hvalue]
  simp only [Option.bind_eq_bind, Option.bind_some, skipSpace_append hafter, hmid]

/-- A string before a comma is an item that others follow. -/
theorem itemsWithin_more (hbefore : Blank before) (h : Spells w s.toList) (hafter : Blank after)
    (hmid : skipSpace mid = ',' :: rest) (steps : Nat) :
    itemsWithin (steps + 2) (before ++ '"' :: (w ++ '"' :: (after ++ mid))) =
      (itemsWithin (steps + 1) rest).map fun (vs, rest) => (.text s :: vs, rest) := by
  have hvalue := (valueWithin_text_iff steps _ (after ++ mid) s).2 ⟨before, w, hbefore, rfl, h⟩
  rw [itemsWithin, hvalue]
  simp only [Option.bind_eq_bind, Option.bind_some, skipSpace_append hafter, hmid]
  cases itemsWithin (steps + 1) rest <;> rfl

end Item

/-- Items are read off what they may be written as, with a step for each of them. -/
theorem itemsWithin_of_items {w : List Char} {texts : List String} (h : Items w texts)
    (steps : Nat) (rest : List Char) (hsteps : texts.length ≤ steps) :
    itemsWithin (steps + 1) (w ++ ']' :: rest) = some (texts.map .text, rest) := by
  induction h generalizing steps with
  | last hbefore h hafter =>
      cases steps with
      | zero => exact absurd hsteps (Nat.not_succ_le_zero _)
      | succ steps =>
          have hread := itemsWithin_last hbefore h hafter
            (skipSpace_cons (by decide) rest) steps
          simpa only [List.append_assoc, List.cons_append, List.map_cons, List.map_nil] using hread
  | @more _ _ _ rest' _ texts hbefore h hafter _ ih =>
      cases steps with
      | zero => exact absurd hsteps (Nat.not_succ_le_zero _)
      | succ steps =>
          have hread := itemsWithin_more hbefore h hafter
            (skipSpace_cons (by decide) (rest' ++ ']' :: rest)) steps
          simp only [ih steps (Nat.le_of_succ_le_succ hsteps), Option.map_some] at hread
          simpa only [List.append_assoc, List.cons_append, List.map_cons] using hread

/-- What was read as items that are texts is what they may be written as. -/
theorem items_of_itemsWithin {steps : Nat} {cs rest : List Char} {texts : List String}
    (h : itemsWithin steps cs = some (texts.map .text, rest)) :
    ∃ w, cs = w ++ ']' :: rest ∧ Items w texts := by
  induction steps generalizing cs texts with
  | zero => simp only [itemsWithin, reduceCtorEq] at h
  | succ steps ih =>
      rw [itemsWithin] at h
      simp only [Option.bind_eq_bind, Option.bind_eq_some_iff] at h
      rcases h with ⟨⟨v, mid⟩, hv, h⟩
      rcases exists_blank mid with ⟨after, hafter, hmid⟩
      -- The first item is a text, whatever comes after it.
      have hfirst : ∀ {s : String}, v = .text s → ∃ before w, Blank before ∧
          cs = before ++ '"' :: (w ++ '"' :: mid) ∧ Spells w s.toList := by
        rintro s rfl
        cases steps with
        | zero => simp only [valueWithin, reduceCtorEq] at hv
        | succ k => exact (valueWithin_text_iff k cs mid s).1 hv
      dsimp only at h
      split at h
      · -- the last item
        rename_i hclose
        rw [Option.some.injEq, Prod.mk.injEq] at h
        rcases h with ⟨htexts, rfl⟩
        rcases List.map_eq_singleton_iff.1 htexts.symm with ⟨s, rfl, hs⟩
        rcases hfirst hs.symm with ⟨before, w, hbefore, rfl, hspells⟩
        refine ⟨before ++ '"' :: (w ++ '"' :: after), ?_, .last hbefore hspells hafter⟩
        rw [hmid, hclose]
        simp only [List.append_assoc, List.cons_append]
      · -- an item before others
        rename_i rest' hcomma
        simp only [Option.bind_eq_some_iff, Option.some.injEq, Prod.mk.injEq] at h
        rcases h with ⟨⟨vs, rest''⟩, hvs, htexts, rfl⟩
        rcases List.map_eq_cons_iff.1 htexts.symm with ⟨s, texts', rfl, hs, rfl⟩
        rcases hfirst hs.symm with ⟨before, w, hbefore, rfl, hspells⟩
        rcases ih hvs with ⟨w', rfl, hitems⟩
        refine ⟨before ++ '"' :: (w ++ '"' :: (after ++ ',' :: w')), ?_,
          .more hbefore hspells hafter hitems⟩
        rw [hmid, hcomma]
        simp only [List.append_assoc, List.cons_append]
      · simp only [reduceCtorEq] at h

/-- A list of texts is read off what it may be written as. -/
theorem valueWithin_of_items {before w : List Char} {texts : List String} (hbefore : Blank before)
    (h : Items w texts) (steps : Nat) (after : List Char) (hsteps : texts.length ≤ steps) :
    valueWithin (steps + 2) (before ++ '[' :: (w ++ ']' :: after)) =
      some (.list (texts.map .text), after) := by
  rcases h.exists_skipSpace (']' :: after) with ⟨mid, hquote⟩
  have hread := itemsWithin_of_items h steps after hsteps
  rw [← itemsWithin_skipSpace, hquote] at hread
  -- A quote is no bracket, so the list has not ended yet.
  rw [valueWithin, skipSpace_append hbefore, skipSpace_cons (by decide)]
  simp only [hquote]
  exact congrArg (Option.map fun read => (Value.list read.1, read.2)) hread

theorem isEmpty_skipSpace_iff (cs : List Char) : (skipSpace cs).isEmpty = true ↔ Blank cs := by
  rw [List.isEmpty_iff]
  constructor
  · intro hnil
    rcases exists_blank cs with ⟨before, hbefore, hcs⟩
    rw [hcs, hnil, List.append_nil]
    exact hbefore
  · intro hblank
    have hnil := skipSpace_append hblank []
    rwa [List.append_nil] at hnil

/-- The lists of texts that are read: exactly what they may be written as. -/
theorem parse?_texts_iff (text : String) (texts : List String) :
    parse? text = some (.list (texts.map .text)) ↔ TextList text.toList texts := by
  simp only [parse?, Option.bind_eq_bind, Option.bind_eq_some_iff, Prod.exists,
    Option.ite_none_right_eq_some, Option.some.injEq, isEmpty_skipSpace_iff]
  constructor
  · rintro ⟨v, after, hv, hafter, rfl⟩
    rcases valueWithin_cases hv with hscalar | ⟨es, htable⟩ | ⟨s, mid, htext, -⟩ |
      ⟨vs, mid, hlist, hopen, hitems⟩
    · exact absurd hscalar Bool.false_ne_true
    · exact absurd htable (by simp only [reduceCtorEq, not_false_eq_true])
    · exact absurd htext (by simp only [reduceCtorEq, not_false_eq_true])
    · cases hlist
      rcases exists_blank text.toList with ⟨before, hbefore, htext⟩
      rw [htext, hopen]
      rcases hitems with ⟨hnil, hclose⟩ | hitems
      · rcases exists_blank mid with ⟨within, hwithin, hmid⟩
        rw [List.map_eq_nil_iff.1 hnil, hmid, hclose]
        exact .empty hbefore hwithin hafter
      · rw [itemsWithin_skipSpace] at hitems
        rcases items_of_itemsWithin hitems with ⟨w, rfl, hw⟩
        exact .items hbefore hw hafter
  · generalize text.toList = cs
    intro h
    cases h with
    | @empty before within after hbefore hwithin hafter =>
        refine ⟨.list [], after, ?_, hafter, rfl⟩
        rw [valueWithin, skipSpace_append hbefore, skipSpace_cons (by decide)]
        simp only [skipSpace_append hwithin, skipSpace_cons (by decide : isSpace ']' = false)]
    | @items before w after _ hbefore hw hafter =>
        refine ⟨.list (texts.map .text), after, ?_, hafter, rfl⟩
        -- The text has a character for each item, and two for the brackets.
        have hlength : (before ++ '[' :: (w ++ ']' :: after)).length + 1 =
            before.length + (w.length + after.length) + 1 + 2 := by
          simp only [List.length_append, List.length_cons]
          omega
        rw [hlength]
        refine valueWithin_of_items hbefore hw _ after ?_
        have hle := hw.length_le
        omega

end Json

end EntryCoverage
