import EntryCoverage.Vlq
import Mathlib.Data.List.Basic

/-!
# Texts of Quantities

Which texts are read as quantities, and as which ones.

The reader goes from letter to letter with a number of steps in hand, and that number
says nothing about the texts it takes. So it is left behind first. `Spells` says which
letters are those of one number and `SpellsAll` which are those of integers in a row,
and both are inductions on the text. What the reader finds is what they say
(`decodeAll_eq_ok_iff`), and if it fails then for the reason that `faultIn` gives
(`decodeAll_eq_fault`). It never runs out of steps, because every number has a letter.

After that nothing is left but texts. One is a row of integers exactly if it has letters
only and does not end within a number, whatever its groups are: too many of them, all of
them zero, or a number of any size. As many integers are read as there are letters that
end one. Rows are put together by putting their texts together, and since letters are
those of one row at most, they are taken apart again in the same way.

## Main definitions

* `isLast`: Whether a number ends with a letter.
* `Spells`: The letters of a number.
* `SpellsAll`: The letters of integers in a row.
* `Complete`: Letters only, and not the beginning of a number at the end.
* `faultIn`: Why characters are no row of integers.

## Theorems

* `decodeNat_of_spells`: A number is read off the text that begins with it.
* `decodeNat_cases`: Either a number is read, or the fault is named.
* `Spells.append_inj`: What begins with the letters of a number begins with no others.
* `decodeWithin_of_spellsAll`, `decodeWithin_cases`: The same for integers in a row.
* `decodeAll_eq_ok_iff`: What is read is what is spelled.
* `decodeAll_eq_fault`: What is not read has the fault that is named.
* `exists_spellsAll_iff`: The texts that are rows of integers.
* `decodeAll_accepts`: The texts that are read, what is said of others, and texts that
  are put together.
-/

namespace EntryCoverage

namespace Vlq

/-- Whether a number ends with a letter: no other one follows. -/
def isLast (c : Char) : Bool := (group? c).any (· < 32)

/-- The letters of a number: some that say that another one follows, and one that does
    not. -/
inductive Spells : List Char → Nat → Prop
  | last {c : Char} {g : Nat} (hg : group? c = some g) (hlast : g < 32) : Spells [c] g
  | more {c : Char} {g : Nat} {cs : List Char} {n : Nat} (hg : group? c = some g)
      (hmore : ¬ g < 32) (h : Spells cs n) : Spells (c :: cs) (g % 32 + 32 * n)

/-- The letters of integers in a row. -/
inductive SpellsAll : List Char → List Int → Prop
  | nil : SpellsAll [] []
  | cons {w rest : List Char} {n : Nat} {vs : List Int} (h : Spells w n)
      (hrest : SpellsAll rest vs) : SpellsAll (w ++ rest) (toSigned n :: vs)

/-- Letters only, of which the last one, if there is one, ends a number. -/
def Complete (cs : List Char) : Prop :=
  (∀ c ∈ cs, c ∈ alphabet) ∧ ∀ c ∈ cs.getLast?, isLast c = true

/-- Why characters are no row of integers: the first one that is no letter, or that they
    end within a number. -/
def faultIn (text : String) (cs : List Char) : VlqError :=
  match cs.find? (· ∉ alphabet) with
  | some c => .invalidLetter c text
  | none => .truncated text

/-! ### Letters -/

theorem group?_eq_none_iff (c : Char) : group? c = none ↔ c ∉ alphabet :=
  List.idxOf?_eq_none_iff

theorem mem_alphabet_of_group? {c : Char} {g : Nat} (h : group? c = some g) : c ∈ alphabet := by
  by_contra hc
  rw [(group?_eq_none_iff c).2 hc] at h
  simp only [reduceCtorEq] at h

theorem exists_group? {c : Char} (h : c ∈ alphabet) : ∃ g, group? c = some g :=
  Option.ne_none_iff_exists'.1 (fun hg => (group?_eq_none_iff c).1 hg h)

theorem isLast_of_group? {c : Char} {g : Nat} (h : group? c = some g) :
    isLast c = decide (g < 32) := by
  rw [isLast, h]
  rfl

/-! ### One number -/

theorem Spells.ne_nil {w : List Char} {n : Nat} (h : Spells w n) : w ≠ [] := by
  cases h <;> exact List.cons_ne_nil _ _

theorem Spells.mem_alphabet {w : List Char} {n : Nat} (h : Spells w n) :
    ∀ c ∈ w, c ∈ alphabet := by
  induction h with
  | last hg _ => exact List.forall_mem_singleton.2 (mem_alphabet_of_group? hg)
  | more hg _ _ ih => exact List.forall_mem_cons.2 ⟨mem_alphabet_of_group? hg, ih⟩

/-- The last letter of a number ends it. -/
theorem Spells.exists_getLast? {w : List Char} {n : Nat} (h : Spells w n) :
    ∃ c, w.getLast? = some c ∧ isLast c = true := by
  induction h with
  | last hg hlast =>
      refine ⟨_, List.getLast?_singleton, ?_⟩
      rw [isLast_of_group? hg, decide_eq_true hlast]
  | more _ _ h ih =>
      rw [List.getLast?_cons_of_ne_nil h.ne_nil]
      exact ih

/-- No letter of a number but the last one ends it. -/
theorem Spells.countP_isLast {w : List Char} {n : Nat} (h : Spells w n) :
    w.countP isLast = 1 := by
  induction h with
  | last hg hlast =>
      have hc := isLast_of_group? hg
      rw [decide_eq_true hlast] at hc
      rw [List.countP_cons_of_pos hc, List.countP_nil]
  | more hg hmore _ ih =>
      have hc := isLast_of_group? hg
      rw [decide_eq_false hmore] at hc
      rw [List.countP_cons_of_neg (by rw [hc]; exact Bool.false_ne_true), ih]

/-- A number is read off a text that begins with its letters, whatever follows them. -/
theorem decodeNat_of_spells (t : String) {w : List Char} {n : Nat} (h : Spells w n)
    (rest : List Char) : decodeNat t (w ++ rest) = .ok (n, w.length) := by
  induction h with
  | last hg hlast => simp only [List.singleton_append, decodeNat, hg, if_pos hlast,
      List.length_singleton]
  | more hg hmore _ ih => simp only [List.cons_append, decodeNat, hg, if_neg hmore, ih,
      List.length_cons]

/-- Letters before do not change why characters are no row of integers. -/
theorem faultIn_append (t : String) (w rest : List Char) (h : ∀ c ∈ w, c ∈ alphabet) :
    faultIn t (w ++ rest) = faultIn t rest := by
  have hnone : w.find? (· ∉ alphabet) = none := by
    rw [List.find?_eq_none]
    intro c hc
    simp only [h c hc, not_true_eq_false, decide_false, Bool.false_eq_true, not_false_eq_true]
  unfold faultIn
  rw [List.find?_append, hnone, Option.none_or]

/-- Either the text begins with the letters of a number, which is read, or the fault is
    named. -/
theorem decodeNat_cases (t : String) (cs : List Char) :
    (∃ w n rest, cs = w ++ rest ∧ Spells w n ∧ decodeNat t cs = .ok (n, w.length)) ∨
      decodeNat t cs = .error (faultIn t cs) := by
  induction cs with
  | nil => exact Or.inr rfl
  | cons c cs ih =>
      cases hg : group? c with
      | none =>
          -- no letter, so the first that is none
          have hc := (group?_eq_none_iff c).1 hg
          refine Or.inr ?_
          simp only [decodeNat, hg, faultIn, List.find?_cons, hc, not_false_eq_true, decide_true]
      | some g =>
          by_cases hlast : g < 32
          · refine Or.inl ⟨[c], g, cs, rfl, .last hg hlast, ?_⟩
            exact decodeNat_of_spells t (.last hg hlast) cs
          · -- a letter that says that another one follows
            rcases ih with ⟨w, n, rest, rfl, h, -⟩ | hfault
            · refine Or.inl ⟨c :: w, _, rest, rfl, .more hg hlast h, ?_⟩
              exact decodeNat_of_spells t (.more hg hlast h) rest
            · refine Or.inr ?_
              have hsame := faultIn_append t [c] cs
                (List.forall_mem_singleton.2 (mem_alphabet_of_group? hg))
              simp only [decodeNat, hg, if_neg hlast, hfault]
              rw [← hsame, List.singleton_append]

/-- What begins with the letters of a number begins with those of no other one, and what
    follows them is settled too. -/
theorem Spells.append_inj {w w' : List Char} {n n' : Nat} (h : Spells w n) (h' : Spells w' n')
    (s s' : List Char) (heq : w ++ s = w' ++ s') : n = n' ∧ s = s' := by
  -- Reading the one text gives both numbers, and how many letters they have.
  have hread := decodeNat_of_spells "" h s
  rw [heq, decodeNat_of_spells "" h' s'] at hread
  rcases Prod.mk.inj (Except.ok.inj hread) with ⟨hn, hlen⟩
  exact ⟨hn.symm, (List.append_inj heq hlen.symm).2⟩

theorem Spells.unique {w : List Char} {n n' : Nat} (h : Spells w n) (h' : Spells w n') : n = n' :=
  (h.append_inj h' [] [] rfl).1

/-- A number is read from the place where its letters begin, whatever is around them. -/
theorem decodeAt_of_spells (before w after : String) {n : Nat} (h : Spells w.toList n) :
    decodeAt (before ++ w ++ after) before.length =
      .ok (toSigned n, before.length + w.length) := by
  have hplace : readFrom? (before ++ w ++ after).toList before.length =
      some (w.toList ++ after.toList) := by
    rw [readFrom?, if_pos (Int.natCast_nonneg _), Int.toNat_natCast, String.toList_append,
      String.toList_append, List.append_assoc, ← String.length_toList, List.drop_left]
  rw [decodeAt, hplace]
  simp only [decodeNat_of_spells _ h, Except.map, String.length_toList]

/-- A text that is read to its end holds the letters of one number. -/
theorem decodeAt_zero_iff (w : String) (v : Int) :
    decodeAt w 0 = .ok (v, w.length) ↔ ∃ n, Spells w.toList n ∧ v = toSigned n := by
  have hplace : readFrom? w.toList 0 = some w.toList := rfl
  constructor
  · intro hread
    rw [decodeAt, hplace] at hread
    rcases decodeNat_cases w w.toList with ⟨cs, n, rest, heq, h, hn⟩ | hfault
    · -- All characters were read, so there is no rest.
      simp only [hn, Except.map, Except.ok.injEq, Prod.mk.injEq] at hread
      rcases hread with ⟨rfl, hlen⟩
      have hrest : rest = [] := by
        have htotal := congrArg List.length heq
        rw [String.length_toList, List.length_append] at htotal
        exact List.length_eq_zero_iff.1 (by omega)
      rw [heq, hrest, List.append_nil]
      exact ⟨n, h, rfl⟩
    · simp only [hfault, Except.map, reduceCtorEq] at hread
  · rintro ⟨n, h, rfl⟩
    have hread := decodeAt_of_spells "" w "" h
    rw [String.empty_append, String.append_empty, String.length_empty,
      Int.natCast_zero, Int.zero_add] at hread
    exact hread

/-! ### Integers in a row -/

theorem SpellsAll.complete {cs : List Char} {vs : List Int} (h : SpellsAll cs vs) :
    Complete cs := by
  induction h with
  | nil =>
      refine ⟨fun _ hc => absurd hc List.not_mem_nil, fun c hc => ?_⟩
      exact absurd hc (Option.not_mem_none c)
  | @cons w rest n vs h _ ih =>
      refine ⟨List.forall_mem_append.2 ⟨h.mem_alphabet, ih.1⟩, fun c hc => ?_⟩
      rw [List.getLast?_append] at hc
      cases hrest : rest.getLast? with
      | none =>
          -- nothing follows, so the end is that of the number
          rcases h.exists_getLast? with ⟨d, hd, hlast⟩
          rw [hrest, Option.none_or, hd, Option.mem_some] at hc
          exact hc ▸ hlast
      | some d =>
          rw [hrest, Option.some_or, ← hrest] at hc
          exact ih.2 c hc

/-- As many integers are spelled as there are letters that end one. -/
theorem SpellsAll.countP_isLast {cs : List Char} {vs : List Int} (h : SpellsAll cs vs) :
    cs.countP isLast = vs.length := by
  induction h with
  | nil => rfl
  | cons h _ ih => rw [List.countP_append, h.countP_isLast, ih, List.length_cons, Nat.add_comm]

theorem SpellsAll.append {cs ds : List Char} {vs ws : List Int} (h : SpellsAll cs vs)
    (h' : SpellsAll ds ws) : SpellsAll (cs ++ ds) (vs ++ ws) := by
  induction h with
  | nil => exact h'
  | cons hn _ ih =>
      rw [List.append_assoc, List.cons_append]
      exact .cons hn ih

theorem Complete.tail {c : Char} {cs : List Char} (h : Complete (c :: cs)) : Complete cs := by
  refine ⟨(List.forall_mem_cons.1 h.1).2, fun d hd => h.2 d ?_⟩
  rw [List.getLast?_cons, Option.mem_def.1 hd]
  rfl

/-- The texts that are rows of integers. A letter that ends no number belongs to the first
    number of the row that is behind it. -/
theorem exists_spellsAll_iff (cs : List Char) : (∃ vs, SpellsAll cs vs) ↔ Complete cs := by
  constructor
  · rintro ⟨vs, h⟩
    exact h.complete
  · intro h
    induction cs with
    | nil => exact ⟨[], .nil⟩
    | cons c cs ih =>
        rcases exists_group? (h.1 c List.mem_cons_self) with ⟨g, hg⟩
        rcases ih h.tail with ⟨vs, hvs⟩
        by_cases hlast : g < 32
        · -- The number ends here, and the rest may be nothing.
          exact ⟨_, .cons (.last hg hlast) hvs⟩
        · -- The number goes on, so there is a rest, and it begins with a number.
          cases hvs with
          | nil =>
              have hc := h.2 c rfl
              rw [isLast_of_group? hg, decide_eq_false hlast] at hc
              exact absurd hc Bool.false_ne_true
          | cons hn hmore => exact ⟨_, .cons (.more hg hlast hn) hmore⟩

/-! ### Reading rows -/

/-- One step takes the letters of one number. -/
theorem decodeWithin_append (t : String) {w : List Char} {n : Nat} (h : Spells w n)
    (steps : Nat) (rest : List Char) :
    decodeWithin t (steps + 1) (w ++ rest) =
      (decodeWithin t steps rest).map (toSigned n :: ·) := by
  have hread := decodeNat_of_spells t h rest
  cases hcs : w ++ rest with
  | nil => exact absurd (List.append_eq_nil_iff.1 hcs).1 h.ne_nil
  | cons c cs =>
      rw [hcs] at hread
      rw [decodeWithin, hread, ← hcs]
      simp only [List.drop_left]

theorem decodeWithin_of_spellsAll (t : String) {cs : List Char} {vs : List Int}
    (h : SpellsAll cs vs) (steps : Nat) (hsteps : cs.length ≤ steps) :
    decodeWithin t steps cs = .ok vs := by
  induction h generalizing steps with
  | nil => cases steps <;> rfl
  | @cons w rest n vs h _ ih =>
      have hpos := List.length_pos_iff.2 h.ne_nil
      rw [List.length_append] at hsteps
      cases steps with
      | zero => omega
      | succ steps =>
          rw [decodeWithin_append t h, ih steps (by omega)]
          rfl

/-- Either the text is that of integers in a row, which are read, or the fault is named.
    There are as many steps as characters, and each takes one at least. -/
theorem decodeWithin_cases (t : String) (steps : Nat) (cs : List Char)
    (hsteps : cs.length ≤ steps) :
    (∃ vs, SpellsAll cs vs ∧ decodeWithin t steps cs = .ok vs) ∨
      decodeWithin t steps cs = .error (faultIn t cs) := by
  induction steps generalizing cs with
  | zero =>
      have hnil := List.length_eq_zero_iff.1 (Nat.le_zero.1 hsteps)
      subst hnil
      exact Or.inl ⟨[], .nil, rfl⟩
  | succ steps ih =>
      cases cs with
      | nil => exact Or.inl ⟨[], .nil, rfl⟩
      | cons c cs =>
          rcases decodeNat_cases t (c :: cs) with ⟨w, n, rest, heq, h, -⟩ | hfault
          · have hpos := List.length_pos_iff.2 h.ne_nil
            rw [heq, List.length_append] at hsteps
            rw [heq, decodeWithin_append t h]
            rcases ih rest (by omega) with ⟨vs, hvs, hread⟩ | hfault
            · rw [hread]
              exact Or.inl ⟨_, .cons h hvs, rfl⟩
            · rw [hfault, faultIn_append t w rest h.mem_alphabet]
              exact Or.inr rfl
          · refine Or.inr ?_
            rw [decodeWithin, hfault]

/-- What is read is what is spelled. -/
theorem decodeAll_eq_ok_iff (t : String) (vs : List Int) :
    decodeAll t = .ok vs ↔ SpellsAll t.toList vs := by
  constructor
  · intro hread
    rcases decodeWithin_cases t _ t.toList (Nat.le_refl _) with ⟨ws, h, hws⟩ | hfault
    · rw [decodeAll, hws] at hread
      exact Except.ok.inj hread ▸ h
    · rw [decodeAll, hfault] at hread
      simp only [reduceCtorEq] at hread
  · intro h
    exact decodeWithin_of_spellsAll t h _ (Nat.le_refl _)

/-- What is not read has the fault that is named. -/
theorem decodeAll_eq_fault (t : String) (h : ¬ Complete t.toList) :
    decodeAll t = .error (faultIn t t.toList) := by
  rcases decodeWithin_cases t _ t.toList (Nat.le_refl _) with ⟨vs, hvs, -⟩ | hfault
  · exact absurd hvs.complete h
  · exact hfault

theorem exists_decodeAll_iff (t : String) : (∃ vs, decodeAll t = .ok vs) ↔ Complete t.toList := by
  rw [← exists_spellsAll_iff]
  exact exists_congr fun vs => decodeAll_eq_ok_iff t vs

/-- What is behind a row of integers makes a longer row of it exactly if it is a row. -/
theorem complete_append_iff {cs : List Char} (h : Complete cs) (ds : List Char) :
    Complete (cs ++ ds) ↔ Complete ds := by
  constructor
  · rintro ⟨hletters, hend⟩
    refine ⟨(List.forall_mem_append.1 hletters).2, fun c hc => hend c ?_⟩
    rw [List.getLast?_append, Option.mem_def.1 hc]
    rfl
  · intro hds
    rcases (exists_spellsAll_iff cs).2 h with ⟨vs, hvs⟩
    rcases (exists_spellsAll_iff ds).2 hds with ⟨ws, hws⟩
    exact (hvs.append hws).complete

/-- The texts that are read: those that have letters only and do not end within a number.
    They are read as one integer for each letter that ends one. Of any other text the
    first character is named that is no letter, or, if there is none, that it breaks off.
    A text behind one that is read adds its own integers, and is read exactly if the two
    together are. -/
theorem decodeAll_accepts (t : String) :
    ((∃ vs, decodeAll t = .ok vs) ↔
      (∀ c ∈ t.toList, c ∈ alphabet) ∧ ∀ c ∈ t.toList.getLast?, isLast c = true) ∧
    (∀ vs, decodeAll t = .ok vs → vs.length = t.toList.countP isLast) ∧
    ((¬ ∃ vs, decodeAll t = .ok vs) →
      (∀ c, t.toList.find? (· ∉ alphabet) = some c → decodeAll t = .error (.invalidLetter c t)) ∧
      (t.toList.find? (· ∉ alphabet) = none → decodeAll t = .error (.truncated t))) ∧
    ∀ rest vs, decodeAll t = .ok vs →
      ((∃ ws, decodeAll (t ++ rest) = .ok ws) ↔ ∃ us, decodeAll rest = .ok us) ∧
      ∀ us, decodeAll rest = .ok us → decodeAll (t ++ rest) = .ok (vs ++ us) := by
  refine ⟨exists_decodeAll_iff t, ?_, ?_, ?_⟩
  · intro vs hvs
    exact ((decodeAll_eq_ok_iff t vs).1 hvs).countP_isLast.symm
  · intro hno
    have hfault := decodeAll_eq_fault t (fun h => hno ((exists_decodeAll_iff t).2 h))
    constructor
    · intro c hc
      rw [hfault, faultIn, hc]
    · intro hnone
      rw [hfault, faultIn, hnone]
  · intro rest vs hvs
    have hspelled := (decodeAll_eq_ok_iff t vs).1 hvs
    constructor
    · rw [exists_decodeAll_iff, exists_decodeAll_iff, String.toList_append]
      exact complete_append_iff hspelled.complete rest.toList
    · intro us hus
      rw [decodeAll_eq_ok_iff, String.toList_append]
      exact hspelled.append ((decodeAll_eq_ok_iff rest us).1 hus)

/-- Two texts that are read one behind the other, one with a character that is no letter,
    and one that breaks off. -/
theorem decodeAll_accepts_samples :
    decodeAll "gBC" = .ok [16, 1] ∧ decodeAll ("gBC" ++ "gB+A") = .ok ([16, 1] ++ [16, 15]) ∧
      decodeAll "g B!" = .error (.invalidLetter ' ' "g B!") ∧
      decodeAll "Cgg" = .error (.truncated "Cgg") := by
  have hfirst : decodeAll "gBC" = .ok [16, 1] := rfl
  have hsecond : decodeAll "gB+A" = .ok [16, 15] := rfl
  have hblank : ¬ ∃ vs, decodeAll "g B!" = .ok vs := fun h =>
    absurd (((decodeAll_accepts "g B!").1.1 h).1 ' ' (by decide)) (by decide)
  have hopen : ¬ ∃ vs, decodeAll "Cgg" = .ok vs := fun h =>
    absurd (((decodeAll_accepts "Cgg").1.1 h).2 'g' rfl) (by decide)
  exact ⟨hfirst, ((decodeAll_accepts "gBC").2.2.2 _ _ hfirst).2 _ hsecond,
    ((decodeAll_accepts "g B!").2.2.1 hblank).1 ' ' rfl,
    ((decodeAll_accepts "Cgg").2.2.1 hopen).2 rfl⟩

end Vlq

end EntryCoverage
