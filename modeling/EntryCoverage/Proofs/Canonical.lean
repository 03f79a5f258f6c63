import EntryCoverage.Proofs.Vlq
import Mathlib.Data.List.GetD

/-!
# Canonical Quantities

The texts that are written among those that are read.

The reader takes more than is ever written. A number may have groups of zeros at its top,
which change nothing, zero may have a sign, and nothing keeps a number within 32 bits. So
an integer has many texts, and one of them is what is written of it.

Groups and signs are apart again. A top group of zeros is the letter `A` at the end, and
the letters of a number are those of its groups exactly if they have no such end, or are
one letter (`Spells.groups_iff`). The sign is lost at one number only, that of a negative
zero, which is read as zero and written as such (`ofSigned_toSigned`). That number is
written with the letter `B`, so it is this text that is not written again, and its longer
forms end in zeros.

## Theorems

* `letter_of_group?`: A group gives its letter back.
* `Spells.getLast?_zero`: However zero is spelled, its last letter is the same.
* `Spells.groups_iff`: The letters of a number that are those of its groups.
* `ofSigned_toSigned`: A number keeps its sign unless it is that of a negative zero.
* `Spells.letters_iff`: The letters of an integer that are those written of it.
* `encode_of_read_iff`: The texts of integers that are written.
-/

namespace EntryCoverage

namespace Vlq

/-- A group gives its letter back. -/
theorem letter_of_group? {c : Char} {g : Nat} (h : group? c = some g) : letter g = c := by
  rcases List.idxOf?_eq_some_iff.1 h with ⟨hlt, hc, -⟩
  rw [letter, List.getD_eq_getElem _ _ hlt, hc]

theorem lt_of_group? {c : Char} {g : Nat} (h : group? c = some g) : g < 64 := by
  rcases List.idxOf?_eq_some_iff.1 h with ⟨hlt, -, -⟩
  exact hlt

/-! ### Top groups -/

/-- However zero is spelled, its last letter is that of no bits. -/
theorem Spells.getLast?_zero {cs : List Char} (h : Spells cs 0) : cs.getLast? = some 'A' := by
  generalize hn : 0 = n at h
  induction h with
  | last hg _ =>
      subst hn
      rw [List.getLast?_singleton, ← letter_of_group? hg]
      rfl
  | more _ _ h ih =>
      rw [List.getLast?_cons_of_ne_nil h.ne_nil]
      exact ih (by omega)

/-- One letter of no bits is zero. -/
theorem Spells.getLast?_ne {cs : List Char} {n : Nat} (h : Spells cs n) (hpos : 0 < n)
    (hone : cs.length = 1) : cs.getLast? ≠ some 'A' := by
  rcases List.length_eq_one_iff.1 hone with ⟨c, rfl⟩
  intro hc
  rw [List.getLast?_singleton] at hc
  rw [Option.some.inj hc] at h
  have hzero : Spells ['A'] 0 := .last (by decide) (by decide)
  exact absurd (h.unique hzero) (Nat.ne_of_gt hpos)

/-- The letters of a number are those of its groups exactly if there is one letter or the
    top group has a bit. The induction is on the letters, which are as many as the groups
    then. -/
theorem Spells.groups_iff {cs : List Char} {n : Nat} (h : Spells cs n) (steps : Nat)
    (hsteps : n < steps) :
    (groupsWithin steps n).map letter = cs ↔ cs.length = 1 ∨ cs.getLast? ≠ some 'A' := by
  induction h generalizing steps with
  | last hg hlast =>
      cases steps with
      | zero => omega
      | succ steps =>
          rw [groupsWithin, if_pos hlast, List.map_singleton, letter_of_group? hg]
          exact iff_of_true rfl (Or.inl List.length_singleton)
  | @more c g cs n hg hmore h ih =>
      have hlength : ¬ (c :: cs).length = 1 := by
        rw [List.length_cons, Nat.succ.injEq]
        exact fun hc => h.ne_nil (List.length_eq_zero_iff.1 hc)
      rw [or_iff_right hlength, List.getLast?_cons_of_ne_nil h.ne_nil]
      cases steps with
      | zero => omega
      | succ steps =>
          rw [groupsWithin]
          by_cases hn : n = 0
          · -- All further groups are zeros: one letter would do, and there are more.
            subst hn
            rw [if_pos (by omega), List.map_singleton]
            refine iff_of_false (fun hc => ?_) (fun hc => hc h.getLast?_zero)
            exact h.ne_nil (List.cons.inj hc).2.symm
          · -- The first letter is that of the first group, and the rest is that of the rest.
            have hlt := lt_of_group? hg
            have hfirst : (g % 32 + 32 * n) % 32 + 32 = g := by omega
            have hrest : (g % 32 + 32 * n) / 32 = n := by omega
            have hpos := Nat.pos_of_ne_zero hn
            rw [if_neg (by omega), hfirst, hrest, List.map_cons, letter_of_group? hg,
              List.cons.injEq, and_iff_right rfl, ih steps (by omega)]
            exact or_iff_right_of_imp (h.getLast?_ne hpos)

/-! ### Signs -/

/-- A number keeps its sign unless it is that of a negative zero. -/
theorem ofSigned_toSigned (n : Nat) (h : n ≠ 1) : ofSigned (toSigned n) = n := by
  unfold ofSigned toSigned
  by_cases hodd : n % 2 = 1
  · rw [if_pos hodd, if_pos (by omega)]
    omega
  · rw [if_neg hodd, if_neg (by omega)]
    omega

/-- The letters of an integer that are those written of it. -/
theorem Spells.letters_iff {cs : List Char} {n : Nat} (h : Spells cs n) :
    letters (toSigned n) = cs ↔ cs ≠ ['B'] ∧ (cs.length = 1 ∨ cs.getLast? ≠ some 'A') := by
  have hminus : Spells ['B'] 1 := .last (by decide) (by decide)
  have hgroups := h.groups_iff (n + 1) (Nat.lt_succ_self n)
  by_cases hone : n = 1
  · -- The groups of a negative zero are one letter, and zero is not written so.
    subst hone
    refine iff_of_false (fun hc => ?_) (fun ⟨hne, hend⟩ => hne (hgroups.2 hend).symm)
    have hzero := spells_letters (toSigned 1)
    rw [hc] at hzero
    exact absurd (hzero.unique h) (by decide)
  · have hne : cs ≠ ['B'] := by
      intro hc
      rw [hc] at h
      exact hone (h.unique hminus)
    rw [letters, groups, ofSigned_toSigned n hone, hgroups, and_iff_right hne]

/-- An integer that was read from a whole text is written as that text exactly if it is
    one of 32 bits, the text is not that of a negative zero, and it has one letter or does
    not end in zeros. -/
theorem encode_of_read_iff (w : String) (v : Int) (h : decodeAt w 0 = .ok (v, w.length)) :
    encode v = .ok w ↔
      (minValue ≤ v ∧ v ≤ maxValue) ∧ w ≠ "B" ∧
        (w.length = 1 ∨ w.toList.getLast? ≠ some 'A') := by
  rcases (decodeAt_zero_iff w v).1 h with ⟨n, hspells, rfl⟩
  have htext : w = text (toSigned n) ↔ letters (toSigned n) = w.toList := by
    rw [text, ← String.toList_inj, String.toList_ofList]
    exact eq_comm
  have hminus : w ≠ "B" ↔ w.toList ≠ ['B'] := not_congr String.toList_inj.symm
  rw [encode_eq_ok_iff, htext, hspells.letters_iff, hminus, String.length_toList]

/-- The least integer, in all its letters, is written again. -/
theorem encode_of_read_iff_least :
    decodeAt "hgggggE" 0 = .ok (minValue, "hgggggE".length) ∧ encode minValue = .ok "hgggggE" := by
  have hread : decodeAt "hgggggE" 0 = .ok (minValue, "hgggggE".length) := rfl
  exact ⟨hread, (encode_of_read_iff _ _ hread).2 ⟨by decide, by decide, Or.inr (by decide)⟩⟩

/-- A zero with a sign and a one with zeros at its top are read, and are not written so. -/
example : decodeAt "B" 0 = .ok (0, 1) ∧ encode 0 = .ok "A" ∧
    decodeAt "iA" 0 = .ok (1, 2) ∧ encode 1 = .ok "C" := ⟨rfl, rfl, rfl, rfl⟩

end Vlq

end EntryCoverage
