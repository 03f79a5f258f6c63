/-!
# The Order of Texts

Texts are sorted by the numbers of their characters: the first two characters that
differ decide, and a text comes before those that go on from it.

## Main definitions

* `precedes`: Whether a text comes before another one.

## Theorems

* `precedes_iff_lex`: It is the order of dictionaries.
* `not_precedes_self`: No text comes before itself.
-/

namespace EntryCoverage

namespace Text

/-- Whether a text comes before another one. -/
def precedes (a b : String) : Bool := a.toList.lex b.toList fun c d => c.val < d.val

theorem precedes_iff_lex {a b : String} :
    precedes a b ↔ List.Lex (fun c d => c.val < d.val) a.toList b.toList := by
  simp [precedes, List.lex_eq_true_iff_lex]

theorem not_precedes_self (a : String) : precedes a a = false := by
  unfold precedes
  induction a.toList with
  | nil => rfl
  | cons c cs ih => simp [List.lex, ih]

end Text

end EntryCoverage
