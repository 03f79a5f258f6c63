import EntryCoverage.Hook
import Mathlib.Data.List.Basic

/-!
# Accepted Settings

What is known of the hook's path when the settings were made from values.

The parts of the path are checked one by one, but the check lets a line feed stand after
an identifier. The blanks at the ends of a field are taken off before, so no field ends
in one; but inside a namespace a part before a dot still can. Such a path is accepted and
cannot be written in a call.

## Main definitions

* `Config.IsName`: A letter or an underscore, and name characters after it.
* `Config.Accepted`: The path of the hook is what the checks let through.

## Theorems

* `Config.isIdentifier_iff`: The check of one part lets names through, and names with a line
  feed after them.
* `Config.accepted_of_ofValues`: Settings made from values have such a path.
* `Config.Accepted.writable_iff`: A path that was let through can be written exactly if
  there is no line feed in it.
-/

namespace EntryCoverage

namespace Text

/-- There is always a first piece. -/
theorem exists_splitOn (mark : Char) (cs : List Char) :
    ∃ first more, splitOn mark cs = first :: more := by
  have hlength := length_splitOn mark cs
  cases hcs : splitOn mark cs with
  | nil =>
      rw [hcs, List.length_nil] at hlength
      omega
  | cons first more => exact ⟨first, more, rfl⟩

/-- The pieces of two texts with a mark between them. -/
theorem splitOn_append_cons (mark : Char) (xs ys : List Char) :
    splitOn mark (xs ++ mark :: ys) = splitOn mark xs ++ splitOn mark ys := by
  induction xs with
  | nil => exact if_pos (beq_self_eq_true mark)
  | cons x xs ih =>
      rw [List.cons_append, splitOn, ih, splitOn]
      split
      · rfl
      · -- The first piece goes on in the first text, which has at least one.
        rcases exists_splitOn mark xs with ⟨first, more, hxs⟩
        rw [hxs]
        rfl

/-- A text without marks is one piece. -/
theorem splitOn_of_notMem (mark : Char) (cs : List Char) (h : mark ∉ cs) :
    splitOn mark cs = [cs] := by
  induction cs with
  | nil => rfl
  | cons c cs ih =>
      rw [List.mem_cons, not_or] at h
      have hc : ¬ (c == mark) = true := fun hc => h.1 (eq_of_beq hc).symm
      rw [splitOn, if_neg hc, ih h.2]

/-- What is no mark stands in a piece. -/
theorem exists_mem_splitOn (mark : Char) (cs : List Char) (c : Char) (h : c ∈ cs)
    (hc : c ≠ mark) : ∃ piece ∈ splitOn mark cs, c ∈ piece := by
  induction cs with
  | nil => exact absurd h List.not_mem_nil
  | cons d cs ih =>
      rcases exists_splitOn mark cs with ⟨first, more, hcs⟩
      rw [splitOn, hcs]
      rcases List.mem_cons.1 h with rfl | h
      · rw [if_neg (fun hmark => hc (eq_of_beq hmark))]
        exact ⟨_, List.mem_cons_self, List.mem_cons_self⟩
      · rcases ih h with ⟨piece, hpiece, hmem⟩
        rw [hcs] at hpiece
        split
        · exact ⟨piece, List.mem_cons_of_mem _ hpiece, hmem⟩
        · rcases List.mem_cons.1 hpiece with rfl | hpiece
          · exact ⟨_, List.mem_cons_self, List.mem_cons_of_mem _ hmem⟩
          · exact ⟨piece, List.mem_cons_of_mem _ hpiece, hmem⟩

/-- What stands in a piece stands in the text. -/
theorem mem_of_mem_splitOn (mark : Char) (cs piece : List Char) (h : piece ∈ splitOn mark cs)
    (c : Char) (hc : c ∈ piece) : c ∈ cs := by
  induction cs generalizing piece with
  | nil =>
      rw [splitOn, List.mem_singleton] at h
      exact h ▸ hc
  | cons d cs ih =>
      rw [splitOn] at h
      split at h
      · rcases List.mem_cons.1 h with rfl | h
        · exact absurd hc List.not_mem_nil
        · exact List.mem_cons_of_mem _ (ih piece h hc)
      · rcases exists_splitOn mark cs with ⟨first, more, hcs⟩
        rw [hcs] at h ih
        rcases List.mem_cons.1 h with rfl | h
        · rcases List.mem_cons.1 hc with rfl | hc
          · exact List.mem_cons_self
          · exact List.mem_cons_of_mem _ (ih first List.mem_cons_self hc)
        · exact List.mem_cons_of_mem _ (ih piece (List.mem_cons_of_mem _ h) hc)

/-- A text is its pieces with the mark before each but the first. -/
theorem eq_of_splitOn {mark : Char} {cs first : List Char} {more : List (List Char)}
    (h : splitOn mark cs = first :: more) : cs = first ++ more.flatMap (mark :: ·) := by
  induction cs generalizing first more with
  | nil =>
      cases h
      rfl
  | cons c cs ih =>
      rcases exists_splitOn mark cs with ⟨piece, pieces, hcs⟩
      rw [splitOn, hcs] at h
      split at h
      · rename_i hmark
        cases h
        rw [List.flatMap_cons, List.nil_append, List.cons_append, ← ih hcs, eq_of_beq hmark]
      · cases h
        rw [List.cons_append, ← ih hcs]

/-- A text without the blanks at its ends does not end in one. -/
theorem isBlank_getLast?_strip (cs : List Char) (c : Char) (h : (strip cs).getLast? = some c) :
    isBlank c = false := by
  rw [strip, stripRight, List.getLast?_reverse] at h
  have hnot := List.head?_dropWhile_not isBlank (cs.dropWhile isBlank).reverse
  rw [h] at hnot
  exact hnot

end Text

namespace Config

/-- A character of an identifier. -/
def isNameChar (c : Char) : Bool := c.isAlphanum || c == '_'

/-- Where digits are. -/
theorem toNat_of_isDigit {c : Char} (h : c.isDigit = true) : 48 ≤ c.toNat ∧ c.toNat ≤ 57 := by
  rcases Bool.and_eq_true_iff.1 h with ⟨hlow, hhigh⟩
  exact ⟨of_decide_eq_true hlow, of_decide_eq_true hhigh⟩

/-- Where letters are. -/
theorem toNat_of_isAlpha {c : Char} (h : c.isAlpha = true) :
    (65 ≤ c.toNat ∧ c.toNat ≤ 90) ∨ (97 ≤ c.toNat ∧ c.toNat ≤ 122) := by
  rcases Bool.or_eq_true_iff.1 h with hupper | hlower
  · exact .inl (of_decide_eq_true hupper)
  · rcases Bool.and_eq_true_iff.1 hlower with ⟨hlow, hhigh⟩
    exact .inr ⟨of_decide_eq_true hlow, of_decide_eq_true hhigh⟩

/-- Where name characters are. -/
theorem toNat_of_isNameChar (c : Char) (h : isNameChar c = true) :
    48 ≤ c.toNat ∧ c.toNat ≤ 122 := by
  have hcase : ((c.isAlpha || c.isDigit) || c == '_') = true := h
  rw [Bool.or_eq_true, Bool.or_eq_true] at hcase
  rcases hcase with (halpha | hdigit) | hunderscore
  · have := toNat_of_isAlpha halpha
    omega
  · have := toNat_of_isDigit hdigit
    omega
  · rw [eq_of_beq hunderscore]
    decide

theorem isBlank_of_isNameChar (c : Char) (h : isNameChar c = true) : Text.isBlank c = false := by
  -- Name characters are above the blanks of ASCII and below all others.
  have hrange := toNat_of_isNameChar c h
  rw [Text.isBlank, Text.blanks]
  simp only [Text.inRanges]
  rw [if_neg (by omega), if_neg (by omega), if_pos (by omega)]
  exact decide_eq_false (by omega)

/-- A name: a letter or an underscore, and letters, digits and underscores after it. -/
inductive IsName : List Char → Prop
  | mk {c : Char} {cs : List Char} (hstart : c.isAlpha = true ∨ c = '_')
      (hrest : ∀ d ∈ cs, isNameChar d = true) : IsName (c :: cs)

/-- All characters of a name are name characters. -/
theorem IsName.isNameChar {cs : List Char} (h : IsName cs) :
    ∀ c ∈ cs, Config.isNameChar c = true := by
  rcases h with ⟨hstart, hrest⟩
  intro d hd
  rcases List.mem_cons.1 hd with rfl | hd
  · rcases hstart with hstart | rfl
    · simp only [Config.isNameChar, Char.isAlphanum, hstart, Bool.true_or]
    · rfl
  · exact hrest d hd

theorem IsName.ne_nil {cs : List Char} (h : IsName cs) : cs ≠ [] := by
  rcases h with ⟨-, -⟩
  exact List.cons_ne_nil _ _

theorem IsName.dot_notMem {cs : List Char} (h : IsName cs) : '.' ∉ cs :=
  fun hmem => absurd (h.isNameChar _ hmem) (by decide)

theorem IsName.feed_notMem {cs : List Char} (h : IsName cs) : '\n' ∉ cs :=
  fun hmem => absurd (h.isNameChar _ hmem) (by decide)

/-- A name is let through, and one with a line feed after it. -/
theorem isIdentifier_iff (cs : List Char) :
    isIdentifier cs = true ↔ IsName cs ∨ ∃ name, IsName name ∧ cs = name ++ ['\n'] := by
  have hstart : ∀ c : Char, (c.isAlpha || c == '_') = true ↔ c.isAlpha = true ∨ c = '_' := by
    intro c
    rw [Bool.or_eq_true, beq_iff_eq]
  constructor
  · intro h
    cases cs with
    | nil => exact absurd h Bool.false_ne_true
    | cons c rest =>
        rcases Bool.and_eq_true_iff.1 h with ⟨hfirst, htail⟩
        rcases Bool.or_eq_true_iff.1 htail with hrest | hfed
        · exact .inl ⟨(hstart c).1 hfirst, List.all_eq_true.1 hrest⟩
        · rcases Bool.and_eq_true_iff.1 hfed with ⟨hlast, hrest⟩
          refine .inr ⟨c :: rest.dropLast, ⟨(hstart c).1 hfirst, List.all_eq_true.1 hrest⟩, ?_⟩
          have hsplit := List.dropLast_append_getLast? '\n' (eq_of_beq hlast)
          rw [List.cons_append, hsplit]
  · rintro (@⟨c, rest, hfirst, hrest⟩ | ⟨name, @⟨c, rest, hfirst, hrest⟩, rfl⟩)
    · exact Bool.and_eq_true_iff.2 ⟨(hstart c).2 hfirst,
        Bool.or_eq_true_iff.2 (.inl (List.all_eq_true.2 hrest))⟩
    · refine Bool.and_eq_true_iff.2 ⟨(hstart c).2 hfirst, Bool.or_eq_true_iff.2 (.inr ?_)⟩
      change ((rest ++ ['\n']).getLast? == some '\n' &&
        isIdentifierTail (rest ++ ['\n']).dropLast) = true
      rw [List.getLast?_concat, List.dropLast_concat]
      exact List.all_eq_true.2 hrest

/-- Without a line feed, an identifier is a name. -/
theorem isName_of_isIdentifier {cs : List Char} (h : isIdentifier cs = true)
    (hfeed : '\n' ∉ cs) : IsName cs := by
  rcases (isIdentifier_iff cs).1 h with hname | ⟨name, -, rfl⟩
  · exact hname
  · exact absurd (List.mem_append_right _ List.mem_cons_self) hfeed

/-- Of texts that do not end in a blank, the names are let through. -/
theorem isIdentifier_iff_of_stripped {cs : List Char}
    (hend : ∀ c, cs.getLast? = some c → Text.isBlank c = false) :
    isIdentifier cs = true ↔ IsName cs := by
  rw [isIdentifier_iff]
  refine ⟨fun h => ?_, .inl⟩
  rcases h with h | ⟨name, -, rfl⟩
  · exact h
  · exact absurd (hend '\n' List.getLast?_concat) (by decide)

/-- An identifier can be written if there is no line feed after it. -/
theorem isWritableName_iff {cs : List Char} (h : isIdentifier cs = true) :
    Hook.isWritableName cs = true ↔ '\n' ∉ cs := by
  rw [Hook.isWritableName, Bool.and_eq_true, Bool.not_eq_true', Bool.not_eq_true',
    List.isEmpty_eq_false_iff, List.any_eq_false]
  constructor
  · rintro ⟨-, hnone⟩ hfeed
    exact hnone _ hfeed (by decide)
  · intro hfeed
    have hname := isName_of_isIdentifier h hfeed
    refine ⟨hname.ne_nil, fun c hc => ?_⟩
    rw [isBlank_of_isNameChar c (hname.isNameChar c hc)]
    exact Bool.false_ne_true

/-- A path of identifiers can be written exactly if there is no line feed in it. -/
theorem isSome_dottedName?_iff {path : String}
    (h : ∀ part ∈ Text.splitOn '.' path.toList, isIdentifier part = true) :
    (Hook.dottedName? path).isSome = true ↔ '\n' ∉ path.toList := by
  have hwritable : (Hook.dottedName? path).isSome = true ↔
      ∀ part ∈ Text.splitOn '.' path.toList, Hook.isWritableName part = true := by
    rw [Hook.dottedName?, ← List.all_eq_true]
    split
    · rename_i hall
      exact ⟨fun _ => hall, fun _ => rfl⟩
    · rename_i hall
      exact ⟨fun hc => absurd hc Bool.false_ne_true, fun hc => absurd hc hall⟩
  rw [hwritable]
  constructor
  · intro hall hfeed
    -- A line feed is in one of the parts, and that part cannot be written.
    rcases Text.exists_mem_splitOn '.' _ '\n' hfeed (by decide) with ⟨part, hpart, hmem⟩
    exact (isWritableName_iff (h part hpart)).1 (hall part hpart) hmem
  · intro hfeed part hpart
    exact (isWritableName_iff (h part hpart)).2 fun hmem =>
      hfeed (Text.mem_of_mem_splitOn '.' _ part hpart '\n' hmem)

/-- The path of the hook is what the checks let through: identifiers with dots between
    them, without blanks at the ends of a field. -/
structure Accepted (config : Config) : Prop where
  parts : ∀ part ∈ Text.splitOn '.' config.hookNamespace.toList, isIdentifier part = true
  hookInstance : isIdentifier config.hookInstance.toList = true
  hookMethod : isIdentifier config.hookMethod.toList = true
  stripped : ∀ s ∈ [config.hookInstance, config.hookMethod], ∀ c, s.toList.getLast? = some c →
    Text.isBlank c = false

/-- An identifier that was let through. -/
theorem identifierField_ok {value : Value} {s : String} (h : identifierField value = .ok s) :
    isIdentifier s.toList = true ∧ ∀ c, s.toList.getLast? = some c → Text.isBlank c = false := by
  unfold identifierField at h
  cases hvalue : Field.text value with
  | error fault => simp only [hvalue, bind, Except.bind, reduceCtorEq] at h
  | ok written =>
      simp only [hvalue, bind, Except.bind] at h
      split at h
      · rename_i hname
        rw [Except.ok.injEq] at h
        rw [← h, String.toList_ofList]
        exact ⟨hname, Text.isBlank_getLast?_strip _⟩
      · simp only [reduceCtorEq] at h

/-- A namespace that was let through. -/
theorem namespaceField_ok {value : Value} {s : String} (h : namespaceField value = .ok s) :
    (∀ part ∈ Text.splitOn '.' s.toList, isIdentifier part = true) ∧
      ∀ c, s.toList.getLast? = some c → Text.isBlank c = false := by
  unfold namespaceField at h
  cases hvalue : Field.text value with
  | error fault => simp only [hvalue, bind, Except.bind, reduceCtorEq] at h
  | ok written =>
      simp only [hvalue, bind, Except.bind] at h
      split at h
      · rename_i hparts
        rw [Except.ok.injEq] at h
        rw [← h, String.toList_ofList]
        exact ⟨List.all_eq_true.1 hparts, Text.isBlank_getLast?_strip _⟩
      · simp only [reduceCtorEq] at h

/-- A setting is its default, or it was let through. -/
theorem field_ok {α : Type} {values : List (String × Value)} {name : String} {default a : α}
    {read : Value → Except Fault α} (h : field values name default read = .ok a) :
    a = default ∨ ∃ value, read value = .ok a := by
  unfold field at h
  split at h
  · exact .inl (Except.ok.inj h).symm
  · rename_i value _
    exact .inr ⟨value, h⟩

/-- The names of the hook in settings made from values: each of them is let through. -/
theorem hookFields_ok {values : List (String × Value)} {config : Config}
    (h : ofValues values = .ok config) :
    field values "hook_namespace" "instrument_code" namespaceField = .ok config.hookNamespace ∧
      field values "hook_instance" "instrument_code_instance" identifierField =
        .ok config.hookInstance ∧
      field values "hook_method" "instrument_code" identifierField = .ok config.hookMethod := by
  unfold ofValues at h
  dsimp only at h
  split at h
  · rename_i hnamespace hinstance hmethod _ _ _
    rw [Except.ok.injEq] at h
    rw [← h]
    exact ⟨hnamespace, hinstance, hmethod⟩
  · simp only [reduceCtorEq] at h

/-- What has name characters only does not end in a blank. -/
theorem isBlank_getLast?_of_isNameChar {s : String} (h : s.toList.all isNameChar = true) :
    ∀ c, s.toList.getLast? = some c → Text.isBlank c = false := fun c hc =>
  isBlank_of_isNameChar c (List.all_eq_true.1 h c (List.mem_of_getLast? hc))

/-- The namespace in settings made from values. -/
theorem hookNamespace_ok {values : List (String × Value)} {config : Config}
    (h : ofValues values = .ok config) :
    (∀ part ∈ Text.splitOn '.' config.hookNamespace.toList, isIdentifier part = true) ∧
      ∀ c, config.hookNamespace.toList.getLast? = some c → Text.isBlank c = false := by
  rcases field_ok (hookFields_ok h).1 with hdefault | ⟨value, hvalue⟩
  · rw [hdefault]
    exact ⟨by decide, isBlank_getLast?_of_isNameChar (by decide)⟩
  · exact namespaceField_ok hvalue

theorem accepted_of_ofValues {values : List (String × Value)} {config : Config}
    (h : ofValues values = .ok config) : config.Accepted := by
  have hfield : ∀ {name default s : String},
      field values name default identifierField = .ok s →
      isIdentifier default.toList = true → default.toList.all isNameChar = true →
      isIdentifier s.toList = true ∧
        ∀ c, s.toList.getLast? = some c → Text.isBlank c = false := by
    intro name default s hs hdefault hplain
    rcases field_ok hs with rfl | ⟨value, hvalue⟩
    · exact ⟨hdefault, isBlank_getLast?_of_isNameChar hplain⟩
    · exact identifierField_ok hvalue
  rcases hookFields_ok h with ⟨-, hinstance, hmethod⟩
  -- The defaults pass their own checks.
  rcases hfield hinstance (by decide) (by decide) with ⟨hname, hend⟩
  rcases hfield hmethod (by decide) (by decide) with ⟨hname', hend'⟩
  refine ⟨(hookNamespace_ok h).1, hname, hname', ?_⟩
  intro s hs
  rcases List.mem_cons.1 hs with rfl | hs
  · exact hend
  · rcases List.mem_singleton.1 hs with rfl
    exact hend'

section Accepted

variable {config : Config}

/-- The parts after the namespace are names. -/
theorem Accepted.isName (h : config.Accepted) :
    ∀ s ∈ [config.hookInstance, config.hookMethod], IsName s.toList := by
  intro s hs
  refine (isIdentifier_iff_of_stripped (h.stripped s hs)).1 ?_
  rcases List.mem_cons.1 hs with rfl | hs
  · exact h.hookInstance
  · exact List.mem_singleton.1 hs ▸ h.hookMethod

/-- The parts of the path: those of the namespace and the two others. -/
theorem Accepted.splitOn_hookPath (h : config.Accepted) :
    Text.splitOn '.' config.hookPath.toList =
      Text.splitOn '.' config.hookNamespace.toList ++
        [config.hookInstance.toList, config.hookMethod.toList] := by
  have hdot : ∀ s ∈ [config.hookInstance, config.hookMethod], '.' ∉ s.toList :=
    fun s hs => (h.isName s hs).dot_notMem
  have hpath : config.hookPath.toList = config.hookNamespace.toList ++
      '.' :: (config.hookInstance.toList ++ '.' :: config.hookMethod.toList) := by
    simp only [hookPath, String.toList_append, List.append_assoc]
    rfl
  rw [hpath, Text.splitOn_append_cons, Text.splitOn_append_cons,
    Text.splitOn_of_notMem _ _ (hdot _ List.mem_cons_self),
    Text.splitOn_of_notMem _ _ (hdot _ (List.mem_cons_of_mem _ List.mem_cons_self))]
  rfl

/-- All parts of the path are identifiers. -/
theorem Accepted.isIdentifier (h : config.Accepted) :
    ∀ part ∈ Text.splitOn '.' config.hookPath.toList, Config.isIdentifier part = true := by
  intro part hpart
  rw [h.splitOn_hookPath] at hpart
  rcases List.mem_append.1 hpart with hpart | hpart
  · exact h.parts part hpart
  · rcases List.mem_cons.1 hpart with rfl | hpart
    · exact h.hookInstance
    · exact List.mem_singleton.1 hpart ▸ h.hookMethod

/-- A line feed in the path is one in the namespace. -/
theorem Accepted.feed_mem_iff (h : config.Accepted) :
    '\n' ∈ config.hookPath.toList ↔ '\n' ∈ config.hookNamespace.toList := by
  have hdot : '\n' ∉ ".".toList := by decide
  have hnone : ∀ s ∈ [config.hookInstance, config.hookMethod], '\n' ∉ s.toList :=
    fun s hs => (h.isName s hs).feed_notMem
  simp only [hookPath, String.toList_append, List.mem_append, hdot, hnone _ List.mem_cons_self,
    hnone _ (List.mem_cons_of_mem _ List.mem_cons_self), or_false]

/-- Without a line feed in the namespace, the parts of the path have name characters
    only. -/
theorem Accepted.of_mem_splitOn (h : config.Accepted) (hfeed : '\n' ∉ config.hookNamespace.toList) :
    ∀ part ∈ Text.splitOn '.' config.hookPath.toList,
      Config.isIdentifier part = true ∧ ∀ c ∈ part, Config.isNameChar c = true := by
  intro part hpart
  have hidentifier := h.isIdentifier part hpart
  have hname := isName_of_isIdentifier hidentifier fun hmem =>
    hfeed (h.feed_mem_iff.1 (Text.mem_of_mem_splitOn '.' _ part hpart '\n' hmem))
  exact ⟨hidentifier, hname.isNameChar⟩

/-- A path that was let through can be written exactly if no line feed is in the
    namespace. -/
theorem Accepted.writable_iff (h : config.Accepted) :
    (Hook.dottedName? config.hookPath).isSome = true ↔ '\n' ∉ config.hookNamespace.toList := by
  rw [isSome_dottedName?_iff h.isIdentifier, h.feed_mem_iff]

end Accepted

end Config

end EntryCoverage
