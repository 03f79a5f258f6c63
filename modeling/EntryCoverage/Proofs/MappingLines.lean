import EntryCoverage.Mapping.Line
import Mathlib.Data.List.Basic

/-!
# The Grammar of a Line

Which lines of a mapping have two parts, and which ones.

A backslash takes the character after it out of its role, and with a row of backslashes the
question is only whether their number is odd. `Escapes` asks it of what stands before a
place. So a line needs a colon that nothing escapes, and must not escape what would come
after its end. These are conditions on places in the line, without any reading from left
to right.

The reader does go from left to right, a backslash and the character after it at a time.
Both views take the same steps: a pair that begins with a backslash can be put before a line
without changing whether its end escapes (`escapes_pair`) or whether it has a colon
(`hasColon_pair`), and so can any other character but the colon. Each fact about a line is
an induction along the reader's cases, and what the reader refuses is refused for one of
the two reasons.

A part is written a character at a time. Three replacements in the whole text do the same, if
that of backslashes comes first (`escape_eq_replaced`).

## Main definitions

* `slashesAtEnd`, `Escapes`: Whether what follows is escaped.
* `HasColon`: There is a colon that is not.
* `Writes`: What characters may be written as.
* `Parts`: The two parts of a line.
* `replaced`: A text with something else in place of a character.

## Theorems

* `exists_writes_iff`: What is no beginning of anything is written for something.
* `unescape_eq_ok_iff`, `unescape_of_escapes`: Reading what was written to the end.
* `exists_parts_iff`: The lines that have two parts.
* `splitLine_eq_ok_iff`: The parts that are read.
* `splitLine_of_no_parts`, `splitLine_eq_error_iff`: Why a line is refused.
* `escape_eq_replaced`: How a part is written.
* `splitLine_splits`: Written parts are found again, and which lines have parts.
-/

namespace EntryCoverage

namespace Mapping

/-- How many backslashes stand at the end. -/
def slashesAtEnd (cs : List Char) : Nat := (cs.reverse.takeWhile (· == '\\')).length

/-- What follows these characters is escaped: a backslash stands before it that is not
    escaped itself. -/
def Escapes (cs : List Char) : Prop := slashesAtEnd cs % 2 = 1

instance (cs : List Char) : Decidable (Escapes cs) :=
  inferInstanceAs (Decidable (slashesAtEnd cs % 2 = 1))

/-- A colon stands in a line that is not escaped. -/
def HasColon (line : List Char) : Prop :=
  ∃ before after, line = before ++ ':' :: after ∧ ¬ Escapes before

/-- What characters may be written as: themselves, unless they are backslashes, or what
    stands for them after a backslash. -/
inductive Writes : List Char → List Char → Prop
  | nil : Writes [] []
  | plain {c : Char} {w cs : List Char} (hc : c ≠ '\\') (h : Writes w cs) :
      Writes (c :: w) (c :: cs)
  | escaped (c : Char) {w cs : List Char} (h : Writes w cs) :
      Writes ('\\' :: c :: w) (unescapeChar c :: cs)

/-- The key and the value of a line, before and after its first colon that is not
    escaped. -/
def Parts (line key value : List Char) : Prop :=
  ∃ k v, line = k ++ ':' :: v ∧ ¬ HasColon k ∧ Writes k key ∧ Writes v value

/-- A line is read a backslash and a character at a time, or a character that is no
    backslash. One may be left over. -/
@[elab_as_elim]
theorem pairs_induction {motive : List Char → Prop} (nil : motive []) (slash : motive ['\\'])
    (pair : ∀ c rest, motive rest → motive ('\\' :: c :: rest))
    (plain : ∀ c rest, c ≠ '\\' → motive rest → motive (c :: rest)) (cs : List Char) :
    motive cs := by
  induction cs using unescape.induct with
  | case1 => exact nil
  | case2 => exact slash
  | case3 c rest ih => exact pair c rest ih
  | case4 c rest hend hpair ih =>
      refine plain c rest (fun hc => ?_) ih
      cases rest with
      | nil => exact hend hc rfl
      | cons d rest => exact hpair d rest hc rfl

/-! ### Backslashes -/

/-- A character only counts if nothing but backslashes comes after it. -/
theorem slashesAtEnd_cons (c : Char) (cs : List Char) :
    slashesAtEnd (c :: cs) = if slashesAtEnd cs = cs.length then
      cs.length + (if c = '\\' then 1 else 0) else slashesAtEnd cs := by
  rw [slashesAtEnd, List.reverse_cons, List.takeWhile_append, slashesAtEnd, List.length_reverse]
  split
  · rw [List.length_append, List.length_reverse, List.takeWhile_cons]
    by_cases hc : c = '\\'
    · rw [if_pos (beq_iff_eq.2 hc), if_pos hc]
      rfl
    · rw [if_neg (fun h => hc (beq_iff_eq.1 h)), if_neg hc]
      rfl
  · rfl

theorem not_escapes_nil : ¬ Escapes [] := by decide

theorem escapes_slash : Escapes ['\\'] := by decide

/-- Another character at the beginning changes nothing. -/
theorem escapes_cons_of_ne {c : Char} (hc : c ≠ '\\') (cs : List Char) :
    Escapes (c :: cs) ↔ Escapes cs := by
  rw [Escapes, Escapes, slashesAtEnd_cons, if_neg hc]
  split
  · rename_i hall
    rw [hall, Nat.add_zero]
  · rfl

/-- Nor does a backslash with the character that it escapes. -/
theorem escapes_pair (c : Char) (cs : List Char) : Escapes ('\\' :: c :: cs) ↔ Escapes cs := by
  rw [Escapes, Escapes, slashesAtEnd_cons, slashesAtEnd_cons, List.length_cons]
  by_cases hall : slashesAtEnd cs = cs.length
  · by_cases hc : c = '\\'
    · -- two more backslashes
      rw [if_pos hall, if_pos hc, if_pos rfl, if_pos rfl, hall]
      omega
    · rw [if_pos hall, if_neg hc, if_neg (by omega), hall]
      rfl
  · have hle : slashesAtEnd cs ≤ cs.length := by
      have hprefix := (List.takeWhile_prefix (· == '\\') (l := cs.reverse)).length_le
      rwa [List.length_reverse] at hprefix
    rw [if_neg hall, if_neg (by omega)]

theorem not_hasColon_nil : ¬ HasColon [] := by
  rintro ⟨before, after, h, -⟩
  exact absurd h.symm (List.append_ne_nil_of_right_ne_nil _ (List.cons_ne_nil _ _))

theorem hasColon_colon (rest : List Char) : HasColon (':' :: rest) :=
  ⟨[], rest, rfl, not_escapes_nil⟩

theorem hasColon_cons_of_ne {c : Char} (hc : c ≠ '\\') (hcolon : c ≠ ':') (rest : List Char) :
    HasColon (c :: rest) ↔ HasColon rest := by
  constructor
  · rintro ⟨before, after, h, hbefore⟩
    rcases List.cons_eq_append_iff.1 h with ⟨-, hcons⟩ | ⟨before, rfl, rfl⟩
    · exact absurd (List.cons.inj hcons).1.symm hcolon
    · exact ⟨before, after, rfl, fun hesc => hbefore ((escapes_cons_of_ne hc before).2 hesc)⟩
  · rintro ⟨before, after, rfl, hbefore⟩
    exact ⟨c :: before, after, rfl, fun hesc => hbefore ((escapes_cons_of_ne hc before).1 hesc)⟩

theorem hasColon_pair (c : Char) (rest : List Char) :
    HasColon ('\\' :: c :: rest) ↔ HasColon rest := by
  constructor
  · rintro ⟨before, after, h, hbefore⟩
    -- The colon is neither the backslash nor the character that it escapes.
    rcases List.cons_eq_append_iff.1 h with ⟨-, hcons⟩ | ⟨tail, rfl, htail⟩
    · exact absurd (List.cons.inj hcons).1 (by decide)
    · rcases List.cons_eq_append_iff.1 htail with ⟨rfl, -⟩ | ⟨before, rfl, rfl⟩
      · exact absurd escapes_slash hbefore
      · exact ⟨before, after, rfl, fun hesc => hbefore ((escapes_pair c before).2 hesc)⟩
  · rintro ⟨before, after, rfl, hbefore⟩
    exact ⟨'\\' :: c :: before, after, rfl, fun hesc => hbefore ((escapes_pair c before).1 hesc)⟩

theorem not_hasColon_slash : ¬ HasColon ['\\'] := by
  rintro ⟨before, after, h, -⟩
  rcases List.cons_eq_append_iff.1 h with ⟨-, hcons⟩ | ⟨before, -, h⟩
  · exact absurd (List.cons.inj hcons).1 (by decide)
  · exact absurd h.symm (List.append_ne_nil_of_right_ne_nil _ (List.cons_ne_nil _ _))

/-! ### Parts to the end -/

/-- What does not escape what follows is written for something. -/
theorem exists_writes_iff (w : List Char) : (∃ cs, Writes w cs) ↔ ¬ Escapes w := by
  induction w using pairs_induction with
  | nil => exact iff_of_true ⟨[], .nil⟩ not_escapes_nil
  | slash =>
      refine iff_of_false ?_ (fun h => h escapes_slash)
      rintro ⟨cs, h⟩
      cases h with
      | plain hc _ => exact hc rfl
  | pair c rest ih =>
      rw [escapes_pair, ← ih]
      constructor
      · rintro ⟨cs, h⟩
        cases h with
        | plain hc _ => exact absurd rfl hc
        | escaped _ h => exact ⟨_, h⟩
      · rintro ⟨cs, h⟩
        exact ⟨_, .escaped c h⟩
  | plain c rest hc ih =>
      rw [escapes_cons_of_ne hc, ← ih]
      constructor
      · rintro ⟨cs, h⟩
        cases h with
        | plain _ h => exact ⟨_, h⟩
        | escaped _ _ => exact absurd rfl hc
      · rintro ⟨cs, h⟩
        exact ⟨_, .plain hc h⟩

/-- What was written is read back. -/
theorem unescape_of_writes {w cs : List Char} (h : Writes w cs) : unescape w = .ok cs := by
  induction h with
  | nil => rfl
  | plain hc _ ih =>
      rw [unescape_cons_of_ne hc, ih]
      rfl
  | escaped c _ ih =>
      rw [unescape, ih]
      rfl

/-- What escapes its own end is refused. -/
theorem unescape_of_escapes {w : List Char} (h : Escapes w) :
    unescape w = .error .danglingEscape := by
  induction w using pairs_induction with
  | nil => exact absurd h not_escapes_nil
  | slash => rfl
  | pair c rest ih =>
      rw [unescape, ih ((escapes_pair c rest).1 h)]
      rfl
  | plain c rest hc ih =>
      rw [unescape_cons_of_ne hc, ih ((escapes_cons_of_ne hc rest).1 h)]
      rfl

/-- What is read is what was written. -/
theorem unescape_eq_ok_iff (w cs : List Char) : unescape w = .ok cs ↔ Writes w cs := by
  constructor
  · intro hread
    by_cases hesc : Escapes w
    · rw [unescape_of_escapes hesc] at hread
      exact absurd hread (by simp only [reduceCtorEq, not_false_eq_true])
    · rcases (exists_writes_iff w).2 hesc with ⟨ds, h⟩
      rw [unescape_of_writes h, Except.ok.injEq] at hread
      exact hread ▸ h
  · exact unescape_of_writes

/-! ### Lines -/

/-- Without a colon, a line is refused for the one reason or the other. -/
theorem splitLine_of_not_hasColon {line : List Char} (h : ¬ HasColon line) :
    splitLine line = .error (if Escapes line then .danglingEscape else .missingSeparator) := by
  induction line using pairs_induction with
  | nil => rfl
  | slash => rfl
  | pair c rest ih =>
      rw [hasColon_pair] at h
      rw [splitLine, ih h]
      simp only [escapes_pair]
      rfl
  | plain c rest hc ih =>
      have hcolon : c ≠ ':' := by
        rintro rfl
        exact h (hasColon_colon rest)
      rw [hasColon_cons_of_ne hc hcolon] at h
      rw [splitLine_cons_of_ne hc hcolon, ih h]
      simp only [escapes_cons_of_ne hc]
      rfl

/-- The key is what is before the first colon, and what is after it is read to the end. -/
theorem splitLine_of_colon {k key : List Char} (h : Writes k key) (hk : ¬ HasColon k)
    (v : List Char) :
    splitLine (k ++ ':' :: v) = (unescape v).map fun value => (key, value) := by
  induction h with
  | nil => rfl
  | @plain c w cs hc _ ih =>
      have hcolon : c ≠ ':' := by
        rintro rfl
        exact hk (hasColon_colon w)
      rw [hasColon_cons_of_ne hc hcolon] at hk
      rw [List.cons_append, splitLine_cons_of_ne hc hcolon, ih hk]
      cases unescape v <;> rfl
  | @escaped c w cs _ ih =>
      rw [hasColon_pair] at hk
      rw [List.cons_append, List.cons_append, splitLine, ih hk]
      cases unescape v <;> rfl

/-- A line with a colon has a first one, and what is before it is written for something. -/
theorem exists_first_colon {line : List Char} (h : HasColon line) :
    ∃ k v key, line = k ++ ':' :: v ∧ ¬ HasColon k ∧ Writes k key := by
  induction line using pairs_induction with
  | nil => exact absurd h not_hasColon_nil
  | slash => exact absurd h not_hasColon_slash
  | pair c rest ih =>
      rcases ih ((hasColon_pair c rest).1 h) with ⟨k, v, key, rfl, hk, hkey⟩
      exact ⟨'\\' :: c :: k, v, _, rfl, fun hc => hk ((hasColon_pair c k).1 hc), .escaped c hkey⟩
  | plain c rest hc ih =>
      by_cases hcolon : c = ':'
      · subst hcolon
        exact ⟨[], rest, [], rfl, not_hasColon_nil, .nil⟩
      · rcases ih ((hasColon_cons_of_ne hc hcolon rest).1 h) with ⟨k, v, key, rfl, hk, hkey⟩
        exact ⟨c :: k, v, _, rfl, fun h => hk ((hasColon_cons_of_ne hc hcolon k).1 h),
          .plain hc hkey⟩

/-- What was written, and a colon, leave it to the rest whether the end is escaped. -/
theorem escapes_append {k key : List Char} (h : Writes k key) (rest : List Char) :
    Escapes (k ++ rest) ↔ Escapes rest := by
  induction h with
  | nil => rfl
  | plain hc _ ih => rw [List.cons_append, escapes_cons_of_ne hc, ih]
  | escaped c _ ih => rw [List.cons_append, List.cons_append, escapes_pair, ih]

/-- The lines that have two parts: there is a colon that is not escaped, and the end is not
    escaped either. -/
theorem exists_parts_iff (line : List Char) :
    (∃ key value, Parts line key value) ↔ HasColon line ∧ ¬ Escapes line := by
  constructor
  · rintro ⟨key, value, k, v, rfl, -, hkey, hvalue⟩
    refine ⟨⟨k, v, rfl, (exists_writes_iff k).1 ⟨key, hkey⟩⟩, ?_⟩
    rw [escapes_append hkey, escapes_cons_of_ne (by decide)]
    exact (exists_writes_iff v).1 ⟨value, hvalue⟩
  · rintro ⟨hcolon, hend⟩
    rcases exists_first_colon hcolon with ⟨k, v, key, rfl, hk, hkey⟩
    rw [escapes_append hkey, escapes_cons_of_ne (by decide)] at hend
    rcases (exists_writes_iff v).2 hend with ⟨value, hvalue⟩
    exact ⟨key, value, k, v, rfl, hk, hkey, hvalue⟩

/-- The parts that are read are those that the line has. -/
theorem splitLine_of_parts {line key value : List Char} (h : Parts line key value) :
    splitLine line = .ok (key, value) := by
  rcases h with ⟨k, v, rfl, hk, hkey, hvalue⟩
  rw [splitLine_of_colon hkey hk, unescape_of_writes hvalue]
  rfl

/-- A line without two parts is refused, because its end is escaped or because there is no
    colon. -/
theorem splitLine_of_no_parts {line : List Char} (h : ¬ ∃ key value, Parts line key value) :
    splitLine line = .error (if Escapes line then .danglingEscape else .missingSeparator) := by
  by_cases hcolon : HasColon line
  · have hend : Escapes line := by
      by_contra hend
      exact h ((exists_parts_iff line).2 ⟨hcolon, hend⟩)
    rcases exists_first_colon hcolon with ⟨k, v, key, rfl, hk, hkey⟩
    have hrest := hend
    rw [escapes_append hkey, escapes_cons_of_ne (by decide)] at hrest
    rw [splitLine_of_colon hkey hk, unescape_of_escapes hrest, if_pos hend]
    rfl
  · exact splitLine_of_not_hasColon hcolon

theorem splitLine_eq_ok_iff (line key value : List Char) :
    splitLine line = .ok (key, value) ↔ Parts line key value := by
  constructor
  · intro hread
    by_cases hparts : ∃ key value, Parts line key value
    · rcases hparts with ⟨key', value', h⟩
      rw [splitLine_of_parts h, Except.ok.injEq, Prod.mk.injEq] at hread
      exact hread.1 ▸ hread.2 ▸ h
    · rw [splitLine_of_no_parts hparts] at hread
      exact absurd hread (by simp only [reduceCtorEq, not_false_eq_true])
  · exact splitLine_of_parts

/-- A line has no two keys. -/
theorem Parts.unique {line key key' value value' : List Char} (h : Parts line key value)
    (h' : Parts line key' value') : key = key' ∧ value = value' := by
  have hread := splitLine_of_parts h
  rw [splitLine_of_parts h', Except.ok.injEq, Prod.mk.injEq] at hread
  exact ⟨hread.1.symm, hread.2.symm⟩

/-! ### What is said of a line -/

/-- A line is refused if it has no two parts, and first for its end. -/
theorem splitLine_eq_error_iff (line : List Char) (fault : LineFault) :
    splitLine line = .error fault ↔ (¬ ∃ key value, Parts line key value) ∧
      fault = if Escapes line then .danglingEscape else .missingSeparator := by
  by_cases hparts : ∃ key value, Parts line key value
  · refine iff_of_false (fun herror => ?_) (fun h => h.1 hparts)
    rcases hparts with ⟨key, value, h⟩
    rw [splitLine_of_parts h] at herror
    exact absurd herror (by simp only [reduceCtorEq, not_false_eq_true])
  · rw [splitLine_of_no_parts hparts, Except.error.injEq, eq_comm]
    exact (and_iff_right hparts).symm

theorem splitLine_eq_danglingEscape_iff (line : List Char) :
    splitLine line = .error .danglingEscape ↔ Escapes line := by
  rw [splitLine_eq_error_iff, exists_parts_iff]
  by_cases hend : Escapes line <;> simp [hend]

/-- A missing colon is only told of a line whose end is in order. -/
theorem splitLine_eq_missingSeparator_iff (line : List Char) :
    splitLine line = .error .missingSeparator ↔ ¬ Escapes line ∧ ¬ HasColon line := by
  rw [splitLine_eq_error_iff, exists_parts_iff]
  by_cases hend : Escapes line <;> simp [hend]

/-! ### Writing a part -/

/-- A text in which one character is replaced by others wherever it stands. -/
def replaced (c : Char) (w cs : List Char) : List Char :=
  cs.flatMap fun d => if d = c then w else [d]

/-- A part is written by three replacements. Backslashes come first, since the others bring in
    more of them. -/
theorem escape_eq_replaced (cs : List Char) :
    escape cs = replaced '\n' ['\\', 'n']
      (replaced ':' ['\\', ':'] (replaced '\\' ['\\', '\\'] cs)) := by
  rw [replaced, replaced, replaced, List.flatMap_assoc, List.flatMap_assoc, escape]
  congr 1
  funext c
  by_cases hslash : c = '\\'
  · subst hslash
    rfl
  by_cases hcolon : c = ':'
  · subst hcolon
    rfl
  by_cases hnewline : c = '\n'
  · subst hnewline
    rfl
  · simp [escapeChar, hslash, hcolon, hnewline]

theorem newline_notMem_escape (cs : List Char) : '\n' ∉ escape cs := by
  intro hc
  rcases List.mem_flatMap.1 hc with ⟨c, -, hc⟩
  simp only [escapeChar, beq_iff_eq] at hc
  split at hc
  · exact absurd hc (by decide)
  split at hc
  · exact absurd hc (by decide)
  split at hc
  · exact absurd hc (by decide)
  · rename_i hne
    exact hne (List.mem_singleton.1 hc).symm

/-- Parts are written without line feeds, and a line of written parts is split into them. Any
    line is split at its first colon that is not escaped. There is no other reason to refuse one
    than an escaped end, and after that the lack of such a colon. -/
theorem splitLine_splits :
    (∀ cs, '\n' ∉ escape cs ∧ escape cs = replaced '\n' ['\\', 'n']
        (replaced ':' ['\\', ':'] (replaced '\\' ['\\', '\\'] cs))) ∧
      (∀ key value, splitLine (escape key ++ ':' :: escape value) = .ok (key, value)) ∧
      ∀ line,
        ((∃ key value, splitLine line = .ok (key, value)) ↔ ¬ Escapes line ∧ HasColon line) ∧
        (∀ key value, splitLine line = .ok (key, value) ↔ ∃ k v, line = k ++ ':' :: v ∧
          ¬ Escapes k ∧ ¬ HasColon k ∧ Writes k key ∧ Writes v value) ∧
        (splitLine line = .error .danglingEscape ↔ Escapes line) ∧
        (splitLine line = .error .missingSeparator ↔ ¬ Escapes line ∧ ¬ HasColon line) := by
  refine ⟨fun cs => ⟨newline_notMem_escape cs, escape_eq_replaced cs⟩, splitLine_escape,
    fun line => ⟨?_, fun key value => ?_, splitLine_eq_danglingEscape_iff line,
      splitLine_eq_missingSeparator_iff line⟩⟩
  · rw [and_comm, ← exists_parts_iff]
    simp only [splitLine_eq_ok_iff]
  · rw [splitLine_eq_ok_iff]
    constructor
    · rintro ⟨k, v, hline, hk, hkey, hvalue⟩
      exact ⟨k, v, hline, (exists_writes_iff k).1 ⟨key, hkey⟩, hk, hkey, hvalue⟩
    · rintro ⟨k, v, hline, -, hk, hkey, hvalue⟩
      exact ⟨k, v, hline, hk, hkey, hvalue⟩

/-- A colon after one backslash is part of the key, and one after two is not. -/
example : splitLine ['a', '\\', ':', '\\', '\\', ':', 'b', ':'] =
    .ok (['a', ':', '\\'], ['b', ':']) := rfl

end Mapping

end EntryCoverage
