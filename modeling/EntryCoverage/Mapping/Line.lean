/-!
# Lines of a Mapping

A line of a mapping file holds a key and a value with a colon between them.
Colons in either part, and backslashes and line feeds, are written with a
backslash before them, so the first colon without one is the one between the
parts, and no part has a line feed.

## Main definitions

* `escape`: A part of a line as it is written.
* `splitLine`: The parts of a line.

## Theorems

* `splitLine_escape`: Splitting a written line gives its parts back.
-/

namespace EntryCoverage

namespace Mapping

/-- Why a line has no two parts. -/
inductive LineFault
  | danglingEscape
  | missingSeparator
deriving DecidableEq, Repr

/-- A character of a part as it is written. -/
def escapeChar (c : Char) : List Char :=
  if c == '\\' then ['\\', '\\']
  else if c == ':' then ['\\', ':']
  else if c == '\n' then ['\\', 'n']
  else [c]

/-- A part of a line as it is written. -/
def escape (cs : List Char) : List Char := cs.flatMap escapeChar

/-- The character that one after a backslash stands for. -/
def unescapeChar (c : Char) : Char := if c == 'n' then '\n' else c

/-- A part that goes on to the end of the line. -/
def unescape : List Char → Except LineFault (List Char)
  | [] => .ok []
  | ['\\'] => .error .danglingEscape
  | '\\' :: c :: rest => (unescape rest).map (unescapeChar c :: ·)
  | c :: rest => (unescape rest).map (c :: ·)

/-- The parts of a line, split at its first colon without a backslash. -/
def splitLine : List Char → Except LineFault (List Char × List Char)
  | [] => .error .missingSeparator
  | ['\\'] => .error .danglingEscape
  | '\\' :: c :: rest => (splitLine rest).map fun (key, value) => (unescapeChar c :: key, value)
  | ':' :: rest => (unescape rest).map fun value => ([], value)
  | c :: rest => (splitLine rest).map fun (key, value) => (c :: key, value)

theorem unescape_cons_of_ne {c : Char} (h : c ≠ '\\') (rest : List Char) :
    unescape (c :: rest) = (unescape rest).map (c :: ·) := by
  rw [unescape.eq_def]
  split <;> simp_all

theorem splitLine_cons_of_ne {c : Char} (h : c ≠ '\\') (h' : c ≠ ':') (rest : List Char) :
    splitLine (c :: rest) = (splitLine rest).map fun (key, value) => (c :: key, value) := by
  rw [splitLine.eq_def]
  split <;> simp_all

theorem unescape_escape (cs : List Char) : unescape (escape cs) = .ok cs := by
  induction cs with
  | nil => rfl
  | cons c cs ih =>
      have step : ∀ t, unescape (escapeChar c ++ t) = (unescape t).map (c :: ·) := by
        intro t
        simp only [escapeChar, beq_iff_eq]
        split
        · simp_all [unescape, unescapeChar]
        · split
          · simp_all [unescape, unescapeChar]
          · split
            · simp_all [unescape, unescapeChar]
            · simp [unescape_cons_of_ne, *]
      rw [escape, List.flatMap_cons, step]
      change (unescape (escape cs)).map _ = _
      rw [ih]
      rfl

theorem splitLine_escape (key value : List Char) :
    splitLine (escape key ++ ':' :: escape value) = .ok (key, value) := by
  induction key with
  | nil =>
      change (unescape (escape value)).map _ = _
      rw [unescape_escape]
      rfl
  | cons c cs ih =>
      have step : ∀ t, splitLine (escapeChar c ++ t) =
          (splitLine t).map fun (key, value) => (c :: key, value) := by
        intro t
        simp only [escapeChar, beq_iff_eq]
        split
        · simp_all [splitLine, unescapeChar]
        · split
          · simp_all [splitLine, unescapeChar]
          · split
            · simp_all [splitLine, unescapeChar]
            · simp [splitLine_cons_of_ne, *]
      rw [escape, List.flatMap_cons, List.append_assoc, step]
      change Except.map _ (splitLine (escape cs ++ _)) = _
      rw [ih]
      rfl

end Mapping

end EntryCoverage
