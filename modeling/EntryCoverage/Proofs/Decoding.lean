import EntryCoverage.Proofs.MappingGrammar
import EntryCoverage.Proofs.Registry

/-!
# Decoding Identifiers

What an identifier stands for, in a mapping that was read from a text.

Nothing is known of such a mapping but that its keys are distinct. Its composite keys are
whatever the text has there, so a key may not be readable, may hold fewer or more than
three integers, or integers of any size. What is certain is that an identifier has one row
at most, so that looking it up finds the row that it has (`find?_of_mem`), and that the
answer depends on the key in that row and on the lists of names.

An answer is the place with the names at three positions. Positions are looked up as
positions of a list are, and those below zero count from the end. So a key whose integers
are not below zero gives the place that it was written for or none, but there are keys with
an integer below zero that give a place and not a fault. `Gives` and `GivesFromEnd` keep
the two apart, and `decode_answers` says that there is no third.

## Main definitions

* `Gives`: The place at the positions of a key.
* `GivesFromEnd`: The place of a key with a position that counts from the end.

## Theorems

* `nodup_keys_of_ofText`: The keys of a mapping that was read are distinct.
* `find?_of_mem`: Looking an identifier up finds its row.
* `gives_iff`: A key of three integers.
* `decode_eq_ok_iff`: An identifier stands for the place that its key gives.
* `decode_answers`: All that decoding an identifier comes to.
-/

namespace EntryCoverage

namespace Mapping

/-! ### Rows -/

/-- The keys of a mapping that was read are distinct. -/
theorem nodup_keys_of_ofText {text : String} {m : Mapping} (h : ofText text = .ok m) :
    (m.rows.map Row.key).Nodup := ((ofText_eq_ok_iff text m).1 h).2.1

variable {m : Mapping} {identifier key : String}

theorem mem_entries_iff : (identifier, key) ∈ m.entries ↔ .coordinate identifier key ∈ m.rows := by
  rw [entries, List.mem_filterMap]
  constructor
  · rintro ⟨row, hrow, hentry⟩
    cases row with
    | reserved n values => simp only [reduceCtorEq] at hentry
    | coordinate i k =>
        rcases Prod.mk.inj (Option.some.inj hentry) with ⟨rfl, rfl⟩
        exact hrow
  · intro hrow
    exact ⟨_, hrow, rfl⟩

/-- If keys are distinct, identifiers are. -/
theorem nodup_entries (h : (m.rows.map Row.key).Nodup) : (m.entries.map (·.1)).Nodup := by
  have hsublist : ∀ rows : List Row,
      List.Sublist ((⟨rows⟩ : Mapping).entries.map (·.1)) (rows.map Row.key) := by
    intro rows
    induction rows with
    | nil => exact .slnil
    | cons row rows ih =>
        cases row with
        | reserved n values => exact ih.cons _
        | coordinate i k => exact ih.cons_cons _
  exact (hsublist m.rows).nodup h

/-- Looking an identifier up finds the row that it has. -/
theorem find?_of_mem (h : (m.rows.map Row.key).Nodup)
    (hrow : .coordinate identifier key ∈ m.rows) :
    m.entries.find? (·.1 == identifier) = some (identifier, key) :=
  Registry.find?_of_nodup _ (nodup_entries h) _ (mem_entries_iff.2 hrow)

/-- An identifier whose positions are not known is refused for the same reason. -/
theorem decode_of_error {e : MappingError} (h : m.decodeIndices identifier = .error e) :
    m.decode identifier = .error e := by
  rw [decode, h]
  rfl

theorem decode_of_corrupt {reason : VlqError}
    (hfind : m.entries.find? (·.1 == identifier) = some (identifier, key))
    (hread : Vlq.decodeAll key = .error reason) :
    m.decode identifier = .error (.corruptKey identifier reason) := by
  refine decode_of_error ?_
  rw [decodeIndices, hfind]
  simp only [hread]

theorem decode_of_count {indices : List Int}
    (hfind : m.entries.find? (·.1 == identifier) = some (identifier, key))
    (hread : Vlq.decodeAll key = .ok indices) (hlength : indices.length ≠ 3) :
    m.decode identifier = .error (.wrongCount identifier indices.length) := by
  refine decode_of_error ?_
  rw [decodeIndices, hfind]
  simp only [hread]
  split
  · rename_i hc
    simp only [reduceCtorEq] at hc
  · rename_i hthree
    rw [Except.ok.inj hthree] at hlength
    exact absurd rfl hlength
  · rename_i hindices
    rw [Except.ok.inj hindices]

/-! ### Places -/

variable (m key)

/-- A key gives the place at its positions: it is read as three positions, and there the
    names of the place are. -/
def Gives (c : Coordinate) : Prop :=
  ∃ i j k : Nat, Vlq.decodeAll key = .ok [(i : Int), (j : Int), (k : Int)] ∧
    (m.names .files)[i]? = some c.file ∧ (m.names .functions)[j]? = some c.function ∧
    (m.names .kinds)[k]? = some c.kind

/-- A key gives a place though not all of its three integers are positions: at least one is
    below zero, and counts from the end. -/
def GivesFromEnd (c : Coordinate) : Prop :=
  ∃ i j k : Int, Vlq.decodeAll key = .ok [i, j, k] ∧ (i < 0 ∨ j < 0 ∨ k < 0) ∧
    NameAt (m.names .files) i c.file ∧ NameAt (m.names .functions) j c.function ∧
    NameAt (m.names .kinds) k c.kind

variable {m key}

/-- A key of three integers gives the place with the names that they lead to. -/
theorem gives_iff (i j k : Int) (h : Vlq.decodeAll key = .ok [i, j, k]) (c : Coordinate) :
    m.placeAt? i j k = some c ↔ m.Gives key c ∨ m.GivesFromEnd key c := by
  rw [placeAt?_eq_some_iff]
  constructor
  · rintro ⟨hfile, hfunction, hkind⟩
    by_cases hneg : i < 0 ∨ j < 0 ∨ k < 0
    · exact Or.inr ⟨i, j, k, h, hneg, hfile, hfunction, hkind⟩
    · -- All three are positions from the start.
      rcases Int.eq_ofNat_of_zero_le (by omega : 0 ≤ i) with ⟨a, rfl⟩
      rcases Int.eq_ofNat_of_zero_le (by omega : 0 ≤ j) with ⟨b, rfl⟩
      rcases Int.eq_ofNat_of_zero_le (by omega : 0 ≤ k) with ⟨d, rfl⟩
      exact Or.inl ⟨a, b, d, h, hfile, hfunction, hkind⟩
  · -- The key is read in one way only.
    rintro (⟨a, b, d, hread, hplace⟩ | ⟨a, b, d, hread, -, hplace⟩)
    · rw [h, Except.ok.injEq, List.cons.injEq, List.cons.injEq, List.cons.injEq] at hread
      rcases hread with ⟨rfl, rfl, rfl, -⟩
      exact hplace
    · rw [h, Except.ok.injEq, List.cons.injEq, List.cons.injEq, List.cons.injEq] at hread
      rcases hread with ⟨rfl, rfl, rfl, -⟩
      exact hplace

/-- A key that gives a place is read as three integers. -/
theorem length_of_gives {c : Coordinate} (h : m.Gives key c ∨ m.GivesFromEnd key c) :
    ∃ indices, Vlq.decodeAll key = .ok indices ∧ indices.length = 3 := by
  rcases h with ⟨i, j, k, hread, -⟩ | ⟨i, j, k, hread, -⟩
  · exact ⟨_, hread, rfl⟩
  · exact ⟨_, hread, rfl⟩

/-- An identifier stands for the place that the key in its row gives, and is refused if that
    gives none. -/
theorem decode_eq_ok_iff
    (hfind : m.entries.find? (·.1 == identifier) = some (identifier, key)) (c : Coordinate) :
    m.decode identifier = .ok c ↔ m.Gives key c ∨ m.GivesFromEnd key c := by
  cases hread : Vlq.decodeAll key with
  | error reason =>
      rw [decode_of_corrupt hfind hread]
      refine iff_of_false (by simp only [reduceCtorEq, not_false_eq_true]) (fun hgives => ?_)
      rcases length_of_gives hgives with ⟨indices, hok, -⟩
      rw [hread] at hok
      simp only [reduceCtorEq] at hok
  | ok indices =>
      by_cases hlength : indices.length = 3
      · rcases List.length_eq_three.1 hlength with ⟨i, j, k, rfl⟩
        rw [← gives_iff i j k hread, decode_of_positions m identifier i j k
          (decodeIndices_of_entry m identifier key i j k hfind hread)]
        cases m.placeAt? i j k with
        | none => simp only [reduceCtorEq]
        | some found => simp only [Except.ok.injEq, Option.some.injEq]
      · rw [decode_of_count hfind hread hlength]
        refine iff_of_false (by simp only [reduceCtorEq, not_false_eq_true]) (fun hgives => ?_)
        rcases length_of_gives hgives with ⟨others, hok, hthree⟩
        rw [hread, Except.ok.injEq] at hok
        exact hlength (hok ▸ hthree)

/-- All that decoding an identifier comes to, with a mapping that was read. Without a row it
    is not known. With a row it stands for the place that the key of the row gives, and for
    no other one, which is the place at three positions of the lists unless an integer of
    the key is below zero. If the key gives no place it is refused: because the key cannot
    be read, or does not hold three integers, or a name is missing. -/
theorem decode_answers (text : String) (m : Mapping) (h : ofText text = .ok m)
    (identifier : String) :
    ((∀ key, .coordinate identifier key ∉ m.rows) →
      m.decode identifier = .error (.unknownIdentifier identifier)) ∧
    ∀ key, .coordinate identifier key ∈ m.rows →
      (∀ c, m.decode identifier = .ok c ↔ m.Gives key c ∨ m.GivesFromEnd key c) ∧
      (∀ reason, Vlq.decodeAll key = .error reason →
        m.decode identifier = .error (.corruptKey identifier reason)) ∧
      (∀ indices, Vlq.decodeAll key = .ok indices → indices.length ≠ 3 →
        m.decode identifier = .error (.wrongCount identifier indices.length)) ∧
      (∀ indices, Vlq.decodeAll key = .ok indices → indices.length = 3 →
        (∀ c, ¬ (m.Gives key c ∨ m.GivesFromEnd key c)) →
        m.decode identifier = .error (.missingName identifier)) := by
  constructor
  · intro hnone
    refine decode_of_unknown m identifier (fun hmem => ?_)
    rcases List.mem_map.1 hmem with ⟨⟨i, key⟩, hentry, rfl⟩
    exact hnone key (mem_entries_iff.1 hentry)
  · intro key hrow
    have hfind := find?_of_mem (nodup_keys_of_ofText h) hrow
    refine ⟨decode_eq_ok_iff hfind, fun _ hread => decode_of_corrupt hfind hread,
      fun _ hread hlength => decode_of_count hfind hread hlength, ?_⟩
    intro indices hread hlength hno
    rcases List.length_eq_three.1 hlength with ⟨i, j, k, rfl⟩
    have hnone : m.placeAt? i j k = none := by
      rw [Option.eq_none_iff_forall_ne_some]
      exact fun c hc => hno c ((gives_iff i j k hread c).1 hc)
    rw [decode_of_positions m identifier i j k
      (decodeIndices_of_entry m identifier key i j k hfind hread), hnone]

/-- A mapping file with a key whose first integer is below zero, for which the last file is
    given, and one whose first integer is too large. -/
theorem decode_answers_below_zero :
    let m : Mapping := ⟨[.reserved .files ["a", "b"], .reserved .functions ["f"],
      .reserved .kinds ["T"], .coordinate "C" "DAA", .coordinate "E" "EAA"]⟩
    ofText " FileNames:[\"a\",\"b\"]\n FunctionNames:[\"f\"]\n Types:[\"T\"]\nC:DAA\nE:EAA" = .ok m ∧
      m.decode "C" = .ok ⟨"b", "f", "T"⟩ ∧ (∀ c, ¬ m.Gives "DAA" c) ∧
      m.decode "E" = .error (.missingName "E") ∧
      m.decode "G" = .error (.unknownIdentifier "G") := by
  intro m
  have hread : ofText
      " FileNames:[\"a\",\"b\"]\n FunctionNames:[\"f\"]\n Types:[\"T\"]\nC:DAA\nE:EAA" = .ok m := by
    cbv
  have hminus : Vlq.decodeAll "DAA" = .ok [-1, 0, 0] := rfl
  have htwo : Vlq.decodeAll "EAA" = .ok [2, 0, 0] := rfl
  have hnone : ∀ c, ¬ (m.Gives "EAA" c ∨ m.GivesFromEnd "EAA" c) := by
    intro c hc
    rw [← gives_iff 2 0 0 htwo] at hc
    exact absurd hc (by simp [m, placeAt?, itemAt?, names])
  refine ⟨hread, ?_, ?_, ?_, ?_⟩
  · refine (((decode_answers _ m hread "C").2 "DAA" (by decide)).1 _).2 (Or.inr ?_)
    exact ⟨-1, 0, 0, hminus, by decide, rfl, rfl, rfl⟩
  · rintro c ⟨i, j, k, hc, -⟩
    rw [hminus, Except.ok.injEq, List.cons.injEq] at hc
    omega
  · exact ((decode_answers _ m hread "E").2 "EAA" (by decide)).2.2.2 _ htwo rfl hnone
  · exact (decode_answers _ m hread "G").1 (fun key hc => by simp [m] at hc)

end Mapping

end EntryCoverage
