import EntryCoverage.Proofs.Registry

/-!
# When the Numbers Are Used Up

What a registry answers once it has no numbers left.

A refused call is not undone: its names stay in the tables, and the number that it did
not get counts as handed out. So the state after a failure is none that successful calls
lead to, and `After` says nothing about it. What survives is that the composite keys are
those of the first distinct places, as many as there was room for (`served`), and that
the counter has gone at least that far. `Holds` says so, and every call keeps it whether
it succeeds or fails.

From it follows that the answer to a call depends on nothing but the rank of its place
among the distinct places asked for (`encode_holds`): a rank within the room is answered
with its number, any other is refused. Ranks do not move as more is asked for, so a place
that was served is served for ever and one that was refused stays refused.

The reason of a refusal needs one more fact. Positions of names are written as quantities
too, before the counter is looked at, and they grow with every call. But a name is seen no
later than its place, so its position is no larger than the rank of the place
(`idxOf_eraseDups_map_le`), and the first rank without a number is itself still a
quantity.

## Main definitions

* `room`: How many numbers follow a number.
* `served`: The places that are granted identifiers.
* `rank`: The rank of a place among the distinct places.
* `Holds`: What a registry holds after any calls.
* `Reply`: The answer to a call for a place of a rank.
* `Answered`: Answers that depend on ranks.
* `Exhausts`: The answers of a registry that may run out of numbers.

## Theorems

* `encode_refused_identifiers`: A refused call leaves the composite keys as they are.
* `encode_holds`: What a call does, in terms of the rank of its place.
* `After.refused`: The first call that fails does so for want of numbers.
* `encodeAll_holds`: What calls in a row do.
* `Answered.first_error_iff`: Which call is refused first.
* `encodeAll_exhausts`: A registry that runs out of numbers keeps what it granted.
-/

namespace EntryCoverage

namespace Registry

/-! ### A refused call -/

/-- A refused call leaves the composite keys and their identifiers as they are, whatever
    the registry holds. -/
theorem encode_refused_identifiers (r r' : Registry) (c : Coordinate) (e : RegistryError)
    (h : r.encode c = (r', .error e)) : r'.identifiers = r.identifiers := by
  unfold encode at h
  split at h
  · simp only [Prod.mk.injEq] at h
    rw [← h.1]
  · dsimp only at h
    split at h
    · simp only [Prod.mk.injEq] at h
      rw [← h.1]
    · split at h
      · simp only [Prod.mk.injEq, reduceCtorEq, and_false] at h
      · -- Only an allocation that succeeds adds a row.
        unfold allocate at h
        dsimp only at h
        split at h
        · simp only [Prod.mk.injEq] at h
          rw [← h.1]
        · split at h
          · simp only [Prod.mk.injEq] at h
            rw [← h.1]
          · simp only [Prod.mk.injEq, reduceCtorEq, and_false] at h

/-! ### The places that are served -/

/-- How many numbers there are after one. -/
def room (start : Int) : Nat := (Vlq.maxValue - start).toNat

/-- The places that are granted identifiers by a registry that begins after `start`: the
    first distinct ones, as many as there is room for. -/
def served (start : Int) (called : List Coordinate) : List Coordinate :=
  called.eraseDups.take (room start)

/-- The rank of a place among the distinct places asked for. -/
def rank (called : List Coordinate) (c : Coordinate) : Nat := called.eraseDups.idxOf c

section Served

variable {start : Int} {called : List Coordinate} {c : Coordinate}

/-- Later calls do not move the rank of a place. -/
theorem rank_append (called more : List Coordinate) (c : Coordinate) (h : c ∈ called) :
    rank (called ++ more) c = rank called c :=
  idxOf_eraseDups_append _ _ _ h

/-- A place that is new comes after all others. -/
theorem rank_of_new (h : c ∉ called) : rank (called ++ [c]) c = called.eraseDups.length := by
  have hd : c ∉ called.eraseDups := fun hmem => h (List.mem_eraseDups.1 hmem)
  rw [rank, eraseDups_concat, if_neg h, List.idxOf_append_of_notMem hd, List.idxOf_cons_self,
    Nat.add_zero]

/-- A place that was not yet asked for ranks after all that were. -/
theorem le_rank_of_not_mem (called more : List Coordinate) (h : c ∉ called) :
    called.eraseDups.length ≤ rank (called ++ more) c := by
  have hd : c ∉ called.eraseDups := fun hmem => h (List.mem_eraseDups.1 hmem)
  rw [rank, List.eraseDups_append, List.idxOf_append_of_notMem hd]
  omega

/-- The rank of a place where it is asked for first. -/
theorem rank_of_first {i : Nat} (hi : called[i]? = some c) (h : c ∉ called.take i) :
    rank called c = (called.take i).eraseDups.length := by
  rcases List.getElem?_eq_some_iff.1 hi with ⟨hlt, rfl⟩
  have hsplit : called = (called.take i ++ [called[i]]) ++ called.drop (i + 1) := by
    rw [List.append_assoc, List.singleton_append, List.getElem_cons_drop,
      List.take_append_drop]
  have hmem : called[i] ∈ called.take i ++ [called[i]] :=
    List.mem_append_right _ (List.mem_singleton_self _)
  calc rank called called[i]
      = rank ((called.take i ++ [called[i]]) ++ called.drop (i + 1)) called[i] := by rw [← hsplit]
    _ = rank (called.take i ++ [called[i]]) called[i] := rank_append _ _ _ hmem
    _ = (called.take i).eraseDups.length := rank_of_new h

/-- The rank of a place that is asked for earlier. -/
theorem rank_of_earlier {i : Nat} (h : c ∈ called.take i) :
    rank called c < (called.take i).eraseDups.length := by
  have heq : rank called c = rank (called.take i) c := by
    conv => lhs; rw [← List.take_append_drop i called]
    exact rank_append _ _ _ h
  rw [heq]
  exact idxOf_eraseDups_lt _ _ h

/-- A place that ranks before the one of a call was asked for before the call. -/
theorem mem_take_of_rank_lt {i : Nat} {d : Coordinate} (hi : called[i]? = some d)
    (h : rank called c < rank called d) : c ∈ called.take i := by
  by_contra hc
  have hle := le_rank_of_not_mem (called.take i) (called.drop i) hc
  rw [List.take_append_drop] at hle
  by_cases hd : d ∈ called.take i
  · have hlt := rank_of_earlier hd
    omega
  · rw [rank_of_first hi hd] at h
    omega

/-- A place that was asked for is served if its rank is within the room. -/
theorem mem_served_iff (h : c ∈ called) : c ∈ served start called ↔ rank called c < room start := by
  have hlt : rank called c < called.eraseDups.length := idxOf_eraseDups_lt called c h
  constructor
  · intro hmem
    rcases List.mem_take_iff_getElem.1 hmem with ⟨i, hi, rfl⟩
    have hrank : rank called (called.eraseDups[i]) = i :=
      (nodup_eraseDups called).idxOf_getElem i (by omega)
    omega
  · intro hrank
    refine List.mem_take_iff_getElem.2 ⟨rank called c, by omega, ?_⟩
    exact List.getElem_idxOf hlt

/-- The number of a served place is that of its rank. -/
theorem idxOf_served (h : c ∈ served start called) :
    (served start called).idxOf c = rank called c := by
  have hsplit : called.eraseDups = served start called ++ called.eraseDups.drop (room start) :=
    (List.take_append_drop _ _).symm
  rw [rank, hsplit, List.idxOf_append_of_mem h]

theorem mem_of_mem_served (h : c ∈ served start called) : c ∈ called :=
  List.mem_eraseDups.1 (List.mem_of_mem_take h)

/-- A place whose rank is beyond the room changes nothing about who is served. -/
theorem served_concat_of_le (h : room start ≤ rank (called ++ [c]) c) :
    served start (called ++ [c]) = served start called := by
  unfold served
  rw [eraseDups_concat]
  by_cases hc : c ∈ called
  · rw [if_pos hc]
  · rw [rank_of_new hc] at h
    rw [if_neg hc, List.take_append_of_le_length h]

/-- Neither does a place that was asked for before. -/
theorem served_concat_of_mem (h : c ∈ called) :
    served start (called ++ [c]) = served start called := by
  rw [served, served, eraseDups_concat, if_pos h]

/-- While there is room for all, all are served. -/
theorem served_of_le (h : called.eraseDups.length ≤ room start) :
    served start called = called.eraseDups :=
  List.take_of_length_le h

end Served

/-! ### What a registry holds -/

/-- What a registry holds after any calls: rows for the places that are served, and a
    counter that has gone through at least their numbers. As long as there is room for
    all places, the counter has not gone further. -/
structure Holds (start : Int) (called : List Coordinate) (r : Registry) : Prop
    extends Records start called (served start called) r where
  isOpen : r.materialized = false
  le_counter : start + ((served start called).length : Int) ≤ r.counter
  counter : called.eraseDups.length ≤ room start → r.counter = start + called.eraseDups.length

variable {start : Int} {called : List Coordinate} {r : Registry}

theorem holds_nil (start : Int) : Holds start [] { counter := start } where
  files := rfl
  functions := rfl
  kinds := rfl
  identifiers := by simp [served]
  called_of_granted := fun _ hc => mem_of_mem_served hc
  nodup := by simp [served]
  isOpen := rfl
  le_counter := by simp [served]
  counter := fun _ => by simp

/-- A registry that answered all calls holds what it must. -/
theorem After.holds (h : After start called r) :
    Holds start called r ∧ called.eraseDups.length ≤ room start := by
  -- The last number that was handed out is in range.
  have hle : called.eraseDups.length ≤ room start := by
    rcases Nat.eq_zero_or_pos called.eraseDups.length with hzero | hpos
    · omega
    · have hlast := h.inRange (called.eraseDups.length - 1) (by omega)
      unfold room
      omega
  have hserved := served_of_le hle
  refine ⟨⟨?_, h.isOpen, ?_, fun _ => h.counter⟩, hle⟩
  · rw [hserved]
    exact h.toRecords
  · rw [hserved]
    exact Int.le_of_eq h.counter.symm

/-- The rows do not depend on the counter. -/
theorem Records.withCounter {granted : List Coordinate} (h : Records start called granted r)
    (counter : Int) : Records start called granted { r with counter } :=
  ⟨h.files, h.functions, h.kinds, h.identifiers, h.called_of_granted, h.nodup⟩

/-- Where the counter has gone through all numbers, nothing is allocated. -/
theorem allocate_of_le (r : Registry) (key : String) (h : Vlq.maxValue ≤ r.counter) :
    r.allocate key = ({ r with counter := r.counter + 1 }, .error .capacityExceeded) := by
  unfold allocate
  dsimp only
  rw [if_pos (by omega)]

/-- The positions of a place's names are no larger than its rank, so its composite key can
    be written if its rank can. -/
theorem compositeKey_of_rank_le (called : List Coordinate) (c : Coordinate)
    (h : (rank (called ++ [c]) c : Int) ≤ Vlq.maxValue) :
    ∃ key, compositeKey
      (((called ++ [c]).map (·.file)).eraseDups.idxOf c.file)
      (((called ++ [c]).map (·.function)).eraseDups.idxOf c.function)
      (((called ++ [c]).map (·.kind)).eraseDups.idxOf c.kind) = .ok key := by
  have hmem : c ∈ called ++ [c] := List.mem_append_right _ (List.mem_singleton_self c)
  have hposition : ∀ f : Coordinate → String,
      (((called ++ [c]).map f).eraseDups.idxOf (f c) : Int) ≤ Vlq.maxValue := by
    intro f
    have hle := idxOf_eraseDups_map_le f (called ++ [c]) c hmem
    rw [rank] at h
    omega
  exact ⟨_, compositeKey_of_le _ _ _ (hposition (·.file)) (hposition (·.function))
    (hposition (·.kind))⟩

/-- A place whose rank is within the room is answered with the number of its rank. -/
theorem encode_within (h : Holds start called r) (hstart : 0 ≤ start) (c : Coordinate)
    (hrank : rank (called ++ [c]) c < room start) :
    ∃ r', Holds start (called ++ [c]) r' ∧
      r.encode c = (r', .ok (Vlq.text (start + (rank (called ++ [c]) c : Int) + 1))) := by
  have hmax : start + (room start : Int) = Vlq.maxValue := by
    unfold room at hrank ⊢
    omega
  rcases compositeKey_of_rank_le called c (by omega) with ⟨key, hkey⟩
  rw [encode_eq h.toRecords h.isOpen, hkey]
  dsimp only
  by_cases hc : c ∈ called
  · -- The place has its identifier, and only the names may be new.
    rw [rank_append called [c] c hc] at hrank ⊢
    have hmem : c ∈ served start called := (mem_served_iff hc).2 hrank
    have hsame : (called ++ [c]).eraseDups = called.eraseDups := by
      rw [eraseDups_concat, if_pos hc]
    refine ⟨r.withNames (called ++ [c]), ⟨?_, h.isOpen, ?_, ?_⟩, ?_⟩
    · rw [served_concat_of_mem hc]
      exact h.toRecords.withNames [c]
    · rw [served_concat_of_mem hc]
      exact h.le_counter
    · rw [hsame]
      exact h.counter
    · rw [if_pos hmem, idxOf_served hmem]
  · -- The place is new. Those before it were all served, and so is it.
    rw [rank_of_new hc] at hrank ⊢
    have hall : served start called = called.eraseDups := served_of_le (by omega)
    have hmore : (called ++ [c]).eraseDups = called.eraseDups ++ [c] := by
      rw [eraseDups_concat, if_neg hc]
    have hlen : (called ++ [c]).eraseDups.length = called.eraseDups.length + 1 := by
      rw [hmore, List.length_append, List.length_singleton]
    have hboth : served start (called ++ [c]) = called.eraseDups ++ [c] :=
      (served_of_le (by omega)).trans hmore
    have hnot : c ∉ served start called := fun hmem => hc (mem_of_mem_served hmem)
    have hcounter : (r.withNames (called ++ [c])).counter =
        start + (called.eraseDups.length : Int) := h.counter (by omega)
    rcases allocate_of_inRange (r.withNames (called ++ [c])) (keyAfter (called ++ [c]) c)
      (by rw [hcounter, Vlq.minValue]; omega) with ⟨r', hr'⟩
    have hnew := (allocate_ok _ _ _ _ hr').1
    rw [hcounter] at hr' hnew
    have hrec := h.toRecords.withNames [c]
    rw [hall] at hrec
    refine ⟨r', ?_, (if_neg hnot).trans hr'⟩
    rw [hnew]
    refine ⟨⟨rfl, rfl, rfl, ?_, ?_, ?_⟩, h.isOpen, ?_, fun _ => ?_⟩
    · rw [hboth, List.mapIdx_concat, ← hrec.identifiers]
    · exact fun d hd => mem_of_mem_served hd
    · rw [hboth, ← hmore]
      exact nodup_eraseDups _
    · rw [hboth, List.length_append, List.length_singleton]
      dsimp only
      omega
    · rw [hlen]
      dsimp only
      omega

/-- A place whose rank is beyond the room is refused, for want of numbers if the rank could
    be one. -/
theorem encode_beyond (h : Holds start called r) (c : Coordinate)
    (hrank : room start ≤ rank (called ++ [c]) c) :
    ∃ r' e, Holds start (called ++ [c]) r' ∧ r.encode c = (r', .error e) ∧
      ((rank (called ++ [c]) c : Int) ≤ Vlq.maxValue → e = .capacityExceeded) := by
  have hserved := served_concat_of_le hrank
  have hrec : Records start (called ++ [c]) (served start (called ++ [c]))
      (r.withNames (called ++ [c])) := by
    rw [hserved]
    exact h.toRecords.withNames [c]
  -- With this place there are more places than there is room.
  have hlen : room start < (called ++ [c]).eraseDups.length := by
    have hmem : c ∈ called ++ [c] := List.mem_append_right _ (List.mem_singleton_self c)
    have hlt := idxOf_eraseDups_lt (called ++ [c]) c hmem
    rw [rank] at hrank
    omega
  -- Whatever else happens, the counter does not go back.
  have hholds : ∀ counter, r.counter ≤ counter →
      Holds start (called ++ [c]) { r.withNames (called ++ [c]) with counter } := by
    intro counter hle
    refine ⟨hrec.withCounter counter, h.isOpen, ?_, fun hfits => absurd hfits (by omega)⟩
    have hold := h.le_counter
    rw [hserved]
    exact Int.le_trans hold hle
  rw [encode_eq h.toRecords h.isOpen]
  split
  · -- A position of a name is no quantity. Then the rank is none either.
    rename_i reason hkey
    refine ⟨_, .invariant reason, hholds r.counter (Int.le_refl _), rfl, fun hsmall => ?_⟩
    rcases compositeKey_of_rank_le called c hsmall with ⟨key, hok⟩
    rw [hkey] at hok
    simp only [reduceCtorEq] at hok
  · -- The place is not served, and the counter has gone through all numbers.
    have hnot : c ∉ served start called := by
      intro hmem
      have hc := mem_of_mem_served hmem
      rw [rank_append called [c] c hc] at hrank
      have hlt := (mem_served_iff hc).1 hmem
      omega
    have hfull : Vlq.maxValue ≤ r.counter := by
      have hcount : (served start called).length = room start := by
        have htake : room start ≤ called.eraseDups.length := by
          rw [eraseDups_concat] at hlen
          split at hlen
          · omega
          · rw [List.length_append, List.length_singleton] at hlen
            omega
        rw [served, List.length_take, Nat.min_eq_left htake]
      have hle := h.le_counter
      rw [hcount] at hle
      unfold room at hle
      omega
    refine ⟨_, .capacityExceeded, hholds (r.counter + 1) (by omega), ?_, fun _ => rfl⟩
    rw [if_neg hnot]
    exact allocate_of_le (r.withNames (called ++ [c])) _ hfull

/-- The answer to a call for a place of a rank: the number of the rank if there is room for
    it, and a refusal otherwise. The rank is the reason as long as it could be a number
    itself. -/
structure Reply (start : Int) (rank : Nat) (answer : Except RegistryError String) : Prop where
  within : rank < room start → answer = .ok (Vlq.text (start + (rank : Int) + 1))
  beyond : room start ≤ rank → ∃ e, answer = .error e ∧
    ((rank : Int) ≤ Vlq.maxValue → e = .capacityExceeded)

/-- What a call does: it keeps what the registry holds, and the answer depends on nothing
    but the rank of its place. -/
theorem encode_holds (h : Holds start called r) (hstart : 0 ≤ start) (c : Coordinate) :
    ∃ r' answer, r.encode c = (r', answer) ∧ Holds start (called ++ [c]) r' ∧
      Reply start (rank (called ++ [c]) c) answer := by
  by_cases hrank : rank (called ++ [c]) c < room start
  · rcases encode_within h hstart c hrank with ⟨r', hr', hcall⟩
    exact ⟨r', _, hcall, hr', fun _ => rfl, fun hle => absurd hle (by omega)⟩
  · rcases encode_beyond h c (by omega) with ⟨r', e, hr', hcall, he⟩
    exact ⟨r', _, hcall, hr', fun hlt => absurd hlt hrank, fun _ => ⟨e, rfl, he⟩⟩

/-- If all calls so far were answered and the next one is not, it is for want of numbers,
    and with it there are more places than there is room. -/
theorem After.refused (h : After start called r) (hstart : 0 ≤ start) (c : Coordinate)
    (r' : Registry) (e : RegistryError) (hcall : r.encode c = (r', .error e)) :
    e = .capacityExceeded ∧ room start < (called ++ [c]).eraseDups.length := by
  rcases h.holds with ⟨hholds, hfits⟩
  rcases encode_holds hholds hstart c with ⟨r₁, answer, heq, -, hreply⟩
  rw [hcall, Prod.mk.injEq] at heq
  rcases heq with ⟨rfl, rfl⟩
  have hle : room start ≤ rank (called ++ [c]) c := by
    by_contra hlt
    have hok := hreply.within (by omega)
    simp only [reduceCtorEq] at hok
  have hmem : c ∈ called ++ [c] := List.mem_append_right _ (List.mem_singleton_self c)
  have hlt : rank (called ++ [c]) c < (called ++ [c]).eraseDups.length :=
    idxOf_eraseDups_lt _ _ hmem
  -- Before the call there was room for all, so this rank is the first without a number.
  have hsmall : (rank (called ++ [c]) c : Int) ≤ Vlq.maxValue := by
    have hlen : (called ++ [c]).eraseDups.length ≤ called.eraseDups.length + 1 := by
      rw [eraseDups_concat]
      split <;> simp
    have hroom : (room start : Int) ≤ Vlq.maxValue := by
      unfold room
      rw [Vlq.maxValue]
      omega
    omega
  rcases hreply.beyond hle with ⟨e', he, hreason⟩
  rw [Except.error.injEq] at he
  exact ⟨he.trans (hreason hsmall), by omega⟩

/-! ### Rows of calls -/

/-- Answers to calls, each of which depends on the rank of its place among all places
    asked for, before or after it. -/
structure Answered (start : Int) (calls : List Coordinate)
    (answers : List (Except RegistryError String)) : Prop where
  length_eq : answers.length = calls.length
  reply : ∀ {i : Nat} {c : Coordinate}, calls[i]? = some c →
    ∃ answer, answers[i]? = some answer ∧ Reply start (rank calls c) answer

/-- What calls in a row do. -/
theorem encodeAll_holds (h : Holds start called r) (hstart : 0 ≤ start)
    (calls : List Coordinate) :
    ∃ r' answers, r.encodeAll calls = (r', answers) ∧ Holds start (called ++ calls) r' ∧
      answers.length = calls.length ∧ ∀ {i : Nat} {c : Coordinate}, calls[i]? = some c →
        ∃ answer, answers[i]? = some answer ∧ Reply start (rank (called ++ calls) c) answer := by
  -- The induction is on the calls that are left; those before are what the tables hold.
  induction calls generalizing called r with
  | nil =>
      refine ⟨r, [], rfl, ?_, rfl, fun {i c} hc => ?_⟩
      · rw [List.append_nil]
        exact h
      · rw [List.getElem?_nil] at hc
        exact absurd hc.symm (Option.some_ne_none c)
  | cons c cs ih =>
      rcases encode_holds h hstart c with ⟨r₁, first, hcall, hholds, hfirst⟩
      rcases ih hholds with ⟨r₂, answers, hrest, hend, hlen, hanswers⟩
      have hassoc : called ++ c :: cs = (called ++ [c]) ++ cs := List.append_cons called c cs
      have hmem : c ∈ called ++ [c] := List.mem_append_right _ (List.mem_singleton_self c)
      rw [hassoc]
      refine ⟨r₂, first :: answers, ?_, hend, congrArg (· + 1) hlen, fun {i d} hd => ?_⟩
      · simp only [encodeAll, hcall, hrest]
      · cases i with
        | zero =>
            -- The calls that follow do not move the rank of the first one.
            rw [List.getElem?_cons_zero, Option.some.injEq] at hd
            refine ⟨first, rfl, ?_⟩
            rw [← hd, rank_append _ cs c hmem]
            exact hfirst
        | succ i => exact hanswers hd

namespace Answered

variable {calls : List Coordinate} {answers : List (Except RegistryError String)}

/-- Every answer is one to a call. -/
theorem exists_call (h : Answered start calls answers) {i : Nat}
    {answer : Except RegistryError String} (hi : answers[i]? = some answer) :
    ∃ c, calls[i]? = some c := by
  have hlt := (List.getElem?_eq_some_iff.1 hi).1
  rw [h.length_eq] at hlt
  exact ⟨_, List.getElem?_eq_getElem hlt⟩

theorem ok_iff (h : Answered start calls answers) {i : Nat} {c : Coordinate}
    (hc : calls[i]? = some c) (x : String) :
    answers[i]? = some (.ok x) ↔
      rank calls c < room start ∧ x = Vlq.text (start + (rank calls c : Int) + 1) := by
  rcases h.reply hc with ⟨answer, hanswer, hreply⟩
  rw [hanswer, Option.some.injEq]
  by_cases hlt : rank calls c < room start
  · rw [hreply.within hlt, Except.ok.injEq]
    exact ⟨fun heq => ⟨hlt, heq.symm⟩, fun hx => hx.2.symm⟩
  · rcases hreply.beyond (by omega) with ⟨e, rfl, -⟩
    simp only [reduceCtorEq, hlt, false_and]

theorem error_iff (h : Answered start calls answers) {i : Nat} {c : Coordinate}
    (hc : calls[i]? = some c) :
    (∃ e, answers[i]? = some (.error e)) ↔ room start ≤ rank calls c := by
  rcases h.reply hc with ⟨answer, hanswer, hreply⟩
  constructor
  · rintro ⟨e, he⟩
    by_contra hlt
    rw [hanswer, hreply.within (by omega), Option.some.injEq] at he
    simp only [reduceCtorEq] at he
  · intro hle
    rcases hreply.beyond hle with ⟨e, rfl, -⟩
    exact ⟨e, hanswer⟩

/-- The first call that is refused is the first one for the place whose rank is the first
    without a number. -/
theorem first_error_iff (h : Answered start calls answers) {i : Nat} {c : Coordinate}
    (hc : calls[i]? = some c) :
    ((∃ e, answers[i]? = some (.error e)) ∧ ∀ j < i, ∃ x, answers[j]? = some (.ok x)) ↔
      rank calls c = room start ∧ c ∉ calls.take i := by
  have hi : i < calls.length := (List.getElem?_eq_some_iff.1 hc).1
  rw [h.error_iff hc]
  constructor
  · rintro ⟨hle, hearlier⟩
    -- The places of earlier calls rank within the room.
    have hwithin : ∀ d ∈ calls.take i, rank calls d < room start := by
      intro d hd
      rcases List.mem_take_iff_getElem.1 hd with ⟨j, hj, rfl⟩
      have hget : calls[j]? = some calls[j] := List.getElem?_eq_getElem (by omega)
      rcases hearlier j (by omega) with ⟨x, hx⟩
      exact ((h.ok_iff hget x).1 hx).1
    have hnew : c ∉ calls.take i := fun hmem => by
      have hlt := hwithin c hmem
      omega
    refine ⟨?_, hnew⟩
    rw [rank_of_first hc hnew] at hle ⊢
    -- So they are no more than there is room for.
    rcases Nat.eq_zero_or_pos (calls.take i).eraseDups.length with hzero | hpos
    · omega
    · have hlast : (calls.take i).eraseDups[(calls.take i).eraseDups.length - 1] ∈ calls.take i :=
        List.mem_eraseDups.1 (List.getElem_mem (by omega))
      have hlt := hwithin _ hlast
      have hrank : rank (calls.take i) (calls.take i).eraseDups[(calls.take i).eraseDups.length - 1]
          = (calls.take i).eraseDups.length - 1 :=
        (nodup_eraseDups (calls.take i)).idxOf_getElem _ (by omega)
      have hsame := rank_append (calls.take i) (calls.drop i) _ hlast
      rw [List.take_append_drop] at hsame
      omega
  · rintro ⟨heq, hnew⟩
    refine ⟨Nat.le_of_eq heq.symm, fun j hj => ?_⟩
    have hget : calls[j]? = some calls[j] := List.getElem?_eq_getElem (by omega)
    have hmem : calls[j] ∈ calls.take i := List.mem_take_iff_getElem.2 ⟨j, by omega, rfl⟩
    have hlt := rank_of_earlier hmem
    rw [rank_of_first hc hnew] at heq
    exact ⟨_, (h.ok_iff hget _).2 ⟨by omega, rfl⟩⟩

end Answered

/-- The answers of a registry whose numbers begin after `start` and may be used up, and the
    mapping that it becomes. -/
structure Exhausts (start : Int) (calls : List Coordinate) (r : Registry)
    (answers : List (Except RegistryError String)) (m : Mapping) : Prop where
  answered : answers.length = calls.length
  /-- The first call that is refused is the first one for the place that there is no room
      for. -/
  first_iff : ∀ (i : Nat) (c : Coordinate), calls[i]? = some c →
    (((∃ e, answers[i]? = some (.error e)) ∧ ∀ j < i, ∃ x, answers[j]? = some (.ok x)) ↔
      calls.eraseDups[room start]? = some c ∧ c ∉ calls.take i)
  /-- It is refused for want of numbers. -/
  first_reason : ∀ (i : Nat) (e : RegistryError), answers[i]? = some (.error e) →
    (∀ j < i, ∃ x, answers[j]? = some (.ok x)) → e = .capacityExceeded
  /-- No call that is refused, after any others, changes the composite keys. -/
  rows_kept : ∀ (before after : List Coordinate) (c : Coordinate), calls = before ++ c :: after →
    ∀ (r' : Registry) (e : RegistryError),
      (encodeAll { counter := start } before).1.encode c = (r', .error e) →
        r'.identifiers = (encodeAll { counter := start } before).1.identifiers
  /-- A place that was given an identifier has the same one ever after. -/
  kept : ∀ (i j : Nat) (c : Coordinate) (x : String), calls[i]? = some c → calls[j]? = some c →
    answers[i]? = some (.ok x) → answers[j]? = some (.ok x)
  /-- Once a call was refused, a place without an identifier is refused ever after. -/
  refused : ∀ (k j : Nat) (c : Coordinate) (e : RegistryError), answers[k]? = some (.error e) →
    k ≤ j → calls[j]? = some c →
      (∀ i < k, calls[i]? = some c → ∀ x, answers[i]? ≠ some (.ok x)) →
        ∃ e', answers[j]? = some (.error e')
  /-- The names of refused places are listed with the others. -/
  files : r.files.names = (calls.map (·.file)).eraseDups
  functions : r.functions.names = (calls.map (·.function)).eraseDups
  kinds : r.kinds.names = (calls.map (·.kind)).eraseDups
  materialized : r.materialize = ({ r with materialized := true }, .ok m)
  keys : ∀ x, x ∈ m.entries.map (·.1) ↔ .ok x ∈ answers
  decoded : ∀ (i : Nat) (c : Coordinate) (x : String), calls[i]? = some c →
    answers[i]? = some (.ok x) → m.decode x = .ok c

/-- A registry that runs out of numbers, after whatever it began with, refuses the places
    that it has no number for and keeps all that it granted. -/
theorem encodeAll_exhausts (start : Int) (hstart : 0 ≤ start) (calls : List Coordinate) :
    ∃ (r : Registry) (answers : List (Except RegistryError String)) (m : Mapping),
      encodeAll { counter := start } calls = (r, answers) ∧ Exhausts start calls r answers m := by
  rcases encodeAll_holds (holds_nil start) hstart calls with
    ⟨r, answers, hall, hholds, hlen, hreply⟩
  rw [List.nil_append] at hholds
  have hanswered : Answered start calls answers := ⟨hlen, hreply⟩
  have hrec := hholds.toRecords
  -- A place that is answered is served, and stands at its rank among those that are.
  have hserved : ∀ {c : Coordinate}, c ∈ calls → rank calls c < room start →
      (served start calls)[rank calls c]? = some c := by
    intro c hc hlt
    rw [served, List.getElem?_take_of_lt hlt]
    exact getElem?_idxOf_eraseDups calls c hc
  refine ⟨r, answers, ⟨r.rows⟩, hall, ?_⟩
  exact
    { answered := hlen
      first_iff := by
        intro i c hc
        rw [hanswered.first_error_iff hc]
        refine and_congr_left fun _ => ?_
        have hmem : c ∈ calls := List.mem_of_getElem? hc
        constructor
        · intro heq
          rw [← heq]
          exact getElem?_idxOf_eraseDups calls c hmem
        · intro hget
          rcases List.getElem?_eq_some_iff.1 hget with ⟨hlt, rfl⟩
          exact (nodup_eraseDups calls).idxOf_getElem _ hlt
      first_reason := by
        intro i e he hearlier
        rcases hanswered.exists_call he with ⟨c, hc⟩
        have heq := ((hanswered.first_error_iff hc).1 ⟨⟨e, he⟩, hearlier⟩).1
        rcases hanswered.reply hc with ⟨answer, hanswer, hr⟩
        rcases hr.beyond (Nat.le_of_eq heq.symm) with ⟨e', rfl, hreason⟩
        rw [he, Option.some.injEq, Except.error.injEq] at hanswer
        rw [hanswer]
        refine hreason ?_
        rw [heq, room, Vlq.maxValue]
        omega
      rows_kept := fun before _ c _ r' e => encode_refused_identifiers _ r' c e
      kept := by
        intro i j c x hi hj hx
        rw [hanswered.ok_iff hi] at hx
        exact (hanswered.ok_iff hj x).2 hx
      refused := by
        intro k j c e hk hkj hj hnone
        rw [hanswered.error_iff hj]
        rcases hanswered.exists_call hk with ⟨d, hd⟩
        have hle := (hanswered.error_iff hd).1 ⟨e, hk⟩
        by_contra hlt
        -- The place ranks before one that was refused, so it was asked for before.
        rcases List.mem_take_iff_getElem.1 (mem_take_of_rank_lt (c := c) hd (by omega)) with
          ⟨i, hi, rfl⟩
        have hget : calls[i]? = some calls[i] := List.getElem?_eq_getElem (by omega)
        exact hnone i (by omega) hget _ ((hanswered.ok_iff hget _).2 ⟨by omega, rfl⟩)
      files := by rw [hrec.files, NameTable.names_ofNames]
      functions := by rw [hrec.functions, NameTable.names_ofNames]
      kinds := by rw [hrec.kinds, NameTable.names_ofNames]
      materialized := materialize_eq hrec hholds.isOpen
      keys := by
        intro x
        rw [hrec.mem_entries_iff]
        constructor
        · rintro ⟨j, hj, rfl⟩
          have hserve : (served start calls)[j] ∈ served start calls := List.getElem_mem hj
          have hrank : rank calls (served start calls)[j] = j := by
            rw [← idxOf_served hserve, hrec.nodup.idxOf_getElem]
          have hmem := mem_of_mem_served hserve
          rcases List.mem_iff_getElem?.1 hmem with ⟨i, hi⟩
          refine List.mem_of_getElem? ((hanswered.ok_iff hi _).2 ⟨?_, ?_⟩)
          · exact (mem_served_iff hmem).1 hserve
          · rw [hrank]
        · intro hx
          rcases List.mem_iff_getElem?.1 hx with ⟨i, hi⟩
          rcases hanswered.exists_call hi with ⟨c, hc⟩
          rcases (hanswered.ok_iff hc x).1 hi with ⟨hlt, hnumber⟩
          have hget := hserved (List.mem_of_getElem? hc) hlt
          exact ⟨rank calls c, (List.getElem?_eq_some_iff.1 hget).1, hnumber⟩
      decoded := by
        intro i c x hc hx
        rcases (hanswered.ok_iff hc x).1 hx with ⟨hlt, rfl⟩
        exact decode_granted hrec _ c (hserved (List.mem_of_getElem? hc) hlt) }

/-- Two numbers are left and three places ask, one of them twice. The third is refused, and
    the second asks again and has its identifier still. -/
theorem encodeAll_exhausts_third :
    let calls : List Coordinate :=
      [⟨"a.py", "f", "Type.FUNCTION"⟩, ⟨"a.py", "g", "Type.FUNCTION"⟩,
        ⟨"b.py", "f", "Type.FUNCTION"⟩, ⟨"a.py", "g", "Type.FUNCTION"⟩]
    (0 : Int) ≤ 2147483645 ∧
      (∃ (r : Registry) (answers : List (Except RegistryError String)) (m : Mapping),
        encodeAll { counter := 2147483645 } calls = (r, answers) ∧
          Exhausts 2147483645 calls r answers m) ∧
      (encodeAll { counter := 2147483645 } calls).2 =
        [.ok "8/////D", .ok "+/////D", .error .capacityExceeded, .ok "+/////D"] := by
  intro calls
  exact ⟨by decide, encodeAll_exhausts 2147483645 (by decide) calls, by decide⟩

end Registry

end EntryCoverage
