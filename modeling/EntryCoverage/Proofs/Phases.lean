import EntryCoverage.Trace
import Mathlib.Data.List.Basic

/-!
# Phases of a Trace

How a trace nests, whatever is written to it.

An event knows its place by the event that it belongs to, and that is decided by the
phases that are open when it is written. `Nested` is what holds on the way: events belong
to events before them, the open phases have begun and not ended, and every other phase
has ended once. Writing keeps that (`Later.nested`).

A phase that is closed never opens again, so nothing is written to it any more
(`Later.closed`). What a phase holds is therefore known as soon as it ends, and stays
known until the end of the trace: `phased_inPhase` gives it for the phase at hand, and
`Phased.later` for all time.

## Main definitions

* `Note`: What a trace is told, wherever it is written.
* `Trace.inPhase`: A trace with a phase and the notes in it.
* `Trace.inside`: The events that belong to an event.
* `Trace.Nested`: The phases of a trace are in order.
* `Trace.Later`: More was written to a trace.
* `Trace.Phased`: What a closed phase holds.

## Theorems

* `inPhase_eq`: What a phase adds to a trace.
* `Later.nested`: Writing keeps the phases in order.
* `Later.closed`: Nothing is written to a phase that is closed.
* `phased_inPhase`, `Phased.later`: What a phase holds, now and later.
-/

namespace EntryCoverage

/-- What a trace is told, wherever it is written. -/
structure Note where
  kind : EventKind
  description : String
  metadata : List (String × Value) := []

/-- The event of a note that belongs to the event at a place. -/
def Note.under (n : Note) (k : Nat) : Event := ⟨n.kind, n.description, some k, n.metadata⟩

namespace Trace

/-- The note at the end of a phase. -/
def ending : Note := ⟨.phaseEnd, "End Phase", []⟩

/-- A trace with notes in its innermost open phase. -/
def jot (t : Trace) (notes : List Note) : Trace :=
  notes.foldl (fun t n => t.record n.kind n.description n.metadata) t

/-- A trace with a phase and the notes in it. -/
def inPhase (t : Trace) (name : String) (notes : List Note) : Trace :=
  ((t.startPhase name).jot notes).endPhase

/-- The event that begins a phase, which belongs to the event at a place. -/
def beginning (name : String) (outer : Option Nat) : Event :=
  ⟨.phaseStart, name, outer, [("detail", .text "")]⟩

/-- The events that belong to the event at a place. -/
def inside (t : Trace) (k : Nat) : List Event := t.events.filter (·.parent = some k)

/-- How often the phase at a place ends. -/
def ends (t : Trace) (k : Nat) : Nat :=
  t.events.countP fun e => e.kind = .phaseEnd ∧ e.parent = some k

variable {t u : Trace} {kind : EventKind} {description name detail : String}
  {metadata : List (String × Value)}

/-! ### Writing -/

theorem jot_append (t : Trace) (first second : List Note) :
    t.jot (first ++ second) = (t.jot first).jot second := List.foldl_append

/-- Notes belong to the innermost open phase. -/
theorem jot_eq {k : Nat} {outer : List Nat} (hopen : t.openPhases = k :: outer)
    (notes : List Note) : t.jot notes = ⟨t.events ++ notes.map (·.under k), k :: outer⟩ := by
  induction notes generalizing t with
  | nil =>
      rw [List.map_nil, List.append_nil, ← hopen]
      rfl
  | cons n notes ih =>
      have hrecord : t.record n.kind n.description n.metadata =
          ⟨t.events ++ [n.under k], k :: outer⟩ := by
        rw [record, hopen]
        rfl
      rw [jot, List.foldl_cons, ← jot, hrecord, ih rfl, List.map_cons, List.append_assoc,
        List.singleton_append]

/-- A phase adds its beginning, its notes and its end, and leaves the same phases open. -/
theorem inPhase_eq (t : Trace) (name : String) (notes : List Note) :
    t.inPhase name notes = ⟨t.events ++ beginning name t.openPhases.head? ::
      (notes ++ [ending]).map (·.under t.events.length), t.openPhases⟩ := by
  have hopen : (t.startPhase name).openPhases = t.events.length :: t.openPhases := rfl
  rw [inPhase, jot_eq hopen, endPhase, startPhase, record, List.map_append]
  simp only [List.append_assoc, List.cons_append, List.nil_append]
  rfl

/-! ### Phases in order -/

/-- The phases of a trace are in order: events belong to events of the trace, the open
    phases are phases that have begun, and a phase that has begun has ended once, or is
    open. -/
structure Nested (t : Trace) : Prop where
  inRange : ∀ e ∈ t.events, ∀ k, e.parent = some k → k < t.events.length
  opened : ∀ k ∈ t.openPhases, ∃ e, t.events[k]? = some e ∧ e.kind = .phaseStart
  nodup : t.openPhases.Nodup
  ended : ∀ k e, t.events[k]? = some e → e.kind = .phaseStart →
    t.ends k = if k ∈ t.openPhases then 0 else 1

/-- More was written to a trace, event by event. -/
inductive Later (t : Trace) : Trace → Prop
  | refl : Later t t
  | record {u : Trace} (h : Later t u) (kind : EventKind) (description : String)
      (metadata : List (String × Value)) (hstart : kind ≠ .phaseStart) (hend : kind ≠ .phaseEnd) :
      Later t (u.record kind description metadata)
  | startPhase {u : Trace} (h : Later t u) (name detail : String) :
      Later t (u.startPhase name detail)
  | endPhase {u : Trace} (h : Later t u) : Later t u.endPhase

theorem nested_empty : Nested {} where
  inRange := fun _ he => absurd he List.not_mem_nil
  opened := fun _ hk => absurd hk List.not_mem_nil
  nodup := List.nodup_nil
  ended := fun _ e he => absurd he.symm (Option.some_ne_none e)

theorem Nested.lt_of_mem (h : Nested t) {k : Nat} (hk : k ∈ t.openPhases) :
    k < t.events.length := by
  rcases h.opened k hk with ⟨e, he, -⟩
  exact (List.getElem?_eq_some_iff.1 he).1

/-- An event belongs to one that is open, so to one of the trace. -/
theorem Nested.lt_of_head? (h : Nested t) {k : Nat} (hk : t.openPhases.head? = some k) :
    k < t.events.length := h.lt_of_mem (List.mem_of_mem_head? hk)

/-- Nothing belongs to an event that is yet to come. -/
theorem Nested.inside_length (h : Nested t) : t.inside t.events.length = [] :=
  List.filter_eq_nil_iff.2 fun e he hparent =>
    Nat.lt_irrefl _ (h.inRange e he _ (of_decide_eq_true hparent))

theorem Nested.ends_length (h : Nested t) : t.ends t.events.length = 0 :=
  List.countP_eq_zero.2 fun e he hends =>
    Nat.lt_irrefl _ (h.inRange e he _ (of_decide_eq_true hends).2)

/-- An event at the end of a trace is the last one. -/
theorem getElem?_concat_cases {events : List Event} {e e' : Event} {k : Nat}
    (h : (events ++ [e])[k]? = some e') :
    events[k]? = some e' ∨ (k = events.length ∧ e = e') := by
  rcases Nat.lt_trichotomy k events.length with hlt | heq | hgt
  · rw [List.getElem?_append_left hlt] at h
    exact .inl h
  · rw [heq, List.getElem?_concat_length] at h
    exact .inr ⟨heq, Option.some.inj h⟩
  · rw [List.getElem?_eq_none (by rw [List.length_append, List.length_singleton]; omega)] at h
    exact absurd h.symm (Option.some_ne_none e')

/-- An event that is no end of a phase ends none. -/
theorem ends_concat {e : Event} (hend : e.kind ≠ .phaseEnd) (k : Nat) {phases : List Nat} :
    (⟨t.events ++ [e], phases⟩ : Trace).ends k = t.ends k := by
  rw [ends, ends, List.countP_append, List.countP_singleton,
    if_neg (fun hends => hend (of_decide_eq_true hends).1), Nat.add_zero]

theorem Nested.record (h : Nested t) (hstart : kind ≠ .phaseStart) (hend : kind ≠ .phaseEnd) :
    Nested (t.record kind description metadata) where
  inRange := by
    intro e he k hk
    rw [Trace.record, List.length_append, List.length_singleton]
    rcases List.mem_append.1 he with he | he
    · exact Nat.lt_succ_of_lt (h.inRange e he k hk)
    · cases List.mem_singleton.1 he
      exact Nat.lt_succ_of_lt (h.lt_of_head? hk)
  opened := by
    intro k hk
    rcases h.opened k hk with ⟨e, he, hkind⟩
    exact ⟨e, by rw [Trace.record, List.getElem?_append_left (h.lt_of_mem hk), he], hkind⟩
  nodup := h.nodup
  ended := by
    intro k e he hkind
    rw [Trace.record, ends_concat hend]
    rcases getElem?_concat_cases he with he | ⟨-, rfl⟩
    · exact h.ended k e he hkind
    · exact absurd hkind hstart

theorem Nested.startPhase (h : Nested t) : Nested (t.startPhase name detail) where
  inRange := by
    intro e he k hk
    rw [Trace.startPhase, Trace.record, List.length_append, List.length_singleton]
    rcases List.mem_append.1 he with he | he
    · exact Nat.lt_succ_of_lt (h.inRange e he k hk)
    · cases List.mem_singleton.1 he
      exact Nat.lt_succ_of_lt (h.lt_of_head? hk)
  opened := by
    intro k hk
    rcases List.mem_cons.1 hk with rfl | hk
    · exact ⟨_, List.getElem?_concat_length, rfl⟩
    · rcases h.opened k hk with ⟨e, he, hkind⟩
      exact ⟨e, by rw [Trace.startPhase, Trace.record, List.getElem?_append_left (h.lt_of_mem hk),
        he], hkind⟩
  nodup := List.nodup_cons.2 ⟨fun hk => Nat.lt_irrefl _ (h.lt_of_mem hk), h.nodup⟩
  ended := by
    intro k e he hkind
    rw [Trace.startPhase, Trace.record, ends_concat EventKind.noConfusion]
    rcases getElem?_concat_cases he with he | ⟨rfl, -⟩
    · -- An older phase is as open as it was.
      have hne : k ≠ t.events.length := Nat.ne_of_lt (List.getElem?_eq_some_iff.1 he).1
      simp only [List.mem_cons, hne, false_or]
      exact h.ended k e he hkind
    · rw [if_pos List.mem_cons_self]
      exact h.ends_length

theorem Nested.endPhase (h : Nested t) : Nested t.endPhase := by
  unfold Trace.endPhase
  split
  · exact h
  · rename_i phase outer hopen
    have hphase : phase ∈ t.openPhases := hopen ▸ List.mem_cons_self
    have hnodup := h.nodup
    rw [hopen, List.nodup_cons] at hnodup
    refine ⟨fun e he k hk => ?_, fun k hk => ?_, hnodup.2, fun k e he hkind => ?_⟩
    · rw [List.length_append, List.length_singleton]
      rcases List.mem_append.1 he with he | he
      · exact Nat.lt_succ_of_lt (h.inRange e he k hk)
      · cases List.mem_singleton.1 he
        cases hk
        exact Nat.lt_succ_of_lt (h.lt_of_mem hphase)
    · have hk' : k ∈ t.openPhases := hopen ▸ List.mem_cons_of_mem _ hk
      rcases h.opened k hk' with ⟨e, he, hkind⟩
      exact ⟨e, by rw [List.getElem?_append_left (h.lt_of_mem hk'), he], hkind⟩
    · rcases getElem?_concat_cases he with he | ⟨-, rfl⟩
      · have hbefore := h.ended k e he hkind
        rw [ends, List.countP_append, ← ends, hbefore, List.countP_singleton, hopen]
        -- The phase that ends is the one that was innermost.
        by_cases hk : k = phase
        · subst hk
          rw [if_pos List.mem_cons_self, if_neg hnodup.1, if_pos (decide_eq_true ⟨rfl, rfl⟩)]
        · have hne : ¬ (some phase = some k) := fun heq => hk (Option.some.inj heq).symm
          simp only [List.mem_cons, hk, false_or, hne, and_false, decide_false,
            Bool.false_eq_true, if_false, Nat.add_zero]
      · exact absurd hkind EventKind.noConfusion

/-- Whatever is written to a trace, its phases stay in order. -/
theorem Later.nested (hlater : Later t u) (h : Nested t) : Nested u := by
  induction hlater with
  | refl => exact h
  | record _ _ _ _ hstart hend ih => exact ih.record hstart hend
  | startPhase _ _ _ ih => exact ih.startPhase
  | endPhase _ ih => exact ih.endPhase

/-! ### What was written stays -/

theorem Later.trans {v : Trace} (h : Later t u) (hmore : Later u v) : Later t v := by
  induction hmore with
  | refl => exact h
  | record _ kind description metadata hstart hend ih =>
      exact ih.record kind description metadata hstart hend
  | startPhase _ name detail ih => exact ih.startPhase name detail
  | endPhase _ ih => exact ih.endPhase

theorem later_jot (t : Trace) {notes : List Note}
    (h : ∀ n ∈ notes, n.kind ≠ .phaseStart ∧ n.kind ≠ .phaseEnd) : Later t (t.jot notes) := by
  induction notes generalizing t with
  | nil => exact .refl
  | cons n notes ih =>
      rw [List.forall_mem_cons] at h
      exact (Later.refl.record n.kind n.description n.metadata h.1.1 h.1.2).trans (ih _ h.2)

theorem later_inPhase (t : Trace) (name : String) (notes : List Note)
    (h : ∀ n ∈ notes, n.kind ≠ .phaseStart ∧ n.kind ≠ .phaseEnd) :
    Later t (t.inPhase name notes) :=
  ((Later.refl.startPhase name "").trans (later_jot _ h)).endPhase

/-- Events stay where they are. -/
theorem Later.events_prefix (h : Later t u) : t.events <+: u.events := by
  induction h with
  | refl => exact List.prefix_refl _
  | record _ _ _ _ _ _ ih => exact ih.trans (List.prefix_append _ _)
  | startPhase _ _ _ ih => exact ih.trans (List.prefix_append _ _)
  | endPhase _ ih =>
      unfold Trace.endPhase
      split
      · exact ih
      · exact ih.trans (List.prefix_append _ _)

theorem Later.getElem? (h : Later t u) {k : Nat} {e : Event} (he : t.events[k]? = some e) :
    u.events[k]? = some e := by
  rcases h.events_prefix with ⟨more, hmore⟩
  rw [← hmore, List.getElem?_append_left (List.getElem?_eq_some_iff.1 he).1, he]

/-- An event that belongs elsewhere is not inside. -/
theorem inside_concat {e : Event} {k : Nat} (hne : e.parent ≠ some k) {phases : List Nat} :
    (⟨t.events ++ [e], phases⟩ : Trace).inside k = t.inside k := by
  rw [inside, inside, List.filter_append, List.filter_cons_of_neg (by simpa using hne),
    List.filter_nil, List.append_nil]

/-- Nothing is written to a phase that is closed, and it stays closed. -/
theorem Later.closed (hlater : Later t u) {k : Nat} (hk : k < t.events.length)
    (hclosed : k ∉ t.openPhases) : k ∉ u.openPhases ∧ u.inside k = t.inside k := by
  have hhead : ∀ {v : Trace}, k ∉ v.openPhases → v.openPhases.head? ≠ some k :=
    fun hclosed hhead => hclosed (List.mem_of_mem_head? hhead)
  induction hlater with
  | refl => exact ⟨hclosed, rfl⟩
  | record _ _ _ _ _ _ ih => exact ⟨ih.1, (inside_concat (hhead ih.1)).trans ih.2⟩
  | @startPhase v hv _ _ ih =>
      -- A new phase is at a new place.
      have hne : k ≠ v.events.length :=
        Nat.ne_of_lt (Nat.lt_of_lt_of_le hk hv.events_prefix.length_le)
      refine ⟨fun hmem => ?_, (inside_concat (hhead ih.1)).trans ih.2⟩
      rcases List.mem_cons.1 hmem with heq | hmem
      · exact hne heq
      · exact ih.1 hmem
  | endPhase _ ih =>
      unfold Trace.endPhase
      split
      · exact ih
      · rename_i phase outer hopen
        rw [hopen, List.mem_cons, not_or] at ih
        refine ⟨ih.1.2, (inside_concat fun heq => ?_).trans ih.2⟩
        exact ih.1.1 (Option.some.inj heq).symm

/-! ### Closed phases -/

/-- At a place of a trace there is a phase that is closed, with its name, the event that it
    belongs to and what it holds. -/
structure Phased (t : Trace) (outer : Option Nat) (name : String) (notes : List Note) (k : Nat) :
    Prop where
  begun : t.events[k]? = some (beginning name outer)
  closed : k ∉ t.openPhases
  holds : t.inside k = (notes ++ [ending]).map (·.under k)

/-- A phase holds its notes and its end. -/
theorem phased_inPhase (h : Nested t) (name : String) (notes : List Note) :
    Phased (t.inPhase name notes) t.openPhases.head? name notes t.events.length where
  begun := by
    rw [inPhase_eq, List.getElem?_append_right (Nat.le_refl _), Nat.sub_self]
    rfl
  closed := by
    rw [inPhase_eq]
    exact fun hk => Nat.lt_irrefl _ (h.lt_of_mem hk)
  holds := by
    have hbefore := h.inside_length
    have hparent : (beginning name t.openPhases.head?).parent ≠ some t.events.length :=
      fun hhead => Nat.lt_irrefl _ (h.lt_of_head? hhead)
    rw [inside] at hbefore
    rw [inPhase_eq, inside, List.filter_append, hbefore, List.nil_append,
      List.filter_cons_of_neg (by simpa using hparent), List.filter_eq_self]
    -- The notes and the end all belong to the phase.
    intro e he
    rcases List.mem_map.1 he with ⟨n, -, rfl⟩
    exact decide_eq_true rfl

/-- What a closed phase holds does not change any more. -/
theorem Phased.later {outer : Option Nat} {notes : List Note} {k : Nat}
    (h : Phased t outer name notes k) (hlater : Later t u) : Phased u outer name notes k := by
  rcases hlater.closed (List.getElem?_eq_some_iff.1 h.begun).1 h.closed with ⟨hclosed, hinside⟩
  exact ⟨hlater.getElem? h.begun, hclosed, hinside.trans h.holds⟩

end Trace

end EntryCoverage
