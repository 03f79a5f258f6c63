import EntryCoverage.Proofs.Phases
import Mathlib.Data.List.Induction
import Mathlib.Logic.Relation

/-!
# Nesting of Phases

A trace is a row of events, and its phases nest nevertheless, whatever is done to it.

Which phases are open can be seen from the events: those that have begun and not ended.
The innermost one is the one that began last. An event belongs to it, and the end of a phase
ends it (`Adds`). The trace itself goes by a stack, so what has to be shown is that the stack
holds the open phases and nothing else, and that each of them belongs to the one below it
(`Stack`). Then the phases above an event, found by going from each event to the one that it
belongs to, are those that were on the stack when it was written (`within_iff_mem`), which
are the ones that were open (`during_iff`).

Every event was written at some moment (`exists_moment`), so a statement about all events of
a trace is one about the last event of a shorter one.

## Main definitions

* `Trace.Op`, `Trace.ofOps`: What can be done to a trace, and the trace after it.
* `Trace.IsOpen`, `Trace.Innermost`: Which phases are open by the events.
* `Trace.Within`: An event is inside of a phase.
* `Trace.During`: An event is written while a phase is open.
* `Trace.Adds`: What an operation adds.
* `Trace.WellNested`: The phases of a trace nest.

## Theorems

* `apply_cases`: An operation adds one event, or none.
* `stacked_ofOps`: The stack holds the open phases.
* `within_iff_during`: An event is inside of the phases that are open when it is written.
* `EndsAt.unique`: A phase ends once at most.
* `ofOps_wellNested`: The phases of every trace nest.
-/

namespace EntryCoverage

namespace Trace

/-- What can be done to a trace. -/
inductive Op
  | startPhase (name detail : String)
  | endPhase
  | mutation (function before after : String) (extra : List (String × Value))
  | inspection (function outcome detail : String)
  | warning (message : String)

/-- The kind of the event that an operation adds, if it adds one. -/
def Op.kind : Op → EventKind
  | startPhase _ _ => .phaseStart
  | endPhase => .phaseEnd
  | mutation _ _ _ _ => .mutation
  | inspection _ _ _ => .inspection
  | warning _ => .warning

/-- A trace after one more operation. -/
def apply (t : Trace) : Op → Trace
  | .startPhase name detail => t.startPhase name detail
  | .endPhase => t.endPhase
  | .mutation function before after extra => t.mutation function before after extra
  | .inspection function outcome detail => t.inspection function outcome detail
  | .warning message => t.warning message

/-- A trace after operations in a row. -/
def ofOps (ops : List Op) : Trace := ops.foldl apply {}

/-! ### Phases by the events -/

/-- A phase begins at a place. -/
def BeginsAt (t : Trace) (k : Nat) : Prop := ∃ e, t.events[k]? = some e ∧ e.kind = .phaseStart

/-- At a place, the phase that begins at another one ends. -/
def EndsAt (t : Trace) (j k : Nat) : Prop :=
  ∃ e, t.events[j]? = some e ∧ e.kind = .phaseEnd ∧ e.parent = some k

/-- A phase has begun and not ended. -/
def IsOpen (t : Trace) (k : Nat) : Prop := t.BeginsAt k ∧ ∀ j, ¬ t.EndsAt j k

/-- The open phase that began last, if any phase is open. -/
inductive Innermost (t : Trace) : Option Nat → Prop
  | none (h : ∀ k, ¬ t.IsOpen k) : Innermost t none
  | phase {k : Nat} (h : t.IsOpen k) (hlast : ∀ j, t.IsOpen j → j ≤ k) : Innermost t (some k)

/-- The event at a place belongs to the one at another place. -/
def BelongsTo (t : Trace) (i k : Nat) : Prop := ∃ e, t.events[i]? = some e ∧ e.parent = some k

/-- The event at a place belongs to the one at another place, or to one that is within that
    itself. -/
def Within (t : Trace) : Nat → Nat → Prop := Relation.TransGen t.BelongsTo

/-- An event comes after the beginning of a phase, and no end of the phase comes before it. -/
structure During (t : Trace) (i k : Nat) : Prop where
  written : i < t.events.length
  begun : t.BeginsAt k
  after : k < i
  lasting : ∀ j < i, ¬ t.EndsAt j k

/-- What an operation adds to a trace. -/
inductive Adds (t : Trace) (op : Op) (u : Trace) : Prop
  /-- An event in the innermost open phase. If it begins a phase, that is open from then on. -/
  | event {e : Event} (hop : op ≠ .endPhase) (hevents : u.events = t.events ++ [e])
      (hkind : e.kind = op.kind) (hparent : t.Innermost e.parent)
      (hopen : ∀ k, u.IsOpen k ↔ t.IsOpen k ∨ op.kind = .phaseStart ∧ k = t.events.length)
  /-- The end of the innermost open phase, which is open no more. -/
  | ending {e : Event} {k : Nat} (hop : op = .endPhase) (hevents : u.events = t.events ++ [e])
      (hkind : e.kind = .phaseEnd) (hparent : e.parent = some k) (hinner : t.Innermost (some k))
      (hopen : ∀ j, u.IsOpen j ↔ t.IsOpen j ∧ j ≠ k)
  /-- Nothing, if there is no phase to end. -/
  | nothing (hop : op = .endPhase) (hinner : t.Innermost none) (hsame : u = t)

/-- The phases of a trace nest. -/
structure WellNested (t : Trace) : Prop where
  /-- The trace knows its open phases, each of them once. -/
  nodup : t.openPhases.Nodup
  mem_openPhases : ∀ k, k ∈ t.openPhases ↔ t.IsOpen k
  /-- They are as many as have begun, less those that have ended. -/
  count : t.openPhases.length + t.events.countP (·.kind = .phaseEnd) =
    t.events.countP (·.kind = .phaseStart)
  /-- A phase ends once at most. -/
  endsOnce : ∀ k j j', t.EndsAt j k → t.EndsAt j' k → j = j'
  /-- What is written between the beginning and the end of a phase is within it. -/
  between : ∀ i j k, t.EndsAt j k → k < i → i < j → t.Within i k
  /-- The phases around an event are those that are open when it is written. -/
  within_iff : ∀ i k, t.Within i k ↔ t.During i k

/-- The phases that are open after an event of a kind. -/
def openAfter (t : Trace) : EventKind → List Nat
  | .phaseStart => t.events.length :: t.openPhases
  | .phaseEnd => t.openPhases.tail
  | _ => t.openPhases

/-- On a stack of phases, each belongs to the one below it and began after it. -/
inductive Stack (t : Trace) : List Nat → Prop
  | nil : Stack t []
  | cons {k : Nat} {outer : List Nat} (h : Stack t outer)
      (hbelongs : ∃ e, t.events[k]? = some e ∧ e.parent = outer.head?)
      (hlater : ∀ j ∈ outer, j < k) : Stack t (k :: outer)

/-- The phases of a trace are in order, and those that are open are on a stack. -/
structure Stacked (t : Trace) : Prop where
  nested : t.Nested
  stack : t.Stack t.openPhases

variable {t u : Trace} {op : Op} {ops : List Op} {i j k : Nat}

/-! ### Operations -/

theorem ofOps_concat (ops : List Op) (op : Op) : ofOps (ops ++ [op]) = (ofOps ops).apply op :=
  List.foldl_concat ..

/-- An operation adds one event, which belongs to the top of the stack. Only the end of a phase
    adds none, if there is no phase. -/
theorem apply_cases (t : Trace) (op : Op) :
    (op = .endPhase ∧ t.openPhases = [] ∧ t.apply op = t) ∨
      ∃ e : Event, e.kind = op.kind ∧ e.parent = t.openPhases.head? ∧
        (op = .endPhase → t.openPhases ≠ []) ∧
        t.apply op = ⟨t.events ++ [e], t.openAfter op.kind⟩ := by
  cases op with
  | startPhase name detail => exact .inr ⟨_, rfl, rfl, Op.noConfusion, rfl⟩
  | endPhase =>
      rcases t with ⟨events, _ | ⟨phase, outer⟩⟩
      · exact .inl ⟨rfl, rfl, rfl⟩
      · exact .inr ⟨⟨.phaseEnd, "End Phase", some phase, []⟩, rfl, rfl,
          fun _ => List.cons_ne_nil _ _, rfl⟩
  | mutation function before after extra => exact .inr ⟨_, rfl, rfl, Op.noConfusion, rfl⟩
  | inspection function outcome detail => exact .inr ⟨_, rfl, rfl, Op.noConfusion, rfl⟩
  | warning message => exact .inr ⟨_, rfl, rfl, Op.noConfusion, rfl⟩

theorem later_apply (t : Trace) (op : Op) : Later t (t.apply op) := by
  cases op with
  | startPhase name detail => exact Later.refl.startPhase name detail
  | endPhase => exact Later.refl.endPhase
  | mutation function before after extra =>
      exact Later.refl.record _ _ _ EventKind.noConfusion EventKind.noConfusion
  | inspection function outcome detail =>
      exact Later.refl.record _ _ _ EventKind.noConfusion EventKind.noConfusion
  | warning message =>
      exact Later.refl.record _ _ _ EventKind.noConfusion EventKind.noConfusion

/-! ### The stack -/

/-- What is on a stack stays on it when more is written. -/
theorem Stack.later {phases : List Nat} (h : t.Stack phases) (hlater : Later t u) :
    u.Stack phases := by
  induction h with
  | nil => exact .nil
  | cons _ hbelongs hlast ih =>
      rcases hbelongs with ⟨e, he, hparent⟩
      exact .cons ih ⟨e, hlater.getElem? he, hparent⟩ hlast

theorem Stack.tail {phases : List Nat} (h : t.Stack phases) : t.Stack phases.tail := by
  cases h with
  | nil => exact .nil
  | cons h _ _ => exact h

theorem Stacked.apply (h : t.Stacked) (op : Op) : (t.apply op).Stacked where
  nested := (later_apply t op).nested h.nested
  stack := by
    have hkeep : ∀ {phases}, t.Stack phases → (t.apply op).Stack phases :=
      fun hphases => hphases.later (later_apply t op)
    rcases apply_cases t op with ⟨-, -, hsame⟩ | ⟨e, -, hparent, -, happly⟩
    · rw [hsame]
      exact h.stack
    · have hopen : (t.apply op).openPhases = t.openAfter op.kind := by rw [happly]
      rw [hopen]
      cases op.kind with
      | phaseStart =>
          refine .cons (hkeep h.stack) ⟨e, ?_, hparent⟩ fun j hj => h.nested.lt_of_mem hj
          rw [happly]
          exact List.getElem?_concat_length
      | phaseEnd => exact (hkeep h.stack).tail
      | mutation => exact hkeep h.stack
      | inspection => exact hkeep h.stack
      | warning => exact hkeep h.stack

/-- Whatever is done to a trace, its open phases are on a stack. -/
theorem stacked_ofOps (ops : List Op) : (ofOps ops).Stacked := by
  induction ops using List.reverseRecOn with
  | nil => exact ⟨nested_empty, .nil⟩
  | append_singleton ops op ih =>
      rw [ofOps_concat]
      exact ih.apply op

theorem ends_eq_zero_iff : t.ends k = 0 ↔ ∀ j, ¬ t.EndsAt j k := by
  rw [ends, List.countP_eq_zero]
  constructor
  · rintro hno j ⟨e, he, hkind, hparent⟩
    exact hno e (List.mem_of_getElem? he) (decide_eq_true ⟨hkind, hparent⟩)
  · intro hno e he hends
    rcases List.mem_iff_getElem?.1 he with ⟨j, hj⟩
    exact hno j ⟨e, hj, of_decide_eq_true hends⟩

/-- The open phases are those on the stack. -/
theorem Nested.isOpen_iff (h : t.Nested) : t.IsOpen k ↔ k ∈ t.openPhases := by
  rw [IsOpen, ← ends_eq_zero_iff]
  constructor
  · rintro ⟨⟨e, he, hkind⟩, hends⟩
    -- A phase that has begun and is not on the stack has ended once.
    by_contra hk
    rw [h.ended k e he hkind, if_neg hk] at hends
    exact Nat.one_ne_zero hends
  · intro hk
    rcases h.opened k hk with ⟨e, he, hkind⟩
    exact ⟨⟨e, he, hkind⟩, (h.ended k e he hkind).trans (if_pos hk)⟩

/-- The innermost open phase is on top of the stack. -/
theorem Stacked.innermost (h : t.Stacked) : t.Innermost t.openPhases.head? := by
  have hstack := h.stack
  cases hopen : t.openPhases with
  | nil =>
      refine .none fun k hk => ?_
      rw [h.nested.isOpen_iff, hopen] at hk
      exact List.not_mem_nil hk
  | cons top outer =>
      rw [hopen] at hstack
      refine .phase (h.nested.isOpen_iff.2 (hopen ▸ List.mem_cons_self)) fun j hj => ?_
      rw [h.nested.isOpen_iff, hopen, List.mem_cons] at hj
      cases hstack with
      | cons _ _ hlater =>
          rcases hj with rfl | hj
          · exact Nat.le_refl _
          · exact Nat.le_of_lt (hlater j hj)

/-- An operation that ends no phase leaves those open that were, and opens what it begins. -/
theorem mem_openAfter_iff (hop : op ≠ .endPhase) : k ∈ t.openAfter op.kind ↔
    k ∈ t.openPhases ∨ op.kind = .phaseStart ∧ k = t.events.length := by
  cases op with
  | startPhase name detail =>
      simp only [Op.kind, openAfter, List.mem_cons, true_and]
      exact or_comm
  | endPhase => exact absurd rfl hop
  | mutation function before after extra => simp [Op.kind, openAfter]
  | inspection function outcome detail => simp [Op.kind, openAfter]
  | warning message => simp [Op.kind, openAfter]

/-- What an operation adds, by the open phases. -/
theorem Stacked.adds (h : t.Stacked) (op : Op) : t.Adds op (t.apply op) := by
  have hinner := h.innermost
  rcases apply_cases t op with ⟨rfl, hnil, hsame⟩ | ⟨e, hkind, hparent, hne, happly⟩
  · rw [hnil] at hinner
    exact .nothing rfl hinner hsame
  · rw [← hparent] at hinner
    have hevents : (t.apply op).events = t.events ++ [e] := by rw [happly]
    have hopen : ∀ j, (t.apply op).IsOpen j ↔ j ∈ t.openAfter op.kind := by
      intro j
      rw [(h.apply op).nested.isOpen_iff, happly]
    by_cases hop : op = .endPhase
    · subst hop
      rcases List.exists_cons_of_ne_nil (hne rfl) with ⟨top, outer, hstack⟩
      rw [hstack, List.head?_cons] at hparent
      rw [hparent] at hinner
      refine .ending rfl hevents hkind hparent hinner fun j => ?_
      -- The top of the stack is on it once, so what is below it is all the rest.
      have houter : t.openAfter Op.endPhase.kind = t.openPhases.erase top := by
        rw [hstack, List.erase_cons_head]
        exact congrArg List.tail hstack
      rw [hopen, houter, h.nested.nodup.mem_erase_iff, h.nested.isOpen_iff, and_comm]
    · refine .event hop hevents hkind hinner fun k => ?_
      rw [hopen, mem_openAfter_iff hop, h.nested.isOpen_iff]

theorem belongsTo_iff {e : Event} (he : t.events[i]? = some e) :
    t.BelongsTo i j ↔ e.parent = some j := by
  rw [BelongsTo, he]
  simp only [Option.some.injEq, exists_eq_left']

/-- The phases around an event that belongs to the top of a stack are those on it. -/
theorem Stack.within_iff_mem {phases : List Nat} (h : t.Stack phases) {e : Event}
    (he : t.events[i]? = some e) (hparent : e.parent = phases.head?) :
    t.Within i k ↔ k ∈ phases := by
  induction h generalizing i e with
  | nil =>
      refine iff_of_false (fun hwithin => ?_) List.not_mem_nil
      rcases Relation.TransGen.head'_iff.1 hwithin with ⟨j, hj, -⟩
      rw [belongsTo_iff he, hparent] at hj
      exact Option.some_ne_none j hj.symm
  | @cons top outer _ hbelongs _ ih =>
      -- The event belongs to the top and to nothing else, so the way up leads over the top.
      have htop : ∀ j, t.BelongsTo i j ↔ j = top := by
        intro j
        rw [belongsTo_iff he, hparent, List.head?_cons, Option.some.injEq, eq_comm]
      rcases hbelongs with ⟨e', he', hparent'⟩
      rw [Within, Relation.TransGen.head'_iff]
      simp only [htop, exists_eq_left]
      rw [Relation.reflTransGen_iff_eq_or_transGen, List.mem_cons]
      exact or_congr Iff.rfl (ih he' hparent')

/-! ### Moments -/

/-- Every event was written at some moment, into the innermost phase that was open then. -/
theorem exists_moment {e : Event} (he : (ofOps ops).events[i]? = some e) :
    ∃ before, Later (ofOps before) (ofOps ops) ∧ (ofOps before).events.length = i ∧
      e.parent = (ofOps before).openPhases.head? := by
  induction ops using List.reverseRecOn with
  | nil => exact absurd he.symm (Option.some_ne_none e)
  | append_singleton ops op ih =>
      have hlater := later_apply (ofOps ops) op
      rw [← ofOps_concat] at hlater
      have hold : (ofOps ops).events[i]? = some e → ∃ before,
          Later (ofOps before) (ofOps (ops ++ [op])) ∧ (ofOps before).events.length = i ∧
            e.parent = (ofOps before).openPhases.head? := by
        intro he
        rcases ih he with ⟨before, hmore, hlength, hparent⟩
        exact ⟨before, hmore.trans hlater, hlength, hparent⟩
      rcases apply_cases (ofOps ops) op with ⟨-, -, hsame⟩ | ⟨e', -, hparent, -, happly⟩
      · rw [ofOps_concat, hsame] at he
        exact hold he
      · -- The event was there before, or it is the one that is added.
        rw [ofOps_concat, happly] at he
        rcases getElem?_concat_cases he with he | ⟨rfl, rfl⟩
        · exact hold he
        · exact ⟨ops, hlater, rfl, hparent⟩

/-- What has been written stays as it is. -/
theorem Later.getElem?_eq (h : Later t u) (hj : j < t.events.length) :
    u.events[j]? = t.events[j]? := by
  rw [List.getElem?_eq_getElem hj]
  exact h.getElem? (List.getElem?_eq_getElem hj)

theorem Later.beginsAt_iff (h : Later t u) (hk : k < t.events.length) :
    u.BeginsAt k ↔ t.BeginsAt k := by
  rw [BeginsAt, BeginsAt, h.getElem?_eq hk]

theorem Later.endsAt_iff (h : Later t u) (hj : j < t.events.length) :
    u.EndsAt j k ↔ t.EndsAt j k := by
  rw [EndsAt, EndsAt, h.getElem?_eq hj]

theorem BeginsAt.lt (h : t.BeginsAt k) : k < t.events.length := by
  rcases h with ⟨e, he, -⟩
  exact (List.getElem?_eq_some_iff.1 he).1

theorem EndsAt.lt (h : t.EndsAt j k) : j < t.events.length := by
  rcases h with ⟨e, he, -⟩
  exact (List.getElem?_eq_some_iff.1 he).1

/-- The next event is written during the phases that are open. -/
theorem Later.during_iff (h : Later t u) (hwritten : t.events.length < u.events.length) :
    u.During t.events.length k ↔ t.IsOpen k := by
  constructor
  · rintro ⟨-, hbegun, hafter, hlasting⟩
    refine ⟨(h.beginsAt_iff hafter).1 hbegun, fun j hj => ?_⟩
    exact hlasting j hj.lt ((h.endsAt_iff hj.lt).2 hj)
  · rintro ⟨hbegun, hopen⟩
    exact ⟨hwritten, (h.beginsAt_iff hbegun.lt).2 hbegun, hbegun.lt,
      fun j hj hends => hopen j ((h.endsAt_iff hj).1 hends)⟩

/-- An event is inside of the phases that are open when it is written, and of no others. -/
theorem within_iff_during (ops : List Op) (i k : Nat) :
    (ofOps ops).Within i k ↔ (ofOps ops).During i k := by
  by_cases hi : i < (ofOps ops).events.length
  · have he := List.getElem?_eq_getElem hi
    rcases exists_moment he with ⟨before, hlater, rfl, hparent⟩
    have h := stacked_ofOps before
    rw [(h.stack.later hlater).within_iff_mem he hparent, hlater.during_iff hi,
      h.nested.isOpen_iff]
  · refine iff_of_false (fun hwithin => ?_) (fun hduring => hi hduring.written)
    rcases Relation.TransGen.head'_iff.1 hwithin with ⟨j, ⟨e, he, -⟩, -⟩
    exact hi (List.getElem?_eq_some_iff.1 he).1

/-- The end of a phase is written during the phase. -/
theorem EndsAt.during (h : (ofOps ops).EndsAt j k) : (ofOps ops).During j k := by
  rcases h with ⟨e, he, -, hparent⟩
  exact (within_iff_during ops j k).1 (.single ⟨e, he, hparent⟩)

/-- A phase ends once at most: of two ends, one would come before the other. -/
theorem EndsAt.unique {j' : Nat} (h : (ofOps ops).EndsAt j k) (h' : (ofOps ops).EndsAt j' k) :
    j = j' := by
  rcases Nat.lt_trichotomy j j' with hlt | heq | hlt
  · exact absurd h (h'.during.lasting j hlt)
  · exact heq
  · exact absurd h' (h.during.lasting j' hlt)

/-- An event between the beginning and the end of a phase is written during it. -/
theorem EndsAt.during_of_lt (h : (ofOps ops).EndsAt j k) (hafter : k < i) (hbefore : i < j) :
    (ofOps ops).During i k where
  written := Nat.lt_trans hbefore h.lt
  begun := h.during.begun
  after := hafter
  lasting := fun j' hj' => h.during.lasting j' (Nat.lt_trans hj' hbefore)

/-- There are as many open phases as have begun, less those that have ended. -/
theorem length_openPhases (ops : List Op) :
    (ofOps ops).openPhases.length + (ofOps ops).events.countP (·.kind = .phaseEnd) =
      (ofOps ops).events.countP (·.kind = .phaseStart) := by
  induction ops using List.reverseRecOn with
  | nil => rfl
  | append_singleton ops op ih =>
      rw [ofOps_concat]
      rcases apply_cases (ofOps ops) op with ⟨-, -, hsame⟩ | ⟨e, hkind, -, hne, happly⟩
      · rw [hsame]
        exact ih
      · rw [happly, List.countP_append, List.countP_append, List.countP_singleton,
          List.countP_singleton, hkind]
        cases op with
        | startPhase name detail =>
            simp only [Op.kind, openAfter, List.length_cons, reduceCtorEq, decide_false,
              decide_true, if_true, Bool.false_eq_true, if_false]
            omega
        | endPhase =>
            -- There is a phase to end, or no event would be added.
            have hpos := List.length_pos_iff.2 (hne rfl)
            simp only [Op.kind, openAfter, List.length_tail, reduceCtorEq, decide_false,
              decide_true, if_true, Bool.false_eq_true, if_false]
            omega
        | mutation function before after extra => exact ih
        | inspection function outcome detail => exact ih
        | warning message => exact ih

/-! ### All traces -/

/-- Whatever is done to a trace, its phases nest, and what is done next adds an event in the
    innermost open phase, or the end of that phase, or nothing if there is none to end. -/
theorem ofOps_wellNested (ops : List Op) :
    (∀ op, (ofOps ops).Adds op (ofOps (ops ++ [op]))) ∧ (ofOps ops).WellNested := by
  have h := stacked_ofOps ops
  refine ⟨fun op => ?_, ?_⟩
  · rw [ofOps_concat]
    exact h.adds op
  · exact {
      nodup := h.nested.nodup
      mem_openPhases := fun k => h.nested.isOpen_iff.symm
      count := length_openPhases ops
      endsOnce := fun k j j' hends hends' => hends.unique hends'
      between := fun i j k hends hafter hbefore =>
        (within_iff_during ops i k).2 (hends.during_of_lt hafter hbefore)
      within_iff := within_iff_during ops }

/-- Two phases, one in the other, with an end too many before them and after them. -/
example : (ofOps [.endPhase, .startPhase "outer" "", .startPhase "inner" "", .warning "w",
    .endPhase, .inspection "f" "skipped" "", .endPhase, .endPhase]).events.map (·.parent) =
      [none, some 0, some 1, some 1, some 0, some 0] := by decide

end Trace

end EntryCoverage
