import EntryCoverage.Value

/-!
# The Trace

What a run did, event by event. Phases nest: an event belongs to the innermost
phase that is open when it happens, and the end of a phase belongs to the phase
that it ends. Events are known by their place in the trace.

## Main definitions

* `Event`: Something that happened.
* `Trace`: The events so far and the phases still open.
* `Trace.startPhase`, `Trace.endPhase`, `Trace.mutation`, `Trace.inspection`,
  `Trace.warning`: The trace after one more event.
-/

namespace EntryCoverage

inductive EventKind
  | phaseStart | phaseEnd | mutation | inspection | warning
deriving DecidableEq, Repr

/-- Something that happened. -/
structure Event where
  kind : EventKind
  description : String
  /-- The place of the event that this one belongs to. -/
  parent : Option Nat
  metadata : List (String × Value) := []

/-- The events so far, and the places of the phases still open, the innermost
    first. -/
structure Trace where
  events : List Event := []
  openPhases : List Nat := []

namespace EventKind

def name : EventKind → String
  | phaseStart => "phase_start"
  | phaseEnd => "phase_end"
  | mutation => "ast_mutation"
  | inspection => "inspection"
  | warning => "analysis_warning"

end EventKind

namespace Trace

/-- The trace after an event in the innermost open phase. -/
def record (t : Trace) (kind : EventKind) (description : String)
    (metadata : List (String × Value)) : Trace :=
  { t with events := t.events ++ [⟨kind, description, t.openPhases.head?, metadata⟩] }

def startPhase (t : Trace) (name : String) (detail : String := "") : Trace :=
  { t.record .phaseStart name [("detail", .text detail)] with
    openPhases := t.events.length :: t.openPhases }

/-- The trace after the innermost open phase ends; the same one if none is open. -/
def endPhase (t : Trace) : Trace :=
  match t.openPhases with
  | [] => t
  | phase :: outer =>
      { events := t.events ++ [⟨.phaseEnd, "End Phase", some phase, []⟩], openPhases := outer }

/-- A function got its call. -/
def mutation (t : Trace) (function before after : String)
    (extra : List (String × Value)) : Trace :=
  t.record .mutation ("Instrumented " ++ function)
    (extra.foldl (fun entries e => putEntry e.1 e.2 entries)
      [("before", .text before), ("after", .text after)])

/-- A function was looked at and left alone. -/
def inspection (t : Trace) (function outcome detail : String) : Trace :=
  t.record .inspection ("Inspecting '" ++ function ++ "'")
    [("outcome", .text outcome), ("detail", .text detail)]

def warning (t : Trace) (message : String) : Trace :=
  t.record .warning message [("level", .text "warning")]

end Trace

end EntryCoverage
