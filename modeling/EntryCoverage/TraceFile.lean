import EntryCoverage.Json.Printer
import EntryCoverage.Trace

/-!
# Trace Files

A trace as the text of a file: a list of its events in their order, each with an
identifier that the events belonging to it refer to.

## Main definitions

* `Trace.fileText`: A trace as the text of a file.
-/

namespace EntryCoverage

/-- The identifier of the event at a place. -/
def eventIdentifier (place : Nat) : Value := .text ("event-" ++ toString place)

/-- Milliseconds as seconds. -/
def secondsOf (milliseconds : Nat) : Value :=
  let digits := Nat.toDigits 10 (milliseconds % 1000)
  .decimal (toString (milliseconds / 1000) ++ "." ++
    String.ofList (List.replicate (3 - digits.length) '0' ++ digits))

namespace Event

/-- An event at a place of a trace, made at a time in milliseconds. -/
def toValue (time place : Nat) (e : Event) : Value :=
  .table
    [("id", eventIdentifier place), ("type", .text e.kind.name),
     ("timestamp", secondsOf time), ("description", .text e.description),
     ("parent_id", (e.parent.map eventIdentifier).getD .null), ("metadata", .table e.metadata)]

end Event

namespace Trace

/-- A trace as the text of a file, made at a time in milliseconds. -/
def fileText (time : Nat) (t : Trace) : String :=
  Json.renderIndented 0 (.list (t.events.zipIdx.map fun (e, place) => e.toValue time place))

end Trace

end EntryCoverage
