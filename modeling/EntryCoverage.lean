import EntryCoverage.Main
import EntryCoverage.Proofs.Quantities
import EntryCoverage.Proofs.Registry
import EntryCoverage.Proofs.Books
import EntryCoverage.Proofs.Run
import EntryCoverage.Proofs.Lexing
import EntryCoverage.Proofs.Ways
import EntryCoverage.Proofs.Parsed
import EntryCoverage.Proofs.Selection
import EntryCoverage.Proofs.Removal
import EntryCoverage.Proofs.Restoring
import EntryCoverage.Proofs.Insertion
import EntryCoverage.Proofs.Calls
import EntryCoverage.Proofs.Import
import EntryCoverage.Proofs.Placement
import EntryCoverage.Proofs.Marks
import EntryCoverage.Proofs.Json
import EntryCoverage.Proofs.MappingText
import EntryCoverage.Proofs.Files
import EntryCoverage.Proofs.MappingFile
import EntryCoverage.Proofs.Commands
import EntryCoverage.Proofs.Exhaustion
import EntryCoverage.Proofs.HookPath
import EntryCoverage.Proofs.Outcomes
import EntryCoverage.Proofs.Glance
import EntryCoverage.Proofs.CallReading
import EntryCoverage.Proofs.CallWords
import EntryCoverage.Proofs.ReservedWords
import EntryCoverage.Proofs.Steps
import EntryCoverage.Proofs.SideBySide
import EntryCoverage.Proofs.Appending
import EntryCoverage.Proofs.ImportFrame
import EntryCoverage.Proofs.Phases
import EntryCoverage.Proofs.Nesting
import EntryCoverage.Proofs.Accounts
import EntryCoverage.Proofs.Renaming
import EntryCoverage.Proofs.Reordering
import EntryCoverage.Proofs.Canonical
import EntryCoverage.Proofs.Decoding
import EntryCoverage.Proofs.JsonTexts
import EntryCoverage.Proofs.MappingLines
import EntryCoverage.Proofs.MappingGrammar
import EntryCoverage.Proofs.ReservedRows
import EntryCoverage.Proofs.SavedMappings
import EntryCoverage.Proofs.FileStart
import EntryCoverage.Proofs.Origins
import EntryCoverage.Proofs.Shapes
import EntryCoverage.Proofs.FunctionStart
import EntryCoverage.Proofs.Fields
import EntryCoverage.Proofs.FieldQuotes
import EntryCoverage.Proofs.Marking
import EntryCoverage.Proofs.Definitions
import EntryCoverage.Proofs.Scopes
import EntryCoverage.Proofs.Bindings
import EntryCoverage.Proofs.EvaluationScopes
import EntryCoverage.Proofs.Writing
import EntryCoverage.Proofs.Destinations
import EntryCoverage.Proofs.UnitNames
import EntryCoverage.Proofs.Outputs
import EntryCoverage.Proofs.HookNames
import EntryCoverage.Proofs.Injections
import EntryCoverage.Proofs.Listings
import EntryCoverage.Proofs.Saving
import EntryCoverage.Proofs.Layers
import EntryCoverage.Proofs.Endings
