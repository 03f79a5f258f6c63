import EntryCoverage.Field
import EntryCoverage.Text.Blank
import EntryCoverage.Text.Pieces

/-!
# Configuration

The settings of a run. Three of them make up the path of the runtime hook that
every call goes to: the name under which its module is reached, the attribute that
holds the hook, and the method that is called.

A setting comes from the first layer that has it: the overrides of the caller, the
table of a configuration file, the default. Overrides that are null do not count
as given.

## Main definitions

* `Config`: The settings.
* `Config.ofValues`: The settings that values stand for.
* `Config.layered`: The values that win, of a table and of overrides.
-/

namespace EntryCoverage

/-- The settings of a run. -/
structure Config where
  hookFileName : String := "instrument_code.py"
  hookNamespace : String := "instrument_code"
  hookInstance : String := "instrument_code_instance"
  hookMethod : String := "instrument_code"
  anonymousName : String := "Anonymous"
  instrumentLambdas : Bool := true
  injectHookImport : Bool := true
deriving DecidableEq, Repr, Inhabited

namespace Config

/-- The path of the hook that calls go to. -/
def hookPath (c : Config) : String :=
  c.hookNamespace ++ "." ++ c.hookInstance ++ "." ++ c.hookMethod

/-- Letters of an identifier after the first one. -/
def isIdentifierTail (cs : List Char) : Bool := cs.all fun c => c.isAlphanum || c == '_'

/-- Whether a text is an identifier of ASCII letters. One line feed may follow. -/
def isIdentifier : List Char → Bool
  | [] => false
  | c :: rest =>
      (c.isAlpha || c == '_') &&
        (isIdentifierTail rest || (rest.getLast? == some '\n' && isIdentifierTail rest.dropLast))

/-- A path of identifiers with dots between them, without the blanks around it. -/
def namespaceField (value : Value) : Except Fault String := do
  let s ← Field.text value
  let clean := Text.strip s.toList
  if (Text.splitOn '.' clean).all isIdentifier then .ok (String.ofList clean)
  else .error (.badNamespace s)

/-- An identifier, without the blanks around it. -/
def identifierField (value : Value) : Except Fault String := do
  let s ← Field.text value
  let clean := Text.strip s.toList
  if isIdentifier clean then .ok (String.ofList clean) else .error (.badIdentifier s)

def nonEmptyField (value : Value) : Except Fault String := do
  let s ← Field.text value
  if s.isEmpty then .error .empty else .ok s

/-- The names of the settings, in their order. -/
def fieldNames : List String :=
  ["hook_file_name", "hook_namespace", "hook_instance", "hook_method", "anonymous_name",
   "instrument_lambdas", "inject_hook_import"]

/-- A setting, or what is wrong with it. -/
def field {α : Type} (values : List (String × Value)) (name : String) (default : α)
    (read : Value → Except Fault α) : Except Fault α :=
  match values.find? (·.1 == name) with
  | none => .ok default
  | some (_, value) => read value

/-- The error that a setting causes, if any. -/
def faultOf {α : Type} (name : String) : Except Fault α → List FieldError
  | .ok _ => []
  | .error fault => [⟨name, fault⟩]

/-- The settings that values stand for, or all that is wrong with them. Values
    under other names are left aside. -/
def ofValues (values : List (String × Value)) : Except (List FieldError) Config :=
  let d : Config := {}
  let fileName := field values "hook_file_name" d.hookFileName nonEmptyField
  let hookNamespace := field values "hook_namespace" d.hookNamespace namespaceField
  let hookInstance := field values "hook_instance" d.hookInstance identifierField
  let method := field values "hook_method" d.hookMethod identifierField
  let anonymous := field values "anonymous_name" d.anonymousName nonEmptyField
  let lambdas := field values "instrument_lambdas" d.instrumentLambdas Field.flag
  let inject := field values "inject_hook_import" d.injectHookImport Field.flag
  match fileName, hookNamespace, hookInstance, method, anonymous, lambdas, inject with
  | .ok hookFileName, .ok hookNamespace, .ok hookInstance, .ok hookMethod, .ok anonymousName,
      .ok instrumentLambdas, .ok injectHookImport =>
      .ok
        { hookFileName, hookNamespace, hookInstance, hookMethod, anonymousName,
          instrumentLambdas, injectHookImport }
  | _, _, _, _, _, _, _ =>
      .error
        (faultOf "hook_file_name" fileName ++ faultOf "hook_namespace" hookNamespace ++
          faultOf "hook_instance" hookInstance ++ faultOf "hook_method" method ++
          faultOf "anonymous_name" anonymous ++ faultOf "instrument_lambdas" lambdas ++
          faultOf "inject_hook_import" inject)

/-- Settings are not changed once they are made. -/
def set (_ : Config) (name : String) (_ : Value) : Except FieldError Config :=
  .error ⟨name, .frozen⟩

def isNull : Value → Bool
  | .null => true
  | _ => false

/-- The values that win: those of the overrides that are given, and those of the
    table under other names. -/
def layered (table overrides : List (String × Value)) : List (String × Value) :=
  let given := overrides.filter fun e => !isNull e.2
  given ++ table.filter fun e => fieldNames.contains e.1 && !given.any (·.1 == e.1)

end Config

end EntryCoverage
