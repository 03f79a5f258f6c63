/-!
# Values

The values that configuration files, command line arguments and data files hold.
Numbers that are not integers are kept as they were written, because all that is
ever asked of them is whether they stand for zero or one.

## Main definitions

* `Value`: A value of a data file.
* `Value.typeName`: The word for the type of a value in messages.
-/

namespace EntryCoverage

/-- A value of a data file. -/
inductive Value
  | null
  | bool (b : Bool)
  | int (n : Int)
  /-- A number with a fraction or an exponent, as written. -/
  | decimal (text : String)
  | text (s : String)
  | list (items : List Value)
  /-- Entries in the order of their first appearance. -/
  | table (entries : List (String × Value))
  /-- A date, a time of day, or both, as written. -/
  | moment (text : String)
deriving Inhabited

namespace Value

/-- The word for the type of a value in messages. -/
def typeName : Value → String
  | .null => "NoneType"
  | .bool _ => "bool"
  | .int _ => "int"
  | .decimal _ => "float"
  | .text _ => "str"
  | .list _ => "list"
  | .table _ => "dict"
  | .moment _ => "datetime"

/-- The value of an entry of a table. -/
def get? (key : String) : Value → Option Value
  | .table entries => (entries.find? (·.1 == key)).map (·.2)
  | _ => none

end Value

/-- Puts an entry into a table: in its old place if the key is there, at the end
    if not. -/
def putEntry (key : String) (value : Value) : List (String × Value) → List (String × Value)
  | [] => [(key, value)]
  | (k, v) :: rest =>
      if k == key then (k, value) :: rest else (k, v) :: putEntry key value rest

end EntryCoverage
