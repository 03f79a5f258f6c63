import EntryCoverage.Decimal

/-!
# Fields

Taking the fields of settings and rows from values that come from outside. A flag
may be written in several ways; a text may not.

## Main definitions

* `Fault`: What is wrong with a field.
* `FieldError`: A fault and the field that has it.
* `Field.text`, `Field.flag`: The text or flag that a value stands for.
-/

namespace EntryCoverage

/-- What is wrong with the value of a field. -/
inductive Fault
  | notText
  | notFlag
  | unreadableFlag
  | notRowName
  | badNamespace (value : String)
  | badIdentifier (value : String)
  | empty
  | frozen
deriving DecidableEq, Repr

namespace Fault

def message : Fault → String
  | notText => "Input should be a valid string"
  | notFlag => "Input should be a valid boolean"
  | unreadableFlag => "Input should be a valid boolean, unable to interpret input"
  | notRowName => "Input should be 'FileNames', 'FunctionNames' or 'Types'"
  | badNamespace value =>
      "Value error, Invalid hook namespace: '" ++ value ++
        "'. Expected a dotted Python identifier."
  | badIdentifier value => "Value error, Invalid hook identifier: '" ++ value ++ "'."
  | empty => "Value error, Value must not be empty."
  | frozen => "Instance is frozen"

end Fault

/-- A fault and the place of the field that has it. -/
structure FieldError where
  place : String
  fault : Fault
deriving DecidableEq, Repr

namespace Field

/-- The text that a value is. -/
def text : Value → Except Fault String
  | .text s => .ok s
  | _ => .error .notText

/-- The words for a flag that is off, and for one that is on. -/
def offWords : List String := ["0", "off", "f", "false", "n", "no"]

def onWords : List String := ["1", "on", "t", "true", "y", "yes"]

def flagOfWord (word : String) : Except Fault Bool :=
  let lower := String.ofList (word.toList.map Char.toLower)
  if offWords.contains lower then .ok false
  else if onWords.contains lower then .ok true
  else .error .unreadableFlag

def flagOfInt (n : Int) : Except Fault Bool :=
  if n = 0 then .ok false else if n = 1 then .ok true else .error .unreadableFlag

/-- The flag that a value stands for: a truth value, the numbers zero and one, or a
    word for on or off. -/
def flag : Value → Except Fault Bool
  | .bool b => .ok b
  | .int n => flagOfInt n
  | .decimal text =>
      match (Decimal.parse? text).bind (·.rounded?) with
      | some n => flagOfInt n
      | none => .error .notFlag
  | .text word => flagOfWord word
  | _ => .error .notFlag

end Field

end EntryCoverage
