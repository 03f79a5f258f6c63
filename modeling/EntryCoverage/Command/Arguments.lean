import EntryCoverage.Text.Pieces

/-!
# Arguments

Arguments of a command are switches and operands. A switch is known by a name with
dashes before it, of which the beginning is enough if no other name begins so. Its
value follows it, as the next argument or after an equals sign. Everything after
two dashes alone is an operand.

The first operands in a row are the ones that a command takes. Whatever it cannot
place it sets aside, and goes on, so that a call for help among the arguments is
still heard.

## Main definitions

* `Switch`: A switch.
* `Shape`: What an argument is, by its looks.
* `shape?`: The shape of an argument.
* `Taken`: What a command takes from its arguments.
* `take`: What is taken from arguments.
-/

namespace EntryCoverage

namespace Arguments

/-- A switch: its name, with dashes, and whether it has a value. -/
structure Switch where
  name : String
  hasValue : Bool := false
deriving DecidableEq, Repr

/-- What an argument gives to the switch it names. -/
inductive Given
  | nothing
  /-- What follows an equals sign. -/
  | value (text : String)
  /-- What follows the letter of a switch with one dash. -/
  | letters (text : String)
deriving DecidableEq, Repr

/-- What an argument is, by its looks. -/
inductive Shape
  | operand
  /-- The two dashes before which switches end. -/
  | divider
  | known (switch : Switch) (given : Given)
  /-- A switch that the command does not have. -/
  | unknown
deriving DecidableEq, Repr

/-- The text before the first equals sign, and what follows that. -/
def splitEquals (arg : String) : List Char × Given :=
  match arg.toList.span (· != '=') with
  | (name, '=' :: value) => (name, .value (String.ofList value))
  | (name, _) => (name, .nothing)

/-- Whether an argument is a number below zero, and so no switch. -/
def isNegativeNumber (arg : String) : Bool :=
  match arg.toList with
  | '-' :: cs =>
      match cs.span Char.isDigit with
      | (whole, []) => !whole.isEmpty
      | (_, '.' :: rest) => !rest.isEmpty && rest.all Char.isDigit
      | _ => false
  | _ => false

/-- Whether a name begins with two dashes. -/
def isLong (name : List Char) : Bool := (Text.after? ['-', '-'] name).isSome

/-- A switch that an argument may stand for, without its full name. -/
def shortened? (arg : String) (s : Switch) : Option Shape :=
  let begins (cs : List Char) : Bool := (Text.after? cs s.name.toList).isSome
  if isLong arg.toList then
    let (name, given) := splitEquals arg
    if begins name then some (.known s given) else none
  else if s.name.toList = arg.toList.take 2 then
    some (.known s (.letters (String.ofList (arg.toList.drop 2))))
  else if begins arg.toList then some (.known s .nothing)
  else none

/-- What an argument is that begins with a dash and is no full name; none if it might
    be several switches. -/
def looseShape? (switches : List Switch) (arg : String) : Option Shape :=
  match switches.filterMap (shortened? arg) with
  | [shape] => some shape
  | _ :: _ :: _ => none
  | [] =>
      if isNegativeNumber arg || arg.toList.contains ' ' then some .operand else some .unknown

/-- The switch with a full name. -/
def named? (switches : List Switch) (name : List Char) : Option Switch :=
  switches.find? (·.name.toList == name)

/-- What an argument is, by its looks; none if it might be several switches. -/
def shape? (switches : List Switch) (arg : String) : Option Shape :=
  match arg.toList with
  | ['-', '-'] => some .divider
  | ['-'] => some .operand
  | '-' :: _ =>
      let (name, given) := splitEquals arg
      match named? switches arg.toList, named? switches name with
      | some s, _ => some (.known s .nothing)
      | none, some s => some (.known s given)
      | none, none => looseShape? switches arg
  | _ => some .operand

/-- Arguments with their shapes; none if one of them might be several switches. -/
def shapes? (switches : List Switch) : List String → Option (List (String × Shape))
  | [] => some []
  | arg :: args => do
      let shape ← shape? switches arg
      if shape = .divider then some ((arg, shape) :: args.map (·, .operand))
      else some ((arg, shape) :: (← shapes? switches args))

/-- Why nothing is taken. -/
inductive Stop
  /-- A switch that ends the command at once. -/
  | ended (switch : Switch)
  | misuse (problem : String)
deriving DecidableEq, Repr

/-- What a command takes from its arguments. -/
structure Taken where
  /-- Switches with their values, in their order. -/
  values : List (Switch × Option String) := []
  /-- The first operands in a row, and the divider where it stands among them. -/
  operands : Option (List String) := none
  /-- Whether something was set aside. -/
  leftOver : Bool := false
deriving DecidableEq, Repr

namespace Taken

/-- The value of a switch that has one; the last one, if there are several. -/
def value? (t : Taken) (name : String) : Option String :=
  (t.values.reverse.find? (·.1.name == name)).bind (·.2)

/-- Whether a switch is there. -/
def has (t : Taken) (name : String) : Bool := t.values.any (·.1.name == name)

end Taken

/-- The switches that an argument with one dash stands for, each a letter, and whether
    letters are left over at its end. A dash or an equals sign among them is wrong. -/
def lettered? (switches : List Switch) (s : Switch) : List Char → Option (List Switch × Bool)
  | [] => some ([s], false)
  | c :: cs =>
      if c == '-' || c == '=' then none
      else match named? switches ['-', c] with
        | some next => (lettered? switches next cs).map fun (ss, left) => (s :: ss, left)
        | none => some ([s], true)

/-- The switches without values that an argument stands for, of which the first one is
    known, and whether something of the argument is left over. -/
def switchesOf? (switches : List Switch) (s : Switch) : Given → Option (List Switch × Bool)
  | .nothing => some ([s], false)
  | .value _ => none
  | .letters text => lettered? switches s text.toList

/-- Whether an argument can stand in a row of operands. -/
def isOperand (item : String × Shape) : Bool := item.2 = .operand ∨ item.2 = .divider

/-- What a run of operands adds to what is taken. -/
def takeOperands (run : List (String × Shape)) (t : Taken) : Taken :=
  if t.operands.isNone && run.any (·.2 = .operand) then
    { t with operands := some (run.map (·.1)) }
  else { t with leftOver := true }

/-- What is taken from arguments, with at most as many steps as given. If `all`, the
    first operand takes every argument after it along. -/
def takeWithin (switches : List Switch) (ends : Switch → Bool) (all : Bool) :
    Nat → List (String × Shape) → Taken → Except Stop Taken
  | 0, _, t => .ok t
  | _ + 1, [], t => .ok t
  | steps + 1, (arg, shape) :: rest, t =>
      let record (s : Switch) (value : Option String) : Taken :=
        { t with values := t.values ++ [(s, value)] }
      match shape with
      | .unknown => takeWithin switches ends all steps rest { t with leftOver := true }
      | .known s given =>
          if s.hasValue then
            match given, rest with
            | .value text, _ | .letters text, _ =>
                takeWithin switches ends all steps rest (record s (some text))
            | .nothing, (text, .operand) :: rest =>
                takeWithin switches ends all steps rest (record s (some text))
            | .nothing, _ =>
                .error (.misuse ("argument " ++ s.name ++ ": expected one argument"))
          else
            match switchesOf? switches s given with
            | none => .error (.misuse ("argument " ++ s.name ++ ": ignored explicit argument"))
            | some (named, left) =>
                match named.find? ends with
                | some last => .error (.ended last)
                | none =>
                    takeWithin switches ends all steps rest
                      { t with
                        values := t.values ++ named.map (·, none)
                        leftOver := t.leftOver || left }
      | _ =>
          let items := (arg, shape) :: rest
          let (run, rest) := if all then (items, []) else items.span isOperand
          takeWithin switches ends all steps rest (takeOperands run t)

/-- What is taken from arguments. A switch for which `ends` holds ends the command at
    once. If `all`, the first operand takes every argument after it along. -/
def take (switches : List Switch) (ends : Switch → Bool) (all : Bool) (args : List String) :
    Except Stop Taken :=
  match shapes? switches args with
  | none => .error (.misuse "ambiguous option")
  | some items => takeWithin switches ends all (items.length + 1) items {}

end Arguments

end EntryCoverage
