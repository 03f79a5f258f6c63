import EntryCoverage.Source.Literal
import EntryCoverage.Source.Module
import EntryCoverage.Text.Blank

/-!
# Names of Functions

The name that a function is recorded under.

A defined function is named by the classes and functions around it and its own
name, with `<locals>` after each function, as its qualified name is written. A
lambda is named for what it is bound to: the target of an assignment, the keyword
of an argument, the key of an entry. A target with dots is taken as it is; any
other name is qualified as that of a defined function is. A lambda that is bound
to nothing gets the name that the settings have for it.

## Main definitions

* `fullName?`: The dotted name that an expression is.
* `Binding`: What a function is bound to.
* `Binding.ofParent`: What the last part of a node is bound to.
* `functionName`: The name of a function.
* `describe`: A function in a message.
-/

namespace EntryCoverage

namespace Naming

open Source

/-- The words before a scope's content: each scope with a dot after it. -/
def scopePrefix (scopes : List String) : String :=
  scopes.foldr (fun scope rest => scope ++ "." ++ rest) ""

/-- The text of the first word among trees. -/
def firstWord? (ts : List Tree) : Option String :=
  ts.findSome? fun | .leaf (.token text) => some text | _ => none

/-- The name that an attribute adds. -/
def attributeName? : Tree → Option String
  | .node .attribute ts =>
      ts.findSome? fun | .node .name inner => firstWord? inner | _ => none
  | _ => none

/-- A name with the attributes that follow it, if nothing else does. -/
def withAttributes (base : String) (trailers : List Tree) : Option String :=
  trailers.foldlM (fun name t => (attributeName? t).map fun a => name ++ "." ++ a) base

mutual

/-- The dotted name that an expression is. -/
def fullName? : Tree → Option String
  | .node .name ts => firstWord? ts
  | .node .paren ts => innerName? ts
  | .node .primary ts => primaryName? ts
  | _ => none

/-- The dotted name of the first node in a row. -/
def innerName? : List Tree → Option String
  | [] => none
  | .leaf _ :: ts => innerName? ts
  | t :: _ => fullName? t

/-- The dotted name of a primary with these parts. -/
def primaryName? : List Tree → Option String
  | [] => none
  | .leaf _ :: ts => primaryName? ts
  | t :: ts => (fullName? t).bind fun base => withAttributes base (Grammar.nodes ts)

end

/-- What a function is bound to. -/
inductive Binding
  | free
  | target (t : Tree)
  | key (t : Tree)
deriving Inhabited

/-- A key of an entry stood for no text that a name could be made of. -/
inductive NamingError
  | malformedKey (literal : String)
deriving DecidableEq, Repr

namespace Binding

/-- The first node in a row. -/
def firstNode (ts : List Tree) : Tree := ((Grammar.nodes ts).head?).getD default

/-- What the last part of a node is bound to, given the node. -/
def ofParent (kind : Kind) (children : List Tree) : Binding :=
  match kind with
  | .assignment | .annotatedAssignment | .walrus | .keywordArgument =>
      .target (firstNode children)
  | .dictElement => .key (firstNode children)
  | _ => .free

/-- The name that is bound. -/
def name? : Binding → Except NamingError (Option String)
  | .free => .ok none
  | .target t => .ok (fullName? t)
  | .key t =>
      match t.unparenthesized with
      | .node .string ts =>
          let literal := (firstWord? ts).getD ""
          match StringValue.ofLiteral literal.toList with
          | .text [] | .bytes => .ok none
          | .text cs => .ok (some (String.ofList cs))
          | .malformed => .error (.malformedKey literal)
      | _ => .ok none

end Binding

/-- The name of a definition, given its parts. -/
def definedName (children : List Tree) : String :=
  (children.findSome? fun | .node .name ts => firstWord? ts | _ => none).getD ""

/-- The scope that a node opens. -/
def scopeOf? (kind : Kind) (children : List Tree) : Option String :=
  match kind with
  | .classDef => some (definedName children)
  | .functionDef => some (definedName children ++ ".<locals>")
  | _ => none

/-- The name of a lambda that is bound as given. -/
def lambdaName (scopes : List String) (anonymous : String) : Option String → String
  | none => anonymous
  | some name =>
      if name.toList.contains '.' then name else scopePrefix scopes ++ name

/-- The name of a function, given the node it is, the scopes around it and what it
    is bound to. -/
def functionName (kind : Kind) (children : List Tree) (scopes : List String)
    (binding : Binding) (anonymous : String) : Except NamingError String :=
  match kind with
  | .functionDef => .ok (scopePrefix scopes ++ definedName children)
  | _ => binding.name?.map (lambdaName scopes anonymous)

/-- The text of a tree apart from any file, without blanks around it. -/
def renderAlone (t : Tree) : String :=
  String.ofList (Text.strip (t.render {} "").toList)

/-- A function in a message: its definition's name, or the first line of a lambda. -/
def describe (whole : Tree) : Tree → String
  | .node .functionDef children => "def " ++ definedName children
  | _ => String.ofList (Text.firstLine (renderAlone whole).toList)

end Naming

end EntryCoverage
