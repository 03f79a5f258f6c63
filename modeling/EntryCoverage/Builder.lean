import EntryCoverage.Changes
import EntryCoverage.Insertion
import EntryCoverage.Registry
import EntryCoverage.Trace

/-!
# Building Calls

Making a call for a function and keeping books on it. A function first gets an
identifier, and the place is noted as a site. Then its call is built, and if that
succeeds, the change is reported and traced. A call that cannot be built leaves the
identifier and the site behind.

## Main definitions

* `Place`: What is known about a function that is to get a call.
* `Site`: A place with its identifier.
* `Builder`: The books.
* `Builder.instrumentBody`, `Builder.instrumentLambda`: A body or lambda with its
  call.
* `SiteError`: Why a function gets no call.
-/

namespace EntryCoverage

open Source

/-- What is known about a function that is to get a call. -/
structure Place where
  file : String
  function : String
  line : Int
  column : Int := 0
deriving DecidableEq, Repr, Inhabited

/-- A place with its identifier. -/
structure Site where
  place : Place
  identifier : String
deriving DecidableEq, Repr

/-- The kind under which functions are recorded. -/
def functionKind : String := "Type.FUNCTION"

namespace Place

def coordinate (p : Place) : Coordinate := ⟨p.file, p.function, functionKind⟩

end Place

/-- Why a function gets no call. -/
inductive SiteError
  | registry (reason : RegistryError)
  /-- A part of the call cannot be written. -/
  | unwritable
  /-- What should get the call has no body. -/
  | noBody
deriving DecidableEq, Repr

structure Builder where
  config : Config
  registry : Registry := {}
  sites : List Site := []
  changes : List ScopeChange := []
  trace : Trace := {}

namespace Builder

/-- Gives a place an identifier and notes the site. -/
def allocate (b : Builder) (p : Place) : Builder × Except SiteError String :=
  match b.registry.encode p.coordinate with
  | (registry, .error reason) => ({ b with registry }, .error (.registry reason))
  | (registry, .ok identifier) =>
      ({ b with registry, sites := b.sites ++ [⟨p, identifier⟩] }, .ok identifier)

/-- Reports and traces the change that a call makes. -/
def noteChange (b : Builder) (p : Place) (call : Tree) : Builder :=
  { b with
    changes := b.changes ++ [⟨p.file, p.function⟩]
    trace := b.trace.mutation p.function "(function entry)" (Naming.renderAlone call)
      [("file", .text p.file), ("line", .int p.line)] }

/-- The call for a place, with all that goes with it. -/
def enter (b : Builder) (p : Place) : Builder × Except SiteError Tree :=
  match b.allocate p with
  | (b, .error e) => (b, .error e)
  | (b, .ok identifier) =>
      match Hook.hookCall? b.config identifier p.line with
      | none => (b, .error .unwritable)
      | some call => (b.noteChange p call, .ok call)

/-- Whether a tree is the body of a statement. -/
def isBody : Tree → Bool
  | .node (.block _) _ | .node .suite _ => true
  | _ => false

/-- A function's body with its call. -/
def instrumentBody (b : Builder) (body : Tree) (p : Place) : Builder × Except SiteError Tree :=
  if isBody body then
    match b.enter p with
    | (b, .error e) => (b, .error e)
    | (b, .ok call) => (b, .ok ((insertIntoBody? call body).getD body))
  else
    match b.allocate p with
    | (b, .error e) => (b, .error e)
    | (b, .ok _) => (b, .error .noBody)

/-- Changes the first body among the parts of a statement, going on with `b`. -/
def instrumentFirstBody (b : Builder) (p : Place) :
    List Tree → Builder × Except SiteError (List Tree)
  | [] => (b, .error .noBody)
  | t :: ts =>
      if isBody t then
        match b.instrumentBody t p with
        | (b, .error e) => (b, .error e)
        | (b, .ok t) => (b, .ok (t :: ts))
      else
        match instrumentFirstBody b p ts with
        | (b, .error e) => (b, .error e)
        | (b, .ok ts) => (b, .ok (t :: ts))

/-- A statement with the call in its body. What is on a line has no body of its own,
    and neither has a statement that only has cases. -/
def instrumentStatement (b : Builder) (t : Tree) (p : Place) :
    Builder × Except SiteError Tree :=
  match t with
  | .node .matchStatement _ => (b, .error .noBody)
  | .node .simpleLine _ => b.instrumentBody t p
  | .node kind parts =>
      match b.instrumentFirstBody p parts with
      | (b, .error e) => (b, .error e)
      | (b, .ok parts) => (b, .ok (.node kind parts))
  | .leaf _ => (b, .error .noBody)

/-- A lambda with its call. -/
def instrumentLambda (b : Builder) (t : Tree) (p : Place) : Builder × Except SiteError Tree :=
  match b.allocate p with
  | (b, .error e) => (b, .error e)
  | (b, .ok identifier) =>
      match Hook.hookCall? b.config identifier p.line with
      | none => (b, .error .unwritable)
      | some call =>
          match insertIntoLambda? call t with
          | none => (b, .error .noBody)
          | some t => (b.noteChange p call, .ok t)

end Builder

end EntryCoverage
