import EntryCoverage.Naming
import EntryCoverage.Provenance
import EntryCoverage.Source.Position

/-!
# Visiting a Tree

The nodes of a tree in the order in which instrumentation looks at them, each with
what it takes from its surroundings.

A node is visited after its children, and children are visited in source order. A
node takes from the nodes around it the file it comes from, the scopes it lies in
and what it is bound to, and from the text before it the position where it starts.

## Main definitions

* `Context`: What a node takes from the nodes around it.
* `Visit`: A node with what it takes from its surroundings.
* `visits`: The nodes of a tree, children first.
-/

namespace EntryCoverage

open Source Naming

/-- What a node takes from the nodes around it. -/
structure Context where
  origin : String
  scopes : List String := []
  binding : Binding := .free
  /-- The outermost parentheses right around the node. -/
  wrapper : Option Tree := none

/-- A node with what it takes from its surroundings. -/
structure Visit where
  kind : Kind
  children : List Tree
  /-- The node with the parentheses around it. -/
  whole : Tree
  origin : String
  /-- The scopes around the node, the outermost first. -/
  scopes : List String
  binding : Binding
  start : Position
  /-- Where the last part of the node starts. -/
  bodyStart : Position

namespace Context

/-- The file that a node comes from. -/
def originOf (c : Context) (children : List Tree) : String :=
  (Provenance.readOrigin? children).getD c.origin

/-- What the children of a node take from it. Parentheses hand on what they are
    bound to themselves. -/
def within (c : Context) (kind : Kind) (children : List Tree) : Context :=
  { origin := c.originOf children
    scopes := c.scopes ++ (scopeOf? kind children).toList
    binding := if kind = .paren then c.binding else .free
    wrapper := if kind = .paren then some (c.wrapper.getD (.node kind children)) else none }

/-- What the last child of a node is bound to. -/
def lastBinding (c : Context) (kind : Kind) (children : List Tree) : Binding :=
  if kind = .paren then c.binding else Binding.ofParent kind children

end Context

/-- Whether a tree stands before the place where its parent starts. -/
def isLead : Tree → Bool
  | .leaf l => l.isTrivia
  | .node kind _ => [Kind.leading, .decorator, .gap, .header, .footer].contains kind

/-- What walking through a tree gives. -/
structure Walk where
  visits : List Visit
  start : Position
  finish : Position

/-- What walking through the children of a node gives: where the node starts, and
    where its last child starts. -/
structure RowWalk where
  visits : List Visit
  start : Option Position
  lastStart : Position
  finish : Position

mutual

/-- Walks through a tree that begins at a position and stands at an indentation. -/
def walk (layout : Layout) (margin : String) (c : Context) (p : Position) : Tree → Walk
  | .leaf l => ⟨[], p, p.advance (l.render layout margin).toList⟩
  | .node kind children =>
      let row := walkAll layout (kind.marginWithin layout margin) (c.within kind children)
        (c.lastBinding kind children) p children
      let start := row.start.getD p
      let visit : Visit :=
        { kind, children
          whole := c.wrapper.getD (.node kind children)
          origin := c.originOf children
          scopes := c.scopes
          binding := c.binding
          start
          bodyStart := row.lastStart }
      ⟨row.visits ++ [visit], start, row.finish⟩

/-- Walks through trees in a row; the last one is bound to `last`. -/
def walkAll (layout : Layout) (margin : String) (c : Context) (last : Binding) (p : Position) :
    List Tree → RowWalk
  | [] => ⟨[], none, p, p⟩
  | t :: ts =>
      let w := walk layout margin (if ts.isEmpty then { c with binding := last } else c) p t
      let row := walkAll layout margin c last w.finish ts
      { visits := w.visits ++ row.visits
        start := if isLead t then row.start else some w.start
        lastStart := if ts.isEmpty then w.start else row.lastStart
        finish := row.finish }

end

/-- The nodes of a tree, children first. -/
def visits (layout : Layout) (c : Context) (t : Tree) : List Visit :=
  (walk layout "" c {} t).visits

/-- Whether a node is a function. -/
def isFunction : Kind → Bool
  | .functionDef | .lambda => true
  | _ => false

/-- The functions of a tree, inner ones first. -/
def functions (layout : Layout) (c : Context) (t : Tree) : List Visit :=
  (visits layout c t).filter (isFunction ·.kind)

namespace Visit

/-- Where the function that a node is gets its call: a defined function at the
    first statement of its body, a lambda where it starts. -/
def sitePosition (v : Visit) : Position :=
  if v.kind = .functionDef then v.bodyStart else v.start

/-- The name of the function that a node is. -/
def name (v : Visit) (anonymous : String) : Except NamingError String :=
  functionName v.kind v.children v.scopes v.binding anonymous

/-- The function that a node is, in a message. -/
def description (v : Visit) : String := describe v.whole (.node v.kind v.children)

end Visit

end EntryCoverage
