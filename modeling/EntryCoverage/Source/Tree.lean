/-!
# Source Trees

A source file as a tree that loses nothing.

A tree is made of nodes, which say what a stretch of source is, and leaves,
which hold its text. Every piece of text is in a leaf, blanks and comments
included, so the source is the leaves read from left to right. Two things are
left to the place where a tree stands, because code that is added to a file has
to fit that place: the indentation of a line is a `margin` leaf that stands for
whatever the blocks around it say, and a line may end in the file's usual line
ending without spelling it out.

Children stand in source order. A node never begins with blanks or comments:
those stand before it, in its parent. The comment lines above a statement are
the exception, being part of what the statement says about itself; they are its
`leading` child.

## Main definitions

* `Leaf`: A piece of text.
* `Kind`: What a node stands for.
* `Tree`: Leaves and nodes.
* `Layout`: The line ending and the indentation that a file uses.
* `Tree.render`: The source text of a tree.
-/

namespace EntryCoverage

namespace Source

/-- A piece of source text. -/
inductive Leaf
  /-- A word: a name, a keyword, a literal, an operator. -/
  | token (text : String)
  /-- Spaces, tabs and form feeds, with the line ends that a backslash joins. -/
  | blank (text : String)
  /-- A comment, from its sign to the end of the line. -/
  | comment (text : String)
  /-- A line end; without a text, the one that the file uses. -/
  | newline (text : Option String)
  /-- The indentation of the blocks around. -/
  | margin
deriving DecidableEq, Repr, Inhabited

/-- What a node stands for. -/
inductive Kind
  -- the parts of a file
  | module | header | footer | leading | gap | line | semicolon
  -- lines and the statements on them
  | simpleLine | suite
  /-- An indented block; without a text, indented as the file does. -/
  | block (indent : Option String)
  | expressionStatement | assignment | annotatedAssignment | augmentedAssignment
  | statement | importStatement | importFrom | typeAlias
  -- statements with a block, and the clauses that continue them
  | functionDef | classDef | ifStatement | forStatement | whileStatement | withStatement
  | tryStatement | tryStarStatement | matchStatement
  | decorator | elseClause | exceptClause | exceptStarClause | finallyClause | caseClause
  -- what stands in the heads of statements
  | typeParameters | parameters | parameter | starParameter | doubleStarParameter
  | slashMarker | typeNote | defaultValue | withItem | dottedName | importAlias
  | pattern | keywordPattern | starPattern | doubleStarPattern | patternEntry
  -- expressions
  | name | number | ellipsis | string | concatenated | formatted | field | conversion | spec
  | paren | tuple | list | braces | dictElement | comprehension | clause
  | starred | doubleStarred | keywordArgument
  | primary | attribute | call | subscript | slice
  | awaited | unary | arithmetic | comparison | boolean | conditional
  | lambda | walrus | yield
  -- what instrumentation adds
  | hookCall | sequenced | separator
deriving DecidableEq, Repr, Inhabited

/-- A stretch of source. -/
inductive Tree
  | leaf (leaf : Leaf)
  | node (kind : Kind) (children : List Tree)
deriving Inhabited

/-- The line ending and the indentation that a file uses. -/
structure Layout where
  newline : String := "\n"
  indent : String := "    "
deriving DecidableEq, Repr, Inhabited

/-- The indentation inside a node, given the one around it. -/
def Kind.marginWithin (layout : Layout) (margin : String) : Kind → String
  | .block indent => margin ++ indent.getD layout.indent
  | _ => margin

def Leaf.render (layout : Layout) (margin : String) : Leaf → String
  | .token text | .blank text | .comment text => text
  | .newline text => text.getD layout.newline
  | .margin => margin

/-- Whether a leaf only separates words. -/
def Leaf.isTrivia : Leaf → Bool
  | .token _ => false
  | _ => true

namespace Tree

mutual

/-- The text of a tree that stands at an indentation. -/
def render (layout : Layout) (margin : String) : Tree → String
  | .leaf l => l.render layout margin
  | .node kind children => renderAll layout (kind.marginWithin layout margin) children

/-- The text of trees in a row. -/
def renderAll (layout : Layout) (margin : String) : List Tree → String
  | [] => ""
  | t :: ts => t.render layout margin ++ renderAll layout margin ts

end

theorem renderAll_append (layout : Layout) (margin : String) (s t : List Tree) :
    renderAll layout margin (s ++ t) = renderAll layout margin s ++ renderAll layout margin t := by
  induction s with
  | nil => simp [renderAll]
  | cons x xs ih => simp [renderAll, ih, String.append_assoc]

/-- Whether a tree is a node of a kind. -/
def isKind (kind : Kind) : Tree → Bool
  | .node k _ => k == kind
  | .leaf _ => false

/-- A tree without the parentheses around it. -/
def unparenthesized : Tree → Tree
  | .node .paren children => inner children
  | t => t
where
  inner : List Tree → Tree
    | [] => .node .paren []
    | .leaf _ :: ts => inner ts
    | t :: _ => t.unparenthesized

/-- A word. -/
def word (text : String) : Tree := .leaf (.token text)

/-- A blank. -/
def space (text : String) : Tree := .leaf (.blank text)

end Tree

end Source

end EntryCoverage
