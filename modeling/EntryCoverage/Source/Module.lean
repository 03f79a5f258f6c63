import EntryCoverage.Source.Grammar
import EntryCoverage.Source.Lexer

/-!
# Files as Trees

Reading a whole source text, and writing it again.

A file's layout is read off the file: its line ending is that of its first line,
its indentation that of its first block. A line end is always part of a
statement, so a file that does not end in one gets it in its tree, and loses it
again when it is written.

## Main definitions

* `Module`: A file's tree, layout, and whether it ends in a line end.
* `Module.parse?`: The tree of a text.
* `Module.render`: The text of a tree.
* `statement?`, `expression?`: Trees of a single statement or expression.
* `Tree.renderAlone`: The text of a tree apart from any file.
-/

namespace EntryCoverage

namespace Source

/-- A source file. -/
structure Module where
  tree : Tree
  layout : Layout := {}
  endsWithNewline : Bool := true
deriving Inhabited

/-- The indentation of the first block of a file, if it has one. -/
def firstIndent : List Token → Option String
  | [] => none
  | .indent extra :: _ => extra
  | _ :: ts => firstIndent ts

/-- A block that is indented as the file usually is needs no text for that. -/
def Token.withUsualIndent (usual : String) : Token → Token
  | .indent extra => .indent (if extra == some usual then none else extra)
  | t => t

/-- How deep expressions may call on each other for each token of a text. Between
    two tokens the grammar goes far less deep. -/
def depthPerToken : Nat := 1024

/-- The trees that a rule reads from a text, and the layout of the text. -/
def read? (rule : Grammar.Rule) (cs : List Char) : Option (List Tree × Layout) := do
  let tokens ← Lexer.tokens? cs
  let layout : Layout :=
    { newline := String.ofList (Lexer.usualNewline cs)
      indent := (firstIndent tokens).getD ({} : Layout).indent }
  let tokens := tokens.map (·.withUsualIndent layout.indent)
  match Peg.run Grammar.grammar (depthPerToken * (tokens.length + 1)) (.rule rule) tokens with
  | some (trees, []) => some (trees, layout)
  | _ => none

/-- A text without the mark that some editors put at its start. -/
def withoutMark : List Char → List Char
  | '\ufeff' :: cs => cs
  | cs => cs

/-- Whether a text ends in a line feed that counts as the end of a line, not being
    joined by a backslash. -/
def endsInNewline (cs : List Char) : Bool :=
  match cs.reverse with
  | '\n' :: '\\' :: _ | '\n' :: '\r' :: '\\' :: _ => false
  | '\n' :: _ => true
  | _ => false

/-- A text without the line end at its end. -/
def dropNewline (cs : List Char) : List Char :=
  match cs.reverse with
  | '\n' :: '\r' :: rest | '\n' :: rest | '\r' :: rest => rest.reverse
  | _ => cs

/-- The tree of a text, or none if the text does not follow the grammar. -/
def Module.parse? (text : String) : Option Module := do
  let cs := withoutMark text.toList
  let (trees, layout) ← read? .file cs
  some ⟨trees.headD default, layout, endsInNewline cs⟩

def Module.render (m : Module) : String :=
  let text := m.tree.render m.layout ""
  if m.endsWithNewline then text else String.ofList (dropNewline text.toList)

/-- A file of one statement, in the default layout. -/
def Module.ofStatement (t : Tree) : Module := { tree := .node .module [t] }

/-- The last node among trees in a row. -/
def lastNode (ts : List Tree) : Option Tree :=
  (Grammar.nodes ts).getLast?

/-- The tree of a text that is one statement. -/
def statement? (text : String) : Option Tree := do
  let (trees, _) ← read? .statementAlone (withoutMark text.toList)
  (Grammar.nodes trees).head?

/-- The tree of a text that is one expression on a line. -/
def expression? (text : String) : Option Tree := do
  let (trees, _) ← read? .expressionAlone (withoutMark text.toList)
  (Grammar.nodes trees)[1]?

end Source

end EntryCoverage
