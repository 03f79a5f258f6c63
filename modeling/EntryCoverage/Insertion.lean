import EntryCoverage.Hook
import EntryCoverage.Naming

/-!
# Inserting Calls

Where a call goes. In the body of a defined function it is the first statement, or
the second one after a docstring, so that the docstring stays what it is. If other
statements share the docstring's line, they move to a line of their own. The body
of a lambda becomes a pair of the call and that body, of which the last is taken.

A file with calls imports the hook's module before anything but its docstring and
its `__future__` imports, unless it has that import somewhere at its top level.

## Main definitions

* `isDocstring`: A small statement is a bare string.
* `insertIntoBody?`: A function's body with a call.
* `insertIntoLambda?`: A lambda with a call.
* `insertCalls`: A tree with calls in its functions.
* `injectImport`: A file's tree with the hook's import.
-/

namespace EntryCoverage

open Source

/-- Whether an expression is a string or strings in a row, in parentheses or not. -/
def isStringExpression (t : Tree) : Bool :=
  match t.unparenthesized with
  | .node .string _ | .node .concatenated _ => true
  | _ => false

/-- Whether a small statement is a bare string. -/
def isDocstring : Tree → Bool
  | .node .expressionStatement ts => (Grammar.nodes ts).any isStringExpression
  | _ => false

/-- Whether a part of a line is a small statement. -/
def isSmallStatement : Tree → Bool
  | .node .leading _ | .node .semicolon _ | .node .separator _ | .leaf _ => false
  | .node _ _ => true

/-- The small statements on a line. -/
def smallStatements (ts : List Tree) : List Tree := ts.filter isSmallStatement

/-- Whether a statement is a line that begins with a bare string. -/
def startsWithDocstring : Tree → Bool
  | .node .simpleLine ts => (smallStatements ts).head?.any isDocstring
  | _ => false

/-- The parts of a line up to its first small statement, and those after it. -/
def splitAfterFirst : List Tree → List Tree × List Tree
  | [] => ([], [])
  | t :: ts =>
      if isSmallStatement t then ([t], ts)
      else
        let (before, after) := splitAfterFirst ts
        (t :: before, after)

/-- The parts of a line after a semicolon, if that is what comes first. -/
def afterSemicolon? : List Tree → Option (Tree × List Tree)
  | t :: ts => if t.isKind .semicolon then some (t, ts) else none
  | [] => none

/-- A line that begins with a docstring, cut after it: the docstring on a line of its
    own and, if there was more, a line of the rest. -/
def cutAfterDocstring : Tree → Tree × Option Tree
  | .node .simpleLine ts =>
      if (smallStatements ts).length ≤ 1 then (.node .simpleLine ts, none)
      else
        let (first, rest) := splitAfterFirst ts
        let rest := (afterSemicolon? rest).elim rest (·.2)
        (.node .simpleLine (first ++ [.leaf (.newline none)]),
          some (.node .simpleLine (.node .leading [] :: .leaf .margin :: rest)))
  | t => (t, none)

/-- The statements of a block with a call. -/
def insertIntoBlock (call : Tree) : List Tree → List Tree
  | [] => [Hook.lineOf (Hook.callStatement call)]
  | .leaf l :: ts => .leaf l :: insertIntoBlock call ts
  | t :: ts =>
      let line := Hook.lineOf (Hook.callStatement call)
      if startsWithDocstring t then
        let (docstring, rest) := cutAfterDocstring t
        docstring :: line :: rest.toList ++ ts
      else line :: t :: ts

/-- What stands between a call and the small statement next to it. -/
def separator : Tree := .node .separator [.word ";", .space " "]

/-- The statements on a function's own line with a call. -/
def insertIntoSuite (call : Tree) (ts : List Tree) : List Tree :=
  let statement := Hook.callStatement call
  let (first, rest) := splitAfterFirst ts
  if !(first.getLast?.any isDocstring) then statement :: separator :: ts
  else match afterSemicolon? rest with
    | none => first ++ separator :: statement :: rest
    | some (semicolon, rest) =>
        if rest.any isSmallStatement then
          first ++ semicolon :: statement :: separator :: rest
        else first ++ semicolon :: statement :: rest

/-- A function's body with a call; none for what is no body. -/
def insertIntoBody? (call : Tree) : Tree → Option Tree
  | .node (.block indent) ts => some (.node (.block indent) (insertIntoBlock call ts))
  | .node .suite ts => some (.node .suite (insertIntoSuite call ts))
  | _ => none

/-- The pair of a call and an expression, of which the last is taken. -/
def sequenced (call body : Tree) : Tree :=
  .node .sequenced
    [.word "(", call, .word ",", .space " ", body, .word ")", .word "[", .word "-",
     .word "1", .word "]"]

/-- Changes the last of trees in a row. -/
def mapLast (f : Tree → Tree) : List Tree → List Tree
  | [] => []
  | [t] => [f t]
  | t :: ts => t :: mapLast f ts

/-- A function with a call. -/
def insertCall (call : Tree) (kind : Kind) (children : List Tree) : Tree :=
  match kind with
  | .functionDef =>
      .node .functionDef (mapLast (fun body => (insertIntoBody? call body).getD body) children)
  | .lambda => .node .lambda (mapLast (sequenced call) children)
  | _ => .node kind children

mutual

/-- A tree with calls in its functions, inner ones first, and the calls that are
    left. A function whose turn holds no call stays as it is. -/
def insertCalls : Tree → List (Option Tree) → Tree × List (Option Tree)
  | .leaf l, calls => (.leaf l, calls)
  | .node kind children, calls =>
      let (children, calls) := insertCallsAll children calls
      if kind = .functionDef ∨ kind = .lambda then
        match calls with
        | some call :: calls => (insertCall call kind children, calls)
        | none :: calls => (.node kind children, calls)
        | [] => (.node kind children, [])
      else (.node kind children, calls)

def insertCallsAll : List Tree → List (Option Tree) → List Tree × List (Option Tree)
  | [], calls => ([], calls)
  | t :: ts, calls =>
      let (t, calls) := insertCalls t calls
      let (ts, calls) := insertCallsAll ts calls
      (t :: ts, calls)

end

mutual

/-- An expression with a call, if it is a lambda, in parentheses or not, or decides
    between two expressions, the first of which is then its body. -/
def insertIntoLambda? (call : Tree) : Tree → Option Tree
  | .node .lambda children => some (insertCall call .lambda children)
  | .node .conditional (body :: rest) => some (.node .conditional (sequenced call body :: rest))
  | .node .paren children => (insertIntoFirst? call children).map (.node .paren)
  | _ => none

def insertIntoFirst? (call : Tree) : List Tree → Option (List Tree)
  | [] => none
  | .leaf l :: ts => (insertIntoFirst? call ts).map (.leaf l :: ·)
  | t :: ts => (insertIntoLambda? call t).map (· :: ts)

end

/-! ### The import -/

/-- Whether a line is a docstring and nothing else. -/
def isDocstringLine : Tree → Bool
  | .node .simpleLine ts =>
      match smallStatements ts with
      | [small] => isDocstring small
      | _ => false
  | _ => false

/-- Whether a small statement imports from `__future__`. -/
def isFutureImport : Tree → Bool
  | .node .importFrom ts =>
      match Grammar.nodes ts with
      | .node .name inner :: _ => Naming.firstWord? inner == some "__future__"
      | _ => false
  | _ => false

/-- Whether a line has an import from `__future__`. -/
def isFutureLine : Tree → Bool
  | .node .simpleLine ts => (smallStatements ts).any isFutureImport
  | _ => false

/-- Whether a part of a file is a statement. -/
def isStatement : Tree → Bool
  | .node .header _ | .node .footer _ | .leaf _ => false
  | .node _ _ => true

/-- Puts a line after the lines at the start that must stay first; `first` says that
    no statement came before. -/
def insertLine (line : Tree) : Bool → List Tree → List Tree
  | _, [] => [line]
  | first, t :: ts =>
      if isStatement t then
        if (first && isDocstringLine t) || isFutureLine t then t :: insertLine line false ts
        else line :: t :: ts
      else if t.isKind .footer then line :: t :: ts
      else t :: insertLine line first ts

/-- The parts of a file with the import of the hook's module. -/
def injectImport (hookNamespace : String) (parts : List Tree) : List Tree :=
  let line := Hook.importLine hookNamespace
  if (parts.filter isStatement).any fun t => Naming.renderAlone t == Naming.renderAlone line
  then parts
  else insertLine line true parts

/-- A file with the import of the hook's module. -/
def Source.Module.injectImport (m : Source.Module) (hookNamespace : String) : Source.Module :=
  match m.tree with
  | .node kind parts => { m with tree := .node kind (EntryCoverage.injectImport hookNamespace parts) }
  | .leaf _ => m

end EntryCoverage
