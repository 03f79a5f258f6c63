import EntryCoverage.Source.Peg

/-!
# The Grammar

The grammar of source files, and the conditions on what it reads that are easier
to say about trees.

The grammar goes only as far as instrumentation needs. Operators that differ in
how tightly they bind are read in one row where no question about the tree
depends on it, and targets are read as expressions and then looked at, so that
nothing has to be read twice. Conditions on the order of things, such as that of
the arguments of a call, are tests on the node that holds them.

## Main definitions

* `Rule`: The names of the rules.
* `isTarget`: An expression may be assigned to.
* `argumentsInOrder`, `parametersInOrder`, `patternsInOrder`: Lists in an order
  that calls, definitions and patterns admit.
* `grammar`: What each rule reads.
-/

namespace EntryCoverage

namespace Source

namespace Grammar

/-! ### Conditions on trees -/

/-- The nodes among trees in a row. -/
def nodes (ts : List Tree) : List Tree :=
  ts.filter fun | .node _ _ => true | .leaf _ => false

/-- Whether one of the trees is this word. -/
def hasWord (text : String) (ts : List Tree) : Bool :=
  ts.any fun | .leaf (.token found) => found == text | _ => false

def kindOf : Tree → Option Kind
  | .node kind _ => some kind
  | .leaf _ => none

/-- Whether the first of the trees that is more than a blank is this word. -/
def beginsWith (text : String) : List Tree → Bool
  | .leaf (.token found) :: _ => found == text
  | .leaf _ :: rest => beginsWith text rest
  | _ => false

/-- Whether a name is one of the constants, which cannot be assigned to. -/
def isConstantName (ts : List Tree) : Bool :=
  hasWord "True" ts || hasWord "False" ts || hasWord "None" ts

/-- Whether the trees of a primary end in an attribute or a subscript. -/
def endsInPlace (ts : List Tree) : Bool :=
  match ts.getLast? with
  | some (.node .attribute _) | some (.node .subscript _) => true
  | _ => false

mutual

/-- Whether an expression may be assigned to: a name, an attribute, a subscript,
    or a row of such in parentheses or brackets. With `stars`, items of a row may
    be starred. -/
def isTarget (stars : Bool) : Tree → Bool
  | .leaf _ => false
  | .node .name ts => !isConstantName ts
  | .node .primary ts => endsInPlace ts
  | .node .paren ts => areTargets stars false ts
  | .node .tuple ts | .node .list ts => areTargets stars stars ts
  | .node _ _ => false

/-- Whether all nodes in a row may be assigned to. -/
def areTargets (stars starred : Bool) : List Tree → Bool
  | [] => true
  | .leaf _ :: ts => areTargets stars starred ts
  | .node .starred inner :: ts =>
      starred && areTargets stars false inner && areTargets stars starred ts
  | t :: ts => isTarget stars t && areTargets stars starred ts

end

/-- Whether a tree may stand left of an assignment sign or after `for`. -/
def isTargetRow (t : Tree) : Bool := areTargets true true [t]

def isDeleteTarget (t : Tree) : Bool := isTarget false t

/-- Whether a tree may be annotated: a name, an attribute or a subscript. -/
def isAnnotatable : Tree → Bool
  | .node .name ts => !isConstantName ts
  | .node .primary ts => endsInPlace ts
  | _ => false

mutual

/-- Whether a tree may be assigned to with an operator: as for annotations, in
    parentheses or not. -/
def isAugmentable : Tree → Bool
  | .node .paren ts => areAugmentable ts
  | t => isAnnotatable t

def areAugmentable : List Tree → Bool
  | [] => true
  | .leaf _ :: ts => areAugmentable ts
  | t :: ts => isAugmentable t && areAugmentable ts

end

/-- Arguments come in three stretches: values, then values only by keyword or
    starred, and after a double star no longer starred. -/
def argumentsInOrderFrom : Nat → List Tree → Bool
  | _, [] => true
  | stage, .leaf _ :: ts => argumentsInOrderFrom stage ts
  | stage, .node .keywordArgument _ :: ts => argumentsInOrderFrom (max stage 1) ts
  | _, .node .doubleStarred _ :: ts => argumentsInOrderFrom 2 ts
  | stage, .node .starred _ :: ts => stage ≤ 1 && argumentsInOrderFrom stage ts
  | stage, _ :: ts => stage == 0 && argumentsInOrderFrom stage ts

/-- Whether the arguments of a call stand in an order that calls admit. A
    comprehension without parentheses of its own is the only argument. -/
def argumentsInOrder : Tree → Bool
  | .node _ ts =>
      argumentsInOrderFrom 0 ts &&
        (!(ts.any (·.isKind .comprehension)) || ((nodes ts).length == 1 && !hasWord "," ts))
  | .leaf _ => false

def basesInOrder : Tree → Bool
  | .node _ ts => argumentsInOrderFrom 0 ts && !(ts.any (·.isKind .comprehension))
  | .leaf _ => false

/-- Where a list of parameters stands. -/
structure ParameterState where
  /-- Parameters so far, before any star. -/
  plain : Nat := 0
  slash : Bool := false
  withDefault : Bool := false
  star : Bool := false
  /-- A star without a name still wants a parameter after it. -/
  wanting : Bool := false
  closed : Bool := false

/-- Whether the parameters of a definition stand in an order that definitions
    admit. -/
def parametersInOrderFrom : ParameterState → List Tree → Bool
  | s, [] => !s.wanting
  | s, .leaf _ :: ts => parametersInOrderFrom s ts
  | s, .node .slashMarker _ :: ts =>
      !s.slash && !s.star && !s.closed && 0 < s.plain &&
        parametersInOrderFrom { s with slash := true } ts
  | s, .node .starParameter inner :: ts =>
      !s.star && !s.closed &&
        parametersInOrderFrom
          { s with star := true, wanting := !(inner.any (·.isKind .name)) } ts
  | s, .node .doubleStarParameter _ :: ts =>
      !s.closed && !s.wanting && parametersInOrderFrom { s with closed := true } ts
  | s, .node _ inner :: ts =>
      let withDefault := inner.any (·.isKind .defaultValue)
      !s.closed && (s.star || withDefault || !s.withDefault) &&
        parametersInOrderFrom
          { s with
              plain := s.plain + 1
              withDefault := s.withDefault || withDefault
              wanting := false } ts

def parametersInOrder : Tree → Bool
  | .node _ ts => parametersInOrderFrom {} ts
  | .leaf _ => false

/-- Patterns by keyword come after the others. -/
def patternsInOrderFrom (keywords : Bool) : List Tree → Bool
  | [] => true
  | .leaf _ :: ts => patternsInOrderFrom keywords ts
  | .node .keywordPattern _ :: ts => patternsInOrderFrom true ts
  | _ :: ts => !keywords && patternsInOrderFrom keywords ts

def patternsInOrder : Tree → Bool
  | .node _ ts => patternsInOrderFrom false ts
  | .leaf _ => false

/-- A pattern for the remaining entries of a mapping is its last. -/
def restComesLast : Tree → Bool
  | .node _ ts => ((nodes ts).dropLast).all fun t => !t.isKind .doubleStarPattern
  | .leaf _ => false

/-- Braces hold entries or values, not both, and a comprehension only alone. -/
def bracesAgree : Tree → Bool
  | .node _ ts =>
      let items := nodes ts
      let isEntry (t : Tree) : Bool := t.isKind .dictElement || t.isKind .doubleStarred
      (items.all isEntry || items.all (!isEntry ·)) &&
        (!(items.any (·.isKind .comprehension)) || (items.length == 1 && !hasWord "," ts))
  | .leaf _ => false

/-- A comprehension in brackets stands there alone. -/
def comprehensionAlone : Tree → Bool
  | .node _ ts =>
      let items := nodes ts
      !(items.any (·.isKind .comprehension)) || (items.length == 1 && !hasWord "," ts)
  | .leaf _ => false

/-- Parentheses around a single starred expression are refused. -/
def noLoneStar : Tree → Bool
  | .node _ ts => !((nodes ts).any (·.isKind .starred))
  | .leaf _ => false

/-! ### Joints -/

/-- Whatever follows makes a node of this kind. -/
def growing (kind : Kind) (_ : Tree) : List Tree → Joint
  | [] => .apart
  | _ => .under kind

/-- A comprehension may follow any expression that is not starred, a comma any. -/
def itemJoint (first : Tree) (rest : List Tree) : Joint :=
  match nodes rest, rest with
  | _, [] => .apart
  | .node .clause _ :: _, _ =>
      if first.isKind .starred then .apart else .under .comprehension
  | _, _ => .under .tuple

/-- A colon in braces makes an entry, and clauses a comprehension. -/
def entryJoint (first : Tree) (rest : List Tree) : Joint :=
  if rest.isEmpty || (beginsWith ":" rest && first.isKind .walrus) then .apart
  else if rest.any (·.isKind .clause) then .under .comprehension
  else .under .dictElement

/-- A colon in a subscript makes a slice. -/
def sliceJoint (first : Tree) (rest : List Tree) : Joint :=
  if rest.isEmpty || first.isKind .walrus then .apart else .under .slice

/-- What an expression at the start of a statement turns out to be, by the sign
    after it. -/
def statementJoint (first : Tree) (rest : List Tree) : Joint :=
  if rest.isEmpty then .under .expressionStatement
  else if beginsWith "=" rest then
    if isTargetRow first then .under .assignment else .apart
  else if beginsWith ":" rest then
    if isAnnotatable first then .under .annotatedAssignment else .apart
  else if isAugmentable first then .under .augmentedAssignment
  else .apart

/-- A value after an assignment sign that another such sign follows is one more
    target. -/
def chainJoint (first : Tree) (rest : List Tree) : Joint :=
  if rest.isEmpty || !isTargetRow first then .apart else .beside

/-! ### Rules -/

/-- The rules that others, or they themselves, refer to. -/
inductive Rule
  | file | statementAlone | expressionAlone
  | statement | suite | smallStatement | ifRest
  | expression | expressions | named | disjunction | inversion | arithmetic | primary
  | clauses | assigned | literalPiece | parameters | pattern | patternRow
deriving DecidableEq

open Peg Rule

local instance : Coe Rule (Peg Rule) := ⟨.rule⟩

abbrev Phrase := Peg Rule

/-- Items with commas between them, and perhaps one after the last. -/
def row (item : Phrase) : Phrase := all [item, .many (all [",", item]), .optional ","]

/-- Items with commas between them. -/
def strictRow (item : Phrase) : Phrase := all [item, .many (all [",", item])]

/-- What follows the first item of a row. -/
def rowRest (item : Phrase) : Phrase :=
  all [.ahead ",", .many (all [",", item]), .optional ","]

/-- One item as it is, several as a tuple. -/
def tupled (item : Phrase) : Phrase := .extend (growing .tuple) item (rowRest item)

def identifier : Phrase := .node .name (.ofSort .name)

def starred : Phrase := .node .starred (all ["*", arithmetic])

/-! #### Expressions -/

def starredOr (p : Phrase) : Phrase := any [starred, p]

def yielded : Phrase :=
  .node .yield (all ["yield", any [all ["from", expression], .optional expressions]])

def comparisonOperator : Phrase :=
  any ["==", "!=", "<=", "<", ">=", ">", all ["not", "in"], "in",
    all ["is", .optional "not"]]

def binaryOperator : Phrase :=
  any ["+", "-", "*", "/", "//", "%", "@", "**", "|", "&", "^", "<<", ">>"]

def comparison : Phrase :=
  .extend (growing .comparison) arithmetic (many1 (all [comparisonOperator, arithmetic]))

def awaited : Phrase := any [.node .awaited (all ["await", primary]), primary]

def operand : Phrase :=
  any [.node .unary (all [many1 (any ["+", "-", "~"]), awaited]), awaited]

def strings : Phrase :=
  let piece : Phrase := any
    [.node .string (.ofSort .string),
     .node .formatted
      (all [.ofSort .literalStart, .many literalPiece, .ofSort .literalEnd])]
  .extend (growing .concatenated) piece (many1 piece)

/-- What may stand in parentheses. -/
def parenthesized : Phrase :=
  .such noLoneStar <| .node .paren <|
    all ["(",
      any [yielded,
        .extend itemJoint (starredOr named) (any [clauses, rowRest (starredOr named)])],
      ")"]

def bracketed : Phrase :=
  .such comprehensionAlone <| .node .list <|
    all ["[",
      .optional (row (.extend itemJoint (starredOr named) (.optional clauses))),
      "]"]

def braced : Phrase :=
  let entry : Phrase := any
    [.node .doubleStarred (all ["**", arithmetic]), starred,
     .extend entryJoint named (any [clauses, all [":", expression, .optional clauses]])]
  .such bracesAgree <| .node .braces <| all ["\x7b", .optional (row entry), "\x7d"]

def atom : Phrase :=
  any
    [identifier,
     .node .number (.ofSort .number),
     strings,
     .node .tuple (all ["(", ")"]),
     parenthesized,
     bracketed,
     braced,
     .node .name (any ["True", "False", "None"]),
     .node .ellipsis "..."]

/-- Arguments in parentheses. -/
def arguments (test : Tree → Bool) : Phrase :=
  let argument : Phrase := any
    [.node .keywordArgument (all [identifier, "=", expression]),
     .node .starred (all ["*", expression]),
     .node .doubleStarred (all ["**", expression]),
     .extend itemJoint named (.optional clauses)]
  .such test <| .node .call <| all ["(", .optional (row argument), ")"]

def subscript : Phrase :=
  let sliceRest : Phrase :=
    all [":", .optional expression, .optional (all [":", .optional expression])]
  let item : Phrase := any
    [.node .starred (all ["*", expression]),
     .node .slice sliceRest,
     .extend sliceJoint named (.optional sliceRest)]
  .node .subscript <| all ["[", row item, "]"]

def trailer : Phrase :=
  any [.node .attribute (all [".", identifier]), arguments argumentsInOrder, subscript]

/-! #### Parameters -/

/-- Parameters of a lambda, or with annotations those of a definition. -/
def parameterRow (annotated : Bool) : Phrase :=
  let note (p : Phrase) : Phrase :=
    if annotated then .optional (.node .typeNote (all [":", p])) else .empty
  let parameter : Phrase := any
    [.node .parameter
      (all [identifier, note expression,
        .optional (.node .defaultValue (all ["=", expression]))]),
     .node .slashMarker "/",
     .node .starParameter
      (all ["*", .optional (all [identifier, note (starredOr expression)])]),
     .node .doubleStarParameter (all ["**", identifier, note expression])]
  .such parametersInOrder <| .node .parameters (row parameter)

def lambda : Phrase :=
  .node .lambda (all ["lambda", .optional (parameterRow false), ":", expression])

def typeParameters : Phrase :=
  let bound : Phrase := .optional (all [":", expression])
  let fallback (p : Phrase) : Phrase := .optional (all ["=", p])
  let item : Phrase := any
    [.node .parameter (all [identifier, bound, fallback expression]),
     .node .starParameter (all ["*", identifier, fallback (starredOr expression)]),
     .node .doubleStarParameter (all ["**", identifier, fallback expression])]
  .node .typeParameters (all ["[", row item, "]"])

/-! #### Statements on one line -/

def augmentedSign : Phrase :=
  any ["+=", "-=", "*=", "/=", "//=", "%=", "@=", "&=", "|=", "^=", "<<=", ">>=", "**="]

/-- A value after an assignment sign. -/
def assignedValue : Phrase := any [yielded, expressions]

def expressionStatement : Phrase :=
  any
    [.node .expressionStatement yielded,
     .extend statementJoint expressions
      (any
        [all ["=", assigned],
         all [":", .node .typeNote expression, .optional (all ["=", assignedValue])],
         all [augmentedSign, assignedValue]])]

def dottedName : Phrase :=
  .extend (growing .dottedName) identifier (many1 (all [".", identifier]))

def importStatement : Phrase :=
  let item : Phrase :=
    .node .importAlias (all [dottedName, .optional (all ["as", identifier])])
  .node .importStatement (all ["import", strictRow item])

def importFrom : Phrase :=
  let item : Phrase :=
    .node .importAlias (all [identifier, .optional (all ["as", identifier])])
  let dots : Phrase := any ["...", "."]
  .node .importFrom
    (all ["from", any [all [.many dots, dottedName], many1 dots], "import",
      any ["*", all ["(", row item, ")"], strictRow item]])

/-- Statements that a keyword begins and that bind nothing a function could be
    named for. -/
def keywordStatement : Phrase :=
  .node .statement <| any
    ["pass", "break", "continue",
     all ["return", .optional expressions],
     all ["raise", .optional (all [expression, .optional (all ["from", expression])])],
     all ["assert", expression, .optional (all [",", expression])],
     all ["del", .such isDeleteTarget (tupled primary)],
     all ["global", strictRow identifier],
     all ["nonlocal", strictRow identifier]]

def typeAlias : Phrase :=
  .node .typeAlias (all ["type", identifier, .optional typeParameters, "=", expression])

/-- Statements with semicolons between them, to the end of the line. -/
def smallStatements : Phrase :=
  let semicolon : Phrase := .separator .semicolon ";"
  all [smallStatement, .many (all [semicolon, smallStatement]), .optional semicolon, .lineEnd]

/-! #### Statements with blocks -/

/-- The start of a statement or clause on a line of its own. -/
def opening : Phrase := all [.linesAbove .leading, .lineStart]

def decorators : Phrase :=
  let body : Phrase := all [.lineStart, "@", named, .lineEnd]
  all [.linesAbove .leading,
    .optional
      (all [.node .decorator body, .many (.node .decorator (all [.linesAbove .leading, body])),
        .linesAbove .gap]),
    .lineStart]

def functionDef : Phrase :=
  .node .functionDef
    (all [decorators, .optional "async", "def", identifier, .optional typeParameters,
      "(", .optional parameters, ")", .optional (.node .typeNote (all ["->", expression])),
      ":", suite])

def classDef : Phrase :=
  .node .classDef
    (all [decorators, "class", identifier, .optional typeParameters,
      .optional (arguments basesInOrder), ":", suite])

def elseClause : Phrase := .node .elseClause (all [opening, "else", ":", suite])

def ifStatement : Phrase :=
  .node .ifStatement (all [opening, "if", named, ":", suite, .optional ifRest])

def whileStatement : Phrase :=
  .node .whileStatement (all [opening, "while", named, ":", suite, .optional elseClause])

/-- Targets of a loop or a comprehension, which stop short of `in`. -/
def targets : Phrase :=
  .such isTargetRow (tupled (any [.node .starred (all ["*", primary]), primary]))

def forStatement : Phrase :=
  .node .forStatement
    (all [opening, .optional "async", "for", targets, "in", expressions, ":", suite,
      .optional elseClause])

def withStatement : Phrase :=
  let target : Phrase :=
    .such isTargetRow (any [.node .starred (all ["*", primary]), primary])
  let item : Phrase := .node .withItem (all [expression, .optional (all ["as", target])])
  .node .withStatement
    (all [opening, .optional "async", "with",
      any [all ["(", row item, ")", .ahead ":"], strictRow item], ":", suite])

/-- The kind of a `try` statement is that of its handlers, and there must be a
    handler or a clause for the end. -/
def tryJoint (_ : Tree) (rest : List Tree) : Joint :=
  if rest.isEmpty then .apart
  else if rest.any (·.isKind .exceptStarClause) then .under .tryStarStatement
  else .under .tryStatement

def tryStatement : Phrase :=
  let caught : Phrase := any [all [expression, "as", identifier], tupled expression]
  let exceptClause : Phrase :=
    .node .exceptClause (all [opening, "except", .optional caught, ":", suite])
  let exceptStarClause : Phrase :=
    .node .exceptStarClause (all [opening, "except", "*", caught, ":", suite])
  let finallyClause : Phrase := .node .finallyClause (all [opening, "finally", ":", suite])
  let handlers : Phrase := any [many1 exceptClause, many1 exceptStarClause]
  .such (fun t => t.isKind .tryStatement || t.isKind .tryStarStatement) <|
    .extend tryJoint (all [opening, "try", ":", suite])
      (any [all [handlers, .optional elseClause, .optional finallyClause], finallyClause])

def matchStatement : Phrase :=
  let subject : Phrase := .such (fun t => !t.isKind .starred) (tupled (starredOr named))
  let caseClause : Phrase :=
    .node .caseClause
      (all [opening, "case", patternRow, .optional (all ["if", named]), ":", suite])
  .node .matchStatement (all [opening, "match", subject, ":", .block (many1 caseClause)])

/-! #### Patterns -/

/-- A name in a pattern that stands for a value or a class: with no sign after it
    that would make it something else. -/
def captured : Phrase := all [.notAhead "_", identifier]

def starPattern : Phrase := .node .starPattern (all ["*", identifier])

def patternItem : Phrase := any [starPattern, pattern]

def literalPattern : Phrase :=
  let signed : Phrase := all [.optional "-", .node .number (.ofSort .number)]
  any
    [.node .pattern (all [signed, .optional (all [any ["+", "-"], .ofSort .number])]),
     strings,
     .node .name (any ["True", "False", "None"])]

def classPatternArguments : Phrase :=
  let item : Phrase := any [.node .keywordPattern (all [identifier, "=", pattern]), pattern]
  .such patternsInOrder <| .node .call <| all ["(", .optional (row item), ")"]

def mappingPattern : Phrase :=
  let key : Phrase := any [literalPattern, .such (·.isKind .dottedName) dottedName]
  let entry : Phrase := any
    [.node .patternEntry (all [key, ":", pattern]),
     .node .doubleStarPattern (all ["**", captured])]
  .such restComesLast <| .node .braces <| all ["\x7b", .optional (row entry), "\x7d"]

/-- Parentheses group one pattern or hold a sequence. -/
def parenthesizedPattern : Phrase :=
  .such (fun | .node _ ts => !((nodes ts).any (·.isKind .starPattern)) | .leaf _ => false) <|
    .node .paren <| all ["(", .optional (.extend (growing .tuple) patternItem (rowRest patternItem)), ")"]

def closedPattern : Phrase :=
  any
    [.extend (growing .primary) dottedName classPatternArguments,
     literalPattern,
     parenthesizedPattern,
     .node .list (all ["[", .optional (row patternItem), "]"]),
     mappingPattern]

/-! #### The whole -/

/-- What each rule reads. -/
def grammar : Rule → Phrase
  | file => .node .module (all [.linesAbove .header, .many statement, .endOfText .footer])
  | statementAlone => all [statement, .endOfText .footer]
  | expressionAlone =>
      all [.linesAbove .header, .lineStart, expressions, .lineEnd, .endOfText .footer]
  | statement =>
      any
        [functionDef, classDef, ifStatement, forStatement, whileStatement, withStatement,
         tryStatement, matchStatement, .node .simpleLine (all [opening, smallStatements])]
  | suite => any [.block (many1 statement), .node .suite smallStatements]
  | smallStatement =>
      any [keywordStatement, importStatement, importFrom, typeAlias, expressionStatement]
  | ifRest =>
      any
        [.node .ifStatement (all [opening, "elif", named, ":", suite, .optional ifRest]),
         elseClause]
  | expression =>
      any
        [lambda,
         .extend (growing .conditional) disjunction
          (all ["if", disjunction, "else", expression])]
  | expressions => tupled (starredOr expression)
  | named => any [.node .walrus (all [identifier, ":=", expression]), expression]
  | disjunction =>
      .extend (growing .boolean) inversion (many1 (all [any ["or", "and"], inversion]))
  | inversion => any [.node .unary (all ["not", inversion]), comparison]
  | arithmetic =>
      .extend (growing .arithmetic) operand (many1 (all [binaryOperator, operand]))
  | primary => .extend (growing .primary) atom (many1 trailer)
  | clauses =>
      many1 <| .node .clause <|
        all [.optional "async", "for", targets, "in", disjunction,
          .many (all ["if", disjunction])]
  | assigned => any [yielded, .extend chainJoint expressions (all ["=", assigned])]
  | literalPiece =>
      any
        [.ofSort .literalText,
         .node .field
          (all ["\x7b", assignedValue, .optional "=",
            .optional (.node .conversion (all ["!", any ["r", "s", "a"]])),
            .optional (all [":", .node .spec (.many literalPiece)]), "\x7d"])]
  | parameters => parameterRow true
  | pattern =>
      .extend (growing .pattern)
        (.extend (growing .pattern) closedPattern (many1 (all ["|", closedPattern])))
        (all ["as", captured])
  | patternRow => .such (fun t => !t.isKind .starPattern)
      (.extend (growing .tuple) patternItem (rowRest patternItem))

end Grammar

end Source

end EntryCoverage
