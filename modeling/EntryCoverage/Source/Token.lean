import EntryCoverage.Source.Tree

/-!
# Tokens

What the grammar is about: words, and the shape that line ends and indentation
give to a file.

A word carries the blanks and comments before it. The shape is carried by five
other tokens. A logical line ends in a `newline`. Where the indentation changes
there is an `indent`, or a `dedent` for each block that ends, and then a
`lineStart` before the words of the next line. Lines with no words become part
of the token that they belong to: those that lie in a block that ends are that
block's footer, the others stand above the line that follows, or above the end
of the text.

## Main definitions

* `WordSort`: The sorts of words.
* `Token`: Words, line ends and indentation.
-/

namespace EntryCoverage

namespace Source

/-- The sorts of words. A literal with fields is several words: the text that
    opens it, stretches of text between its fields, and the quotes that close
    it; the words in a field are ordinary ones. -/
inductive WordSort
  | name | number | string | operator | literalStart | literalText | literalEnd
deriving DecidableEq, Repr

inductive Token
  | word (before : List Leaf) (sort : WordSort) (text : String)
  | newline (before : List Leaf) (ending : Leaf)
  /-- A block begins, with this indentation beyond that of the block around. -/
  | indent (extra : Option String)
  | dedent (footer : List Tree)
  | lineStart (above : List Tree)
  | endOfText (above : List Tree)
deriving Inhabited

/-- The words that are never names. -/
def reserved : List String :=
  ["False", "None", "True", "and", "as", "assert", "async", "await", "break", "class",
   "continue", "def", "del", "elif", "else", "except", "finally", "for", "from", "global",
   "if", "import", "in", "is", "lambda", "nonlocal", "not", "or", "pass", "raise", "return",
   "try", "while", "with", "yield"]

end Source

end EntryCoverage
