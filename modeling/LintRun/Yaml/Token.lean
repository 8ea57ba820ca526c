/-!
# Tokens

A document is a list of tokens. The indentation of blocks is made explicit: a block that opens and
one that closes have tokens of their own, and so has the key of every mapping.
-/

namespace LintRun.Yaml

/-- How a scalar is written. -/
inductive ScalarStyle where
  /-- Without quotes. -/
  | plain
  /-- Between single or double quotes. -/
  | quoted
  /-- As a block that keeps its line breaks. -/
  | literal
  /-- As a block whose line breaks are folded. -/
  | folded
  deriving DecidableEq, Repr

/-- The smallest units of a document. -/
inductive Token where
  /-- The version of the language. -/
  | version (major minor : Nat)
  /-- A handle for tags and the text it stands for. -/
  | handle (name meaning : List Char)
  /-- Three dashes in front of a document. -/
  | dashes
  /-- Three dots behind a document. -/
  | dots
  /-- A block of items opens. -/
  | itemBlock
  /-- A block of members opens. -/
  | memberBlock
  /-- A block closes. -/
  | blockEnd
  /-- A left bracket. -/
  | leftBracket
  /-- A right bracket. -/
  | rightBracket
  /-- A left brace. -/
  | leftBrace
  /-- A right brace. -/
  | rightBrace
  /-- A comma between brackets or braces. -/
  | comma
  /-- A dash in front of an item. -/
  | dash
  /-- A key follows. -/
  | key
  /-- The value of a key follows. -/
  | value
  /-- A reference to the node with an anchor. -/
  | reference (name : List Char)
  /-- The anchor of the node that follows. -/
  | anchor (name : List Char)
  /-- The tag of the node that follows. -/
  | tag (handle suffix : List Char)
  /-- A scalar. -/
  | scalar (style : ScalarStyle) (text : List Char)
  deriving DecidableEq, Repr

end LintRun.Yaml
