import LintRun.Yaml.Token.Block
import LintRun.Yaml.Token.Name
import LintRun.Yaml.Token.Plain

/-!
# Reading tokens

The tokens of a document are read from left to right. Two of them stand in front of text that was
read already: the key of a mapping is recognised by the colon behind it, and a block of members
opens in front of its first key. The lexer remembers where a key may have started and puts the
tokens there when it meets the colon.

## Main definitions

* `Lexer` is what is known after some tokens.
* `Lexer.step` reads the next token.
* `tokens?` reads a whole text.

## Design notes

A key stands on one line and is not longer than `longestKey` characters. In a block, a scalar that
stands at the column of the block has to be a key, so it is an error if no colon comes.
-/

namespace LintRun.Yaml

/-- A place where a key may have started. -/
structure PendingKey where
  /-- Whether the block has no other use for it than a key. -/
  isRequired : Bool
  /-- The number of tokens in front. -/
  position : Nat
  /-- The first character. -/
  spot : Spot

/-- What is known after some tokens. -/
structure Lexer where
  /-- The text behind the tokens. -/
  rest : List Spot
  /-- The tokens. -/
  tokens : Array Token := #[]
  /-- The columns of the open blocks, with the innermost first. The text itself is at `-1`. -/
  columns : List Int := [-1]
  /-- Whether a key may start here. -/
  allowsKey : Bool := true
  /-- The place where a key may have started, at each level of brackets, innermost first. -/
  keys : List (Option PendingKey) := [none]

namespace Lexer

/-- The greatest distance from the start of a key to its colon. -/
def longestKey : Nat := 1024

/-- Whether brackets or braces are open. -/
def inFlow (l : Lexer) : Bool :=
  l.keys.length > 1

/-- The column of the innermost block. -/
def column (l : Lexer) : Int :=
  l.columns.headD (-1)

/-- Adds a token. -/
def add (token : Token) (l : Lexer) : Lexer :=
  { l with tokens := l.tokens.push token }

/-- Goes on behind `count` characters. -/
def skip (count : Nat) (l : Lexer) : Lexer :=
  { l with rest := l.rest.drop count }

/-- Says whether a key may start here. -/
def allow (allowsKey : Bool) (l : Lexer) : Lexer :=
  { l with allowsKey }

/-- Skips blanks, comments and byte order marks at the start of a line. A tab is not skipped where
it might indent a block. A line break outside of brackets lets a key start. -/
def skipBlank (inFlow : Bool) : Bool → Bool → List Spot → Bool × List Spot
  | allowsKey, _, [] => (allowsKey, [])
  | allowsKey, inComment, s :: rest =>
    if s.isBreak then skipBlank inFlow (allowsKey || !inFlow) false rest
    else if inComment then skipBlank inFlow allowsKey true rest
    else if s.char = '#' then skipBlank inFlow allowsKey true rest
    else if s.char = ' ' || (s.char = '\t' && (inFlow || !allowsKey)) ||
        (s.char = byteOrderMark && s.column = 0) then
      skipBlank inFlow allowsKey false rest
    else (allowsKey, s :: rest)

/-- Goes on at the next token. -/
def toToken (l : Lexer) : Lexer :=
  let (allowsKey, rest) := skipBlank l.inFlow l.allowsKey false l.rest
  { l with allowsKey, rest }

/-! ## Keys -/

/-- Whether no colon at `s` can belong to a key any more. -/
def PendingKey.isStale (s : Spot) (key : PendingKey) : Bool :=
  key.spot.line < s.line || key.spot.index + longestKey < s.index

/-- Forgets the keys that are too far away from `s`. -/
def dropStale (s : Spot) (l : Lexer) : Option Lexer := do
  let keys ← l.keys.mapM fun
    | some key =>
      if PendingKey.isStale s key then if key.isRequired then none else some none
      else some (some key)
    | none => some none
  return { l with keys }

/-- Forgets the key of the innermost level. -/
def dropKey (l : Lexer) : Option Lexer :=
  match l.keys with
  | some key :: keys => if key.isRequired then none else some { l with keys := none :: keys }
  | _ => some l

/-- Remembers that a key may start at `s`. -/
def saveKey (s : Spot) (l : Lexer) : Option Lexer :=
  if l.allowsKey then do
    let isRequired := !l.inFlow && l.column == s.column
    let l ← l.dropKey
    return { l with keys := some ⟨isRequired, l.tokens.size, s⟩ :: l.keys.tail }
  else some l

/-! ## Blocks -/

/-- Opens a block at a column that is inside of the innermost block. Its token is put in front of
the token at `position`. -/
def openBlock (column position : Nat) (token : Token) (l : Lexer) : Lexer :=
  if !l.inFlow && l.column < column then
    { l with
      columns := (column : Int) :: l.columns
      tokens := l.tokens.insertIdxIfInBounds position token }
  else l

/-- Closes the blocks that are inside of a column. -/
def closeBlocks (column : Int) (l : Lexer) : Lexer :=
  if l.inFlow then l
  else
    let (inner, columns) := l.columns.span (column < ·)
    { l with columns, tokens := l.tokens ++ inner.map fun _ => Token.blockEnd }

/-! ## Tokens -/

/-- Reads a directive, behind which no block is open. -/
def takeDirective (rest : List Spot) (l : Lexer) : Option Lexer := do
  let l ← (l.closeBlocks (-1)).dropKey
  let (token, rest) ← readDirective rest
  return { l.add token with rest, allowsKey := false }

/-- Takes the mark at the start or the end of a document. -/
def takeMark (token : Token) (l : Lexer) : Option Lexer := do
  let l ← (l.closeBlocks (-1)).dropKey
  return (l.add token).skip 3 |>.allow false

/-- Takes a left bracket or brace, which may start a key itself. -/
def takeOpening (s : Spot) (token : Token) (l : Lexer) : Option Lexer := do
  let l ← l.saveKey s
  return { l.add token with keys := none :: l.keys }.skip 1 |>.allow true

/-- Takes a right bracket or brace. -/
def takeClosing (token : Token) (l : Lexer) : Option Lexer := do
  let l ← l.dropKey
  let keys := if l.inFlow then l.keys.tail else l.keys
  return { l.add token with keys }.skip 1 |>.allow false

/-- Takes a comma. -/
def takeComma (l : Lexer) : Option Lexer := do
  return (← l.dropKey).add .comma |>.skip 1 |>.allow true

/-- Takes a dash in front of an item. -/
def takeDash (s : Spot) (l : Lexer) : Option Lexer := do
  if !l.inFlow && !l.allowsKey then none
  let l ← (l.openBlock s.column l.tokens.size .itemBlock).dropKey
  return (l.add .dash).skip 1 |>.allow true

/-- Takes a question mark in front of a key. -/
def takeKey (s : Spot) (l : Lexer) : Option Lexer := do
  if !l.inFlow && !l.allowsKey then none
  let l ← (l.openBlock s.column l.tokens.size .memberBlock).dropKey
  return (l.add .key).skip 1 |>.allow !l.inFlow

/-- Takes a colon in front of a value. If a key may have started at an earlier place, it has. -/
def takeValue (s : Spot) (l : Lexer) : Option Lexer :=
  match l.keys with
  | some key :: keys =>
    let l := { l with
      keys := none :: keys
      tokens := l.tokens.insertIdxIfInBounds key.position Token.key }
    let l := l.openBlock key.spot.column key.position .memberBlock
    some ((l.add .value).skip 1 |>.allow false)
  | _ =>
    if !l.inFlow && !l.allowsKey then none
    else
      let l := l.openBlock s.column l.tokens.size .memberBlock
      some ((l.add .value).skip 1 |>.allow !l.inFlow)

/-- Takes a token that belongs to a node, together with the text behind it. -/
def takeNode (s : Spot) (read? : Option (Token × List Spot)) (l : Lexer) : Option Lexer := do
  let l ← l.saveKey s
  let (token, rest) ← read?
  return { l.add token with rest, allowsKey := false }

/-- Takes a block scalar. -/
def takeBlock (folds : Bool) (rest : List Spot) (l : Lexer) : Option Lexer := do
  let l ← l.dropKey
  let (text, rest) ← readBlock folds l.column rest
  let style := if folds then ScalarStyle.folded else .literal
  return { l.add (.scalar style text) with rest, allowsKey := true }

/-- Takes a plain scalar. -/
def takePlain (s : Spot) (l : Lexer) : Option Lexer := do
  let l ← l.saveKey s
  let scalar ← readPlain l.inFlow (l.column + 1) l.rest
  return { l.add (.scalar .plain scalar.text) with
    rest := scalar.rest
    allowsKey := scalar.endsLine }

/-- Whether a plain scalar may start with `s` in front of `rest`. -/
def startsPlain (inFlow : Bool) (s : Spot) (rest : List Spot) : Bool :=
  if s.char = '-' then !rest.head?.any Spot.isGap
  else if s.char = '?' || s.char = ':' then !inFlow && !endsWord rest
  else !s.isBlank && !",[]{}#&*!|>'\"%@`".toList.contains s.char

/-- Takes the token that starts with the character `s` in front of `rest`. -/
def take (s : Spot) (rest : List Spot) (l : Lexer) : Option Lexer :=
  let indicates := l.inFlow || endsWord rest
  if s.char = '%' && s.column = 0 then l.takeDirective rest
  else if isMark '-' l.rest then l.takeMark .dashes
  else if isMark '.' l.rest then l.takeMark .dots
  else if s.char = '[' then l.takeOpening s .leftBracket
  else if s.char = '{' then l.takeOpening s .leftBrace
  else if s.char = ']' then l.takeClosing .rightBracket
  else if s.char = '}' then l.takeClosing .rightBrace
  else if s.char = ',' then l.takeComma
  else if s.char = '-' && endsWord rest then l.takeDash s
  else if s.char = '?' && indicates then l.takeKey s
  else if s.char = ':' && indicates then l.takeValue s
  else if s.char = '*' then
    l.takeNode s ((readAnchor rest).map fun (name, rest) => (.reference name, rest))
  else if s.char = '&' then
    l.takeNode s ((readAnchor rest).map fun (name, rest) => (.anchor name, rest))
  else if s.char = '!' then l.takeNode s (readTag l.inFlow rest)
  else if s.char = '|' && !l.inFlow then l.takeBlock false rest
  else if s.char = '>' && !l.inFlow then l.takeBlock true rest
  else if s.char = '\'' || s.char = '"' then
    l.takeNode s ((readQuoted s.char rest).map fun (text, rest) => (.scalar .quoted text, rest))
  else if startsPlain l.inFlow s rest then l.takePlain s
  else none

/-- Reads the next token, in front of which open blocks may close. -/
def step (s : Spot) (rest : List Spot) (l : Lexer) : Option Lexer := do
  let l ← l.dropStale s
  (l.closeBlocks s.column).take s rest

/-- Closes the blocks at the end of the text. -/
def finish (l : Lexer) : Option (List Token) := do
  return (← (l.closeBlocks (-1)).dropKey).tokens.toList

/-- Reads the tokens in at most `steps` steps. -/
def run (steps : Nat) (l : Lexer) : Option (List Token) :=
  let l := l.toToken
  match steps, l.rest with
  | _, [] => l.finish
  | 0, _ :: _ => none
  | steps + 1, s :: rest => do (← l.step s rest).run steps

end Lexer

/-- The tokens of a text. -/
def tokens? (text : String) : Option (List Token) := do
  let spots ← spots? text
  Lexer.run (spots.length + 1) { rest := spots }

end LintRun.Yaml
