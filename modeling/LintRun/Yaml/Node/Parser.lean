import LintRun.Yaml.Node
import LintRun.Yaml.Token.Lexer

/-!
# Reading nodes

A text holds at most one document. The nodes of the document are read from its tokens by recursive
descent. An item, a key or a value that is missing counts as an empty plain scalar.

## Main definitions

* `Tags` says what the tag handles stand for, and `Tags.read` reads the directives.
* `readNode` reads a node.
* `parse` reads a text.

## Design notes

An anchor gets the number of names that are known when it comes. The number belongs to its name
from then on, also if the name had another number before. An alias gets the number that belongs to
its name where it stands.
-/

namespace LintRun.Yaml

/-- What the tag handles stand for. -/
abbrev Tags := List (List Char × List Char)

namespace Tags

/-- The handles that need no directive. -/
def standard : Tags :=
  [(['!'], ['!']), (['!', '!'], "tag:yaml.org,2002:".toList)]

/-- The tag that a handle and a suffix name. -/
def resolve? (tags : Tags) (handle suffix : List Char) : Option (List Char) :=
  if handle = [] then some suffix else (tags.lookup handle).map (· ++ suffix)

/-- Reads the directives in front of a document. There is at most one version, which is known, and
at most one meaning for a handle. -/
def read (hasVersion : Bool) (tags : Tags) : List Token → Option (Tags × List Token)
  | .version major minor :: rest =>
    if !hasVersion && major = 1 && (minor = 1 || minor = 2) then read true tags rest else none
  | .handle name meaning :: rest =>
    if (tags.lookup name).isNone then read hasVersion ((name, meaning) :: tags) rest else none
  | rest => some (tags, rest)

end Tags

/-- What is left to read, and the numbers of the anchors. -/
structure Reading where
  /-- The tokens to read. -/
  rest : List Token
  /-- The numbers of the names that are known. -/
  names : List (List Char × Nat) := []

/-- Reads tokens, or fails. -/
abbrev Read := StateT Reading Option

namespace Read

/-- The next token, if there is one. -/
def peek? : Read (Option Token) :=
  return (← get).rest.head?

/-- Drops the next token. -/
def drop : Read Unit :=
  modify fun r => { r with rest := r.rest.tail }

/-- Drops the next token if it is `token`, and says whether it was. -/
def accept (token : Token) : Read Bool := do
  if (← peek?) = some token then
    drop
    return true
  else return false

/-- Whether the next token is one of the given tokens. -/
def isAny (tokens : List Token) : Read Bool :=
  return (← peek?).any tokens.contains

/-- The number for the anchor of a new node. -/
def newAnchor (name : List Char) : Read Nat := do
  let r ← get
  let id := r.names.length
  set { r with names := (name, id) :: r.names.filter (·.1 ≠ name) }
  return id

/-- The number that belongs to the name of an anchor. -/
def anchorId (name : List Char) : Read Nat := do
  (← get).names.lookup name

/-- Reads the name of an anchor, if there is one. -/
def anchor? : Read (Option (List Char)) := do
  match ← peek? with
  | some (.anchor name) =>
    drop
    return some name
  | _ => return none

/-- Reads a tag, if there is one. -/
def tag? (tags : Tags) : Read (Option (List Char)) := do
  match ← peek? with
  | some (.tag handle suffix) =>
    drop
    return some (← tags.resolve? handle suffix)
  | _ => return none

/-- Reads the anchor and the tag of a node, which come in either order. -/
def properties (tags : Tags) : Read (Option (List Char) × Option (List Char)) := do
  let anchor ← anchor?
  let tag ← tag? tags
  let anchor := anchor.or (← if anchor.isNone && tag.isSome then anchor? else pure none)
  return (anchor, tag)

end Read

/-- The node with an anchor, if it has one. -/
def withAnchor (id? : Option Nat) (node : Node) : Node :=
  match id? with
  | some id => .anchor id node
  | none => node

/-- The scalar with a tag. A single exclamation mark is no tag of a scalar that is there. -/
def taggedScalar (tag? : Option (List Char)) (style : ScalarStyle) (text : List Char) : Node :=
  .scalar (tag?.filter (· ≠ ['!'])) style text

/-- The scalar that stands where there is an anchor or a tag and nothing else. Any tag stays. -/
def emptyScalar (tag? : Option (List Char)) : Node :=
  .scalar tag? .plain []

mutual

/-- Reads a node in at most `steps` steps. Blocks open only where `inBlock` says so, and the items
of a block without indentation of its own only where `asItems` says so. -/
def readNode (tags : Tags) (inBlock asItems : Bool) (steps : Nat) : Read Node :=
  match steps with
  | 0 => failure
  | steps + 1 => do
    if let some (.reference name) ← Read.peek? then
      Read.drop
      return .reference (← Read.anchorId name)
    let (anchor, tag) ← Read.properties tags
    let id? ← anchor.mapM Read.newAnchor
    match ← Read.peek? with
    | some .dash =>
      if asItems then return withAnchor id? (.sequence (← readPlainItems tags steps))
      else if id?.isSome || tag.isSome then return withAnchor id? (emptyScalar tag)
      else failure
    | some (.scalar style text) =>
      Read.drop
      return withAnchor id? (taggedScalar tag style text)
    | some .leftBracket =>
      Read.drop
      return withAnchor id? (.sequence (← readFlowItems tags true steps))
    | some .leftBrace =>
      Read.drop
      return withAnchor id? (.mapping (← readFlowMembers tags true steps))
    | token =>
      if inBlock && token = some .itemBlock then
        Read.drop
        return withAnchor id? (.sequence (← readItems tags steps))
      else if inBlock && token = some .memberBlock then
        Read.drop
        return withAnchor id? (.mapping (← readMembers tags steps))
      else if id?.isSome || tag.isSome then return withAnchor id? (emptyScalar tag)
      else failure

/-- Reads a node unless it is missing, which one of the tokens `ends` shows. -/
def readOptional (tags : Tags) (inBlock asItems : Bool) (ends : List Token) (steps : Nat) :
    Read Node :=
  match steps with
  | 0 => failure
  | steps + 1 => do
    if ← Read.isAny ends then return .missing else readNode tags inBlock asItems steps

/-- Reads the items of a block up to its end. -/
def readItems (tags : Tags) (steps : Nat) : Read (List Node) :=
  match steps with
  | 0 => failure
  | steps + 1 => do
    if ← Read.accept .blockEnd then return []
    if !(← Read.accept .dash) then failure
    let item ← readOptional tags true false [.dash, .blockEnd] steps
    return item :: (← readItems tags steps)

/-- Reads the items of a block without indentation of its own. -/
def readPlainItems (tags : Tags) (steps : Nat) : Read (List Node) :=
  match steps with
  | 0 => failure
  | steps + 1 => do
    if !(← Read.accept .dash) then return []
    let item ← readOptional tags true false [.dash, .key, .value, .blockEnd] steps
    return item :: (← readPlainItems tags steps)

/-- Reads the members of a block up to its end. -/
def readMembers (tags : Tags) (steps : Nat) : Read (List (Node × Node)) :=
  match steps with
  | 0 => failure
  | steps + 1 => do
    if ← Read.accept .blockEnd then return []
    if !(← Read.accept .key) then failure
    let key ← readOptional tags true true [.key, .value, .blockEnd] steps
    let value ←
      if ← Read.accept .value then readOptional tags true true [.key, .value, .blockEnd] steps
      else pure .missing
    return (key, value) :: (← readMembers tags steps)

/-- Reads the items of a sequence in brackets. A comma stands in front of every item but the
first, and one may stand at the end. -/
def readFlowItems (tags : Tags) (isFirst : Bool) (steps : Nat) : Read (List Node) :=
  match steps with
  | 0 => failure
  | steps + 1 => do
    if ← Read.accept .rightBracket then return []
    if !isFirst then
      if !(← Read.accept .comma) then failure
      if ← Read.accept .rightBracket then return []
    let item ←
      if ← Read.accept .key then readPair tags steps else readNode tags false false steps
    return item :: (← readFlowItems tags false steps)

/-- Reads an item that is a single member. If its key is missing, the token behind the question mark
is dropped. -/
def readPair (tags : Tags) (steps : Nat) : Read Node :=
  match steps with
  | 0 => failure
  | steps + 1 => do
    let key ←
      if ← Read.isAny [.value, .comma, .rightBracket] then
        Read.drop
        pure .missing
      else readNode tags false false steps
    let value ←
      if ← Read.accept .value then readOptional tags false false [.comma, .rightBracket] steps
      else pure .missing
    return .mapping [(key, value)]

/-- Reads the members of a mapping in braces. A comma stands in front of every member but the
first, and one may stand at the end. -/
def readFlowMembers (tags : Tags) (isFirst : Bool) (steps : Nat) : Read (List (Node × Node)) :=
  match steps with
  | 0 => failure
  | steps + 1 => do
    if ← Read.accept .rightBrace then return []
    if !isFirst then
      if !(← Read.accept .comma) then failure
      if ← Read.accept .rightBrace then return []
    let member ←
      if ← Read.accept .key then do
        let key ← readOptional tags false false [.value, .comma, .rightBrace] steps
        let value ←
          if ← Read.accept .value then readOptional tags false false [.comma, .rightBrace] steps
          else pure .missing
        pure (key, value)
      else do
        pure (← readNode tags false false steps, .missing)
    return member :: (← readFlowMembers tags false steps)

end

/-- Reads the content of a document that was marked at its start. It may be missing. -/
def readContent (tags : Tags) (steps : Nat) : Read Node := do
  match ← Read.peek? with
  | none | some .dashes | some .dots | some (.version ..) | some (.handle ..) => return .missing
  | _ => readNode tags true false steps

/-- Reads the document, of which the mark may be missing if no directive comes. -/
def readDocument (tokens : List Token) : Option (Node × List Token) := do
  let steps := 4 * tokens.length + 4
  let content ←
    match tokens with
    | [] => return (.missing, [])
    | .version .. :: _ | .handle .. :: _ | .dashes :: _ =>
      let (tags, rest) ← Tags.read false [] tokens
      match rest with
      | .dashes :: rest => (readContent (tags ++ Tags.standard) steps).run { rest }
      | _ => none
    | _ => (readNode Tags.standard true false steps).run { rest := tokens }
  return (content.1, content.2.rest)

/-- Reads a text. A text without a document counts as an empty one. -/
def parse (text : String) : Option Node := do
  let (root, rest) ← readDocument (← tokens? text)
  if rest.all (· = .dots) then return root else none

end LintRun.Yaml
