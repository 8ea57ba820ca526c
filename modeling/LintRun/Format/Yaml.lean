import LintRun.Format.Basic
import LintRun.Yaml.Node.Parser

/-!
# Reading YAML documents

Any scalar is a text. It is a number or a truth value if it is plain and has the right form, or if
it is a literal block that is tagged as one. An empty plain scalar stands for an empty list, mapping
or record, and for a missing value.

## Main definitions

* `natural?`, `integer?` and `flag?` read the texts of scalars.
* `Resolving` is the monad in which nodes are read.

## Design notes

Aliases are followed while a document is read, so a small document can stand for a large one. The
number of aliases that may be followed is therefore bounded by the size of the document.
-/

namespace LintRun.Yaml

/-! ## Texts of scalars -/

/-- The value of a digit in a base up to sixteen. -/
def digitIn? (base : Nat) (c : Char) : Option Nat :=
  (hexDigit? c).filter (· < base)

/-- The value of one or more digits in a base up to sixteen. -/
def digitsIn? (base : Nat) (digits : List Char) : Option Nat :=
  if digits = [] then none
  else digits.foldlM (fun n c => (digitIn? base c).map (base * n + ·)) 0

/-- The value of digits behind a mark for their base, or of decimal digits without a zero in
front. -/
def magnitude? : List Char → Option Nat
  | '0' :: 'x' :: digits => digitsIn? 16 digits
  | '0' :: 'o' :: digits => digitsIn? 8 digits
  | '0' :: 'b' :: digits => digitsIn? 2 digits
  | '0' :: _ :: _ => none
  | digits => digitsIn? 10 digits

/-- The value of the text of a natural number, which may have a plus in front. -/
def natural? : List Char → Option Nat
  | '+' :: s => magnitude? s
  | s => magnitude? s

/-- The value of the text of an integer, which may have a sign in front. -/
def integer? : List Char → Option Int
  | '-' :: s => (magnitude? s).map fun n => -(n : Int)
  | s => (natural? s).map fun n => (n : Int)

/-- The value of the text of a truth value. -/
def flag? (s : List Char) : Option Bool :=
  if ["true", "True", "TRUE"].contains (String.ofList s) then some true
  else if ["false", "False", "FALSE"].contains (String.ofList s) then some false
  else none

/-- Whether a text names the missing value. -/
def isNull (s : List Char) : Bool :=
  ["~", "null", "Null", "NULL"].contains (String.ofList s)

/-- The tag of a type that every document may name. -/
def standardTag (name : String) : List Char :=
  "tag:yaml.org,2002:".toList ++ name.toList

/-! ## Aliases -/

/-- What has to be known about the document around a node. -/
structure Resolution where
  /-- The whole document. -/
  root : Node
  /-- The number of aliases that may still be followed. -/
  left : Nat

/-- Reads nodes, or fails. -/
abbrev Resolving := StateT Resolution Option

/-- The number of aliases that may be followed for every part of a document. -/
def followsPerPart : Nat := 100

/-- Reads a document. -/
def readRoot {α : Type} (read : Node → Resolving α) (root : Node) : Option α :=
  ((read root).run ⟨root, followsPerPart * root.size⟩).map Prod.fst

/-- A node without its anchor. -/
def bare : Node → Node
  | .anchor _ node => bare node
  | node => node

/-- The node that a node stands for: the node itself, or the one that an alias refers to. -/
def resolve (node : Node) : Resolving Node := do
  match bare node with
  | .reference id =>
    let r ← get
    if r.left = 0 then failure
    set { r with left := r.left - 1 }
    return bare (← r.root.anchored? id)
  | node => return node

/-! ## Nodes -/

/-- Whether a scalar can be of the type with the given name. -/
def canBe (name : String) (tag? : Option (List Char)) (style : ScalarStyle) : Bool :=
  match style with
  | .plain => true
  | .literal => tag? = some (standardTag name)
  | _ => false

/-- The text of a scalar that can be of the type with the given name. -/
def scalarText (name : String) (node : Node) : Resolving (List Char) := do
  match ← resolve node with
  | .scalar tag? style text => if canBe name tag? style then return text else failure
  | _ => failure

/-- The text of a scalar. -/
def textOf (node : Node) : Resolving String := do
  match ← resolve node with
  | .scalar _ _ text => return String.ofList text
  | _ => failure

/-- The node itself, unless it is a plain scalar that is empty or names the missing value. A tag
makes a scalar present, except for the tag of the missing value, which no other scalar may have. -/
def present? (node : Node) : Resolving (Option Node) := do
  match ← resolve node with
  | .scalar none .plain text =>
    if text = [] ∨ isNull text then return none else return some node
  | .scalar (some tag) .plain text =>
    if tag ≠ standardTag "null" then return some node
    else if isNull text then return none
    else failure
  | _ => return some node

/-- The items of a sequence. -/
def itemsOf (node : Node) : Resolving (List Node) := do
  match ← resolve node with
  | .sequence items => return items
  | .scalar _ .plain [] => return []
  | _ => failure

/-- The keys and values of a mapping. -/
def membersOf (node : Node) : Resolving (List (String × Node)) := do
  match ← resolve node with
  | .mapping members => members.mapM fun (key, value) => return (← textOf key, value)
  | .scalar _ .plain [] => return []
  | _ => failure

instance : Refusing Resolving where
  refuse := failure

instance : Format Node Resolving where
  text := textOf
  natural max node := do
    let n ← natural? (← scalarText "int" node)
    if n ≤ max then return n else failure
  integer min max node := do
    let i ← integer? (← scalarText "int" node)
    if min ≤ i ∧ i ≤ max then return i else failure
  flag node := do flag? (← scalarText "bool" node)
  present := present?
  items := itemsOf
  members := membersOf
  fields names node := do
    let members ← membersOf node
    names.mapM fun name => fieldNamed? members name

end LintRun.Yaml
