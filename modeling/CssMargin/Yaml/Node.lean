/-
# Nodes

The tree that the tokens of a document describe.  A node may have a name, and another place of the
tree may refer to it; the reference stands in the tree as such.

While the value of a document is put together some mappings change, and a change made in one place
shows wherever the mapping is used.  So that each of these mappings can be told from all others,
those without a name are numbered: the number behind an asterisk, which no name has, is their name.
-/
import CssMargin.Yaml.Tag
namespace CssMargin.Yaml

/-- A node of a document. -/
inductive Node where
  /-- A scalar with its tag and text. -/
  | scalar (name : Option String) (tag : Tag) (text : List Point)
  /-- A sequence. -/
  | sequence (name : Option String) (tag : Tag) (items : List Node)
  /-- A mapping. -/
  | mapping (name : Option String) (tag : Tag) (pairs : List (Node × Node))
  /-- A reference to a named node. -/
  | alias (name : String)
deriving Inhabited

namespace Node

/-- The name of a node. -/
def name? : Node → Option String
  | .scalar n _ _ | .sequence n _ _ | .mapping n _ _ => n
  | .alias _ => none

/-- The tag of a node; a reference has none of its own. -/
def tag : Node → Tag
  | .scalar _ t _ | .sequence _ t _ | .mapping _ t _ => t
  | .alias _ => .unknown

/-- Whether a node is a mapping. -/
def isMapping : Node → Bool
  | .mapping .. => true
  | _ => false

/-- A node with another tag; a reference keeps that of its target. -/
def withTag (t : Tag) : Node → Node
  | .scalar n _ text => .scalar n t text
  | .sequence n _ items => .sequence n t items
  | .mapping n _ pairs => .mapping n t pairs
  | .alias n => .alias n

/-- A scalar that is not written. -/
def blank : Node := .scalar none (.kind .null) []

mutual

/-- The number of nodes of a tree. -/
def size : Node → Nat
  | .scalar .. => 1
  | .sequence _ _ items => 1 + sizeItems items
  | .mapping _ _ pairs => 1 + sizePairs pairs
  | .alias _ => 1

/-- The number of nodes of the items of a sequence. -/
def sizeItems : List Node → Nat
  | [] => 0
  | n :: r => n.size + sizeItems r

/-- The number of nodes of the pairs of a mapping. -/
def sizePairs : List (Node × Node) → Nat
  | [] => 0
  | (k, v) :: r => k.size + v.size + sizePairs r

end

mutual

/-- The named nodes of a tree. -/
def named : Node → List (String × Node)
  | .scalar n t s => (n.map (·, Node.scalar n t s)).toList
  | .sequence n t items => (n.map (·, Node.sequence n t items)).toList ++ namedItems items
  | .mapping n t pairs => (n.map (·, Node.mapping n t pairs)).toList ++ namedPairs pairs
  | .alias _ => []

/-- The named nodes among the items of a sequence. -/
def namedItems : List Node → List (String × Node)
  | [] => []
  | n :: r => n.named ++ namedItems r

/-- The named nodes among the pairs of a mapping. -/
def namedPairs : List (Node × Node) → List (String × Node)
  | [] => []
  | (k, v) :: r => k.named ++ v.named ++ namedPairs r

end

/-! ### Numbers for mappings -/

/-- Whether a key may be one that brings in other pairs or stands for the mapping itself. -/
def mayTakePart : Node → Bool
  | .alias _ => true
  | n => n.tag == .kind .merge || n.tag == .kind .default

/-- Whether a mapping may change: it has such a key, or it is not to be read as a collection. -/
def mayChange (tag : Tag) (pairs : List (Node × Node)) : Bool :=
  !tag.isCollection || pairs.any fun p => p.1.mayTakePart

mutual

/-- A tree with numbers, from a given one on, for the mappings that may change and have no name;
and the next number. -/
def numbered : (next : Nat) → Node → Node × Nat
  | next, .scalar n t s => (.scalar n t s, next)
  | next, .sequence n t items =>
    let (items, next) := numberedItems next items
    (.sequence n t items, next)
  | next, .mapping n t pairs =>
    let (inner, next) := numberedPairs next pairs
    if n.isNone && mayChange t pairs then
      (.mapping (some ("*" ++ toString next)) t inner, next + 1)
    else (.mapping n t inner, next)
  | next, .alias n => (.alias n, next)

/-- The items of a sequence with numbers. -/
def numberedItems : (next : Nat) → List Node → List Node × Nat
  | next, [] => ([], next)
  | next, n :: r =>
    let (n, next) := n.numbered next
    let (r, next) := numberedItems next r
    (n :: r, next)

/-- The pairs of a mapping with numbers. -/
def numberedPairs : (next : Nat) → List (Node × Node) → List (Node × Node) × Nat
  | next, [] => ([], next)
  | next, (k, v) :: r =>
    let (k, next) := k.numbered next
    let (v, next) := v.numbered next
    let (r, next) := numberedPairs next r
    ((k, v) :: r, next)

end

end Node

end CssMargin.Yaml
