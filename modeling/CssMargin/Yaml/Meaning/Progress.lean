/-
# What changes while a value is put together

The merge key `<<` of a mapping is taken up when the mapping is first needed: the pairs that it
brings in are put in front of the others, and the key is gone.  The default key `=` becomes a text
then.  Both changes stay, for whoever uses the mapping, or the key under a name, from then on.  What
has become of the nodes is kept by their names: a mapping that may change has one.

A mapping may be merged into itself, directly or through others.  What is merged is then what is
left of it at that moment, as its keys are taken up one after the other.
-/
import CssMargin.Yaml.Meaning.Scalar
import CssMargin.Yaml.Node
namespace CssMargin.Yaml

/-- The named nodes of a document. -/
abbrev Names := List (String × Node)

/-- The node that a reference stands for; any other node stands for itself. -/
def Names.follow (names : Names) : Node → Node
  | .alias n => (names.lookup n).getD .blank
  | n => n

/-- How a node is read as a scalar. -/
structure Reading where
  /-- The tag. -/
  tag : Tag
  /-- The text. -/
  text : List Point

/-- What has become of the named nodes. -/
structure Progress where
  /-- The pairs of mappings that have changed. -/
  pairs : List (String × List (Node × Node))
  /-- The default keys that have become texts. -/
  texts : List String
  /-- How nodes were read as scalars. -/
  readings : List (String × Reading)

namespace Progress

/-- Nothing has changed. -/
def start : Progress := ⟨[], [], []⟩

/-- The tag of a node. -/
def tagOf (c : Progress) (n : Node) : Tag :=
  if n.name?.any c.texts.contains then .kind .text else n.tag

/-- The pairs of a mapping. -/
def pairsOf (c : Progress) : Node → List (Node × Node)
  | .mapping name _ pairs => (name.bind fun x => c.pairs.lookup x).getD pairs
  | _ => []

/-- Change the pairs of a mapping. -/
def setPairs (n : Node) (pairs : List (Node × Node)) (c : Progress) : Progress :=
  match n.name? with
  | some x => { c with pairs := (x, pairs) :: c.pairs }
  | none => c

/-- Make a default key a text. -/
def setText (n : Node) (c : Progress) : Progress :=
  { c with texts := n.name?.toList ++ c.texts }

/-- Keep how a node was read. -/
def setReading (n : Node) (r : Reading) (c : Progress) : Progress :=
  match n.name? with
  | some x => { c with readings := (x, r) :: c.readings }
  | none => c

end Progress

/-! ### Taking up keys -/

/-- Whether a key is a merge key or a default key. -/
def takesPart (names : Names) (c : Progress) (p : Node × Node) : Bool :=
  let t := c.tagOf (names.follow p.1)
  t == .kind .merge || t == .kind .default

mutual

/-- Take up the merge keys and the default keys of a mapping in their order; `merged` are the pairs
that have been brought in so far. -/
def takeUp (names : Names) :
    (fuel : Nat) → Node → (merged : List (Node × Node)) → Progress → Except Fault Progress
  | 0, _, _, _ => .error .malformed
  | fuel + 1, n, merged, c =>
    let before := (c.pairsOf n).takeWhile fun p => !takesPart names c p
    match (c.pairsOf n).drop before.length with
    | [] => .ok (c.setPairs n (merged ++ before))
    | (k, v) :: after =>
      let k := names.follow k
      if c.tagOf k = .kind .merge then do
        let (brought, c) ← bringIn names fuel (names.follow v) (c.setPairs n (before ++ after))
        takeUp names fuel n (merged ++ brought) c
      else
        takeUp names fuel n merged
          ((c.setText k).setPairs n (before ++ (k.withTag (.kind .text), v) :: after))

/-- Take up the keys of what stands under a merge key: a mapping, or the mappings of a sequence, of
which the last one comes first.  The pairs that it brings in are returned. -/
def bringIn (names : Names) :
    (fuel : Nat) → Node → Progress → Except Fault (List (Node × Node) × Progress)
  | 0, _, _ => .error .malformed
  | fuel + 1, n, c =>
    match n with
    | .mapping .. => do
      let c ← takeUp names fuel n [] c
      .ok (c.pairsOf n, c)
    | .sequence _ _ items =>
      items.foldlM (fun (pairs, c) item =>
        match names.follow item with
        | .mapping name tag own => do
          let c ← takeUp names fuel (.mapping name tag own) [] c
          .ok (c.pairsOf (.mapping name tag own) ++ pairs, c)
        | _ => .error .malformed) ([], c)
    | _ => .error .malformed

end

end CssMargin.Yaml
