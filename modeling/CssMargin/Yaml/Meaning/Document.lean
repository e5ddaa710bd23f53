/-
# What a document stands for

References are followed, merge keys are taken up, and scalars are read.  Whatever is wrong is looked
for level by level: a collection is entered only when everything beside it has been looked at, so
that of two faults the one further out is reported.  Only then is the value put together, and
nothing can go wrong any more.

A node may contain a reference to itself.  Such a reference is followed down to the fourth level
below the top and stands for an empty collection beyond that.

A text is read in three steps: into tokens, into a tree, into a value.  A text that breaks the
rules anywhere is malformed, even if the broken part comes after something that names a value that
does not exist; only what stops the reader of tokens is judged where it stands.
-/
import CssMargin.Yaml.Meaning.Progress
import CssMargin.Yaml.Node.OfTokens
import CssMargin.Yaml.Token.Lexer
namespace CssMargin.Yaml

/-- The text of a node that is to be read as a scalar: that of a scalar, or of the value under the
default key of a mapping.  The search has no end where such a value leads back to its mapping. -/
def scalarText (names : Names) (c : Progress) : (fuel : Nat) → Node → Except Fault (List Point)
  | 0, _ => .error (.mishap .endless)
  | fuel + 1, node =>
    match node with
    | .scalar _ _ s => .ok s
    | .mapping name _ pairs =>
      -- the default keys of a mapping that has been merged are texts
      if name.any fun x => (c.pairs.lookup x).isSome then .error .malformed
      else
        match pairs.find? fun p => c.tagOf (names.follow p.1) == .kind .default with
        | some p => scalarText names c fuel (names.follow p.2)
        | none => .error .malformed
    | _ => .error .malformed

/-- Limits for following references, which depend only on the document. -/
structure Scope where
  /-- The named nodes. -/
  names : Names
  /-- The number of nodes. -/
  size : Nat

namespace Scope

/-- Fuel for the functions that follow references. -/
def fuel (s : Scope) : Nat := 2 * (s.size + 2) * (s.names.length + 2)

/-- Read a node that is no collection.  A date cannot stand under the default key of a mapping. -/
def read (s : Scope) (c : Progress) (n : Node) : Except Fault Reading := do
  match c.tagOf n with
  | .kind .merge | .kind .default | .kind .indicator | .unknown => .error .malformed
  | t => do
    let text ← scalarText s.names c s.fuel n
    if t = .kind .timestamp ∧ n.isMapping = true then .error (.mishap .mappingAsDate)
    else do
      let _ ← scalarValue t text
      .ok ⟨t, text⟩

/-! ### Looking for faults -/

/-- Look at a node from outside: a scalar is read, unless it has been read before, and a collection
is kept for the next level. -/
def inspect (s : Scope) (n : Node) (c : Progress) : Except Fault (List Node × Progress) := do
  let n := s.names.follow n
  if (c.tagOf n).isCollection then .ok ([n], c)
  else if n.name?.any fun x => (c.readings.lookup x).isSome then .ok ([], c)
  else do
    let r ← s.read c n
    .ok ([], c.setReading n r)

/-- Look at the items of a sequence. -/
def inspectItems (s : Scope) : List Node → Progress → Except Fault (List Node × Progress)
  | [], c => .ok ([], c)
  | n :: r, c => do
    let (inItem, c) ← s.inspect n c
    let (inRest, c) ← s.inspectItems r c
    .ok (inItem ++ inRest, c)

/-- Look at the pairs of a mapping or the members of a set; a collection is no key. -/
def inspectPairs (s : Scope) : List (Node × Node) → Progress → Except Fault (List Node × Progress)
  | [], c => .ok ([], c)
  | (k, v) :: r, c => do
    let (inKey, c) ← s.inspect k c
    if inKey.isEmpty then do
      let (inValue, c) ← s.inspect v c
      let (inRest, c) ← s.inspectPairs r c
      .ok (inValue ++ inRest, c)
    else .error .malformed

/-- Look at the single pairs of a list of pairs. -/
def inspectSingles (s : Scope) : List Node → Progress → Except Fault (List Node × Progress)
  | [], c => .ok ([], c)
  | n :: r, c =>
    match s.names.follow n with
    | .mapping name tag own =>
      match c.pairsOf (.mapping name tag own) with
      | [(k, v)] => do
        let (inKey, c) ← s.inspect k c
        let (inValue, c) ← s.inspect v c
        let (inRest, c) ← s.inspectSingles r c
        .ok (inKey ++ inValue ++ inRest, c)
      | _ => .error .malformed
    | _ => .error .malformed

/-- Look at what a collection contains, and return the collections in it. -/
def inspectInside (s : Scope) (n : Node) (c : Progress) : Except Fault (List Node × Progress) :=
  match c.tagOf n, n with
  | .seq, .sequence _ _ items => s.inspectItems items c
  | .omap, .sequence _ _ items | .pairs, .sequence _ _ items => s.inspectSingles items c
  | .map, .mapping name tag own | .set, .mapping name tag own => do
    let n : Node := .mapping name tag own
    let c ← takeUp s.names s.fuel n [] c
    s.inspectPairs (c.pairsOf n) c
  | _, _ => .error .malformed

/-- Look at what several collections contain. -/
def inspectAll (s : Scope) : List Node → Progress → Except Fault (List Node × Progress)
  | [], c => .ok ([], c)
  | n :: r, c => do
    let (inside, c) ← s.inspectInside n c
    let (inRest, c) ← s.inspectAll r c
    .ok (inside ++ inRest, c)

/-- The collections that have not been entered under their names before, and all names that have
been entered then. -/
def unseen : (seen : List String) → List Node → List Node × List String
  | seen, [] => ([], seen)
  | seen, n :: r =>
    match n.name? with
    | some x =>
      if seen.contains x then unseen seen r
      else
        let (ns, seen) := unseen (x :: seen) r
        (n :: ns, seen)
    | none =>
      let (ns, seen) := unseen seen r
      (n :: ns, seen)

/-- Look at collections level by level. -/
def inspectLevels (s : Scope) :
    (fuel : Nat) → (seen : List String) → List Node → Progress → Except Fault Progress
  | 0, _, _, c => .ok c
  | fuel + 1, seen, ns, c => do
    let (ns, seen) := unseen seen ns
    if ns.isEmpty then .ok c
    else
      let (inside, c) ← s.inspectAll ns c
      s.inspectLevels fuel seen inside c

/-- Look for faults in a whole document. -/
def check (s : Scope) (root : Node) : Except Fault Progress := do
  let (top, c) ← s.inspect root .start
  s.inspectLevels (s.size + 1) [] top c

/-! ### Putting the value together -/

/-- The level below which a node is not entered again from inside itself. -/
def deepest : Nat := 4

/-- The empty collection with a tag. -/
def emptyValue : Tag → Value
  | .map => .map []
  | .set => .set []
  | _ => .list []

/-- Put a member into a set. -/
def addMember (x : Value) (xs : List Value) : List Value :=
  if xs.any (·.sameKey x) then xs else xs ++ [x]

/-- How a node that is no collection was read. -/
def reading? (c : Progress) (n : Node) : Option Reading :=
  match n.name?, n with
  | some x, _ => c.readings.lookup x
  | none, .scalar _ tag text => some ⟨tag, text⟩
  | _, _ => none

/-- The value of a node that is no collection. -/
def leaf (c : Progress) (n : Node) : Value :=
  ((reading? c n).bind fun r => (scalarValue r.tag r.text).toOption).getD .null

/-- The value of a node on a level; `within` are the names of the nodes around it. -/
def value (s : Scope) (c : Progress) :
    (fuel level : Nat) → (within : List String) → Node → Value
  | 0, _, _, n => emptyValue (c.tagOf (s.names.follow n))
  | fuel + 1, level, within, n =>
    let n := s.names.follow n
    let tag := c.tagOf n
    if tag.isCollection then
      if deepest ≤ level ∧ n.name?.any within.contains then emptyValue tag
      else
        let inner := s.value c fuel (level + 1) (n.name?.toList ++ within)
        match tag, n with
        | .seq, .sequence _ _ items => .list (items.map inner)
        | .omap, .sequence _ _ items | .pairs, .sequence _ _ items =>
          .list (items.map fun i =>
            match c.pairsOf (s.names.follow i) with
            | (k, v) :: _ => .list [inner k, inner v]
            | _ => .null)
        | .set, n => .set ((c.pairsOf n).foldl (fun xs p => addMember (inner p.1) xs) [])
        | _, n => .map (Value.ofEntries ((c.pairsOf n).map fun p => (inner p.1, inner p.2)))
    else leaf c n

end Scope

/-- The value of a document. -/
def Node.meaning (root : Node) : Except Fault Value := do
  let s : Scope := ⟨root.named, root.size⟩
  let c ← s.check root
  .ok (s.value c ((s.size + 1) * (s.names.length + Scope.deepest + 1)) 0 [] root)

/-! ### Reading a text -/

/-- The tree of a text, with numbers; none when the text is empty. -/
def readNodes (s : List Char) : Except Fault (Option Node) :=
  if s.all isAllowed then
    let (ts, fault) := Token.ofText s
    match fault, Node.ofTokens ts with
    | none, .ok n => .ok (n.map fun root => (root.numbered 0).1)
    | some f, .error .exhausted => .error f
    | _, _ => .error .malformed
  else .error .malformed

/-- The value of a text; an empty text has the value `null`. -/
def read (s : List Char) : Except Fault Value := do
  match ← readNodes s with
  | none => .ok .null
  | some n => n.meaning

end CssMargin.Yaml
