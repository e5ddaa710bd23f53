/-
# From tokens to a tree

Each construct of the notation is read by a function of its own, which takes tokens from the front
and hands on the others together with the names given so far.  A name may be given once, and a
reference has to follow the name.  When the tokens end before the end of the text, a fault in the
text behind them is to be reported; this is told apart from a construct that breaks the rules.
-/
import CssMargin.Yaml.Node
import CssMargin.Yaml.Token
namespace CssMargin.Yaml

/-- Why tokens describe no tree. -/
inductive Stop where
  /-- They break the rules. -/
  | malformed
  /-- There are too few of them. -/
  | exhausted
deriving DecidableEq, Repr

/-- Tokens still to be read and the names given so far. -/
structure Feed where
  /-- The tokens. -/
  tokens : List Token
  /-- The names. -/
  names : List String

/-- Properties in front of a node. -/
structure Properties where
  /-- The name. -/
  name : Option String
  /-- The tag. -/
  tag : Option TagText

/-- Read a name and a tag, in either order. -/
def readProperties (ts : List Token) : Properties × List Token :=
  match ts with
  | .anchor n :: .tag t :: r => (⟨some n, some t⟩, r)
  | .tag t :: .anchor n :: r => (⟨some n, some t⟩, r)
  | .anchor n :: r => (⟨some n, none⟩, r)
  | .tag t :: r => (⟨none, some t⟩, r)
  | r => (⟨none, none⟩, r)

/-- The tag of a scalar: the one written, or the kind of its text when it stands without quotes or
has the tag `!`, or else a text. -/
def scalarTag (tag : Option String) (plain : Bool) (text : List Point) : Tag :=
  match tag with
  | none => .kind (if plain then Kind.ofText (text.map Point.face) else .text)
  | some "!" => .kind (Kind.ofText (text.map Point.face))
  | some t => Tag.ofText t

/-- The tag of a collection: the one written, or the usual one. -/
def collectionTag (usual : Tag) : Option String → Tag
  | none | some "!" => usual
  | some t => Tag.ofText t

/-- Give a name to a node. -/
def Feed.give (name : Option String) (f : Feed) : Except Stop Feed :=
  match name with
  | none => .ok f
  | some n => if f.names.contains n then .error .malformed else .ok { f with names := n :: f.names }

/-- Whether the next token is one of some. -/
def Feed.peek (p : Token → Bool) (f : Feed) : Except Stop Bool :=
  match f.tokens with
  | [] => .error .exhausted
  | t :: _ => .ok (p t)

/-- Whether a token ends the key or the value of a block mapping. -/
def endsBlockPart (t : Token) : Bool := t == .key || t == .value || t == .blockEnd

/-- Whether a token ends an item of a block sequence. -/
def endsBlockItem (t : Token) : Bool := t == .blockEntry || t == .blockEnd

/-- Whether a token ends an item in brackets or braces. -/
def endsFlowPart (closing t : Token) : Bool := t == .flowEntry || t == closing

mutual

/-- Read a node.  Block collections are admitted only outside brackets, and a sequence without
indentation of its own only as a value of a block mapping. -/
def readNode (handles : Handles) (block indentless : Bool) :
    (fuel : Nat) → Feed → Except Stop (Node × Feed)
  | 0, _ => .error .malformed
  | fuel + 1, f =>
    match f.tokens with
    | [] => .error .exhausted
    | .alias n :: r =>
      if f.names.contains n then .ok (.alias n, { f with tokens := r }) else .error .malformed
    | ts => do
      let (props, ts) := readProperties ts
      let tag ← match props.tag with
        | none => Except.ok none
        | some t =>
          match t.resolve? handles with
          | some s => .ok (some s)
          | none => if ts.isEmpty then .error .exhausted else .error .malformed
      let f : Feed := { f with tokens := ts }
      match ts with
      | [] => .error .exhausted
      | .scalar text plain :: r => do
        let f ← f.give props.name
        .ok (.scalar props.name (scalarTag tag plain text) text, { f with tokens := r })
      | .flowSequenceStart :: r => do
        let f ← f.give props.name
        let (items, f) ← readFlowItems handles true fuel { f with tokens := r }
        .ok (.sequence props.name (collectionTag .seq tag) items, f)
      | .flowMappingStart :: r => do
        let f ← f.give props.name
        let (pairs, f) ← readFlowPairs handles true fuel { f with tokens := r }
        .ok (.mapping props.name (collectionTag .map tag) pairs, f)
      | t :: r =>
        if t = .blockEntry ∧ indentless = true then do
          let f ← f.give props.name
          let (items, f) ← readIndentless handles fuel f
          .ok (.sequence props.name (collectionTag .seq tag) items, f)
        else if t = .blockSequenceStart ∧ block = true then do
          let f ← f.give props.name
          let (items, f) ← readBlockItems handles fuel { f with tokens := r }
          .ok (.sequence props.name (collectionTag .seq tag) items, f)
        else if t = .blockMappingStart ∧ block = true then do
          let f ← f.give props.name
          let (pairs, f) ← readBlockPairs handles fuel { f with tokens := r }
          .ok (.mapping props.name (collectionTag .map tag) pairs, f)
        -- properties with nothing behind them are those of an empty scalar
        else if props.name.isSome || props.tag.isSome then do
          let f ← f.give props.name
          .ok (.scalar props.name (scalarTag tag true []) [], f)
        else .error .malformed

/-- Read a node, or nothing when the next token ends the part it would be. -/
def readPart (handles : Handles) (block indentless : Bool) (ends : Token → Bool) :
    (fuel : Nat) → Feed → Except Stop (Node × Feed)
  | 0, _ => .error .malformed
  | fuel + 1, f => do
    if ← f.peek ends then .ok (.blank, f) else readNode handles block indentless fuel f

/-- Read the items of a block sequence and its end. -/
def readBlockItems (handles : Handles) : (fuel : Nat) → Feed → Except Stop (List Node × Feed)
  | 0, _ => .error .malformed
  | fuel + 1, f =>
    match f.tokens with
    | [] => .error .exhausted
    | .blockEntry :: r => do
      let (n, f) ← readPart handles true false endsBlockItem fuel { f with tokens := r }
      let (ns, f) ← readBlockItems handles fuel f
      .ok (n :: ns, f)
    | .blockEnd :: r => .ok ([], { f with tokens := r })
    | _ => .error .malformed

/-- Read the items of a sequence without indentation of its own. -/
def readIndentless (handles : Handles) : (fuel : Nat) → Feed → Except Stop (List Node × Feed)
  | 0, _ => .error .malformed
  | fuel + 1, f =>
    match f.tokens with
    | [] => .error .exhausted
    | .blockEntry :: r => do
      let ends (t : Token) : Bool := t == .blockEntry || endsBlockPart t
      let (n, f) ← readPart handles true false ends fuel { f with tokens := r }
      let (ns, f) ← readIndentless handles fuel f
      .ok (n :: ns, f)
    -- it has no token for its end
    | _ => .ok ([], f)

/-- Read the value of a pair, which is nothing when there is no colon. -/
def readValuePart (handles : Handles) (block : Bool) (ends : Token → Bool) :
    (fuel : Nat) → Feed → Except Stop (Node × Feed)
  | 0, _ => .error .malformed
  | fuel + 1, f =>
    match f.tokens with
    | [] => .error .exhausted
    | .value :: r => readPart handles block block ends fuel { f with tokens := r }
    | _ => .ok (.blank, f)

/-- Read the pairs of a block mapping and its end. -/
def readBlockPairs (handles : Handles) :
    (fuel : Nat) → Feed → Except Stop (List (Node × Node) × Feed)
  | 0, _ => .error .malformed
  | fuel + 1, f =>
    match f.tokens with
    | [] => .error .exhausted
    | .key :: r => do
      let (k, f) ← readPart handles true true endsBlockPart fuel { f with tokens := r }
      let (v, f) ← readValuePart handles true endsBlockPart fuel f
      let (rest, f) ← readBlockPairs handles fuel f
      .ok ((k, v) :: rest, f)
    | .blockEnd :: r => .ok ([], { f with tokens := r })
    | _ => .error .malformed

/-- Read the items in brackets and the closing bracket; a single pair without braces is a mapping
of its own. -/
def readFlowItems (handles : Handles) (first : Bool) :
    (fuel : Nat) → Feed → Except Stop (List Node × Feed)
  | 0, _ => .error .malformed
  | fuel + 1, f =>
    match f.tokens with
    | [] => .error .exhausted
    | .flowSequenceEnd :: r => .ok ([], { f with tokens := r })
    | t :: r => do
      if first = false ∧ t ≠ .flowEntry then .error .malformed
      else
        let f : Feed := if first then f else { f with tokens := r }
        match f.tokens with
        | [] => .error .exhausted
        | .flowSequenceEnd :: r => .ok ([], { f with tokens := r })
        | .key :: r => do
          let ends := endsFlowPart .flowSequenceEnd
          let (k, f) ← readPart handles false false (fun t => t == .value || ends t) fuel
            { f with tokens := r }
          let (v, f) ← readValuePart handles false ends fuel f
          let (ns, f) ← readFlowItems handles false fuel f
          .ok (.mapping none .map [(k, v)] :: ns, f)
        | _ => do
          let (n, f) ← readNode handles false false fuel f
          let (ns, f) ← readFlowItems handles false fuel f
          .ok (n :: ns, f)

/-- Read the pairs in braces and the closing brace; a node without a colon is a key. -/
def readFlowPairs (handles : Handles) (first : Bool) :
    (fuel : Nat) → Feed → Except Stop (List (Node × Node) × Feed)
  | 0, _ => .error .malformed
  | fuel + 1, f =>
    match f.tokens with
    | [] => .error .exhausted
    | .flowMappingEnd :: r => .ok ([], { f with tokens := r })
    | t :: r => do
      if first = false ∧ t ≠ .flowEntry then .error .malformed
      else
        let f : Feed := if first then f else { f with tokens := r }
        match f.tokens with
        | [] => .error .exhausted
        | .flowMappingEnd :: r => .ok ([], { f with tokens := r })
        | .key :: r => do
          let ends := endsFlowPart .flowMappingEnd
          let (k, f) ← readPart handles false false (fun t => t == .value || ends t) fuel
            { f with tokens := r }
          let (v, f) ← readValuePart handles false ends fuel f
          let (ps, f) ← readFlowPairs handles false fuel f
          .ok ((k, v) :: ps, f)
        | _ => do
          let (k, f) ← readNode handles false false fuel f
          let (ps, f) ← readFlowPairs handles false fuel f
          .ok ((k, .blank) :: ps, f)

end

/-! ### Documents -/

/-- Take the directives in front of a document: the handles they declare, after which the standard
ones follow.  The version may be given once and has to be one of 1, and a handle declared once. -/
def readDirectives : (versioned : Bool) → (handles : Handles) → List Token →
    Except Stop (Handles × List Token)
  | versioned, handles, .directive d :: r =>
    match d with
    | .version major _ =>
      if versioned || major != 1 then .error .malformed else readDirectives true handles r
    | .handle name meaning =>
      if (handles.lookup name).isSome then .error .malformed
      else readDirectives versioned (handles ++ [(name, meaning)]) r
    | .other => readDirectives versioned handles r
  | _, handles, r => .ok (handles ++ Handles.standard, r)

/-- Check that nothing but the end of the text follows a document. -/
def expectEnd : List Token → Except Stop Unit
  | [] => .error .exhausted
  | .documentEnd :: r => expectEnd r
  | .streamEnd :: _ => .ok ()
  | .directive _ :: r =>
    match r.dropWhile fun t => match t with | .directive _ => true | _ => false with
    | [] => .error .exhausted
    | _ => .error .malformed
  | _ => .error .malformed

/-- Read the content of a document and the end of the text. -/
def readDocument (handles : Handles) (ts : List Token) : Except Stop Node := do
  let (n, f) ← readNode handles true false (2 * ts.length + 4) ⟨ts, []⟩
  expectEnd f.tokens
  .ok n

/-- Whether a token stands where a document has no content. -/
def endsDocument (t : Token) : Bool :=
  match t with
  | .directive _ | .documentStart | .documentEnd | .streamEnd => true
  | _ => false

/-- The tree of the one document of a text; none when the text is empty. -/
def Node.ofTokens (ts : List Token) : Except Stop (Option Node) :=
  match ts with
  | [] => .error .exhausted
  | .streamEnd :: _ => .ok none
  | t :: _ =>
    let explicit := match t with
      | .directive _ | .documentStart => true
      | _ => false
    if explicit then do
      let (handles, r) ← readDirectives false [] ts
      match r with
      | [] => .error .exhausted
      | .documentStart :: r =>
        match r with
        | [] => .error .exhausted
        | t :: _ =>
          if endsDocument t then do
            expectEnd r
            .ok (some .blank)
          else some <$> readDocument handles r
      | _ => .error .malformed
    else some <$> readDocument Handles.standard ts

end CssMargin.Yaml
