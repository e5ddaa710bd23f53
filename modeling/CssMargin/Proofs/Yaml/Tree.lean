/-
# The tree of a list of records

A record is a mapping whose keys and values are scalars.  The tokens of a list of records under a
key are read into this tree.  Nothing in it has a name, so that the names given so far do not
change.
-/
import CssMargin.Proofs.Chain
import CssMargin.Yaml.Node.OfTokens
namespace CssMargin.Yaml

/-- A key and a value of a mapping: the texts, and whether the value stands without quotes.  The key
always does. -/
structure Field where
  /-- The key. -/
  key : List Char
  /-- The value. -/
  text : List Point
  /-- Whether the value stands without quotes. -/
  plain : Bool

/-- A scalar with neither a name nor a tag of its own. -/
def Node.bare (text : List Point) (plain : Bool) : Node :=
  .scalar none (scalarTag none plain text) text

/-- The tokens of a field. -/
def Field.tokens (f : Field) : List Token :=
  [.key, .scalar f.key true, .value, .scalar f.text f.plain]

/-- The nodes of a field. -/
def Field.pair (f : Field) : Node × Node := (.bare f.key true, .bare f.text f.plain)

/-- The tokens of a mapping. -/
def mappingTokens (fields : List Field) : List Token :=
  .blockMappingStart :: fields.flatMap Field.tokens ++ [.blockEnd]

/-- A mapping of scalars. -/
def Node.record (fields : List Field) : Node := .mapping none .map (fields.map Field.pair)

/-- The tokens of a list of records.  Only the empty list has brackets. -/
def listTokens (items : List (List Field)) : List Token :=
  if items = [] then [.flowSequenceStart, .flowSequenceEnd]
  else items.flatMap fun fields => .blockEntry :: mappingTokens fields

/-- The tokens of a text with a list of records under a key. -/
def recordsTokens (key : List Char) (items : List (List Field)) : List Token :=
  .blockMappingStart :: .key :: .scalar key true :: .value :: (listTokens items ++
    [.blockEnd, .streamEnd])

/-- A mapping with one key, under which there is a list of records. -/
def Node.recordsUnder (key : List Char) (items : List (List Field)) : Node :=
  .mapping none .map [(.bare key true, .sequence none .seq (items.map Node.record))]

section Read

variable (handles : Handles) {names : List String} {r : List Token}

lemma readNode_scalar (block indentless : Bool) (text : List Point) (plain : Bool) (fuel : Nat) :
    readNode handles block indentless (fuel + 1) ⟨.scalar text plain :: r, names⟩ =
      .ok (.bare text plain, ⟨r, names⟩) := by
  rw [readNode]
  rfl

/-- A scalar is read where something may be missing. -/
lemma readPart_scalar (block indentless : Bool) {ends : Token → Bool} {text : List Point}
    {plain : Bool} (hends : ends (.scalar text plain) = false) (fuel : Nat) :
    readPart handles block indentless ends (fuel + 2) ⟨.scalar text plain :: r, names⟩ =
      .ok (.bare text plain, ⟨r, names⟩) := by
  rw [readPart, Feed.peek]
  dsimp only
  rw [hends, ok_bind, if_neg Bool.false_ne_true]
  exact readNode_scalar handles block indentless text plain fuel

lemma readBlockPairs_field (f : Field) (fuel : Nat) :
    readBlockPairs handles (fuel + 4) ⟨f.tokens ++ r, names⟩ = (do
      let (rest, f') ← readBlockPairs handles (fuel + 3) ⟨r, names⟩
      .ok (f.pair :: rest, f')) := by
  have hvalue : readValuePart handles true endsBlockPart (fuel + 3)
      ⟨.value :: .scalar f.text f.plain :: r, names⟩ = .ok (.bare f.text f.plain, ⟨r, names⟩) :=
    readPart_scalar handles true true rfl fuel
  rw [Field.tokens, readBlockPairs]
  change (readPart handles true true endsBlockPart (fuel + 3)
    ⟨.scalar f.key true :: .value :: .scalar f.text f.plain :: r, names⟩ >>= _) = _
  rw [readPart_scalar handles true true rfl (fuel + 1), ok_bind]
  dsimp only
  rw [hvalue]
  rfl

lemma readBlockPairs_fields (fields : List Field) {fuel : Nat} (hfuel : fields.length + 4 ≤ fuel) :
    readBlockPairs handles fuel ⟨fields.flatMap Field.tokens ++ .blockEnd :: r, names⟩ =
      .ok (fields.map Field.pair, ⟨r, names⟩) := by
  induction fields generalizing fuel with
  | nil =>
    obtain ⟨k, rfl⟩ : ∃ k, fuel = k + 1 := ⟨fuel - 1, by omega⟩
    rw [readBlockPairs]
    rfl
  | cons f fields ih =>
    rw [List.length_cons] at hfuel
    obtain ⟨k, rfl⟩ : ∃ k, fuel = k + 4 := ⟨fuel - 4, by omega⟩
    rw [List.flatMap_cons, List.append_assoc, readBlockPairs_field, ih (by omega)]
    rfl

/-- A mapping begins where its beginning is marked. -/
lemma readNode_mapping {ts : List Token} {pairs : List (Node × Node)} {f : Feed} {fuel : Nat}
    (h : readBlockPairs handles fuel ⟨ts, names⟩ = .ok (pairs, f)) :
    readNode handles true false (fuel + 1) ⟨.blockMappingStart :: ts, names⟩ =
      .ok (.mapping none .map pairs, f) := by
  rw [readNode]
  change (readBlockPairs handles fuel ⟨ts, names⟩ >>= _) = _
  rw [h]
  rfl

/-- The tokens of a mapping are read into the mapping. -/
lemma readNode_record (fields : List Field) {fuel : Nat} (hfuel : fields.length + 5 ≤ fuel) :
    readNode handles true false fuel ⟨mappingTokens fields ++ r, names⟩ =
      .ok (.record fields, ⟨r, names⟩) := by
  obtain ⟨k, rfl⟩ : ∃ k, fuel = k + 1 := ⟨fuel - 1, by omega⟩
  have hpairs : readBlockPairs handles k
      ⟨fields.flatMap Field.tokens ++ Token.blockEnd :: r, names⟩ =
        .ok (fields.map Field.pair, ⟨r, names⟩) :=
    readBlockPairs_fields handles fields (by omega)
  rw [mappingTokens, List.append_assoc]
  exact readNode_mapping handles hpairs

lemma readPart_record (fields : List Field) {ends : Token → Bool}
    (hends : ends .blockMappingStart = false) {fuel : Nat} (hfuel : fields.length + 5 ≤ fuel) :
    readPart handles true false ends (fuel + 1) ⟨mappingTokens fields ++ r, names⟩ =
      .ok (.record fields, ⟨r, names⟩) := by
  have hpeek : Feed.peek ends ⟨mappingTokens fields ++ r, names⟩ = .ok false :=
    congrArg Except.ok hends
  rw [readPart, hpeek, ok_bind, if_neg Bool.false_ne_true]
  exact readNode_record handles fields hfuel

/-- Mappings behind hyphens are read one after the other up to another token. -/
lemma readIndentless_records (items : List (List Field)) {t : Token} (ht : t ≠ .blockEntry)
    {n fuel : Nat} (hfields : ∀ fields ∈ items, fields.length ≤ n)
    (hfuel : items.length + n + 7 ≤ fuel) :
    readIndentless handles fuel
        ⟨items.flatMap (fun fields => Token.blockEntry :: mappingTokens fields) ++ t :: r, names⟩ =
      .ok (items.map Node.record, ⟨t :: r, names⟩) := by
  induction items generalizing fuel with
  | nil =>
    obtain ⟨k, rfl⟩ : ∃ k, fuel = k + 1 := ⟨fuel - 1, by omega⟩
    rw [List.flatMap_nil, List.nil_append, readIndentless]
    cases t with
    | blockEntry => exact absurd rfl ht
    | _ => rfl
  | cons fields items ih =>
    rw [List.length_cons] at hfuel
    obtain ⟨k, rfl⟩ : ∃ k, fuel = k + 2 := ⟨fuel - 2, by omega⟩
    have hlen := hfields fields (List.mem_cons_self ..)
    have hroom : items.length + n + 7 ≤ k + 1 := by omega
    have hrest := ih (fun fs hfs => hfields fs (List.mem_cons_of_mem _ hfs)) hroom
    rw [List.flatMap_cons, List.cons_append, List.cons_append, List.append_assoc, readIndentless]
    dsimp only
    rw [readPart_record handles fields rfl (by omega), ok_bind]
    dsimp only
    rw [hrest]
    rfl

/-- A hyphen that stands where a value may stand begins a list. -/
lemma readPart_indentless {ends : Token → Bool} (hends : ends .blockEntry = false) {ns : List Node}
    {f : Feed} {fuel : Nat}
    (h : readIndentless handles fuel ⟨.blockEntry :: r, names⟩ = .ok (ns, f)) :
    readPart handles true true ends (fuel + 2) ⟨.blockEntry :: r, names⟩ =
      .ok (.sequence none .seq ns, f) := by
  have hpeek : Feed.peek ends ⟨.blockEntry :: r, names⟩ = .ok false := congrArg Except.ok hends
  rw [readPart, hpeek, ok_bind, if_neg Bool.false_ne_true, readNode]
  change (readIndentless handles fuel ⟨.blockEntry :: r, names⟩ >>= _) = _
  rw [h]
  rfl

/-- There are enough tokens for every part. -/
lemma length_le_listTokens (items : List (List Field)) :
    items.length ≤ (listTokens items).length ∧
      ∀ fields ∈ items, fields.length ≤ (listTokens items).length := by
  have hfields (fields : List Field) : fields.length ≤ (mappingTokens fields).length := by
    rw [mappingTokens, List.cons_append, List.length_cons, List.length_append,
      List.length_singleton]
    induction fields with
    | nil => exact Nat.zero_le _
    | cons f fields ih =>
      rw [List.flatMap_cons, List.length_append, List.length_cons, Field.tokens, List.length_cons]
      omega
  unfold listTokens
  split
  · rename_i hnil
    rw [hnil]
    exact ⟨Nat.zero_le _, fun fields h => absurd h List.not_mem_nil⟩
  · clear * - hfields
    induction items with
    | nil => exact ⟨Nat.le_refl _, fun fields h => absurd h List.not_mem_nil⟩
    | cons fields items ih =>
      have := hfields fields
      rw [List.flatMap_cons, List.length_append, List.length_cons, List.length_cons,
        List.forall_mem_cons]
      refine ⟨by omega, by omega, fun fs hfs => ?_⟩
      have := ih.2 fs hfs
      omega

/-- The value of the key: the list in brackets, or with hyphens. -/
lemma readValuePart_items (items : List (List Field)) {n fuel : Nat}
    (hfields : ∀ fields ∈ items, fields.length ≤ n) (hfuel : items.length + n + 10 ≤ fuel) :
    readValuePart handles true endsBlockPart fuel
        ⟨.value :: (listTokens items ++ .blockEnd :: r), names⟩ =
      .ok (.sequence none .seq (items.map Node.record), ⟨.blockEnd :: r, names⟩) := by
  obtain ⟨k, rfl⟩ : ∃ k, fuel = k + 4 := ⟨fuel - 4, by omega⟩
  cases items with
  | nil => rfl
  | cons fields items =>
    -- behind the colon stands a hyphen, without a beginning of a list in front of it
    have hread : readIndentless handles (k + 1) ⟨(fields :: items).flatMap
        (fun fields => Token.blockEntry :: mappingTokens fields) ++ Token.blockEnd :: r, names⟩ =
          .ok ((fields :: items).map Node.record, ⟨Token.blockEnd :: r, names⟩) :=
      readIndentless_records handles (fields :: items) (by decide) hfields (by omega)
    rw [listTokens, if_neg (List.cons_ne_nil _ _), readValuePart]
    exact readPart_indentless handles rfl hread

/-- The mapping around a list of records. -/
lemma readNode_recordsUnder (key : List Char) (items : List (List Field)) {n fuel : Nat}
    (hfields : ∀ fields ∈ items, fields.length ≤ n) (hfuel : items.length + n + 12 ≤ fuel) :
    readNode handles true false fuel ⟨recordsTokens key items, names⟩ =
      .ok (.recordsUnder key items, ⟨[.streamEnd], names⟩) := by
  obtain ⟨k, rfl⟩ : ∃ k, fuel = k + 5 := ⟨fuel - 5, by omega⟩
  have hvalue : readValuePart handles true endsBlockPart (k + 3)
      ⟨.value :: (listTokens items ++ [.blockEnd, .streamEnd]), names⟩ =
        .ok (.sequence none .seq (items.map Node.record), ⟨[.blockEnd, .streamEnd], names⟩) :=
    readValuePart_items handles items hfields (by omega)
  have hend : readBlockPairs handles (k + 3) ⟨[.blockEnd, .streamEnd], names⟩ =
      .ok ([], ⟨[.streamEnd], names⟩) := by
    rw [readBlockPairs]
  have hpairs : readBlockPairs handles (k + 4) ⟨.key :: .scalar key true :: .value ::
      (listTokens items ++ [.blockEnd, .streamEnd]), names⟩ =
        .ok ([(.bare key true, .sequence none .seq (items.map Node.record))],
          ⟨[.streamEnd], names⟩) := by
    rw [readBlockPairs]
    dsimp only
    rw [readPart_scalar handles true true rfl (k + 1), ok_bind]
    dsimp only
    rw [hvalue, ok_bind]
    dsimp only
    rw [hend]
    rfl
  exact readNode_mapping handles hpairs

end Read

/-- **The tree.**  The tokens of a text with a list of records are read into the list. -/
theorem ofTokens_recordsTokens (key : List Char) (items : List (List Field)) :
    Node.ofTokens (recordsTokens key items) = .ok (some (.recordsUnder key items)) := by
  obtain ⟨hitems, hfields⟩ := length_le_listTokens items
  have hfuel : items.length + (listTokens items).length + 12 ≤
      2 * (recordsTokens key items).length + 4 := by
    simp only [recordsTokens, List.length_append, List.length_cons, List.length_nil]
    omega
  have hread : readNode Handles.standard true false (2 * (recordsTokens key items).length + 4)
      ⟨recordsTokens key items, []⟩ = .ok (.recordsUnder key items, ⟨[.streamEnd], []⟩) :=
    readNode_recordsUnder Handles.standard key items hfields hfuel
  change some <$> readDocument Handles.standard (recordsTokens key items) = _
  rw [readDocument, hread]
  rfl

end CssMargin.Yaml
