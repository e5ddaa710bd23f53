/-
# What records stand for

In a tree without names no reference is followed, and a mapping whose keys are texts has no pairs
but its own.  A record, a mapping of scalars, then stands for the mapping of what the scalars stand
for.
-/
import CssMargin.Proofs.Yaml.Tree
import CssMargin.Yaml.Meaning.Document
import Mathlib.Data.List.TakeWhile
namespace CssMargin.Yaml

/-! ### Nodes without names -/

namespace Scope

variable {s : Scope}

lemma fuel_eq_succ (s : Scope) : ∃ k, s.fuel = k + 1 := by
  have hpos : 0 < s.fuel :=
    Nat.mul_pos (Nat.mul_pos (by decide) (Nat.succ_pos _)) (Nat.succ_pos _)
  exact ⟨s.fuel - 1, by omega⟩

section Bare

variable {tag : Tag} {text : List Point} {v : Value} {pairs : List (Node × Node)}

lemma isCollection_of_scalarValue (h : scalarValue tag text = .ok v) :
    tag.isCollection = false := by
  cases tag with
  | kind k => rfl
  | binary => rfl
  | unknown => rfl
  | _ => cases h

/-- A scalar without a name is read with its own tag and text. -/
lemma read_scalar (h : scalarValue tag text = .ok v) (c : Progress) :
    s.read c (.scalar none tag text) = .ok ⟨tag, text⟩ := by
  obtain ⟨k, hk⟩ := fuel_eq_succ s
  have htext : scalarText s.names c s.fuel (.scalar none tag text) = .ok text := by
    rw [hk, scalarText]
  have hscalar : ¬ (tag = .kind .timestamp ∧ (Node.scalar none tag text).isMapping = true) :=
    fun h => Bool.false_ne_true h.2
  have htag : c.tagOf (.scalar none tag text) = tag := rfl
  rw [read, htag]
  split
  · cases h
  · cases h
  · cases h
  · cases h
  · rw [htext, ok_bind, if_neg hscalar, h, ok_bind]

/-- Nothing is wrong with a scalar that stands for a value, and nothing is left to be looked at. -/
lemma inspect_scalar (h : scalarValue tag text = .ok v) (c : Progress) :
    s.inspect (.scalar none tag text) c = .ok ([], c) := by
  have htag : (c.tagOf (.scalar none tag text)).isCollection = false :=
    isCollection_of_scalarValue h
  unfold inspect
  dsimp only [Names.follow]
  rw [htag, read_scalar h c]
  rfl

lemma value_scalar (h : scalarValue tag text = .ok v) (c : Progress) (fuel level : Nat)
    (within : List String) : s.value c (fuel + 1) level within (.scalar none tag text) = v := by
  have htag : (c.tagOf (.scalar none tag text)).isCollection = false :=
    isCollection_of_scalarValue h
  have hleaf : leaf c (.scalar none tag text) = (scalarValue tag text).toOption.getD .null := rfl
  rw [value]
  simp only [Names.follow, htag, hleaf, h]
  rfl

lemma value_sequence (c : Progress) (items : List Node) (fuel level : Nat) :
    s.value c (fuel + 1) level [] (.sequence none .seq items) =
      .list (items.map (s.value c fuel (level + 1) [])) := by
  rw [value]
  simp [Names.follow, Node.tag, Tag.isCollection, Node.name?, Progress.tagOf]

/-- Nothing is taken up in a mapping without a name whose keys are texts. -/
lemma takeUp_of_text_keys
    (hkeys : ∀ p ∈ pairs, ∃ text, p.1 = .scalar none (.kind .text) text) (c : Progress) :
    takeUp s.names s.fuel (.mapping none .map pairs) [] c = .ok c := by
  have hown : pairs.takeWhile (fun p => !takesPart s.names c p) = pairs := by
    refine List.takeWhile_eq_self_iff.2 fun p hp => ?_
    obtain ⟨text, htext⟩ := hkeys p hp
    rw [takesPart, htext]
    rfl
  have hpairs : c.pairsOf (.mapping none .map pairs) = pairs := rfl
  obtain ⟨k, hk⟩ := fuel_eq_succ s
  rw [hk, takeUp, hpairs, hown, List.drop_length]
  rfl

lemma value_mapping (c : Progress) (pairs : List (Node × Node)) (fuel level : Nat) :
    s.value c (fuel + 1) level [] (.mapping none .map pairs) =
      .map (Value.ofEntries (pairs.map fun p =>
        (s.value c fuel (level + 1) [] p.1, s.value c fuel (level + 1) [] p.2))) := by
  rw [value]
  simp [Names.follow, Node.tag, Tag.isCollection, Node.name?, Progress.tagOf, Progress.pairsOf]

end Bare

/-- If nothing is wrong inside some collections without names, and inside them there are only such
collections again, then nothing is wrong on any level. -/
lemma inspectLevels_of_closed {P : Node → Prop} {c : Progress}
    (hname : ∀ n, P n → n.name? = none)
    (hinside : ∀ n, P n → ∃ ns, s.inspectInside n c = .ok (ns, c) ∧ ∀ m ∈ ns, P m) (fuel : Nat)
    (seen : List String) {ns : List Node} (hns : ∀ n ∈ ns, P n) :
    s.inspectLevels fuel seen ns c = .ok c := by
  -- without names no node counts as one that was looked at before
  have hunseen (ns : List Node) (hns : ∀ n ∈ ns, P n) : unseen seen ns = (ns, seen) := by
    induction ns with
    | nil => rfl
    | cons n ns ih =>
      rw [unseen, hname n (hns n (List.mem_cons_self ..))]
      dsimp only
      rw [ih fun m hm => hns m (List.mem_cons_of_mem _ hm)]
  have hall (ns : List Node) (hns : ∀ n ∈ ns, P n) :
      ∃ inside, s.inspectAll ns c = .ok (inside, c) ∧ ∀ m ∈ inside, P m := by
    induction ns with
    | nil => exact ⟨[], rfl, fun m hm => absurd hm List.not_mem_nil⟩
    | cons n ns ih =>
      obtain ⟨inRest, hrest, hmem⟩ := ih fun m hm => hns m (List.mem_cons_of_mem _ hm)
      obtain ⟨inside, hn, hmem'⟩ := hinside n (hns n (List.mem_cons_self ..))
      refine ⟨inside ++ inRest, ?_, List.forall_mem_append.2 ⟨hmem', hmem⟩⟩
      rw [inspectAll, hn, ok_bind]
      dsimp only
      rw [hrest, ok_bind]
  induction fuel generalizing ns with
  | zero => rfl
  | succ k ih =>
    rw [inspectLevels, hunseen ns hns]
    dsimp only
    split
    · rfl
    · obtain ⟨inside, hinside', hmem⟩ := hall ns hns
      rw [hinside', ok_bind]
      exact ih hmem

end Scope

/-! ### Records -/

/-- What a field with a text as its key stands for. -/
structure Field.Stands (f : Field) (e : Value × Value) : Prop where
  /-- The key has no other meaning. -/
  kind : Kind.ofText f.key = .text
  /-- The key is the text. -/
  key : e.1 = .text (String.ofList f.key)
  /-- The value is read. -/
  value : scalarValue (scalarTag none f.plain f.text) f.text = .ok e.2

/-- Without quotes too a text may be a text. -/
lemma Node.bare_of_kind {text : List Char} (h : Kind.ofText text = .text) :
    Node.bare text true = .scalar none (.kind .text) text := by
  rw [Node.bare, scalarTag, if_pos rfl, Text.face_chars, h]

namespace Scope

variable {s : Scope} {fields : List Field} {es : List (Value × Value)}

lemma text_keys_record (h : List.Forall₂ Field.Stands fields es) :
    ∀ p ∈ fields.map Field.pair, ∃ text, p.1 = .scalar none (.kind .text) text := by
  induction h with
  | nil => exact fun p hp => absurd hp List.not_mem_nil
  | @cons f e fields es hf _ ih =>
    rw [List.map_cons, List.forall_mem_cons]
    exact ⟨⟨f.key, Node.bare_of_kind hf.kind⟩, ih⟩

lemma scalarValue_key {f : Field} {e : Value × Value} (h : f.Stands e) :
    scalarValue (scalarTag none true f.key) f.key = .ok e.1 := by
  rw [h.key, scalarTag, if_pos rfl, Text.face_chars, h.kind, scalarValue_text,
    Text.ofPoints_chars]

/-- Nothing is wrong inside a record, and it contains no collections. -/
lemma inspectInside_record (h : List.Forall₂ Field.Stands fields es) (c : Progress) :
    s.inspectInside (.record fields) c = .ok ([], c) := by
  have hpairs : s.inspectPairs (fields.map Field.pair) c = .ok ([], c) := by
    induction h with
    | nil => rfl
    | @cons f e fields es hf _ ih =>
      have hkey : s.inspect (.bare f.key true) c = .ok ([], c) :=
        inspect_scalar (scalarValue_key hf) c
      have hvalue : s.inspect (.bare f.text f.plain) c = .ok ([], c) := inspect_scalar hf.value c
      rw [List.map_cons, Field.pair, inspectPairs, hkey, ok_bind]
      dsimp only [List.isEmpty_nil]
      rw [if_pos rfl, hvalue, ok_bind]
      dsimp only
      rw [ih]
      rfl
  change (do
    let c ← takeUp s.names s.fuel (.mapping none .map (fields.map Field.pair)) [] c
    s.inspectPairs (c.pairsOf (.mapping none .map (fields.map Field.pair))) c) = _
  rw [takeUp_of_text_keys (text_keys_record h), ok_bind]
  exact hpairs

lemma value_record (h : List.Forall₂ Field.Stands fields es) (c : Progress) (fuel level : Nat) :
    s.value c (fuel + 2) level [] (.record fields) = .map (Value.ofEntries es) := by
  have hentries : fields.map (fun f => (s.value c (fuel + 1) (level + 1) [] f.pair.1,
      s.value c (fuel + 1) (level + 1) [] f.pair.2)) = es := by
    induction h with
    | nil => rfl
    | @cons f e fields es hf _ ih =>
      rw [List.map_cons, ih, Field.pair, Node.bare, Node.bare, value_scalar (scalarValue_key hf),
        value_scalar hf.value]
  rw [Node.record, value_mapping, List.map_map]
  exact congrArg (fun es => Value.map (Value.ofEntries es)) hentries

end Scope

/-! ### Lists of records -/

namespace Node

lemma named_record (fields : List Field) : (record fields).named = [] := by
  have hpairs : namedPairs (fields.map Field.pair) = [] := by
    induction fields with
    | nil => rfl
    | cons f fields ih =>
      rw [List.map_cons, namedPairs, ih]
      rfl
  rw [record, named, hpairs]
  rfl

lemma named_recordsUnder (key : List Char) (items : List (List Field)) :
    (recordsUnder key items).named = [] := by
  have hitems : namedItems (items.map record) = [] := by
    induction items with
    | nil => rfl
    | cons fields items ih => rw [List.map_cons, namedItems, named_record, ih, List.append_nil]
  simp [recordsUnder, named, namedPairs, bare, hitems]

variable {key : List Char} {items : List (List Field)} {entries : List (List (Value × Value))}

lemma exists_stands (h : List.Forall₂ (List.Forall₂ Field.Stands) items entries) :
    ∀ fields ∈ items, ∃ es, List.Forall₂ Field.Stands fields es := by
  induction h with
  | nil => exact fun fields h => absurd h List.not_mem_nil
  | @cons fields es items entries hfields _ ih =>
    rw [List.forall_mem_cons]
    exact ⟨⟨es, hfields⟩, ih⟩

/-! ### Numbers -/

/-- A mapping whose keys are texts gets no number. -/
lemma mayChange_of_text_keys {pairs : List (Node × Node)}
    (hkeys : ∀ p ∈ pairs, ∃ text, p.1 = .scalar none (.kind .text) text) :
    mayChange .map pairs = false := by
  have hnone : pairs.any (fun p => p.1.mayTakePart) = false := by
    rw [List.any_eq_false]
    intro p hp
    obtain ⟨text, htext⟩ := hkeys p hp
    rw [htext]
    exact Bool.false_ne_true
  rw [mayChange, hnone]
  rfl

lemma numbered_mapping {pairs : List (Node × Node)} {next : Nat}
    (hkeys : ∀ p ∈ pairs, ∃ text, p.1 = .scalar none (.kind .text) text)
    (hpairs : numberedPairs next pairs = (pairs, next)) :
    (mapping none .map pairs).numbered next = (mapping none .map pairs, next) := by
  rw [numbered, hpairs]
  dsimp only
  rw [mayChange_of_text_keys hkeys, Bool.and_false, if_neg Bool.false_ne_true]

lemma numbered_record {fields : List Field} {es : List (Value × Value)}
    (h : List.Forall₂ Field.Stands fields es) (next : Nat) :
    (record fields).numbered next = (record fields, next) := by
  have hpairs : numberedPairs next (fields.map Field.pair) = (fields.map Field.pair, next) := by
    clear h
    induction fields with
    | nil => rfl
    | cons f fields ih =>
      rw [List.map_cons, Field.pair, numberedPairs, bare, bare, numbered]
      dsimp only
      rw [numbered]
      dsimp only
      rw [ih]
  exact numbered_mapping (Scope.text_keys_record h) hpairs

lemma text_key_recordsUnder (hkey : Kind.ofText key = .text) (items : List (List Field)) :
    ∀ p ∈ [(bare key true, sequence none .seq (items.map record))],
      ∃ text, p.1 = .scalar none (.kind .text) text := by
  intro p hp
  rw [List.mem_singleton.1 hp, bare_of_kind hkey]
  exact ⟨key, rfl⟩

/-- No number is given in a list of records. -/
theorem numbered_recordsUnder (hkey : Kind.ofText key = .text)
    (h : List.Forall₂ (List.Forall₂ Field.Stands) items entries) (next : Nat) :
    (recordsUnder key items).numbered next = (recordsUnder key items, next) := by
  have hitems : numberedItems next (items.map record) = (items.map record, next) := by
    induction h with
    | nil => rfl
    | @cons fields es items entries hfields _ ih =>
      rw [List.map_cons, numberedItems, numbered_record hfields]
      dsimp only
      rw [ih]
  refine numbered_mapping (text_key_recordsUnder hkey items) ?_
  rw [numberedPairs, bare, numbered]
  dsimp only
  rw [numbered, hitems]
  rfl

/-! ### The value -/

section List

variable {s : Scope}

lemma inspectInside_records (items : List (List Field)) (c : Progress) :
    s.inspectInside (.sequence none .seq (items.map record)) c = .ok (items.map record, c) := by
  change s.inspectItems (items.map record) c = _
  induction items with
  | nil => rfl
  | cons fields items ih =>
    have hrecord : s.inspect (record fields) c = .ok ([record fields], c) := rfl
    rw [List.map_cons, Scope.inspectItems, hrecord, ok_bind]
    dsimp only
    rw [ih]
    rfl

/-- Inside the whole there is the list. -/
lemma inspectInside_recordsUnder (hkey : Kind.ofText key = .text) (c : Progress) :
    s.inspectInside (recordsUnder key items) c =
      .ok ([.sequence none .seq (items.map record)], c) := by
  have hinspect : s.inspect (bare key true) c = .ok ([], c) := by
    rw [bare_of_kind hkey]
    exact Scope.inspect_scalar (scalarValue_text _) c
  change (do
    let c ← takeUp s.names s.fuel (recordsUnder key items) [] c
    s.inspectPairs (c.pairsOf (recordsUnder key items)) c) = _
  rw [recordsUnder, Scope.takeUp_of_text_keys (text_key_recordsUnder hkey items), ok_bind]
  change s.inspectPairs [(bare key true, sequence none .seq (items.map record))] c = _
  rw [Scope.inspectPairs, hinspect]
  rfl

/-- The collections in a tree with a list of records. -/
inductive CollectionOf (key : List Char) (items : List (List Field)) : Node → Prop
  | whole : CollectionOf key items (recordsUnder key items)
  | list : CollectionOf key items (.sequence none .seq (items.map record))
  | record {fields : List Field} (h : fields ∈ items) : CollectionOf key items (record fields)

lemma CollectionOf.name?_eq_none {n : Node} (h : CollectionOf key items n) : n.name? = none := by
  cases h <;> rfl

/-- Nothing is wrong inside a collection, and what there is to be looked at are collections. -/
lemma CollectionOf.inspectInside {n : Node} (hn : CollectionOf key items n)
    (hkey : Kind.ofText key = .text)
    (h : List.Forall₂ (List.Forall₂ Field.Stands) items entries) (c : Progress) :
    ∃ ns, s.inspectInside n c = .ok (ns, c) ∧ ∀ m ∈ ns, CollectionOf key items m := by
  cases hn with
  | whole =>
    refine ⟨_, inspectInside_recordsUnder hkey c, fun m hm => ?_⟩
    rw [List.mem_singleton.1 hm]
    exact .list
  | list =>
    refine ⟨_, inspectInside_records items c, fun m hm => ?_⟩
    obtain ⟨fields, hfields, rfl⟩ := List.mem_map.1 hm
    exact .record hfields
  | @record fields hfields =>
    obtain ⟨es, hes⟩ := exists_stands h fields hfields
    exact ⟨[], Scope.inspectInside_record hes c, fun m hm => absurd hm List.not_mem_nil⟩

/-- Nothing is wrong with a list of records. -/
lemma check_recordsUnder (hkey : Kind.ofText key = .text)
    (h : List.Forall₂ (List.Forall₂ Field.Stands) items entries) :
    s.check (recordsUnder key items) = .ok .start := by
  have htop : ∀ n ∈ [recordsUnder key items], CollectionOf key items n := by
    intro n hn
    rw [List.mem_singleton.1 hn]
    exact .whole
  exact Scope.inspectLevels_of_closed (fun n hn => hn.name?_eq_none)
    (fun n hn => hn.inspectInside hkey h .start) (s.size + 1) [] htop

lemma value_recordsUnder (hkey : Kind.ofText key = .text)
    (h : List.Forall₂ (List.Forall₂ Field.Stands) items entries) (c : Progress) (fuel : Nat) :
    s.value c (fuel + 4) 0 [] (recordsUnder key items) =
      .map [(.text (String.ofList key),
        .list (entries.map fun es => .map (Value.ofEntries es)))] := by
  have hvalues : (items.map record).map (s.value c (fuel + 2) 2 []) =
      entries.map fun es => .map (Value.ofEntries es) := by
    induction h with
    | nil => rfl
    | @cons fields es items entries hfields _ ih =>
      rw [List.map_cons, List.map_cons, List.map_cons, ih, Scope.value_record hfields]
  have hname : s.value c (fuel + 3) 1 [] (bare key true) = .text (String.ofList key) := by
    rw [bare_of_kind hkey]
    refine Scope.value_scalar ?_ ..
    rw [scalarValue_text, Text.ofPoints_chars]
  rw [recordsUnder, Scope.value_mapping, List.map_singleton]
  dsimp only
  rw [hname, Scope.value_sequence, hvalues]
  rfl

end List

/-- **Lists of records.**  A mapping with one key, under which there is a list of records, stands
for the mapping with the list of what the records stand for. -/
theorem meaning_recordsUnder (hkey : Kind.ofText key = .text)
    (h : List.Forall₂ (List.Forall₂ Field.Stands) items entries) :
    (recordsUnder key items).meaning =
      .ok (.map [(.text (String.ofList key),
        .list (entries.map fun es => .map (Value.ofEntries es)))]) := by
  rw [meaning, named_recordsUnder]
  dsimp only
  rw [check_recordsUnder hkey h, ok_bind]
  have hfuel : ((recordsUnder key items).size + 1) * (([] : Names).length + Scope.deepest + 1) =
      5 * (recordsUnder key items).size + 1 + 4 := by
    simp only [List.length_nil, Scope.deepest]
    omega
  rw [hfuel, value_recordsUnder hkey h]

end Node

end CssMargin.Yaml
