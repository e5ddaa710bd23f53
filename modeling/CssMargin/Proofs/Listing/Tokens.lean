/-
# The tokens of a listing in YAML

The text of a listing is read token by token: the key of the list, and for each declaration a
hyphen and a mapping with four keys.  The hyphens stand in the same column as the key of the list,
so that the list has no beginning and no end of its own; the mapping of a declaration ends where
the next hyphen or the end of the text falls back to that column.
-/
import CssMargin.Result
import CssMargin.Proofs.Yaml.Lines
import CssMargin.Proofs.Yaml.Tree
namespace CssMargin

open Yaml

/-- A field with a text that is written as a scalar. -/
def textField (key : String) (t : Text) : Field :=
  ⟨key.toList, (rereadText t).points, isBare t⟩

/-- The fields of a declaration as they are read. -/
def Declaration.fields (d : Declaration) : List Field :=
  [textField "property" d.name, textField "value" d.value,
    ⟨"important".toList, (boolText d.important).toList, true⟩, textField "origin" d.origin]

/-- The tokens of a declaration. -/
def Declaration.tokens (d : Declaration) : List Token := .blockEntry :: mappingTokens d.fields

/-- The tokens of a listing. -/
def listingTokens (ds : List Declaration) : List Token :=
  recordsTokens "declarations".toList (ds.map Declaration.fields)

/-! ### Fields -/

namespace Yaml.Lexer

lemma lineStart_letter {x : Char} (hx : x.isAlpha = true) (r : List Char) :
    LineStart 2 (x :: r) where
  shallow := by decide
  noSpace := noSpaceHere_cons (of_isAlpha hx).1 r
  noComment := by simpa using (of_isAlpha hx).2.2.2.2.2.2.2
  noMark := by simpa using (of_isAlpha hx).2.2.2.2.2.2.1
  noMarker := fun c hrest => Cursor.atMarker_eq_false (x := ' ') hrest (by decide)

lemma lineStart_hyphen (r : List Char) : LineStart 0 ('-' :: ' ' :: r) where
  shallow := by decide
  noSpace := noSpaceHere_cons (by decide) _
  noComment := by simp
  noMark := by simp
  noMarker := fun c hrest => by
    obtain ⟨hhyphens, hpoints⟩ := atThree_hyphen hrest
    rw [Cursor.atMarker, hhyphens, hpoints]
    simp

/-- A text that is read as one token when it stands behind a key. -/
def ValueText (t : List Char) (s : Token) : Prop :=
  ∀ {c : Cursor} {items : List Item} {fresh k : Nat} {indents : List Int} {r : List Char}
    {ts : List Token}, LineStart k r → c.rest = ' ' :: (t ++ '\n' :: (List.replicate k ' ' ++ r)) →
    2 ≤ c.column →
    (∀ c' : Cursor, c'.rest = r → c'.column = k →
      Yields ⟨c', .token s :: items, fresh, 2, indents, 0, true, []⟩ ts) →
    Yields ⟨c, items, fresh, 2, indents, 0, false, []⟩ ts

lemma valueText_writeScalar (column : Nat) (t : Text) :
    ValueText (writeScalar 4 column t) (scalarToken t) :=
  fun hr hrest hcolumn h => yields_scalar t hr hrest hcolumn h

lemma valueText_boolText (b : Bool) :
    ValueText (boolText b).toList (.scalar (boolText b).toList true) := by
  intro c items fresh k indents r ts hr hrest hcolumn h
  have hword : PlainWord (boolText b).toList := by
    cases b
    · exact ⟨by decide, List.all_iff_forall_prop.1 (by decide), by decide, by decide⟩
    · exact ⟨by decide, List.all_iff_forall_prop.1 (by decide), by decide, by decide⟩
  have hlead : ScalarStyle.hasLeadingIndicator (boolText b).toList = false := by
    cases b <;> decide
  have htext : [Stretch.word (boolText b).toList].flatMap Stretch.text = (boolText b).toList :=
    List.flatMap_singleton ..
  have hwritten : c.rest = ' ' :: (writePlain 4 0 [.word (boolText b).toList] ++
      '\n' :: (List.replicate k ' ' ++ r)) := by
    rw [hrest, writePlain, writePlain, List.append_nil]
  refine yields_plain (.one hword) (by rw [htext]; exact hlead) hr hwritten hcolumn ?_
  rw [htext]
  exact h

/-- A field of a declaration: a key in the second column, and its value. -/
lemma yields_field (key : String) {c : Cursor} {items : List Item} {fresh k : Nat}
    {indents : List Int} {indent : Int} {t r : List Char} {s : Token} {ts : List Token}
    (hkey : KeyText key.toList) (ht : ValueText t s) (hr : LineStart k r)
    (hrest : c.rest = key.toList ++ ':' :: ' ' :: (t ++ '\n' :: (List.replicate k ' ' ++ r)))
    (hcolumn : c.column = 2) (opens : Bool) (hindent : indent = if opens then 0 else 2)
    (h : ∀ (c' : Cursor) (items' : List Item) (fresh' : Nat), c'.rest = r → c'.column = k →
      tokensOf items'.reverse = tokensOf items.reverse ++
        ((if opens then [.blockMappingStart] else []) ++
          [.key, .scalar key.toList true, .value, s]) →
      Yields ⟨c', items', fresh', 2, if opens then indent :: indents else indents, 0, true,
        []⟩ ts) :
    Yields ⟨c, items, fresh, indent, indents, 0, true, []⟩ ts := by
  refine yields_key hkey hrest rfl ?_ opens ?_ fun c' hc' hcol => ?_
  · rw [hindent, hcolumn]
    cases opens <;> decide
  · rw [hindent, hcolumn]
    cases opens <;> decide
  · have htwo : (if opens then (c.column : Int) else indent) = 2 := by
      rw [hindent, hcolumn]
      cases opens <;> rfl
    rw [htwo]
    refine ht hr hc' (by omega) fun c'' hc'' hcol' => h _ _ _ hc'' hcol' ?_
    cases opens <;> simp

end Yaml.Lexer

/-! ### Declarations -/

section Declaration

open Lexer

/-- The text of a declaration, key by key. -/
lemma Declaration.yaml_append (d : Declaration) (r : List Char) :
    d.yaml ++ r = '-' :: ' ' :: ("property".toList ++ ':' :: ' ' ::
      (writeScalar 4 12 d.name ++ '\n' :: (List.replicate 2 ' ' ++ ("value".toList ++ ':' ::
      ' ' :: (writeScalar 4 9 d.value ++ '\n' :: (List.replicate 2 ' ' ++
      ("important".toList ++ ':' :: ' ' :: ((boolText d.important).toList ++ '\n' ::
      (List.replicate 2 ' ' ++ ("origin".toList ++ ':' :: ' ' ::
      (writeScalar 4 10 d.origin ++ '\n' :: r))))))))))) := by
  have hproperty : "- property: ".length = 12 := rfl
  have hvalue : "  value: ".length = 9 := rfl
  have horigin : "  origin: ".length = 10 := rfl
  simp [Declaration.yaml, fieldLine, hproperty, hvalue, horigin]

lemma yields_declaration {c : Cursor} {items : List Item} {fresh : Nat} {ts : List Token}
    (d : Declaration) {r : List Char} (hr : LineStart 0 r) (hrest : c.rest = d.yaml ++ r)
    (hcolumn : c.column = 0)
    (h : ∀ (c' : Cursor) (items' : List Item) (fresh' : Nat), c'.rest = r → c'.column = 0 →
      tokensOf items'.reverse = tokensOf items.reverse ++ d.tokens →
      Yields ⟨c', items', fresh', 0, [-1], 0, true, []⟩ ts) :
    Yields ⟨c, items, fresh, 0, [-1], 0, true, []⟩ ts := by
  rw [Declaration.yaml_append] at hrest
  refine yields_hyphen hcolumn hrest (by decide) (by decide) (by decide)
    fun c₁ hc₁ hcol₁ => ?_
  -- the first key opens a mapping, and the others stand in its column
  refine yields_field "property" (by decide) (valueText_writeScalar _ _)
    (lineStart_letter (by decide) _) hc₁ hcol₁ true rfl fun c₂ items₂ fresh₂ hc₂ hcol₂ h₂ => ?_
  refine yields_field "value" (by decide) (valueText_writeScalar _ _)
    (lineStart_letter (by decide) _) hc₂ hcol₂ false rfl fun c₃ items₃ fresh₃ hc₃ hcol₃ h₃ => ?_
  refine yields_field "important" (by decide) (valueText_boolText _)
    (lineStart_letter (by decide) _) hc₃ hcol₃ false rfl fun c₄ items₄ fresh₄ hc₄ hcol₄ h₄ => ?_
  refine yields_field "origin" (by decide) (valueText_writeScalar _ _)
    hr hc₄ hcol₄ false rfl fun c₅ items₅ fresh₅ hc₅ hcol₅ h₅ => ?_
  refine yields_outdent hcol₅ hr hc₅ (h _ _ _ hc₅ hcol₅ ?_)
  simp [h₅, h₄, h₃, h₂, Declaration.tokens, Declaration.fields, mappingTokens, Field.tokens,
    textField, scalarToken]

lemma lineStart_declarations (ds : List Declaration) :
    LineStart 0 (ds.flatMap Declaration.yaml) := by
  cases ds with
  | nil => exact lineStart_nil
  | cons d ds =>
    rw [List.flatMap_cons, Declaration.yaml_append]
    exact lineStart_hyphen _

/-- The declarations are read one after the other up to the end of the text. -/
lemma yields_declarations (ds : List Declaration) {c : Cursor} {items : List Item} {fresh : Nat}
    (hrest : c.rest = ds.flatMap Declaration.yaml) (hcolumn : c.column = 0) :
    Yields ⟨c, items, fresh, 0, [-1], 0, true, []⟩
      (tokensOf items.reverse ++ ds.flatMap Declaration.tokens ++ [.blockEnd, .streamEnd]) := by
  induction ds generalizing c items fresh with
  | nil =>
    have hend : Yields ⟨c, items, fresh, 0, [-1], 0, true, []⟩
        (tokensOf items.reverse ++ [.blockEnd, .streamEnd]) := yields_end hcolumn hrest
    simpa using hend
  | cons d ds ih =>
    refine yields_declaration d (lineStart_declarations ds) hrest hcolumn
      fun c' items' fresh' hc' hcol' hitems => ?_
    have hrest' : Yields ⟨c', items', fresh', 0, [-1], 0, true, []⟩ (tokensOf items'.reverse ++
        ds.flatMap Declaration.tokens ++ [.blockEnd, .streamEnd]) := ih hc' hcol'
    rw [hitems] at hrest'
    simpa using hrest'

lemma listingTokens_cons (d : Declaration) (ds : List Declaration) :
    listingTokens (d :: ds) =
      [.blockMappingStart, .key, .scalar "declarations".toList true, .value] ++
      (d :: ds).flatMap Declaration.tokens ++ [.blockEnd, .streamEnd] := by
  have hlist : listTokens ((d :: ds).map Declaration.fields) =
      (d :: ds).flatMap Declaration.tokens := by
    rw [listTokens, List.map_cons, if_neg (List.cons_ne_nil _ _), ← List.map_cons,
      List.flatMap_map]
    rfl
  rw [listingTokens, recordsTokens, hlist]
  simp

/-- **Tokens of a listing.**  The text of a listing is read without a fault into its tokens. -/
theorem ofText_listingYaml (ds : List Declaration) :
    Token.ofText (listingYaml ds) = (listingTokens ds, none) := by
  cases ds with
  | nil => decide +kernel
  | cons d ds =>
    have hyields {c : Cursor} (hcolumn : c.column = 0) (hrest : c.rest = "declarations".toList ++
        ':' :: '\n' :: (d :: ds).flatMap Declaration.yaml) :
        Yields ⟨c, [], 0, -1, [], 0, true, []⟩ (listingTokens (d :: ds)) := by
      refine yields_key (by decide) hrest rfl (by rw [hcolumn]; decide) true
        (by rw [hcolumn]; decide) fun c' hc' hcol' => ?_
      -- behind the colon the line ends, and the next one is not indented
      refine yields_line (lineStart_declarations (d :: ds)) hc' fun c'' hc'' hcol'' => ?_
      rw [if_pos rfl, if_pos rfl, hcolumn, listingTokens_cons]
      exact yields_declarations (d :: ds) hc'' hcol''
    exact hyields rfl rfl _ (Nat.le_refl _)

end Declaration

end CssMargin
