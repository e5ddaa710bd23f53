/-
# A listing as YAML and what is read from it

A listing in YAML that is saved is loaded as a document with as many declarations, in the same
order, with the same fields, each of which is a text or a truth value again.  A text stays as it
was except for one thing: between apostrophes the next-line control becomes a line feed, so that it
is read as a blank or as line feeds.  A listing is therefore kept exactly when every text with this
control has a reason to stand between quotation marks.
-/
import CssMargin.Proofs.Disk.WriteRead
import CssMargin.Proofs.Listing.Tokens
import CssMargin.Proofs.Yaml.Records
import CssMargin.Proofs.Yaml.Written
import CssMargin.Text.Terminal
namespace CssMargin

open Yaml

/-! ### The characters of the text -/

lemma isKept_fieldLine {head : String} (hhead : ∀ c ∈ head.toList, IsKept c) (value : Text) :
    ∀ c ∈ fieldLine head value, IsKept c := by
  rw [fieldLine, List.forall_mem_append, List.forall_mem_append]
  exact ⟨⟨hhead, isKept_writeScalar _ _ _⟩, List.all_iff_forall_prop.1 (by decide)⟩

lemma isKept_listingYaml (ds : List Declaration) : ∀ c ∈ listingYaml ds, IsKept c := by
  have hyaml (d : Declaration) : ∀ c ∈ d.yaml, IsKept c := by
    have himportant : ∀ c ∈ ("  important: " ++ boolText d.important ++ "\n").toList, IsKept c := by
      cases d.important
      · exact List.all_iff_forall_prop.1 (by decide)
      · exact List.all_iff_forall_prop.1 (by decide)
    rw [Declaration.yaml, List.forall_mem_append, List.forall_mem_append, List.forall_mem_append]
    exact ⟨⟨⟨isKept_fieldLine (List.all_iff_forall_prop.1 (by decide)) _,
      isKept_fieldLine (List.all_iff_forall_prop.1 (by decide)) _⟩, himportant⟩,
      isKept_fieldLine (List.all_iff_forall_prop.1 (by decide)) _⟩
  cases ds with
  | nil =>
    have hempty : listingYaml [] = "declarations: []\n".toList := rfl
    rw [hempty]
    exact List.all_iff_forall_prop.1 (by decide)
  | cons d ds =>
    have hcons : listingYaml (d :: ds) =
        "declarations:\n".toList ++ (d :: ds).flatMap Declaration.yaml := rfl
    rw [hcons, List.forall_mem_append]
    refine ⟨List.all_iff_forall_prop.1 (by decide), fun c hc => ?_⟩
    obtain ⟨x, -, hc⟩ := List.mem_flatMap.1 hc
    exact hyaml x c hc

/-- What is printed has no control sequence that could be left out. -/
lemma plain_listingYaml (ds : List Declaration) :
    Text.plain (String.ofList (listingYaml ds)) = String.ofList (listingYaml ds) := by
  have hesc : '\x1b' ∉ listingYaml ds := by
    intro h
    exact absurd (isKept_listingYaml ds _ h).1 (by decide)
  rw [Text.plain, Text.map_coe, String.toList_ofList, Text.dropControls_eq_self hesc]

/-! ### The text read again -/

/-- A declaration as it is read after it was written. -/
def Declaration.reread (d : Declaration) : Declaration where
  name := String.ofList (Yaml.reread d.name.toList)
  value := rereadText d.value
  important := d.important
  origin := rereadText d.origin

/-- The entries of a declaration. -/
def Declaration.entries (d : Declaration) : List (Value × Value) :=
  [(.text "property", .text d.name), (.text "value", .text d.value),
    (.text "important", .bool d.important), (.text "origin", .text d.origin)]

lemma Declaration.toValue_item (d : Declaration) : d.item.toValue = .map d.entries := rfl

lemma Declaration.ofEntries_entries (d : Declaration) : Value.ofEntries d.entries = d.entries := by
  simp [Declaration.entries, Value.ofEntries, Value.insert]

lemma kind_rereadText_of_isBare {t : Text} (h : isBare t = true) :
    Kind.ofText ((rereadText t).points.map Point.face) = .text := by
  obtain ⟨head, tail⟩ := t
  rw [isBare, Bool.and_eq_true, beq_iff_eq] at h
  obtain ⟨hwhole, hstyle⟩ := h
  obtain rfl : tail = [] := List.isEmpty_iff.1 hwhole
  have hsame : reread head.toList = head.toList := by rw [reread, hstyle]
  rw [rereadText]
  dsimp only
  rw [hsame, Text.points_coe, Text.face_chars, String.toList_ofList]
  exact (ScalarStyle.of_ofText_eq_plain hstyle).1

/-- A text that was written as a scalar is a text again. -/
lemma stands_textField {key : String} (hkey : Kind.ofText key.toList = .text) (t : Text) :
    (textField key t).Stands (.text key, .text (rereadText t)) where
  kind := hkey
  key := by rw [textField, String.ofList_toList]
  value := by
    -- without quotes only a text is written that means nothing else
    have htag : scalarTag none (isBare t) (rereadText t).points = .kind .text := by
      cases hbare : isBare t with
      | false => rfl
      | true => rw [scalarTag, if_pos rfl, kind_rereadText_of_isBare hbare]
    rw [textField]
    dsimp only
    rw [htag, scalarValue_text, Text.ofPoints_points]

/-- A truth value is a truth value again. -/
lemma scalarValue_boolText (b : Bool) :
    scalarValue (scalarTag none true (boolText b).toList) (boolText b).toList = .ok (.bool b) := by
  have hkind : Kind.ofText (boolText b).toList = .bool := by cases b <;> decide +kernel
  have htruth : readTruth (boolText b).toList = .ok b := by cases b <;> decide +kernel
  rw [scalarTag, if_pos rfl, Text.face_chars, hkind, scalarValue, htruth]
  rfl

lemma stands_fields (d : Declaration) :
    List.Forall₂ Field.Stands d.fields d.reread.entries := by
  have hname : Kind.ofText "property".toList = .text := by decide +kernel
  have hkey : Kind.ofText "important".toList = .text := by decide +kernel
  have himportant : Field.Stands ⟨"important".toList, (boolText d.important).toList, true⟩
      (.text "important", .bool d.important) :=
    ⟨hkey, rfl, scalarValue_boolText d.important⟩
  exact .cons (stands_textField hname d.name)
    (.cons (stands_textField (by decide +kernel) d.value)
      (.cons himportant (.cons (stands_textField (by decide +kernel) d.origin) .nil)))

/-- The value of a listing in YAML. -/
lemma read_listingYaml (ds : List Declaration) :
    Yaml.read (listingYaml ds) = .ok (.map [(.text "declarations",
      .list (ds.map fun d => d.reread.item.toValue))]) := by
  have hallowed : (listingYaml ds).all isAllowed = true :=
    List.all_eq_true.2 fun c hc => (isKept_listingYaml ds c hc).1
  have hkind : Kind.ofText "declarations".toList = .text := by decide +kernel
  have hstands : List.Forall₂ (List.Forall₂ Field.Stands) (ds.map Declaration.fields)
      (ds.map fun d => d.reread.entries) := by
    rw [List.forall₂_map_left_iff, List.forall₂_map_right_iff, List.forall₂_same]
    exact fun d _ => stands_fields d
  -- the characters are allowed, the tokens are those of records, and so is the tree
  have hnodes : readNodes (listingYaml ds) =
      .ok (some (Node.recordsUnder "declarations".toList (ds.map Declaration.fields))) := by
    rw [readNodes, if_pos hallowed, ofText_listingYaml]
    dsimp only
    rw [listingTokens, ofTokens_recordsTokens]
    exact congrArg (fun n : Node × Nat => Except.ok (some n.1))
      (Node.numbered_recordsUnder hkind hstands 0)
  rw [Yaml.read, hnodes, ok_bind]
  dsimp only
  rw [Node.meaning_recordsUnder hkind hstands, List.map_map, String.ofList_toList]
  have hvalues : (ds.map ((fun es => Value.map (Value.ofEntries es)) ∘
      fun d => d.reread.entries)) = ds.map fun d => d.reread.item.toValue := by
    refine List.map_congr_left fun d _ => ?_
    rw [Declaration.toValue_item, Function.comp_apply, Declaration.ofEntries_entries]
  rw [hvalues]

/-! ### What is kept -/

/-- The texts of a declaration. -/
def Declaration.texts (d : Declaration) : List Text := [d.name, d.value, d.origin]

/-- Whether a text with the next-line control stands between quotation marks when it is written; a
text with halves always does. -/
def IsSafeText (t : Text) : Prop :=
  t.isWhole = true → '\u0085' ∈ t.head.toList → ScalarStyle.allowsSingle t.head.toList = false

/-- Whether every text of a declaration is safe. -/
def Declaration.IsSafe (d : Declaration) : Prop := ∀ t ∈ d.texts, IsSafeText t

lemma rereadText_eq_self_iff (t : Text) : rereadText t = t ↔ IsSafeText t := by
  obtain ⟨head, tail⟩ := t
  cases tail with
  | cons x r => exact ⟨fun _ h => absurd h Bool.false_ne_true, fun _ => rfl⟩
  | nil =>
    have hsame : rereadText head = head ↔ reread head.toList = head.toList := by
      rw [rereadText_coe, Text.coe_inj, ← String.toList_inj, String.toList_ofList]
    rw [hsame, reread_eq_self_iff]
    exact ⟨fun h _ => h, fun h => h rfl⟩

/-- A declaration is the same value after it was read again exactly if it is safe. -/
lemma Declaration.toValue_reread_eq_iff (d : Declaration) :
    d.reread.item.toValue = d.item.toValue ↔ d.IsSafe := by
  have hsafe : d.IsSafe ↔ rereadText d.name = d.name ∧ rereadText d.value = d.value ∧
      rereadText d.origin = d.origin := by
    simp only [rereadText_eq_self_iff]
    simp [Declaration.IsSafe, Declaration.texts]
  rw [hsafe, Declaration.toValue_item, Declaration.toValue_item]
  simp [Declaration.entries, Declaration.reread, rereadText_coe]

section Load

variable {d d' : Disk} {p : Path}

/-- A YAML file with a listing is loaded as a document with the declarations as they are read. -/
lemma loadDocument_eq_reread (ds : List Declaration)
    (hsuffix : DocumentFormat.ofSuffix? p.suffix = some .yaml)
    (hwrite : d.writeText p (listingYaml ds) = .ok d') :
    loadDocument d' p = .ok ⟨.list (ds.map fun x => x.reread.item.toValue), some p.text⟩ := by
  have hcr : '\r' ∉ listingYaml ds := fun h => (isKept_listingYaml ds _ h).2 rfl
  have hread : DocumentFormat.yaml.read (listingYaml ds) = .ok (.map [(.text "declarations",
      .list (ds.map fun x => x.reread.item.toValue))]) := by
    rw [DocumentFormat.read, read_listingYaml]
  have hload := loadDocument_of_read_eq_map hwrite hsuffix hcr hread
  rw [Value.lookup?_cons, if_pos (by simp)] at hload
  exact hload

/-- **A listing in YAML.**  A YAML file with a listing is loaded as a document with the declarations
of the listing, one by one and in order, each text being as it is read again; and this is the
listing itself exactly when all its declarations are safe. -/
theorem loadDocument_listingYaml (ds : List Declaration)
    (hsuffix : DocumentFormat.ofSuffix? p.suffix = some .yaml)
    (hwrite : d.writeText p (listingYaml ds) = .ok d') :
    loadDocument d' p =
        .ok ⟨.list (ds.map fun x => x.reread.item.toValue), some p.text⟩ ∧
      ((ds.map fun x => x.reread.item.toValue) = ds.map (fun x => x.item.toValue) ↔
        ∀ x ∈ ds, x.IsSafe) := by
  refine ⟨loadDocument_eq_reread ds hsuffix hwrite, ?_⟩
  rw [List.map_inj_left]
  simp only [Declaration.toValue_reread_eq_iff]

end Load

/-- Declarations with texts that look like something else, line separators and controls. -/
theorem loadDocument_listingYaml_unusual :
    let ds : List Declaration := [⟨"yes", "1e3\u2028 #", true, "a: b"⟩,
      ⟨"", "a\u0085b", false, "\x1b\u0085"⟩]
    let start : Disk := ⟨["work"], []⟩
    let d' := start.put ["work", "all.YML"] (.file (Text.encodeUtf8 (listingYaml ds)))
    let p := Path.ofText "all.YML"
    DocumentFormat.ofSuffix? p.suffix = some .yaml ∧
      start.writeText p (listingYaml ds) = .ok d' ∧
      loadDocument d' p =
        .ok ⟨.list (ds.map fun x => x.reread.item.toValue), some p.text⟩ ∧
      ((ds.map fun x => x.reread.item.toValue) = ds.map (fun x => x.item.toValue) ↔
        ∀ x ∈ ds, x.IsSafe) := by
  intro ds start d' p
  have hsuffix : DocumentFormat.ofSuffix? p.suffix = some .yaml := by decide +kernel
  have hplace : start.locate p = .ok ["work", "all.YML"] := by decide +kernel
  have hwrite : start.writeText p (listingYaml ds) = .ok d' := by
    rw [Disk.writeText, Disk.writeFile, hplace]
    rfl
  exact ⟨hsuffix, hwrite, loadDocument_listingYaml ds hsuffix hwrite⟩

/-- The next-line control becomes a blank in a text that nothing else puts between quotation
marks. -/
theorem loadDocument_listingYaml_nextLine :
    let x : Declaration := ⟨"margin-top", "a\u0085b", false, "author"⟩
    let y : Declaration := ⟨"margin-top", "a b", false, "author"⟩
    let start : Disk := ⟨["work"], []⟩
    let d' := start.put ["work", "all.yaml"] (.file (Text.encodeUtf8 (listingYaml [x])))
    let p := Path.ofText "all.yaml"
    start.writeText p (listingYaml [x]) = .ok d' ∧
      loadDocument d' p = .ok ⟨.list [y.item.toValue], some p.text⟩ ∧
      y.item.toValue ≠ x.item.toValue := by
  intro x y start d' p
  have hsuffix : DocumentFormat.ofSuffix? p.suffix = some .yaml := by decide +kernel
  have hplace : start.locate p = .ok ["work", "all.yaml"] := by decide +kernel
  have hwrite : start.writeText p (listingYaml [x]) = .ok d' := by
    rw [Disk.writeText, Disk.writeFile, hplace]
    rfl
  have hname : String.ofList (reread x.name.toList) = y.name := by decide +kernel
  have hvalue : rereadText x.value = y.value := by decide +kernel
  have horigin : rereadText x.origin = y.origin := by decide +kernel
  have hreread : x.reread = y := by
    rw [Declaration.reread, hname, hvalue, horigin]
  refine ⟨hwrite, ?_, ?_⟩
  · have hload := loadDocument_eq_reread [x] hsuffix hwrite
    rw [List.map_singleton, hreread] at hload
    exact hload
  · simp [x, y, Declaration.toValue_item, Declaration.entries]

end CssMargin
