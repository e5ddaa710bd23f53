/-
# A listing as JSON loses nothing

What a command prints as a listing in JSON is in ASCII and without control sequences, so that it is
printed as it is, and a file with this text is a document that holds the same declarations in the
same order.  Only the order of the fields of a declaration changes, which says nothing.  This holds
of all texts of characters; two halves in a text that make up a surrogate pair would become one
character.
-/
import CssMargin.Proofs.Command.Outcome
import CssMargin.Proofs.Disk.WriteRead
import CssMargin.Proofs.Json.RoundTrip
namespace CssMargin

/-! ### Fields in another order -/

/-- Whether two values are mappings with the same entries, in whatever order. -/
inductive Value.SameMapping : Value → Value → Prop
  | map {entries entries' : List (Value × Value)} (h : entries.Perm entries') :
      SameMapping (.map entries) (.map entries')

namespace Json

/-- The entry of a member is found under its key. -/
lemma lookup?_toEntries {ms : List (Text × Json)} (hkeys : (ms.map (·.1)).Nodup) {k : String}
    {j : Json} (h : ((k : Text), j) ∈ ms) : Value.lookup? k (toEntries ms) = some j.toValue := by
  induction ms with
  | nil => cases h
  | cons m r ih =>
    rw [List.map_cons, List.nodup_cons] at hkeys
    rw [toEntries, Value.lookup?_cons]
    rcases List.mem_cons.1 h with rfl | h
    · simp
    · have hk : (k : Text) ∈ r.map (·.1) := List.mem_map_of_mem h
      have hne : m.1 ≠ k := fun e => hkeys.1 (e ▸ hk)
      simp [hne, ih hkeys.2 h]

/-- Putting the members of an object in another order gives the same mapping. -/
lemma sameMapping_toValue {ms ms' : List (Text × Json)} (h : ms.Perm ms') :
    Value.SameMapping (toValue (.object ms)) (toValue (.object ms')) := by
  rw [toValue, toValue, toEntries_eq_map, toEntries_eq_map]
  exact .map (h.map _)

end Json

/-! ### The printed text -/

namespace Command

open Json

/-- A listing as an object. -/
def listingItem (name : Name) (ds : List Declaration) : Json :=
  resultItem name true [("declarations", .list (ds.map Declaration.item))]

/-- What is printed of a listing in JSON. -/
def listingJson (name : Name) (ds : List Declaration) : String :=
  Json.write .result (listingItem name ds) ++ "\n"

/-- Whether no two halves in the texts of a declaration make up a surrogate pair. -/
structure KeepsHalves (d : Declaration) : Prop where
  /-- The value. -/
  value : Unpaired d.value.points
  /-- The origin. -/
  origin : Unpaired d.origin.points

lemma integral_item (d : Declaration) : Integral d.item := by
  refine .object fun m hm => ?_
  simp only [List.mem_cons, List.not_mem_nil, or_false] at hm
  rcases hm with rfl | rfl | rfl | rfl
  · exact .text _
  · exact .text _
  · exact .bool _
  · exact .text _

lemma integral_listingItem (name : Name) (ds : List Declaration) :
    Integral (listingItem name ds) := by
  refine .object fun m hm => ?_
  simp only [List.mem_append, List.mem_cons, List.not_mem_nil, or_false] at hm
  rcases hm with (rfl | rfl | rfl) | rfl
  · exact .text _
  · exact .text _
  · exact .bool _
  · refine .list fun j hj => ?_
    obtain ⟨d, -, rfl⟩ := List.mem_map.1 hj
    exact integral_item d

lemma readable_item {d : Declaration} (h : KeepsHalves d) : Readable d.item := by
  have hkeys : ["property", "value", "important", "origin"].Nodup := by decide
  refine .object_of_strings rfl hkeys fun m hm => ?_
  simp only [List.mem_cons, List.not_mem_nil, or_false] at hm
  rcases hm with rfl | rfl | rfl | rfl
  · exact .string _
  · exact .text h.value
  · exact .bool _
  · exact .text h.origin

lemma readable_listingItem (name : Name) {ds : List Declaration} (h : ∀ d ∈ ds, KeepsHalves d) :
    Readable (listingItem name ds) := by
  have hkeys : ["tool", "command", "ok", "declarations"].Nodup := by decide
  refine .object_of_strings rfl hkeys fun m hm => ?_
  simp only [List.mem_append, List.mem_cons, List.not_mem_nil, or_false] at hm
  rcases hm with (rfl | rfl | rfl) | rfl
  · exact .string _
  · exact .string _
  · exact .bool _
  · refine .list fun j hj => ?_
    obtain ⟨d, hd, rfl⟩ := List.mem_map.1 hj
    exact readable_item (h d hd)

lemma toList_listingJson (name : Name) (ds : List Declaration) :
    (listingJson name ds).toList = writeAt .result 0 (listingItem name ds) ++ ['\n'] := by
  rw [listingJson, String.toList_append, Json.write, String.toList_ofList]
  rfl

lemma isPlainChar_listingJson (name : Name) (ds : List Declaration) :
    ∀ c ∈ (listingJson name ds).toList, IsPlainChar c := by
  intro c hc
  rw [toList_listingJson, List.mem_append, List.mem_singleton] at hc
  rcases hc with hc | rfl
  · exact (integral_listingItem name ds).isPlainChar rfl 0 c hc
  · exact Or.inl rfl

/-- What is printed has no control sequence that could be left out. -/
lemma plain_listingJson (name : Name) (ds : List Declaration) :
    Text.plain (listingJson name ds) = listingJson name ds :=
  (integral_listingItem name ds).plain_write

/-! ### The text read again -/

/-- The members of a listing in the order in which they are written. -/
lemma exists_arranged_listingItem (name : Name) (ds : List Declaration) :
    ∃ ms, arranged .result (listingItem name ds) = .object ms ∧ (ms.map (·.1)).Nodup ∧
      (("declarations" : Text), .list (ds.map fun d => arranged .result d.item)) ∈ ms := by
  have hkeys : [("tool" : Text), ("command" : Text), ("ok" : Text),
    ("declarations" : Text)].Nodup := by decide
  have hperm := Layout.result.arrange_perm (arrangedMembers .result
    ([(("tool" : Text), .text "shorthand"), (("command" : Text), .text name.text),
      (("ok" : Text), .bool true)] ++
      [(("declarations" : Text), .list (ds.map Declaration.item))]))
  refine ⟨_, rfl, ?_, ?_⟩
  · rw [(hperm.map (·.1)).nodup_iff]
    exact hkeys
  · rw [hperm.mem_iff, arrangedMembers_eq_map]
    simp [arranged, arrangedItems_eq_map]

/-- The fields of a declaration come in another order. -/
lemma sameMapping_arranged_item (d : Declaration) :
    Value.SameMapping (arranged .result d.item).toValue d.item.toValue := by
  have hperm := Layout.result.arrange_perm (arrangedMembers .result
    [(("property" : Text), text d.name), (("value" : Text), text d.value),
      (("important" : Text), Json.bool d.important), (("origin" : Text), text d.origin)])
  exact sameMapping_toValue hperm

/-- **The listing in JSON is lossless.**  A command prints a listing in JSON in ASCII only, with
nothing left out; and a `.json` file with what was printed is loaded as a document whose
declarations are those of the listing, one by one and in order.  Their texts have any characters and
any halves, but no two halves that make up a surrogate pair. -/
theorem loadDocument_listingJson (name : Name) {ds : List Declaration}
    (hds : ∀ x ∈ ds, KeepsHalves x) (s : Session) {d d' : Disk} {p : Path}
    (hsuffix : DocumentFormat.ofSuffix? p.suffix = some .json)
    (hwrite : d.writeText p (listingJson name ds).toList = .ok d') :
    (printListing name .json ds).outcome s =
        (.ok (), { s with output := s.output ++ listingJson name ds }) ∧
      Text.plain (listingJson name ds) = listingJson name ds ∧
      (∀ c ∈ (listingJson name ds).toList, c.toNat < 0x80) ∧
      ∃ items, loadDocument d' p = .ok ⟨.list items, some p.text⟩ ∧
        List.Forall₂ Value.SameMapping items (ds.map fun d => d.item.toValue) := by
  have hplain := isPlainChar_listingJson name ds
  refine ⟨?_, plain_listingJson name ds, ?_, ?_⟩
  · have hwhole : (Text.plain (listingJson name ds)).whole = .ok (listingJson name ds) := by
      rw [plain_listingJson, Text.whole_coe]
    exact Run.outcome_print_of_ok hwhole s
  · intro c hc
    rcases hplain c hc with rfl | ⟨-, h⟩
    · decide
    · omega
  · have hcr : '\r' ∉ (listingJson name ds).toList := fun h =>
      absurd (hplain _ h) (by decide)
    obtain ⟨ms, hms, hkeys, hmem⟩ := exists_arranged_listingItem name ds
    have hblank : Blank ['\n'] := List.all_iff_forall_prop.1 (by decide)
    have hread : DocumentFormat.json.read (listingJson name ds).toList =
        .ok (.map (toEntries ms)) := by
      rw [DocumentFormat.read, toList_listingJson,
        read_writeAt (readable_listingItem name hds) .result hblank, hms]
      rfl
    have hload := loadDocument_of_read_eq_map hwrite hsuffix hcr hread
    rw [lookup?_toEntries hkeys hmem, Option.getD_some, toValue, toValues_eq_map] at hload
    refine ⟨_, hload, ?_⟩
    rw [List.map_map, List.forall₂_map_left_iff, List.forall₂_map_right_iff, List.forall₂_same]
    exact fun x _ => sameMapping_arranged_item x

/-- Declarations with a control sequence, line ends, quotes and a character of another plane. -/
theorem loadDocument_listingJson_unusual :
    let ds : List Declaration := [⟨"margin-top", "\x1b[1m\\ \"\r\n\x7f", true, "user"⟩,
      ⟨"", "\u00e9 \u2028 😀", false, "nobody"⟩]
    let s := Session.start ⟨["work"], []⟩
    let d' := s.disk.put ["work", "all.JSON"]
      (.file (Text.encodeUtf8 (listingJson .expandFile ds).toList))
    let p := Path.ofText "all.JSON"
    (∀ x ∈ ds, KeepsHalves x) ∧ DocumentFormat.ofSuffix? p.suffix = some .json ∧
      s.disk.writeText p (listingJson .expandFile ds).toList = .ok d' ∧
      (printListing .expandFile .json ds).outcome s =
        (.ok (), { s with output := s.output ++ listingJson .expandFile ds }) ∧
      Text.plain (listingJson .expandFile ds) = listingJson .expandFile ds ∧
      (∀ c ∈ (listingJson .expandFile ds).toList, c.toNat < 0x80) ∧
      ∃ items, loadDocument d' p = .ok ⟨.list items, some p.text⟩ ∧
        List.Forall₂ Value.SameMapping items (ds.map fun d => d.item.toValue) := by
  intro ds s d' p
  have hds : ∀ x ∈ ds, KeepsHalves x := by
    simp only [ds, List.forall_mem_cons, List.not_mem_nil, false_imp_iff, implies_true, and_true]
    exact ⟨⟨unpaired_coe _, unpaired_coe _⟩, ⟨unpaired_coe _, unpaired_coe _⟩⟩
  have hsuffix : DocumentFormat.ofSuffix? p.suffix = some .json := by decide +kernel
  have hplace : s.disk.locate p = .ok ["work", "all.JSON"] := by decide +kernel
  have hwrite : s.disk.writeText p (listingJson .expandFile ds).toList = .ok d' := by
    rw [Disk.writeText, Disk.writeFile, hplace]
    rfl
  exact ⟨hds, hsuffix, hwrite, loadDocument_listingJson .expandFile hds s hsuffix hwrite⟩

end Command

end CssMargin
