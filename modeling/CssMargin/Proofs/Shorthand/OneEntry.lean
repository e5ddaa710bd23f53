/-
# A document with one entry

An entry that says values, an importance and an origin leaves nothing to the defaults, so whether a
document with this entry alone is accepted depends on what the entry says and on nothing else.
`Expandable` is the condition on the values and on the origin.  Every such document can be written
to a file: that of `entryItem` is loaded again as an entry that says what it was made from.
-/
import CssMargin.Proofs.Listing.Json
import CssMargin.Proofs.Shorthand.Acceptance
namespace CssMargin

/-! ### A shorthand as an entry -/

/-- Whether there can be a shorthand with these values and from this origin. -/
def Expandable (values : List Text) (origin : Text) : Prop :=
  (1 ≤ values.length ∧ values.length ≤ 4) ∧ ∃ o : Origin, origin = o.name

/-- Whether the fields of an entry say values, an importance and an origin, and name no property. -/
structure Spells (values : List Text) (important : Bool) (origin : Text)
    (fields : List (Value × Value)) : Prop where
  /-- No property is named. -/
  property : Value.lookup? "property" fields = none
  /-- The values. -/
  values : Value.lookup? "values" fields = some (.list (values.map .text))
  /-- The importance. -/
  important : Value.lookup? "important" fields = some (.bool important)
  /-- The origin. -/
  origin : Value.lookup? "origin" fields = some (.text origin)

section Entry

variable {values : List Text} {important : Bool} {origin : Text}
  {fields : List (Value × Value)} {defaults : EntryDefaults}

/-- The entry leaves nothing to the defaults. -/
lemma Spells.wellFormed_iff (h : Spells values important origin fields) :
    WellFormedFields defaults fields ↔ Expandable values origin := by
  constructor
  · intro hw
    obtain ⟨items, hitems, hone, hfour, -⟩ := hw.values
    rw [h.values] at hitems
    cases hitems
    rw [List.length_map] at hone hfour
    obtain ⟨o, ho⟩ := hw.origin
    rw [h.origin] at ho
    cases ho
    exact ⟨⟨hone, hfour⟩, o, rfl⟩
  · rintro ⟨⟨hone, hfour⟩, o, rfl⟩
    refine ⟨fun v hv => ?_, ⟨_, h.values, by simpa using hone, by simpa using hfour,
      exists_map_text_iff.1 ⟨values, rfl⟩⟩, ⟨important, by rw [h.important]; rfl⟩,
      ⟨o, by rw [h.origin]; rfl⟩⟩
    rw [h.property] at hv
    cases hv

/-- An entry that leaves nothing to the defaults is well formed if there can be its shorthand. -/
lemma Spells.wellFormedEntry_iff (h : Spells values important origin fields) :
    WellFormedEntry defaults (.map fields) ↔ Expandable values origin := by
  have hfields : WellFormedFields defaults fields ↔ Expandable values origin := h.wellFormed_iff
  rw [← hfields]
  constructor
  · rintro ⟨_, he, hw⟩
    cases he
    exact hw
  · intro hw
    exact ⟨fields, rfl, hw⟩

variable {doc : Document}

/-- A document with this entry alone is accepted exactly when there can be its shorthand. -/
lemma Spells.exists_check_iff (h : Spells values important origin fields)
    (hdoc : doc.declarations = .list [.map fields]) :
    (∃ ss, doc.check defaults = .ok ss) ↔ Expandable values origin := by
  simp only [check_list_eq_ok_iff hdoc, List.forall_mem_singleton, h.wellFormedEntry_iff,
    exists_and_left, exists_eq, and_true]

/-- The declarations of an accepted document with this entry alone are those of the shorthand. -/
lemma Spells.flatMap_expand (h : Spells values important origin fields)
    (hdoc : doc.declarations = .list [.map fields]) {ss : List Shorthand}
    (hcheck : doc.check defaults = .ok ss) :
    ss.flatMap Shorthand.expand = expandMargin values important origin := by
  obtain ⟨hw, rfl⟩ := (check_list_eq_ok_iff hdoc).1 hcheck
  have he : Expandable values origin :=
    h.wellFormedEntry_iff.1 (hw _ (List.mem_singleton_self _))
  obtain ⟨hcount, o, rfl⟩ := he
  have hentry : checkEntry defaults 0 (.map fields) =
      .ok ⟨marginProperty, values, important, o, 0⟩ :=
    checkEntry_of_wellFormed (h.wellFormed_iff.2 ⟨hcount, o, rfl⟩)
      ⟨rfl, h.values, by rw [h.important]; rfl, by rw [h.origin]; rfl, rfl⟩
  have hshorthands : entryShorthands defaults [Value.map fields].zipIdx =
      [⟨marginProperty, values, important, o, 0⟩] := by
    simp [entryShorthands, hentry, Except.toOption]
  rw [hshorthands, List.flatMap_singleton, Shorthand.expand]

end Entry

/-! ### A shorthand in a file -/

section File

open Json

/-- No entry is found under a key that no member has. -/
lemma Json.lookup?_toEntries_eq_none {ms : List (Text × Json)} {k : String}
    (h : (k : Text) ∉ ms.map (·.1)) : Value.lookup? k (toEntries ms) = none := by
  induction ms with
  | nil => rfl
  | cons m r ih =>
    rw [List.map_cons, List.mem_cons, not_or] at h
    obtain ⟨hne, hr⟩ := h
    rw [toEntries, Value.lookup?_cons, if_neg (by simpa using Ne.symm hne), ih hr]

/-- The members of an entry that says a shorthand. -/
def entryMembers (values : List Text) (important : Bool) (origin : Text) :
    List (Text × Json) :=
  [("values", .list (values.map .text)), ("important", .bool important), ("origin", .text origin)]

/-- A document with one entry as an object. -/
def entryItem (values : List Text) (important : Bool) (origin : Text) : Json :=
  .object [("declarations", .list [.object (entryMembers values important origin)])]

variable (values : List Text) (important : Bool) (origin : Text)

/-- It can be read again if no two halves in its texts make up a surrogate pair. -/
lemma readable_entryItem (hvalues : ∀ v ∈ values, Unpaired v.points)
    (horigin : Unpaired origin.points) : Readable (entryItem values important origin) := by
  have hkey : ["declarations"].Nodup := by decide
  refine .object_of_strings rfl hkey fun m hm => ?_
  cases List.mem_singleton.1 hm
  refine .list fun j hj => ?_
  cases List.mem_singleton.1 hj
  have hkeys : ["values", "important", "origin"].Nodup := by decide
  refine .object_of_strings rfl hkeys fun m hm => ?_
  simp only [entryMembers, List.mem_cons, List.not_mem_nil, or_false] at hm
  rcases hm with rfl | rfl | rfl
  · refine .list fun j hj => ?_
    obtain ⟨t, ht, rfl⟩ := List.mem_map.1 hj
    exact .text (hvalues t ht)
  · exact .bool important
  · exact .text horigin

/-- The fields of the entry as they are written. -/
def entryFields : List (Value × Value) :=
  toEntries (Layout.result.arrange (arrangedMembers .result (entryMembers values important origin)))

/-- They say the shorthand, in whatever order they are written. -/
lemma spells_entryFields :
    Spells values important origin (entryFields values important origin) := by
  have harranged : arrangedMembers .result (entryMembers values important origin) =
      entryMembers values important origin := by
    simp [arrangedMembers_eq_map, entryMembers, arranged, arrangedItems_eq_map]
  have hperm := Layout.result.arrange_perm (entryMembers values important origin)
  have hkeys : ((entryMembers values important origin).map (·.1)).Nodup := by
    change [("values" : Text), "important", "origin"].Nodup
    decide
  have hnodup := (hperm.map (·.1)).nodup_iff.2 hkeys
  rw [entryFields, harranged]
  constructor
  · refine lookup?_toEntries_eq_none fun h => ?_
    rw [(hperm.map (·.1)).mem_iff] at h
    exact absurd h (by simp [entryMembers])
  · rw [lookup?_toEntries hnodup (j := .list (values.map .text))
      (hperm.mem_iff.2 (by simp [entryMembers]))]
    simp [toValue, toValues_eq_map]
  · rw [lookup?_toEntries hnodup (j := .bool important)
      (hperm.mem_iff.2 (by simp [entryMembers]))]
    rfl
  · rw [lookup?_toEntries hnodup (j := .text origin)
      (hperm.mem_iff.2 (by simp [entryMembers]))]
    rfl

/-- Such a shorthand can be said in a file: one with this text is loaded as a document with an entry
that says it. -/
theorem loadDocument_entryItem {d d' : Disk} {p : Path}
    (hvalues : ∀ v ∈ values, Unpaired v.points) (horigin : Unpaired origin.points)
    (hsuffix : DocumentFormat.ofSuffix? p.suffix = some .json)
    (hwrite : d.writeText p (writeAt .result 0 (entryItem values important origin)) = .ok d') :
    loadDocument d' p =
      .ok ⟨.list [.map (entryFields values important origin)], some p.text⟩ := by
  have hreadable := readable_entryItem values important origin hvalues horigin
  have hcr : '\r' ∉ writeAt .result 0 (entryItem values important origin) := fun h =>
    absurd (hreadable.isPlainChar rfl 0 _ h) (by decide)
  have hwhole : arranged .result (entryItem values important origin) =
      .object [("declarations", .list [.object (Layout.result.arrange
        (arrangedMembers .result (entryMembers values important origin)))])] :=
    congrArg Json.object (List.perm_singleton.1 (Layout.result.arrange_perm _))
  have hblank : Blank [] := by simp [Blank]
  have hread := read_writeAt hreadable .result hblank
  rw [List.append_nil, hwhole] at hread
  have hvalue : DocumentFormat.json.read (writeAt .result 0 (entryItem values important origin)) =
      .ok (.map [(.text "declarations", .list [.map (entryFields values important origin)])]) := by
    rw [DocumentFormat.read, hread]
    rfl
  exact loadDocument_of_read_eq_map hwrite hsuffix hcr hvalue

end File

end CssMargin
