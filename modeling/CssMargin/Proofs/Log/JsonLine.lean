/-
# Records as JSON lines

A record with a message is written as a JSON object on one line, and nothing is lost: read again,
the line gives the object back, with its members in their order.  `RecordedIn` says what members
these are, in terms of the record.

There are two things to show.  The members are those that they should be, which is a matter of
lookups, as no key is there twice.  And the text leads back to the object and has no control
characters; this holds of every object that can be read again, so only the further fields matter,
which can be anything.
-/
import CssMargin.Log.Record
import CssMargin.Proofs.Json.RoundTrip
namespace CssMargin.Log

/-! ### The members -/

namespace Record

/-- The value of a further field, unless it is missing or `null`. -/
def written? (r : Record) (k : String) : Option Json :=
  (r.fields.lookup k).filter fun j => !j.isNull

/-- Whether members are those of a record with a message. -/
structure RecordedIn (r : Record) (message : Text) (ms : List (Text × Json)) : Prop where
  /-- There are no others, and they are in this order. -/
  keys : ms.map (·.1) = (["timestamp", "level", "logger", "message"] ++
    ["arity", "index", "error_code", "command"].filter (fun k => (r.written? k).isSome) ++
      (r.caught.map fun _ => "exception").toList).map fun k : String => (k : Text)
  /-- The time, in universal time. -/
  timestamp : ms.lookup ("timestamp" : Text) =
    some (.text (({ r.time with offset := some 0 } : Moment).text "T"))
  /-- The level. -/
  level : ms.lookup ("level" : Text) = some (.text (levelText r.level))
  /-- The logger. -/
  logger : ms.lookup ("logger" : Text) = some (.text r.logger)
  /-- The message. -/
  message : ms.lookup ("message" : Text) = some (.text message)
  /-- The further fields have the values that they have in the record. -/
  field : ∀ k ∈ ["arity", "index", "error_code", "command"], ms.lookup (k : Text) = r.written? k
  /-- The report of the error that was caught. -/
  exception : ms.lookup ("exception" : Text) = r.caught.map fun report : String => .text report

section Fields

variable (f : String → Option Json) (ks : List String)

lemma map_fst_filterMap : (ks.filterMap fun k => (f k).map ((k : Text), ·)).map (·.1) =
    (ks.filter fun k => (f k).isSome).map fun k : String => (k : Text) := by
  induction ks with
  | nil => rfl
  | cons k ks ih => cases h : f k <;> simp [h, ih]

lemma lookup_filterMap (k : String) :
    (ks.filterMap fun k => (f k).map ((k : Text), ·)).lookup (k : Text) =
      if k ∈ ks then f k else none := by
  induction ks with
  | nil => rfl
  | cons k' ks ih =>
    by_cases hk : k = k'
    · -- a field without a value is not found behind its place either
      subst hk
      cases h : f k <;> simp [h, ih]
    · have hne : ((k : Text) == (k' : Text)) = false :=
        beq_false_of_ne fun h => hk (Text.coe_inj.1 h)
      cases h : f k' <;> simp [h, ih, hk, hne, List.lookup_cons]

end Fields

lemma shownFields_eq (r : Record) : r.shownFields =
    ["arity", "index", "error_code", "command"].filterMap
      fun k => (r.written? k).map ((k : Text), ·) := by
  have hfield (k : String) : (do
      let j ← r.fields.lookup k
      if j.isNull then none else some ((k : Text), j)) = (r.written? k).map ((k : Text), ·) := by
    rw [written?]
    cases r.fields.lookup k with
    | none => rfl
    | some j => cases h : j.isNull <;> simp [h, Option.filter]
  rw [shownFields, funext hfield]
  rfl

lemma recordedIn_members (r : Record) (message : Text) :
    r.RecordedIn message (r.members message) := by
  rw [members, shownFields_eq]
  constructor
  · rw [List.map_append, List.map_append, map_fst_filterMap, List.map_append, List.map_append]
    cases r.caught <;> rfl
  · rfl
  · rfl
  · rfl
  · rfl
  · intro k hk
    rw [List.lookup_append, List.lookup_append, lookup_filterMap, if_pos hk]
    simp only [List.mem_cons, List.not_mem_nil, or_false] at hk
    rcases hk with rfl | rfl | rfl | rfl <;> cases r.caught <;> exact Option.or_none
  · rw [List.lookup_append, List.lookup_append, lookup_filterMap, if_neg (by decide)]
    cases r.caught <;> rfl

/-- No key is there twice. -/
lemma nodup_keys (r : Record) : (["timestamp", "level", "logger", "message"] ++
    ["arity", "index", "error_code", "command"].filter (fun k => (r.written? k).isSome) ++
      (r.caught.map fun _ => "exception").toList).Nodup := by
  have hall : (["timestamp", "level", "logger", "message"] ++
      ["arity", "index", "error_code", "command"] ++ ["exception"]).Nodup := by decide
  refine hall.sublist (List.Sublist.append (List.Sublist.append (List.Sublist.refl _)
    List.filter_sublist) ?_)
  cases r.caught with
  | none => exact List.nil_sublist _
  | some _ => exact List.Sublist.refl _

end Record

/-! ### The line -/

/-- What holds of all strings, of the message and of the further fields holds of all values. -/
lemma Record.forall_members (r : Record) {P : Json → Prop} {message : Text}
    (hstring : ∀ s : String, P (.text s)) (hmessage : P (.text message))
    (hfields : ∀ k ∈ ["arity", "index", "error_code", "command"], ∀ j,
      r.written? k = some j → P j) : ∀ m ∈ r.members message, P m.2 := by
  intro m hm
  rw [members, shownFields_eq, List.mem_append, List.mem_append, List.mem_filterMap] at hm
  rcases hm with (hm | ⟨k, hk, hm⟩) | hm
  · simp only [List.mem_cons, List.not_mem_nil, or_false] at hm
    rcases hm with rfl | rfl | rfl | rfl
    · exact hstring _
    · exact hstring _
    · exact hstring _
    · exact hmessage
  · obtain ⟨j, hj, rfl⟩ := Option.map_eq_some_iff.1 hm
    exact hfields k hk j hj
  · obtain ⟨report, -, rfl⟩ := Option.map_eq_some_iff.1 (Option.mem_toList.1 hm)
    exact hstring report

/-- No integer is too long if none of the further fields has such an integer. -/
lemma Record.anyLongMember_shownFields (r : Record)
    (hfields : ∀ k ∈ ["arity", "index", "error_code", "command"], ∀ j,
      r.written? k = some j → j.hasLongInteger = false) :
    Json.anyLongMember r.shownFields = false := by
  rw [Json.anyLongMember_eq_any]
  refine List.any_eq_false.2 fun m hm => ?_
  rw [shownFields_eq, List.mem_filterMap] at hm
  obtain ⟨k, hk, hm⟩ := hm
  obtain ⟨j, hj, rfl⟩ := Option.map_eq_some_iff.1 hm
  simp [hfields k hk j hj]

/-- The members can be read again if the further fields can. -/
lemma Record.readable_members {r : Record}
    (hfields : ∀ k ∈ ["arity", "index", "error_code", "command"], ∀ j,
      r.written? k = some j → Json.Readable j) {message : Text}
    (hpaired : Json.Unpaired message.points) : Json.Readable (.object (r.members message)) :=
  .object_of_strings (r.recordedIn_members message).keys r.nodup_keys
    (r.forall_members .string (.text hpaired) hfields)

end CssMargin.Log
