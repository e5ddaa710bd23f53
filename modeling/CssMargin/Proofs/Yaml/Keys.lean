/-
# Keys of mappings

A mapping that is filled entry by entry has no key twice: an entry whose key is there already takes
the place of the other.  So the entries with a given text as key are at most one, and looking the
key up finds it.  Every mapping that a YAML text stands for was filled in this way.
-/
import CssMargin.Proofs.Chain
import CssMargin.Yaml.Meaning.Document
namespace CssMargin

namespace Value

/-- Whether no two entries of a mapping have the same key. -/
def DistinctKeys (entries : List (Value × Value)) : Prop :=
  entries.Pairwise fun a b => a.1.sameKey b.1 = false

lemma isText_iff {k : Value} {s : String} : k.isText s = true ↔ k = .text s := by
  cases k <;> simp [isText]

/-! ### Filling a mapping -/

/-- Putting an entry into a mapping brings in no key but its own. -/
lemma key_of_mem_insert {k v : Value} {entries : List (Value × Value)} {e : Value × Value}
    (h : e ∈ insert k v entries) : e.1 = k ∨ ∃ x ∈ entries, x.1 = e.1 := by
  induction entries with
  | nil =>
    rw [insert, List.mem_singleton] at h
    exact .inl (congrArg Prod.fst h)
  | cons x r ih =>
    rw [insert] at h
    split at h
    · -- the entry that is there keeps its key
      rcases List.mem_cons.1 h with rfl | h
      · exact .inr ⟨x, List.mem_cons_self .., rfl⟩
      · exact .inr ⟨e, List.mem_cons_of_mem _ h, rfl⟩
    · rcases List.mem_cons.1 h with rfl | h
      · exact .inr ⟨e, List.mem_cons_self .., rfl⟩
      · rcases ih h with h | ⟨y, hy, hkey⟩
        · exact .inl h
        · exact .inr ⟨y, List.mem_cons_of_mem _ hy, hkey⟩

lemma DistinctKeys.insert {entries : List (Value × Value)} (h : DistinctKeys entries)
    (k v : Value) : DistinctKeys (insert k v entries) := by
  induction entries with
  | nil => exact List.pairwise_singleton _ _
  | cons x r ih =>
    obtain ⟨hx, hr⟩ := List.pairwise_cons.1 h
    rw [Value.insert]
    split
    · exact List.pairwise_cons.2 ⟨hx, hr⟩
    · rename_i hk
      refine List.pairwise_cons.2 ⟨fun e he => ?_, ih hr⟩
      rcases key_of_mem_insert he with hkey | ⟨y, hy, hkey⟩
      · rw [hkey]
        exact Bool.eq_false_iff.2 hk
      · rw [← hkey]
        exact hx y hy

/-- A mapping that is filled entry by entry has no key twice. -/
lemma distinctKeys_ofEntries (es : List (Value × Value)) : DistinctKeys (ofEntries es) := by
  suffices ∀ acc, DistinctKeys acc →
      DistinctKeys (es.foldl (fun acc e => Value.insert e.1 e.2 acc) acc) from
    this [] List.Pairwise.nil
  induction es with
  | nil => exact fun acc hacc => hacc
  | cons e es ih => exact fun acc hacc => ih _ (hacc.insert e.1 e.2)

/-! ### Looking up a key -/

/-- In a mapping that has no key twice, what is found under a text is what stands there. -/
lemma DistinctKeys.lookup?_eq_some_iff {entries : List (Value × Value)}
    (h : DistinctKeys entries) {k : String} {v : Value} :
    lookup? k entries = some v ↔ (.text k, v) ∈ entries := by
  induction entries with
  | nil => simp
  | cons e r ih =>
    obtain ⟨he, hr⟩ := List.pairwise_cons.1 h
    rw [lookup?_cons, List.mem_cons]
    by_cases hk : e.1.isText k = true
    · -- no other entry has this key
      have hkey : e.1 = .text k := isText_iff.1 hk
      have hother : (.text k, v) ∉ r := by
        intro hmem
        have hfalse := he _ hmem
        rw [hkey, sameKey_text, beq_self_eq_true] at hfalse
        cases hfalse
      rw [if_pos hk, Option.some.injEq, or_iff_left hother, Prod.ext_iff, hkey]
      simp [eq_comm]
    · have hne : (.text k, v) ≠ e := by
        rintro rfl
        exact hk (isText_iff.2 rfl)
      rw [if_neg hk, ih hr, or_iff_right hne]

/-- The order of the entries does not matter to lookups. -/
lemma DistinctKeys.lookup?_eq_of_perm {es es' : List (Value × Value)} (h : DistinctKeys es)
    (h' : DistinctKeys es') (hperm : es.Perm es') (k : String) :
    lookup? k es = lookup? k es' := by
  refine Option.ext fun v => ?_
  rw [h.lookup?_eq_some_iff, h'.lookup?_eq_some_iff, hperm.mem_iff]

end Value

namespace Yaml

/-! ### Mappings in YAML -/

/-- A scalar stands for no mapping. -/
lemma scalarValue_ne_map (tag : Tag) (s : List Point) (entries : List (Value × Value)) :
    scalarValue tag s ≠ .ok (.map entries) := by
  have hscalar {α : Type} {r : Except Mishap α} {f : α → Value} (hf : ∀ a, f a ≠ .map entries) :
      ofScalar f r ≠ .ok (.map entries) := by
    cases r with
    | error m => exact fun h => by cases h
    | ok a => exact fun h => hf a (Except.ok.inj h)
  rw [scalarValue.eq_def]
  split
  · exact fun h => by cases h
  · exact fun h => by cases h
  · exact hscalar fun _ h => by cases h
  · exact hscalar fun _ h => by cases h
  · exact hscalar fun _ h => by cases h
  · refine hscalar fun t h => ?_
    cases t <;> cases h
  · cases readBinary s with
    | error e => exact fun h => by cases h
    | ok bytes => exact fun h => by cases h
  · exact fun h => by cases h

namespace Scope

variable {s : Scope} {n : Node} {entries : List (Value × Value)}

lemma leaf_ne_map {c : Progress} : leaf c n ≠ .map entries := by
  intro h
  rw [leaf] at h
  cases hr : reading? c n with
  | none =>
    rw [hr] at h
    cases h
  | some r =>
    rw [hr, Option.bind_some] at h
    cases hv : scalarValue r.tag r.text with
    | error e =>
      rw [hv] at h
      cases h
    | ok v =>
      rw [hv] at h
      exact scalarValue_ne_map _ _ entries (hv.trans (congrArg Except.ok h))

lemma distinctKeys_emptyValue {tag : Tag} (h : emptyValue tag = .map entries) :
    Value.DistinctKeys entries := by
  cases tag with
  | map =>
    cases h
    exact List.Pairwise.nil
  | _ => cases h

/-- A mapping that a node stands for has no key twice. -/
lemma distinctKeys_of_value {c : Progress} {fuel level : Nat} {within : List String}
    (h : s.value c fuel level within n = .map entries) : Value.DistinctKeys entries := by
  cases fuel with
  | zero => exact distinctKeys_emptyValue h
  | succ fuel =>
    rw [value] at h
    dsimp only at h
    split at h
    · split at h
      · exact distinctKeys_emptyValue h
      · split at h
        all_goals cases h
        exact Value.distinctKeys_ofEntries _
    · exact absurd h leaf_ne_map

end Scope

/-- A mapping that a text stands for has no key twice. -/
lemma distinctKeys_of_read {s : List Char} {entries : List (Value × Value)}
    (h : read s = .ok (.map entries)) : Value.DistinctKeys entries := by
  rw [read] at h
  cases hnodes : readNodes s with
  | error e =>
    rw [hnodes] at h
    cases h
  | ok root =>
    rw [hnodes, ok_bind] at h
    cases root with
    | none => cases h
    | some n =>
      dsimp only at h
      rw [Node.meaning] at h
      dsimp only at h
      cases hcheck : Scope.check ⟨n.named, n.size⟩ n with
      | error e =>
        rw [hcheck] at h
        cases h
      | ok c =>
        rw [hcheck, ok_bind] at h
        exact Scope.distinctKeys_of_value (Except.ok.inj h)

end Yaml

end CssMargin
