/-
# Expanding an accepted document

The check of a document lets only those numbers of values through that have a table.  So every
shorthand of an accepted document is expanded, none is refused, and the declarations of the
document come in blocks of four, one block for each entry: every side once, in the order of the
entry's table, with the importance and the origin of the entry.  A value of the entry is used as it
is, unless it says `auto`; then the zero takes its place, and since the zero does not say `auto`,
no declaration does.

`IsExpansion` says what a block is for one shorthand; it is shown for a single expansion from the
table and then lifted to the blocks of a concatenation.
-/
import CssMargin.Log.Logger
import CssMargin.Proofs.Shorthand.Acceptance
namespace CssMargin

/-! ### Values that say `auto` -/

/-- Whether a text without the blanks around it and in small letters is `auto`. -/
def SaysAuto (value : Text) : Prop :=
  value.isWhole = true ∧ Text.lower (Text.trim value.head.toList) = "auto".toList

lemma isAuto_iff {value : Text} : isAuto value = true ↔ SaysAuto value := by
  have hword : ∀ c ∈ "auto".toList, c.toNat < 0x80 ∧ c ≠ 'k' :=
    List.all_iff_forall_prop.1 (by decide)
  rw [SaysAuto, Text.lower_eq_iff_lowerAscii_eq hword, isAuto, Text.isWord, Bool.and_eq_true,
    beq_iff_eq]

lemma isAuto_eq_false_iff {value : Text} : isAuto value = false ↔ ¬ SaysAuto value := by
  rw [← isAuto_iff, Bool.not_eq_true]

/-! ### The order of the sides -/

/-- The sides in the order in which a shorthand lists them: around the box for one and four values,
the sides of the first value before the others for two and three. -/
def Arity.sides : Arity → List Side
  | .one | .four => [.top, .right, .bottom, .left]
  | .two => [.top, .bottom, .right, .left]
  | .three => [.top, .right, .left, .bottom]

lemma Arity.map_fst_table (a : Arity) : a.table.map (·.1) = a.sides := by cases a <;> rfl

/-- Every side has its longhand property among those of a shorthand, and has it once. -/
lemma Arity.count_longhand (a : Arity) (side : Side) :
    (a.sides.map Side.longhand).count side.longhand = 1 := by
  cases a <;> cases side <;> decide

/-- Every value of a shorthand goes to some side. -/
lemma Arity.exists_mem_table {a : Arity} {i : Nat} (h : i < a.toNat) :
    ∃ side, (side, i) ∈ a.table := by
  have hall : ∀ i < a.toNat, ∃ p ∈ a.table, p.2 = i := by cases a <;> decide
  obtain ⟨⟨side, j⟩, hmem, rfl⟩ := hall i h
  exact ⟨side, hmem⟩

/-! ### One expansion -/

/-- Whether declarations are what a shorthand with so many values stands for. -/
structure IsExpansion (s : Shorthand) (arity : Arity) (block : List Declaration) : Prop where
  /-- They are for the four sides, in the order of the number of values. -/
  names : block.map (·.name) = arity.sides.map Side.longhand
  /-- Each side is there once. -/
  once : ∀ side : Side, (block.map (·.name)).count side.longhand = 1
  /-- They have the importance and the origin of the shorthand. -/
  flags : ∀ x ∈ block, x.important = s.important ∧ x.origin = s.origin.name
  /-- Their values are those of the shorthand, or zero if one of these says `auto`. -/
  values : ∀ x ∈ block, x.value ∈ s.values ∨ x.value = ("0" : Text) ∧ ∃ v ∈ s.values, SaysAuto v
  /-- Every value that does not say `auto` is used. -/
  used : ∀ v ∈ s.values, ¬ SaysAuto v → ∃ x ∈ block, x.value = v
  /-- None of their values says `auto`. -/
  noAuto : ∀ x ∈ block, ¬ SaysAuto x.value

/-- A value after substitution has its own text and does not say `auto`, or it said so and has the
text of the zero. -/
lemma text_substituteAuto (v : Text) :
    ((substituteAuto id v).text id = v ∧ ¬ SaysAuto v) ∨
      ((substituteAuto id v).text id = "0" ∧ SaysAuto v) := by
  cases h : isAuto v with
  | false =>
    rw [@substituteAuto_of_not_isAuto _ id v h]
    exact Or.inl ⟨rfl, isAuto_eq_false_iff.1 h⟩
  | true =>
    rw [@substituteAuto_of_isAuto _ id v h]
    exact Or.inr ⟨rfl, isAuto_iff.1 h⟩

/-- A value is whole before substitution if it is so after it, since `auto` and the zero are. -/
lemma isWhole_text_substituteAuto (v : Text) :
    ((substituteAuto id v).text id).isWhole = v.isWhole := by
  rcases text_substituteAuto v with ⟨htext, -⟩ | ⟨htext, hauto⟩
  · rw [htext]
  · rw [htext, hauto.1]
    rfl

section Block

variable {values : List Text} {arity : Arity}

/-- Every entry of the table gets a value. -/
lemma map_fst_place (h : values.length = arity.toNat) :
    (Expander.place arity (values.map (substituteAuto id))).map (·.1) = arity.sides := by
  have hsome : ∀ p ∈ arity.table, ∃ v, values[p.2]? = some v := by
    intro p hp
    have hlt : p.2 < values.length := h ▸ Arity.snd_lt_of_mem_table hp
    exact ⟨values[p.2], List.getElem?_eq_getElem hlt⟩
  rw [← Arity.map_fst_table, Expander.place]
  generalize arity.table = table at hsome
  induction table with
  | nil => rfl
  | cons p r ih =>
    obtain ⟨side, i⟩ := p
    obtain ⟨v, hv⟩ := hsome (side, i) (List.mem_cons_self ..)
    have hr := ih fun q hq => hsome q (List.mem_cons_of_mem _ hq)
    have hi : (values.map (substituteAuto id))[i]? = some (substituteAuto id v) := by
      rw [List.getElem?_map, hv, Option.map_some]
    simp only [List.filterMap_cons, hi, Option.map_some, List.map_cons, hr]

lemma mem_place_iff {side : Side} {r : Resolved Text} :
    (side, r) ∈ Expander.place arity (values.map (substituteAuto id)) ↔
      ∃ i v, (side, i) ∈ arity.table ∧ values[i]? = some v ∧ r = substituteAuto id v := by
  simp only [Expander.place, List.mem_filterMap, List.getElem?_map, Option.map_map,
    Option.map_eq_some_iff, Function.comp_apply, Prod.mk.injEq, Prod.exists]
  constructor
  · rintro ⟨side', i, hmem, v, hv, rfl, rfl⟩
    exact ⟨i, v, hmem, hv, rfl⟩
  · rintro ⟨i, v, hmem, hv, rfl⟩
    exact ⟨side, i, hmem, v, hv, rfl, rfl⟩

end Block

section Expand

variable {s : Shorthand} {arity : Arity}

/-- A declaration comes from an entry of the table and the value that the entry names. -/
lemma exists_value_of_mem_expand (h : Arity.ofNat? s.values.length = some arity) {x : Declaration}
    (hx : x ∈ s.expand) :
    ∃ v ∈ s.values, x.value = (substituteAuto id v).text id ∧ x.important = s.important ∧
      x.origin = s.origin.name := by
  rw [Shorthand.expand, expandMargin_of_arity h] at hx
  obtain ⟨⟨side, r⟩, hp, rfl⟩ := List.mem_map.1 hx
  obtain ⟨i, v, -, hv, rfl⟩ := mem_place_iff.1 hp
  exact ⟨v, List.mem_of_getElem? hv, rfl, rfl, rfl⟩

/-- Every value is that of a declaration, since the table has an entry for it. -/
lemma exists_mem_expand (h : Arity.ofNat? s.values.length = some arity) {v : Text}
    (hv : v ∈ s.values) : ∃ x ∈ s.expand, x.value = (substituteAuto id v).text id := by
  obtain ⟨i, hi, rfl⟩ := List.getElem_of_mem hv
  obtain ⟨side, hside⟩ := Arity.exists_mem_table (Arity.ofNat?_eq_some_iff.1 h ▸ hi)
  have hplace : (side, substituteAuto id s.values[i]) ∈
      Expander.place arity (s.values.map (substituteAuto id)) :=
    mem_place_iff.2 ⟨i, s.values[i], hside, List.getElem?_eq_getElem hi, rfl⟩
  refine ⟨side.declare (substituteAuto id s.values[i]) s.important s.origin.name, ?_, rfl⟩
  rw [Shorthand.expand, expandMargin_of_arity h]
  exact List.mem_map.2 ⟨_, hplace, rfl⟩

/-- The declarations of a shorthand can be written when its values can. -/
lemma forall_isWhole_expand (h : Arity.ofNat? s.values.length = some arity) :
    (∀ x ∈ s.expand, x.value.isWhole = true) ↔ ∀ v ∈ s.values, v.isWhole = true := by
  constructor
  · intro hall v hv
    obtain ⟨x, hx, hvalue⟩ := exists_mem_expand h hv
    rw [← isWhole_text_substituteAuto, ← hvalue]
    exact hall x hx
  · intro hall x hx
    obtain ⟨v, hv, hvalue, -⟩ := exists_value_of_mem_expand h hx
    rw [hvalue, isWhole_text_substituteAuto]
    exact hall v hv

lemma map_name_expand (h : Arity.ofNat? s.values.length = some arity) :
    s.expand.map (·.name) = arity.sides.map Side.longhand := by
  rw [Shorthand.expand, expandMargin_of_arity h, List.map_map,
    ← map_fst_place (Arity.ofNat?_eq_some_iff.1 h), List.map_map]
  rfl

/-- The expansion of a shorthand with a supported number of values. -/
lemma isExpansion_expand (h : Arity.ofNat? s.values.length = some arity) :
    IsExpansion s arity s.expand := by
  refine ⟨map_name_expand h, ?_, ?_, ?_, ?_, ?_⟩
  · intro side
    rw [map_name_expand h]
    exact arity.count_longhand side
  · intro x hx
    obtain ⟨v, -, -, himportant, horigin⟩ := exists_value_of_mem_expand h hx
    exact ⟨himportant, horigin⟩
  · intro x hx
    obtain ⟨v, hv, hvalue, -⟩ := exists_value_of_mem_expand h hx
    rw [hvalue]
    rcases text_substituteAuto v with ⟨htext, -⟩ | ⟨htext, hauto⟩
    · rw [htext]
      exact Or.inl hv
    · exact Or.inr ⟨htext, v, hv, hauto⟩
  · intro v hv hauto
    obtain ⟨x, hx, hvalue⟩ := exists_mem_expand h hv
    rcases text_substituteAuto v with ⟨htext, -⟩ | ⟨-, hyes⟩
    · exact ⟨x, hx, hvalue.trans htext⟩
    · exact absurd hyes hauto
  · intro x hx
    obtain ⟨v, -, hvalue, -⟩ := exists_value_of_mem_expand h hx
    rw [hvalue]
    rcases text_substituteAuto v with ⟨htext, hno⟩ | ⟨htext, -⟩
    · rwa [htext]
    · rw [htext]
      exact isAuto_eq_false_iff.1 isAuto_zero

end Expand

lemma IsExpansion.length_eq {s : Shorthand} {arity : Arity} {block : List Declaration}
    (h : IsExpansion s arity block) : block.length = 4 := by
  have hlen := congrArg List.length h.names
  rw [List.length_map, List.length_map] at hlen
  rw [hlen]
  cases arity <;> rfl

/-! ### Blocks -/

/-- When all pieces have the same length, a piece is found behind those in front of it. -/
lemma take_drop_flatMap {α β : Type} {f : α → List β} {n : Nat} {xs : List α}
    (h : ∀ x ∈ xs, (f x).length = n) {k : Nat} {x : α} (hk : xs[k]? = some x) :
    ((xs.flatMap f).drop (n * k)).take n = f x := by
  induction xs generalizing k with
  | nil => simp at hk
  | cons y r ih =>
    have hy : (f y).length = n := h y (List.mem_cons_self ..)
    rw [List.flatMap_cons]
    cases k with
    | zero =>
      obtain rfl : y = x := by simpa using hk
      rw [Nat.mul_zero, List.drop_zero, List.take_append_of_le_length hy.ge, ← hy,
        List.take_length]
    | succ k =>
      have hr := ih (fun z hz => h z (List.mem_cons_of_mem _ hz)) (k := k) (by simpa using hk)
      rw [Nat.mul_succ, Nat.add_comm, ← List.drop_drop, ← hy, List.drop_left, hy]
      exact hr

/-! ### Refusals -/

/-- Expansion that also logs its refusals. -/
def Expander.logging : Expander (StateM (List Log.Event)) Text Declaration where
  read := pure
  build side value important origin := pure (side.declare value important origin)
  refuse count := modify (· ++ [.notExpanded count])

/-- Expansion with a log comes to the same declarations, and it logs a refusal if the number of
values is unsupported. -/
lemma run_expand_logging (values : List Text) (important : Bool) (origin : Text)
    (log : List Log.Event) :
    (Expander.logging.expand values important origin).run log =
      (expandMargin values important origin,
        if (Arity.ofNat? values.length).isSome then log
        else log ++ [.notExpanded values.length]) := by
  cases h : Arity.ofNat? values.length with
  | none =>
    rw [expandMargin_of_unsupported h, Expander.expand, h]
    rfl
  | some arity =>
    have hresolve : values.mapM Expander.logging.resolve =
        (pure (values.map (substituteAuto id)) : StateM (List Log.Event) _) := by
      rw [← List.mapM_pure]
      congr 1
      funext v
      simp only [Expander.resolve, Expander.logging, pure_bind, substituteAuto, id_eq]
      split <;> rfl
    rw [expandMargin_of_arity h, Expander.expand, h]
    dsimp only
    rw [hresolve, pure_bind]
    exact congrArg (fun x : StateM (List Log.Event) (List Declaration) => x.run log)
      (List.mapM_pure ..)

/-- No refusal is logged when all shorthands have a supported number of values. -/
lemma run_mapM_logging {ss : List Shorthand}
    (h : ∀ s ∈ ss, (Arity.ofNat? s.values.length).isSome = true) (log : List Log.Event) :
    (ss.mapM fun s => Expander.logging.expand s.values s.important s.origin.name).run log =
      (ss.map Shorthand.expand, log) := by
  induction ss with
  | nil => rfl
  | cons s r ih =>
    have hs := run_expand_logging s.values s.important s.origin.name log
    rw [if_pos (h s (List.mem_cons_self ..))] at hs
    have hr := ih fun x hx => h x (List.mem_cons_of_mem _ hx)
    rw [List.mapM_cons, StateT.run_bind, hs]
    change (StateT.run (_ >>= _) log : Id _) = _
    rw [StateT.run_bind, hr]
    rfl

/-! ### All entries -/

section Document

variable {d : Document} {defaults : EntryDefaults} {ss : List Shorthand}

/-- Every shorthand of an accepted document repeats its entry and has a supported number of
values. -/
lemma exists_arity_of_check (h : d.check defaults = .ok ss) {k : Nat} {s : Shorthand}
    (hk : ss[k]? = some s) :
    ∃ entries fields arity, d.declarations = .list entries ∧ entries[k]? = some (.map fields) ∧
      Repeats defaults k fields s ∧ Arity.ofNat? s.values.length = some arity := by
  obtain ⟨entries, hd⟩ := exists_list_of_check_eq_ok h
  obtain ⟨hw, rfl⟩ := (check_list_eq_ok_iff hd).1 h
  obtain ⟨fields, hfields, hr⟩ := (exists_repeats hw).2 k s hk
  obtain ⟨fields', heq, hwell⟩ := hw _ (List.mem_of_getElem? hfields)
  cases heq
  obtain ⟨items, hitems, hone, hfour, -⟩ := hwell.values
  rw [hr.values] at hitems
  cases hitems
  rw [List.length_map] at hone hfour
  obtain ⟨arity, harity⟩ :=
    Option.isSome_iff_exists.1 (Arity.isSome_ofNat?_iff.2 ⟨hone, hfour⟩)
  exact ⟨entries, fields, arity, hd, hfields, hr, harity⟩

/-- Every shorthand of an accepted document has four declarations. -/
lemma length_expand_of_check (h : d.check defaults = .ok ss) {s : Shorthand} (hs : s ∈ ss) :
    s.expand.length = 4 := by
  obtain ⟨k, hk, rfl⟩ := List.getElem_of_mem hs
  obtain ⟨-, -, arity, -, -, -, ha⟩ := exists_arity_of_check h (List.getElem?_eq_getElem hk)
  exact (isExpansion_expand ha).length_eq

lemma length_flatMap_expand (h : d.check defaults = .ok ss) :
    (ss.flatMap Shorthand.expand).length = 4 * ss.length := by
  have hfour : ∀ s ∈ ss, s.expand.length = 4 := fun s hs => length_expand_of_check h hs
  rw [List.length_flatMap, List.map_congr_left hfour, List.map_const', List.sum_replicate_nat,
    Nat.mul_comm]

lemma forall_isWhole_flatMap_expand (h : d.check defaults = .ok ss) :
    (∀ x ∈ ss.flatMap Shorthand.expand, x.value.isWhole = true) ↔
      ∀ s ∈ ss, ∀ v ∈ s.values, v.isWhole = true := by
  have hblock : ∀ s ∈ ss, ((∀ x ∈ s.expand, x.value.isWhole = true) ↔
      ∀ v ∈ s.values, v.isWhole = true) := by
    intro s hs
    obtain ⟨k, hk, rfl⟩ := List.getElem_of_mem hs
    obtain ⟨-, -, arity, -, -, -, ha⟩ := exists_arity_of_check h (List.getElem?_eq_getElem hk)
    exact forall_isWhole_expand ha
  constructor
  · intro hall s hs
    exact (hblock s hs).1 fun x hx => hall x (List.mem_flatMap.2 ⟨s, hs, hx⟩)
  · intro hall x hx
    obtain ⟨s, hs, hxs⟩ := List.mem_flatMap.1 hx
    exact (hblock s hs).2 (hall s hs) x hxs

/-- **Expansion of an accepted document.**  No shorthand of it is refused.  It has four
declarations for each shorthand, and those from position `4 * k` on are the expansion of the entry
at position `k`.  No declaration says `auto`. -/
theorem check_expands_completely (h : d.check defaults = .ok ss) :
    (ss.mapM fun s => Expander.logging.expand s.values s.important s.origin.name).run [] =
        (ss.map Shorthand.expand, []) ∧
      (ss.flatMap Shorthand.expand).length = 4 * ss.length ∧
      (∀ (k : Nat) (s : Shorthand), ss[k]? = some s →
        ∃ entries fields arity, d.declarations = .list entries ∧
          entries[k]? = some (.map fields) ∧ Repeats defaults k fields s ∧
          Arity.ofNat? s.values.length = some arity ∧
          IsExpansion s arity (((ss.flatMap Shorthand.expand).drop (4 * k)).take 4)) ∧
      ∀ x ∈ ss.flatMap Shorthand.expand, ¬ SaysAuto x.value := by
  have harity : ∀ s ∈ ss, ∃ arity, Arity.ofNat? s.values.length = some arity := by
    intro s hs
    obtain ⟨k, hk, rfl⟩ := List.getElem_of_mem hs
    obtain ⟨-, -, arity, -, -, -, harity⟩ :=
      exists_arity_of_check h (List.getElem?_eq_getElem hk)
    exact ⟨arity, harity⟩
  refine ⟨run_mapM_logging (fun s hs => Option.isSome_iff_exists.2 (harity s hs)) [],
    length_flatMap_expand h, ?_, ?_⟩
  · intro k s hk
    obtain ⟨entries, fields, arity, hd, hfields, hr, ha⟩ := exists_arity_of_check h hk
    refine ⟨entries, fields, arity, hd, hfields, hr, ha, ?_⟩
    rw [take_drop_flatMap (fun x hx => length_expand_of_check h hx) hk]
    exact isExpansion_expand ha
  · intro x hx
    obtain ⟨s, hs, hxs⟩ := List.mem_flatMap.1 hx
    obtain ⟨arity, ha⟩ := harity s hs
    exact (isExpansion_expand ha).noAuto x hxs

end Document

/-- Two entries with different numbers of values, one of which says `auto` in capitals and between
blanks. -/
def mixedDocument : Document :=
  ⟨.list [.map [(.text "values", .list [.text " AUTO\n", .text "5px"])],
    .map [(.text "origin", .text "user"), (.text "important", .bool true),
      (.text "values", .list [.text "1px", .text "auto", .text "1px"])]], some "in.yaml"⟩

/-- The two entries of `mixedDocument` are expanded one after the other. -/
theorem check_expands_completely_mixed :
    let ss : List Shorthand := [⟨"margin", [" AUTO\n", "5px"], false, .author, 0⟩,
      ⟨"margin", ["1px", "auto", "1px"], true, .user, 1⟩]
    mixedDocument.check .standard = .ok ss ∧
      (ss.mapM fun s => Expander.logging.expand s.values s.important s.origin.name).run [] =
          (ss.map Shorthand.expand, []) ∧
        (ss.flatMap Shorthand.expand).length = 4 * ss.length ∧
        (∀ (k : Nat) (s : Shorthand), ss[k]? = some s →
          ∃ entries fields arity, mixedDocument.declarations = .list entries ∧
            entries[k]? = some (.map fields) ∧ Repeats .standard k fields s ∧
            Arity.ofNat? s.values.length = some arity ∧
            IsExpansion s arity (((ss.flatMap Shorthand.expand).drop (4 * k)).take 4)) ∧
        ∀ x ∈ ss.flatMap Shorthand.expand, ¬ SaysAuto x.value := by
  intro ss
  have hcheck : mixedDocument.check .standard = .ok ss := by decide +kernel
  exact ⟨hcheck, check_expands_completely hcheck⟩

end CssMargin
