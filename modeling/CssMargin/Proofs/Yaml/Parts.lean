/-
# The parts of a tree

A tree has as many nodes as its size says, and what is named in it is one of them.  A mapping that
is read as a scalar defers to the value under its default key; that may be another such mapping, and
so on.  A way along such values that is longer than the tree has nodes comes back to a node on it.
-/
import CssMargin.Yaml.Meaning.Document
import Mathlib.Data.List.Duplicate
import Mathlib.Data.List.Perm.Subperm
import Mathlib.Logic.Relation
namespace CssMargin.Yaml

namespace Node

/-! ### Nodes of a tree -/

/-- The nodes of a tree. -/
inductive Within (root : Node) : Node → Prop where
  /-- The whole tree. -/
  | root : Within root root
  /-- An item of a sequence. -/
  | item {n : Option String} {t : Tag} {items : List Node} {m : Node}
    (h : Within root (.sequence n t items)) (hm : m ∈ items) : Within root m
  /-- A key of a mapping. -/
  | key {n : Option String} {t : Tag} {pairs : List (Node × Node)} {p : Node × Node}
    (h : Within root (.mapping n t pairs)) (hp : p ∈ pairs) : Within root p.1
  /-- A value of a mapping. -/
  | value {n : Option String} {t : Tag} {pairs : List (Node × Node)} {p : Node × Node}
    (h : Within root (.mapping n t pairs)) (hp : p ∈ pairs) : Within root p.2

lemma Within.trans {a b c : Node} (h : Within a b) (h' : Within b c) : Within a c := by
  induction h' with
  | root => exact h
  | item _ hm ih => exact ih.item hm
  | key _ hp ih => exact ih.key hp
  | value _ hp ih => exact ih.value hp

mutual

/-- What is named in a tree is a node of it. -/
lemma within_of_mem_named : ∀ (n : Node) {p : String × Node}, p ∈ n.named → n.Within p.2
  | .scalar name t s, p, h => by
    rw [named, Option.mem_toList, Option.map_eq_some_iff] at h
    obtain ⟨x, -, rfl⟩ := h
    exact .root
  | .sequence name t items, p, h => by
    rw [named, List.mem_append, Option.mem_toList, Option.map_eq_some_iff] at h
    rcases h with ⟨x, -, rfl⟩ | h
    · exact .root
    · obtain ⟨m, hm, hp⟩ := within_of_mem_namedItems items h
      exact (Within.root.item hm).trans hp
  | .mapping name t pairs, p, h => by
    rw [named, List.mem_append, Option.mem_toList, Option.map_eq_some_iff] at h
    rcases h with ⟨x, -, rfl⟩ | h
    · exact .root
    · obtain ⟨q, hq, hp | hp⟩ := within_of_mem_namedPairs pairs h
      · exact (Within.root.key hq).trans hp
      · exact (Within.root.value hq).trans hp
  | .alias _, p, h => absurd h (by simp [named])

lemma within_of_mem_namedItems : ∀ (items : List Node) {p : String × Node},
    p ∈ namedItems items → ∃ m ∈ items, m.Within p.2
  | [], p, h => absurd h (by simp [namedItems])
  | n :: r, p, h => by
    rw [namedItems, List.mem_append] at h
    rcases h with h | h
    · exact ⟨n, List.mem_cons_self .., within_of_mem_named n h⟩
    · obtain ⟨m, hm, hp⟩ := within_of_mem_namedItems r h
      exact ⟨m, List.mem_cons_of_mem _ hm, hp⟩

lemma within_of_mem_namedPairs : ∀ (pairs : List (Node × Node)) {p : String × Node},
    p ∈ namedPairs pairs → ∃ q ∈ pairs, q.1.Within p.2 ∨ q.2.Within p.2
  | [], p, h => absurd h (by simp [namedPairs])
  | (k, v) :: r, p, h => by
    rw [namedPairs, List.mem_append, List.mem_append] at h
    rcases h with (h | h) | h
    · exact ⟨(k, v), List.mem_cons_self .., .inl (within_of_mem_named k h)⟩
    · exact ⟨(k, v), List.mem_cons_self .., .inr (within_of_mem_named v h)⟩
    · obtain ⟨q, hq, hp⟩ := within_of_mem_namedPairs r h
      exact ⟨q, List.mem_cons_of_mem _ hq, hp⟩

end

/-! ### How many there are -/

mutual

/-- The nodes of a tree in a list. -/
def nodes : Node → List Node
  | .scalar n t s => [.scalar n t s]
  | .sequence n t items => .sequence n t items :: nodesOfItems items
  | .mapping n t pairs => .mapping n t pairs :: nodesOfPairs pairs
  | .alias n => [.alias n]

/-- The nodes of the items of a sequence. -/
def nodesOfItems : List Node → List Node
  | [] => []
  | n :: r => n.nodes ++ nodesOfItems r

/-- The nodes of the pairs of a mapping. -/
def nodesOfPairs : List (Node × Node) → List Node
  | [] => []
  | (k, v) :: r => k.nodes ++ v.nodes ++ nodesOfPairs r

end

mutual

lemma length_nodes : ∀ n : Node, n.nodes.length = n.size
  | .scalar .. => rfl
  | .sequence n t items => by
    rw [nodes, List.length_cons, length_nodesOfItems items, size, Nat.add_comm]
  | .mapping n t pairs => by
    rw [nodes, List.length_cons, length_nodesOfPairs pairs, size, Nat.add_comm]
  | .alias _ => rfl

lemma length_nodesOfItems : ∀ items : List Node, (nodesOfItems items).length = sizeItems items
  | [] => rfl
  | n :: r => by
    rw [nodesOfItems, List.length_append, length_nodes n, length_nodesOfItems r, sizeItems]

lemma length_nodesOfPairs : ∀ pairs : List (Node × Node),
    (nodesOfPairs pairs).length = sizePairs pairs
  | [] => rfl
  | (k, v) :: r => by
    rw [nodesOfPairs, List.length_append, List.length_append, length_nodes k, length_nodes v,
      length_nodesOfPairs r, sizePairs]

end

lemma self_mem_nodes (n : Node) : n ∈ n.nodes := by
  cases n <;> simp [nodes]

lemma nodes_subset_of_mem_items {items : List Node} {m : Node} (h : m ∈ items) :
    m.nodes ⊆ nodesOfItems items := by
  induction items with
  | nil => exact absurd h List.not_mem_nil
  | cons n r ih =>
    rw [nodesOfItems]
    rcases List.mem_cons.1 h with rfl | h
    · exact List.subset_append_left _ _
    · exact List.Subset.trans (ih h) (List.subset_append_right _ _)

lemma nodes_subset_of_mem_pairs {pairs : List (Node × Node)} {p : Node × Node} (h : p ∈ pairs) :
    p.1.nodes ⊆ nodesOfPairs pairs ∧ p.2.nodes ⊆ nodesOfPairs pairs := by
  induction pairs with
  | nil => exact absurd h List.not_mem_nil
  | cons q r ih =>
    obtain ⟨k, v⟩ := q
    rw [nodesOfPairs, List.append_assoc]
    rcases List.mem_cons.1 h with rfl | h
    · exact ⟨List.subset_append_left _ _,
        List.subset_append_of_subset_right _ (List.subset_append_left _ _)⟩
    · have hrest : nodesOfPairs r ⊆ k.nodes ++ (v.nodes ++ nodesOfPairs r) :=
        List.subset_append_of_subset_right _ (List.subset_append_right _ _)
      exact ⟨List.Subset.trans (ih h).1 hrest, List.Subset.trans (ih h).2 hrest⟩

/-- A node of a tree is in the list, with all nodes of its own. -/
lemma Within.nodes_subset {root n : Node} (h : root.Within n) : n.nodes ⊆ root.nodes := by
  induction h with
  | root => exact List.Subset.refl _
  | item _ hm ih =>
    refine List.Subset.trans (nodes_subset_of_mem_items hm) (List.Subset.trans ?_ ih)
    rw [nodes]
    exact List.subset_cons_self ..
  | key _ hp ih =>
    refine List.Subset.trans (nodes_subset_of_mem_pairs hp).1 (List.Subset.trans ?_ ih)
    rw [nodes]
    exact List.subset_cons_self ..
  | value _ hp ih =>
    refine List.Subset.trans (nodes_subset_of_mem_pairs hp).2 (List.Subset.trans ?_ ih)
    rw [nodes]
    exact List.subset_cons_self ..

/-! ### Parts -/

/-- Whether a node is a part of a tree: one of its nodes, or a scalar that is not written. -/
def IsPart (root n : Node) : Prop := root.Within n ∨ n = .blank

variable {root n : Node}

lemma IsPart.items {name : Option String} {tag : Tag} {items : List Node}
    (h : root.IsPart (.sequence name tag items)) : ∀ m ∈ items, root.IsPart m := by
  intro m hm
  rcases h with h | h
  · exact .inl (h.item hm)
  · cases h

lemma IsPart.pairs {name : Option String} {tag : Tag} {pairs : List (Node × Node)}
    (h : root.IsPart (.mapping name tag pairs)) :
    ∀ p ∈ pairs, root.IsPart p.1 ∧ root.IsPart p.2 := by
  intro p hp
  rcases h with h | h
  · exact ⟨.inl (h.key hp), .inl (h.value hp)⟩
  · cases h

/-- The node that a reference in a tree stands for is a part of the tree. -/
lemma IsPart.follow (h : root.IsPart n) : root.IsPart (Names.follow root.named n) := by
  unfold Names.follow
  split
  · rename_i a
    cases hlookup : root.named.lookup a with
    | none => exact .inr rfl
    | some m =>
      obtain ⟨front, back, heq, -⟩ := List.lookup_eq_some_iff.1 hlookup
      have hmem : (a, m) ∈ root.named := by simp [heq]
      exact .inl (within_of_mem_named root hmem)
  · exact h

/-! ### Values under default keys -/

/-- Whether a mapping of a tree defers to a node: the value under its default key. -/
inductive Defers (root : Node) : Node → Node → Prop where
  /-- The default key may be a reference, and so may the value. -/
  | value {name : Option String} {tag : Tag} {pairs : List (Node × Node)} {p : Node × Node}
    (hp : p ∈ pairs) (hkey : (Names.follow root.named p.1).tag = .kind .default) :
    Defers root (.mapping name tag pairs) (Names.follow root.named p.2)

lemma IsPart.of_defers {a b : Node} (ha : root.IsPart a) (h : root.Defers a b) :
    root.IsPart b := by
  cases h with
  | value hp _ => exact (ha.pairs _ hp).2.follow

/-- A way along such values stays in the tree. -/
lemma isPart_of_isChain {l : List Node} (h : List.IsChain root.Defers (n :: l))
    (hn : root.IsPart n) : ∀ m ∈ n :: l, root.IsPart m := by
  induction l generalizing n with
  | nil =>
    intro m hm
    rwa [List.mem_singleton.1 hm]
  | cons a l ih =>
    obtain ⟨hstep, hrest⟩ := List.isChain_cons_cons.1 h
    exact List.forall_mem_cons.2 ⟨hn, ih hrest (hn.of_defers hstep)⟩

/-- If it is longer than the tree has nodes, it comes back to one of them. -/
theorem exists_cycle_of_isChain {l : List Node} (h : List.IsChain root.Defers (n :: l))
    (hn : root.IsPart n) (hlong : root.size < l.length) :
    ∃ m, root.IsPart m ∧ Relation.TransGen root.Defers m m := by
  have hpart := isPart_of_isChain h hn
  -- the parts are the nodes and the scalar that is not written
  have hsub : n :: l ⊆ .blank :: root.nodes := by
    intro m hm
    rcases hpart m hm with hwithin | rfl
    · exact List.mem_cons_of_mem _ (hwithin.nodes_subset (self_mem_nodes m))
    · exact List.mem_cons_self ..
  have hdup : ¬ (n :: l).Nodup := by
    intro hnodup
    have hle := (hnodup.subperm hsub).length_le
    rw [List.length_cons, List.length_cons, length_nodes] at hle
    omega
  obtain ⟨m, hm⟩ := List.exists_duplicate_iff_not_nodup.2 hdup
  have hpairwise : (n :: l).Pairwise (Relation.TransGen root.Defers) :=
    List.isChain_iff_pairwise.1 (h.imp fun _ _ hstep => .single hstep)
  have htwice := hpairwise.sublist (List.duplicate_iff_sublist.1 hm)
  exact ⟨m, hpart m hm.mem, by simpa using htwice⟩

end Node

end CssMargin.Yaml
