/-
# Which node a fault comes from

When a document has a tree but no value, and is not malformed, then some node of the tree is to
blame: its tag is one that a scalar of the tree does not live up to, or it is a mapping that is
tagged as a date, or one that defers to itself.  To see this the search for faults is followed.  It
looks at parts of the tree, and at keys that have become texts; the pairs that are brought into a
mapping are pairs of such nodes again; and the text that it reads for a node is that of a scalar.
-/
import CssMargin.Proofs.Yaml.Parts
import CssMargin.Proofs.Yaml.Records
import CssMargin.Proofs.Yaml.ScalarFaults
import CssMargin.Proofs.Yaml.TokenFaults
namespace CssMargin.Yaml

namespace Node

/-- What keeps a tree that follows the rules from having a value. -/
inductive Blames (root : Node) : Mishap → Prop where
  /-- A node has a tag that a scalar does not live up to: the node itself or what it defers to. -/
  | scalar {n : Node} {name : Option String} {tag : Tag} {text : List Point} {m : Mishap}
    (hn : root.IsPart n) (hscalar : root.IsPart (.scalar name tag text))
    (hdefers : Relation.ReflTransGen root.Defers n (.scalar name tag text))
    (hvalue : scalarValue n.tag text = .error (.mishap m)) (hunder : m.Under n.tag) :
    Blames root m
  /-- A mapping that is tagged as a date defers to another node. -/
  | mappingAsDate {n m : Node} (hn : root.IsPart n) (htag : n.tag = .kind .timestamp)
    (hdefers : root.Defers n m) : Blames root .mappingAsDate
  /-- A mapping defers to itself, directly or through others. -/
  | endless {n : Node} (hn : root.IsPart n) (hdefers : Relation.TransGen root.Defers n n) :
    Blames root .endless

/-- Whether a tree is no document, or something keeps it from having a value. -/
def IsMeaningFault (root : Node) (f : Fault) : Prop :=
  f = .malformed ∨ ∃ m, f = .mishap m ∧ root.Blames m

/-- Whether the search for faults may look at a node: a part of the tree, or a key that has become a
text. -/
def IsSeen (root n : Node) : Prop :=
  ∃ m, root.IsPart m ∧ (n = m ∨ n = m.withTag (.kind .text))

/-- Whether the search for faults may look at both nodes of each pair. -/
def AllSeen (root : Node) (pairs : List (Node × Node)) : Prop :=
  ∀ p ∈ pairs, root.IsSeen p.1 ∧ root.IsSeen p.2

variable {root n : Node}

lemma IsMeaningFault.malformed : IsMeaningFault root .malformed := .inl rfl

lemma IsPart.isSeen (h : root.IsPart n) : root.IsSeen n := ⟨n, h, .inl rfl⟩

lemma withTag_withTag (t : Tag) (n : Node) : (n.withTag t).withTag t = n.withTag t := by
  cases n <;> rfl

/-- A key that becomes a text is one that may be looked at. -/
lemma IsSeen.withTag (h : root.IsSeen n) : root.IsSeen (n.withTag (.kind .text)) := by
  obtain ⟨m, hm, rfl | rfl⟩ := h
  · exact ⟨n, hm, .inr rfl⟩
  · exact ⟨m, hm, .inr (withTag_withTag _ m)⟩

lemma IsSeen.items {name : Option String} {tag : Tag} {items : List Node}
    (h : root.IsSeen (.sequence name tag items)) : ∀ m ∈ items, root.IsSeen m := by
  obtain ⟨n, hn, heq | heq⟩ := h
  · subst heq
    exact fun m hm => (hn.items m hm).isSeen
  · cases n with
    | sequence name' tag' items' =>
      cases heq
      exact fun m hm => (hn.items m hm).isSeen
    | _ => cases heq

lemma IsSeen.pairs {name : Option String} {tag : Tag} {pairs : List (Node × Node)}
    (h : root.IsSeen (.mapping name tag pairs)) : root.AllSeen pairs := by
  have hown {n : Node} {tag : Tag} (hn : root.IsPart (.mapping name tag pairs)) :
      root.AllSeen pairs := fun p hp => ⟨(hn.pairs p hp).1.isSeen, (hn.pairs p hp).2.isSeen⟩
  obtain ⟨n, hn, heq | heq⟩ := h
  · subst heq
    exact hown (n := .blank) hn
  · cases n with
    | mapping name' tag' pairs' =>
      cases heq
      exact hown (n := .blank) hn
    | _ => cases heq

lemma IsSeen.follow (h : root.IsSeen n) : root.IsSeen (Names.follow root.named n) := by
  obtain ⟨m, hm, rfl | rfl⟩ := h
  · exact hm.follow.isSeen
  · rcases m with _ | _ | _ | a
    · exact ⟨_, hm, .inr rfl⟩
    · exact ⟨_, hm, .inr rfl⟩
    · exact ⟨_, hm, .inr rfl⟩
    · exact hm.follow.isSeen

end Node

open Node

/-! ### Changes -/

/-- Whether the search may look at all pairs of the mappings that have changed. -/
def Progress.Sees (c : Progress) (root : Node) : Prop := ∀ x ∈ c.pairs, root.AllSeen x.2

section Progress

variable {root n : Node} {c : Progress} {pairs merged : List (Node × Node)}

lemma sees_start (root : Node) : Progress.start.Sees root :=
  fun _ h => absurd h List.not_mem_nil

lemma Progress.Sees.pairsOf (h : c.Sees root) (hn : root.IsSeen n) :
    root.AllSeen (c.pairsOf n) := by
  cases n with
  | mapping name tag pairs =>
    rw [Progress.pairsOf]
    cases hlookup : name.bind fun x => c.pairs.lookup x with
    | none => exact hn.pairs
    | some ps =>
      obtain ⟨x, -, hx⟩ := Option.bind_eq_some_iff.1 hlookup
      obtain ⟨front, back, heq, -⟩ := List.lookup_eq_some_iff.1 hx
      exact h (x, ps) (by simp [heq])
  | _ => exact fun p hp => absurd hp List.not_mem_nil

lemma Progress.Sees.setPairs (h : c.Sees root) (hpairs : root.AllSeen pairs) (n : Node) :
    (c.setPairs n pairs).Sees root := by
  unfold Progress.setPairs
  cases n.name? with
  | none => exact h
  | some x => exact List.forall_mem_cons.2 ⟨hpairs, h⟩

lemma Progress.Sees.setReading (h : c.Sees root) (n : Node) (r : Reading) :
    (c.setReading n r).Sees root := by
  unfold Progress.setReading
  cases n.name? with
  | none => exact h
  | some x => exact h

/-! ### Taking up keys -/

/-- Whether keys that are taken up leave pairs that may be looked at. -/
def TakesUp (root : Node) (r : Except Fault Progress) : Prop :=
  Ends (· = Fault.malformed) (fun c => c.Sees root) r

/-- Whether pairs that are brought in may be looked at. -/
def BringsIn (root : Node) (r : Except Fault (List (Node × Node) × Progress)) : Prop :=
  Ends (· = Fault.malformed) (fun x => root.AllSeen x.1 ∧ x.2.Sees root) r

variable {fuel : Nat}

/-- A key is taken up, and then the others are. -/
lemma takesUp_succ
    (htake : ∀ n merged c, root.IsSeen n → root.AllSeen merged → c.Sees root →
      TakesUp root (takeUp root.named fuel n merged c))
    (hbring : ∀ n c, root.IsSeen n → c.Sees root → BringsIn root (bringIn root.named fuel n c))
    (hn : root.IsSeen n) (hmerged : root.AllSeen merged) (hc : c.Sees root) :
    TakesUp root (takeUp root.named (fuel + 1) n merged c) := by
  have hpairs := hc.pairsOf hn
  rw [takeUp]
  dsimp only
  generalize hbefore : (c.pairsOf n).takeWhile (fun p => !takesPart root.named c p) = before
  have hseen : root.AllSeen before := fun p hp =>
    hpairs p (List.takeWhile_subset _ (hbefore ▸ hp))
  split
  · exact hc.setPairs (List.forall_mem_append.2 ⟨hmerged, hseen⟩) n
  · rename_i k v after hdrop
    have hrest : root.AllSeen ((k, v) :: after) := fun p hp =>
      hpairs p (List.mem_of_mem_drop (hdrop ▸ hp))
    obtain ⟨⟨hk, hv⟩, hafter⟩ := List.forall_mem_cons.1 hrest
    split
    · have hleft : root.AllSeen (before ++ after) := List.forall_mem_append.2 ⟨hseen, hafter⟩
      refine (hbring _ _ hv.follow (hc.setPairs hleft n)).bind fun x hx => ?_
      exact htake _ _ _ hn (List.forall_mem_append.2 ⟨hmerged, hx.1⟩) hx.2
    · refine htake _ _ _ hn hmerged (Progress.Sees.setPairs (c := c.setText _) hc ?_ n)
      exact List.forall_mem_append.2 ⟨hseen, List.forall_mem_cons.2
        ⟨⟨hk.follow.withTag, hv⟩, hafter⟩⟩

/-- What is brought in comes from a mapping or from the mappings of a sequence. -/
lemma bringsIn_succ
    (htake : ∀ n merged c, root.IsSeen n → root.AllSeen merged → c.Sees root →
      TakesUp root (takeUp root.named fuel n merged c))
    (hn : root.IsSeen n) (hc : c.Sees root) :
    BringsIn root (bringIn root.named (fuel + 1) n c) := by
  have hnil : root.AllSeen [] := List.forall_mem_nil _
  rw [bringIn.eq_def]
  dsimp only
  split
  · exact (htake _ _ _ hn hnil hc).bind fun c' hc' => ⟨hc'.pairsOf hn, hc'⟩
  · rename_i name tag items
    refine Ends.foldlM ⟨hnil, hc⟩ fun item hitem x hx => ?_
    have hfollow := (hn.items item hitem).follow
    split
    · rename_i heq
      rw [heq] at hfollow
      refine (htake _ _ _ hfollow hnil hx.2).bind fun c' hc' => ?_
      exact ⟨List.forall_mem_append.2 ⟨hc'.pairsOf hfollow, hx.1⟩, hc'⟩
    · rfl
  · rfl

/-- Whatever is taken up, the pairs of all mappings may be looked at. -/
theorem takesUp_and_bringsIn (root : Node) (fuel : Nat) :
    (∀ n merged c, root.IsSeen n → root.AllSeen merged → c.Sees root →
      TakesUp root (takeUp root.named fuel n merged c)) ∧
    ∀ n c, root.IsSeen n → c.Sees root → BringsIn root (bringIn root.named fuel n c) := by
  induction fuel with
  | zero =>
    constructor
    · intro n merged c _ _ _
      rw [takeUp]
      rfl
    · intro n c _ _
      rw [bringIn]
      rfl
  | succ fuel ih =>
    exact ⟨fun n merged c => takesUp_succ ih.1 ih.2, fun n c => bringsIn_succ ih.1⟩

end Progress

/-! ### Reading a node -/

section Read

variable {root n : Node} {c : Progress}

/-- The mapping whose pair is found has a default key among its own pairs. -/
lemma defers_of_find? {name : Option String} {tag : Tag} {pairs : List (Node × Node)}
    {p : Node × Node}
    (h : pairs.find? (fun p => c.tagOf (Names.follow root.named p.1) == .kind .default) = some p) :
    root.Defers (.mapping name tag pairs) (Names.follow root.named p.2) := by
  have hdefault : c.tagOf (Names.follow root.named p.1) = .kind .default := by
    simpa using List.find?_some h
  refine .value (List.mem_of_find?_eq_some h) ?_
  unfold Progress.tagOf at hdefault
  split at hdefault
  · cases hdefault
  · exact hdefault

/-- The text that is read for a node is that of a scalar to which it defers; if there is none, the
node is malformed or begins a way that uses up the fuel. -/
lemma ends_scalarText (root : Node) (c : Progress) (fuel : Nat) (hn : root.IsPart n) :
    Ends (fun f => f = Fault.malformed ∨ f = .mishap .endless ∧
        ∃ l, List.IsChain root.Defers (n :: l) ∧ l.length = fuel)
      (fun text => ∃ name tag, root.IsPart (.scalar name tag text) ∧
        Relation.ReflTransGen root.Defers n (.scalar name tag text))
      (scalarText root.named c fuel n) := by
  induction fuel generalizing n with
  | zero => exact .inr ⟨rfl, [], List.IsChain.singleton _, rfl⟩
  | succ fuel ih =>
    cases n with
    | scalar name tag text => exact ⟨name, tag, hn, .refl⟩
    | mapping name tag pairs =>
      rw [scalarText]
      split
      · exact .inl rfl
      · split
        · rename_i p hp
          have hstep : root.Defers (.mapping name tag pairs) (Names.follow root.named p.2) :=
            defers_of_find? hp
          refine (ih (hn.of_defers hstep)).mono (fun f hf => ?_) fun text ht => ?_
          · refine hf.imp_right fun h => ?_
            obtain ⟨rfl, l, hl, hlen⟩ := h
            exact ⟨rfl, _ :: l, List.isChain_cons_cons.2 ⟨hstep, hl⟩, congrArg (· + 1) hlen⟩
          · obtain ⟨name', tag', hpart, hdefers⟩ := ht
            exact ⟨name', tag', hpart, hdefers.head hstep⟩
        · exact .inl rfl
    | sequence name tag items => exact .inl rfl
    | _ => exact .inl rfl

/-- The tag does not matter to it. -/
lemma scalarText_withTag (names : Names) (c : Progress) (fuel : Nat) (t : Tag) (n : Node) :
    scalarText names c fuel (n.withTag t) = scalarText names c fuel n := by
  cases fuel with
  | zero => rfl
  | succ fuel => cases n <;> rfl

/-- The limits for following the references of a tree. -/
def scopeOf (root : Node) : Scope := ⟨root.named, root.size⟩

lemma size_lt_fuel (root : Node) : root.size < (scopeOf root).fuel := by
  have hle : 1 * (root.size + 2) * 1 ≤ 2 * (root.size + 2) * (root.named.length + 2) :=
    Nat.mul_le_mul (Nat.mul_le_mul_right _ (by decide)) (by omega)
  have hfuel : (scopeOf root).fuel = 2 * (root.size + 2) * (root.named.length + 2) := rfl
  omega

/-- The search for a text has no end only where a mapping defers to itself. -/
lemma isMeaningFault_of_scalarText (hn : root.IsPart n) {f : Fault}
    (h : scalarText root.named c (scopeOf root).fuel n = .error f) : root.IsMeaningFault f := by
  rcases (ends_scalarText root c _ hn).of_error h with rfl | ⟨rfl, l, hl, hlen⟩
  · exact .inl rfl
  · obtain ⟨m, hm, hcycle⟩ :=
      exists_cycle_of_isChain hl hn (by rw [hlen]; exact size_lt_fuel root)
    exact .inr ⟨_, rfl, .endless hm hcycle⟩

/-- Reading a part of the tree with its own tag. -/
lemma isMeaningFault_of_scalarValue {name : Option String} {tag : Tag} {text : List Point}
    (hn : root.IsPart n) (hscalar : root.IsPart (.scalar name tag text))
    (hdefers : Relation.ReflTransGen root.Defers n (.scalar name tag text)) {f : Fault}
    (h : scalarValue n.tag text = .error f) : root.IsMeaningFault f := by
  rcases (ends_scalarValue n.tag text).of_error h with rfl | ⟨m, rfl, hunder⟩
  · exact .inl rfl
  · exact .inr ⟨m, rfl, .scalar hn hscalar hdefers h hunder⟩

/-- A mapping from which a scalar is reached defers to a node. -/
lemma exists_defers_of_isMapping {name : Option String} {tag : Tag} {text : List Point}
    (hn : n.isMapping = true)
    (h : Relation.ReflTransGen root.Defers n (.scalar name tag text)) :
    ∃ m, root.Defers n m := by
  rcases Relation.ReflTransGen.cases_head h with rfl | ⟨m, hstep, -⟩
  · cases hn
  · exact ⟨m, hstep⟩

/-- A node that may be looked at is a part of the tree with its own tag, or is read as a text. -/
lemma IsSeen.tagOf_cases (hn : root.IsSeen n) (c : Progress) :
    ∃ m, root.IsPart m ∧ (∀ fuel, scalarText root.named c fuel n = scalarText root.named c fuel m) ∧
      (c.tagOf n = .kind .text ∨ n = m ∧ c.tagOf n = m.tag) := by
  have htag (n : Node) : c.tagOf n = .kind .text ∨ c.tagOf n = n.tag := by
    unfold Progress.tagOf
    split
    · exact .inl rfl
    · exact .inr rfl
  obtain ⟨m, hm, rfl | rfl⟩ := hn
  · refine ⟨n, hm, fun _ => rfl, (htag n).imp_right fun h => ⟨rfl, h⟩⟩
  · refine ⟨m, hm, fun fuel => scalarText_withTag _ _ _ _ m, ?_⟩
    rcases m with _ | _ | _ | a
    · exact .inl ((htag _).elim id id)
    · exact .inl ((htag _).elim id id)
    · exact .inl ((htag _).elim id id)
    · exact (htag _).imp_right fun h => ⟨rfl, h⟩

lemma ends_scope_read (hn : root.IsSeen n) :
    Ends root.IsMeaningFault (fun _ => True) ((scopeOf root).read c n) := by
  obtain ⟨m, hm, htext, htag⟩ := IsSeen.tagOf_cases hn c
  unfold Scope.read
  split
  · exact IsMeaningFault.malformed
  · exact IsMeaningFault.malformed
  · exact IsMeaningFault.malformed
  · exact IsMeaningFault.malformed
  · rw [show (scopeOf root).names = root.named from rfl, htext]
    cases hread : scalarText root.named c (scopeOf root).fuel m with
    | error f => exact isMeaningFault_of_scalarText hm hread
    | ok text =>
      obtain ⟨name, tag, hscalar, hdefers⟩ := (ends_scalarText root c _ hm).of_ok hread
      rw [ok_bind]
      rcases htag with htag | ⟨rfl, htag⟩
      · -- nothing can be wrong with a text
        rw [htag, if_neg (by simp)]
        trivial
      · rw [htag]
        split
        · rename_i hdate
          obtain ⟨m, hstep⟩ := exists_defers_of_isMapping hdate.2 hdefers
          exact .inr ⟨_, rfl, .mappingAsDate hm hdate.1 hstep⟩
        · cases hvalue : scalarValue n.tag text with
          | error f => exact isMeaningFault_of_scalarValue hm hscalar hdefers hvalue
          | ok v => trivial

end Read

/-! ### The search for faults -/

namespace Scope

variable {root n : Node} {c : Progress}

/-- Whether a step of the search finds only such faults, and goes on to nodes that it may look
at. -/
def Searches (root : Node) (r : Except Fault (List Node × Progress)) : Prop :=
  Ends root.IsMeaningFault (fun x => (∀ m ∈ x.1, root.IsSeen m) ∧ x.2.Sees root) r

lemma searches_inspect (hn : root.IsSeen n) (hc : c.Sees root) :
    Searches root ((scopeOf root).inspect n c) := by
  have hfollow := hn.follow
  unfold inspect
  dsimp only
  split
  · exact ⟨fun m hm => by rwa [List.mem_singleton.1 hm], hc⟩
  · split
    · exact ⟨List.forall_mem_nil _, hc⟩
    · exact (ends_scope_read hfollow).bind fun r _ => ⟨List.forall_mem_nil _, hc.setReading _ r⟩

lemma searches_inspectItems {items : List Node} (hitems : ∀ m ∈ items, root.IsSeen m)
    (hc : c.Sees root) : Searches root ((scopeOf root).inspectItems items c) := by
  induction items generalizing c with
  | nil => exact ⟨List.forall_mem_nil _, hc⟩
  | cons n items ih =>
    rw [List.forall_mem_cons] at hitems
    rw [inspectItems]
    refine (searches_inspect hitems.1 hc).bind fun x hx => ?_
    refine (ih hitems.2 hx.2).bind fun y hy => ?_
    exact ⟨List.forall_mem_append.2 ⟨hx.1, hy.1⟩, hy.2⟩

lemma searches_inspectPairs {pairs : List (Node × Node)} (hpairs : root.AllSeen pairs)
    (hc : c.Sees root) : Searches root ((scopeOf root).inspectPairs pairs c) := by
  induction pairs generalizing c with
  | nil => exact ⟨List.forall_mem_nil _, hc⟩
  | cons p pairs ih =>
    obtain ⟨⟨hk, hv⟩, hpairs⟩ := List.forall_mem_cons.1 hpairs
    rw [inspectPairs]
    refine (searches_inspect hk hc).bind fun x hx => ?_
    dsimp only
    split
    · refine (searches_inspect hv hx.2).bind fun y hy => ?_
      refine (ih hpairs hy.2).bind fun z hz => ?_
      exact ⟨List.forall_mem_append.2 ⟨hy.1, hz.1⟩, hz.2⟩
    · exact IsMeaningFault.malformed

lemma searches_inspectSingles {items : List Node} (hitems : ∀ m ∈ items, root.IsSeen m)
    (hc : c.Sees root) : Searches root ((scopeOf root).inspectSingles items c) := by
  induction items generalizing c with
  | nil => exact ⟨List.forall_mem_nil _, hc⟩
  | cons n items ih =>
    rw [List.forall_mem_cons] at hitems
    have hfollow : root.IsSeen ((scopeOf root).names.follow n) := hitems.1.follow
    rw [inspectSingles]
    split
    · rename_i name tag own heq
      rw [heq] at hfollow
      have hpairs := hc.pairsOf hfollow
      split
      · rename_i k v hsingle
        rw [hsingle] at hpairs
        obtain ⟨hk, hv⟩ := hpairs (k, v) (List.mem_singleton_self _)
        refine (searches_inspect hk hc).bind fun x hx => ?_
        refine (searches_inspect hv hx.2).bind fun y hy => ?_
        refine (ih hitems.2 hy.2).bind fun z hz => ?_
        exact ⟨List.forall_mem_append.2 ⟨List.forall_mem_append.2 ⟨hx.1, hy.1⟩, hz.1⟩, hz.2⟩
      · exact IsMeaningFault.malformed
    · exact IsMeaningFault.malformed

/-- The pairs of a mapping are looked at after its keys have been taken up. -/
lemma searches_takeUp (hn : root.IsSeen n) (hc : c.Sees root) :
    Searches root (do
      let c ← takeUp (scopeOf root).names (scopeOf root).fuel n [] c
      (scopeOf root).inspectPairs (c.pairsOf n) c) := by
  have hnil : root.AllSeen [] := List.forall_mem_nil _
  have htake := (takesUp_and_bringsIn root (scopeOf root).fuel).1 n [] c hn hnil hc
  exact (htake.mono (fun _ hf => .inl hf) fun _ h => h).bind fun c' hc' =>
    searches_inspectPairs (hc'.pairsOf hn) hc'

lemma searches_inspectInside (hn : root.IsSeen n) (hc : c.Sees root) :
    Searches root ((scopeOf root).inspectInside n c) := by
  unfold inspectInside
  split
  · exact searches_inspectItems hn.items hc
  · exact searches_inspectSingles hn.items hc
  · exact searches_inspectSingles hn.items hc
  · exact searches_takeUp hn hc
  · exact searches_takeUp hn hc
  · exact IsMeaningFault.malformed

lemma searches_inspectAll {ns : List Node} (hns : ∀ m ∈ ns, root.IsSeen m) (hc : c.Sees root) :
    Searches root ((scopeOf root).inspectAll ns c) := by
  induction ns generalizing c with
  | nil => exact ⟨List.forall_mem_nil _, hc⟩
  | cons n ns ih =>
    rw [List.forall_mem_cons] at hns
    rw [inspectAll]
    refine (searches_inspectInside hns.1 hc).bind fun x hx => ?_
    refine (ih hns.2 hx.2).bind fun y hy => ?_
    exact ⟨List.forall_mem_append.2 ⟨hx.1, hy.1⟩, hy.2⟩

lemma mem_of_mem_unseen {seen : List String} {ns : List Node} {m : Node}
    (h : m ∈ (unseen seen ns).1) : m ∈ ns := by
  induction ns generalizing seen with
  | nil => exact h
  | cons n ns ih =>
    rw [unseen] at h
    split at h
    · split at h
      · exact List.mem_cons_of_mem _ (ih h)
      · rcases List.mem_cons.1 h with rfl | h
        · exact List.mem_cons_self ..
        · exact List.mem_cons_of_mem _ (ih h)
    · rcases List.mem_cons.1 h with rfl | h
      · exact List.mem_cons_self ..
      · exact List.mem_cons_of_mem _ (ih h)

lemma ends_inspectLevels (fuel : Nat) (seen : List String) {ns : List Node}
    (hns : ∀ m ∈ ns, root.IsSeen m) (hc : c.Sees root) :
    Ends root.IsMeaningFault (fun _ => True) ((scopeOf root).inspectLevels fuel seen ns c) := by
  induction fuel generalizing seen ns c with
  | zero => trivial
  | succ fuel ih =>
    have hunseen : ∀ m ∈ (unseen seen ns).1, root.IsSeen m :=
      fun m hm => hns m (mem_of_mem_unseen hm)
    rw [inspectLevels]
    generalize unseen seen ns = fresh at hunseen ⊢
    obtain ⟨ns', seen'⟩ := fresh
    dsimp only
    split
    · trivial
    · exact (searches_inspectAll hunseen hc).bind fun x hx => ih _ hx.1 hx.2

end Scope

/-- A tree that stands for no value is malformed, or something keeps it from having one. -/
theorem ends_meaning (root : Node) :
    Ends root.IsMeaningFault (fun _ => True) root.meaning := by
  have htop := Scope.searches_inspect (IsPart.isSeen (.inl .root)) (sees_start root)
  refine Ends.bind (Q := fun _ => True) ?_ fun _ _ => trivial
  exact htop.bind fun x hx => Scope.ends_inspectLevels _ [] hx.1 hx.2

/-! ### The whole text -/

/-- What a text can name that does not exist or is too much, by the mishap that comes of it. -/
inductive NamesNothing (s : List Char) : Mishap → Prop where
  /-- An escape names a position beyond the last character. -/
  | escape {n : Nat} (h : HasEscapeTo s n) : NamesNothing s (.codePoint n)
  /-- A number of the version has too many digits. -/
  | version {n : Nat} (h : HasLongVersion s n) : NamesNothing s (.longInteger n)
  /-- The tree of the text is kept from having a value. -/
  | tree {root : Node} {m : Mishap} (hroot : readNodes s = .ok (some root)) (h : root.Blames m) :
    NamesNothing s m

/-- **Faults of a text.**  A text that has no value is malformed or names something that does not
exist or is too much for the reader. -/
theorem ends_read (s : List Char) :
    Ends (fun f => f = .malformed ∨ ∃ m, f = .mishap m ∧ NamesNothing s m) (fun _ => True)
      (read s) := by
  have hnodes := ends_readNodes s
  rw [read]
  cases hroot : readNodes s with
  | error f =>
    cases hnodes.of_error hroot with
    | malformed => exact .inl rfl
    | escape h => exact .inr ⟨_, rfl, .escape h⟩
    | version h => exact .inr ⟨_, rfl, .version h⟩
  | ok root =>
    cases root with
    | none => trivial
    | some root =>
      refine (ends_meaning root).mono (fun f hf => ?_) fun _ h => h
      exact hf.imp_right fun ⟨m, hm, h⟩ => ⟨m, hm, .tree hroot h⟩

end CssMargin.Yaml
