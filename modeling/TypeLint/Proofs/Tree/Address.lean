import Mathlib.Data.List.Nodup
import Mathlib.Data.List.Sigma
import TypeLint.Tree.Walk

/-!
# Addresses in a tree

Equal nodes can stand at several places of a tree.  A place is given by its address, the edges from the root down to
it.

* `Enumerates` — a list holds the values of a relation, one for each key;
* `Edge`, `Address` — a step from a node to one of its children, and a sequence of steps;
* `Node.follow`, `Node.at?` — the node behind an edge, and the node at an address;
* `Node.enumerates_children` — the children of a node are the nodes behind its edges;
* `Node.walk_eq` — the nodes of a tree are visited in preorder.
-/

namespace TypeLint.Tree

/-! ## lists with keys -/

/-- A list holds the values of a relation, one for each key. -/
def Enumerates {κ α : Type} (as : List α) (R : κ → α → Prop) : Prop :=
  ∃ l : List (κ × α), l.map Prod.snd = as ∧ (∀ k a, (k, a) ∈ l ↔ R k a) ∧ (l.map Prod.fst).Nodup

namespace Enumerates

variable {κ κ' κ'' α β : Type} {as as' : List α} {R R' : κ → α → Prop}

theorem nil (h : ∀ k a, ¬ R k a) : Enumerates [] R :=
  ⟨[], rfl, fun k a => by simp [h k a], List.nodup_nil⟩

theorem singleton {a : α} {k : κ} (h : ∀ k' a', R k' a' ↔ k' = k ∧ a' = a) : Enumerates [a] R :=
  ⟨[(k, a)], rfl, fun k' a' => by simp [h k' a'], List.nodup_singleton _⟩

theorem congr (h : Enumerates as R) (hR : ∀ k a, R k a ↔ R' k a) : Enumerates as R' := by
  obtain ⟨l, hl, hm, hn⟩ := h
  exact ⟨l, hl, fun k a => (hm k a).trans (hR k a), hn⟩

theorem mem (h : Enumerates as R) {k : κ} {a : α} (hR : R k a) : a ∈ as := by
  obtain ⟨l, rfl, hm, -⟩ := h
  exact List.mem_map.2 ⟨(k, a), (hm k a).2 hR, rfl⟩

theorem exists_key (h : Enumerates as R) {a : α} (ha : a ∈ as) : ∃ k, R k a := by
  obtain ⟨l, rfl, hm, -⟩ := h
  obtain ⟨⟨k, a⟩, hl, rfl⟩ := List.mem_map.1 ha
  exact ⟨k, (hm k a).1 hl⟩

/-- A mark that tells the values of a list apart tells their keys, too. -/
theorem key_eq {f : α → β} (h : Enumerates as R) (hp : as.Pairwise fun a b => f a ≠ f b) {k k' : κ} {a a' : α}
    (hR : R k a) (hR' : R k' a') (hf : f a = f a') : k = k' := by
  obtain ⟨l, rfl, hm, -⟩ := h
  have : Std.Symm fun x y : κ × α => f x.2 ≠ f y.2 := ⟨fun _ _ h => h.symm⟩
  by_contra hk
  refine (List.pairwise_map.1 hp).forall ((hm k a).2 hR) ((hm k' a').2 hR') ?_ hf
  intro he
  exact hk (Prod.mk.inj he).1

/-- What holds of the values of different keys holds along the list. -/
theorem pairwise {S : α → α → Prop} (h : Enumerates as R)
    (hS : ∀ k a k' a', R k a → R k' a' → k ≠ k' → S a a') : as.Pairwise S := by
  obtain ⟨l, rfl, hm, hn⟩ := h
  refine List.pairwise_map.2 ((List.pairwise_map.1 hn).imp_of_mem ?_)
  rintro ⟨k, a⟩ ⟨k', a'⟩ ha ha' hne
  exact hS k a k' a' ((hm k a).1 ha) ((hm k' a').1 ha') hne

/-- Two lists whose keys differ. -/
theorem append (h : Enumerates as R) (h' : Enumerates as' R') (hd : ∀ k a a', R k a → ¬ R' k a') :
    Enumerates (as ++ as') fun k a => R k a ∨ R' k a := by
  obtain ⟨l, rfl, hm, hn⟩ := h
  obtain ⟨l', rfl, hm', hn'⟩ := h'
  refine ⟨l ++ l', List.map_append, fun k a => by rw [List.mem_append, hm, hm'], ?_⟩
  rw [List.map_append, List.nodup_append']
  refine ⟨hn, hn', ?_⟩
  intro k hk hk'
  obtain ⟨⟨k, a⟩, ha, rfl⟩ := List.mem_map.1 hk
  obtain ⟨⟨k', a'⟩, ha', hkk⟩ := List.mem_map.1 hk'
  obtain rfl : k' = k := hkk
  exact hd k' a a' ((hm k' a).1 ha) ((hm' k' a').1 ha')

/-- Each value is continued by further ones, and the keys are joined in a way that keeps them apart. -/
theorem flatMap {f : α → List β} {S : κ → α → κ' → β → Prop} (join : κ → κ' → κ'') (h : Enumerates as R)
    (hf : ∀ k a, R k a → Enumerates (f a) (S k a))
    (hj : ∀ {i a j b i' a' j' b'}, R i a → S i a j b → R i' a' → S i' a' j' b' → join i j = join i' j' →
      i = i' ∧ j = j') :
    Enumerates (as.flatMap f) fun k b => ∃ i a j, R i a ∧ S i a j b ∧ join i j = k := by
  obtain ⟨l, rfl, hm, hn⟩ := h
  have hg : ∀ x : κ × α, ∃ g : List (κ' × β), x ∈ l → g.map Prod.snd = f x.2 ∧
      (∀ j b, (j, b) ∈ g ↔ S x.1 x.2 j b) ∧ (g.map Prod.fst).Nodup := by
    intro x
    by_cases hx : x ∈ l
    · obtain ⟨g, hg⟩ := hf x.1 x.2 ((hm x.1 x.2).1 hx)
      exact ⟨g, fun _ => hg⟩
    · exact ⟨[], fun h => absurd h hx⟩
  choose g hg using hg
  refine ⟨l.flatMap fun x => (g x).map fun y => (join x.1 y.1, y.2), ?_, ?_, ?_⟩
  · rw [List.map_flatMap, List.flatMap_map]
    refine List.flatMap_congr fun x hx => ?_
    rw [← (hg x hx).1, List.map_map]
    rfl
  · intro k b
    simp only [List.mem_flatMap, List.mem_map, Prod.mk.injEq, Prod.exists]
    constructor
    · rintro ⟨i, a, hl, j, b', hb, rfl, rfl⟩
      exact ⟨i, a, j, (hm i a).1 hl, ((hg _ hl).2.1 j b').1 hb, rfl⟩
    · rintro ⟨i, a, j, hR, hS, rfl⟩
      have hl := (hm i a).2 hR
      exact ⟨i, a, hl, j, b, ((hg _ hl).2.1 j b).2 hS, rfl, rfl⟩
  · have hapart : ∀ x ∈ l, ∀ y ∈ g x, ∀ x' ∈ l, ∀ y' ∈ g x', join x.1 y.1 = join x'.1 y'.1 →
        x.1 = x'.1 ∧ y.1 = y'.1 := by
      intro x hx y hy x' hx' y' hy' h
      exact hj ((hm _ _).1 hx) (((hg x hx).2.1 _ _).1 hy) ((hm _ _).1 hx') (((hg x' hx').2.1 _ _).1 hy') h
    rw [List.Nodup, List.pairwise_map, List.pairwise_flatMap]
    constructor
    · intro x hx
      refine List.pairwise_map.2 (List.Pairwise.imp_of_mem ?_ (List.pairwise_map.1 (hg x hx).2.2))
      intro y y' hy hy' hne h
      exact hne (hapart x hx y hy x hx y' hy' h).2
    · refine List.Pairwise.imp_of_mem ?_ (List.pairwise_map.1 hn)
      intro x x' hx hx' hne z hz z' hz' h
      obtain ⟨y, hy, rfl⟩ := List.mem_map.1 hz
      obtain ⟨y', hy', rfl⟩ := List.mem_map.1 hz'
      exact hne (hapart x hx y hy x' hx' y' hy' h).1

/-- The values for which there is a further one. -/
theorem filterMap {f : α → Option β} (h : Enumerates as R) :
    Enumerates (as.filterMap f) fun k b => ∃ a, R k a ∧ f a = some b := by
  obtain ⟨l, rfl, hm, hn⟩ := h
  refine ⟨l.filterMap fun x => (f x.2).map (x.1, ·), ?_, ?_, ?_⟩
  · simp [List.map_filterMap, List.filterMap_map, Function.comp_def]
  · intro k b
    simp only [List.mem_filterMap, Option.map_eq_some_iff, Prod.mk.injEq, Prod.exists, hm]
    constructor
    · rintro ⟨i, a, hR, b', hb, rfl, rfl⟩
      exact ⟨a, hR, hb⟩
    · rintro ⟨a, hR, hb⟩
      exact ⟨k, a, hR, b, hb, rfl, rfl⟩
  · refine List.pairwise_map.2 (List.Pairwise.filterMap _ ?_ (List.pairwise_map.1 hn))
    intro x y hxy z hz z' hz' h
    obtain ⟨b, -, rfl⟩ := Option.map_eq_some_iff.1 hz
    obtain ⟨b', -, rfl⟩ := Option.map_eq_some_iff.1 hz'
    exact hxy h

theorem map {f : α → β} (h : Enumerates as R) : Enumerates (as.map f) fun k b => ∃ a, R k a ∧ f a = b := by
  rw [← List.filterMap_eq_map']
  refine h.filterMap.congr fun k b => ?_
  simp only [Option.some.injEq]

/-- Keys that are renamed apart. -/
theorem rekey {f : κ → κ'} (h : Enumerates as R) (hf : ∀ {i a j b}, R i a → R j b → f i = f j → i = j) :
    Enumerates as fun k a => ∃ i, R i a ∧ f i = k := by
  obtain ⟨l, rfl, hm, hn⟩ := h
  refine ⟨l.map fun x => (f x.1, x.2), ?_, ?_, ?_⟩
  · rw [List.map_map]
    rfl
  · intro k b
    simp only [List.mem_map, Prod.mk.injEq, Prod.exists, hm]
    constructor
    · rintro ⟨i, a, hR, rfl, rfl⟩
      exact ⟨i, hR, rfl⟩
    · rintro ⟨i, hR, rfl⟩
      exact ⟨i, b, hR, rfl, rfl⟩
  · rw [List.map_map]
    refine List.pairwise_map.2 (List.Pairwise.imp_of_mem ?_ (List.pairwise_map.1 hn))
    intro x y hx hy hxy h
    exact hxy (hf ((hm _ _).1 hx) ((hm _ _).1 hy) h)

end Enumerates

/-! ## edges -/

/-- A step from a node to a child. -/
inductive Edge where
  /-- to the node in a field -/
  | field (f : Field)
  /-- to a node of the list in a field -/
  | item (f : Field) (i : Nat)
deriving DecidableEq

/-- The field that an edge leads through. -/
def Edge.through : Edge → Field
  | .field f | .item f _ => f

/-- A sequence of steps. -/
abbrev Address := List Edge

/-- The node behind an edge through the field that holds `v`. -/
def Value.follow (v : Value) : Edge → Option Node
  | .field _ => v.node?
  | .item _ i =>
    match v with
    | .list vs => vs[i]?.bind Value.node?
    | _ => none

/-- The node behind an edge. -/
def Node.follow (n : Node) (e : Edge) : Option Node := (n.get e.through).follow e

/-- The node at an address. -/
def Node.at? (n : Node) : Address → Option Node
  | [] => some n
  | e :: a => (n.follow e).bind (·.at? a)

@[simp]
theorem Node.at?_nil (n : Node) : n.at? [] = some n := rfl

theorem Node.at?_cons_eq_some {n m : Node} {e : Edge} {a : Address} :
    n.at? (e :: a) = some m ↔ ∃ c, n.follow e = some c ∧ c.at? a = some m := by
  rw [Node.at?, Option.bind_eq_some_iff]

@[simp]
theorem Node.at?_append (n : Node) (a b : Address) : n.at? (a ++ b) = (n.at? a).bind (·.at? b) := by
  induction a generalizing n with
  | nil => rfl
  | cons e a ih =>
    rw [List.cons_append, Node.at?, Node.at?]
    cases n.follow e with
    | none => rfl
    | some c => exact ih c

section Values

variable {f : Field} {v : Value}

/-- The items of a list are the nodes behind its edges. -/
theorem Value.enumerates_items : Enumerates v.items fun e c => ∃ i, e = .item f i ∧ v.follow e = some c := by
  cases v with
  | list vs =>
    refine ⟨vs.zipIdx.filterMap fun x => x.1.node?.map (Edge.item f x.2, ·), ?_, ?_, ?_⟩
    · conv_rhs => rw [Value.items, ← List.zipIdx_map_fst 0 vs, List.filterMap_map]
      simp [List.map_filterMap, Function.comp_def]
    · intro e c
      simp only [List.mem_filterMap, Option.map_eq_some_iff, Prod.mk.injEq, Prod.exists, List.mem_zipIdx_iff_getElem?]
      constructor
      · rintro ⟨v, i, hv, c', hc, rfl, rfl⟩
        exact ⟨i, rfl, by simp [Value.follow, hv, hc]⟩
      · rintro ⟨i, rfl, h⟩
        obtain ⟨v, hv, hc⟩ := Option.bind_eq_some_iff.1 h
        exact ⟨v, i, hv, c, hc, rfl, rfl⟩
    · rw [List.map_filterMap]
      refine List.Pairwise.filterMap _ ?_ (List.pairwise_map.1 (List.nodup_zipIdx_map_snd vs))
      rintro ⟨v, i⟩ ⟨w, j⟩ hij e he e' he' rfl
      obtain ⟨x, hx, rfl⟩ := Option.map_eq_some_iff.1 he
      obtain ⟨y, hy, hxy⟩ := Option.map_eq_some_iff.1 he'
      obtain ⟨c, -, rfl⟩ := Option.map_eq_some_iff.1 hx
      obtain ⟨c', -, rfl⟩ := Option.map_eq_some_iff.1 hy
      exact hij (Edge.item.inj hxy).2.symm
  | _ =>
    refine .nil ?_
    rintro e c ⟨i, rfl, h⟩
    simp [Value.follow] at h

/-- The nodes that a field holds are the nodes behind its edges. -/
theorem Value.enumerates_nodes : Enumerates v.nodes fun e c => e.through = f ∧ v.follow e = some c := by
  cases v with
  | node n =>
    refine .singleton (k := .field f) fun e c => ?_
    cases e with
    | field g => simp [Value.follow, Value.node?, Edge.through, eq_comm]
    | item g i => simp [Value.follow]
  | list vs =>
    refine (Value.enumerates_items (f := f) (v := .list vs)).congr fun e c => ?_
    cases e with
    | field g => simp [Value.follow, Value.node?]
    | item g i => simp [Edge.through]
  | _ =>
    refine .nil fun e c => ?_
    cases e <;> simp [Value.follow, Value.node?]

theorem Value.mem_nodes_of_follow {e : Edge} {c : Node} (h : v.follow e = some c) : c ∈ v.nodes :=
  (Value.enumerates_nodes (f := e.through)).mem ⟨rfl, h⟩

end Values

theorem NodeKind.nodup_fields (k : NodeKind) : k.fields.Nodup := by
  cases k <;> decide

theorem pairwise_zip {α β : Type} {as : List α} (h : as.Nodup) (bs : List β) :
    (as.zip bs).Pairwise fun x y => x.1 ≠ y.1 := by
  induction as generalizing bs with
  | nil => exact .nil
  | cons a as ih =>
    cases bs with
    | nil => exact .nil
    | cons b bs =>
      obtain ⟨ha, has⟩ := List.nodup_cons.1 h
      refine List.pairwise_cons.2 ⟨?_, ih has bs⟩
      rintro x hx rfl
      exact ha (List.of_mem_zip hx).1

theorem Node.pairwise_fields (n : Node) : (n.kind.fields.zip n.values).Pairwise fun x y => x.1 ≠ y.1 :=
  pairwise_zip n.kind.nodup_fields n.values

/-- The value of a field that a node has. -/
theorem Node.get_of_mem_zip {n : Node} {f : Field} {v : Value} (h : (f, v) ∈ n.kind.fields.zip n.values) :
    n.get f = v := by
  obtain ⟨before, behind, hz⟩ := List.append_of_mem h
  have hp := n.pairwise_fields
  rw [hz, List.pairwise_append] at hp
  have hf : (n.kind.fields.zip n.values).find? (·.1 = f) = some (f, v) := by
    rw [List.find?_eq_some_iff_append]
    refine ⟨by simp, before, behind, hz, ?_⟩
    intro x hx
    simpa using hp.2.2 x hx (f, v) (by simp)
  rw [Node.get, hf]

theorem Node.mem_zip_of_get_ne {n : Node} {f : Field} (h : n.get f ≠ .null) :
    (f, n.get f) ∈ n.kind.fields.zip n.values := by
  unfold Node.get at h ⊢
  split at h
  · next g v hf =>
    obtain rfl : g = f := by simpa using List.find?_some hf
    exact List.mem_of_find?_eq_some hf
  · exact absurd rfl h

theorem Node.follow_eq_some {n c : Node} {e : Edge} :
    n.follow e = some c ↔ ∃ v, (e.through, v) ∈ n.kind.fields.zip n.values ∧ v.follow e = some c := by
  constructor
  · intro h
    refine ⟨n.get e.through, Node.mem_zip_of_get_ne ?_, h⟩
    intro hn
    rw [Node.follow, hn] at h
    cases e <;> simp [Value.follow, Value.node?] at h
  · rintro ⟨v, hz, h⟩
    rw [Node.follow, Node.get_of_mem_zip hz, h]

/-- The children of a node are the nodes behind its edges, if it has no more values than fields. -/
theorem Node.enumerates_children {n : Node} (hn : n.values.length ≤ n.kind.fields.length) :
    Enumerates n.children fun e c => n.follow e = some c := by
  have hvalues : Enumerates n.values fun f v => (f, v) ∈ n.kind.fields.zip n.values :=
    ⟨_, List.map_snd_zip hn, fun _ _ => Iff.rfl, List.pairwise_map.2 n.pairwise_fields⟩
  refine (hvalues.flatMap (fun _ e => e) (fun f v _ => Value.enumerates_nodes (f := f)) ?_).congr ?_
  · rintro f v e c f' v' e' c' - ⟨rfl, -⟩ - ⟨rfl, -⟩ rfl
    exact ⟨rfl, rfl⟩
  · intro e c
    rw [Node.follow_eq_some]
    constructor
    · rintro ⟨f, v, e, hz, ⟨rfl, h⟩, rfl⟩
      exact ⟨v, hz, h⟩
    · rintro ⟨v, hz, h⟩
      exact ⟨_, v, e, hz, ⟨rfl, h⟩, rfl⟩

theorem Node.mem_children_of_follow {n c : Node} {e : Edge} (h : n.follow e = some c) : c ∈ n.children := by
  obtain ⟨v, hz, h⟩ := Node.follow_eq_some.1 h
  exact List.mem_flatMap.2 ⟨v, (List.of_mem_zip hz).2, Value.mem_nodes_of_follow h⟩

/-! ## preorder -/

theorem Node.preorder_eq (n : Node) : n.preorder = n :: n.children.flatMap Node.preorder := by
  rw [Node.preorder]
  simp

theorem walkFrom_eq (stack : List Node) : walkFrom stack = stack.flatMap Node.preorder := by
  fun_induction walkFrom stack with
  | case1 => rfl
  | case2 n stack ih => rw [ih, List.flatMap_cons, Node.preorder_eq n, List.flatMap_append, List.cons_append]

/-- The nodes are visited in preorder. -/
theorem Node.walk_eq (n : Node) : n.walk = n.preorder := by
  rw [Node.walk, walkFrom_eq]
  simp

end TypeLint.Tree
