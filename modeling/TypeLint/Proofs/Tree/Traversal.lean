import Mathlib.Computability.StateTransition
import TypeLint.Proofs.Tree.Address
import TypeLint.Tree.Handler

/-!
# Traversals

A tree is visited in turns: the node that was put on the stack last is visited, and its children take its place.

* `Traversal`, `Traversal.turn` — a traversal under way, and what a turn does;
* `Traversal.eval_turn` — the turns come to an end, and the nodes that were visited are those of `Node.walk`;
* `Node.below?`, `Node.places` — the node at a position, and the positions of a tree in preorder;
* `Node.traverse_eq` — handlers are called at the nodes whose kinds they are for;
* `Node.walk_traversal` — the nodes are visited in preorder, each occurrence once and before what is below it.
-/

namespace TypeLint.Tree

/-! ## turns -/

/-- A traversal under way: the nodes visited so far, and the nodes that wait, the next one last. -/
structure Traversal where
  visited : List Node
  waiting : List Node

namespace Traversal

/-- The root waits. -/
def start (root : Node) : Traversal := ⟨[], [root]⟩

/-- One turn: the last of the nodes that wait is visited, and its children wait in its place, the first of them last.
No turn is left if no node waits. -/
def turn (t : Traversal) : Option Traversal :=
  t.waiting.getLast?.map fun n => ⟨t.visited ++ [n], t.waiting.dropLast ++ n.children.reverse⟩

theorem turn_snoc (visited waiting : List Node) (n : Node) :
    turn ⟨visited, waiting ++ [n]⟩ = some ⟨visited ++ [n], waiting ++ n.children.reverse⟩ := by
  simp [turn]

/-- Whatever waits, turns lead to the end, and the trees that wait are visited one after the other. -/
theorem reaches_end (visited stack : List Node) :
    StateTransition.Reaches turn ⟨visited, stack.reverse⟩ ⟨visited ++ walkFrom stack, []⟩ := by
  fun_induction walkFrom stack generalizing visited with
  | case1 =>
    rw [List.append_nil, List.reverse_nil]
    exact .refl
  | case2 n stack ih =>
    have hturn : turn ⟨visited, (n :: stack).reverse⟩ = some ⟨visited ++ [n], (n.children ++ stack).reverse⟩ := by
      rw [List.reverse_cons, turn_snoc, List.reverse_append]
    have hrest := ih (visited ++ [n])
    rw [List.append_assoc, List.singleton_append] at hrest
    exact .head hturn hrest

/-- The turns come to an end. -/
theorem eval_turn (root : Node) : StateTransition.eval turn (start root) = .some ⟨root.walk, []⟩ :=
  Part.eq_some_iff.2 (StateTransition.mem_eval.2 ⟨reaches_end [] [root], rfl⟩)

end Traversal

/-! ## below a node -/

namespace Node

theorem mem_walk {n m : Node} : m ∈ n.walk ↔ m = n ∨ ∃ c ∈ n.children, m ∈ c.walk := by
  simp only [walk_eq]
  rw [preorder_eq, List.mem_cons, List.mem_flatMap]

theorem mem_walk_self (n : Node) : n ∈ n.walk := mem_walk.2 (.inl rfl)

theorem mem_walk_trans {n m k : Node} (hm : m ∈ n.walk) (hk : k ∈ m.walk) : k ∈ n.walk := by
  induction n using Node.preorder.induct with
  | case1 n ih =>
    rcases mem_walk.1 hm with rfl | ⟨c, hc, hm⟩
    · exact hk
    · exact mem_walk.2 (.inr ⟨c, hc, ih c hc hm⟩)

/-- What stands at an address is visited. -/
theorem mem_walk_of_at? {n m : Node} {a : Address} (h : n.at? a = some m) : m ∈ n.walk := by
  induction a generalizing n with
  | nil => exact Option.some.inj h ▸ n.mem_walk_self
  | cons e a ih =>
    obtain ⟨c, hc, hm⟩ := at?_cons_eq_some.1 h
    exact mem_walk.2 (.inr ⟨c, mem_children_of_follow hc, ih hm⟩)

end Node

/-! ## positions -/

/-- The node at a position, which is given by the numbers of the children on the way down. -/
def Node.below? (n : Node) : List Nat → Option Node
  | [] => some n
  | i :: p => n.children[i]?.bind (·.below? p)

/-- The nodes of a tree with their positions, in preorder. -/
def Node.places (n : Node) : List (List Nat × Node) :=
  ([], n) :: n.children.attach.zipIdx.flatMap fun ⟨⟨c, _⟩, i⟩ => c.places.map fun x => (i :: x.1, x.2)
termination_by n.size
decreasing_by exact Node.size_children_lt (by assumption)

namespace Node

theorem places_eq (n : Node) :
    n.places = ([], n) :: n.children.zipIdx.flatMap fun c => c.1.places.map fun x => (c.2 :: x.1, x.2) := by
  rw [places]
  conv_rhs => rw [← List.attach_map_subtype_val n.children, List.zipIdx_map, List.flatMap_map]
  rfl

theorem map_snd_places (n : Node) : n.places.map Prod.snd = n.preorder := by
  induction n using Node.preorder.induct with
  | case1 n ih =>
    have hchildren : n.children.flatMap preorder = n.children.zipIdx.flatMap fun c => c.1.preorder := by
      conv_lhs => rw [← List.zipIdx_map_fst 0 n.children, List.flatMap_map]
    rw [places_eq, preorder_eq, hchildren, List.map_cons, List.map_flatMap]
    congr 1
    refine List.flatMap_congr fun c hc => ?_
    rw [← ih c.1 (List.fst_mem_of_mem_zipIdx hc), List.map_map]
    rfl

theorem mem_places {n m : Node} {p : List Nat} : (p, m) ∈ n.places ↔ n.below? p = some m := by
  induction n using Node.preorder.induct generalizing p with
  | case1 n ih =>
    rw [places_eq]
    cases p with
    | nil => simp [below?, eq_comm]
    | cons i p =>
      simp only [List.mem_cons, Prod.mk.injEq, reduceCtorEq, false_and, false_or, List.mem_flatMap, List.mem_map,
        Prod.exists, List.cons.injEq, List.mem_zipIdx_iff_getElem?, below?, Option.bind_eq_some_iff]
      constructor
      · rintro ⟨c, j, hc, q, m', hm, ⟨rfl, rfl⟩, rfl⟩
        exact ⟨c, hc, (ih c (List.mem_of_getElem? hc)).1 hm⟩
      · rintro ⟨c, hc, hm⟩
        exact ⟨c, i, hc, p, m, (ih c (List.mem_of_getElem? hc)).2 hm, ⟨rfl, rfl⟩, rfl⟩

/-- No position stands behind one that it leads to: a node comes before what is below it, and no position comes
twice. -/
theorem pairwise_places (n : Node) : (n.places.map Prod.fst).Pairwise fun p q => ¬ q <+: p := by
  rw [List.pairwise_map]
  induction n using Node.preorder.induct with
  | case1 n ih =>
    rw [places_eq, List.pairwise_cons, List.pairwise_flatMap]
    refine ⟨?_, ?_, ?_⟩
    · intro x hx
      obtain ⟨c, -, hx⟩ := List.mem_flatMap.1 hx
      obtain ⟨y, -, rfl⟩ := List.mem_map.1 hx
      simp
    · intro c hc
      refine List.pairwise_map.2 ((ih c.1 (List.fst_mem_of_mem_zipIdx hc)).imp fun hxy => ?_)
      rwa [List.cons_prefix_cons, and_iff_right rfl]
    · -- below different children the positions differ in their first number
      refine (List.pairwise_map.1 (List.nodup_zipIdx_map_snd n.children)).imp ?_
      intro c d hcd x hx y hy
      obtain ⟨x, -, rfl⟩ := List.mem_map.1 hx
      obtain ⟨y, -, rfl⟩ := List.mem_map.1 hy
      rw [List.cons_prefix_cons]
      exact fun h => hcd h.1.symm

end Node

/-! ## handlers -/

section Loops

variable {m : Type → Type} [Monad m] {α β : Type}

theorem forM_congr {l : List α} {f g : α → m Unit} (h : ∀ a ∈ l, f a = g a) : forM l f = forM l g := by
  induction l with
  | nil => rfl
  | cons a l ih =>
    rw [List.forM_cons, List.forM_cons, h a List.mem_cons_self, ih fun b hb => h b (List.mem_cons_of_mem a hb)]

theorem forM_flatMap [LawfulMonad m] (l : List α) (f : α → List β) (g : β → m Unit) :
    forM (l.flatMap f) g = forM l fun a => forM (f a) g := by
  induction l with
  | nil => rfl
  | cons a l ih => rw [List.flatMap_cons, List.forM_append, List.forM_cons, ih]

end Loops

section Handlers

variable {m : Type → Type}

theorem Handlers.handles_forKinds (kinds : List NodeKind) (handler : Node → m Unit) (n : Node) :
    (forKinds kinds handler).handles n = kinds.contains n.kind := by
  unfold handles forKinds
  split
  · next h => exact h.symm
  · next h => exact (Bool.eq_false_of_not_eq_true h).symm

variable [Monad m] {handlers : Handlers m}

theorem Handlers.call_of_not_handles {n : Node} (h : handlers.handles n = false) : handlers.call n = pure () := by
  rw [handles, Option.isSome_eq_false_iff, Option.isNone_iff_eq_none] at h
  rw [call, h]

theorem Handlers.call_forKinds {kinds : List NodeKind} {handler : Node → m Unit} {n : Node}
    (h : kinds.contains n.kind = true) : (forKinds kinds handler).call n = handler n := by
  rw [call, forKinds, if_pos h]

variable [LawfulMonad m]

/-- The handlers are called at the nodes that have one. -/
theorem Handlers.callFrom_eq (handlers : Handlers m) (stack : List Node) :
    handlers.callFrom stack = forM ((walkFrom stack).filter handlers.handles) handlers.call := by
  fun_induction walkFrom stack with
  | case1 =>
    rw [callFrom]
    rfl
  | case2 n stack ih =>
    rw [callFrom, ih]
    cases hn : handlers.handles n with
    | true => rw [List.filter_cons_of_pos hn, List.forM_cons]
    | false => rw [List.filter_cons_of_neg (by simp [hn]), call_of_not_handles hn, pure_bind]

theorem Node.traverse_eq (root : Node) (handlers : Handlers m) :
    root.traverse handlers = forM (root.walk.filter handlers.handles) handlers.call :=
  handlers.callFrom_eq [root]

/-- A handler for some kinds is called at the nodes of these kinds. -/
theorem Node.traverse_forKinds (root : Node) (kinds : List NodeKind) (handler : Node → m Unit) :
    root.traverse (.forKinds kinds handler) = forM (root.visited kinds) handler := by
  rw [Node.traverse_eq, Node.visited, funext (Handlers.handles_forKinds kinds handler)]
  exact forM_congr fun n hn => Handlers.call_forKinds (List.mem_filter.1 hn).2

end Handlers

/-! ## the whole traversal -/

/-- The turns come to an end, and the nodes have then been visited in preorder: a node, then the traversals of its
children from left to right.  Each position of the tree is visited once, and before the positions below it.  Handlers
are called at the nodes whose kinds have one, in that order. -/
theorem Node.walk_traversal (root : Node) :
    StateTransition.eval Traversal.turn (.start root) = .some ⟨root.walk, []⟩ ∧
    root.walk = root.preorder ∧ (∀ n : Node, n.preorder = n :: n.children.flatMap Node.preorder) ∧
    (∃ places : List (List Nat × Node), places.map Prod.snd = root.walk ∧
      (∀ p n, (p, n) ∈ places ↔ root.below? p = some n) ∧ (places.map Prod.fst).Nodup ∧
      (places.map Prod.fst).Pairwise fun p q => ¬ q <+: p) ∧
    ∀ (m : Type → Type) [Monad m] [LawfulMonad m],
      (∀ handlers : Handlers m, root.traverse handlers = forM (root.walk.filter handlers.handles) handlers.call) ∧
      ∀ (kinds : List NodeKind) (handler : Node → m Unit), root.traverse (.forKinds kinds handler) =
        forM (root.walk.filter fun n => kinds.contains n.kind) handler := by
  have hnodup : (root.places.map Prod.fst).Nodup := by
    refine root.pairwise_places.imp ?_
    rintro p q hpq rfl
    exact hpq (List.prefix_refl p)
  refine ⟨Traversal.eval_turn root, root.walk_eq, Node.preorder_eq, ?_, ?_⟩
  · refine ⟨root.places, ?_, fun p n => Node.mem_places, hnodup, root.pairwise_places⟩
    rw [Node.map_snd_places, Node.walk_eq]
  · intro m _ _
    exact ⟨root.traverse_eq, root.traverse_forKinds⟩

/-- A block with a missing statement, a declarator without a type, and a statement without an argument: the names of
the kinds that have a handler are noted in preorder. -/
theorem Node.walk_traversal_gaps :
    ∃ root : Node,
      root = .mk .block none [.list [.null, .node (.mk .variableDeclarator none
        [.text (text "a"), .null, .node (.mk .identifier none [.text (text "b")])]),
        .node (.mk .returnStatement none [.null])]] ∧
      ((root.traverse (.forKinds [.returnStatement, .identifier, .block] fun n =>
        (modify (· ++ [n.kind]) : StateM (List NodeKind) Unit))).run []).2 =
          [.block, .identifier, .returnStatement] := by
  refine ⟨_, rfl, ?_⟩
  rw [((Node.walk_traversal _).2.2.2.2 (StateM (List NodeKind))).2, Node.walk_eq]
  simp only [Node.preorder_eq, Node.children, Node.values, Value.nodes, Value.node?, List.filterMap_cons,
    List.filterMap_nil, List.flatMap_cons, List.flatMap_nil, List.append_nil, List.nil_append, List.cons_append]
  rfl

end TypeLint.Tree
