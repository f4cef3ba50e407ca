import TypeLint.Tree.Walk

/-!
# Handlers

What is done at the nodes of a tree.  A handler belongs to a kind of nodes; it is called when a node of that kind is
visited, before the children of the node are put on the stack.

* `Handlers`, `Handlers.handles`, `Handlers.call` — handlers by kind, the nodes that have one, and what is done there;
* `Node.traverse` — the handlers at the nodes of a tree.
-/

namespace TypeLint.Tree

variable {m : Type → Type} [Monad m]

/-- What is to be done at nodes, by their kind. -/
abbrev Handlers (m : Type → Type) := NodeKind → Option (Node → m Unit)

namespace Handlers

/-- One handler for some kinds of nodes. -/
def forKinds (kinds : List NodeKind) (handler : Node → m Unit) : Handlers m :=
  fun kind => if kinds.contains kind then some handler else none

/-- There is a handler for the kind of a node. -/
def handles (handlers : Handlers m) (n : Node) : Bool := (handlers n.kind).isSome

/-- The handler of its kind at a node; nothing is done if there is none. -/
def call (handlers : Handlers m) (n : Node) : m Unit :=
  match handlers n.kind with
  | some handler => handler n
  | none => pure ()

/-- The handlers at the nodes of the trees on a stack, the first tree first. -/
def callFrom (handlers : Handlers m) : List Node → m Unit
  | [] => pure ()
  | n :: stack => do
    handlers.call n
    callFrom handlers (n.children ++ stack)
termination_by stack => Node.sizes stack
decreasing_by
  have := n.sizes_children_lt
  simp only [Node.sizes_append, Node.sizes]
  omega

end Handlers

/-- The handlers at the nodes of a tree. -/
def Node.traverse (root : Node) (handlers : Handlers m) : m Unit := handlers.callFrom [root]

end TypeLint.Tree
