import TypeLint.Tree.Node

/-!
# Walking a tree

`Node.walk` lists the nodes of a tree, each node before the nodes below it and these from left to right.  It
keeps the nodes that are still to be visited on a stack.  `Node.preorder` is the same list by recursion on
the tree.
-/

namespace TypeLint.Tree

/-- The nodes of the trees on a stack, the first tree first. -/
def walkFrom : List Node → List Node
  | [] => []
  | n :: stack => n :: walkFrom (n.children ++ stack)
termination_by stack => Node.sizes stack
decreasing_by
  have := n.sizes_children_lt
  simp only [Node.sizes_append, Node.sizes]
  omega

/-- The nodes of a tree in the order in which they are visited. -/
def Node.walk (root : Node) : List Node := walkFrom [root]

/-- A node, then the nodes of its subtrees from left to right. -/
def Node.preorder (n : Node) : List Node :=
  n :: n.children.attach.flatMap fun ⟨c, _⟩ => c.preorder
termination_by n.size
decreasing_by exact Node.size_children_lt (by assumption)

/-- The nodes of a tree whose kind is one of `kinds`, in the order in which they are visited. -/
def Node.visited (root : Node) (kinds : List NodeKind) : List Node :=
  root.walk.filter fun n => kinds.contains n.kind

end TypeLint.Tree
