import TypeLint.Number.Binary64
import TypeLint.Text.Basic

/-!
# Nodes

The tree that rules look at.  A node has a kind, a location if it is known, and a value for each field of its
kind, in the order in which the fields stand in a source.  Trees need not come from a source: any value may
stand in any field.

* `NodeKind`, `NodeKind.fields` — the kinds of nodes and their fields;
* `Node`, `Value` — nodes and what their fields hold;
* `Node.get`, `Node.child?`, `Node.items` — a field of a node, as a node, as the nodes of a list;
* `Node.children` — the nodes that the fields hold, in order.
-/

namespace TypeLint.Tree

/-- The kinds of nodes. -/
inductive NodeKind where
  | program | block | variableDeclaration | variableDeclarator | functionDeclaration | functionExpression
  | arrowFunctionExpression | param | classDeclaration | classExpression | classHeritage
  | methodDefinition | propertyDefinition | returnStatement | expressionStatement | identifier | literal
  | memberExpression | callExpression | newExpression | assignmentExpression | binaryExpression
  | typeReference | qualifiedTypeReference | arrayType | unionType | functionType | literalType
  | typeParameter
deriving DecidableEq

/-- The names of the fields of nodes. -/
inductive Field where
  | body | binder | declarations | name | declaredType | init | typeParams | params | returnType
  | optional | default | heritage | typeArgs | value | argument | expression | raw | object | property
  | callee | arguments | target | op | left | right | path | element | types | constraint
deriving DecidableEq

/-- The fields of a kind, in the order of the source. -/
def NodeKind.fields : NodeKind → List Field
  | .program => [.body]
  | .block => [.body]
  | .variableDeclaration => [.binder, .declarations]
  | .variableDeclarator => [.name, .declaredType, .init]
  | .functionDeclaration => [.name, .typeParams, .params, .returnType, .body]
  | .functionExpression => [.typeParams, .params, .returnType, .body]
  | .arrowFunctionExpression => [.typeParams, .params, .returnType, .body]
  | .param => [.name, .declaredType, .optional, .default]
  | .classDeclaration => [.name, .typeParams, .heritage, .body]
  | .classExpression => [.typeParams, .heritage, .body]
  | .classHeritage => [.name, .typeArgs]
  | .methodDefinition => [.name, .value]
  | .propertyDefinition => [.name, .declaredType, .optional, .value]
  | .returnStatement => [.argument]
  | .expressionStatement => [.expression]
  | .identifier => [.name]
  | .literal => [.value, .raw]
  | .memberExpression => [.object, .property]
  | .callExpression => [.callee, .typeArgs, .arguments]
  | .newExpression => [.callee, .typeArgs, .arguments]
  | .assignmentExpression => [.target, .value]
  | .binaryExpression => [.op, .left, .right]
  | .typeReference => [.name, .typeArgs]
  | .qualifiedTypeReference => [.path, .typeArgs]
  | .arrayType => [.element]
  | .unionType => [.types]
  | .functionType => [.typeParams, .params, .returnType]
  | .literalType => [.value]
  | .typeParameter => [.name, .constraint, .default]

/-- Line and column of a node, as far as they are known. -/
structure Loc where
  line : Option Int
  column : Option Int
deriving DecidableEq

mutual

/-- A node: the values stand in the order of the fields of its kind, and a missing value is `null`. -/
inductive Node where
  | mk (kind : NodeKind) (loc : Option Loc) (values : List Value)

/-- What a field of a node holds. -/
inductive Value where
  | null
  | bool (b : Bool)
  | int (n : Int)
  | float (x : Binary64)
  | text (t : Text)
  | node (n : Node)
  | list (items : List Value)

end

namespace Value

/-- The node that a value is. -/
def node? : Value → Option Node
  | .node n => some n
  | _ => none

/-- The text that a value is. -/
def text? : Value → Option Text
  | .text t => some t
  | _ => none

/-- The nodes among the items of a list. -/
def items : Value → List Node
  | .list vs => vs.filterMap node?
  | _ => []

/-- The nodes that a value holds: itself, or the nodes among its items. -/
def nodes : Value → List Node
  | .node n => [n]
  | .list vs => vs.filterMap node?
  | _ => []

end Value

namespace Node

/-- The kind of a node. -/
def kind : Node → NodeKind
  | .mk k _ _ => k

/-- The location of a node. -/
def loc : Node → Option Loc
  | .mk _ l _ => l

/-- The values of the fields of a node. -/
def values : Node → List Value
  | .mk _ _ vs => vs

/-- The value of a field; `null` if nodes of this kind have no such field. -/
def get (n : Node) (f : Field) : Value :=
  match (n.kind.fields.zip n.values).find? (·.1 = f) with
  | some (_, v) => v
  | none => .null

/-- The node in a field. -/
def child? (n : Node) (f : Field) : Option Node := (n.get f).node?

/-- The nodes of the list in a field. -/
def items (n : Node) (f : Field) : List Node := (n.get f).items

/-- The name of a node, if it has one. -/
def name? (n : Node) : Option Text := (n.get .name).text?

/-- The nodes that the fields of a node hold, in the order of the source. -/
def children (n : Node) : List Node := n.values.flatMap Value.nodes

end Node

/-! ## sizes -/

mutual

/-- The number of nodes of a tree. -/
def Node.size : Node → Nat
  | .mk _ _ vs => 1 + Value.sizes vs

/-- The number of nodes in a value, at any depth. -/
def Value.size : Value → Nat
  | .node n => n.size
  | .list vs => Value.sizes vs
  | _ => 0

/-- The number of nodes in a list of values, at any depth. -/
def Value.sizes : List Value → Nat
  | [] => 0
  | v :: vs => v.size + Value.sizes vs

end

/-- The number of nodes of trees. -/
def Node.sizes : List Node → Nat
  | [] => 0
  | n :: ns => n.size + Node.sizes ns

theorem Node.sizes_append (ns ms : List Node) : Node.sizes (ns ++ ms) = Node.sizes ns + Node.sizes ms := by
  induction ns with
  | nil => simp [Node.sizes]
  | cons n ns ih =>
    simp only [List.cons_append, Node.sizes, ih]
    omega

theorem Value.sizes_filterMap_le (vs : List Value) : Node.sizes (vs.filterMap Value.node?) ≤ Value.sizes vs := by
  induction vs with
  | nil => simp [Value.sizes, Node.sizes]
  | cons v vs ih =>
    simp only [Value.sizes, List.filterMap_cons]
    cases v <;> simp only [Value.node?, Value.size, Node.sizes] <;> omega

theorem Value.sizes_nodes_le (v : Value) : Node.sizes v.nodes ≤ v.size := by
  cases v <;> simp [Value.nodes, Value.size, Node.sizes, Value.sizes_filterMap_le]

/-- The children of a node together are smaller than the node. -/
theorem Node.sizes_children_lt (n : Node) : Node.sizes n.children < n.size := by
  obtain ⟨k, l, vs⟩ := n
  simp only [Node.children, Node.values, Node.size]
  suffices h : Node.sizes (vs.flatMap Value.nodes) ≤ Value.sizes vs by omega
  induction vs with
  | nil => simp [Value.sizes, Node.sizes]
  | cons v vs ih =>
    have := Value.sizes_nodes_le v
    simp only [List.flatMap_cons, Node.sizes_append, Value.sizes]
    omega

theorem Node.size_le_sizes {ns : List Node} {n : Node} (h : n ∈ ns) : n.size ≤ Node.sizes ns := by
  induction ns with
  | nil => simp at h
  | cons m ns ih =>
    simp only [Node.sizes]
    rcases List.mem_cons.1 h with rfl | h
    · omega
    · have := ih h
      omega

theorem Node.size_children_lt {n c : Node} (h : c ∈ n.children) : c.size < n.size :=
  Nat.lt_of_le_of_lt (Node.size_le_sizes h) n.sizes_children_lt

theorem Value.size_node?_le {v : Value} {n : Node} (h : v.node? = some n) : n.size ≤ v.size := by
  cases v <;> simp_all [Value.node?, Value.size]

theorem Value.size_le_of_mem {vs : List Value} {v : Value} (h : v ∈ vs) : v.size ≤ Value.sizes vs := by
  induction vs with
  | nil => simp at h
  | cons w vs ih =>
    simp only [Value.sizes]
    rcases List.mem_cons.1 h with rfl | h
    · omega
    · have := ih h
      omega

theorem Value.size_items_le {v : Value} {n : Node} (h : n ∈ v.items) : n.size ≤ v.size := by
  cases v with
  | list vs =>
    obtain ⟨w, hw, hn⟩ := List.mem_filterMap.1 h
    have h1 := Value.size_node?_le hn
    have h2 := Value.size_le_of_mem hw
    simp only [Value.size]
    omega
  | _ => simp [Value.items] at h

theorem Node.size_get_lt (n : Node) (f : Field) : (n.get f).size < n.size := by
  obtain ⟨k, l, vs⟩ := n
  simp only [Node.get, Node.size]
  split
  · next v hv =>
    have hm := List.mem_of_find?_eq_some hv
    have := Value.size_le_of_mem (List.of_mem_zip hm).2
    simp only [Node.values] at this
    omega
  · simp only [Value.size]
    omega

theorem Node.size_child?_lt {n c : Node} {f : Field} (h : n.child? f = some c) : c.size < n.size :=
  Nat.lt_of_le_of_lt (Value.size_node?_le h) (n.size_get_lt f)

theorem Node.size_items_lt {n c : Node} {f : Field} (h : c ∈ n.items f) : c.size < n.size :=
  Nat.lt_of_le_of_lt (Value.size_items_le h) (n.size_get_lt f)

end TypeLint.Tree
