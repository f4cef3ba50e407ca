import TypeLint.Tree.Node

/-!
# Mentions of types

The places of a tree where types are named.  A declaration, a signature, a class or a call mentions some types
directly (`Node.entryTypes?`), and a type mentions the types inside it (`Node.innerTypes`): the arguments of a
reference, and the parameters and result of a function type.  `Mention.all` lists a mention with all that it
leads to, each type before the types inside it.
-/

namespace TypeLint.Rule

open TypeLint.Tree

/-- In what place a type is named. -/
inductive Position where
  | declared
  | typeArgument
  | typeParameterDefault
deriving DecidableEq

/-- The words for a place. -/
def Position.describe : Position → Text
  | .declared => text "annotation"
  | .typeArgument => text "type argument"
  | .typeParameterDefault => text "type parameter default"

/-- A type in its place. -/
structure Mention where
  position : Position
  node : Node

end TypeLint.Rule

namespace TypeLint.Tree

open Rule

namespace Node

/-- The types in a field, which is a node. -/
def typeIn (n : Node) (f : Field) (p : Position) : List Mention := (n.child? f).toList.map (⟨p, ·⟩)

/-- The types that are arguments. -/
def argumentTypes (n : Node) : List Mention := (n.items .typeArgs).map (⟨.typeArgument, ·⟩)

/-- The defaults of type parameters. -/
def parameterDefaults (n : Node) : List Mention :=
  (n.items .typeParams).flatMap fun p => p.typeIn .default .typeParameterDefault

/-- The types of a signature: the defaults of type parameters, the types of parameters, the result. -/
def signatureTypes (n : Node) : List Mention :=
  n.parameterDefaults ++ ((n.items .params).flatMap fun p => p.typeIn .declaredType .declared)
    ++ n.typeIn .returnType .declared

/-- The types that a node mentions directly; none if nodes of its kind are not looked at. -/
def entryTypes? (n : Node) : Option (List Mention) :=
  match n.kind with
  | .variableDeclarator | .propertyDefinition => some (n.typeIn .declaredType .declared)
  | .functionDeclaration | .functionExpression | .arrowFunctionExpression => some n.signatureTypes
  | .classDeclaration | .classExpression =>
    some (n.parameterDefaults ++ ((n.child? .heritage).toList.flatMap argumentTypes))
  | .expressionStatement => some ((n.child? .expression).toList.flatMap argumentTypes)
  | _ => none

/-- The types that a type mentions inside it. -/
def innerTypes (n : Node) : List Mention :=
  match n.kind with
  | .functionType => n.signatureTypes
  | .typeReference | .qualifiedTypeReference => n.argumentTypes
  | _ => []

/-! ## sizes -/

theorem size_typeIn_lt {n : Node} {f : Field} {p : Position} {m : Mention} (h : m ∈ n.typeIn f p) :
    m.node.size < n.size := by
  obtain ⟨c, hc, rfl⟩ := List.mem_map.1 h
  exact size_child?_lt (Option.mem_toList.1 hc)

theorem size_argumentTypes_lt {n : Node} {m : Mention} (h : m ∈ n.argumentTypes) :
    m.node.size < n.size := by
  obtain ⟨c, hc, rfl⟩ := List.mem_map.1 h
  exact size_items_lt hc

theorem size_signatureTypes_lt {n : Node} {m : Mention} (h : m ∈ n.signatureTypes) :
    m.node.size < n.size := by
  simp only [signatureTypes, parameterDefaults, List.mem_append, List.mem_flatMap] at h
  rcases h with (⟨c, hc, hm⟩ | ⟨c, hc, hm⟩) | hm
  · exact Nat.lt_trans (size_typeIn_lt hm) (size_items_lt hc)
  · exact Nat.lt_trans (size_typeIn_lt hm) (size_items_lt hc)
  · exact size_typeIn_lt hm

/-- A type inside a type is smaller. -/
theorem size_innerTypes_lt {n : Node} {m : Mention} (h : m ∈ n.innerTypes) : m.node.size < n.size := by
  unfold innerTypes at h
  split at h
  · exact size_signatureTypes_lt h
  · exact size_argumentTypes_lt h
  · exact size_argumentTypes_lt h
  · simp at h

end Node

end TypeLint.Tree

namespace TypeLint.Rule

open TypeLint.Tree

/-- A mention, then what the types inside it lead to, from left to right. -/
def Mention.all (m : Mention) : List Mention :=
  m :: m.node.innerTypes.attach.flatMap fun ⟨inner, _⟩ => inner.all
termination_by m.node.size
decreasing_by exact Node.size_innerTypes_lt (by assumption)

end TypeLint.Rule
