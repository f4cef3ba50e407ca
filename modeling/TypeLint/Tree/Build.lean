import TypeLint.Source.Program
import TypeLint.Text.Digit
import TypeLint.Text.Quoted
import TypeLint.Tree.Node

/-!
# The tree of a program

`Program.toNode` is the tree of a program, with the values of its literals.  A literal may have no value, and
then the program has no tree; of several such literals the first one counts, where the type parameters of a
class come behind its members.

* a phrase is located at its first token, except that what is named by one token is located at its name, and
  an operation at its operator;
* `true`, `false` and `null` are names in a program and literals in its tree.
-/

namespace TypeLint.Source

open TypeLint.Tree

/-- Why a literal has no value. -/
inductive LiteralError where
  | string (cause : Text.QuoteError)
  /-- a whole number of more than `Text.maxDigits` digits -/
  | tooManyDigits
deriving DecidableEq

/-- The number that decimal digits of any script spell. -/
def decimalValue (ds : Text) : Nat := Text.ofDigits 10 (ds.filterMap CodePoint.digitValue?)

/-- The value of a number: a double if it has a point. -/
def numberValue (t : Text) : Except LiteralError Value :=
  match t.cut '.' with
  | (whole, some frac) => .ok (.float (.ofDecimal false (decimalValue (whole ++ frac)) (- frac.length)))
  | (whole, none) =>
    if whole.length > Text.maxDigits then .error .tooManyDigits else .ok (.int (decimalValue whole))

/-- The value of a literal. -/
def Literal.value (lit : Literal) : Except LiteralError Value :=
  match lit.kind with
  | .number => numberValue lit.text
  | .string =>
    match lit.text.unquoted with
    | .ok t => .ok (.text t)
    | .error e => .error (.string e)

/-- The location of a position. -/
def Pos.toLoc (p : Pos) : Loc := ⟨some p.line, some p.column⟩

/-- A node at a position. -/
def nodeAt (kind : NodeKind) (pos : Pos) (values : List Value) : Node := .mk kind (some pos.toLoc) values

/-- The nodes of a list, which is written only if it has items. -/
def writtenList (ns : List Node) : Value := if ns.isEmpty then .null else .list (ns.map .node)

/-- The nodes of a list. -/
def nodeList (ns : List Node) : Value := .list (ns.map .node)

/-- A node or nothing. -/
def optionalNode : Option Node → Value
  | some n => .node n
  | none => .null

/-- The words that are literals in the tree. -/
def wordValue? (word : Text) : Option Value :=
  if word = text "true" then some (.bool true)
  else if word = text "false" then some (.bool false)
  else if word = text "null" then some .null
  else none

/-- The tree of a name. -/
def Ident.toNode (id : Ident) : Node :=
  match wordValue? id.text with
  | some v => nodeAt .literal id.pos [v, .text id.text]
  | none => nodeAt .identifier id.pos [.text id.text]

/-- The tree of the class of a `new` expression, each part located at itself. -/
def calleeNode (head : Ident) (path : List Ident) : Node :=
  path.foldl (fun object id => nodeAt .memberExpression id.pos [.node object, .text id.text])
    (nodeAt .identifier head.pos [.text head.text])

/-- The values of the fields of a signature. -/
structure SignatureNodes where
  typeParams : List Node
  params : List Node
  result : Option Node

/-- The fields of a node with a signature, in order. -/
def SignatureNodes.values (s : SignatureNodes) : List Value :=
  [writtenList s.typeParams, nodeList s.params, optionalNode s.result]

/-- The trees of the parts of a class. -/
structure ClassNodes where
  typeParams : List Node
  heritage : Option Node
  members : List Node

/-- The fields of a class node, in order. -/
def ClassNodes.values (c : ClassNodes) : List Value :=
  [writtenList c.typeParams, optionalNode c.heritage, nodeList c.members]

mutual

/-- The tree of a type. -/
def TypeExpr.toNode (ty : TypeExpr) : Except LiteralError Node :=
  match ty with
  | .named head path args => do
    let args ← typeNodes args
    match path with
    | [] => return nodeAt .typeReference head.pos [.text head.text, nodeList args]
    | _ :: _ =>
      return nodeAt .qualifiedTypeReference head.pos
        [.list (((head :: path).map Ident.text).map .text), nodeList args]
  | .literal lit => do return nodeAt .literalType lit.pos [← lit.value]
  | .array element => do return nodeAt .arrayType element.start [.node (← element.toNode)]
  | .union first others => do
    let first' ← first.toNode
    return nodeAt .unionType first.start [nodeList (first' :: (← typeNodes others))]
  | .function pos typeParams params result => do
    let typeParams ← typeParamNodes typeParams
    let params ← paramNodes params
    return nodeAt .functionType pos [writtenList typeParams, nodeList params, .node (← result.toNode)]

/-- The trees of types. -/
def typeNodes : List TypeExpr → Except LiteralError (List Node)
  | [] => .ok []
  | ty :: tys => do
    let n ← ty.toNode
    return n :: (← typeNodes tys)

/-- The tree of a type that may be absent. -/
def optionalTypeNode : Option TypeExpr → Except LiteralError (Option Node)
  | none => .ok none
  | some ty => do return some (← ty.toNode)

/-- The tree of a type parameter. -/
def TypeParam.toNode : TypeParam → Except LiteralError Node
  | .mk name bound default => do
    let bound ← optionalTypeNode bound
    let default ← optionalTypeNode default
    return nodeAt .typeParameter name.pos [.text name.text, optionalNode bound, optionalNode default]

/-- The trees of type parameters. -/
def typeParamNodes : List TypeParam → Except LiteralError (List Node)
  | [] => .ok []
  | p :: ps => do
    let n ← p.toNode
    return n :: (← typeParamNodes ps)

/-- The tree of a parameter. -/
def Param.toNode : Param → Except LiteralError Node
  | .mk name optional declared default => do
    let declared ← optionalTypeNode declared
    let default ← optionalExprNode default
    return nodeAt .param name.pos
      [.text name.text, optionalNode declared, .bool optional, optionalNode default]

/-- The trees of parameters. -/
def paramNodes : List Param → Except LiteralError (List Node)
  | [] => .ok []
  | p :: ps => do
    let n ← p.toNode
    return n :: (← paramNodes ps)

/-- The trees of the parts of a signature. -/
def Signature.nodes : Signature → Except LiteralError SignatureNodes
  | .mk typeParams params result => do
    let typeParams ← typeParamNodes typeParams
    let params ← paramNodes params
    return ⟨typeParams, params, ← optionalTypeNode result⟩

/-- The tree of an expression. -/
def Expr.toNode (e : Expr) : Except LiteralError Node :=
  match e with
  | .name id => .ok id.toNode
  | .literal lit => do return nodeAt .literal lit.pos [← lit.value, .text lit.text]
  | .member object property => do
    return nodeAt .memberExpression object.start [.node (← object.toNode), .text property.text]
  | .call callee typeArgs args => do
    let callee' ← callee.toNode
    let typeArgs ← typeNodes typeArgs
    return nodeAt .callExpression callee.start
      [.node callee', writtenList typeArgs, nodeList (← exprNodes args)]
  | .new pos head path typeArgs args => do
    let typeArgs ← typeNodes typeArgs
    return nodeAt .newExpression pos
      [.node (calleeNode head path), writtenList typeArgs, nodeList (← exprNodes args)]
  | .assign target value => do
    let target' ← target.toNode
    return nodeAt .assignmentExpression target.start [.node target', .node (← value.toNode)]
  | .binary left op right => do
    let left ← left.toNode
    return nodeAt .binaryExpression op.pos [.text op.text, .node left, .node (← right.toNode)]
  | .function pos sig body => do
    let sig ← sig.nodes
    return nodeAt .functionExpression pos (sig.values ++ [.node (← body.toNode)])
  | .arrow pos sig body => do
    let sig ← sig.nodes
    return nodeAt .arrowFunctionExpression pos (sig.values ++ [.node (← body.toNode)])
  | .classExpr pos shape => do
    return nodeAt .classExpression pos (← shape.nodes).values

/-- The trees of expressions. -/
def exprNodes : List Expr → Except LiteralError (List Node)
  | [] => .ok []
  | e :: es => do
    let n ← e.toNode
    return n :: (← exprNodes es)

/-- The tree of an expression that may be absent. -/
def optionalExprNode : Option Expr → Except LiteralError (Option Node)
  | none => .ok none
  | some e => do return some (← e.toNode)

/-- The tree of the body of an arrow function. -/
def ArrowBody.toNode : ArrowBody → Except LiteralError Node
  | .block b => b.toNode
  | .expr e => e.toNode

/-- The tree of a block. -/
def Block.toNode : Block → Except LiteralError Node
  | .mk pos body => do return nodeAt .block pos [nodeList (← stmtNodes body)]

/-- The tree of a statement. -/
def Stmt.toNode (s : Stmt) : Except LiteralError Node :=
  match s with
  | .variables pos binder declarators => do
    return nodeAt .variableDeclaration pos [.text binder, nodeList (← declaratorNodes declarators)]
  | .function pos name sig body => do
    let sig ← sig.nodes
    return nodeAt .functionDeclaration pos (.text name.text :: sig.values ++ [.node (← body.toNode)])
  | .classDecl pos name shape => do
    return nodeAt .classDeclaration pos (.text name.text :: (← shape.nodes).values)
  | .ret pos value => do
    return nodeAt .returnStatement pos [optionalNode (← optionalExprNode value)]
  | .expr e => do return nodeAt .expressionStatement e.start [.node (← e.toNode)]

/-- The trees of statements. -/
def stmtNodes : List Stmt → Except LiteralError (List Node)
  | [] => .ok []
  | s :: ss => do
    let n ← s.toNode
    return n :: (← stmtNodes ss)

/-- The tree of a variable in a declaration. -/
def Declarator.toNode : Declarator → Except LiteralError Node
  | .mk name declared init => do
    let declared ← optionalTypeNode declared
    let init ← optionalExprNode init
    return nodeAt .variableDeclarator name.pos [.text name.text, optionalNode declared, optionalNode init]

/-- The trees of variables. -/
def declaratorNodes : List Declarator → Except LiteralError (List Node)
  | [] => .ok []
  | d :: ds => do
    let n ← d.toNode
    return n :: (← declaratorNodes ds)

/-- The trees of the parts of a class. -/
def ClassShape.nodes : ClassShape → Except LiteralError ClassNodes
  | .mk typeParams heritage members => do
    let heritage ← optionalHeritageNode heritage
    let members ← memberNodes members
    return ⟨← typeParamNodes typeParams, heritage, members⟩

/-- The tree of the base of a class. -/
def Heritage.toNode : Heritage → Except LiteralError Node
  | .mk name typeArgs => do
    return nodeAt .classHeritage name.pos [.text name.text, writtenList (← typeNodes typeArgs)]

/-- The tree of the base of a class that may have none. -/
def optionalHeritageNode : Option Heritage → Except LiteralError (Option Node)
  | none => .ok none
  | some h => do return some (← h.toNode)

/-- The tree of a member of a class.  The function of a method is located at its name. -/
def Member.toNode : Member → Except LiteralError Node
  | .method name sig body => do
    let sig ← sig.nodes
    let function := nodeAt .functionExpression name.pos (sig.values ++ [.node (← body.toNode)])
    return nodeAt .methodDefinition name.pos [.text name.text, .node function]
  | .property name optional declared value => do
    let declared ← optionalTypeNode declared
    let value ← optionalExprNode value
    return nodeAt .propertyDefinition name.pos
      [.text name.text, optionalNode declared, .bool optional, optionalNode value]

/-- The trees of members. -/
def memberNodes : List Member → Except LiteralError (List Node)
  | [] => .ok []
  | m :: ms => do
    let n ← m.toNode
    return n :: (← memberNodes ms)

end

/-- The tree of a program, located at the start of the source. -/
def Program.toNode (p : Program) : Except LiteralError Node := do
  return nodeAt .program .start [nodeList (← stmtNodes p.body)]

end TypeLint.Source
