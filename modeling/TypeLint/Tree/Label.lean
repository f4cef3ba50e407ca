import TypeLint.Tree.Node

/-!
# Labels of kinds and fields

The names of kinds and fields in messages and in written trees.
-/

namespace TypeLint.Tree

/-- The kinds of nodes, each once. -/
def NodeKind.all : List NodeKind := [
  .program, .block, .variableDeclaration, .variableDeclarator, .functionDeclaration, .functionExpression,
  .arrowFunctionExpression, .param, .classDeclaration, .classExpression, .classHeritage,
  .methodDefinition, .propertyDefinition, .returnStatement, .expressionStatement, .identifier, .literal,
  .memberExpression, .callExpression, .newExpression, .assignmentExpression, .binaryExpression,
  .typeReference, .qualifiedTypeReference, .arrayType, .unionType, .functionType, .literalType,
  .typeParameter]

/-- The name of a kind. -/
def NodeKind.label : NodeKind → String
  | .program => "Program"
  | .block => "Block"
  | .variableDeclaration => "VariableDeclaration"
  | .variableDeclarator => "VariableDeclarator"
  | .functionDeclaration => "FunctionDeclaration"
  | .functionExpression => "FunctionExpression"
  | .arrowFunctionExpression => "ArrowFunctionExpression"
  | .param => "Param"
  | .classDeclaration => "ClassDeclaration"
  | .classExpression => "ClassExpression"
  | .classHeritage => "ClassHeritage"
  | .methodDefinition => "MethodDefinition"
  | .propertyDefinition => "PropertyDefinition"
  | .returnStatement => "ReturnStatement"
  | .expressionStatement => "ExpressionStatement"
  | .identifier => "Identifier"
  | .literal => "Literal"
  | .memberExpression => "MemberExpression"
  | .callExpression => "CallExpression"
  | .newExpression => "NewExpression"
  | .assignmentExpression => "AssignmentExpression"
  | .binaryExpression => "BinaryExpression"
  | .typeReference => "TypeReference"
  | .qualifiedTypeReference => "QualifiedTypeReference"
  | .arrayType => "ArrayType"
  | .unionType => "UnionType"
  | .functionType => "FunctionType"
  | .literalType => "LiteralType"
  | .typeParameter => "TypeParameter"

/-- The kind of that name. -/
def NodeKind.ofLabel? (name : Text) : Option NodeKind := NodeKind.all.find? fun k => text k.label = name

/-- The name of a field. -/
def Field.label : Field → String
  | .body => "body"
  | .binder => "binder"
  | .declarations => "declarations"
  | .name => "name"
  | .declaredType => "type_annotation"
  | .init => "init"
  | .typeParams => "type_params"
  | .params => "params"
  | .returnType => "return_type"
  | .optional => "optional"
  | .default => "default"
  | .heritage => "heritage"
  | .typeArgs => "type_args"
  | .value => "value"
  | .argument => "argument"
  | .expression => "expression"
  | .raw => "raw"
  | .object => "object"
  | .property => "property"
  | .callee => "callee"
  | .arguments => "arguments"
  | .target => "target"
  | .op => "op"
  | .left => "left"
  | .right => "right"
  | .path => "path"
  | .element => "element"
  | .types => "types"
  | .constraint => "constraint"

end TypeLint.Tree
