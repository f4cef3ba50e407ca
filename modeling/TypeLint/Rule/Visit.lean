import TypeLint.Rule.BanTypes
import TypeLint.Tree.Handler

/-!
# Visits

The rule `ban-types` step by step: which fields of a node it reads, what it loops over, where it reports, and where it
fails.  `Mention` and `findings` say what comes of it on trees whose list fields hold lists.

* `Value.get`, `Value.loop?` — a field of a value, and the items of a value in a loop;
* `Failure`, `Visit` — why a visit fails, and the steps of a visit;
* `check` — a report if the name of a type is banned;
* `visitType`, `visitSignature`, `visitEach` — the types inside a type, in a signature, in a list;
* `visit`, `handlers` — the types that a node mentions, and at which nodes of a tree to look.
-/

namespace TypeLint.Tree

namespace Value

/-- A field of a value; `null` if the value is no node, or a node without such a field. -/
def get (v : Value) (f : Field) : Value :=
  match v with
  | .node n => n.get f
  | _ => .null

/-- What a loop looks at in an item: the item itself, or one of its fields. -/
def pick (v : Value) : Option Field → Value
  | some f => v.get f
  | none => v

/-- The items of a value in a loop.  A missing value has none, and neither has any other value that counts as false; a
text has its characters.  There is no loop over other values. -/
def loop? : Value → Option (List Value)
  | .null => some []
  | .bool b => if b then none else some []
  | .int n => if n = 0 then some [] else none
  | .float x => if x.isZero then some [] else none
  | .text t => some (t.map fun c => .text [c])
  | .node _ => none
  | .list items => some items

/-! ## sizes -/

theorem size_get_le (v : Value) (f : Field) : (v.get f).size ≤ v.size := by
  cases v with
  | node n => exact Nat.le_of_lt (n.size_get_lt f)
  | _ => exact Nat.zero_le _

theorem size_pick_le (v : Value) (f : Option Field) : (v.pick f).size ≤ v.size := by
  cases f with
  | none => exact Nat.le_refl _
  | some f => exact v.size_get_le f

theorem size_loop?_le {v w : Value} {items : List Value} (h : v.loop? = some items) (hw : w ∈ items) :
    w.size ≤ v.size := by
  cases v with
  | list vs =>
    obtain rfl := Option.some.inj h
    exact size_le_of_mem hw
  | text t =>
    obtain rfl := Option.some.inj h
    obtain ⟨c, -, rfl⟩ := List.mem_map.1 hw
    exact Nat.le_refl _
  | node n => simp [loop?] at h
  | _ =>
    simp only [loop?, Option.ite_none_left_eq_some, Option.ite_none_right_eq_some, Option.some.injEq] at h
    simp_all

end Value

end TypeLint.Tree

namespace TypeLint.Rule.BanTypes

open Report TypeLint.Tree

/-- Why a visit fails. -/
inductive Failure where
  /-- a node of a kind that is not looked at -/
  | unhandled (kind : NodeKind)
  /-- a loop over something that has no items -/
  | noLoop (v : Value)
  | report (e : ReportError)

/-- The steps of a visit. -/
abbrev Visit := Reporting Failure

/-- The report of a finding. -/
def Finding.call (f : Finding) : Call := ⟨f.mention.node.loc, bannedType, f.data, f.notes⟩

/-- A report if the name of a type is banned. -/
def check (bans : List Ban) (m : Mention) : Visit Unit :=
  match finding? bans m with
  | some f => ExceptT.adapt .report f.call.report
  | none => pure ()

mutual

/-- A type with the types inside it.  A function type has no name; only what its signature mentions is looked at. -/
def visitType (bans : List Ban) (p : Position) (v : Value) : Visit Unit :=
  match v with
  | .node n =>
    match n.kind with
    | .functionType => visitSignature bans n
    | .typeReference | .qualifiedTypeReference => do
      check bans ⟨p, n⟩
      visitEach bans .typeArgument none (n.get .typeArgs)
    | _ => check bans ⟨p, n⟩
  | _ => pure ()
termination_by (v.size, 1)
decreasing_by
  · exact Prod.Lex.right _ (by decide)
  · exact Prod.Lex.left _ _ (n.size_get_lt _)

/-- The types of a signature. -/
def visitSignature (bans : List Ban) (n : Node) : Visit Unit := do
  visitEach bans .typeParameterDefault (some .default) (n.get .typeParams)
  visitEach bans .declared (some .declaredType) (n.get .params)
  visitType bans .declared (n.get .returnType)
termination_by (n.size, 0)
decreasing_by all_goals exact Prod.Lex.left _ _ (n.size_get_lt _)

/-- The types in a list, which are its items or stand in a field of each. -/
def visitEach (bans : List Ban) (p : Position) (f : Option Field) (v : Value) : Visit Unit :=
  match _h : v.loop? with
  | some items => forM items.attach fun ⟨w, _⟩ => visitType bans p (w.pick f)
  | none => throw (.noLoop v)
termination_by (v.size, 2)
decreasing_by
  have hw : w.size ≤ v.size := Value.size_loop?_le (by assumption) (by assumption)
  rcases Nat.lt_or_eq_of_le (Nat.le_trans (w.size_pick_le f) hw) with hlt | heq
  · exact Prod.Lex.left _ _ hlt
  · rw [heq]
    exact Prod.Lex.right _ (by decide)

end

/-- The types that a node mentions; a failure if nodes of its kind are not looked at. -/
def visit (bans : List Ban) (n : Node) : Visit Unit :=
  match n.kind with
  | .variableDeclarator | .propertyDefinition => visitType bans .declared (n.get .declaredType)
  | .functionDeclaration | .functionExpression | .arrowFunctionExpression => visitSignature bans n
  | .classDeclaration | .classExpression => do
    visitEach bans .typeParameterDefault (some .default) (n.get .typeParams)
    visitEach bans .typeArgument none ((n.get .heritage).get .typeArgs)
  | .expressionStatement => visitEach bans .typeArgument none ((n.get .expression).get .typeArgs)
  | kind => throw (.unhandled kind)

/-- Nodes of the kinds that are looked at are visited. -/
def handlers (bans : List Ban) : Handlers Visit := .forKinds (handledKinds bans) (visit bans)

end TypeLint.Rule.BanTypes
