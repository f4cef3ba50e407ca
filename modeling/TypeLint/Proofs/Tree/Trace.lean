import TypeLint.Proofs.Source.Spots
import TypeLint.Proofs.Tree.Shape

/-!
# Reading a tree off field by field

The fields of a node stand in the order of the source, so a tree can be read off from left to right: a node is met
before what its fields hold, and the texts in its fields are met between the nodes below it.

* `Event`, `Node.events` — what is met on the way through a tree;
* `Node.visits`, `Node.leaves` — the nodes and the words that are met;
* `Along` — events that follow spots of a source;
* `Program.along` — what is met in the tree of a program follows the spots of the program.
-/

namespace TypeLint.Tree

/-- What a tree keeps of a word of the source. -/
inductive Leaf where
  | text (t : Text)
  /-- of a literal that is a type, only its value is kept -/
  | value (v : Value)

/-- What is met on the way through a tree. -/
inductive Event where
  /-- a node; `inCallee` if it stands inside the class of a `new` expression -/
  | node (inCallee : Bool) (n : Node)
  | leaf (l : Leaf)

/-- The node that is met. -/
def Event.visit? : Event → Option (Bool × Node)
  | .node inCallee n => some (inCallee, n)
  | .leaf _ => none

/-- The word that is met. -/
def Event.leaf? : Event → Option Leaf
  | .node .. => none
  | .leaf l => some l

/-- The class of a `new` expression stands in this field. -/
def NodeKind.holdsClass (kind : NodeKind) (f : Field) : Bool := kind = .newExpression && f = .callee

/-- What a field keeps of a word, if its value is neither a node nor a list. -/
def Value.leafEvents (kind : NodeKind) (f : Field) (v : Value) : List Event :=
  match f with
  | .name | .raw | .property | .path => v.text?.toList.map fun t => .leaf (.text t)
  | .value => if kind = .literalType then [.leaf (.value v)] else []
  | _ => []

mutual

/-- What is met in a tree, the root first. -/
def Node.events (inCallee : Bool) : Node → List Event
  | .mk kind loc values => .node inCallee (.mk kind loc values) :: fieldEvents kind inCallee kind.fields values

/-- What is met in fields. -/
def fieldEvents (kind : NodeKind) (inCallee : Bool) : List Field → List Value → List Event
  | f :: fs, v :: vs => v.events kind f inCallee ++ fieldEvents kind inCallee fs vs
  | _, _ => []

/-- What is met in a field. -/
def Value.events (kind : NodeKind) (f : Field) (inCallee : Bool) : Value → List Event
  | .node n => n.events (inCallee || kind.holdsClass f)
  | .list vs => itemEvents kind f inCallee vs
  | v => v.leafEvents kind f

/-- What is met in the items of a list. -/
def itemEvents (kind : NodeKind) (f : Field) (inCallee : Bool) : List Value → List Event
  | [] => []
  | .node n :: vs => n.events (inCallee || kind.holdsClass f) ++ itemEvents kind f inCallee vs
  | .list _ :: vs => itemEvents kind f inCallee vs
  | v :: vs => v.leafEvents kind f ++ itemEvents kind f inCallee vs

end

/-- The nodes of a tree in the order in which they are met, each with the mark whether it stands inside the class of a
`new` expression. -/
def Node.visits (n : Node) : List (Bool × Node) := (n.events false).filterMap Event.visit?

/-- The words of a tree in the order in which they are met. -/
def Node.leaves (n : Node) : List Leaf := (n.events false).filterMap Event.leaf?

/-! ## the nodes that are met are those that are visited -/

theorem visits_leafEvents (kind : NodeKind) (f : Field) (v : Value) :
    (v.leafEvents kind f).filterMap Event.visit? = [] := by
  unfold Value.leafEvents
  split
  case h_5 => split <;> rfl
  case h_6 => rfl
  all_goals cases v.text? <;> rfl

theorem mem_items_cons {n : Node} (v : Value) {vs : List Value} (h : n ∈ vs.filterMap Value.node?) :
    n ∈ (v :: vs).filterMap Value.node? :=
  ((List.sublist_cons_self v vs).filterMap _).subset h

mutual

theorem Node.visits_events : ∀ (n : Node) (b : Bool), n.Conforms →
    ((n.events b).filterMap Event.visit?).map Prod.snd = n.preorder
  | .mk kind loc values, b, h => by
    have hbelow : ∀ c ∈ values.flatMap Value.nodes, c.Conforms := by
      intro c hc
      obtain ⟨e, he⟩ := (Node.enumerates_children (Nat.le_of_eq h.arity)).exists_key hc
      exact h.follow he
    rw [Node.preorder_eq, Node.events]
    have hfields := visits_fieldEvents kind b kind.fields values (Nat.le_of_eq h.arity) hbelow
    simpa [Event.visit?, Node.children, Node.values] using hfields

theorem visits_fieldEvents (kind : NodeKind) (b : Bool) : ∀ (fs : List Field) (vs : List Value),
    vs.length ≤ fs.length → (∀ c ∈ vs.flatMap Value.nodes, c.Conforms) →
    ((fieldEvents kind b fs vs).filterMap Event.visit?).map Prod.snd = (vs.flatMap Value.nodes).flatMap Node.preorder
  | fs, [], _, _ => by cases fs <;> rfl
  | [], v :: vs, hl, _ => by simp at hl
  | f :: fs, v :: vs, hl, h => by
    have hv := Value.visits_events kind f b v fun c hc => h c (by simp [hc])
    have hvs := visits_fieldEvents kind b fs vs (by simpa using hl) fun c hc => h c (List.mem_append_right _ hc)
    simp [fieldEvents, hv, hvs]

theorem Value.visits_events (kind : NodeKind) (f : Field) (b : Bool) : ∀ v : Value, (∀ c ∈ v.nodes, c.Conforms) →
    ((v.events kind f b).filterMap Event.visit?).map Prod.snd = v.nodes.flatMap Node.preorder
  | .node n, h => by
    have hn := Node.visits_events n (b || kind.holdsClass f) (h n (by simp [Value.nodes]))
    simp [Value.events, Value.nodes, hn]
  | .list vs, h => visits_itemEvents kind f b vs h
  | .null, _ | .bool _, _ | .int _, _ | .float _, _ | .text _, _ => by
    simp [Value.events, Value.nodes, visits_leafEvents]

theorem visits_itemEvents (kind : NodeKind) (f : Field) (b : Bool) : ∀ vs : List Value,
    (∀ c ∈ vs.filterMap Value.node?, c.Conforms) →
    ((itemEvents kind f b vs).filterMap Event.visit?).map Prod.snd = (vs.filterMap Value.node?).flatMap Node.preorder
  | [], _ => rfl
  | .node n :: vs, h => by
    have hn := Node.visits_events n (b || kind.holdsClass f) (h n (by simp [Value.node?]))
    have hvs := visits_itemEvents kind f b vs fun c hc => h c (mem_items_cons _ hc)
    simp [itemEvents, Value.node?, hn, hvs]
  | .list us :: vs, h => by
    have hvs := visits_itemEvents kind f b vs fun c hc => h c (mem_items_cons _ hc)
    simp [itemEvents, List.filterMap_cons, Value.node?, hvs]
  | .null :: vs, h | .bool _ :: vs, h | .int _ :: vs, h | .float _ :: vs, h | .text _ :: vs, h => by
    have hvs := visits_itemEvents kind f b vs fun c hc => h c (mem_items_cons _ hc)
    simp [itemEvents, List.filterMap_cons, Value.node?, visits_leafEvents, hvs]

end

/-- The nodes that are met on the way through a tree are those that are visited. -/
theorem Node.Conforms.visits_eq_walk {n : Node} (h : n.Conforms) : n.visits.map Prod.snd = n.walk := by
  rw [Node.visits, Node.walk_eq, Node.visits_events n false h]

end TypeLint.Tree

namespace TypeLint.Source

open TypeLint.Tree

/-! ## events along spots -/

/-- The token of a literal. -/
def Literal.token (lit : Literal) : Token := ⟨lit.kind.terminal, lit.text, lit.pos⟩

/-- The tree keeps this of a token. -/
def Keeps (l : Leaf) (t : Token) : Prop :=
  match l with
  | .text s => t.text = s
  | .value v => ∃ lit : Literal, t = lit.token ∧ lit.value = .ok v

/-- The kinds of nodes that are located at a word of their own. -/
def isNamed : NodeKind → Bool
  | .variableDeclarator | .param | .typeParameter | .classHeritage | .methodDefinition | .propertyDefinition
  | .identifier | .literal | .typeReference | .qualifiedTypeReference | .literalType => true
  | _ => false

/-- An operation is located behind its first operand, and so are the parts of the class of a `new` expression; all
other nodes are visited in the order of their places. -/
def inOrder (visit : Bool × Node) : Bool :=
  visit.2.kind ≠ .binaryExpression && !(visit.1 && visit.2.kind = .memberExpression)

/-- Events that follow spots: each word is met once, where it stands, and a node where its first spot is. -/
inductive Along : List Event → List Spot → Prop
  | nil : Along [] []
  /-- the place of a token that is no word may be passed -/
  | sign {es : List Event} {ss : List Spot} {pos : Pos} : Along es ss → Along es (.sign pos :: ss)
  | leaf {es : List Event} {ss : List Spot} {l : Leaf} {kind : Terminal} {text : Text} {pos : Pos}
      (kept : Keeps l ⟨kind, text, pos⟩) : Along es ss → Along (.leaf l :: es) (.word kind text pos :: ss)
  /-- a node with a word of its own -/
  | named {es : List Event} {ss : List Spot} {b : Bool} {n : Node} {l : Leaf} {kind : Terminal} {text : Text} {pos : Pos}
      (isNamed : isNamed n.kind = true) (place : n.loc = some pos.toLoc) (kept : Keeps l ⟨kind, text, pos⟩) :
      Along es ss → Along (.node b n :: .leaf l :: es) (.word kind text pos :: ss)
  /-- a method, whose function is located at the name of the method -/
  | method {es : List Event} {ss : List Spot} {b b' : Bool} {n f : Node} {l : Leaf} {kind : Terminal} {text : Text}
      {pos : Pos} (isNamed : isNamed n.kind = true) (place : n.loc = some pos.toLoc)
      (kept : Keeps l ⟨kind, text, pos⟩) (isFunction : f.kind = .functionExpression)
      (below : f.loc = some pos.toLoc) :
      Along es ss → Along (.node b n :: .leaf l :: .node b' f :: es) (.word kind text pos :: ss)
  /-- a node that starts where the next spot is -/
  | node {es : List Event} {ss : List Spot} {s : Spot} {b : Bool} {n : Node} (place : n.loc = some s.pos.toLoc)
      (unnamed : isNamed n.kind = false) : Along es (s :: ss) → Along (.node b n :: es) (s :: ss)
  | outside {es : List Event} {ss : List Spot} {b : Bool} {n : Node} (out : inOrder (b, n) = false) :
      Along es ss → Along (.node b n :: es) ss

theorem Along.append {es es' : List Event} {ss ss' : List Spot} (h : Along es ss) (h' : Along es' ss') :
    Along (es ++ es') (ss ++ ss') := by
  induction h with
  | nil => exact h'
  | sign _ ih => exact .sign ih
  | leaf kept _ ih => exact .leaf kept ih
  | named isNamed place kept _ ih => exact .named isNamed place kept ih
  | method isNamed place kept isFunction below _ ih => exact .method isNamed place kept isFunction below ih
  | node place unnamed _ ih => exact .node place unnamed ih
  | outside out _ ih => exact .outside out ih

theorem Along.text {es : List Event} {ss : List Spot} (id : Ident) (h : Along es ss) :
    Along (.leaf (.text id.text) :: es) (id.spot :: ss) :=
  .leaf rfl h

theorem along_texts (ids : List Ident) : Along (ids.map fun id => .leaf (.text id.text)) (ids.map Ident.spot) := by
  induction ids with
  | nil => exact .nil
  | cons id ids ih => exact .text id ih

section Nodes

variable {k : NodeKind} {pos : Pos} {vs : List Value} {spots : List Spot}

/-- A node with a name of its own. -/
theorem along_named {fs : List Field} (hk : isNamed k = true) (hf : k.fields = .name :: fs) (id : Ident)
    (h : Along (fieldEvents k false fs vs) spots) :
    Along ((nodeAt k id.pos (.text id.text :: vs)).events false) (id.spot :: spots) := by
  rw [nodeAt, Node.events, hf]
  exact .named hk rfl rfl h

/-- A node that is located at a token of its own. -/
theorem along_signed (hk : isNamed k = false) (h : Along (fieldEvents k false k.fields vs) spots) :
    Along ((nodeAt k pos vs).events false) (.sign pos :: spots) :=
  .node rfl hk (.sign h)

/-- A node that is located where its first part starts. -/
theorem along_start (hk : isNamed k = false) (hs : spots.head?.map Spot.pos = some pos)
    (h : Along (fieldEvents k false k.fields vs) spots) : Along ((nodeAt k pos vs).events false) spots := by
  cases spots with
  | nil => simp at hs
  | cons s ss =>
    obtain rfl : s.pos = pos := Option.some.inj hs
    exact .node rfl hk h

end Nodes

/-! ## where phrases start -/

section Start

theorem head?_append {a b : List Spot} {pos : Pos} (h : a.head?.map Spot.pos = some pos) :
    (a ++ b).head?.map Spot.pos = some pos := by
  cases a with
  | nil => simp at h
  | cons s a => exact h

theorem TypeExpr.head?_spots : ∀ ty : TypeExpr, ty.spots.head?.map Spot.pos = some ty.start
  | .named .. | .literal _ | .function .. => by simp [TypeExpr.spots, TypeExpr.start, Ident.spot, Literal.spot, Spot.pos]
  | .array element => by
    rw [TypeExpr.spots, TypeExpr.start]
    exact element.head?_spots
  | .union first others => by
    rw [TypeExpr.spots, TypeExpr.start]
    exact head?_append first.head?_spots

theorem Expr.head?_spots : ∀ e : Expr, e.spots.head?.map Spot.pos = some e.start
  | .name _ | .literal _ | .new .. | .function .. | .arrow .. | .classExpr .. => by
    simp [Expr.spots, Expr.start, Ident.spot, Literal.spot, Spot.pos]
  | .member object _ => by
    rw [Expr.spots, Expr.start]
    exact head?_append object.head?_spots
  | .call callee _ _ => by
    rw [Expr.spots, Expr.start]
    exact head?_append callee.head?_spots
  | .assign target _ => by
    rw [Expr.spots, Expr.start]
    exact head?_append target.head?_spots
  | .binary left _ _ => by
    rw [Expr.spots, Expr.start]
    exact head?_append left.head?_spots

end Start

/-! ## the tree of a program -/

section Values

variable (k : NodeKind) (f : Field) (b : Bool)

@[simp]
theorem events_null (hk : k ≠ .literalType) : Value.null.events k f b = [] := by
  show Value.null.leafEvents k f = []
  unfold Value.leafEvents
  split <;> simp [Value.text?, hk]

@[simp]
theorem events_nodeList (ns : List Node) :
    (nodeList ns).events k f b = ns.flatMap (Node.events (b || k.holdsClass f)) := by
  rw [nodeList, Value.events]
  induction ns with
  | nil => rfl
  | cons n ns ih => simp [itemEvents, ih]

@[simp]
theorem events_writtenList (hk : k ≠ .literalType) (ns : List Node) :
    (writtenList ns).events k f b = ns.flatMap (Node.events (b || k.holdsClass f)) := by
  unfold writtenList
  split
  · next hns =>
    rw [List.isEmpty_iff.1 hns, events_null k f b hk]
    rfl
  · exact events_nodeList k f b ns

@[simp]
theorem events_optionalNode (hk : k ≠ .literalType) (n : Option Node) :
    (optionalNode n).events k f b = n.toList.flatMap (Node.events (b || k.holdsClass f)) := by
  cases n with
  | none => exact events_null k f b hk
  | some n => simp [optionalNode, Value.events]

theorem events_texts (ts : List Text) :
    (Value.list (ts.map .text)).events k .path b = ts.map fun t => .leaf (.text t) := by
  rw [Value.events]
  induction ts with
  | nil => rfl
  | cons t ts ih => simp [itemEvents, Value.leafEvents, Value.text?, ih]

end Values

section Along

attribute [local simp] fieldEvents NodeKind.fields NodeKind.holdsClass Value.events Value.leafEvents Value.text?
  TypeExpr.spots typeSpots typeSpots? TypeParam.spots Param.spots Signature.spots Expr.spots exprSpots exprSpots?
  Block.spots Stmt.spots Declarator.spots ClassShape.spots Heritage.spots Member.spots

theorem events_numberValue {t : Text} {v : Value} (h : numberValue t = .ok v) (k : NodeKind) (f : Field) (b : Bool) :
    v.events k f b = v.leafEvents k f := by
  unfold numberValue at h
  split at h
  · obtain rfl := Except.ok.inj h
    rfl
  · split at h
    · simp at h
    · obtain rfl := Except.ok.inj h
      rfl

theorem Literal.events_value {lit : Literal} {v : Value} (h : lit.value = .ok v) (k : NodeKind) (f : Field)
    (b : Bool) : v.events k f b = v.leafEvents k f := by
  unfold Literal.value at h
  split at h
  · exact events_numberValue h k f b
  · split at h
    · obtain rfl := Except.ok.inj h
      rfl
    · simp at h

theorem along_ident (id : Ident) : Along (id.toNode.events false) [id.spot] := by
  unfold Ident.toNode
  split
  · next v hv =>
    have hvalue : v.events .literal .value false = [] := by
      unfold wordValue? at hv
      split_ifs at hv <;> obtain rfl := Option.some.inj hv <;> rfl
    rw [nodeAt, Node.events]
    simp only [NodeKind.fields, fieldEvents, hvalue]
    exact .named rfl rfl rfl .nil
  · refine along_named rfl rfl id ?_
    exact .nil

theorem Literal.along {lit : Literal} {v : Value} (h : lit.value = .ok v) :
    Along ((nodeAt .literal lit.pos [v, .text lit.text]).events false) [lit.spot] := by
  have hvalue : v.events .literal .value false = [] := Literal.events_value h ..
  rw [nodeAt, Node.events]
  simp only [NodeKind.fields, fieldEvents, hvalue]
  exact .named rfl rfl rfl .nil

theorem Literal.along_type {lit : Literal} {v : Value} (h : lit.value = .ok v) :
    Along ((nodeAt .literalType lit.pos [v]).events false) [lit.spot] := by
  have hvalue : v.events .literalType .value false = [.leaf (.value v)] := Literal.events_value h ..
  rw [nodeAt, Node.events]
  simp only [NodeKind.fields, fieldEvents, hvalue]
  exact .named rfl rfl ⟨lit, rfl, h⟩ .nil

/-- The parts of the class of a `new` expression are met from the last one to the first, and their names from the first
one on. -/
theorem along_calleeNode (head : Ident) (path : List Ident) :
    Along ((calleeNode head path).events true) (head.spot :: path.map Ident.spot) := by
  have hhead : ∀ es ss, Along es ss →
      Along ((nodeAt .identifier head.pos [.text head.text]).events true ++ es) (head.spot :: ss) :=
    fun es ss h => .named rfl rfl rfl h
  suffices h : ∀ (object : Node) (spots : List Spot),
      (∀ es ss, Along es ss → Along (object.events true ++ es) (spots ++ ss)) → ∀ es ss, Along es ss →
      Along ((path.foldl (fun object id => nodeAt .memberExpression id.pos [.node object, .text id.text]) object).events
        true ++ es) (spots ++ (path.map Ident.spot ++ ss)) by
    simpa [calleeNode] using h _ [head.spot] hhead [] [] .nil
  induction path with
  | nil => exact fun object spots h => h
  | cons id path ih =>
    intro object spots h es ss hs
    have := ih (nodeAt .memberExpression id.pos [.node object, .text id.text]) (spots ++ [id.spot]) ?_ es ss hs
    · simpa using this
    · intro es ss hs
      have hobject := h (.leaf (.text id.text) :: es) (id.spot :: ss) (.text id hs)
      have hmember : Along (.node true (nodeAt .memberExpression id.pos [.node object, .text id.text]) ::
          (object.events true ++ .leaf (.text id.text) :: es)) (spots ++ id.spot :: ss) := .outside rfl hobject
      simpa [nodeAt, Node.events] using hmember

mutual

theorem TypeExpr.along {n : Node} : ∀ ty : TypeExpr, ty.toNode = .ok n → Along (n.events false) ty.spots
  | .named head path args, h => by
    simp only [TypeExpr.toNode, bind_eq_ok] at h
    obtain ⟨ns, hns, h⟩ := h
    have hargs := along_typeNodes args hns
    cases path with
    | nil =>
      obtain rfl := Except.ok.inj h
      refine along_named rfl rfl head ?_
      simpa using hargs
    | cons id path =>
      obtain rfl := Except.ok.inj h
      have htexts := events_texts .qualifiedTypeReference false ((head :: id :: path).map Ident.text)
      rw [nodeAt, Node.events]
      simp only [NodeKind.fields, fieldEvents, htexts]
      refine .named rfl rfl rfl ?_
      simpa [Function.comp_def] using (along_texts (id :: path)).append hargs
  | .literal lit, h => by
    simp only [TypeExpr.toNode, bind_eq_ok, pure_eq_ok] at h
    obtain ⟨v, hv, rfl⟩ := h
    exact Literal.along_type hv
  | .array element, h => by
    simp only [TypeExpr.toNode, bind_eq_ok, pure_eq_ok] at h
    obtain ⟨m, hm, rfl⟩ := h
    refine along_start rfl (TypeExpr.array element).head?_spots ?_
    simpa using element.along hm
  | .union first others, h => by
    simp only [TypeExpr.toNode, bind_eq_ok, pure_eq_ok] at h
    obtain ⟨m, hm, ms, hms, rfl⟩ := h
    refine along_start rfl (TypeExpr.union first others).head?_spots ?_
    simpa using (first.along hm).append (along_typeNodes others hms)
  | .function pos typeParams params result, h => by
    simp only [TypeExpr.toNode, bind_eq_ok, pure_eq_ok] at h
    obtain ⟨ps, hps, qs, hqs, m, hm, rfl⟩ := h
    refine along_signed rfl ?_
    simpa using (along_typeParamNodes typeParams hps).append ((along_paramNodes params hqs).append (result.along hm))

theorem along_typeNodes {ns : List Node} : ∀ tys : List TypeExpr, typeNodes tys = .ok ns →
    Along (ns.flatMap (Node.events false)) (typeSpots tys)
  | [], h => by
    obtain rfl := Except.ok.inj h
    exact .nil
  | ty :: tys, h => by
    simp only [typeNodes, bind_eq_ok, pure_eq_ok] at h
    obtain ⟨k, hk, ks, hks, rfl⟩ := h
    exact (ty.along hk).append (along_typeNodes tys hks)

theorem along_optionalTypeNode {n : Option Node} : ∀ ty : Option TypeExpr, optionalTypeNode ty = .ok n →
    Along (n.toList.flatMap (Node.events false)) (typeSpots? ty)
  | none, h => by
    obtain rfl := Except.ok.inj h
    exact .nil
  | some ty, h => by
    simp only [optionalTypeNode, bind_eq_ok, pure_eq_ok] at h
    obtain ⟨m, hm, rfl⟩ := h
    simpa using ty.along hm

theorem TypeParam.along {n : Node} : ∀ p : TypeParam, p.toNode = .ok n → Along (n.events false) p.spots
  | .mk name bound default, h => by
    simp only [TypeParam.toNode, bind_eq_ok, pure_eq_ok] at h
    obtain ⟨m, hm, d, hd, rfl⟩ := h
    refine along_named rfl rfl name ?_
    simpa using (along_optionalTypeNode bound hm).append (along_optionalTypeNode default hd)

theorem along_typeParamNodes {ns : List Node} : ∀ ps : List TypeParam, typeParamNodes ps = .ok ns →
    Along (ns.flatMap (Node.events false)) (typeParamSpots ps)
  | [], h => by
    obtain rfl := Except.ok.inj h
    exact .nil
  | p :: ps, h => by
    simp only [typeParamNodes, bind_eq_ok, pure_eq_ok] at h
    obtain ⟨k, hk, ks, hks, rfl⟩ := h
    exact (p.along hk).append (along_typeParamNodes ps hks)

theorem Param.along {n : Node} : ∀ p : Param, p.toNode = .ok n → Along (n.events false) p.spots
  | .mk name optional declared default, h => by
    simp only [Param.toNode, bind_eq_ok, pure_eq_ok] at h
    obtain ⟨m, hm, d, hd, rfl⟩ := h
    refine along_named rfl rfl name ?_
    simpa using (along_optionalTypeNode declared hm).append (along_optionalExprNode default hd)

theorem along_paramNodes {ns : List Node} : ∀ ps : List Param, paramNodes ps = .ok ns →
    Along (ns.flatMap (Node.events false)) (paramSpots ps)
  | [], h => by
    obtain rfl := Except.ok.inj h
    exact .nil
  | p :: ps, h => by
    simp only [paramNodes, bind_eq_ok, pure_eq_ok] at h
    obtain ⟨k, hk, ks, hks, rfl⟩ := h
    exact (p.along hk).append (along_paramNodes ps hks)

/-- The fields of a signature and of a body behind it. -/
theorem Signature.along {k : NodeKind} (hk : k ≠ .literalType ∧ k ≠ .newExpression) {s : SignatureNodes} {body : Node}
    {spots : List Spot} (hbody : Along (body.events false) spots) : ∀ sig : Signature, sig.nodes = .ok s →
    Along (fieldEvents k false [.typeParams, .params, .returnType, .body] (s.values ++ [.node body]))
      (sig.spots ++ spots)
  | .mk typeParams params result, h => by
    simp only [Signature.nodes, bind_eq_ok, pure_eq_ok] at h
    obtain ⟨ps, hps, qs, hqs, m, hm, rfl⟩ := h
    simpa [SignatureNodes.values, hk] using (along_typeParamNodes typeParams hps).append
      ((along_paramNodes params hqs).append ((along_optionalTypeNode result hm).append hbody))

theorem Expr.along {n : Node} : ∀ e : Expr, e.toNode = .ok n → Along (n.events false) e.spots
  | .name id, h => by
    obtain rfl := Except.ok.inj h
    exact along_ident id
  | .literal lit, h => by
    simp only [Expr.toNode, bind_eq_ok, pure_eq_ok] at h
    obtain ⟨v, hv, rfl⟩ := h
    exact Literal.along hv
  | .member object property, h => by
    simp only [Expr.toNode, bind_eq_ok, pure_eq_ok] at h
    obtain ⟨m, hm, rfl⟩ := h
    refine along_start rfl (Expr.member object property).head?_spots ?_
    simpa using (object.along hm).append (.text property .nil)
  | .call callee typeArgs args, h => by
    simp only [Expr.toNode, bind_eq_ok, pure_eq_ok] at h
    obtain ⟨m, hm, ts, hts, as, has, rfl⟩ := h
    refine along_start rfl (Expr.call callee typeArgs args).head?_spots ?_
    simpa using (callee.along hm).append ((along_typeNodes typeArgs hts).append (along_exprNodes args has))
  | .new pos head path typeArgs args, h => by
    simp only [Expr.toNode, bind_eq_ok, pure_eq_ok] at h
    obtain ⟨ts, hts, as, has, rfl⟩ := h
    refine along_signed rfl ?_
    simpa using (along_calleeNode head path).append
      ((along_typeNodes typeArgs hts).append (along_exprNodes args has))
  | .assign target value, h => by
    simp only [Expr.toNode, bind_eq_ok, pure_eq_ok] at h
    obtain ⟨m, hm, v, hv, rfl⟩ := h
    refine along_start rfl (Expr.assign target value).head?_spots ?_
    simpa using (target.along hm).append (value.along hv)
  | .binary left op right, h => by
    simp only [Expr.toNode, bind_eq_ok, pure_eq_ok] at h
    obtain ⟨m, hm, r, hr, rfl⟩ := h
    refine .outside rfl ?_
    simpa using (left.along hm).append (right.along hr)
  | .function pos sig body, h => by
    simp only [Expr.toNode, bind_eq_ok, pure_eq_ok] at h
    obtain ⟨s, hs, b, hb, rfl⟩ := h
    exact along_signed rfl (sig.along (by decide) (body.along hb) hs)
  | .arrow pos sig body, h => by
    simp only [Expr.toNode, bind_eq_ok, pure_eq_ok] at h
    obtain ⟨s, hs, b, hb, rfl⟩ := h
    exact along_signed rfl (sig.along (by decide) (body.along hb) hs)
  | .classExpr pos shape, h => by
    simp only [Expr.toNode, bind_eq_ok, pure_eq_ok] at h
    obtain ⟨c, hc, rfl⟩ := h
    exact along_signed rfl (shape.along (by decide) hc)

theorem along_exprNodes {ns : List Node} : ∀ es : List Expr, exprNodes es = .ok ns →
    Along (ns.flatMap (Node.events false)) (exprSpots es)
  | [], h => by
    obtain rfl := Except.ok.inj h
    exact .nil
  | e :: es, h => by
    simp only [exprNodes, bind_eq_ok, pure_eq_ok] at h
    obtain ⟨k, hk, ks, hks, rfl⟩ := h
    exact (e.along hk).append (along_exprNodes es hks)

theorem along_optionalExprNode {n : Option Node} : ∀ e : Option Expr, optionalExprNode e = .ok n →
    Along (n.toList.flatMap (Node.events false)) (exprSpots? e)
  | none, h => by
    obtain rfl := Except.ok.inj h
    exact .nil
  | some e, h => by
    simp only [optionalExprNode, bind_eq_ok, pure_eq_ok] at h
    obtain ⟨m, hm, rfl⟩ := h
    simpa using e.along hm

theorem ArrowBody.along {n : Node} : ∀ b : ArrowBody, b.toNode = .ok n → Along (n.events false) b.spots
  | .block b, h => b.along h
  | .expr e, h => e.along h

theorem Block.along {n : Node} : ∀ b : Block, b.toNode = .ok n → Along (n.events false) b.spots
  | .mk pos body, h => by
    simp only [Block.toNode, bind_eq_ok, pure_eq_ok] at h
    obtain ⟨ms, hms, rfl⟩ := h
    refine along_signed rfl ?_
    simpa using along_stmtNodes body hms

theorem Stmt.along {n : Node} : ∀ s : Stmt, s.toNode = .ok n → Along (n.events false) s.spots
  | .variables pos binder declarators, h => by
    simp only [Stmt.toNode, bind_eq_ok, pure_eq_ok] at h
    obtain ⟨ms, hms, rfl⟩ := h
    refine along_signed rfl ?_
    simpa using along_declaratorNodes declarators hms
  | .function pos name sig body, h => by
    simp only [Stmt.toNode, bind_eq_ok, pure_eq_ok] at h
    obtain ⟨s, hs, b, hb, rfl⟩ := h
    exact along_signed rfl (.text name (sig.along (by decide) (body.along hb) hs))
  | .classDecl pos name shape, h => by
    simp only [Stmt.toNode, bind_eq_ok, pure_eq_ok] at h
    obtain ⟨c, hc, rfl⟩ := h
    exact along_signed rfl (.text name (shape.along (by decide) hc))
  | .ret pos value, h => by
    simp only [Stmt.toNode, bind_eq_ok, pure_eq_ok] at h
    obtain ⟨m, hm, rfl⟩ := h
    refine along_signed rfl ?_
    simpa using along_optionalExprNode value hm
  | .expr e, h => by
    simp only [Stmt.toNode, bind_eq_ok, pure_eq_ok] at h
    obtain ⟨m, hm, rfl⟩ := h
    refine along_start rfl e.head?_spots ?_
    simpa using e.along hm

theorem along_stmtNodes {ns : List Node} : ∀ ss : List Stmt, stmtNodes ss = .ok ns →
    Along (ns.flatMap (Node.events false)) (stmtSpots ss)
  | [], h => by
    obtain rfl := Except.ok.inj h
    exact .nil
  | s :: ss, h => by
    simp only [stmtNodes, bind_eq_ok, pure_eq_ok] at h
    obtain ⟨k, hk, ks, hks, rfl⟩ := h
    exact (s.along hk).append (along_stmtNodes ss hks)

theorem Declarator.along {n : Node} : ∀ d : Declarator, d.toNode = .ok n → Along (n.events false) d.spots
  | .mk name declared init, h => by
    simp only [Declarator.toNode, bind_eq_ok, pure_eq_ok] at h
    obtain ⟨m, hm, i, hi, rfl⟩ := h
    refine along_named rfl rfl name ?_
    simpa using (along_optionalTypeNode declared hm).append (along_optionalExprNode init hi)

theorem along_declaratorNodes {ns : List Node} : ∀ ds : List Declarator, declaratorNodes ds = .ok ns →
    Along (ns.flatMap (Node.events false)) (declaratorSpots ds)
  | [], h => by
    obtain rfl := Except.ok.inj h
    exact .nil
  | d :: ds, h => by
    simp only [declaratorNodes, bind_eq_ok, pure_eq_ok] at h
    obtain ⟨k, hk, ks, hks, rfl⟩ := h
    exact (d.along hk).append (along_declaratorNodes ds hks)

/-- The fields of a class behind its name. -/
theorem ClassShape.along {k : NodeKind} (hk : k ≠ .literalType ∧ k ≠ .newExpression) {c : ClassNodes} :
    ∀ shape : ClassShape, shape.nodes = .ok c →
    Along (fieldEvents k false [.typeParams, .heritage, .body] c.values) shape.spots
  | .mk typeParams heritage members, h => by
    simp only [ClassShape.nodes, bind_eq_ok, pure_eq_ok] at h
    obtain ⟨b, hb, ms, hms, ps, hps, rfl⟩ := h
    simpa [ClassNodes.values, hk] using (along_typeParamNodes typeParams hps).append
      ((along_optionalHeritageNode heritage hb).append (along_memberNodes members hms))

theorem Heritage.along {n : Node} : ∀ b : Heritage, b.toNode = .ok n → Along (n.events false) b.spots
  | .mk name typeArgs, h => by
    simp only [Heritage.toNode, bind_eq_ok, pure_eq_ok] at h
    obtain ⟨ts, hts, rfl⟩ := h
    refine along_named rfl rfl name ?_
    simpa using along_typeNodes typeArgs hts

theorem along_optionalHeritageNode {n : Option Node} : ∀ b : Option Heritage, optionalHeritageNode b = .ok n →
    Along (n.toList.flatMap (Node.events false)) (heritageSpots? b)
  | none, h => by
    obtain rfl := Except.ok.inj h
    exact .nil
  | some b, h => by
    simp only [optionalHeritageNode, bind_eq_ok, pure_eq_ok] at h
    obtain ⟨m, hm, rfl⟩ := h
    simpa [heritageSpots?] using b.along hm

theorem Member.along {n : Node} : ∀ m : Member, m.toNode = .ok n → Along (n.events false) m.spots
  | .method name sig body, h => by
    simp only [Member.toNode, bind_eq_ok, pure_eq_ok] at h
    obtain ⟨s, hs, b, hb, rfl⟩ := h
    have hf := sig.along (k := .functionExpression) (by decide) (body.along hb) hs
    have hm (n : Node) (hn : n.kind = .methodDefinition) (hl : n.loc = some name.pos.toLoc) :
        Along (.node false n :: .leaf (.text name.text) ::
          (nodeAt .functionExpression name.pos (s.values ++ [.node b])).events false)
          (name.spot :: (sig.spots ++ body.spots)) :=
      .method (by rw [hn]; rfl) hl rfl rfl rfl hf
    simpa [nodeAt, Node.events] using hm (nodeAt .methodDefinition name.pos _) rfl rfl
  | .property name optional declared value, h => by
    simp only [Member.toNode, bind_eq_ok, pure_eq_ok] at h
    obtain ⟨m, hm, v, hv, rfl⟩ := h
    refine along_named rfl rfl name ?_
    simpa using (along_optionalTypeNode declared hm).append (along_optionalExprNode value hv)

theorem along_memberNodes {ns : List Node} : ∀ ms : List Member, memberNodes ms = .ok ns →
    Along (ns.flatMap (Node.events false)) (memberSpots ms)
  | [], h => by
    obtain rfl := Except.ok.inj h
    exact .nil
  | m :: ms, h => by
    simp only [memberNodes, bind_eq_ok, pure_eq_ok] at h
    obtain ⟨k, hk, ks, hks, rfl⟩ := h
    exact (m.along hk).append (along_memberNodes ms hks)

end

/-- The root of the tree of a program is at the start of the source, and what is met below it follows the spots of the
program. -/
theorem Program.along {p : Program} {root : Node} (h : p.toNode = .ok root) :
    root.kind = .program ∧ root.loc = some Pos.start.toLoc ∧
      ∃ es, root.events false = .node false root :: es ∧ Along es p.spots := by
  simp only [Program.toNode, bind_eq_ok, pure_eq_ok] at h
  obtain ⟨ms, hms, rfl⟩ := h
  refine ⟨rfl, rfl, _, rfl, ?_⟩
  simpa [Program.spots] using along_stmtNodes p.body hms

end Along

end TypeLint.Source
