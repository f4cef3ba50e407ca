import TypeLint.Proofs.Tree.Shape
import TypeLint.Rule.BanTypes

/-!
# Routes to types

A type is looked at if a route leads to it: an entry path from a node of an entry kind to a type that it mentions, and
then inner paths from types to the types inside them.

* `SignaturePath`, `ClassPath`, `EntryPath`, `InnerPath` — the paths from a node to the types that it mentions;
* `Route`, `Route.LeadsTo` — a route, and the type that it leads to;
* `mentions` — the types that are looked at;
* `enumerates_mentions` — they are the types to which routes lead, one for each route;
* `Route.eq_of_address_eq` — only one route leads to a place.
-/

namespace TypeLint.Rule

open TypeLint.Tree

/-! ## paths -/

/-- From a function or function type to the types of its signature. -/
inductive SignaturePath : Address → Prop
  | typeParamDefault (i : Nat) : SignaturePath [.item .typeParams i, .field .default]
  | param (i : Nat) : SignaturePath [.item .params i, .field .declaredType]
  | result : SignaturePath [.field .returnType]

/-- From a class to the types of its head. -/
inductive ClassPath : Address → Prop
  | typeParamDefault (i : Nat) : ClassPath [.item .typeParams i, .field .default]
  | heritage (i : Nat) : ClassPath [.field .heritage, .item .typeArgs i]

/-- From a node of an entry kind to the types that it mentions. -/
inductive EntryPath : NodeKind → Address → Prop
  | variableDeclarator : EntryPath .variableDeclarator [.field .declaredType]
  | propertyDefinition : EntryPath .propertyDefinition [.field .declaredType]
  | functionDeclaration {p : Address} (h : SignaturePath p) : EntryPath .functionDeclaration p
  | functionExpression {p : Address} (h : SignaturePath p) : EntryPath .functionExpression p
  | arrowFunctionExpression {p : Address} (h : SignaturePath p) : EntryPath .arrowFunctionExpression p
  | classDeclaration {p : Address} (h : ClassPath p) : EntryPath .classDeclaration p
  | classExpression {p : Address} (h : ClassPath p) : EntryPath .classExpression p
  | expressionStatement (i : Nat) : EntryPath .expressionStatement [.field .expression, .item .typeArgs i]

/-- From a type to the types that it mentions. -/
inductive InnerPath : NodeKind → Address → Prop
  | typeReference (i : Nat) : InnerPath .typeReference [.item .typeArgs i]
  | qualifiedTypeReference (i : Nat) : InnerPath .qualifiedTypeReference [.item .typeArgs i]
  | functionType {p : Address} (h : SignaturePath p) : InnerPath .functionType p

theorem SignaturePath.ne_nil {p : Address} (h : SignaturePath p) : p ≠ [] := by
  cases h <;> exact List.cons_ne_nil _ _

theorem ClassPath.ne_nil {p : Address} (h : ClassPath p) : p ≠ [] := by
  cases h <;> exact List.cons_ne_nil _ _

theorem EntryPath.ne_nil {k : NodeKind} {p : Address} (h : EntryPath k p) : p ≠ [] := by
  cases h with
  | functionDeclaration h | functionExpression h | arrowFunctionExpression h => exact h.ne_nil
  | classDeclaration h | classExpression h => exact h.ne_nil
  | _ => exact List.cons_ne_nil _ _

theorem InnerPath.ne_nil {k : NodeKind} {p : Address} (h : InnerPath k p) : p ≠ [] := by
  cases h with
  | functionType h => exact h.ne_nil
  | _ => exact List.cons_ne_nil _ _

/-- Inner paths, one behind the other, from a type to a type. -/
inductive InnerPaths : Node → List Address → Node → Prop
  | nil (n : Node) : InnerPaths n [] n
  | cons {n m t : Node} {p : Address} {ps : List Address} (path : InnerPath n.kind p) (target : n.at? p = some m)
      (rest : InnerPaths m ps t) : InnerPaths n (p :: ps) t

/-- A way from the root of a tree to a type. -/
structure Route where
  /-- the address of the node of an entry kind -/
  entry : Address
  /-- the entry path -/
  first : Address
  /-- the inner paths -/
  inner : List Address
deriving DecidableEq

/-- The address of the type that a route leads to. -/
def Route.address (r : Route) : Address := r.entry ++ r.first ++ r.inner.flatten

/-- A route in a tree leads to a type. -/
def Route.LeadsTo (r : Route) (root t : Node) : Prop :=
  ∃ e m, root.at? r.entry = some e ∧ EntryPath e.kind r.first ∧ e.at? r.first = some m ∧ InnerPaths m r.inner t

/-- In what place a type is named behind an edge. -/
def edgePosition : Edge → Position
  | .item .typeArgs _ => .typeArgument
  | .field .default => .typeParameterDefault
  | _ => .declared

/-- In what place a type is named at the end of a path: the last edge says it. -/
def placeBehind (start : Position) (p : Address) : Position := p.foldl (fun _ e => edgePosition e) start

theorem placeBehind_append (start : Position) (p q : Address) :
    placeBehind start (p ++ q) = placeBehind (placeBehind start p) q := List.foldl_append

theorem placeBehind_congr {p : Address} (hp : p ≠ []) (start start' : Position) :
    placeBehind start p = placeBehind start' p := by
  cases p with
  | nil => exact absurd rfl hp
  | cons e p => rfl

/-! ## the types that a node mentions -/

/-- The mentions behind paths of some kind. -/
def Mentions (n : Node) (P : Address → Prop) (p : Address) (m : Mention) : Prop :=
  P p ∧ n.at? p = some m.node ∧ m.position = placeBehind .declared p

section Mentions

variable (n : Node)

theorem enumerates_child? (f : Field) :
    Enumerates (n.child? f).toList fun e c => e = .field f ∧ n.follow e = some c := by
  have hc : n.child? f = n.follow (.field f) := rfl
  cases h : n.child? f with
  | none =>
    refine .nil ?_
    rintro e c ⟨rfl, he⟩
    rw [← hc, h] at he
    simp at he
  | some c =>
    refine .singleton (k := .field f) fun e c' => and_congr_right ?_
    rintro rfl
    rw [← hc, h]
    simp [eq_comm]

theorem enumerates_items (f : Field) :
    Enumerates (n.items f) fun e c => (∃ i, e = .item f i) ∧ n.follow e = some c := by
  refine (Value.enumerates_items (f := f) (v := n.get f)).congr fun e c => ?_
  constructor
  · rintro ⟨i, rfl, h⟩
    exact ⟨⟨i, rfl⟩, h⟩
  · rintro ⟨⟨i, rfl⟩, h⟩
    exact ⟨i, rfl, h⟩

variable {n} {E : Edge → Prop}

theorem Mentions.congr {ms : List Mention} {P P' : Address → Prop} (h : Enumerates ms (Mentions n P))
    (hP : ∀ p, P p ↔ P' p) : Enumerates ms (Mentions n P') :=
  h.congr fun p _ => and_congr_left' (hP p)

theorem Mentions.append {ms ms' : List Mention} {P P' : Address → Prop} (h : Enumerates ms (Mentions n P))
    (h' : Enumerates ms' (Mentions n P')) (hd : ∀ p, P p → ¬ P' p) :
    Enumerates (ms ++ ms') (Mentions n fun p => P p ∨ P' p) := by
  refine (h.append h' fun p m m' hm hm' => hd p hm.1 hm'.1).congr fun p m => ?_
  exact or_and_right.symm

/-- The nodes behind edges, as mentions. -/
theorem Mentions.ofEdges {cs : List Node} (h : Enumerates cs fun e c => E e ∧ n.follow e = some c) {pos : Position}
    (hpos : ∀ e, E e → edgePosition e = pos) :
    Enumerates (cs.map (⟨pos, ·⟩)) (Mentions n fun p => ∃ e, p = [e] ∧ E e) := by
  refine (h.map.rekey (f := fun e => [e]) fun _ _ => List.singleton_inj.1).congr fun p m => ?_
  constructor
  · rintro ⟨e, ⟨c, ⟨he, hc⟩, rfl⟩, rfl⟩
    exact ⟨⟨e, rfl, he⟩, by simp [Node.at?, hc], (hpos e he).symm⟩
  · rintro ⟨⟨e, rfl, he⟩, ha, hp⟩
    obtain ⟨c, hc, hm⟩ := Node.at?_cons_eq_some.1 ha
    refine ⟨e, ⟨c, ⟨he, hc⟩, ?_⟩, rfl⟩
    obtain rfl : c = m.node := Option.some.inj hm
    rw [← hpos e he]
    exact congrArg (Mention.mk · m.node) hp.symm

/-- What the nodes behind edges mention. -/
theorem Mentions.through {cs : List Node} (h : Enumerates cs fun e c => E e ∧ n.follow e = some c)
    {f : Node → List Mention} {P : Address → Prop} (hP : ∀ q, P q → q ≠ [])
    (hf : ∀ c, Enumerates (f c) (Mentions c P)) :
    Enumerates (cs.flatMap f) (Mentions n fun p => ∃ e q, p = e :: q ∧ E e ∧ P q) := by
  refine (h.flatMap List.cons (fun _ c _ => hf c) fun _ _ _ _ => List.cons.inj).congr fun p m => ?_
  constructor
  · rintro ⟨e, c, q, ⟨he, hc⟩, ⟨hq, ha, hp⟩, rfl⟩
    refine ⟨⟨e, q, rfl, he, hq⟩, ?_, hp.trans (placeBehind_congr (hP q hq) ..)⟩
    rw [Node.at?, hc, Option.bind_some, ha]
  · rintro ⟨⟨e, q, rfl, he, hq⟩, ha, hp⟩
    obtain ⟨c, hc, hm⟩ := Node.at?_cons_eq_some.1 ha
    exact ⟨e, c, q, ⟨he, hc⟩, ⟨hq, hm, hp.trans (placeBehind_congr (hP q hq) ..)⟩, rfl⟩

variable (n)

theorem enumerates_typeIn {f : Field} {pos : Position} (hpos : edgePosition (.field f) = pos) :
    Enumerates (n.typeIn f pos) (Mentions n fun p => p = [.field f]) := by
  refine Mentions.congr (Mentions.ofEdges (enumerates_child? n f) ?_) ?_
  · rintro e rfl
    exact hpos
  · simp

theorem enumerates_argumentTypes : Enumerates n.argumentTypes (Mentions n fun p => ∃ i, p = [.item .typeArgs i]) := by
  refine Mentions.congr (Mentions.ofEdges (enumerates_items n .typeArgs) ?_) ?_
  · rintro e ⟨i, rfl⟩
    rfl
  · intro p
    constructor
    · rintro ⟨e, rfl, i, rfl⟩
      exact ⟨i, rfl⟩
    · rintro ⟨i, rfl⟩
      exact ⟨_, rfl, i, rfl⟩

theorem enumerates_typesOfItems (f : Field) {g : Field} {pos : Position} (hpos : edgePosition (.field g) = pos) :
    Enumerates ((n.items f).flatMap fun c => c.typeIn g pos) (Mentions n fun p => ∃ i, p = [.item f i, .field g]) := by
  refine Mentions.congr (Mentions.through (enumerates_items n f) (by simp) fun c => enumerates_typeIn c hpos) ?_
  intro p
  constructor
  · rintro ⟨e, q, rfl, ⟨i, rfl⟩, rfl⟩
    exact ⟨i, rfl⟩
  · rintro ⟨i, rfl⟩
    exact ⟨_, _, rfl, ⟨i, rfl⟩, rfl⟩

theorem enumerates_argumentsOfChild (f : Field) :
    Enumerates ((n.child? f).toList.flatMap Node.argumentTypes)
      (Mentions n fun p => ∃ i, p = [.field f, .item .typeArgs i]) := by
  refine Mentions.congr (Mentions.through (enumerates_child? n f) (by simp) enumerates_argumentTypes) ?_
  intro p
  constructor
  · rintro ⟨e, q, rfl, rfl, i, rfl⟩
    exact ⟨i, rfl⟩
  · rintro ⟨i, rfl⟩
    exact ⟨_, _, rfl, rfl, i, rfl⟩

theorem enumerates_signatureTypes : Enumerates n.signatureTypes (Mentions n SignaturePath) := by
  have hdefaults := enumerates_typesOfItems n .typeParams (g := .default) rfl
  have hparams := enumerates_typesOfItems n .params (g := .declaredType) rfl
  have hresult := enumerates_typeIn n (f := .returnType) rfl
  refine Mentions.congr (Mentions.append (Mentions.append hdefaults hparams ?_) hresult ?_) ?_
  · rintro p ⟨i, rfl⟩ ⟨j, h⟩
    simp at h
  · rintro p (⟨i, rfl⟩ | ⟨i, rfl⟩) h <;> simp at h
  · intro p
    constructor
    · rintro ((⟨i, rfl⟩ | ⟨i, rfl⟩) | rfl)
      · exact .typeParamDefault i
      · exact .param i
      · exact .result
    · rintro (i | i | -)
      · exact .inl (.inl ⟨i, rfl⟩)
      · exact .inl (.inr ⟨i, rfl⟩)
      · exact .inr rfl

theorem enumerates_classTypes :
    Enumerates (n.parameterDefaults ++ (n.child? .heritage).toList.flatMap Node.argumentTypes)
      (Mentions n ClassPath) := by
  have hdefaults := enumerates_typesOfItems n .typeParams (g := .default) rfl
  refine Mentions.congr (Mentions.append hdefaults (enumerates_argumentsOfChild n .heritage) ?_) ?_
  · rintro p ⟨i, rfl⟩ ⟨j, h⟩
    simp at h
  · intro p
    constructor
    · rintro (⟨i, rfl⟩ | ⟨i, rfl⟩)
      · exact .typeParamDefault i
      · exact .heritage i
    · rintro (i | i)
      · exact .inl ⟨i, rfl⟩
      · exact .inr ⟨i, rfl⟩

/-- The types that a node mentions are those behind its entry paths. -/
theorem enumerates_entryTypes : Enumerates (n.entryTypes?.getD []) (Mentions n (EntryPath n.kind)) := by
  cases hk : n.kind <;> simp only [Node.entryTypes?, hk, Option.getD_some, Option.getD_none]
  case variableDeclarator =>
    refine Mentions.congr (enumerates_typeIn n rfl) fun p => ⟨?_, ?_⟩
    · rintro rfl
      exact .variableDeclarator
    · rintro ⟨⟩
      rfl
  case propertyDefinition =>
    refine Mentions.congr (enumerates_typeIn n rfl) fun p => ⟨?_, ?_⟩
    · rintro rfl
      exact .propertyDefinition
    · rintro ⟨⟩
      rfl
  case functionDeclaration =>
    refine Mentions.congr (enumerates_signatureTypes n) fun p => ⟨.functionDeclaration, ?_⟩
    rintro ⟨⟩
    assumption
  case functionExpression =>
    refine Mentions.congr (enumerates_signatureTypes n) fun p => ⟨.functionExpression, ?_⟩
    rintro ⟨⟩
    assumption
  case arrowFunctionExpression =>
    refine Mentions.congr (enumerates_signatureTypes n) fun p => ⟨.arrowFunctionExpression, ?_⟩
    rintro ⟨⟩
    assumption
  case classDeclaration =>
    refine Mentions.congr (enumerates_classTypes n) fun p => ⟨.classDeclaration, ?_⟩
    rintro ⟨⟩
    assumption
  case classExpression =>
    refine Mentions.congr (enumerates_classTypes n) fun p => ⟨.classExpression, ?_⟩
    rintro ⟨⟩
    assumption
  case expressionStatement =>
    refine Mentions.congr (enumerates_argumentsOfChild n .expression) fun p => ⟨?_, ?_⟩
    · rintro ⟨i, rfl⟩
      exact .expressionStatement i
    · rintro ⟨⟩
      exact ⟨_, rfl⟩
  all_goals
    refine .nil ?_
    rintro p m ⟨⟨⟩, -⟩

/-- The types that a type mentions are those behind its inner paths. -/
theorem enumerates_innerTypes : Enumerates n.innerTypes (Mentions n (InnerPath n.kind)) := by
  cases hk : n.kind <;> simp only [Node.innerTypes, hk]
  case typeReference =>
    refine Mentions.congr (enumerates_argumentTypes n) fun p => ⟨?_, ?_⟩
    · rintro ⟨i, rfl⟩
      exact .typeReference i
    · rintro ⟨⟩
      exact ⟨_, rfl⟩
  case qualifiedTypeReference =>
    refine Mentions.congr (enumerates_argumentTypes n) fun p => ⟨?_, ?_⟩
    · rintro ⟨i, rfl⟩
      exact .qualifiedTypeReference i
    · rintro ⟨⟩
      exact ⟨_, rfl⟩
  case functionType =>
    refine Mentions.congr (enumerates_signatureTypes n) fun p => ⟨.functionType, ?_⟩
    rintro ⟨⟩
    assumption
  all_goals
    refine .nil ?_
    rintro p m ⟨⟨⟩, -⟩

end Mentions

/-! ## the types to which routes lead -/

theorem Mention.all_eq (m : Mention) : m.all = m :: m.node.innerTypes.flatMap Mention.all := by
  rw [Mention.all]
  simp

/-- What a mention leads to is what inner paths lead to, each sequence of paths to one type. -/
theorem Mention.enumerates_all (m : Mention) :
    Enumerates m.all fun ps t => InnerPaths m.node ps t.node ∧ t.position = placeBehind m.position ps.flatten := by
  induction m using Mention.all.induct with
  | case1 m ih =>
    rw [Mention.all_eq m]
    have hself : Enumerates [m] fun (ps : List Address) t => ps = [] ∧ t = m := .singleton fun _ _ => Iff.rfl
    have hinner := (enumerates_innerTypes m.node).flatMap List.cons
      (fun p t ht => ih t ((enumerates_innerTypes m.node).mem ht)) fun _ _ _ _ => List.cons.inj
    refine (hself.append hinner ?_).congr ?_
    · rintro ps t t' ⟨rfl, -⟩ ⟨p, t, ps, -, -, h⟩
      exact List.cons_ne_nil p ps h
    · intro ps t
      constructor
      · rintro (⟨rfl, rfl⟩ | ⟨p, t', ps, ⟨hp, hat, hpos⟩, ⟨hps, hpos'⟩, rfl⟩)
        · exact ⟨.nil _, rfl⟩
        · refine ⟨.cons hp hat hps, ?_⟩
          rw [hpos', hpos, List.flatten_cons, placeBehind_append, placeBehind_congr hp.ne_nil .declared]
      · rintro ⟨hps, hpos⟩
        obtain ⟨pos, t⟩ := t
        cases hps with
        | nil => exact .inl ⟨rfl, congrArg (Mention.mk · m.node) hpos⟩
        | @cons _ m' _ p ps hp hat hps =>
          refine .inr ⟨p, ⟨placeBehind .declared p, m'⟩, ps, ⟨hp, hat, rfl⟩, ⟨hps, ?_⟩, rfl⟩
          rw [hpos, List.flatten_cons, placeBehind_append, placeBehind_congr hp.ne_nil .declared]

/-- The types that are looked at in a tree, in the order in which its nodes are visited. -/
def mentions (root : Node) : List Mention :=
  root.preorder.flatMap fun n => (n.entryTypes?.getD []).flatMap Mention.all

/-- The types that are looked at are those to which routes lead, each route to one type. -/
theorem enumerates_mentions {root : Node} (h : root.Conforms) :
    Enumerates (mentions root) fun (r : Route) t =>
      r.LeadsTo root t.node ∧ t.position = placeBehind .declared r.address := by
  have hentry : ∀ n : Node, Enumerates ((n.entryTypes?.getD []).flatMap Mention.all) fun x t => _ :=
    fun n => (enumerates_entryTypes n).flatMap Prod.mk (fun p m _ => m.enumerates_all)
      fun _ _ _ _ h => Prod.mk.inj h
  refine (h.enumerates_preorder.flatMap (fun a x => Route.mk a x.1 x.2) (fun a n _ => hentry n) ?_).congr ?_
  · rintro a n ⟨p, ps⟩ t a' n' ⟨p', ps'⟩ t' - - - - h
    obtain ⟨rfl, rfl, rfl⟩ : _ ∧ _ ∧ _ := by simpa using h
    exact ⟨rfl, rfl⟩
  · intro r t
    constructor
    · rintro ⟨a, n, x, hn, ⟨p, m, ps, ⟨hp, hat, hpos⟩, ⟨hps, hpos'⟩, rfl⟩, rfl⟩
      refine ⟨⟨n, m.node, hn, hp, hat, hps⟩, ?_⟩
      rw [hpos', hpos, Route.address, placeBehind_append, placeBehind_append, placeBehind_congr hp.ne_nil]
    · rintro ⟨⟨n, m, hn, hp, hat, hps⟩, hpos⟩
      refine ⟨r.entry, n, (r.first, r.inner), hn,
        ⟨r.first, ⟨placeBehind .declared r.first, m⟩, r.inner, ⟨hp, hat, rfl⟩, ⟨hps, ?_⟩, rfl⟩, rfl⟩
      rw [hpos, Route.address, placeBehind_append, placeBehind_append, placeBehind_congr hp.ne_nil .declared]

/-! ## only one route leads to a place -/

section Unique

/-- What follows a path is known if it starts with one that is written at the same place. -/
theorem SignaturePath.append_inj {p p' a a' : Address} (hp : SignaturePath p) (hp' : SignaturePath p')
    (h : p ++ a = p' ++ a') : p = p' ∧ a = a' := by
  cases hp <;> cases hp' <;> simp_all

theorem ClassPath.append_inj {p p' a a' : Address} (hp : ClassPath p) (hp' : ClassPath p')
    (h : p ++ a = p' ++ a') : p = p' ∧ a = a' := by
  cases hp <;> cases hp' <;> simp_all

theorem EntryPath.append_inj {k : NodeKind} {p p' a a' : Address} (hp : EntryPath k p) (hp' : EntryPath k p')
    (h : p ++ a = p' ++ a') : p = p' ∧ a = a' := by
  cases hp with
  | variableDeclarator | propertyDefinition | expressionStatement =>
    cases hp'
    simpa using h
  | functionDeclaration hp | functionExpression hp | arrowFunctionExpression hp =>
    cases hp'
    next hp' => exact hp.append_inj hp' h
  | classDeclaration hp | classExpression hp =>
    cases hp'
    next hp' => exact hp.append_inj hp' h

theorem InnerPath.append_inj {k : NodeKind} {p p' a a' : Address} (hp : InnerPath k p) (hp' : InnerPath k p')
    (h : p ++ a = p' ++ a') : p = p' ∧ a = a' := by
  cases hp with
  | typeReference | qualifiedTypeReference =>
    cases hp'
    simpa using h
  | functionType hp =>
    cases hp' with
    | functionType hp' => exact hp.append_inj hp' h

/-- Nodes of that kind are looked at by themselves. -/
def isEntry (k : NodeKind) : Bool := BanTypes.info.entryKinds.contains k

theorem EntryPath.isEntry {k : NodeKind} {p : Address} (h : EntryPath k p) : isEntry k = true := by
  cases h <;> rfl

theorem not_isEntry_of_isType {k : NodeKind} (h : k.isType = true) : isEntry k = false := by
  cases k <;> first | rfl | exact (Bool.false_ne_true h).elim

/-- What has type arguments is not looked at by itself. -/
theorem not_isEntry_of_follow {n m : Node} {i : Nat} (h : n.follow (.item .typeArgs i) = some m) :
    isEntry n.kind = false := by
  obtain ⟨v, hz, -⟩ := Node.follow_eq_some.1 h
  have hf : Field.typeArgs ∈ n.kind.fields := (List.of_mem_zip hz).1
  generalize n.kind = k at hf
  revert hf
  cases k <;> decide

/-- A path to `m` leads past nodes that are not looked at by themselves, and `m` is a type. -/
structure Passes (n m : Node) (p : Address) : Prop where
  isType : m.kind.isType = true
  past : ∀ {x y : Address} {c : Node}, x ≠ [] → x ++ y = p → n.at? x = some c → isEntry c.kind = false

theorem passes_one {n m : Node} {e : Edge} (h : n.at? [e] = some m) (hm : m.kind.isType = true) : Passes n m [e] := by
  refine ⟨hm, ?_⟩
  intro x y c hx hxy hc
  obtain ⟨rfl, -⟩ : x = [e] ∧ y = [] := by simpa [List.append_eq_singleton_iff, hx] using hxy
  rw [h] at hc
  exact Option.some.inj hc ▸ not_isEntry_of_isType hm

theorem passes_two {n c m : Node} {e e' : Edge} (hc : n.follow e = some c) (hm : c.follow e' = some m)
    (hce : isEntry c.kind = false) (hmt : m.kind.isType = true) : Passes n m [e, e'] := by
  refine ⟨hmt, ?_⟩
  rintro (_ | ⟨f, _ | ⟨f', x⟩⟩) y c' hx hxy hc'
  · exact absurd rfl hx
  · obtain ⟨rfl, rfl⟩ : f = e ∧ y = [e'] := by simpa using hxy
    obtain rfl : c = c' := by simpa [Node.at?, hc] using hc'
    exact hce
  · obtain ⟨rfl, rfl, rfl, rfl⟩ : f = e ∧ f' = e' ∧ x = [] ∧ y = [] := by simpa using hxy
    obtain rfl : m = c' := by simpa [Node.at?, hc, hm] using hc'
    exact not_isEntry_of_isType hmt

/-- A path that is continued by paths past nodes that are not looked at. -/
theorem Passes.append {n m : Node} {p q : Address} (hp : Passes n m p) (hm : n.at? p = some m)
    (hq : ∀ {x y : Address} {c : Node}, x ++ y = q → m.at? x = some c → isEntry c.kind = false)
    {x y : Address} {c : Node} (hx : x ≠ []) (hxy : x ++ y = p ++ q) (hc : n.at? x = some c) :
    isEntry c.kind = false := by
  rcases List.append_eq_append_iff.1 hxy with ⟨z, rfl, rfl⟩ | ⟨z, rfl, rfl⟩
  · exact hp.past hx rfl hc
  · rw [Node.at?_append, hm] at hc
    exact hq rfl hc

theorem SignaturePath.passes {n m : Node} {p : Address} (hn : n.Conforms) (hp : SignaturePath p)
    (hm : n.at? p = some m) : Passes n m p := by
  cases hp with
  | typeParamDefault i =>
    obtain ⟨c, hc, hm⟩ := Node.at?_cons_eq_some.1 hm
    obtain ⟨d, hd, hm⟩ := Node.at?_cons_eq_some.1 hm
    obtain rfl := Option.some.inj hm
    have hck : c.kind = .typeParameter := by simpa [NodeKind.allows, Edge.through] using hn.allowed hc
    have hdk := (hn.follow hc).allowed hd
    refine passes_two hc hd (by rw [hck]; rfl) ?_
    simpa [hck, NodeKind.allows, Edge.through] using hdk
  | param i =>
    obtain ⟨c, hc, hm⟩ := Node.at?_cons_eq_some.1 hm
    obtain ⟨d, hd, hm⟩ := Node.at?_cons_eq_some.1 hm
    obtain rfl := Option.some.inj hm
    have hck : c.kind = .param := by simpa [NodeKind.allows, Edge.through] using hn.allowed hc
    exact passes_two hc hd (by rw [hck]; rfl) ((hn.follow hc).allowed hd)
  | result =>
    refine passes_one hm ?_
    obtain ⟨c, hc, hm⟩ := Node.at?_cons_eq_some.1 hm
    obtain rfl := Option.some.inj hm
    exact hn.allowed hc

theorem ClassPath.passes {n m : Node} {p : Address} (hn : n.Conforms) (hp : ClassPath p)
    (hm : n.at? p = some m) : Passes n m p := by
  cases hp with
  | typeParamDefault i => exact (SignaturePath.typeParamDefault i).passes hn hm
  | heritage i =>
    obtain ⟨c, hc, hm⟩ := Node.at?_cons_eq_some.1 hm
    obtain ⟨d, hd, hm⟩ := Node.at?_cons_eq_some.1 hm
    obtain rfl := Option.some.inj hm
    exact passes_two hc hd (not_isEntry_of_follow hd) ((hn.follow hc).allowed hd)

theorem EntryPath.passes {n m : Node} {p : Address} (hn : n.Conforms) (hp : EntryPath n.kind p)
    (hm : n.at? p = some m) : Passes n m p := by
  generalize hk : n.kind = k at hp
  cases hp with
  | variableDeclarator | propertyDefinition =>
    refine passes_one hm ?_
    obtain ⟨c, hc, hm⟩ := Node.at?_cons_eq_some.1 hm
    obtain rfl := Option.some.inj hm
    exact hn.allowed hc
  | functionDeclaration hp | functionExpression hp | arrowFunctionExpression hp => exact hp.passes hn hm
  | classDeclaration hp | classExpression hp => exact hp.passes hn hm
  | expressionStatement i =>
    obtain ⟨c, hc, hm⟩ := Node.at?_cons_eq_some.1 hm
    obtain ⟨d, hd, hm⟩ := Node.at?_cons_eq_some.1 hm
    obtain rfl := Option.some.inj hm
    exact passes_two hc hd (not_isEntry_of_follow hd) ((hn.follow hc).allowed hd)

theorem InnerPath.passes {n m : Node} {p : Address} (hn : n.Conforms) (hp : InnerPath n.kind p)
    (hm : n.at? p = some m) : Passes n m p := by
  generalize hk : n.kind = k at hp
  cases hp with
  | typeReference i | qualifiedTypeReference i =>
    refine passes_one hm ?_
    obtain ⟨c, hc, hm⟩ := Node.at?_cons_eq_some.1 hm
    obtain rfl := Option.some.inj hm
    exact hn.allowed hc
  | functionType hp => exact hp.passes hn hm

/-- Inner paths from a type lead past nodes that are not looked at by themselves. -/
theorem InnerPaths.past {n t : Node} {ps : List Address} (h : InnerPaths n ps t) (hn : n.Conforms)
    (ht : n.kind.isType = true) {x y : Address} {c : Node} (hxy : x ++ y = ps.flatten) (hc : n.at? x = some c) :
    isEntry c.kind = false := by
  induction h generalizing x y c with
  | nil n =>
    obtain ⟨rfl, -⟩ := List.append_eq_nil_iff.1 hxy
    exact Option.some.inj hc ▸ not_isEntry_of_isType ht
  | @cons n m t p ps hp hm rest ih =>
    by_cases hx : x = []
    · subst hx
      exact Option.some.inj hc ▸ not_isEntry_of_isType ht
    · have hpass := hp.passes hn hm
      exact hpass.append hm (fun hxy hc => ih (hn.at? hm) hpass.isType hxy hc) hx hxy hc

/-- A type is the end of only one sequence of inner paths. -/
theorem InnerPaths.eq_of_flatten_eq {n t t' : Node} {ps ps' : List Address} (h : InnerPaths n ps t)
    (h' : InnerPaths n ps' t') (hps : ps.flatten = ps'.flatten) : ps = ps' := by
  induction h generalizing ps' with
  | nil n =>
    cases h' with
    | nil => rfl
    | cons hp =>
      rw [List.flatten_cons] at hps
      exact absurd (List.append_eq_nil_iff.1 hps.symm).1 hp.ne_nil
  | cons hp hm rest ih =>
    cases h' with
    | nil => exact absurd (List.append_eq_nil_iff.1 hps).1 hp.ne_nil
    | cons hp' hm' rest' =>
      obtain ⟨rfl, hrest⟩ := hp.append_inj hp' hps
      obtain rfl := Option.some.inj (hm.symm.trans hm')
      rw [ih rest' hrest]

theorem Route.eq_of_entry_prefix {r r' : Route} {root t t' : Node} (hroot : root.Conforms) (h : r.LeadsTo root t)
    (h' : r'.LeadsTo root t') (ha : r.address = r'.address) {x : Address} (hx : r'.entry = r.entry ++ x) : r = r' := by
  obtain ⟨entry, first, inner⟩ := r
  obtain ⟨entry', first', inner'⟩ := r'
  obtain ⟨e, m, he, hp, hm, hps⟩ := h
  obtain ⟨e', m', he', hp', hm', hps'⟩ := h'
  dsimp only at *
  subst hx
  have hxy : x ++ (first' ++ inner'.flatten) = first ++ inner.flatten := by
    simpa [Route.address] using ha.symm
  have hex : e.at? x = some e' := by simpa [he] using he'
  by_cases hx : x = []
  · subst hx
    obtain rfl := Option.some.inj hex
    obtain ⟨rfl, hrest⟩ := hp.append_inj hp' hxy.symm
    obtain rfl := Option.some.inj (hm.symm.trans hm')
    rw [List.append_nil, hps.eq_of_flatten_eq hps' hrest]
  · -- the second entry would be passed by the first route
    have hconf := hroot.at? he
    have hpass := hp.passes hconf hm
    have hno := hpass.append hm (fun hxy hc => hps.past (hconf.at? hm) hpass.isType hxy hc) hx hxy hex
    rw [hp'.isEntry] at hno
    exact (Bool.false_ne_true hno.symm).elim

/-- Only one route leads to a place. -/
theorem Route.eq_of_address_eq {r r' : Route} {root t t' : Node} (hroot : root.Conforms) (h : r.LeadsTo root t)
    (h' : r'.LeadsTo root t') (ha : r.address = r'.address) : r = r' := by
  have happ : r.entry ++ (r.first ++ r.inner.flatten) = r'.entry ++ (r'.first ++ r'.inner.flatten) := by
    simpa [Route.address] using ha
  rcases List.append_eq_append_iff.1 happ with ⟨x, hx, -⟩ | ⟨x, hx, -⟩
  · exact Route.eq_of_entry_prefix hroot h h' ha hx
  · exact (Route.eq_of_entry_prefix hroot h' h ha.symm hx).symm

theorem InnerPaths.at? {n t : Node} {ps : List Address} (h : InnerPaths n ps t) : n.at? ps.flatten = some t := by
  induction h with
  | nil => rfl
  | cons hp hm rest ih => rw [List.flatten_cons, Node.at?_append, hm, Option.bind_some, ih]

/-- A route leads to the type at its address. -/
theorem Route.LeadsTo.at? {r : Route} {root t : Node} (h : r.LeadsTo root t) : root.at? r.address = some t := by
  obtain ⟨e, m, he, -, hm, hps⟩ := h
  rw [Route.address, Node.at?_append, Node.at?_append, he, Option.bind_some, hm, Option.bind_some, hps.at?]

theorem InnerPaths.isType {n t : Node} {ps : List Address} (h : InnerPaths n ps t) (hn : n.Conforms)
    (ht : n.kind.isType = true) : t.kind.isType = true := by
  induction h with
  | nil => exact ht
  | cons hp hm rest ih => exact ih (hn.at? hm) (hp.passes hn hm).isType

/-- Routes lead to types. -/
theorem Route.LeadsTo.isType {r : Route} {root t : Node} (h : r.LeadsTo root t) (hroot : root.Conforms) :
    t.kind.isType = true := by
  obtain ⟨e, m, he, hp, hm, hps⟩ := h
  have hconf := hroot.at? he
  exact hps.isType (hconf.at? hm) (hp.passes hconf hm).isType

end Unique

end TypeLint.Rule
