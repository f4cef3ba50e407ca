import TypeLint.Proofs.Lint.Members
import TypeLint.Proofs.Source.Words

/-!
# Types are read back from their text

A type that is written word by word, with a blank between each two words, is read as the type it was.  There are no
parentheses in types, so all the structure that a text keeps is in the way in which bars, brackets and arrows bind.

* `TypeTree`, `PlainTree`, `TypeParamTree`, `ParamTree` — the types that can be written;
* `TypeTree.words`, `TypeTree.print` — their text;
* `TypeTree.node` — their tree, without locations;
* `State.EndsType`, `State.EndsPlain` — the places behind a type, and behind a member of a union;
* `takes_separated` — items with a separator between each two of them, from what is known of one item;
* `TypeTree.isRead` — the words of a type are read as the type;
* `parseSource_print` — a variable that is declared with the text of a type is declared with the type.
-/

namespace TypeLint.Source

open TypeLint.Tree

/-! ## types that can be written -/

/-- A word that can be a name.  It may be a keyword elsewhere. -/
structure Word where
  text : Text
  isName : name? text = some (text, [])

mutual

/-- Types. -/
inductive TypeTree where
  | plain (p : PlainTree)
  /-- at least two -/
  | union (first second : PlainTree) (others : List PlainTree)
  | function (typeParams : List TypeParamTree) (params : List ParamTree) (result : TypeTree)

/-- Types that can stand between bars and before brackets. -/
inductive PlainTree where
  | reference (name : Word) (args : List TypeTree)
  /-- a name of at least two parts -/
  | qualified (head second : Word) (path : List Word) (args : List TypeTree)
  | number (n : Nat) (short : (Text.ofNat n).length ≤ Text.maxDigits)
  | string (value : Text)
  | array (element : PlainTree)

/-- Type parameters. -/
inductive TypeParamTree where
  | mk (name : Word) (bound default : Option TypeTree)

/-- Parameters without default values. -/
inductive ParamTree where
  | mk (name : Word) (optional : Bool) (declared : Option TypeTree)

end

/-- Lists of words with a separator between each two of them. -/
def separated (sep : Text) : List (List Text) → List Text
  | [] => []
  | ws :: wss => ws ++ wss.flatMap (sep :: ·)

/-- What stands between angle brackets, if there is anything. -/
def angled : List (List Text) → List Text
  | [] => []
  | ws :: wss => text "<" :: (separated (text ",") (ws :: wss) ++ [text ">"])

mutual

/-- The words of a type. -/
def TypeTree.words : TypeTree → List Text
  | .plain p => p.words
  | .union first second others => separated (text "|") (first.words :: second.words :: wordsOfPlains others)
  | .function typeParams params result =>
    angled (wordsOfTypeParams typeParams) ++
      text "(" :: (separated (text ",") (wordsOfParams params) ++ text ")" :: text "=>" :: result.words)

def PlainTree.words : PlainTree → List Text
  | .reference name args => name.text :: angled (wordsOfTypes args)
  | .qualified head second path args =>
    separated (text ".") ((head :: second :: path).map fun w => [w.text]) ++ angled (wordsOfTypes args)
  | .number n _ => [Text.ofNat n]
  | .string value => [value.quoted]
  | .array element => element.words ++ [text "[", text "]"]

def TypeParamTree.words : TypeParamTree → List Text
  | .mk name bound default =>
    name.text :: (behindWord (text "extends") bound ++ behindWord (text "=") default)

def ParamTree.words : ParamTree → List Text
  | .mk name optional declared =>
    name.text :: ((if optional then [text "?"] else []) ++ behindWord (text ":") declared)

/-- The words of a type that may be absent, and the word before it. -/
def behindWord (word : Text) : Option TypeTree → List Text
  | none => []
  | some t => word :: t.words

def wordsOfTypes : List TypeTree → List (List Text)
  | [] => []
  | t :: ts => t.words :: wordsOfTypes ts

def wordsOfPlains : List PlainTree → List (List Text)
  | [] => []
  | p :: ps => p.words :: wordsOfPlains ps

def wordsOfTypeParams : List TypeParamTree → List (List Text)
  | [] => []
  | p :: ps => p.words :: wordsOfTypeParams ps

def wordsOfParams : List ParamTree → List (List Text)
  | [] => []
  | p :: ps => p.words :: wordsOfParams ps

end

/-- The text of a type: its words with a blank between each two of them. -/
def TypeTree.print (t : TypeTree) : Text := Text.join (text " ") t.words

/-- A node without a place. -/
def bare (kind : NodeKind) (values : List Value) : Node := .mk kind (some ⟨none, none⟩) values

mutual

/-- The tree of a type, without locations. -/
def TypeTree.node : TypeTree → Node
  | .plain p => p.node
  | .union first second others => bare .unionType [nodeList (first.node :: second.node :: nodesOfPlains others)]
  | .function typeParams params result =>
    bare .functionType [writtenList (nodesOfTypeParams typeParams), nodeList (nodesOfParams params), .node result.node]

def PlainTree.node : PlainTree → Node
  | .reference name args => bare .typeReference [.text name.text, nodeList (nodesOfTypes args)]
  | .qualified head second path args =>
    bare .qualifiedTypeReference
      [.list (((head :: second :: path).map Word.text).map .text), nodeList (nodesOfTypes args)]
  | .number n _ => bare .literalType [.int n]
  | .string value => bare .literalType [.text value]
  | .array element => bare .arrayType [.node element.node]

def TypeParamTree.node : TypeParamTree → Node
  | .mk name bound default =>
    bare .typeParameter [.text name.text, optionalNode (nodeOfType? bound), optionalNode (nodeOfType? default)]

def ParamTree.node : ParamTree → Node
  | .mk name optional declared =>
    bare .param [.text name.text, optionalNode (nodeOfType? declared), .bool optional, .null]

def nodeOfType? : Option TypeTree → Option Node
  | none => none
  | some t => some t.node

def nodesOfTypes : List TypeTree → List Node
  | [] => []
  | t :: ts => t.node :: nodesOfTypes ts

def nodesOfPlains : List PlainTree → List Node
  | [] => []
  | p :: ps => p.node :: nodesOfPlains ps

def nodesOfTypeParams : List TypeParamTree → List Node
  | [] => []
  | p :: ps => p.node :: nodesOfTypeParams ps

def nodesOfParams : List ParamTree → List Node
  | [] => []
  | p :: ps => p.node :: nodesOfParams ps

end

section Lists

/-- Halves of a mutual recursion on lists that treat every item the same. -/
theorem eq_map_of_eqns {α β : Type} {f : α → β} {fs : List α → List β} (nil : fs [] = [])
    (cons : ∀ x xs, fs (x :: xs) = f x :: fs xs) (xs : List α) : fs xs = xs.map f := by
  induction xs with
  | nil => rw [nil, List.map_nil]
  | cons x xs ih => rw [cons, ih, List.map_cons]

theorem wordsOfTypes_eq_map (ts : List TypeTree) : wordsOfTypes ts = ts.map TypeTree.words :=
  eq_map_of_eqns (by rw [wordsOfTypes]) (fun _ _ => by rw [wordsOfTypes]) ts

theorem wordsOfPlains_eq_map (ps : List PlainTree) : wordsOfPlains ps = ps.map PlainTree.words :=
  eq_map_of_eqns (by rw [wordsOfPlains]) (fun _ _ => by rw [wordsOfPlains]) ps

theorem wordsOfTypeParams_eq_map (ps : List TypeParamTree) : wordsOfTypeParams ps = ps.map TypeParamTree.words :=
  eq_map_of_eqns (by rw [wordsOfTypeParams]) (fun _ _ => by rw [wordsOfTypeParams]) ps

theorem wordsOfParams_eq_map (ps : List ParamTree) : wordsOfParams ps = ps.map ParamTree.words :=
  eq_map_of_eqns (by rw [wordsOfParams]) (fun _ _ => by rw [wordsOfParams]) ps

theorem nodesOfTypes_eq_map (ts : List TypeTree) : nodesOfTypes ts = ts.map TypeTree.node :=
  eq_map_of_eqns (by rw [nodesOfTypes]) (fun _ _ => by rw [nodesOfTypes]) ts

theorem nodesOfPlains_eq_map (ps : List PlainTree) : nodesOfPlains ps = ps.map PlainTree.node :=
  eq_map_of_eqns (by rw [nodesOfPlains]) (fun _ _ => by rw [nodesOfPlains]) ps

theorem nodesOfTypeParams_eq_map (ps : List TypeParamTree) : nodesOfTypeParams ps = ps.map TypeParamTree.node :=
  eq_map_of_eqns (by rw [nodesOfTypeParams]) (fun _ _ => by rw [nodesOfTypeParams]) ps

theorem nodesOfParams_eq_map (ps : List ParamTree) : nodesOfParams ps = ps.map ParamTree.node :=
  eq_map_of_eqns (by rw [nodesOfParams]) (fun _ _ => by rw [nodesOfParams]) ps

end Lists

/-! ## trees up to locations -/

/-- The result is a tree that is `n` without its locations. -/
def Shows (r : Except LiteralError Node) (n : Node) : Prop := ∃ m, r = .ok m ∧ m.unlocated = n

theorem relocate_texts (g : Loc → Loc) (ts : List Text) :
    (Value.list (ts.map .text)).relocate g = .list (ts.map .text) := by
  simp [Value.relocate]

theorem optionalNode_none : optionalNode none = .null := rfl

theorem relocate_none : Node.relocate (fun _ => ⟨none, none⟩) = Node.unlocated := rfl

/-- The tree of a phrase, from the values of its fields. -/
theorem shows_nodeAt {r : Except LiteralError Node} {kind : NodeKind} {pos : Pos} {values values' : List Value}
    (h : r = .ok (nodeAt kind pos values)) (hvalues : values.map (Value.relocate fun _ => ⟨none, none⟩) = values') :
    Shows r (bare kind values') := by
  refine ⟨_, h, ?_⟩
  rw [← hvalues]
  simp [Node.unlocated, nodeAt, Node.relocate, bare]

/-- The trees of a list, one by one. -/
theorem shows_list {α β : Type} {f : α → Except LiteralError Node} {fs : List α → Except LiteralError (List Node)}
    (nil : fs [] = .ok []) (cons : ∀ x xs, fs (x :: xs) = f x >>= fun n => fs xs >>= fun ns => pure (n :: ns))
    {g : β → Node} {xs : List α} {ys : List β} (h : List.Forall₂ (fun x y => Shows (f x) (g y)) xs ys) :
    ∃ ns, fs xs = .ok ns ∧ ns.map Node.unlocated = ys.map g := by
  induction h with
  | nil => exact ⟨[], nil, rfl⟩
  | @cons x y xs ys hx _ ih =>
    obtain ⟨m, hm, hmy⟩ := hx
    obtain ⟨ms, hms, hmys⟩ := ih
    refine ⟨m :: ms, ?_, ?_⟩
    · rw [cons, hm, hms]
      rfl
    · rw [List.map_cons, List.map_cons, hmy, hmys]

theorem shows_types {tys : List TypeExpr} {ts : List TypeTree}
    (h : List.Forall₂ (fun ty t => Shows ty.toNode t.node) tys ts) :
    ∃ ns, typeNodes tys = .ok ns ∧ ns.map Node.unlocated = nodesOfTypes ts := by
  rw [nodesOfTypes_eq_map]
  exact shows_list (by rw [typeNodes]) (fun _ _ => by rw [typeNodes]) h

theorem shows_plains {tys : List TypeExpr} {ps : List PlainTree}
    (h : List.Forall₂ (fun ty p => Shows ty.toNode p.node) tys ps) :
    ∃ ns, typeNodes tys = .ok ns ∧ ns.map Node.unlocated = nodesOfPlains ps := by
  rw [nodesOfPlains_eq_map]
  exact shows_list (by rw [typeNodes]) (fun _ _ => by rw [typeNodes]) h

theorem shows_optional {ty : Option TypeExpr} {t : Option TypeTree}
    (h : Option.Rel (fun ty t => Shows ty.toNode t.node) ty t) :
    ∃ n, optionalTypeNode ty = .ok n ∧ n.map Node.unlocated = nodeOfType? t := by
  cases h with
  | none => exact ⟨none, by rw [optionalTypeNode], by rw [nodeOfType?]; rfl⟩
  | some h =>
    obtain ⟨n, hn, he⟩ := h
    exact ⟨some n, by rw [optionalTypeNode, hn]; rfl, by rw [nodeOfType?, ← he]; rfl⟩

theorem shows_typeParams {qs : List TypeParam} {ps : List TypeParamTree}
    (h : List.Forall₂ (fun q p => Shows q.toNode p.node) qs ps) :
    ∃ ns, typeParamNodes qs = .ok ns ∧ ns.map Node.unlocated = nodesOfTypeParams ps := by
  rw [nodesOfTypeParams_eq_map]
  exact shows_list (by rw [typeParamNodes]) (fun _ _ => by rw [typeParamNodes]) h

theorem shows_params {qs : List Param} {ps : List ParamTree}
    (h : List.Forall₂ (fun q p => Shows q.toNode p.node) qs ps) :
    ∃ ns, paramNodes qs = .ok ns ∧ ns.map Node.unlocated = nodesOfParams ps := by
  rw [nodesOfParams_eq_map]
  exact shows_list (by rw [paramNodes]) (fun _ _ => by rw [paramNodes]) h

/-! ## places behind types -/

/-- Behind a phrase: each of the signs is found, and completes the phrase. -/
def State.Ends (s : State) (signs : List (Text × Terminal)) (complete : Token → Option State) : Prop :=
  ∀ x ∈ signs, scan s.admits x.1 = some (.token x.2, x.1, []) ∧ ∀ pos, s.step ⟨x.2, x.1, pos⟩ = complete ⟨x.2, x.1, pos⟩

section Ends

variable {s : State} {signs : List (Text × Terminal)} {complete : Token → Option State}

theorem State.ends_nil (s : State) (complete : Token → Option State) : s.Ends [] complete := nofun

theorem State.Ends.cons {w : Text} {k : Terminal} (hscan : scan s.admits w = some (.token k, w, []))
    (hstep : ∀ pos, s.step ⟨k, w, pos⟩ = complete ⟨k, w, pos⟩) (h : s.Ends signs complete) :
    s.Ends ((w, k) :: signs) complete :=
  List.forall_mem_cons.2 ⟨⟨hscan, hstep⟩, h⟩

/-- One of the signs. -/
theorem State.Ends.take {w : Text} {k : Terminal} {s' : State} {ws : List Text} {post : State → Prop}
    (h : s.Ends signs complete) (hw : (w, k) ∈ signs) (hs' : ∀ pos, complete ⟨k, w, pos⟩ = some s')
    (hpost : s'.Takes ws post) : s.Takes (w :: ws) post := by
  obtain ⟨hscan, hstep⟩ := h _ hw
  exact .cons hscan (fun pos => (hstep pos).trans (hs' pos)) fun _ => hpost

theorem State.Ends.of_subset {signs' : List (Text × Terminal)} {complete' : Token → Option State}
    (h : s.Ends signs complete) (hsub : signs' ⊆ signs)
    (heq : ∀ x ∈ signs', ∀ pos, complete ⟨x.2, x.1, pos⟩ = complete' ⟨x.2, x.1, pos⟩) : s.Ends signs' complete' := by
  intro x hx
  obtain ⟨hscan, hstep⟩ := h x (hsub hx)
  exact ⟨hscan, fun pos => (hstep pos).trans (heq x hx pos)⟩

end Ends

/-- The signs that can stand behind a type and do not go on with it. -/
def closingSigns : List (Text × Terminal) :=
  [(text ",", .comma), (text ">", .angleClose), (text "=", .equals), (text ")", .parenClose)]

/-- The signs that can stand behind a member of a union. -/
def typeSigns : List (Text × Terminal) := (text "[", .bracketOpen) :: (text "|", .bar) :: closingSigns

/-- Behind a member of a union. -/
structure State.EndsPlain (s : State) (ty : TypeExpr) (place : Alternative) : Prop where
  canEnd : s.canEnd = true
  ends : s.Ends typeSigns (alternativeEnd ty place)
  terminated : s.terminated? = alternativeEnd ty place ⟨.terminator, [], .start⟩

/-- Behind a type. -/
structure State.EndsType (s : State) (ty : TypeExpr) (slot : TypeSlot) : Prop where
  canEnd : s.canEnd = true
  ends : s.Ends closingSigns (Source.typeEnd ty slot)
  terminated : s.terminated? = Source.typeEnd ty slot ⟨.terminator, [], .start⟩

theorem endsPlain_typeNamed (head : Ident) (path : List Ident) (place : Alternative) :
    (State.typeNamed head path place).EndsPlain (.named head path.reverse []) place := by
  refine ⟨rfl, ?_, rfl⟩
  cases path <;>
    exact .cons rfl (fun _ => rfl) (.cons rfl (fun _ => rfl) (.cons rfl (fun _ => rfl) (.cons rfl (fun _ => rfl)
      (.cons rfl (fun _ => rfl) (.cons rfl (fun _ => rfl) (State.ends_nil _ _))))))

theorem endsPlain_typeEnd (ty : TypeExpr) (applied : Bool) (place : Alternative) :
    (State.typeEnd ty applied place).EndsPlain ty place := by
  refine ⟨rfl, ?_, rfl⟩
  cases applied <;>
    exact .cons rfl (fun _ => rfl) (.cons rfl (fun _ => rfl) (.cons rfl (fun _ => rfl) (.cons rfl (fun _ => rfl)
      (.cons rfl (fun _ => rfl) (.cons rfl (fun _ => rfl) (State.ends_nil _ _))))))

/-- A type ends with its last member. -/
theorem State.EndsPlain.endsType {s : State} {ty : TypeExpr} {place : Alternative} (h : s.EndsPlain ty place) :
    s.EndsType (place.whole ty) place.slot := by
  refine ⟨h.canEnd, h.ends.of_subset (by simp [typeSigns]) fun x hx pos => ?_, h.terminated⟩
  have hclosing : ∀ x ∈ closingSigns, x.2 ≠ .bracketOpen ∧ x.2 ≠ .bar := by decide
  obtain ⟨hbracket, hbar⟩ := hclosing x hx
  unfold alternativeEnd
  split
  · contradiction
  · contradiction
  · contradiction
  · rfl

/-- Behind a type parameter. -/
def State.EndsTypeParam (s : State) (p : TypeParam) (generics : Generics) : Prop :=
  s.Ends [(text ",", .comma), (text ">", .angleClose)] (typeParamEnd p generics)

/-- Behind a parameter. -/
def State.EndsParam (s : State) (p : Param) (params : Params) : Prop :=
  s.Ends [(text ",", .comma), (text ")", .parenClose)] (parameterEnd p params)

/-! ## what is read -/

/-- The place before a member of a union. -/
def Alternative.state : Alternative → State
  | .only slot => .type slot
  | .next first done slot => .alternative first done slot

/-- The words of the type are read as the type, wherever a type can stand. -/
def TypeTree.IsRead (t : TypeTree) : Prop :=
  ∀ slot, (State.type slot).Takes t.words fun s => ∃ ty : TypeExpr, Shows ty.toNode t.node ∧ s.EndsType ty slot

def PlainTree.IsRead (p : PlainTree) : Prop :=
  ∀ place : Alternative, place.state.Takes p.words fun s =>
    ∃ ty : TypeExpr, Shows ty.toNode p.node ∧ s.EndsPlain ty place

def TypeParamTree.IsRead (p : TypeParamTree) : Prop :=
  ∀ generics, (State.typeParam generics).Takes p.words fun s =>
    ∃ q : TypeParam, Shows q.toNode p.node ∧ s.EndsTypeParam q generics

def ParamTree.IsRead (p : ParamTree) : Prop :=
  ∀ s params, s = State.parameters params ∨ s = .parameter params → s.Takes p.words fun s' =>
    ∃ q : Param, Shows q.toNode p.node ∧ s'.EndsParam q params

/-- Items with a separator between each two of them.  The place before an item is `begin`, where the list is what has
been read of the others, and `ends` holds behind it. -/
theorem takes_separated {α β : Type} {words : α → List Text} {R : β → α → Prop} (begin : List β → State)
    (ends : List β → β → State → Prop) {sep : Text}
    (hsep : ∀ bs b s, ends bs b s → s.Takes [sep] fun s' => s' = begin (b :: bs)) {s : State} {bs : List β} {a : α}
    {as : List α} (first : s.Takes (words a) fun s' => ∃ b, R b a ∧ ends bs b s')
    (others : ∀ a ∈ as, ∀ bs, (begin bs).Takes (words a) fun s' => ∃ b, R b a ∧ ends bs b s') :
    s.Takes (separated sep ((a :: as).map words)) fun s' =>
      ∃ cs b, ends cs b s' ∧ ∃ new, List.Forall₂ R new (a :: as) ∧ (b :: cs).reverse = bs.reverse ++ new := by
  -- The induction is on the items behind the first, for any place before it and anything that has been read.
  induction as generalizing s bs a with
  | nil =>
    rw [List.map_cons, List.map_nil, separated, List.flatMap_nil, List.append_nil]
    refine first.mono ?_
    rintro s' ⟨b, hb, hs'⟩
    exact ⟨bs, b, hs', [b], .cons hb .nil, by simp⟩
  | cons a' as ih =>
    obtain ⟨hfirst, hothers⟩ := List.forall_mem_cons.1 others
    show s.Takes (words a ++ ([sep] ++ separated sep ((a' :: as).map words))) _
    refine first.append ?_
    rintro s₁ ⟨b, hb, hs₁⟩
    refine (hsep bs b s₁ hs₁).append ?_
    rintro _ rfl
    refine (ih (hfirst (b :: bs)) hothers).mono ?_
    rintro s₂ ⟨cs, c, hs₂, new, hnew, he⟩
    exact ⟨cs, c, hs₂, b :: new, .cons hb hnew, by simpa using he⟩

/-- A name where no keyword is looked for. -/
theorem scan_name_at {s : State} (expected : List Terminal) (he : s.expected = expected)
    (hname : expected.contains .name = true)
    (hkeyword : ∀ x ∈ spellings, expected.contains x.2 = true → Source.name? x.1 = none) (w : Word) :
    scan s.admits w.text = some (.token .name, w.text, []) := by
  subst he
  exact scan_word hname hkeyword w.isName

/-! ## members of unions -/

theorem Alternative.step_state (place : Alternative) {t : Token}
    (h : t.kind = .name ∨ t.kind = .number ∨ t.kind = .string) : place.state.step t = alternativeBegin place t := by
  cases place with
  | next => rfl
  | only slot =>
    show typeBegin slot t = _
    rcases h with h | h | h <;> simp [typeBegin, h]

/-- The parts of a name behind points. -/
theorem takes_path (head : Ident) (done : List Ident) (place : Alternative) (path : List Word) :
    (State.typeNamed head done place).Takes ((path.map fun w => [w.text]).flatMap (text "." :: ·)) fun s =>
      ∃ ids : List Ident, ids.map Ident.text = path.map Word.text ∧
        s = .typeNamed head (ids.reverse ++ done) place := by
  induction path generalizing done with
  | nil => exact ⟨[], rfl, rfl⟩
  | cons w path ih =>
    refine .cons (k := .dot) (by cases done <;> rfl) (fun _ => rfl) fun _ => ?_
    refine .cons (scan_name_at [.name] rfl (by decide) (by decide) w) (fun _ => rfl) fun pos => ?_
    refine (ih _).mono ?_
    rintro _ ⟨ids, hids, rfl⟩
    exact ⟨⟨w.text, pos⟩ :: ids, by simp [hids], by simp [Token.ident]⟩

/-- Type arguments, if there are any. -/
theorem takes_typeArgs {args : List TypeTree} (h : ∀ t ∈ args, t.IsRead) (head : Ident) (path : List Ident)
    (place : Alternative) :
    (State.typeNamed head path place).Takes (angled (wordsOfTypes args)) fun s =>
      ∃ tys, List.Forall₂ (fun (ty : TypeExpr) t => Shows ty.toNode t.node) tys args ∧
        s.EndsPlain (.named head path.reverse tys) place := by
  rw [wordsOfTypes_eq_map]
  cases args with
  | nil => exact ⟨[], .nil, endsPlain_typeNamed head path place⟩
  | cons t ts =>
    obtain ⟨ht, hts⟩ := List.forall_mem_cons.1 h
    refine .cons (k := .angleOpen) (by cases path <;> rfl) (fun _ => rfl) fun _ => ?_
    refine (takes_separated (fun done => .type (.argument (.type head path place) done))
      (fun done ty s => s.EndsType ty (.argument (.type head path place) done)) ?_ (ht _)
      fun t ht _ => hts t ht _).append ?_
    · intro done ty s hs
      exact hs.ends.take (k := .comma) (by decide) (fun _ => rfl) rfl
    · rintro s ⟨done, ty, hs, tys, htys, he⟩
      refine hs.ends.take (k := .angleClose) (by decide) (fun _ => rfl) ⟨tys, htys, ?_⟩
      rw [he]
      exact endsPlain_typeEnd _ _ _

/-- A name with type arguments. -/
theorem takes_named (head : Word) (path : List Word) {args : List TypeTree} (h : ∀ t ∈ args, t.IsRead)
    (place : Alternative) :
    place.state.Takes (separated (text ".") ((head :: path).map fun w => [w.text]) ++ angled (wordsOfTypes args))
      fun s => ∃ pos, ∃ ids : List Ident, ∃ tys, ids.map Ident.text = path.map Word.text ∧
        List.Forall₂ (fun (ty : TypeExpr) t => Shows ty.toNode t.node) tys args ∧
        s.EndsPlain (.named ⟨head.text, pos⟩ ids tys) place := by
  have hscan : scan place.state.admits head.text = some (.token .name, head.text, []) := by
    cases place
    · exact scan_name_at typeStart rfl (by decide) (by decide) head
    · exact scan_name_at [.name, .number, .string] rfl (by decide) (by decide) head
  refine .cons hscan (fun _ => place.step_state (.inl rfl)) fun pos => ?_
  refine (takes_path _ [] place path).append ?_
  rintro _ ⟨ids, hids, rfl⟩
  refine (takes_typeArgs h _ _ place).mono ?_
  rintro s ⟨tys, htys, hs⟩
  exact ⟨pos, ids, tys, hids, htys, by simpa [Token.ident] using hs⟩

theorem isRead_reference (name : Word) {args : List TypeTree} (h : ∀ t ∈ args, t.IsRead) :
    (PlainTree.reference name args).IsRead := by
  intro place
  rw [PlainTree.words]
  refine (takes_named name [] h place).mono ?_
  rintro s ⟨pos, ids, tys, hids, htys, hs⟩
  obtain rfl := List.map_eq_nil_iff.1 hids
  obtain ⟨ns, hns, he⟩ := shows_types htys
  refine ⟨_, ?_, hs⟩
  rw [PlainTree.node]
  refine shows_nodeAt (by rw [TypeExpr.toNode, hns]; rfl) ?_
  simp [Value.relocate, relocate_none, he]

theorem isRead_qualified (head second : Word) (path : List Word) {args : List TypeTree} (h : ∀ t ∈ args, t.IsRead) :
    (PlainTree.qualified head second path args).IsRead := by
  intro place
  rw [PlainTree.words]
  refine (takes_named head (second :: path) h place).mono ?_
  rintro s ⟨pos, ids, tys, hids, htys, hs⟩
  obtain ⟨id, ids, rfl, -⟩ := List.map_eq_cons_iff.1 hids
  obtain ⟨ns, hns, he⟩ := shows_types htys
  have hnames : (head :: second :: path).map Word.text = head.text :: (id :: ids).map Ident.text :=
    congrArg (head.text :: ·) hids.symm
  refine ⟨_, ?_, hs⟩
  rw [PlainTree.node, hnames, ← he]
  refine shows_nodeAt (by rw [TypeExpr.toNode, hns]; rfl) ?_
  rw [List.map_cons, List.map_singleton, relocate_texts, relocate_nodeList]
  rfl

theorem isRead_number (n : Nat) (short : (Text.ofNat n).length ≤ Text.maxDigits) :
    (PlainTree.number n short).IsRead := by
  intro place
  rw [PlainTree.words]
  refine .cons (scan_numeral (by cases place <;> rfl) n) (fun _ => place.step_state (.inr (.inl rfl))) fun pos => ?_
  refine ⟨_, ?_, endsPlain_typeEnd _ _ _⟩
  rw [PlainTree.node]
  exact shows_nodeAt (by rw [TypeExpr.toNode, Literal.value, numberValue_ofNat short]; rfl) rfl

theorem isRead_string (value : Text) : (PlainTree.string value).IsRead := by
  intro place
  rw [PlainTree.words]
  refine .cons (scan_quoted (by cases place <;> rfl) value) (fun _ => place.step_state (.inr (.inr rfl))) fun pos => ?_
  refine ⟨_, ?_, endsPlain_typeEnd _ _ _⟩
  rw [PlainTree.node]
  exact shows_nodeAt (by rw [TypeExpr.toNode, Literal.value, Text.unquoted_quoted]; rfl) rfl

theorem isRead_array {element : PlainTree} (h : element.IsRead) : (PlainTree.array element).IsRead := by
  intro place
  rw [PlainTree.words]
  refine (h place).append ?_
  rintro s ⟨ty, ⟨n, hn, he⟩, hs⟩
  refine hs.ends.take (k := .bracketOpen) (by decide) (fun _ => rfl) ?_
  refine .cons (k := .bracketClose) rfl (fun _ => rfl) fun _ => ?_
  refine ⟨_, ?_, endsPlain_typeEnd _ _ _⟩
  rw [PlainTree.node]
  refine shows_nodeAt (by rw [TypeExpr.toNode, hn]; rfl) ?_
  simp [Value.relocate, relocate_none, he]

/-! ## types -/

theorem isRead_plain {p : PlainTree} (h : p.IsRead) : (TypeTree.plain p).IsRead := by
  intro slot
  rw [TypeTree.words, TypeTree.node]
  refine (h (.only slot)).mono ?_
  rintro s ⟨ty, hty, hs⟩
  exact ⟨ty, hty, hs.endsType⟩

theorem isRead_union {first second : PlainTree} {others : List PlainTree} (hfirst : first.IsRead)
    (hsecond : second.IsRead) (hothers : ∀ p ∈ others, p.IsRead) : (TypeTree.union first second others).IsRead := by
  intro slot
  rw [TypeTree.words, wordsOfPlains_eq_map]
  -- The first member is read like a type of its own; only the bar behind it makes it a member.
  refine (hfirst (.only slot)).append ?_
  rintro s₁ ⟨ty₁, ⟨n₁, hn₁, he₁⟩, hs₁⟩
  refine hs₁.ends.take (k := .bar) (by decide) (fun _ => rfl) ?_
  refine (takes_separated (fun done => .alternative ty₁ done slot)
    (fun done ty s => s.EndsPlain ty (.next ty₁ done slot)) ?_ (hsecond (.next ty₁ [] slot))
    fun p hp done => hothers p hp (.next ty₁ done slot)).mono ?_
  · intro done ty s hs
    exact hs.ends.take (k := .bar) (by decide) (fun _ => rfl) rfl
  · rintro s ⟨done, ty, hs, tys, htys, he⟩
    obtain ⟨ns, hns, hns'⟩ := shows_plains htys
    refine ⟨_, ?_, hs.endsType⟩
    rw [TypeTree.node, Alternative.whole, he]
    refine shows_nodeAt (by simp only [TypeExpr.toNode, hn₁]; simp [hns]; rfl) ?_
    simp [relocate_none, he₁, hns', nodesOfPlains]

/-! ## type parameters -/

/-- A token behind the bound of a type parameter, or where the bound could stand. -/
def boundEnd (name : Ident) (bound : Option TypeExpr) (generics : Generics) (t : Token) : Option State :=
  match t.kind with
  | .equals => some (.type (.default name bound generics))
  | _ => typeParamEnd (.mk name bound none) generics t

/-- The place before the default of a type parameter, or where the default could stand. -/
def State.EndsBound (s : State) (name : Ident) (bound : Option TypeExpr) (generics : Generics) : Prop :=
  s.Ends [(text "=", .equals), (text ",", .comma), (text ">", .angleClose)] (boundEnd name bound generics)

/-- The bound of a type parameter, if there is one. -/
theorem takes_bound (name : Ident) (generics : Generics) {bound : Option TypeTree} (h : ∀ t ∈ bound, t.IsRead) :
    (State.typeParamNamed name generics).Takes (behindWord (text "extends") bound) fun s =>
      ∃ ty : Option TypeExpr, Option.Rel (fun ty t => Shows ty.toNode t.node) ty bound ∧
        s.EndsBound name ty generics := by
  cases bound with
  | none =>
    rw [behindWord]
    exact ⟨none, .none, .cons rfl (fun _ => rfl) (.cons rfl (fun _ => rfl) (.cons rfl (fun _ => rfl)
      (State.ends_nil _ _)))⟩
  | some t =>
    rw [behindWord]
    refine .cons (k := .extendsWord) rfl (fun _ => rfl) fun _ => (h t rfl _).mono ?_
    rintro s ⟨ty, hty, hs⟩
    exact ⟨some ty, .some hty, hs.ends.of_subset (by simp [closingSigns]) fun _ _ _ => rfl⟩

/-- The default of a type parameter, if there is one. -/
theorem takes_default {s : State} {name : Ident} {bound : Option TypeExpr} {generics : Generics}
    (hs : s.EndsBound name bound generics) {default : Option TypeTree} (h : ∀ t ∈ default, t.IsRead) :
    s.Takes (behindWord (text "=") default) fun s' =>
      ∃ ty : Option TypeExpr, Option.Rel (fun ty t => Shows ty.toNode t.node) ty default ∧
        s'.EndsTypeParam (.mk name bound ty) generics := by
  cases default with
  | none =>
    rw [behindWord]
    refine ⟨none, .none, State.Ends.of_subset hs (by simp) ?_⟩
    simp [boundEnd]
  | some t =>
    rw [behindWord]
    refine State.Ends.take hs (k := .equals) (by simp) (fun _ => rfl) ((h t rfl _).mono ?_)
    rintro s' ⟨ty, hty, hs'⟩
    exact ⟨some ty, .some hty, hs'.ends.of_subset (by simp [closingSigns]) fun _ _ _ => rfl⟩

theorem isRead_typeParam (name : Word) {bound default : Option TypeTree} (hbound : ∀ t ∈ bound, t.IsRead)
    (hdefault : ∀ t ∈ default, t.IsRead) : (TypeParamTree.mk name bound default).IsRead := by
  intro generics
  rw [TypeParamTree.words]
  refine .cons (scan_name_at [.name] rfl (by decide) (by decide) name) (fun _ => rfl) fun pos => ?_
  refine (takes_bound _ generics hbound).append ?_
  rintro s₁ ⟨ty₁, hty₁, hs₁⟩
  refine (takes_default hs₁ hdefault).mono ?_
  rintro s₂ ⟨ty₂, hty₂, hs₂⟩
  obtain ⟨n₁, hn₁, he₁⟩ := shows_optional hty₁
  obtain ⟨n₂, hn₂, he₂⟩ := shows_optional hty₂
  refine ⟨_, ?_, hs₂⟩
  rw [TypeParamTree.node]
  refine shows_nodeAt (by rw [TypeParam.toNode, hn₁, hn₂]; rfl) ?_
  simp [Value.relocate, relocate_none, he₁, he₂, Token.ident]

/-! ## parameters -/

theorem endsParam_parameterNamed (name : Ident) (optional : Bool) (params : Params) :
    (State.parameterNamed name optional params).EndsParam (.mk name optional none none) params := by
  cases optional <;> exact .cons rfl (fun _ => rfl) (.cons rfl (fun _ => rfl) (State.ends_nil _ _))

/-- The type of a parameter, if there is one. -/
theorem takes_declared (name : Ident) (optional : Bool) (params : Params) {declared : Option TypeTree}
    (h : ∀ t ∈ declared, t.IsRead) :
    (State.parameterNamed name optional params).Takes (behindWord (text ":") declared) fun s =>
      ∃ ty : Option TypeExpr, Option.Rel (fun ty t => Shows ty.toNode t.node) ty declared ∧
        s.EndsParam (.mk name optional ty none) params := by
  cases declared with
  | none =>
    rw [behindWord]
    exact ⟨none, .none, endsParam_parameterNamed name optional params⟩
  | some t =>
    rw [behindWord]
    have hstep (pos : Pos) : (State.parameterNamed name optional params).step ⟨.colon, text ":", pos⟩ =
        some (.type (.param name optional params)) := by
      cases optional <;> rfl
    refine .cons (by cases optional <;> rfl) hstep fun _ => (h t rfl _).mono ?_
    rintro s ⟨ty, hty, hs⟩
    refine ⟨some ty, .some hty, hs.ends.of_subset (by simp [closingSigns]) ?_⟩
    simp [Source.typeEnd]

theorem isRead_param (name : Word) (optional : Bool) {declared : Option TypeTree} (h : ∀ t ∈ declared, t.IsRead) :
    (ParamTree.mk name optional declared).IsRead := by
  intro s params hs
  have hscan : scan s.admits name.text = some (.token .name, name.text, []) := by
    rcases hs with rfl | rfl
    · exact scan_name_at [.name, .parenClose] rfl (by decide) (by decide) name
    · exact scan_name_at [.name] rfl (by decide) (by decide) name
  have hstep (pos : Pos) : s.step ⟨.name, name.text, pos⟩ = some (.parameterNamed ⟨name.text, pos⟩ false params) := by
    rcases hs with rfl | rfl <;> rfl
  have hquestion (pos : Pos) : (State.parameterNamed ⟨name.text, pos⟩ false params).Takes
      (if optional then [text "?"] else []) fun s' => s' = .parameterNamed ⟨name.text, pos⟩ optional params := by
    cases optional with
    | false => rfl
    | true => exact .cons (k := .question) rfl (fun _ => rfl) fun _ => rfl
  rw [ParamTree.words]
  refine .cons hscan hstep fun pos => (hquestion pos).append ?_
  rintro _ rfl
  refine (takes_declared _ optional params h).mono ?_
  rintro s' ⟨ty, hty, hs'⟩
  obtain ⟨n, hn, he⟩ := shows_optional hty
  refine ⟨_, ?_, hs'⟩
  rw [ParamTree.node]
  refine shows_nodeAt (by rw [Param.toNode, hn]; rfl) ?_
  simp [Value.relocate, relocate_none, he, optionalNode_none]

/-! ## function types -/

/-- Type parameters, if there are any; then the parameters can begin. -/
theorem takes_generics {typeParams : List TypeParamTree} (h : ∀ p ∈ typeParams, p.IsRead) (slot : TypeSlot) :
    (State.type slot).Takes (angled (wordsOfTypeParams typeParams)) fun s =>
      ∃ qs, List.Forall₂ (fun (q : TypeParam) p => Shows q.toNode p.node) qs typeParams ∧
        s.Takes [text "("] fun s' => ∃ pos, s' = .parameters (.mk (.type pos slot) qs []) := by
  rw [wordsOfTypeParams_eq_map]
  cases typeParams with
  | nil => exact ⟨[], .nil, .cons (k := .parenOpen) rfl (fun _ => rfl) fun pos => ⟨pos, rfl⟩⟩
  | cons p ps =>
    obtain ⟨hp, hps⟩ := List.forall_mem_cons.1 h
    refine .cons (k := .angleOpen) rfl (fun _ => rfl) fun pos => ?_
    refine (takes_separated (fun done => .typeParam (.mk (.callable (.type pos slot)) done))
      (fun done q s => s.EndsTypeParam q (.mk (.callable (.type pos slot)) done)) ?_ (hp _)
      fun p hp _ => hps p hp _).append ?_
    · intro done q s hs
      exact State.Ends.take hs (k := .comma) (by decide) (fun _ => rfl) rfl
    · rintro s ⟨done, q, hs, qs, hqs, he⟩
      refine State.Ends.take hs (k := .angleClose) (by decide) (fun _ => rfl) ⟨qs, hqs, ?_⟩
      rw [Generics.add, Generics.close, he]
      exact .cons (k := .parenOpen) rfl (fun _ => rfl) fun _ => ⟨pos, rfl⟩

/-- Parameters and the parenthesis behind them. -/
theorem takes_params {params : List ParamTree} (h : ∀ p ∈ params, p.IsRead) (target : Callable)
    (typeParams : List TypeParam) :
    (State.parameters (.mk target typeParams [])).Takes (separated (text ",") (wordsOfParams params) ++ [text ")"])
      fun s => ∃ qs, List.Forall₂ (fun (q : Param) p => Shows q.toNode p.node) qs params ∧
        s = .signatureEnd target typeParams qs := by
  rw [wordsOfParams_eq_map]
  cases params with
  | nil => exact .cons (k := .parenClose) rfl (fun _ => rfl) fun _ => ⟨[], .nil, rfl⟩
  | cons p ps =>
    obtain ⟨hp, hps⟩ := List.forall_mem_cons.1 h
    refine (takes_separated (fun done => .parameter (.mk target typeParams done))
      (fun done q s => s.EndsParam q (.mk target typeParams done)) ?_ (hp _ _ (.inl rfl))
      fun p hp _ => hps p hp _ _ (.inr rfl)).append ?_
    · intro done q s hs
      exact State.Ends.take hs (k := .comma) (by decide) (fun _ => rfl) rfl
    · rintro s ⟨done, q, hs, qs, hqs, he⟩
      refine State.Ends.take hs (k := .parenClose) (by decide) (fun _ => rfl) ⟨qs, hqs, ?_⟩
      rw [Params.add, Params.close, he]
      rfl

/-- A function type ends with its result. -/
theorem State.EndsType.function {s : State} {ty : TypeExpr} {pos : Pos} {typeParams : List TypeParam}
    {params : List Param} {slot : TypeSlot} (h : s.EndsType ty (.functionResult pos typeParams params slot)) :
    s.EndsType (.function pos typeParams params ty) slot :=
  ⟨h.canEnd, h.ends, h.terminated⟩

theorem isRead_function {typeParams : List TypeParamTree} {params : List ParamTree} {result : TypeTree}
    (htypeParams : ∀ p ∈ typeParams, p.IsRead) (hparams : ∀ p ∈ params, p.IsRead) (hresult : result.IsRead) :
    (TypeTree.function typeParams params result).IsRead := by
  intro slot
  -- The words in the groups that the lemmas above take.
  have hwords : (TypeTree.function typeParams params result).words =
      angled (wordsOfTypeParams typeParams) ++ ([text "("] ++
        ((separated (text ",") (wordsOfParams params) ++ [text ")"]) ++ ([text "=>"] ++ result.words))) := by
    rw [TypeTree.words]
    simp
  rw [hwords]
  refine (takes_generics htypeParams slot).append ?_
  rintro s₁ ⟨qs, hqs, hs₁⟩
  refine hs₁.append ?_
  rintro _ ⟨pos, rfl⟩
  refine (takes_params hparams _ qs).append ?_
  rintro _ ⟨rs, hrs, rfl⟩
  refine .cons (k := .arrow) rfl (fun _ => rfl) fun _ => (hresult _).mono ?_
  rintro s ⟨ty, ⟨n, hn, he⟩, hs⟩
  obtain ⟨ms, hms, hms'⟩ := shows_typeParams hqs
  obtain ⟨ns, hns, hns'⟩ := shows_params hrs
  refine ⟨_, ?_, hs.function⟩
  rw [TypeTree.node]
  refine shows_nodeAt (by rw [TypeExpr.toNode, hms, hns, hn]; rfl) ?_
  simp [Value.relocate, relocate_none, he, hms', hns']

/-! ## all types -/

mutual

/-- The words of a type are read as the type, wherever a type can stand. -/
theorem TypeTree.isRead : ∀ t : TypeTree, t.IsRead
  | .plain p => isRead_plain p.isRead
  | .union first second others => isRead_union first.isRead second.isRead (plains_isRead others)
  | .function typeParams params result =>
    isRead_function (typeParams_isRead typeParams) (params_isRead params) result.isRead

theorem PlainTree.isRead : ∀ p : PlainTree, p.IsRead
  | .reference name args => isRead_reference name (types_isRead args)
  | .qualified head second path args => isRead_qualified head second path (types_isRead args)
  | .number n short => isRead_number n short
  | .string value => isRead_string value
  | .array element => isRead_array element.isRead

theorem TypeParamTree.isRead : ∀ p : TypeParamTree, p.IsRead
  | .mk name bound default => isRead_typeParam name (type?_isRead bound) (type?_isRead default)

theorem ParamTree.isRead : ∀ p : ParamTree, p.IsRead
  | .mk name optional declared => isRead_param name optional (type?_isRead declared)

theorem type?_isRead : ∀ t : Option TypeTree, ∀ u ∈ t, u.IsRead
  | none => nofun
  | some t => by
    intro u hu
    rw [← Option.mem_some.1 hu]
    exact t.isRead

theorem types_isRead : ∀ ts : List TypeTree, ∀ t ∈ ts, t.IsRead
  | [] => nofun
  | t :: ts => List.forall_mem_cons.2 ⟨t.isRead, types_isRead ts⟩

theorem plains_isRead : ∀ ps : List PlainTree, ∀ p ∈ ps, p.IsRead
  | [] => nofun
  | p :: ps => List.forall_mem_cons.2 ⟨p.isRead, plains_isRead ps⟩

theorem typeParams_isRead : ∀ ps : List TypeParamTree, ∀ p ∈ ps, p.IsRead
  | [] => nofun
  | p :: ps => List.forall_mem_cons.2 ⟨p.isRead, typeParams_isRead ps⟩

theorem params_isRead : ∀ ps : List ParamTree, ∀ p ∈ ps, p.IsRead
  | [] => nofun
  | p :: ps => List.forall_mem_cons.2 ⟨p.isRead, params_isRead ps⟩

end

/-! ## declarations -/

theorem PlainTree.words_ne_nil : ∀ p : PlainTree, p.words ≠ []
  | .reference .. | .number .. | .string _ | .array _ => by simp [PlainTree.words]
  | .qualified .. => by simp [PlainTree.words, separated]

theorem TypeTree.words_ne_nil : ∀ t : TypeTree, t.words ≠ []
  | .plain p => by
    rw [TypeTree.words]
    exact p.words_ne_nil
  | .union first .. => by simp [TypeTree.words, separated, first.words_ne_nil]
  | .function .. => by simp [TypeTree.words]

/-- A type behind the name of a variable is the type of the variable, which has no value. -/
theorem parse_print (t : TypeTree) :
    ∃ (pos : Pos) (ty : TypeExpr), Shows ty.toNode t.node ∧ parse (text "let x : " ++ t.print) =
      .ok ⟨[.variables .start (text "let") [.mk ⟨text "x", pos⟩ (some ty) none]]⟩ := by
  have htext : text "let x : " ++ t.print = text "let" ++ spaced ([text "x", text ":"] ++ t.words) := by
    have hwords : spaced t.words = CodePoint.ofChar ' ' :: t.print := (blank_append_join t.words_ne_nil).symm
    rw [spaced, List.flatMap_append, ← spaced, ← spaced, hwords]
    rfl
  have htakes : (State.variable ⟨.start, text "let", []⟩ (.program [])).Takes ([text "x", text ":"] ++ t.words) fun s =>
      ∃ pos ty, Shows ty.toNode t.node ∧
        s.EndsType ty (.variable ⟨text "x", pos⟩ ⟨.start, text "let", []⟩ (.program [])) := by
    refine .cons (k := .name) rfl (fun _ => rfl) fun pos => .cons (k := .colon) rfl (fun _ => rfl) fun _ => ?_
    refine (t.isRead _).mono ?_
    rintro s ⟨ty, hty, hs⟩
    exact ⟨pos, ty, hty, hs⟩
  obtain ⟨s, hreads, pos, ty, hty, hs⟩ := htakes.reads (Pos.start.after (text "let"))
  refine ⟨pos, ty, hty, ?_⟩
  rw [htext, parse_eq_ok_iff]
  refine ⟨s, .cons (scan_append_spaced (k := .binderWord) rfl _) rfl hreads, ?_⟩
  rw [State.conclude?_eq_some, if_pos hs.canEnd]
  exact ⟨_, hs.terminated, rfl⟩

/-- The tree, without locations, of a source that declares one variable without a value. -/
def declaring (name : Text) (declared : Node) : Node :=
  bare .program [nodeList [bare .variableDeclaration
    [.text (text "let"), nodeList [bare .variableDeclarator [.text name, .node declared, .null]]]]]

theorem shows_declaring {ty : TypeExpr} {declared : Node} (h : Shows ty.toNode declared) (pos : Pos) (name : Ident) :
    Shows (Program.toNode ⟨[.variables pos (text "let") [.mk name (some ty) none]]⟩)
      (declaring name.text declared) := by
  obtain ⟨n, hn, rfl⟩ := h
  have hdeclarator : Declarator.toNode (.mk name (some ty) none) =
      .ok (nodeAt .variableDeclarator name.pos [.text name.text, .node n, .null]) := by
    rw [Declarator.toNode, optionalTypeNode, hn]
    rfl
  refine shows_nodeAt (by rw [Program.toNode, stmtNodes, Stmt.toNode, declaratorNodes, hdeclarator]; rfl) ?_
  simp [Node.unlocated, nodeAt, Node.relocate, bare, Value.relocate]

end TypeLint.Source

namespace TypeLint.Lint

open Source TypeLint.Tree

/-- The text of a type, behind the name of a variable, is read as the type, up to locations: the source is one
declaration of one variable without a value. -/
theorem parseSource_print (t : TypeTree) (path : Option Text) :
    ∃ root, parseSource (text "let x : " ++ t.print) path = .ok (.program root) ∧
      root.unlocated = declaring (text "x") t.node := by
  obtain ⟨pos, ty, hty, hparse⟩ := parse_print t
  obtain ⟨root, hroot, he⟩ := shows_declaring hty .start ⟨text "x", pos⟩
  exact ⟨root, parseSource_eq_program.2 ⟨_, hparse, hroot⟩, he⟩

end TypeLint.Lint
