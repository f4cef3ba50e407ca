import TypeLint.Proofs.Source.Past

/-!
# What can be read

From each place some words of terminals lead to the end of a program.  A word that is derived from a phrase leads from
before the phrase to behind it: put before a word that can be read behind the phrase, it gives a word that can be read
before it, wherever the phrase stands.

* `State.Accepts`, `Accepted` — a word leads to the end of a program, from a place or behind a phrase;
* `leading` — the words that lead from before phrases of one kind to behind them;
* `Nonterminal.future` — these words for each nonterminal;
* `Nonterminal.phrase_future_le` — they satisfy the rules of the grammar, so that each derived word is one of them;
* `Derives.accepts` — every derived program can be read from the start.
-/

namespace TypeLint.Source

open scoped Computability

/-- A place from which a word leads to the end of a program, whatever texts its terminals are read from. -/
def State.Accepts : State → List Terminal → Prop
  | s, [] => ∃ p, s = .complete p
  | s, k :: w => ∀ text pos, ∃ s', s.step ⟨k, text, pos⟩ = some s' ∧ s'.Accepts w

/-- A word whose first terminal is read by `f`, and that leads to the end of a program from there. -/
def Accepted (f : Token → Option State) : List Terminal → Prop
  | [] => False
  | k :: w => ∀ text pos, ∃ s', f ⟨k, text, pos⟩ = some s' ∧ s'.Accepts w

variable {u v : List Terminal}

theorem Accepted.accepts {s : State} (h : Accepted s.step v) : s.Accepts v := by
  cases v with
  | nil => exact h.elim
  | cons k v => exact h

/-- What reads everything that `f` reads, and in the same way, accepts what `f` accepts. -/
theorem Accepted.mono {f g : Token → Option State} (h : Accepted f v)
    (hfg : ∀ t s, f t = some s → g t = some s) : Accepted g v := by
  cases v with
  | nil => exact h
  | cons k v =>
    intro text pos
    obtain ⟨s, hs, ha⟩ := h text pos
    exact ⟨s, hfg _ _ hs, ha⟩

theorem Accepted.cons {f : Token → Option State} {k : Terminal} {next : Text → Pos → State}
    (hf : ∀ text pos, f ⟨k, text, pos⟩ = some (next text pos)) (h : ∀ text pos, Accepted (next text pos).step v) :
    Accepted f (k :: v) :=
  fun text pos => ⟨_, hf text pos, (h text pos).accepts⟩

/-- The words that lead from before a phrase to behind it: `before c` reads the first token of the phrase if it stands
in the context `c`, and `behind c a` reads the token that follows the phrase if it turned out to be `a`. -/
def leading {γ : Type} {α : γ → Type} (before : γ → Token → Option State)
    (behind : ∀ c, α c → Token → Option State) : Language Terminal :=
  {u | ∀ c v, (∀ a, Accepted (behind c a) v) → Accepted (before c) (u ++ v)}

/-! ## lists of phrases -/

/-- Phrases with commas between them, where the context is the list of those before. -/
theorem accepted_listed {α : Type} {before : List α → Token → Option State}
    {behind : List α → α → Token → Option State} {l : Language Terminal} (hl : l ≤ leading before behind)
    (hcomma : ∀ as a text pos, ∃ s, behind as a ⟨.comma, text, pos⟩ = some s ∧ s.step = before (a :: as))
    (hu : u ∈ l * (one .comma * l)∗) (as : List α) (hv : ∀ as a, Accepted (behind as a) v) :
    Accepted (before as) (u ++ v) := by
  obtain ⟨w, hw, _, ⟨ws, rfl, hws⟩, rfl⟩ := hu
  rw [List.append_assoc]
  refine hl hw as _ fun a => ?_
  -- what follows one of the phrases, whichever stand before it
  induction ws generalizing as a with
  | nil => exact hv as a
  | cons x ws ih =>
    obtain ⟨_, rfl, y, hy, rfl⟩ := hws x (by simp)
    simp only [List.flatten_cons, List.cons_append, List.nil_append, List.append_assoc]
    intro text pos
    obtain ⟨s, hs, hstep⟩ := hcomma as a text pos
    refine ⟨s, hs, Accepted.accepts ?_⟩
    rw [hstep]
    exact hl hy _ _ fun b => ih _ (fun z hz => hws z (by simp [hz])) b

/-- Phrases with terminators between them, where the context is the list of those before. -/
theorem accepted_lines {α : Type} (item : Entry → List α → State) {behind : List α → Token → Option State}
    {n : Nonterminal} {l : Nonterminal → Language Terminal}
    (hl : l n ≤ leading (fun c : Entry × List α => (item c.1 c.2).step) fun c a => behind (a :: c.2))
    (hterm : ∀ as text pos, behind as ⟨.terminator, text, pos⟩ = some (item .terminated as))
    (hbehind : ∀ e as t s, behind as t = some s → (item e as).step t = some s)
    (hu : u ∈ (Phrase.lines n).language l) (e : Entry) (as : List α) (hv : ∀ as, Accepted (behind as) v) :
    Accepted (item e as).step (u ++ v) := by
  obtain ⟨_, ⟨ts, rfl, hts⟩, _, ⟨_, ⟨ls, rfl, hls⟩, w, hw, rfl⟩, rfl⟩ := hu
  -- the last line, which has no terminator
  have hlast : ∀ e as, Accepted (item e as).step (w ++ v) := by
    intro e as
    rcases hw with rfl | hw
    · exact (hv as).mono (hbehind e as)
    · exact hl hw (e, as) v fun a => hv _
  -- terminators before a line change only how the line is entered
  have hterms : ∀ (ts : List (List Terminal)), (∀ t ∈ ts, t ∈ one .terminator) → ∀ {e as w},
      (∀ e, Accepted (item e as).step w) → Accepted (item e as).step (ts.flatten ++ w) := by
    intro ts hts e as w hw
    induction ts generalizing e with
    | nil => exact hw e
    | cons t ts ih =>
      obtain rfl : t = [.terminator] := hts t (by simp)
      exact .cons (fun text pos => hbehind e as _ _ (hterm as text pos))
        fun _ _ => ih fun t ht => hts t (by simp [ht])
  have hlines : ∀ e as, Accepted (item e as).step (ls.flatten ++ (w ++ v)) := by
    induction ls with
    | nil => exact hlast
    | cons x ls ih =>
      obtain ⟨y, hy, _, ⟨_, rfl, _, ⟨ts, rfl, hts⟩, rfl⟩, rfl⟩ := hls x (by simp)
      intro e as
      simp only [List.flatten_cons, List.append_assoc]
      refine hl hy (e, as) _ fun a => .cons (hterm _) fun _ _ => ?_
      exact hterms ts hts fun e => ih (fun z hz => hls z (by simp [hz])) e _
  simp only [List.append_assoc]
  exact hterms ts hts fun e => hlines e as

/-- With more statements, the last one first. -/
def Scope.addAll (ss : List Stmt) : Scope → Scope
  | .program done => .program (ss ++ done)
  | .block pos owner sig done => .block pos owner sig (ss ++ done)

theorem Scope.add_addAll (s : Stmt) (ss : List Stmt) (scope : Scope) :
    (scope.addAll ss).add s = scope.addAll (s :: ss) := by
  cases scope <;> rfl

theorem Scope.addAll_nil (scope : Scope) : scope.addAll [] = scope := by cases scope <;> rfl

/-- With more members, the last one first. -/
def Members.addAll (ms : List Member) : Members → Members
  | .mk owner typeParams heritage done => .mk owner typeParams heritage (ms ++ done)

theorem Members.add_addAll (m : Member) (ms : List Member) (members : Members) :
    (members.addAll ms).add m = members.addAll (m :: ms) := by
  cases members
  rfl

theorem Members.addAll_nil (members : Members) : members.addAll [] = members := by
  cases members
  rfl

/-! ## the words of each nonterminal -/

/-- Words that lead from before a statement to behind it. -/
def statementWords : Language Terminal :=
  leading (fun c : Entry × Scope => (State.statement c.1 c.2).step) fun c s => (c.2.add s).statementEnd

/-- Words that lead from before a member of a class to behind it. -/
def memberWords : Language Terminal :=
  leading (fun c : Entry × Members => (State.member c.1 c.2).step) fun c m => (c.2.add m).memberEnd

/-- Words that lead from before a type to behind it. -/
def typeWords : Language Terminal := leading typeBegin fun slot ty => typeEnd ty slot

/-- Words that lead from before a member of a union to behind it. -/
def alternativeWords : Language Terminal := leading alternativeBegin fun place ty => alternativeEnd ty place

/-- Words that lead from before an expression to behind it. -/
def expressionWords : Language Terminal := leading expressionBegin fun slot e => expressionEnd e slot

/-- Words that lead from before an operand to behind it. -/
def operandWords : Language Terminal := leading operandBegin fun place e => (State.operandEnd e place).step

/-- The words that lead from before a phrase to behind it, wherever the phrase stands. -/
def Nonterminal.future : Nonterminal → Language Terminal
  | .program => {u | Accepted (State.statement .opened (.program [])).step (u ++ [.finish])}
  | .stmts =>
    leading (fun c : Entry × Scope => (State.statement c.1 c.2).step) fun c ss => (c.2.addAll ss).statementEnd
  | .stmt | .varDecl | .functionDecl | .classDecl | .returnStmt | .exprStmt => statementWords
  | .varKind => one .binderWord
  | .declarator =>
    leading (fun c : Variables × Scope => (State.variable c.1 c.2).step) fun c d => variableEnd d c.1 c.2
  | .block =>
    one .braceOpen *
      leading (fun c : Pos × Owner × Signature => (State.statement .opened (.block c.1 c.2.1 c.2.2 [])).step)
        fun c body => (c.2.1.close c.2.2 body).step
  | .heritage =>
    one .extendsWord * leading (fun c : ClassOwner × List TypeParam => (State.base c.1 c.2).step)
      fun c h => (State.heritageEnd h c.1 c.2).step
  | .classBody =>
    one .braceOpen * leading (fun c : Members => (State.member .opened c).step) fun c ms => (c.addAll ms).close.step
  | .members =>
    leading (fun c : Entry × Members => (State.member c.1 c.2).step) fun c ms => (c.2.addAll ms).memberEnd
  | .member | .methodDef | .propertyDef => memberWords
  | .params =>
    leading (fun c : Callable × List TypeParam => (State.parameters (.mk c.1 c.2 [])).step)
      fun c (p : List Param × Param) => parameterEnd p.2 (.mk c.1 c.2 p.1)
  | .param => leading (fun params => (State.parameter params).step) fun params p => parameterEnd p params
  | .expr | .assign | .arrowFn => expressionWords
  | .arrowBody =>
    leading (fun c : Pos × Signature × Slot => (State.arrowBody c.1 c.2.1 c.2.2).step) fun c e => expressionEnd e c.2.2
  | .sum =>
    leading (fun slot : Slot => operandBegin slot.operand)
      fun slot (a : Expr × {place : Operand // place.addend.slot = slot}) => (State.operandEnd a.1 a.2).step
  | .term =>
    leading (fun addend => operandBegin (.first addend))
      fun addend (a : Expr × {place : Operand // place.addend = addend}) => (State.operandEnd a.1 a.2).step
  | .operand | .primary | .newExpr | .functionExpr | .classExpr => operandWords
  | .args =>
    leading (fun c : Callee × List TypeExpr × Operand => (State.arguments c.1 c.2.1 c.2.2).step)
      fun c (a : List Expr × Expr) => expressionEnd a.2 (.argument c.1 c.2.1 a.1 c.2.2)
  | .newCallee =>
    leading (fun c : Pos × Operand => (State.newWord c.1 c.2).step)
      fun c (a : Ident × List Ident) => (State.newNamed c.1 a.1 a.2 c.2).step
  | .type | .fnType => typeWords
  | .unionType =>
    leading typeBegin
      fun slot (a : TypeExpr × {place : Alternative // place.slot = slot}) => alternativeEnd a.1 a.2
  | .arrayType | .typeRef | .literalType => alternativeWords
  | .declaredType => one .colon * typeWords
  | .typeConstraint => one .extendsWord * typeWords
  | .typeDefault => one .equals * typeWords
  | .typeArgs =>
    one .angleOpen * leading (fun target => typeBegin (.argument target [])) fun target args => (target.close args).step
  | .typeParams =>
    one .angleOpen * leading (fun target => (State.typeParam (.mk target [])).step)
      fun target typeParams => (State.genericsEnd target typeParams).step
  | .typeParam => leading (fun generics => (State.typeParam generics).step) fun generics p => typeParamEnd p generics

/-! ## what cannot follow a phrase -/

section Follow

/-- A terminal of this kind can stand behind the phrase, if the phrase is complete. -/
def Focus.Precedes (k : Terminal) : Focus → Prop
  | .statementEnd _ => k ∈ [.terminator, .braceClose, .finish]
  | .memberEnd _ => k ∈ [.terminator, .braceClose]
  | .variableEnd .. => k ∈ [.comma, .terminator, .braceClose, .finish]
  | .parameterEnd .. => k ∈ [.comma, .parenClose]
  | .typeParamEnd .. => k ∈ [.comma, .angleClose]
  | .expressionEnd .. => k ∈ [.comma, .parenClose, .terminator, .braceClose, .finish]
  -- nothing that continues a union or an array can follow a type
  | .typeEnd .. => k ∉ [.bracketOpen, .bar, .dot, .angleOpen]
  | .alternativeEnd .. => k ∉ [.dot, .angleOpen]
  | _ => True

variable {t : Token} {s : State} {f g : Focus}

attribute [local simp] Focus.Precedes

theorem Focus.Consumes.precedes (h : f.Consumes t s) : f.Precedes t.kind := by
  cases h <;> simp [*]

theorem Focus.Passes.precedes {k : Terminal} (h : f.Passes k g) (hg : g.Precedes k) : f.Precedes k := by
  cases h <;> grind [Precedes]

theorem Focus.precedes_of_step (h : f.step t = some s) : f.Precedes t.kind := by
  induction Steps.of_step h with
  | consume consumes => exact consumes.precedes
  | pass passes steps ih => exact passes.precedes (ih steps.step_eq)

theorem Scope.kind_of_statementEnd {scope : Scope} (h : scope.statementEnd t = some s) :
    t.kind = .terminator ∨ t.kind = .braceClose ∨ t.kind = .finish := by
  simpa using Focus.precedes_of_step (f := .statementEnd scope) h

theorem Members.kind_of_memberEnd {members : Members} (h : members.memberEnd t = some s) :
    t.kind = .terminator ∨ t.kind = .braceClose := by
  simpa using Focus.precedes_of_step (f := .memberEnd members) h

theorem kind_of_parameterEnd {p : Param} {params : Params} (h : parameterEnd p params t = some s) :
    t.kind = .comma ∨ t.kind = .parenClose := by
  simpa using Focus.precedes_of_step (f := .parameterEnd p params) h

theorem kind_of_typeParamEnd {p : TypeParam} {generics : Generics} (h : typeParamEnd p generics t = some s) :
    t.kind = .comma ∨ t.kind = .angleClose := by
  simpa using Focus.precedes_of_step (f := .typeParamEnd p generics) h

theorem kind_of_variableEnd {d : Declarator} {vars : Variables} {scope : Scope}
    (h : variableEnd d vars scope t = some s) :
    t.kind = .comma ∨ t.kind = .terminator ∨ t.kind = .braceClose ∨ t.kind = .finish := by
  simpa using Focus.precedes_of_step (f := .variableEnd d vars scope) h

theorem kind_of_expressionEnd {e : Expr} {slot : Slot} (h : expressionEnd e slot t = some s) :
    t.kind = .comma ∨ t.kind = .parenClose ∨ t.kind = .terminator ∨ t.kind = .braceClose ∨ t.kind = .finish := by
  simpa using Focus.precedes_of_step (f := .expressionEnd e slot) h

theorem kind_of_typeEnd {ty : TypeExpr} {slot : TypeSlot} (h : typeEnd ty slot t = some s) :
    t.kind ≠ .bracketOpen ∧ t.kind ≠ .bar ∧ t.kind ≠ .dot ∧ t.kind ≠ .angleOpen := by
  simpa using Focus.precedes_of_step (f := .typeEnd ty slot) h

theorem kind_of_alternativeEnd {ty : TypeExpr} {place : Alternative} (h : alternativeEnd ty place t = some s) :
    t.kind ≠ .dot ∧ t.kind ≠ .angleOpen := by
  simpa using Focus.precedes_of_step (f := .alternativeEnd ty place) h

end Follow

/-! ## phrases that several rules share -/

section Shared

/-- An annotation and an initial value, which can both be absent, behind what `named` reads on from. -/
theorem accepted_declared {named : Token → Option State} {typeSlot : TypeSlot} (slot : Option TypeExpr → Slot)
    (behind : Option TypeExpr → Option Expr → Token → Option State)
    (hcolon : ∀ text pos, named ⟨.colon, text, pos⟩ = some (.type typeSlot))
    (hequals : ∀ text pos, named ⟨.equals, text, pos⟩ = some (.expression (slot none)))
    (hnamed : ∀ t s, behind none none t = some s → named t = some s)
    (htyped : ∀ ty text pos, typeEnd ty typeSlot ⟨.equals, text, pos⟩ = some (.expression (slot (some ty))))
    (htype : ∀ ty t s, behind (some ty) none t = some s → typeEnd ty typeSlot t = some s)
    (hslot : ∀ declared e, expressionEnd e (slot declared) = behind declared (some e))
    (hu : u ∈ (Phrase.all [.opt (.rule .declaredType), .opt .initial]).language Nonterminal.future)
    (hv : ∀ declared e, Accepted (behind declared e) v) : Accepted named (u ++ v) := by
  obtain ⟨a, ha, i, hi, rfl⟩ := hu
  -- the value, once the type is known
  have hinitial : ∀ {f : Token → Option State} {declared},
      (∀ text pos, f ⟨.equals, text, pos⟩ = some (.expression (slot declared))) →
      (∀ t s, behind declared none t = some s → f t = some s) → Accepted f (i ++ v) := by
    intro f declared hf hnone
    rcases hi with rfl | ⟨_, rfl, w, hw, rfl⟩
    · exact (hv declared none).mono hnone
    · refine .cons hf fun _ _ => hw (slot declared) v fun e => ?_
      have h := hv declared (some e)
      rwa [← hslot] at h
  rw [List.append_assoc]
  rcases ha with rfl | ⟨_, rfl, w, hw, rfl⟩
  · exact hinitial hequals hnamed
  · exact .cons hcolon fun _ _ => hw typeSlot _ fun ty => hinitial (htyped ty) (htype ty)

/-- Type parameters and parameters, where `before` reads the first bracket of them. -/
theorem accepted_parameters {before : Token → Option State} (target : Pos → Callable)
    (hparen : ∀ text pos, before ⟨.parenOpen, text, pos⟩ = some (.parameters (.mk (target pos) [] [])))
    (hangle : ∀ text pos, before ⟨.angleOpen, text, pos⟩ = some (.typeParam (.mk (.callable (target pos)) [])))
    (hu : u ∈ Phrase.parameters.language Nonterminal.future)
    (hv : ∀ pos typeParams params, Accepted (State.signatureEnd (target pos) typeParams params).step v) :
    Accepted before (u ++ v) := by
  obtain ⟨g, hg, _, ⟨_, rfl, _, ⟨w, hw, _, rfl, rfl⟩, rfl⟩, rfl⟩ := hu
  simp only [List.cons_append, List.nil_append, List.append_assoc]
  -- the parameters, once the type parameters are known
  have hparams : ∀ pos typeParams,
      Accepted (State.parameters (.mk (target pos) typeParams [])).step (w ++ .parenClose :: v) := by
    intro pos typeParams
    rcases hw with rfl | hw
    · exact .cons (fun _ _ => rfl) fun _ _ => hv pos typeParams _
    · exact hw (target pos, typeParams) _ fun p => .cons (fun _ _ => rfl) fun _ _ => hv pos typeParams _
  rcases hg with rfl | ⟨_, rfl, x, hx, rfl⟩
  · exact .cons hparen fun _ pos => hparams pos []
  · refine .cons hangle fun _ pos => ?_
    exact hx (.callable (target pos)) _ fun typeParams => .cons (fun _ _ => rfl) fun _ _ => hparams pos typeParams

/-- The result type and the body of a function that is not an arrow function. -/
theorem accepted_body {owner : Owner} (ho : ∀ pos slot, owner ≠ .arrow pos slot) {typeParams : List TypeParam}
    {params : List Param}
    (hu : u ∈ (Phrase.all [.opt (.rule .declaredType), .rule .block]).language Nonterminal.future)
    (hv : ∀ sig body, Accepted (owner.close sig body).step v) :
    Accepted (State.signatureEnd (.function owner) typeParams params).step (u ++ v) := by
  obtain ⟨a, ha, _, ⟨_, rfl, w, hw, rfl⟩, rfl⟩ := hu
  simp only [List.cons_append, List.nil_append, List.append_assoc]
  have hblock : ∀ {f : Token → Option State} (sig),
      (∀ text pos, f ⟨.braceOpen, text, pos⟩ = some (.statement .opened (.block pos owner sig []))) →
      Accepted f (.braceOpen :: (w ++ v)) := by
    intro f sig hf
    exact .cons hf fun _ pos => hw (pos, owner, sig) v fun body => hv sig body
  rcases ha with rfl | ⟨_, rfl, x, hx, rfl⟩
  · refine hblock (.mk typeParams params none) fun text pos => ?_
    cases owner with
    | arrow pos slot => exact absurd rfl (ho pos slot)
    | _ => rfl
  · refine .cons (fun _ _ => rfl) fun _ _ => hx (.result owner typeParams params) _ fun ty => ?_
    refine hblock (.mk typeParams params (some ty)) fun text pos => ?_
    cases owner with
    | arrow pos slot => exact absurd rfl (ho pos slot)
    | _ => rfl

/-- Type arguments and arguments, where `before` reads the first bracket of them. -/
theorem accepted_arguments {before : Token → Option State} {callee : Callee} {place : Operand}
    (hparen : ∀ text pos, before ⟨.parenOpen, text, pos⟩ = some (.arguments callee [] place))
    (hangle : ∀ text pos, before ⟨.angleOpen, text, pos⟩ = some (.type (.argument (.callee callee place) [])))
    (hu : u ∈ Phrase.arguments.language Nonterminal.future)
    (hv : ∀ e, Accepted (State.operandEnd e place).step v) : Accepted before (u ++ v) := by
  obtain ⟨g, hg, _, ⟨_, rfl, _, ⟨w, hw, _, rfl, rfl⟩, rfl⟩, rfl⟩ := hu
  simp only [List.cons_append, List.nil_append, List.append_assoc]
  have hargs : ∀ typeArgs, Accepted (State.arguments callee typeArgs place).step (w ++ .parenClose :: v) := by
    intro typeArgs
    rcases hw with rfl | hw
    · exact .cons (fun _ _ => rfl) fun _ _ => hv _
    · exact hw (callee, typeArgs, place) _ fun a => .cons (fun _ _ => rfl) fun _ _ => hv _
  rcases hg with rfl | ⟨_, rfl, x, hx, rfl⟩
  · exact .cons hparen fun _ _ => hargs []
  · refine .cons hangle fun _ _ => ?_
    exact hx (.callee callee place) _ fun typeArgs => .cons (fun _ _ => rfl) fun _ _ => hargs typeArgs

/-- A class from its type parameters on. -/
theorem accepted_class {owner : ClassOwner}
    (hu : u ∈ (Phrase.all [.opt (.rule .typeParams), .opt (.rule .heritage), .rule .classBody]).language
      Nonterminal.future)
    (hv : ∀ typeParams heritage ms, Accepted (Members.mk owner typeParams heritage ms).close.step v) :
    Accepted (classHeadBegin owner) (u ++ v) := by
  obtain ⟨g, hg, _, ⟨b, hb, _, ⟨_, rfl, w, hw, rfl⟩, rfl⟩, rfl⟩ := hu
  simp only [List.cons_append, List.nil_append, List.append_assoc]
  have hbody : ∀ {f : Token → Option State} {typeParams heritage},
      (∀ text pos, f ⟨.braceOpen, text, pos⟩ = some (classBegin owner typeParams heritage)) →
      Accepted f (.braceOpen :: (w ++ v)) := by
    intro f typeParams heritage hf
    exact .cons hf fun _ _ => hw (.mk owner typeParams heritage []) v fun ms => hv typeParams heritage _
  have hheritage : ∀ {f : Token → Option State} {typeParams},
      (∀ text pos, f ⟨.extendsWord, text, pos⟩ = some (.base owner typeParams)) →
      (∀ text pos, f ⟨.braceOpen, text, pos⟩ = some (classBegin owner typeParams none)) →
      Accepted f (b ++ .braceOpen :: (w ++ v)) := by
    intro f typeParams hextends hbrace
    rcases hb with rfl | ⟨_, rfl, x, hx, rfl⟩
    · exact hbody hbrace
    · exact .cons hextends fun _ _ => hx (owner, typeParams) _ fun h => hbody fun _ _ => rfl
  rcases hg with rfl | ⟨_, rfl, x, hx, rfl⟩
  · exact hheritage (fun _ _ => rfl) fun _ _ => rfl
  · refine .cons (fun _ _ => rfl) fun _ _ => hx (.ofClass owner) _ fun typeParams => ?_
    exact hheritage (fun _ _ => rfl) fun _ _ => rfl

/-- A name with points, where `named` is the place behind a part of it and `pointed` the one behind a point. -/
theorem accepted_dotted {before : Token → Option State} (named pointed : Ident → List Ident → State)
    (hbefore : ∀ text pos, before ⟨.name, text, pos⟩ = some (named ⟨text, pos⟩ []))
    (hdot : ∀ head path text pos, (named head path).step ⟨.dot, text, pos⟩ = some (pointed head path))
    (hname : ∀ head path text pos,
      (pointed head path).step ⟨.name, text, pos⟩ = some (named head (⟨text, pos⟩ :: path)))
    (hu : u ∈ Phrase.dotted.language Nonterminal.future)
    (hv : ∀ head path, Accepted (named head path).step v) : Accepted before (u ++ v) := by
  obtain ⟨_, rfl, _, ⟨ws, rfl, hws⟩, rfl⟩ := hu
  refine .cons hbefore fun text pos => ?_
  generalize (⟨text, pos⟩ : Ident) = head
  generalize ([] : List Ident) = path
  induction ws generalizing path with
  | nil => exact hv head path
  | cons w ws ih =>
    obtain ⟨_, rfl, _, rfl, rfl⟩ := hws w (by simp)
    refine .cons (hdot head path) fun _ _ => .cons (hname head path) fun _ _ => ?_
    exact ih (fun z hz => hws z (by simp [hz])) _

end Shared

/-! ## the rules -/

section Rules

theorem program_future_le : Nonterminal.stmts.future ≤ Nonterminal.program.future := by
  intro u hu
  exact hu (.opened, .program []) _ fun ss => fun text pos => ⟨_, rfl, _, rfl⟩

theorem stmts_future_le : (Phrase.lines .stmt).language Nonterminal.future ≤ Nonterminal.stmts.future := by
  rintro u hu ⟨e, scope⟩ v hv
  rw [← scope.addAll_nil]
  refine accepted_lines (fun e ss => .statement e (scope.addAll ss)) ?_ (fun _ _ _ => rfl) ?_ hu e [] hv
  · intro w hw c v hv
    refine hw (c.1, scope.addAll c.2) v fun s => ?_
    simpa only [Scope.add_addAll] using hv s
  · intro e ss t s h
    rcases Scope.kind_of_statementEnd h with hk | hk | hk <;> simpa [State.step, Scope.statementEnd, hk] using h

theorem members_future_le : (Phrase.lines .member).language Nonterminal.future ≤ Nonterminal.members.future := by
  rintro u hu ⟨e, members⟩ v hv
  rw [← members.addAll_nil]
  refine accepted_lines (fun e ms => .member e (members.addAll ms)) ?_ (fun _ _ _ => rfl) ?_ hu e [] hv
  · intro w hw c v hv
    refine hw (c.1, members.addAll c.2) v fun m => ?_
    simpa only [Members.add_addAll] using hv m
  · intro e ms t s h
    rcases Members.kind_of_memberEnd h with hk | hk <;> simpa [State.step, Members.memberEnd, hk] using h

theorem State.Accepts.mono {s s' : State} {w : List Terminal} (h : s.Accepts w) (hs : ∀ p, s ≠ .complete p)
    (hstep : ∀ t s₁, s.step t = some s₁ → s'.step t = some s₁) : s'.Accepts w := by
  cases w with
  | nil =>
    obtain ⟨p, hp⟩ := h
    exact absurd hp (hs p)
  | cons k w =>
    have h : Accepted s.step (k :: w) := h
    exact (h.mono hstep).accepts

/-- An expression can be a statement: a word that also starts a declaration is told apart by what follows it. -/
theorem expressionWords_le : expressionWords ≤ statementWords := by
  rintro u hu ⟨e, scope⟩ v hv
  have h : Accepted (expressionBegin (.statement scope)) (u ++ v) := hu (.statement scope) v fun e => hv (.expr e)
  cases hw : u ++ v with
  | nil => simp [hw, Accepted] at h
  | cons k w =>
    rw [hw] at h
    intro text pos
    obtain ⟨s, hs, ha⟩ := h text pos
    by_cases hf : k = .functionWord
    · subst hf
      obtain rfl := Option.some.inj hs
      refine ⟨.functionWord pos scope, rfl, ha.mono (by simp) fun t s₁ h => ?_⟩
      have hk : t.kind ≠ .name := by
        intro hk
        simp [State.step, signatureBegin, hk] at h
      simpa [State.step, hk] using h
    by_cases hc : k = .classWord
    · subst hc
      obtain rfl := Option.some.inj hs
      refine ⟨.classWord pos scope, rfl, ha.mono (by simp) fun t s₁ h => ?_⟩
      have hk : t.kind ≠ .name := by
        intro hk
        simp [State.step, classHeadBegin, hk] at h
      simpa [State.step, hk] using h
    · refine ⟨s, ?_, ha⟩
      cases k <;> simp_all [State.step, expressionBegin, operandBegin]

open Phrase in
theorem varDecl_future_le :
    (all [.rule .varKind, listed .declarator]).language Nonterminal.future ≤ statementWords := by
  rintro _ ⟨_, rfl, w, hw, rfl⟩ ⟨e, scope⟩ v hv
  refine .cons (fun _ _ => rfl) fun text pos => ?_
  have hl : Nonterminal.declarator.future ≤ leading (fun ds => (State.variable ⟨pos, text, ds⟩ scope).step)
      fun ds d => variableEnd d ⟨pos, text, ds⟩ scope := fun w hw ds v hv => hw (_, scope) v hv
  refine accepted_listed hl (fun _ _ _ _ => ⟨_, rfl, rfl⟩) hw [] fun ds d => ?_
  refine Accepted.mono (hv (Variables.add d ⟨pos, text, ds⟩).toStmt) fun t s h => ?_
  have hk : t.kind ≠ .comma := by rcases Scope.kind_of_statementEnd h with hk | hk | hk <;> simp [hk]
  simpa [variableEnd, hk] using h

open Phrase in
theorem declarator_future_le :
    (all [.terminal .name, .opt (.rule .declaredType), .opt initial]).language Nonterminal.future ≤
      Nonterminal.declarator.future := by
  rintro _ ⟨_, rfl, w, hw, rfl⟩ ⟨vars, scope⟩ v hv
  refine .cons (fun _ _ => rfl) fun text pos => ?_
  generalize Token.ident _ = name
  refine accepted_declared (fun declared => .initial name declared vars scope)
    (fun declared e => variableEnd (.mk name declared e) vars scope)
    (fun _ _ => rfl) (fun _ _ => rfl) ?_ (fun _ _ _ => rfl) ?_ (fun _ _ => rfl) hw fun declared e => hv _
  · intro t s h
    rcases kind_of_variableEnd h with hk | hk | hk | hk <;> simpa [State.step, hk] using h
  · intro ty t s h
    rcases kind_of_variableEnd h with hk | hk | hk | hk <;> simpa [typeEnd, hk] using h

open Phrase in
theorem param_future_le :
    (all [.terminal .name, .opt (.terminal .question), .opt (.rule .declaredType), .opt initial]).language
      Nonterminal.future ≤ Nonterminal.param.future := by
  rintro _ ⟨_, rfl, _, ⟨q, hq, w, hw, rfl⟩, rfl⟩ params v hv
  simp only [List.cons_append, List.nil_append, List.append_assoc]
  refine .cons (fun _ _ => rfl) fun text pos => ?_
  generalize Token.ident _ = name
  have hnamed : ∀ optional, Accepted (State.parameterNamed name optional params).step (w ++ v) := by
    intro optional
    refine accepted_declared (fun declared => .default name optional declared params)
      (fun declared e => parameterEnd (.mk name optional declared e) params)
      (fun _ _ => rfl) (fun _ _ => rfl) ?_ (fun _ _ _ => rfl) ?_ (fun _ _ => rfl) hw fun declared e => hv _
    · intro t s h
      rcases kind_of_parameterEnd h with hk | hk <;> simpa [State.step, hk] using h
    · intro ty t s h
      rcases kind_of_parameterEnd h with hk | hk <;> simpa [typeEnd, hk] using h
  rcases hq with rfl | rfl
  · exact hnamed false
  · exact .cons (fun _ _ => rfl) fun _ _ => hnamed true

open Phrase in
theorem propertyDef_future_le :
    (all [.terminal .name, .opt (.terminal .question), .opt (.rule .declaredType), .opt initial]).language
      Nonterminal.future ≤ memberWords := by
  rintro _ ⟨_, rfl, _, ⟨q, hq, w, hw, rfl⟩, rfl⟩ ⟨e, members⟩ v hv
  simp only [List.cons_append, List.nil_append, List.append_assoc]
  refine .cons (fun _ _ => rfl) fun text pos => ?_
  generalize Token.ident _ = name
  have hnamed : ∀ {named : Token → Option State} {optional},
      (∀ text pos, named ⟨.colon, text, pos⟩ = some (.type (.property name optional members))) →
      (∀ text pos, named ⟨.equals, text, pos⟩ = some (.expression (.property name optional none members))) →
      (∀ t s, (members.add (.property name optional none none)).memberEnd t = some s → named t = some s) →
      Accepted named (w ++ v) := by
    intro named optional hcolon hequals hnone
    refine accepted_declared (fun declared => .property name optional declared members)
      (fun declared e => (members.add (.property name optional declared e)).memberEnd)
      hcolon hequals hnone (fun _ _ _ => rfl) ?_ (fun _ _ => rfl) hw fun declared e => hv _
    intro ty t s h
    rcases Members.kind_of_memberEnd h with hk | hk <;> simpa [typeEnd, hk] using h
  rcases hq with rfl | rfl
  · refine hnamed (fun _ _ => rfl) (fun _ _ => rfl) fun t s h => ?_
    rcases Members.kind_of_memberEnd h with hk | hk <;> simpa [State.step, hk] using h
  · refine .cons (fun _ _ => rfl) fun _ _ => hnamed (fun _ _ => rfl) (fun _ _ => rfl) fun t s h => ?_
    rcases Members.kind_of_memberEnd h with hk | hk <;> simpa [State.step, hk] using h

open Phrase in
theorem functionDecl_future_le :
    (all [.terminal .functionWord, .terminal .name, parameters, .opt (.rule .declaredType), .rule .block]).language
      Nonterminal.future ≤ statementWords := by
  rintro _ ⟨_, rfl, _, ⟨_, rfl, _, ⟨p, hp, w, hw, rfl⟩, rfl⟩, rfl⟩ ⟨e, scope⟩ v hv
  simp only [List.cons_append, List.nil_append, List.append_assoc]
  refine .cons (fun _ _ => rfl) fun _ pos => .cons (fun _ _ => rfl) fun text pos' => ?_
  refine accepted_parameters (fun _ => _) (fun _ _ => rfl) (fun _ _ => rfl) hp fun _ typeParams params => ?_
  exact accepted_body (by simp) hw fun sig body => hv _

open Phrase in
theorem methodDef_future_le :
    (all [.terminal .name, parameters, .opt (.rule .declaredType), .rule .block]).language Nonterminal.future ≤
      memberWords := by
  rintro _ ⟨_, rfl, _, ⟨p, hp, w, hw, rfl⟩, rfl⟩ ⟨e, members⟩ v hv
  simp only [List.cons_append, List.nil_append, List.append_assoc]
  refine .cons (fun _ _ => rfl) fun text pos => ?_
  refine accepted_parameters (fun _ => _) (fun _ _ => rfl) (fun _ _ => rfl) hp fun _ typeParams params => ?_
  exact accepted_body (by simp) hw fun sig body => hv _

open Phrase in
theorem functionExpr_future_le :
    (all [.terminal .functionWord, parameters, .opt (.rule .declaredType), .rule .block]).language
      Nonterminal.future ≤ operandWords := by
  rintro _ ⟨_, rfl, _, ⟨p, hp, w, hw, rfl⟩, rfl⟩ place v hv
  simp only [List.cons_append, List.nil_append, List.append_assoc]
  refine .cons (fun _ _ => rfl) fun _ pos => ?_
  refine accepted_parameters (fun _ => _) (fun _ _ => rfl) (fun _ _ => rfl) hp fun _ typeParams params => ?_
  exact accepted_body (by simp) hw fun sig body => hv _

open Phrase in
theorem classDecl_future_le :
    (all [.terminal .classWord, .terminal .name, .opt (.rule .typeParams), .opt (.rule .heritage),
      .rule .classBody]).language Nonterminal.future ≤ statementWords := by
  rintro _ ⟨_, rfl, _, ⟨_, rfl, w, hw, rfl⟩, rfl⟩ ⟨e, scope⟩ v hv
  refine .cons (fun _ _ => rfl) fun _ pos => .cons (fun _ _ => rfl) fun text pos' => ?_
  exact accepted_class hw fun typeParams heritage ms => hv _

open Phrase in
theorem classExpr_future_le :
    (all [.terminal .classWord, .opt (.rule .typeParams), .opt (.rule .heritage), .rule .classBody]).language
      Nonterminal.future ≤ operandWords := by
  rintro _ ⟨_, rfl, w, hw, rfl⟩ place v hv
  refine .cons (fun _ _ => rfl) fun _ pos => ?_
  exact accepted_class hw fun typeParams heritage ms => hv _

open Phrase in
theorem block_future_le :
    (all [.terminal .braceOpen, .rule .stmts, .terminal .braceClose]).language Nonterminal.future ≤
      Nonterminal.block.future := by
  rintro _ ⟨_, rfl, _, ⟨w, hw, _, rfl, rfl⟩, rfl⟩
  refine ⟨_, rfl, _, fun ⟨pos, owner, sig⟩ v hv => ?_, rfl⟩
  rw [List.append_assoc]
  exact hw (.opened, .block pos owner sig []) _ fun ss => .cons (fun _ _ => rfl) fun _ _ => hv _

open Phrase in
theorem classBody_future_le :
    (all [.terminal .braceOpen, .rule .members, .terminal .braceClose]).language Nonterminal.future ≤
      Nonterminal.classBody.future := by
  rintro _ ⟨_, rfl, _, ⟨w, hw, _, rfl, rfl⟩, rfl⟩
  refine ⟨_, rfl, _, fun members v hv => ?_, rfl⟩
  rw [List.append_assoc]
  exact hw (.opened, members) _ fun ms => .cons (fun _ _ => rfl) fun _ _ => hv _

open Phrase in
theorem heritage_future_le :
    (all [.terminal .extendsWord, .terminal .name, .opt (.rule .typeArgs)]).language Nonterminal.future ≤
      Nonterminal.heritage.future := by
  rintro _ ⟨_, rfl, _, ⟨_, rfl, w, hw, rfl⟩, rfl⟩
  refine ⟨_, rfl, _, fun ⟨owner, typeParams⟩ v hv => ?_, rfl⟩
  refine .cons (fun _ _ => rfl) fun text pos => ?_
  generalize Token.ident _ = root
  rcases hw with rfl | ⟨_, rfl, x, hx, rfl⟩
  · refine Accepted.mono (hv (.mk root [])) fun t s h => ?_
    have hk : t.kind = .braceOpen := by
      simp only [State.step] at h
      split at h <;> simp_all
    simpa [State.step, hk] using h
  · exact .cons (fun _ _ => rfl) fun _ _ => hx (.heritage root owner typeParams) v fun args => hv _

open Phrase in
theorem returnStmt_future_le :
    (all [.terminal .returnWord, .opt (.rule .expr)]).language Nonterminal.future ≤ statementWords := by
  rintro _ ⟨_, rfl, w, hw, rfl⟩ ⟨e, scope⟩ v hv
  refine .cons (fun _ _ => rfl) fun _ pos => ?_
  rcases hw with rfl | hw
  · refine Accepted.mono (hv (.ret pos none)) fun t s h => ?_
    rcases Scope.kind_of_statementEnd h with hk | hk | hk <;> simpa [State.step, hk] using h
  · refine Accepted.mono (hw (.returned pos scope) v fun e => hv _) fun t s h => ?_
    have hk : t.kind ≠ .terminator ∧ t.kind ≠ .braceClose ∧ t.kind ≠ .finish := by
      refine ⟨?_, ?_, ?_⟩ <;> intro hk <;> simp [expressionBegin, operandBegin, hk] at h
    simpa [State.step, hk] using h

theorem params_future_le : (Phrase.listed .param).language Nonterminal.future ≤ Nonterminal.params.future := by
  rintro u hu ⟨target, typeParams⟩ v hv
  have hl : Nonterminal.param.future ≤ leading (fun ps => (State.parameter (.mk target typeParams ps)).step)
      fun ps p => parameterEnd p (.mk target typeParams ps) := fun w hw ps v hv => hw _ v hv
  refine (accepted_listed hl (fun _ _ _ _ => ⟨_, rfl, rfl⟩) hu [] fun ps p => hv (ps, p)).mono fun t s h => ?_
  simp only [State.step] at h ⊢
  split at h
  · simp [*]
  · simp at h

theorem args_future_le : (Phrase.listed .expr).language Nonterminal.future ≤ Nonterminal.args.future := by
  rintro u hu ⟨callee, typeArgs, place⟩ v hv
  have hl : Nonterminal.expr.future ≤ leading (fun es => expressionBegin (.argument callee typeArgs es place))
      fun es e => expressionEnd e (.argument callee typeArgs es place) := fun w hw es v hv => hw _ v hv
  refine (accepted_listed hl (fun _ _ _ _ => ⟨_, rfl, rfl⟩) hu [] fun es e => hv (es, e)).mono fun t s h => ?_
  have hk : t.kind ≠ .parenClose := by
    intro hk
    simp [expressionBegin, operandBegin, hk] at h
  simpa [State.step, hk] using h

open Phrase in
theorem typeArgs_future_le :
    (all [.terminal .angleOpen, listed .type, .terminal .angleClose]).language Nonterminal.future ≤
      Nonterminal.typeArgs.future := by
  rintro _ ⟨_, rfl, _, ⟨w, hw, _, rfl, rfl⟩, rfl⟩
  refine ⟨_, rfl, _, fun target v hv => ?_, rfl⟩
  rw [List.append_assoc]
  have hl : Nonterminal.type.future ≤ leading (fun ts => typeBegin (.argument target ts))
      fun ts ty => typeEnd ty (.argument target ts) := fun w hw ts v hv => hw _ v hv
  exact accepted_listed hl (fun _ _ _ _ => ⟨_, rfl, rfl⟩) hw [] fun ts ty => .cons (fun _ _ => rfl) fun _ _ => hv _

open Phrase in
theorem typeParams_future_le :
    (all [.terminal .angleOpen, listed .typeParam, .terminal .angleClose]).language Nonterminal.future ≤
      Nonterminal.typeParams.future := by
  rintro _ ⟨_, rfl, _, ⟨w, hw, _, rfl, rfl⟩, rfl⟩
  refine ⟨_, rfl, _, fun target v hv => ?_, rfl⟩
  rw [List.append_assoc]
  have hl : Nonterminal.typeParam.future ≤ leading (fun ps => (State.typeParam (.mk target ps)).step)
      fun ps p => typeParamEnd p (.mk target ps) := fun w hw ps v hv => hw _ v hv
  exact accepted_listed hl (fun _ _ _ _ => ⟨_, rfl, rfl⟩) hw [] fun ps p => .cons (fun _ _ => rfl) fun _ _ => hv _

open Phrase in
theorem typeParam_future_le :
    (all [.terminal .name, .opt (.rule .typeConstraint), .opt (.rule .typeDefault)]).language Nonterminal.future ≤
      Nonterminal.typeParam.future := by
  rintro _ ⟨_, rfl, _, ⟨b, hb, d, hd, rfl⟩, rfl⟩ generics v hv
  simp only [List.cons_append, List.nil_append, List.append_assoc]
  refine .cons (fun _ _ => rfl) fun _ _ => ?_
  generalize Token.ident _ = name
  have hdefault : ∀ {f : Token → Option State} {bound},
      (∀ text pos, f ⟨.equals, text, pos⟩ = some (.type (.default name bound generics))) →
      (∀ t s, typeParamEnd (.mk name bound none) generics t = some s → f t = some s) → Accepted f (d ++ v) := by
    intro f bound hf hnone
    rcases hd with rfl | ⟨_, rfl, w, hw, rfl⟩
    · exact (hv (.mk name bound none)).mono hnone
    · exact .cons hf fun _ _ => hw (.default name bound generics) v fun ty => hv _
  rcases hb with rfl | ⟨_, rfl, w, hw, rfl⟩
  · refine hdefault (fun _ _ => rfl) fun t s h => ?_
    rcases kind_of_typeParamEnd h with hk | hk <;> simpa [State.step, hk] using h
  · refine .cons (fun _ _ => rfl) fun _ _ => hw (.bound name generics) _ fun ty => ?_
    refine hdefault (fun _ _ => rfl) fun t s h => ?_
    rcases kind_of_typeParamEnd h with hk | hk <;> simpa [typeEnd, hk] using h

open Phrase in
theorem newCallee_future_le : dotted.language Nonterminal.future ≤ Nonterminal.newCallee.future := by
  rintro u hu ⟨pos, place⟩ v hv
  exact accepted_dotted (fun head path => .newNamed pos head path place) (fun head path => .newPath pos head path place)
    (fun _ _ => rfl) (fun _ _ _ _ => rfl) (fun _ _ _ _ => rfl) hu fun head path => hv (head, path)

open Phrase in
theorem newExpr_future_le :
    (all [.terminal .newWord, .rule .newCallee, arguments]).language Nonterminal.future ≤ operandWords := by
  rintro _ ⟨_, rfl, _, ⟨c, hc, w, hw, rfl⟩, rfl⟩ place v hv
  simp only [List.cons_append, List.nil_append, List.append_assoc]
  refine .cons (fun _ _ => rfl) fun _ pos => hc (pos, place) _ fun ⟨head, path⟩ => ?_
  exact accepted_arguments (fun _ _ => rfl) (fun _ _ => rfl) hw hv

open Phrase in
theorem primary_future_le :
    (any (.terminal .name) [.terminal .number, .terminal .string, .rule .newExpr, .rule .functionExpr,
      .rule .classExpr]).language Nonterminal.future ≤ operandWords := by
  rintro _ (rfl | rfl | rfl | h | h | h) place v hv
  · exact .cons (fun _ _ => rfl) fun _ _ => hv _
  · exact .cons (fun _ _ => rfl) fun _ _ => hv _
  · exact .cons (fun _ _ => rfl) fun _ _ => hv _
  · exact h place v hv
  · exact h place v hv
  · exact h place v hv

open Phrase in
theorem operand_future_le :
    (any (.rule .primary) [all [.rule .operand, .terminal .dot, .terminal .name],
      all [.rule .operand, arguments]]).language Nonterminal.future ≤ operandWords := by
  rintro _ (h | ⟨u, hu, _, ⟨_, rfl, _, rfl, rfl⟩, rfl⟩ | ⟨u, hu, w, hw, rfl⟩) place v hv
  · exact h place v hv
  · rw [List.append_assoc]
    exact hu place _ fun e => .cons (fun _ _ => rfl) fun _ _ => .cons (fun _ _ => rfl) fun _ _ => hv _
  · rw [List.append_assoc]
    exact hu place _ fun e => accepted_arguments (fun _ _ => rfl) (fun _ _ => rfl) hw hv

open Phrase in
theorem term_future_le :
    (any (.rule .operand) [all [.rule .term, .terminal .mulOp, .rule .operand]]).language Nonterminal.future ≤
      Nonterminal.term.future := by
  rintro _ (h | ⟨u, hu, _, ⟨_, rfl, w, hw, rfl⟩, rfl⟩) addend v hv
  · exact h (.first addend) v fun e => hv (e, ⟨.first addend, rfl⟩)
  · rw [List.append_assoc]
    refine hu addend _ fun ⟨e, place, hplace⟩ => ?_
    subst hplace
    exact .cons (fun _ _ => rfl) fun _ _ => hw (.next _ _ place.addend) v fun e' => hv (e', ⟨.next _ _ _, rfl⟩)

open Phrase in
theorem sum_future_le :
    (any (.rule .term) [all [.rule .sum, .terminal .addOp, .rule .term]]).language Nonterminal.future ≤
      Nonterminal.sum.future := by
  rintro _ (h | ⟨u, hu, _, ⟨_, rfl, w, hw, rfl⟩, rfl⟩) slot v hv
  · exact h (.first slot) v fun ⟨e, place, hplace⟩ => hv (e, ⟨place, by rw [hplace]; rfl⟩)
  · rw [List.append_assoc]
    refine hu slot _ fun ⟨e, place, hplace⟩ => ?_
    subst hplace
    refine .cons (fun _ _ => rfl) fun _ _ => hw (.next _ _ place.addend.slot) v fun ⟨e', place', hplace'⟩ => ?_
    exact hv (e', ⟨place', by rw [hplace']; rfl⟩)

/-- What follows an expression does not continue its last operand. -/
theorem step_operandEnd_of_expressionEnd {e : Expr} {place : Operand} {t : Token} {s : State}
    (h : expressionEnd (place.addend.sum (place.term e)) place.addend.slot t = some s) :
    (State.operandEnd e place).step t = some s := by
  rcases kind_of_expressionEnd h with hk | hk | hk | hk | hk <;> simpa [State.step, operandEnd, hk] using h

open Phrase in
theorem assign_future_le :
    (any (.rule .sum) [all [.rule .operand, .terminal .equals, .rule .assign], .rule .arrowFn]).language
      Nonterminal.future ≤ expressionWords := by
  -- what starts an operand starts an expression
  have hbegin : ∀ (slot : Slot) t s, operandBegin slot.operand t = some s → expressionBegin slot t = some s := by
    intro slot t s h
    have hk : t.kind ≠ .parenOpen ∧ t.kind ≠ .angleOpen := by
      constructor <;> intro hk <;> simp [operandBegin, hk] at h
    simpa [expressionBegin, hk] using h
  rintro _ (h | ⟨u, hu, _, ⟨_, rfl, w, hw, rfl⟩, rfl⟩ | h) slot v hv
  · refine Accepted.mono (h slot v fun ⟨e, place, hplace⟩ => ?_) (hbegin slot)
    subst hplace
    exact (hv _).mono fun t s => step_operandEnd_of_expressionEnd
  · rw [List.append_assoc]
    refine Accepted.mono (hu slot.operand _ fun e => ?_) (hbegin slot)
    exact .cons (fun _ _ => rfl) fun _ _ => hw (.assigned e slot) v fun e' => hv _
  · exact h slot v hv

open Phrase in
theorem arrowFn_future_le :
    (all [parameters, .opt (.rule .declaredType), .terminal .arrow, .rule .arrowBody]).language
      Nonterminal.future ≤ expressionWords := by
  rintro _ ⟨p, hp, _, ⟨a, ha, _, ⟨_, rfl, w, hw, rfl⟩, rfl⟩, rfl⟩ slot v hv
  simp only [List.cons_append, List.nil_append, List.append_assoc]
  refine accepted_parameters (fun pos => .function (.arrow pos slot)) (fun _ _ => rfl) (fun _ _ => rfl) hp
    fun pos typeParams params => ?_
  rcases ha with rfl | ⟨_, rfl, x, hx, rfl⟩
  · exact .cons (fun _ _ => rfl) fun _ _ => hw (pos, .mk typeParams params none, slot) v hv
  · refine .cons (fun _ _ => rfl) fun _ _ => hx (.result (.arrow pos slot) typeParams params) _ fun ty => ?_
    exact .cons (fun _ _ => rfl) fun _ _ => hw (pos, .mk typeParams params (some ty), slot) v hv

open Phrase in
theorem arrowBody_future_le :
    (any (.rule .block) [.rule .assign]).language Nonterminal.future ≤ Nonterminal.arrowBody.future := by
  rintro _ (⟨_, rfl, w, hw, rfl⟩ | h) ⟨pos, sig, slot⟩ v hv
  · exact .cons (fun _ _ => rfl) fun _ pos' => hw (pos', .arrow pos slot, sig) v fun body => hv _
  · refine Accepted.mono (h (.arrowBody pos sig slot) v fun e => hv _) fun t s h => ?_
    have hk : t.kind ≠ .braceOpen := by
      intro hk
      simp [expressionBegin, operandBegin, hk] at h
    simpa [State.step, hk] using h

open Phrase in
theorem type_future_le :
    (any (.rule .fnType) [.rule .unionType]).language Nonterminal.future ≤ typeWords := by
  rintro _ (h | h) slot v hv
  · exact h slot v hv
  · refine h slot v fun ⟨ty, place, hplace⟩ => ?_
    subst hplace
    refine (hv (place.whole ty)).mono fun t s h => ?_
    have hk := kind_of_typeEnd h
    simpa [alternativeEnd, hk] using h

open Phrase in
theorem unionType_future_le :
    (any (.rule .arrayType) [all [.rule .unionType, .terminal .bar, .rule .arrayType]]).language Nonterminal.future ≤
      Nonterminal.unionType.future := by
  rintro _ (h | ⟨u, hu, _, ⟨_, rfl, w, hw, rfl⟩, rfl⟩) slot v hv
  · refine Accepted.mono (h (.only slot) v fun ty => hv (ty, ⟨.only slot, rfl⟩)) fun t s h => ?_
    have hk : t.kind ≠ .parenOpen ∧ t.kind ≠ .angleOpen := by
      constructor <;> intro hk <;> simp [alternativeBegin, hk] at h
    simpa [typeBegin, hk] using h
  · rw [List.append_assoc]
    refine hu slot _ fun ⟨ty, place, hplace⟩ => ?_
    subst hplace
    cases place with
    | only slot =>
      exact .cons (fun _ _ => rfl) fun _ _ => hw (.next ty [] slot) v fun ty' => hv (ty', ⟨.next ty [] slot, rfl⟩)
    | next first done slot =>
      refine .cons (fun _ _ => rfl) fun _ _ => hw (.next first (ty :: done) slot) v fun ty' => ?_
      exact hv (ty', ⟨.next first (ty :: done) slot, rfl⟩)

open Phrase in
theorem arrayType_future_le :
    (any (.rule .typeRef) [.rule .literalType,
      all [.rule .arrayType, .terminal .bracketOpen, .terminal .bracketClose]]).language Nonterminal.future ≤
      alternativeWords := by
  rintro _ (h | h | ⟨u, hu, _, ⟨_, rfl, _, rfl, rfl⟩, rfl⟩) place v hv
  · exact h place v hv
  · exact h place v hv
  · rw [List.append_assoc]
    exact hu place _ fun ty => .cons (fun _ _ => rfl) fun _ _ => .cons (fun _ _ => rfl) fun _ _ => hv _

open Phrase in
theorem fnType_future_le :
    (all [parameters, .terminal .arrow, .rule .type]).language Nonterminal.future ≤ typeWords := by
  rintro _ ⟨p, hp, _, ⟨_, rfl, w, hw, rfl⟩, rfl⟩ slot v hv
  simp only [List.cons_append, List.nil_append, List.append_assoc]
  refine accepted_parameters (fun pos => .type pos slot) (fun _ _ => rfl) (fun _ _ => rfl) hp
    fun pos typeParams params => ?_
  exact .cons (fun _ _ => rfl) fun _ _ => hw (.functionResult pos typeParams params slot) v fun ty => hv _

open Phrase in
theorem typeRef_future_le :
    (all [dotted, .opt (.rule .typeArgs)]).language Nonterminal.future ≤ alternativeWords := by
  rintro _ ⟨d, hd, a, ha, rfl⟩ place v hv
  rw [List.append_assoc]
  refine accepted_dotted (fun head path => .typeNamed head path place) (fun head path => .typePath head path place)
    (fun _ _ => rfl) (fun _ _ _ _ => rfl) (fun _ _ _ _ => rfl) hd fun head path => ?_
  rcases ha with rfl | ⟨_, rfl, x, hx, rfl⟩
  · refine Accepted.mono (hv (.named head path.reverse [])) fun t s h => ?_
    have hk := kind_of_alternativeEnd h
    simpa [State.step, hk] using h
  · exact .cons (fun _ _ => rfl) fun _ _ => hx (.type head path place) v fun args => hv _

open Phrase in
theorem literalType_future_le :
    (any (.terminal .string) [.terminal .number]).language Nonterminal.future ≤ alternativeWords := by
  rintro _ (rfl | rfl) place v hv
  · exact .cons (fun _ _ => rfl) fun _ _ => hv _
  · exact .cons (fun _ _ => rfl) fun _ _ => hv _

/-- The words that lead from before phrases to behind them satisfy the rules. -/
theorem Nonterminal.phrase_future_le (n : Nonterminal) : n.phrase.language Nonterminal.future ≤ n.future := by
  cases n with
  | program => exact program_future_le
  | stmts => exact stmts_future_le
  | stmt =>
    rintro u (h | h | h | h | h)
    all_goals exact h
  | varDecl => exact varDecl_future_le
  | declarator => exact declarator_future_le
  | functionDecl => exact functionDecl_future_le
  | block => exact block_future_le
  | classDecl => exact classDecl_future_le
  | heritage => exact heritage_future_le
  | classBody => exact classBody_future_le
  | members => exact members_future_le
  | member =>
    rintro u (h | h)
    all_goals exact h
  | methodDef => exact methodDef_future_le
  | propertyDef => exact propertyDef_future_le
  | returnStmt => exact returnStmt_future_le
  | exprStmt => exact expressionWords_le
  | params => exact params_future_le
  | param => exact param_future_le
  | assign => exact assign_future_le
  | arrowFn => exact arrowFn_future_le
  | arrowBody => exact arrowBody_future_le
  | sum => exact sum_future_le
  | term => exact term_future_le
  | operand => exact operand_future_le
  | primary => exact primary_future_le
  | args => exact args_future_le
  | newExpr => exact newExpr_future_le
  | newCallee => exact newCallee_future_le
  | functionExpr => exact functionExpr_future_le
  | classExpr => exact classExpr_future_le
  | type => exact type_future_le
  | unionType => exact unionType_future_le
  | arrayType => exact arrayType_future_le
  | fnType => exact fnType_future_le
  | typeRef => exact typeRef_future_le
  | literalType => exact literalType_future_le
  | typeArgs => exact typeArgs_future_le
  | typeParams => exact typeParams_future_le
  | typeParam => exact typeParam_future_le
  | expr | varKind | declaredType | typeConstraint | typeDefault => exact le_rfl

end Rules

/-- Every derived program leads from the start of a source to its end. -/
theorem Derives.accepts {w : List Terminal} (h : Derives (.rule .program) w) :
    (State.statement .opened (.program [])).Accepts (w ++ [.finish]) :=
  Accepted.accepts (h.mem_language Nonterminal.phrase_future_le)

end TypeLint.Source
