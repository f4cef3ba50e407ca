import TypeLint.Proofs.Lint.SourceTree
import TypeLint.Proofs.Source.Conservation
import TypeLint.Proofs.Source.Words
import TypeLint.Proofs.Tree.Literals

/-!
# The literals of a source

The literals of a program are the strings and numbers among the tokens of its source, so whether a source has a tree can
be told from its tokens: it is refused, or one of these tokens has no value, or it has a tree.

* `Lexeme.literal?`, `literalsIn` — the strings and numbers among the tokens of a source;
* `Lists` — literals that are those of spots, in some order;
* `literals_of_parse` — the literals of a program are those of its source;
* `number?_of_scan`, `isOk_numberValue_eq_false_iff` — which numbers have no value;
* `parseSource_decoded` — what becomes of a source;
* `parseSource_quoted` — a quoted text is a source by itself, and its tree has the text as a literal.
-/

namespace TypeLint.Source

open TypeLint.Tree

/-! ## the literals among tokens -/

/-- The literal that a lexeme is. -/
def Lexeme.literal? (a : Lexeme) : Option Literal :=
  match a.kind with
  | .token .string => some ⟨.string, a.text, a.pos⟩
  | .token .number => some ⟨.number, a.text, a.pos⟩
  | _ => none

/-- The strings and numbers among the tokens of a source. -/
def literalsIn (source : Text) : List Literal := (delivered source).filterMap Lexeme.literal?

/-- The literal that is kept at a spot. -/
def Spot.literal? (s : Spot) : Option Literal := s.token?.bind fun t => t.lexeme.literal?

theorem Literal.literal?_spot (lit : Literal) : lit.spot.literal? = some lit := by
  obtain ⟨kind, text, pos⟩ := lit
  cases kind <;> rfl

theorem Token.isWord_of_literal? {t : Token} {lit : Literal} (h : t.lexeme.literal? = some lit) :
    t.kind.isWord = true := by
  obtain ⟨kind, text, pos⟩ := t
  cases kind <;> first | rfl | simp [Token.lexeme, Lexeme.literal?] at h

/-- The literals are those at the spots, in some order. -/
def Lists (lits : List Literal) (spots : List Spot) : Prop := lits.Perm (spots.filterMap Spot.literal?)

namespace Lists

variable {l m : List Literal} {ss ts : List Spot} {s : Spot}

theorem nil : Lists [] [] := List.Perm.nil

theorem append (h : Lists l ss) (h' : Lists m ts) : Lists (l ++ m) (ss ++ ts) := by
  rw [Lists, List.filterMap_append]
  exact List.Perm.append h h'

/-- A name or sign is no literal. -/
theorem skip (h : Lists l ss) (hs : s.literal? = none) : Lists l (s :: ss) := by
  rw [Lists, List.filterMap_cons_none hs]
  exact h

theorem skipLast (h : Lists l ss) (hs : s.literal? = none) : Lists l (ss ++ [s]) := by
  rw [← List.append_nil l]
  exact h.append (nil.skip hs)

theorem idents (path : List Ident) : Lists [] (path.map Ident.spot) := by
  induction path with
  | nil => exact nil
  | cons id path ih => exact ih.skip rfl

theorem literal (lit : Literal) : Lists [lit] [lit.spot] := by
  rw [Lists, List.filterMap_cons_some lit.literal?_spot]
  exact .refl _

end Lists

mutual

theorem TypeExpr.lists : ∀ ty : TypeExpr, Lists ty.literals ty.spots
  | .named head path args => by
    rw [TypeExpr.literals, TypeExpr.spots]
    exact ((Lists.idents path).append (lists_types args)).skip rfl
  | .literal lit => by
    rw [TypeExpr.literals, TypeExpr.spots]
    exact .literal lit
  | .array element => by
    rw [TypeExpr.literals, TypeExpr.spots]
    exact element.lists
  | .union first others => by
    rw [TypeExpr.literals, TypeExpr.spots]
    exact first.lists.append (lists_types others)
  | .function pos typeParams params result => by
    rw [TypeExpr.literals, TypeExpr.spots]
    exact ((lists_typeParams typeParams).append ((lists_params params).append result.lists)).skip rfl

theorem lists_types : ∀ tys : List TypeExpr, Lists (typeLiterals tys) (typeSpots tys)
  | [] => .nil
  | ty :: tys => by
    rw [typeLiterals, typeSpots]
    exact ty.lists.append (lists_types tys)

theorem lists_type? : ∀ ty : Option TypeExpr, Lists (typeLiterals? ty) (typeSpots? ty)
  | none => .nil
  | some ty => by
    rw [typeLiterals?, typeSpots?]
    exact ty.lists

theorem TypeParam.lists : ∀ p : TypeParam, Lists p.literals p.spots
  | .mk name bound default => by
    rw [TypeParam.literals, TypeParam.spots]
    exact ((lists_type? bound).append (lists_type? default)).skip rfl

theorem lists_typeParams : ∀ ps : List TypeParam, Lists (typeParamLiterals ps) (typeParamSpots ps)
  | [] => .nil
  | p :: ps => by
    rw [typeParamLiterals, typeParamSpots]
    exact p.lists.append (lists_typeParams ps)

theorem Param.lists : ∀ p : Param, Lists p.literals p.spots
  | .mk name optional declared default => by
    rw [Param.literals, Param.spots]
    exact ((lists_type? declared).append (lists_expr? default)).skip rfl

theorem lists_params : ∀ ps : List Param, Lists (paramLiterals ps) (paramSpots ps)
  | [] => .nil
  | p :: ps => by
    rw [paramLiterals, paramSpots]
    exact p.lists.append (lists_params ps)

theorem Signature.lists : ∀ sig : Signature, Lists sig.literals sig.spots
  | .mk typeParams params result => by
    rw [Signature.literals, Signature.spots]
    exact (lists_typeParams typeParams).append ((lists_params params).append (lists_type? result))

theorem Expr.lists : ∀ e : Expr, Lists e.literals e.spots
  | .name id => Lists.nil.skip rfl
  | .literal lit => by
    rw [Expr.literals, Expr.spots]
    exact .literal lit
  | .member object property => by
    rw [Expr.literals, Expr.spots]
    exact object.lists.skipLast rfl
  | .call callee typeArgs args => by
    rw [Expr.literals, Expr.spots]
    exact callee.lists.append ((lists_types typeArgs).append (lists_exprs args))
  | .new pos head path typeArgs args => by
    rw [Expr.literals, Expr.spots]
    exact (((Lists.idents path).append ((lists_types typeArgs).append (lists_exprs args))).skip rfl).skip rfl
  | .assign target value => by
    rw [Expr.literals, Expr.spots]
    exact target.lists.append value.lists
  | .binary left op right => by
    rw [Expr.literals, Expr.spots]
    exact left.lists.append right.lists
  | .function pos sig body => by
    rw [Expr.literals, Expr.spots]
    exact (sig.lists.append body.lists).skip rfl
  | .arrow pos sig body => by
    rw [Expr.literals, Expr.spots]
    exact (sig.lists.append body.lists).skip rfl
  | .classExpr pos shape => by
    rw [Expr.literals, Expr.spots]
    exact shape.lists.skip rfl

theorem lists_exprs : ∀ es : List Expr, Lists (exprLiterals es) (exprSpots es)
  | [] => .nil
  | e :: es => by
    rw [exprLiterals, exprSpots]
    exact e.lists.append (lists_exprs es)

theorem lists_expr? : ∀ e : Option Expr, Lists (exprLiterals? e) (exprSpots? e)
  | none => .nil
  | some e => by
    rw [exprLiterals?, exprSpots?]
    exact e.lists

theorem ArrowBody.lists : ∀ b : ArrowBody, Lists b.literals b.spots
  | .block b => by
    rw [ArrowBody.literals, ArrowBody.spots]
    exact b.lists
  | .expr e => by
    rw [ArrowBody.literals, ArrowBody.spots]
    exact e.lists

theorem Block.lists : ∀ b : Block, Lists b.literals b.spots
  | .mk pos body => by
    rw [Block.literals, Block.spots]
    exact (lists_stmts body).skip rfl

theorem Stmt.lists : ∀ s : Stmt, Lists s.literals s.spots
  | .variables pos binder declarators => by
    rw [Stmt.literals, Stmt.spots]
    exact (lists_declarators declarators).skip rfl
  | .function pos name sig body => by
    rw [Stmt.literals, Stmt.spots]
    exact ((sig.lists.append body.lists).skip rfl).skip rfl
  | .classDecl pos name shape => by
    rw [Stmt.literals, Stmt.spots]
    exact (shape.lists.skip rfl).skip rfl
  | .ret pos value => by
    rw [Stmt.literals, Stmt.spots]
    exact (lists_expr? value).skip rfl
  | .expr e => by
    rw [Stmt.literals, Stmt.spots]
    exact e.lists

theorem lists_stmts : ∀ ss : List Stmt, Lists (stmtLiterals ss) (stmtSpots ss)
  | [] => .nil
  | s :: ss => by
    rw [stmtLiterals, stmtSpots]
    exact s.lists.append (lists_stmts ss)

theorem Declarator.lists : ∀ d : Declarator, Lists d.literals d.spots
  | .mk name declared init => by
    rw [Declarator.literals, Declarator.spots]
    exact ((lists_type? declared).append (lists_expr? init)).skip rfl

theorem lists_declarators : ∀ ds : List Declarator, Lists (declaratorLiterals ds) (declaratorSpots ds)
  | [] => .nil
  | d :: ds => by
    rw [declaratorLiterals, declaratorSpots]
    exact d.lists.append (lists_declarators ds)

theorem ClassShape.lists : ∀ shape : ClassShape, Lists shape.literals shape.spots
  | .mk typeParams heritage members => by
    rw [ClassShape.literals, ClassShape.spots, ← List.append_assoc]
    -- the values of the type parameters are found last, but they are written first
    exact List.perm_append_comm.trans
      ((lists_typeParams typeParams).append ((lists_heritage? heritage).append (lists_members members)))

theorem Heritage.lists : ∀ h : Heritage, Lists h.literals h.spots
  | .mk name typeArgs => by
    rw [Heritage.literals, Heritage.spots]
    exact (lists_types typeArgs).skip rfl

theorem lists_heritage? : ∀ h : Option Heritage, Lists (heritageLiterals? h) (heritageSpots? h)
  | none => .nil
  | some h => by
    rw [heritageLiterals?, heritageSpots?]
    exact h.lists

theorem Member.lists : ∀ m : Member, Lists m.literals m.spots
  | .method name sig body => by
    rw [Member.literals, Member.spots]
    exact (sig.lists.append body.lists).skip rfl
  | .property name optional declared value => by
    rw [Member.literals, Member.spots]
    exact ((lists_type? declared).append (lists_expr? value)).skip rfl

theorem lists_members : ∀ ms : List Member, Lists (memberLiterals ms) (memberSpots ms)
  | [] => .nil
  | m :: ms => by
    rw [memberLiterals, memberSpots]
    exact m.lists.append (lists_members ms)

end

/-- The literals of a program are the strings and numbers among the tokens of its source. -/
theorem literals_of_parse {source : Text} {p : Program} (h : parse source = .ok p) :
    p.literals.Perm (literalsIn source) := by
  obtain ⟨ts, hts, hwords⟩ := words_of_parse h
  have hlists : Lists p.literals p.spots := lists_stmts p.body
  have hspots : p.spots.filterMap Spot.literal? = ts.filterMap fun t => t.lexeme.literal? := by
    have hsplit : p.spots.filterMap Spot.literal? =
        (p.spots.filterMap Spot.token?).filterMap fun t => t.lexeme.literal? := by
      rw [List.filterMap_filterMap]
      rfl
    rw [hsplit, hwords, List.filterMap_filter]
    refine List.filterMap_congr fun t _ => ?_
    cases hlit : t.lexeme.literal? with
    | none => simp
    | some lit => rw [if_pos (Token.isWord_of_literal? hlit)]
  rw [Lists, hspots] at hlists
  rw [literalsIn, hts, List.filterMap_map]
  exact hlists

/-! ## numbers without a value -/

theorem spellings_ne_number : ∀ s ∈ spellings, s.2 ≠ .number := by decide

/-- A lexeme that is a number is what is read as a number. -/
theorem number?_of_scan {admits : Terminal → Bool} {t lexeme rest : Text}
    (h : scan admits t = some (.token .number, lexeme, rest)) : number? t = some (lexeme, rest) := by
  rcases scan_token_cases h with ⟨hk, -⟩ | ⟨hk, -⟩ | ⟨-, -, hs⟩ | ⟨hmem, -⟩
  · exact absurd hk (by decide)
  · rcases wordKind_eq admits lexeme with hname | ⟨-, hmem⟩
    · exact absurd (hk.trans hname) (by decide)
    · exact absurd hk.symm (spellings_ne_number _ hmem)
  · exact hs
  · exact absurd rfl (spellings_ne_number _ hmem)

theorem isDigit_of_digits? {t : Text} {s : Text × Text} (h : digits? t = some s) : ∀ c ∈ s.1, c.isDigit = true := by
  cases t with
  | nil => simp [digits?] at h
  | cons c cs =>
    simp only [digits?] at h
    split at h
    · next hc =>
      obtain rfl := Option.some.inj h
      exact List.forall_mem_cons.2 ⟨hc, fun d hd => List.mem_takeWhile_imp hd⟩
    · simp at h

/-- A number without a point is made of digits. -/
theorem isDigit_of_number? {t w rest : Text} (h : number? t = some (w, rest)) (hpoint : CodePoint.ofChar '.' ∉ w) :
    ∀ c ∈ w, c.isDigit = true := by
  obtain ⟨⟨ds, behind⟩, hds, hw⟩ := Option.map_eq_some_iff.1 h
  cases hfrac : fraction? behind with
  | none =>
    simp only [hfrac] at hw
    obtain ⟨rfl, -⟩ := Prod.mk.inj hw
    exact isDigit_of_digits? hds
  | some frac =>
    simp only [hfrac] at hw
    obtain ⟨rfl, -⟩ := Prod.mk.inj hw
    refine absurd (List.mem_append_right ds ?_) hpoint
    cases behind with
    | nil => simp [fraction?] at hfrac
    | cons c cs =>
      simp only [fraction?] at hfrac
      split at hfrac
      · next hc =>
        obtain ⟨u, -, rfl⟩ := Option.map_eq_some_iff.1 hfrac
        rw [hc]
        exact List.mem_cons_self
      · simp at hfrac

theorem cut_of_mem {sep : CodePoint} {t : Text} (h : sep ∈ t) : ∃ head tail, t.cut sep = (head, some tail) := by
  induction t with
  | nil => simp at h
  | cons c t ih =>
    by_cases hc : c = sep
    · exact ⟨[], t, by rw [Text.cut, if_pos hc]⟩
    · obtain ⟨head, tail, hcut⟩ := ih ((List.mem_cons.1 h).resolve_left (Ne.symm hc))
      exact ⟨c :: head, tail, by rw [Text.cut, if_neg hc, hcut]⟩

/-- A number has no value exactly if it has no point and is too long. -/
theorem isOk_numberValue_eq_false_iff (w : Text) :
    (numberValue w).isOk = false ↔ CodePoint.ofChar '.' ∉ w ∧ Text.maxDigits < w.length := by
  by_cases hpoint : CodePoint.ofChar '.' ∈ w
  · obtain ⟨whole, frac, hcut⟩ := cut_of_mem hpoint
    simp [numberValue, hcut, hpoint, Except.isOk, Except.toBool]
  · rw [numberValue, cut_of_notMem hpoint]
    by_cases hlength : Text.maxDigits < w.length <;> simp [hpoint, hlength, Except.isOk, Except.toBool]

/-- A lexeme of a source is what is found at its place. -/
theorem Reader.scan_of_mem_lexemes {r : Reader} {t : Text} {a : Lexeme} (h : a ∈ r.lexemes t) :
    ∃ admits u rest, scan admits u = some (a.kind, a.text, rest) := by
  have hfound : ∀ {kind : LexemeKind} {lexeme : Text} {pos : Pos},
      a ∈ (if kind = .gap then [] else [(⟨kind, lexeme, pos⟩ : Lexeme)]) → a.kind = kind ∧ a.text = lexeme := by
    intro kind lexeme pos ha
    split at ha
    · simp at ha
    · rw [List.mem_singleton.1 ha]
      exact ⟨rfl, rfl⟩
  fun_induction Reader.lexemes r t with
  | case1 => simp at h
  | case2 => simp at h
  | case3 r c cs kind lexeme rest hscan here e hread =>
    obtain ⟨rfl, rfl⟩ := hfound h
    exact ⟨_, _, _, hscan⟩
  | case4 r c cs kind lexeme rest hscan here r' hread ih =>
    rcases List.mem_append.1 h with h | h
    · obtain ⟨rfl, rfl⟩ := hfound h
      exact ⟨_, _, _, hscan⟩
    · exact ih h

/-- A number of a source has no value exactly if it has no point and too many digits. -/
theorem isOk_value_eq_false_iff {source : Text} {lit : Literal} (h : lit ∈ literalsIn source)
    (hkind : lit.kind = .number) : lit.value.isOk = false ↔
      CodePoint.ofChar '.' ∉ lit.text ∧ Text.maxDigits < (lit.text.filter CodePoint.isDigit).length := by
  obtain ⟨a, ha, hlit⟩ := List.mem_filterMap.1 h
  obtain ⟨rfl, htoken⟩ : lit = ⟨.number, a.text, a.pos⟩ ∧ a.kind = .token .number := by
    unfold Lexeme.literal? at hlit
    split at hlit
    · obtain rfl := Option.some.inj hlit
      simp at hkind
    · next hk => exact ⟨(Option.some.inj hlit).symm, hk⟩
    · simp at hlit
  have hother : Lexeme.kindedMarking.kind a ≠ Lexeme.kindedMarking.terminator :=
    fun hterm => absurd (htoken.symm.trans hterm) (by decide)
  have hmem : a ∈ Reader.start.lexemes source := Lexeme.kindedMarking.mem_of_mem_terminated ha hother
  obtain ⟨admits, u, rest, hscan⟩ := Reader.scan_of_mem_lexemes hmem
  rw [htoken] at hscan
  have hvalue := isOk_numberValue_eq_false_iff a.text
  constructor
  · intro hno
    obtain ⟨hpoint, hlength⟩ := hvalue.1 hno
    have hdigits : a.text.filter CodePoint.isDigit = a.text :=
      List.filter_eq_self.2 (isDigit_of_number? (number?_of_scan hscan) hpoint)
    exact ⟨hpoint, by rw [hdigits]; exact hlength⟩
  · rintro ⟨hpoint, hlength⟩
    exact hvalue.2 ⟨hpoint, Nat.lt_of_lt_of_le hlength (List.length_filter_le _ _)⟩

/-! ## a string that is all of a source -/

/-- The lexemes of what is left begin with the one that is read next. -/
theorem Reader.lexemes_of_read {r r' : Reader} {kind : LexemeKind} {t lexeme rest : Text}
    (hscan : scan r.state.admits t = some (kind, lexeme, rest)) (hread : r.read kind lexeme = .ok r') :
    r.lexemes t = (if kind = .gap then [] else [⟨kind, lexeme, r.pos⟩]) ++ r'.lexemes rest := by
  cases t with
  | nil => exact absurd (length_lt_of_scan hscan) (by simp)
  | cons c cs =>
    rw [Reader.lexemes]
    split
    · next hnone => simp [hscan] at hnone
    · next hsome =>
      obtain ⟨rfl, rfl, rfl⟩ : _ ∧ _ ∧ _ := by simpa using hscan.symm.trans hsome
      simp only [hread]

/-- A quoted text is read as one string. -/
theorem lexemes_quoted (v : Text) : Reader.start.lexemes v.quoted = [⟨.token .string, v.quoted, .start⟩] := by
  obtain ⟨r, hr⟩ : ∃ r, Reader.start.read (.token .string) v.quoted = .ok r := ⟨_, rfl⟩
  rw [Reader.lexemes_of_read (scan_quoted rfl v) hr, Reader.lexemes]
  rfl

theorem parse_quoted (v : Text) : parse v.quoted = .ok ⟨[.expr (.literal ⟨.string, v.quoted, .start⟩)]⟩ := by
  have hread : State.start.read .start (.token .string) v.quoted =
      some (.operandEnd (.literal ⟨.string, v.quoted, .start⟩) (Slot.statement (.program [])).operand) :=
    rfl
  exact parse_eq_ok_iff.2 ⟨_, .cons (scan_quoted rfl v) hread (.nil _ _), rfl⟩

end TypeLint.Source

namespace TypeLint.Lint

open Source TypeLint.Tree

/-- A source that the grammar refuses gives one diagnostic of the parser, whatever its strings and numbers are.  Any
other source gives a tree exactly if all strings and numbers among its tokens have values.  If it gives none, this is
because of such a token; no name, keyword, member or comment is ever to blame.  A number has no value exactly if it has
no point and more than 4300 digits. -/
theorem parseSource_decoded (source : Text) (file : Option Text) :
    (∀ e, parse source = .error e → parseSource source file = .ok (.refused (syntaxDiagnostic file e)) ∧
      (syntaxDiagnostic file e).phase = some (text "parser")) ∧
    (∀ p, parse source = .ok p →
      ((∃ root, parseSource source file = .ok (.program root)) ↔ ∀ lit ∈ literalsIn source, lit.value.isOk = true) ∧
      ((∃ e, parseSource source file = .error e) ↔ ¬ ∀ lit ∈ literalsIn source, lit.value.isOk = true)) ∧
    (∀ e, parseSource source file = .error e → ∃ lit ∈ literalsIn source, lit.value = .error e) ∧
    ∀ lit ∈ literalsIn source, lit.kind = .number →
      (lit.value.isOk = false ↔
        CodePoint.ofChar '.' ∉ lit.text ∧ 4300 < (lit.text.filter CodePoint.isDigit).length) := by
  refine ⟨fun e he => ⟨by simp [parseSource, he], rfl⟩, fun p hp => ?_, fun e he => ?_,
    fun lit hlit hkind => isOk_value_eq_false_iff hlit hkind⟩
  · have hroot : (∃ root, parseSource source file = .ok (.program root)) ↔
        ∀ lit ∈ literalsIn source, lit.value.isOk = true := by
      simp only [parseSource_eq_program, hp, Except.ok.injEq, exists_eq_left', Program.exists_toNode_iff,
        (literals_of_parse hp).mem_iff]
    refine ⟨hroot, ?_⟩
    rw [← hroot]
    cases hnode : p.toNode <;> simp [parseSource, hp, hnode, Except.map]
  · cases hp : parse source with
    | error e' => simp [parseSource, hp] at he
    | ok p =>
      have hnode : p.toNode = .error e := by
        cases hnode : p.toNode with
        | ok root => simp [parseSource, hp, hnode, Except.map] at he
        | error e' => simpa [parseSource, hp, hnode, Except.map] using he
      obtain ⟨lit, hfind, hlit⟩ := Program.toNode_eq_error_iff.1 hnode
      exact ⟨lit, (literals_of_parse hp).mem_iff.1 (List.mem_of_find?_eq_some hfind), hlit⟩

/-- An escape without digits matters neither in a source that is refused nor in a comment, and keywords may be names; in
a type it leaves the source without a tree. -/
theorem parseSource_decoded_escape :
    (∃ d, parseSource (text "\"\\x\" =") none = .ok (.refused d)) ∧
    (∃ root, parseSource (text "let class = a.return // \"\\x\"") none = .ok (.program root)) ∧
    (∃ e, parseSource (text "let a: \"\\x\" = 1.5") none = .error e ∧
      ∃ lit ∈ literalsIn (text "let a: \"\\x\" = 1.5"), lit.value = .error e) ∧
    ((⟨.number, text "1.5", ⟨1, 15⟩⟩ : Literal).value.isOk = false ↔
      CodePoint.ofChar '.' ∉ text "1.5" ∧ 4300 < ((text "1.5").filter CodePoint.isDigit).length) := by
  have hlits : literalsIn (text "let a: \"\\x\" = 1.5") =
      [⟨.string, text "\"\\x\"", ⟨1, 8⟩⟩, ⟨.number, text "1.5", ⟨1, 15⟩⟩] := by
    cbv
  refine ⟨?_, ?_, ?_, ?_⟩
  · obtain ⟨e, he⟩ : ∃ e, parse (text "\"\\x\" =") = .error e := ⟨_, by cbv⟩
    exact ⟨_, ((parseSource_decoded _ none).1 e he).1⟩
  · obtain ⟨p, hp⟩ : ∃ p, parse (text "let class = a.return // \"\\x\"") = .ok p := ⟨_, by cbv⟩
    have hnone : literalsIn (text "let class = a.return // \"\\x\"") = [] := by cbv
    exact ((parseSource_decoded _ none).2.1 p hp).1.2 (by simp [hnone])
  · obtain ⟨p, hp⟩ : ∃ p, parse (text "let a: \"\\x\" = 1.5") = .ok p := ⟨_, by cbv⟩
    obtain ⟨-, hraise, hblame, -⟩ := parseSource_decoded (text "let a: \"\\x\" = 1.5") none
    obtain ⟨e, he⟩ := (hraise p hp).2.2 fun hall => by
      rw [hlits] at hall
      exact absurd (hall _ List.mem_cons_self) (by decide)
    exact ⟨e, he, hblame e he⟩
  · exact (parseSource_decoded (text "let a: \"\\x\" = 1.5") none).2.2.2 _ (by simp [hlits]) rfl

/-- A quoted text, whatever code points it has, is a source of one token, a string, and its tree is that of a single
statement: the literal with the text as its value, as it is written. -/
theorem parseSource_quoted (v : Text) (file : Option Text) :
    Reader.start.lexemes v.quoted = [⟨.token .string, v.quoted, .start⟩] ∧
    ∃ lit : Node, parseSource v.quoted file = .ok (.program (nodeAt .program .start
        [nodeList [nodeAt .expressionStatement .start [.node lit]]])) ∧
      lit.kind = .literal ∧ lit.loc = some Pos.start.toLoc ∧ lit.get .value = .text v ∧
      lit.get .raw = .text v.quoted := by
  have hvalue : Literal.value ⟨.string, v.quoted, .start⟩ = .ok (.text v) := by
    simp [Literal.value, Text.unquoted_quoted]
  refine ⟨lexemes_quoted v, nodeAt .literal .start [.text v, .text v.quoted], ?_, rfl, rfl, rfl, rfl⟩
  refine parseSource_eq_program.2 ⟨_, parse_quoted v, ?_⟩
  simp only [Program.toNode, stmtNodes, Stmt.toNode, Expr.toNode, hvalue]
  rfl

end TypeLint.Lint
