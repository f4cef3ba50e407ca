import Mathlib.Data.List.Forall2
import Mathlib.Data.List.TakeWhile
import TypeLint.Proofs.Source.Lines

/-!
# Members of a class, one after the other

A text that spells a member of a class spells it behind other members, too, whether a semicolon or a line feed stands
between them.

* `State.Reads.append_separator` — what a line is read as does not depend on the separator behind it;
* `State.ReadsOn.of_opened` — behind a terminator, a member is read as behind the opening brace, unless its name is a
  word that starts a statement;
* `ReadsMember` — a text that is read as a member in every class, and `ReadsMember.of_parse`, how to find that out;
* `State.lineEnded?_of_terminated?` — the only member that a line feed does not end is a bare optional property;
* `parse_semicolons`, `parse_lines` — such texts in one class, with either separator.
-/

namespace TypeLint.Source

open CodePoint (lineFeed)

/-! ## closing braces -/

section Close

variable {t t' : Token} (ht : t.kind = .braceClose) (ht' : t'.kind = .terminator)
include ht ht'

theorem Scope.statementEnd_braceClose (scope : Scope) :
    scope.statementEnd t = (scope.statementEnd t').bind fun s => s.step t := by
  simp [statementEnd, ht, ht', State.step]

theorem Members.memberEnd_braceClose (members : Members) :
    members.memberEnd t = (members.memberEnd t').bind fun s => s.step t := by
  simp [memberEnd, ht, ht', State.step]

theorem variableEnd_braceClose (d : Declarator) (vars : Variables) (scope : Scope) :
    variableEnd d vars scope t = (variableEnd d vars scope t').bind fun s => s.step t := by
  simpa only [variableEnd, ht, ht'] using Scope.statementEnd_braceClose ht ht' _

theorem parameterEnd_braceClose (p : Param) (params : Params) :
    parameterEnd p params t = (parameterEnd p params t').bind fun s => s.step t := by
  simp [parameterEnd, ht, ht']

theorem expressionEnd_braceClose (e : Expr) (slot : Slot) :
    expressionEnd e slot t = (expressionEnd e slot t').bind fun s => s.step t := by
  cases slot with
  | statement scope | returned pos scope => exact Scope.statementEnd_braceClose ht ht' _
  | initial name declared vars scope => exact variableEnd_braceClose ht ht' ..
  | default name optional declared params => exact parameterEnd_braceClose ht ht' ..
  | property name optional declared members => exact Members.memberEnd_braceClose ht ht' _
  | argument callee typeArgs done operand => simp [expressionEnd, ht, ht']
  | assigned target slot | arrowBody pos sig slot => exact expressionEnd_braceClose _ slot

theorem operandEnd_braceClose (e : Expr) (operand : Operand) :
    operandEnd e operand t = (operandEnd e operand t').bind fun s => s.step t := by
  simp [operandEnd, ht, ht', expressionEnd_braceClose ht ht']

theorem typeEnd_braceClose (ty : TypeExpr) (slot : TypeSlot) :
    typeEnd ty slot t = (typeEnd ty slot t').bind fun s => s.step t := by
  cases slot with
  | «variable» name vars scope => simpa only [typeEnd, ht, ht'] using variableEnd_braceClose ht ht' ..
  | param name optional params => simpa only [typeEnd, ht, ht'] using parameterEnd_braceClose ht ht' ..
  | property name optional members => simpa only [typeEnd, ht, ht'] using Members.memberEnd_braceClose ht ht' _
  | result owner typeParams params => cases owner <;> simp [typeEnd, ht, ht']
  | functionResult pos typeParams params slot => exact typeEnd_braceClose _ slot
  | argument target done => simp [typeEnd, ht, ht']
  | bound name generics | default name bound generics => simp [typeEnd, typeParamEnd, ht, ht']

theorem alternativeEnd_braceClose (ty : TypeExpr) (alternative : Alternative) :
    alternativeEnd ty alternative t = (alternativeEnd ty alternative t').bind fun s => s.step t := by
  simp [alternativeEnd, ht, ht', typeEnd_braceClose ht ht']

/-- A closing brace is read as if a terminator stood before it. -/
theorem State.step_braceClose_of_kind (s : State) : s.step t = (s.step t').bind fun s => s.step t := by
  cases s with
  | operandEnd e place =>
    have h := operandEnd_braceClose ht ht' e place
    simpa only [State.step, ht, ht'] using h
  | expressionEnd e slot => exact expressionEnd_braceClose ht ht' e slot
  | typeNamed head path place =>
    have h := alternativeEnd_braceClose ht ht' (.named head path.reverse []) place
    simpa only [State.step, ht, ht'] using h
  | typeEnd ty applied place => exact alternativeEnd_braceClose ht ht' ty place
  | _ =>
    obtain ⟨_, word, pos⟩ := t
    obtain ⟨_, word', pos'⟩ := t'
    cases ht
    cases ht'
    rfl

end Close

/-- A closing brace is read as if a terminator stood before it. -/
theorem State.step_braceClose (s : State) (word : Text) (pos : Pos) :
    s.step ⟨.braceClose, word, pos⟩ = s.terminated?.bind fun s => s.step ⟨.braceClose, word, pos⟩ :=
  State.step_braceClose_of_kind rfl rfl s

theorem State.step_braceClose_of_terminated? {s : State} {members : Members}
    (h : s.terminated? = some (.member .terminated members)) (word : Text) (pos : Pos) :
    s.step ⟨.braceClose, word, pos⟩ = some members.close := by
  rw [State.step_braceClose, h]
  rfl

/-! ## a class that is complete -/

theorem Scope.add_eq_program {s : Stmt} {scope : Scope} {stmts : List Stmt} (h : scope.add s = .program stmts) :
    ∃ done, scope = .program done ∧ stmts = s :: done := by
  cases scope with
  | program done =>
    obtain rfl := Scope.program.inj h
    exact ⟨done, rfl, rfl⟩
  | block => simp [Scope.add] at h

section ClassDecl

variable {t : Token} (ht : t.kind = .terminator) {entry : Entry} {pos : Pos} {name : Ident} {shape : ClassShape}
  {done : List Stmt}
include ht

theorem expressionEnd_ne_classDecl (e : Expr) (slot : Slot) :
    expressionEnd e slot t ≠ some (.statement entry (.program (.classDecl pos name shape :: done))) := by
  intro h
  fun_induction expressionEnd e slot t with
  | case1 e scope | case2 e pos scope =>
    simp only [Scope.statementEnd, ht, Option.some.injEq, State.statement.injEq] at h
    obtain ⟨_, _, he⟩ := Scope.add_eq_program h.2
    simp at he
  | case3 e name declared vars scope =>
    simp only [variableEnd, Scope.statementEnd, ht, Option.some.injEq, State.statement.injEq] at h
    obtain ⟨_, _, he⟩ := Scope.add_eq_program h.2
    simp [Variables.toStmt] at he
  | case9 _ _ _ ih | case10 _ _ _ _ ih => exact ih h
  | _ => simp_all [parameterEnd, Members.memberEnd]

theorem operandEnd_ne_classDecl (e : Expr) (operand : Operand) :
    operandEnd e operand t ≠ some (.statement entry (.program (.classDecl pos name shape :: done))) := by
  simpa only [operandEnd, ht] using expressionEnd_ne_classDecl ht _ _

end ClassDecl

/-- Only a terminator leads from behind a statement or member to the next statement. -/
theorem State.terminated?_of_lineEnded? {s : State} {entry : Entry} {scope : Scope}
    (hs : ∀ e scope, s ≠ .statement e scope) (h : s.lineEnded? = some (.statement entry scope)) :
    s.terminated? = some (.statement entry scope) := by
  unfold State.lineEnded? at h
  split at h
  · exact h
  · exact absurd (Option.some.inj h) (hs _ _)

/-- Where a brace closes a class that is the only statement of a program, a terminator leads to the end of its
members. -/
theorem State.terminated?_of_conclude? {s s' : State} {word : Text} {p pos : Pos} {name : Ident}
    {typeParams : List TypeParam} {heritage : Option Heritage} {members : List Member}
    (h : s.step ⟨.braceClose, word, p⟩ = some s')
    (hc : s'.conclude? = some ⟨[.classDecl pos name (.mk typeParams heritage members)]⟩) :
    s.terminated? = some (.member .terminated
      (.mk (.declaration pos name (.program [])) typeParams heritage members.reverse)) := by
  rw [State.step_braceClose] at h
  obtain ⟨s₁, h₁, h⟩ := Option.bind_eq_some_iff.1 h
  obtain ⟨entry, he⟩ := State.conclude?_eq_some_iff.1 hc
  rw [h₁]
  obtain ⟨scope, rfl⟩ | ⟨⟨owner, typeParams', heritage', done⟩, rfl⟩ := State.isTerminated_step rfl h₁
  · -- no block is a class
    exfalso
    cases scope with
    | program done => simp [State.step, Scope.close] at h
    | block pos owner sig done =>
      obtain rfl := Option.some.inj h
      cases owner with
      | declaration pos name scope =>
        have ht := State.terminated?_of_lineEnded? (s := .statementEnd _) (by simp) he
        obtain ⟨_, _, he⟩ := Scope.add_eq_program (State.statement.inj (Option.some.inj ht)).2
        simp at he
      | function pos operand =>
        have ht := State.terminated?_of_lineEnded? (s := .operandEnd _ _) (by simp) he
        exact operandEnd_ne_classDecl (t := ⟨.terminator, [], .start⟩) rfl _ _ ht
      | arrow pos slot =>
        have ht := State.terminated?_of_lineEnded? (s := .expressionEnd _ _) (by simp) he
        exact expressionEnd_ne_classDecl (t := ⟨.terminator, [], .start⟩) rfl _ _ ht
      | method name members =>
        have ht := State.terminated?_of_lineEnded? (s := .memberEnd _) (by simp) he
        simp [State.terminated?, State.step, Members.memberEnd] at ht
  · obtain rfl := Option.some.inj h
    cases owner with
    | declaration pos' name' scope =>
      have ht := State.terminated?_of_lineEnded? (s := .statementEnd _) (by simp) he
      obtain ⟨stmts, rfl, he⟩ := Scope.add_eq_program (State.statement.inj (Option.some.inj ht)).2
      cases he
      rw [List.reverse_reverse]
    | expression pos operand =>
      have ht := State.terminated?_of_lineEnded? (s := .operandEnd _ _) (by simp) he
      exact absurd ht (operandEnd_ne_classDecl (t := ⟨.terminator, [], .start⟩) rfl _ _)

/-! ## what a separator cuts off -/

theorem commentTail?_append_eq_none {t u : Text} (ht : commentTail? t = none) (hu : commentTail? u = none) :
    commentTail? (t ++ lineFeed :: u) = none := by
  have hfeed : commentTail? (lineFeed :: u) = none := by
    cases u with
    | nil => rfl
    | cons c u => simp [commentTail?, show lineFeed ≠ CodePoint.ofChar '*' by decide, hu]
  fun_induction commentTail? t with
  | case1 => simp at ht
  | case2 a b cs hab ih =>
    have hcs := ih (by simpa using ht)
    rw [List.cons_append] at hcs
    rw [List.cons_append, List.cons_append, commentTail?, if_neg hab, hcs]
    rfl
  | case3 t ht =>
    rcases t with _ | ⟨a, _ | ⟨b, cs⟩⟩
    · exact hfeed
    · simp [commentTail?, show lineFeed ≠ CodePoint.ofChar '/' by decide, hfeed]
    · exact absurd rfl (ht a b cs)

/-- What is read of a line with a line feed behind it is read of the line alone. -/
theorem State.Reads.of_append_lineFeed {s s' : State} {pos : Pos} {t u : Text} (ht : lineFeed ∉ t)
    (hu : commentTail? u = none) (h : s.Reads pos (t ++ lineFeed :: u) s') :
    ∃ s₁, s.Reads pos t s₁ ∧ s₁.Reads (pos.after t) (lineFeed :: u) s' := by
  induction hn : t.length using Nat.strongRecOn generalizing s pos t with
  | _ n ih =>
    subst hn
    by_cases hne : t = []
    · subst hne
      exact ⟨s, .nil _ _, h⟩
    have hhead : t.head? ≠ some lineFeed := fun he => ht (List.mem_of_mem_head? he)
    have hun : ¬ Unfinished t := by
      rintro ⟨cs, rfl, hcs⟩
      exact h.not_unfinished ⟨_, rfl, commentTail?_append_eq_none hcs hu⟩
    generalize hw : t ++ lineFeed :: u = w at h
    cases h with
    | nil => simp at hw
    | @cons _ s₁ _ _ _ lexeme rest kind scanned read reads =>
      subst hw
      rw [scan_append_lineFeed s.admits hne hhead hun] at scanned
      obtain ⟨⟨k, l, r⟩, hscan, he⟩ := Option.map_eq_some_iff.1 scanned
      obtain ⟨rfl, rfl, rfl⟩ : k = kind ∧ l = lexeme ∧ r ++ lineFeed :: u = rest := by simpa [goOn] using he
      obtain rfl : t = l ++ r := (splits_scan hscan).1
      obtain ⟨s₂, hr, hu'⟩ := ih _ (length_lt_of_scan hscan) (fun hm => ht (by simp [hm])) reads rfl
      exact ⟨s₂, .cons hscan read hr, by rwa [Pos.after_append]⟩

theorem lineComment?_append {t u : Text} {s : Text × Text} (h : lineComment? t = some s) (hu : lineFeed ∉ t ++ u) :
    lineComment? (t ++ u) = some (t ++ u, []) := by
  match t with
  | [] | [_] => simp [lineComment?] at h
  | a :: b :: cs =>
    simp only [lineComment?] at h
    split at h
    · next hab =>
      have hall : ∀ c ∈ cs ++ u, (decide (c ≠ lineFeed)) = true := by
        intro c hc
        simp only [ne_eq, decide_not, Bool.not_eq_eq_eq_not, Bool.not_true, decide_eq_false_iff_not]
        rintro rfl
        exact hu (by simpa using .inr (.inr (by simpa using hc)))
      rw [List.cons_append, List.cons_append, lineComment?, if_pos hab, List.takeWhile_eq_self_iff.2 hall,
        List.dropWhile_eq_nil_iff.2 hall]
    · simp at h

/-- White space in front of a text that is read. -/
theorem State.ReadsOn.blanks {u : Text} {s s' : State} {pos : Pos} {b t : Text} (hb : ∀ c ∈ b, isGap c = true)
    (h : State.ReadsOn u s (pos.after b) t s') : State.ReadsOn u s pos (b ++ t) s' := by
  induction b generalizing pos with
  | nil => exact h
  | cons c b ih => exact .blank (hb c (by simp)) (ih (fun d hd => hb d (by simp [hd])) h)

theorem gap_of_blanks? {admits : Terminal → Bool} {t lexeme rest : Text} {kind : LexemeKind} {l : Text × Text}
    (h : blanks? t = some l) (hscan : scan admits t = some (kind, lexeme, rest)) :
    kind = .gap ∧ ∀ c ∈ lexeme, isGap c = true := by
  cases t with
  | nil => simp [blanks?] at h
  | cons c cs =>
    simp only [blanks?] at h
    split at h
    · next hc =>
      rw [scan_blanks hc] at hscan
      obtain ⟨rfl, rfl, -⟩ : .gap = kind ∧ c :: cs.takeWhile isGap = lexeme ∧ _ := by simpa using hscan
      refine ⟨rfl, fun d hd => ?_⟩
      rcases List.mem_cons.1 hd with rfl | hd
      · exact hc
      · exact List.mem_takeWhile_imp hd
    · simp at h

/-- A line either ends in a comment, which swallows what is put behind it, or it is read in the same way in front of a
separator. -/
theorem State.Reads.append_separator {s s' : State} {pos : Pos} {t : Text} (h : s.Reads pos t s')
    (ht : lineFeed ∉ t) :
    (∀ c u, Separates c → lineFeed ∉ c :: u → s.Reads pos (t ++ c :: u) s') ∨
      ∀ c u, Separates c → State.ReadsOn (c :: u) s pos t s' := by
  induction h with
  | nil => exact .inr fun _ _ _ => .nil _ _
  | @cons s s₁ s' pos t lexeme rest kind scanned read reads ih =>
    have hun := State.Reads.not_unfinished (.cons scanned read reads)
    have hhead : t.head? ≠ some lineFeed := fun he => ht (List.mem_of_mem_head? he)
    obtain rfl : t = lexeme ++ rest := (splits_scan scanned).1
    have hrest : lineFeed ∉ rest := fun hm => ht (by simp [hm])
    cases hcomment : lineComment? (lexeme ++ rest) with
    | some l =>
      have hscan := scan_lineComment s.admits (lineComment?_append hcomment (u := []) (by simpa using ht))
      rw [List.append_nil, scanned] at hscan
      obtain ⟨rfl, rfl⟩ : kind = .gap ∧ rest = [] := by simpa using hscan
      obtain rfl := Option.some.inj read
      cases reads with
      | cons scanned => exact absurd (length_lt_of_scan scanned) (by simp)
      | nil =>
        refine .inl fun c u _ hu => ?_
        have hall : lineFeed ∉ lexeme ++ [] ++ c :: u := by simp_all
        exact .cons (scan_lineComment _ (lineComment?_append hcomment hall)) rfl (.nil _ _)
    | none =>
      cases hblanks : blanks? (lexeme ++ rest) with
      | some l =>
        obtain ⟨rfl, hgap⟩ := gap_of_blanks? hblanks scanned
        obtain rfl := Option.some.inj read
        refine (ih hrest).imp (fun ih c u hc hu => ?_) fun ih c u hc => .blanks hgap (ih c u hc)
        have hskip := State.ReadsOn.blanks (u := rest ++ c :: u) hgap (.nil s (pos.after lexeme))
        rw [List.append_assoc, ← List.append_nil lexeme, hskip.reads_iff, List.append_nil]
        exact ih c u hc hu
      | none =>
        have hscan := fun (c : CodePoint) (hc : Separates c) (u : Text) =>
          scan_append_separator hc scanned hhead hun hcomment hblanks u
        refine (ih hrest).imp (fun ih c u hc hu => ?_) fun ih c u hc => ?_
        · exact .cons (hscan c hc u) read (ih c u hc hu)
        · exact .cons (by simpa using hscan c hc u) read (ih c u hc)

/-! ## the first and the further members -/

/-- A word that starts a statement, and is looked for behind a terminator: there it cannot be the name of a member. -/
def startsStatement (word : Text) : Bool := spellings.any fun (s, kind) => s = word && statementStart.contains kind

example : (spellings.filter fun (s, _) => startsStatement s).map Prod.fst =
    [text "function", text "return", text "const", text "class", text "let", text "var", text "new", text "(",
      text "<"] := by
  decide

theorem name_of_wordKind_opened {members : Members} {c : CodePoint} (hc : isNameStart c = true) (word : Text) :
    wordKind (State.member .opened members).admits (c :: word) = .name := by
  rcases wordKind_eq (State.member .opened members).admits (c :: word) with h | ⟨h, hm⟩
  · exact h
  · generalize wordKind (State.member .opened members).admits (c :: word) = k at h hm
    have hk : k = .name ∨ k = .braceClose := by simpa [State.admits, State.expected] using h
    rcases hk with rfl | rfl
    · rfl
    · have he := spelling_braceClose _ hm rfl
      obtain rfl := (List.cons.inj he).1
      exact absurd hc (by decide)

theorem name_of_wordKind_terminated {members : Members} {c : CodePoint} (hc : isNameStart c = true) {word : Text}
    (hw : startsStatement (c :: word) = false) :
    wordKind (State.member .terminated members).admits (c :: word) = .name := by
  rcases wordKind_eq (State.member .terminated members).admits (c :: word) with h | ⟨h, hm⟩
  · exact h
  · generalize wordKind (State.member .terminated members).admits (c :: word) = k at h hm
    exfalso
    have hk : statementStart.contains k = true ∨ k = .braceClose := by
      simpa [State.admits, State.expected, or_assoc] using h
    rcases hk with hk | rfl
    · have := List.any_eq_false.1 hw _ hm
      simp_all
    · have he := spelling_braceClose _ hm rfl
      obtain rfl := (List.cons.inj he).1
      exact absurd hc (by decide)

/-- The scanners for what may stand anywhere. -/
def gapScanners : List (Text → Option (LexemeKind × Text × Text)) := [
  tagged (fun _ => .gap) blockComment?, tagged (fun _ => .gap) lineComment?, tagged (fun _ => .gap) blanks?,
  tagged (fun _ => .lineEnd) lineEnds?, tagged (fun _ => .semicolon) semicolon?]

theorem scan_eq_or {admits : Terminal → Bool} {t : Text} (hstring : admits .string = false ∨ string? t = none)
    (hname : name? t = none) (hnumber : admits .number = false ∨ number? t = none) :
    scan admits t = (gapScanners.findSome? (· t)).or (spelled? admits t) := by
  have h1 : onlyIf (admits .string) (tagged (fun _ => .token .string) string?) t = none := by
    rcases hstring with h | h <;> simp [onlyIf, tagged, h]
  have h2 : onlyIf (admits .name) (tagged (fun word => .token (wordKind admits word)) name?) t = none := by
    simp [onlyIf, tagged, hname]
  have h3 : onlyIf (admits .number) (tagged (fun _ => .token .number) number?) t = none := by
    rcases hnumber with h | h <;> simp [onlyIf, tagged, h]
  have hscan : scan admits t = (gapScanners ++ [spelled? admits]).findSome? (· t) := by
    simp only [scan, scanners, gapScanners, List.cons_append, List.nil_append, List.findSome?_cons, h1, h2, h3]
  rw [hscan, List.findSome?_append, List.findSome?_singleton]

/-- What may stand anywhere starts neither like a string nor like a number. -/
theorem of_gapScanners {c : CodePoint} {cs : Text} {l : LexemeKind × Text × Text}
    (h : gapScanners.findSome? (· (c :: cs)) = some l) :
    string? (c :: cs) = none ∧ number? (c :: cs) = none := by
  obtain ⟨f, hf, hfs⟩ := List.exists_of_findSome?_eq_some h
  have hc : c = CodePoint.ofChar '/' ∨ isGap c = true ∨ c = lineFeed ∨ c = CodePoint.ofChar ';' := by
    simp only [gapScanners, List.mem_cons, List.not_mem_nil, or_false] at hf
    rcases hf with rfl | rfl | rfl | rfl | rfl
    · refine .inl (Classical.byContradiction fun hne => ?_)
      simp [tagged, blockComment?_cons hne] at hfs
    · refine .inl (Classical.byContradiction fun hne => ?_)
      simp [tagged, lineComment?_cons hne] at hfs
    · refine .inr (.inl (Classical.byContradiction fun hne => ?_))
      simp [tagged, blanks?, hne] at hfs
    · refine .inr (.inr (.inl (Classical.byContradiction fun hne => ?_)))
      simp [tagged, lineEnds?, hne] at hfs
    · refine .inr (.inr (.inr (Classical.byContradiction fun hne => ?_)))
      simp [tagged, semicolon?, hne] at hfs
  simp only [isGap, Bool.or_eq_true, decide_eq_true_eq, or_assoc] at hc
  rcases hc with rfl | rfl | rfl | rfl | rfl | rfl | rfl <;> exact ⟨rfl, rfl⟩

theorem scan_name {admits : Terminal → Bool} (ha : admits .name = true) {c : CodePoint} (hc : isNameStart c = true)
    (cs : Text) :
    scan admits (c :: cs) = some (.token (wordKind admits (c :: cs.takeWhile isNamePart)),
      c :: cs.takeWhile isNamePart, cs.dropWhile isNamePart) := by
  have hstring : string? (c :: cs) = none := by
    refine if_neg fun hq => ?_
    rcases (by simpa using hq : c = CodePoint.ofChar '"' ∨ c = CodePoint.ofChar '\'') with rfl | rfl <;>
      exact absurd hc (by decide)
  simp [scan, scanners, onlyIf, tagged, hstring, name?, ha, hc]

theorem spelled?_opened {members : Members} {c : CodePoint} (hc : c ≠ '\x7d') (cs : Text) :
    spelled? (State.member .opened members).admits (c :: cs) = none := by
  have hname : ∀ s ∈ spellings, s.2 ≠ .name := by decide
  refine Option.eq_none_iff_forall_ne_some.2 fun ⟨kind, word, rest⟩ h => ?_
  obtain ⟨k, -, hm, ha, ht⟩ := of_spelled?_eq_some h
  have hk : k = .name ∨ k = .braceClose := by simpa [State.admits, State.expected] using ha
  rcases hk with rfl | rfl
  · exact hname _ hm rfl
  · obtain rfl : word = text "\x7d" := spelling_braceClose _ hm rfl
    exact hc (List.cons.inj ht).1

/-- What starts a member behind the opening brace starts it behind a terminator, too, if it is not a word that starts
a statement. -/
theorem scan_member_terminated {members : Members} {t lexeme rest : Text} {kind : LexemeKind}
    (h : scan (State.member .opened members).admits t = some (kind, lexeme, rest))
    (hw : kind = .token .name → startsStatement lexeme = false) :
    scan (State.member .terminated members).admits t = some (kind, lexeme, rest) := by
  cases t with
  | nil => exact absurd (length_lt_of_scan h) (by simp)
  | cons c cs =>
    by_cases hbrace : c = CodePoint.ofChar '\x7d'
    · subst hbrace
      rwa [scan_braceClose] at h ⊢
    by_cases hstart : isNameStart c = true
    · rw [scan_name rfl hstart, name_of_wordKind_opened hstart] at h
      obtain ⟨rfl, rfl, rfl⟩ : .token .name = kind ∧ _ = lexeme ∧ _ = rest := by simpa using h
      rw [scan_name rfl hstart, name_of_wordKind_terminated hstart (hw rfl)]
    · have hname : name? (c :: cs) = none := if_neg hstart
      rw [scan_eq_or (.inl rfl) hname (.inl rfl), spelled?_opened hbrace, Option.or_none] at h
      obtain ⟨hstring, hnumber⟩ := of_gapScanners h
      rw [scan_eq_or (.inr hstring) hname (.inr hnumber), h, Option.some_or]

/-- A text behind the opening brace is read in the same way behind a terminator, if it has more than gaps and its first
name does not start a statement. -/
theorem State.ReadsOn.of_opened {u t : Text} {members : Members} {pos : Pos} {s : State}
    (h : State.ReadsOn u (.member .opened members) pos t s)
    (hname : ∀ word, members.trail [.member word] <+: s.trail → startsStatement word = false) :
    s = .member .opened members ∨ State.ReadsOn u (.member .terminated members) pos t s := by
  obtain ⟨s₀, hs⟩ : ∃ s₀, s₀ = State.member .opened members := ⟨_, rfl⟩
  rw [← hs] at h
  induction h with
  | nil => exact .inl hs
  | blank hc _ ih => exact (ih hname hs).imp_right (.blank hc)
  | @cons s₀ s₁ s pos lexeme rest kind scanned read reads ih =>
    subst hs
    have hscan := scan_member_terminated scanned fun hk => by
      subst hk
      obtain rfl := Option.some.inj read
      exact hname lexeme reads.trail
    cases kind with
    | gap => exact (ih hname (Option.some.inj read).symm).imp_right (.cons hscan rfl)
    | lineEnd => exact (ih hname (Option.some.inj read).symm).imp_right (.cons hscan rfl)
    | semicolon | token k => exact .inr (.cons hscan read reads)

/-! ## one member -/

/-- The class that a member is tried in. -/
def trialClass : Members := .mk (.declaration ⟨1, 1⟩ ⟨text "C", ⟨1, 7⟩⟩ (.program [])) [] none []

/-- One lexeme that is spelled out, and what follows it. -/
theorem State.reads_lexeme_iff {s s₁ s' : State} {pos : Pos} {rest : Text} (kind : LexemeKind) (word : Text)
    (scanned : scan s.admits (word ++ rest) = some (kind, word, rest)) (read : s.read pos kind word = some s₁) :
    s.Reads pos (word ++ rest) s' ↔ s₁.Reads (pos.after word) rest s' :=
  State.reads_cons_iff scanned read

theorem reads_classHead_iff {t : Text} {s : State} :
    State.start.Reads .start (text "class C \x7b" ++ t) s ↔ (State.member .opened trialClass).Reads ⟨1, 10⟩ t s := by
  refine (State.reads_lexeme_iff (.token .classWord) (text "class") rfl rfl).trans ?_
  refine (State.reads_lexeme_iff .gap (text " ") rfl rfl).trans ?_
  refine (State.reads_lexeme_iff (.token .name) (text "C") rfl rfl).trans ?_
  refine (State.reads_lexeme_iff .gap (text " ") rfl rfl).trans ?_
  exact State.reads_lexeme_iff (.token .braceOpen) (text "\x7b") (by cases t <;> rfl) rfl

theorem State.Reads.unique {s s₁ s₂ : State} {pos : Pos} {t : Text} (h₁ : s.Reads pos t s₁) (h₂ : s.Reads pos t s₂) :
    s₁ = s₂ := by
  induction h₁ with
  | nil =>
    cases h₂ with
    | nil => rfl
    | cons scanned => exact absurd (length_lt_of_scan scanned) (by simp)
  | cons scanned read _ ih => exact ih ((State.reads_cons_iff scanned read).1 h₂)

theorem State.reads_braceClose_iff {s s' : State} {pos : Pos} :
    s.Reads pos (text "\x7d") s' ↔
      s.admits .braceClose = true ∧ s.step ⟨.braceClose, text "\x7d", pos⟩ = some s' := by
  have hscan := scan_braceClose s.admits []
  constructor
  · intro h
    cases h with
    | cons scanned read reads =>
      erw [hscan] at scanned
      split at scanned
      · next ha =>
        obtain ⟨rfl, rfl, rfl⟩ : _ ∧ _ ∧ _ := by simpa using scanned
        cases reads with
        | nil => exact ⟨ha, read⟩
        | cons scanned => exact absurd (length_lt_of_scan scanned) (by simp)
      · simp at scanned
  · rintro ⟨ha, hs⟩
    rw [if_pos ha] at hscan
    exact .cons hscan hs (.nil _ _)

/-- A text that spells a class with one member, whether the closing brace follows in the same line or in the next, is
read in front of every separator to the end of that member. -/
theorem exists_readsOn_of_parse {t : Text} {m : Member} {pos : Pos} {name : Ident} {typeParams : List TypeParam}
    {heritage : Option Heritage} {p : Program} (ht : lineFeed ∉ t)
    (h : parse (text "class C \x7b " ++ t ++ text " \x7d") =
      .ok ⟨[.classDecl pos name (.mk typeParams heritage [m])]⟩)
    (h' : parse (text "class C \x7b " ++ t ++ lineFeed :: text "\x7d") = .ok p) :
    ∃ s, (∀ c u, Separates c → State.ReadsOn (c :: u) (.member .opened trialClass) ⟨1, 11⟩ t s) ∧
      s.terminated? = some (.member .terminated (.mk (.declaration pos name (.program [])) typeParams heritage [m])) ∧
      s.admits .braceClose = true := by
  have hblank : isGap ' ' = true := rfl
  have hhead : ∀ u : Text, text "class C \x7b " ++ t ++ u =
      text "class C \x7b" ++ (CodePoint.ofChar ' ' :: (t ++ u)) := fun u => List.append_assoc ..
  rw [hhead, parse_eq_ok_iff] at h h'
  obtain ⟨s₁, hr, hc⟩ := h
  obtain ⟨s₂, hr', -⟩ := h'
  rw [reads_classHead_iff, State.reads_blank_iff hblank] at hr hr'
  obtain ⟨s, hs, hfeed⟩ := hr'.of_append_lineFeed ht rfl
  rcases hs.append_separator ht with hcomment | hreads
  · -- the class would be complete before the comment that hides the brace, and no brace could follow it
    exfalso
    obtain rfl := hr.unique (hcomment ' ' (text "\x7d") separates_blank (by decide))
    obtain ⟨e, he⟩ := State.conclude?_eq_some_iff.1 hc
    obtain ⟨s₃, hs₃, hclose⟩ := State.reads_lineFeed_iff.1 hfeed
    obtain rfl := Option.some.inj (he.symm.trans hs₃)
    have hstep := (State.reads_braceClose_iff.1 hclose).2
    simp [State.step, Scope.close] at hstep
  · have hclose := (hreads ' ' (text "\x7d") separates_blank).reads_iff.1 hr
    obtain ⟨ha, hstep⟩ := State.reads_braceClose_iff.1 ((State.reads_blank_iff hblank).1 hclose)
    exact ⟨s, hreads, State.terminated?_of_conclude? hstep hc, ha⟩

/-! ## a member behind others -/

theorem Pos.after_of_notMem (p : Pos) {t : Text} (ht : lineFeed ∉ t) : p.after t = ⟨p.line, p.column + t.length⟩ := by
  induction t generalizing p with
  | nil => rfl
  | cons c t ih =>
    simp only [List.mem_cons, not_or] at ht
    show (p.next c).after t = _
    rw [ih _ ht.2, Pos.next, if_neg (Ne.symm ht.1), List.length_cons]
    simp only [Pos.mk.injEq, true_and]
    omega

/-- Inside another class, where the text that is tried behind the opening brace is written at `p`. -/
def Embedding.inBody (p : Pos) (outer : Members) : Embedding where
  move q := ⟨p.line, p.column + (q.column - 11)⟩
  scope := .program
  add_scope := Scope.add_program
  brackets_scope := Scope.brackets_program
  body := some outer

theorem embed_inBody (p pos : Pos) (name : Ident) (typeParams : List TypeParam) (heritage : Option Heritage)
    (ms : List Member) (outer : Members) :
    Members.embed (.inBody p outer) (.mk (.declaration pos name (.program [])) typeParams heritage ms) =
      outer.behind (.mk (.declaration pos name (.program [])) typeParams heritage
        (ms.map (Member.move (Embedding.inBody p outer).move))) := by
  cases outer
  rfl

@[simp]
theorem Members.behind_nil (outer : Members) (owner : ClassOwner) (typeParams : List TypeParam)
    (heritage : Option Heritage) : outer.behind (.mk owner typeParams heritage []) = outer := by
  cases outer
  rfl

@[simp]
theorem Members.behind_singleton (outer : Members) (owner : ClassOwner) (typeParams : List TypeParam)
    (heritage : Option Heritage) (m : Member) : outer.behind (.mk owner typeParams heritage [m]) = outer.add m := by
  cases outer
  rfl

/-- The text is read as the member in every class, behind any other members. -/
structure ReadsMember (t : Text) (m : Member) : Prop where
  lineFeed_notMem : lineFeed ∉ t
  reads : ∀ (e : Entry) (outer : Members) (p : Pos), (e = .terminated → startsStatement m.name.text = false) →
    ∃ f s, (∀ c u, Separates c → State.ReadsOn (c :: u) (.member e outer) p t s) ∧
      s.terminated? = some (.member .terminated (outer.add (m.move f))) ∧ s.admits .braceClose = true

/-- A text that spells a class with one member is read as that member in every class. -/
theorem ReadsMember.of_parse {t : Text} {m : Member} {pos : Pos} {name : Ident} {typeParams : List TypeParam}
    {heritage : Option Heritage} {p : Program} (ht : lineFeed ∉ t)
    (h : parse (text "class C \x7b " ++ t ++ text " \x7d") =
      .ok ⟨[.classDecl pos name (.mk typeParams heritage [m])]⟩)
    (h' : parse (text "class C \x7b " ++ t ++ lineFeed :: text "\x7d") = .ok p) : ReadsMember t m := by
  obtain ⟨s, hreads, hterm, hbrace⟩ := exists_readsOn_of_parse ht h h'
  have htrail : s.trail <+: [.body, .member m.name.text] := State.trail_step hterm
  have hopened : ∀ word, trialClass.trail [.member word] <+: s.trail → word = m.name.text := by
    intro word hword
    simpa [trialClass, Members.trail, ClassOwner.trailInBody, Scope.trailInClass] using hword.trans htrail
  have hstage : stage s.trail = stage (State.member .terminated
      (.mk (.declaration pos name (.program [])) typeParams heritage [m])).trail := by
    refine Nat.le_antisymm (stage_le htrail) ?_
    exact (stage_le (hreads ';' [] separates_semicolon).trail : stage [.body] ≤ _)
  refine ⟨ht, fun e outer p he => ⟨(Embedding.inBody p outer).move, s.embed (.inBody p outer), ?_, ?_, ?_⟩⟩
  · intro c u hc
    have hentry : State.ReadsOn (c :: u) (.member e trialClass) ⟨1, 11⟩ t s := by
      cases e with
      | opened => exact hreads c u hc
      | terminated =>
        refine ((hreads c u hc).of_opened fun word hword => ?_).resolve_left ?_
        · rw [hopened word hword]
          exact he rfl
        · rintro rfl
          simp [State.terminated?, State.step, Members.memberEnd, trialClass] at hterm
    have hmove : ∀ v w, t = v ++ w → w ≠ [] → (Embedding.inBody p outer).move (Pos.after ⟨1, 11⟩ v) = p.after v := by
      rintro v w rfl -
      have hv : lineFeed ∉ v := fun hm => ht (by simp [hm])
      rw [Pos.after_of_notMem _ hv, Pos.after_of_notMem _ hv]
      simp [Embedding.inBody]
    have hembed := hentry.embed (.inBody p outer) hmove (.inr hstage)
    rwa [State.embed, trialClass, embed_inBody, List.map_nil, Members.behind_nil] at hembed
  · have hembed := State.terminated?_embed (.inBody p outer) (.inr hstage.symm) hterm
    rwa [State.embed, embed_inBody, List.map_singleton, Members.behind_singleton] at hembed
  · rcases State.expected_embed (.inBody p outer) s with he | he
    · rwa [State.admits, he]
    · simp [State.admits, he]

/-! ## members with separators between them -/

theorem scan_semicolon (admits : Terminal → Bool) (cs : Text) :
    scan admits (CodePoint.ofChar ';' :: cs) = some (.semicolon, [CodePoint.ofChar ';'], cs) := by
  have h1 := blockComment?_cons (c := CodePoint.ofChar ';') (by decide) cs
  have h2 := lineComment?_cons (c := CodePoint.ofChar ';') (by decide) cs
  rw [scan_eq_or (.inr rfl) rfl (.inr rfl)]
  simp only [gapScanners, List.findSome?_cons, tagged, h1, h2]
  rfl

/-- The members are the same, up to their places. -/
def Relocated (ms ms' : List Member) : Prop := List.Forall₂ (fun m m' => ∃ f, m' = m.move f) ms ms'

/-- With more members. -/
def Members.addMany (ms : List Member) (members : Members) : Members :=
  ms.foldl (fun members m => members.add m) members

theorem Members.addMany_mk (ms done : List Member) (owner : ClassOwner) (typeParams : List TypeParam)
    (heritage : Option Heritage) :
    (Members.mk owner typeParams heritage done).addMany ms = .mk owner typeParams heritage (ms.reverse ++ done) := by
  induction ms generalizing done with
  | nil => rfl
  | cons m ms ih =>
    rw [List.reverse_cons, List.append_assoc]
    exact ih (m :: done)

/-- Where the members of a class are complete, a closing brace ends the class. -/
theorem State.reads_braceClose {s : State} {members : Members} {pos : Pos}
    (h : s.terminated? = some (.member .terminated members)) (ha : s.admits .braceClose = true) :
    s.Reads pos (text "\x7d") members.close :=
  State.reads_braceClose_iff.2 ⟨ha, State.step_braceClose_of_terminated? h _ _⟩

theorem reads_semicolons {ts : List Text} {ms : List Member} (h : List.Forall₂ ReadsMember ts ms) (hne : ts ≠ [])
    (hw : ∀ m ∈ ms.tail, startsStatement m.name.text = false) {e : Entry} (outer : Members) (p : Pos)
    (he : e = .terminated → ∀ m ∈ ms.head?, startsStatement m.name.text = false) :
    ∃ ms', Relocated ms ms' ∧
      (State.member e outer).Reads p (Text.join (text "; ") ts ++ text " \x7d") (outer.addMany ms').close := by
  induction h generalizing e outer p with
  | nil => exact absurd rfl hne
  | @cons t m ts ms ht hts ih =>
    obtain ⟨f, s, hreads, hterm, hbrace⟩ := ht.reads e outer p fun hentry => he hentry m rfl
    cases hts with
    | nil =>
      refine ⟨[m.move f], .cons ⟨f, rfl⟩ .nil, ?_⟩
      refine (hreads ' ' (text "\x7d") separates_blank).reads_iff.2 ?_
      exact (State.reads_blank_iff rfl).2 (State.reads_braceClose hterm hbrace)
    | @cons t' m' ts ms ht' hts =>
      have hnext := ih (by simp) (fun m hm => hw m (List.mem_of_mem_tail hm)) (e := .terminated) (outer.add (m.move f))
        ((p.after t).after (text "; ")) (fun _ m hm => hw m (List.mem_of_mem_head? hm))
      obtain ⟨ms', hms, hnext⟩ := hnext
      refine ⟨m.move f :: ms', .cons ⟨f, rfl⟩ hms, ?_⟩
      have htext : Text.join (text "; ") (t :: t' :: ts) ++ text " \x7d" =
          t ++ CodePoint.ofChar ';' :: CodePoint.ofChar ' ' :: (Text.join (text "; ") (t' :: ts) ++ text " \x7d") := by
        simp [Text.join, text]
      rw [htext]
      refine (hreads ';' _ separates_semicolon).reads_iff.2 ?_
      exact .cons (scan_semicolon ..) hterm ((State.reads_blank_iff rfl).2 hnext)

/-- A property of which only the name and a question mark are written. -/
def Member.isBareOptional : Member → Bool
  | .property _ true none none => true
  | _ => false

theorem Member.isBareOptional_move (f : Pos → Pos) (m : Member) : (m.move f).isBareOptional = m.isBareOptional := by
  cases m with
  | method => rfl
  | property name optional declared value => cases optional <;> cases declared <;> cases value <;> rfl

/-- Behind the members of a class a line end is a terminator, except behind a question mark. -/
theorem State.lineEnded?_of_terminated? {s : State} {members : Members}
    (h : s.terminated? = some (.member .terminated members)) :
    (∃ e, s.lineEnded? = some (.member e members)) ∨ s.lineEnded? = some s ∧
      ∃ (name : Ident) (members' : Members), members = members'.add (.property name true none none) := by
  have hb : s.brackets.1 = .empty := by
    have hl := congrArg Layout.inner (State.layout_terminated? h)
    exact hl.symm.trans (Members.brackets_fst members)
  cases hc : s.canEnd with
  | true => exact .inl ⟨.terminated, by simp [State.lineEnded?, hc, hb, h]⟩
  | false =>
    have hl : s.lineEnded? = some s := by simp [State.lineEnded?, hc]
    cases s with
    | member e members' =>
      obtain rfl : members' = members := by simpa [State.terminated?, State.step, Members.memberEnd] using h
      exact .inl ⟨e, hl⟩
    | propertyOptional name members' =>
      refine .inr ⟨hl, name, members', ?_⟩
      simpa [State.terminated?, State.step, Members.memberEnd] using h.symm
    | _ =>
      simp_all [State.terminated?, State.step, State.canEnd, parameterEnd, typeParamEnd, expressionBegin, operandBegin,
        signatureBegin, classHeadBegin, alternativeBegin, typeBegin]

theorem Members.add_inj {members members' : Members} {m m' : Member} (h : members.add m = members'.add m') :
    m = m' := by
  cases members
  cases members'
  simp only [Members.add, Members.mk.injEq, List.cons.injEq] at h
  exact h.2.2.2.1

theorem reads_lines {ts : List Text} {ms : List Member} (h : List.Forall₂ ReadsMember ts ms) (hne : ts ≠ [])
    (hw : ∀ m ∈ ms.tail, startsStatement m.name.text = false) (hb : ∀ m ∈ ms.dropLast, m.isBareOptional = false)
    {e : Entry} (outer : Members) (p : Pos)
    (he : e = .terminated → ∀ m ∈ ms.head?, startsStatement m.name.text = false) :
    ∃ ms', Relocated ms ms' ∧
      (State.member e outer).Reads p (Text.join [lineFeed] ts ++ lineFeed :: text "\x7d")
        (outer.addMany ms').close := by
  induction h generalizing e outer p with
  | nil => exact absurd rfl hne
  | @cons t m ts ms ht hts ih =>
    obtain ⟨f, s, hreads, hterm, hbrace⟩ := ht.reads e outer p fun hentry => he hentry m rfl
    have hend := State.lineEnded?_of_terminated? hterm
    cases hts with
    | nil =>
      refine ⟨[m.move f], .cons ⟨f, rfl⟩ .nil, ?_⟩
      refine (hreads lineFeed (text "\x7d") separates_lineFeed).reads_iff.2 ?_
      obtain ⟨e', hend⟩ | ⟨hend, -⟩ := hend
      · exact State.reads_lineFeed_iff.2 ⟨_, hend, State.reads_braceClose rfl (by cases e' <;> rfl)⟩
      · exact State.reads_lineFeed_iff.2 ⟨_, hend, State.reads_braceClose hterm hbrace⟩
    | @cons t' m' ts ms ht' hts =>
      obtain ⟨e', hend⟩ | ⟨-, name, members, hadd⟩ := hend
      · have hnext := ih (by simp) (fun m hm => hw m (List.mem_of_mem_tail hm))
          (fun m hm => hb m (List.mem_cons_of_mem _ hm)) (e := e') (outer.add (m.move f)) ⟨(p.after t).line + 1, 1⟩
          (fun _ m hm => hw m (List.mem_of_mem_head? hm))
        obtain ⟨ms', hms, hnext⟩ := hnext
        refine ⟨m.move f :: ms', .cons ⟨f, rfl⟩ hms, ?_⟩
        have htext : Text.join [lineFeed] (t :: t' :: ts) ++ lineFeed :: text "\x7d" =
            t ++ lineFeed :: (Text.join [lineFeed] (t' :: ts) ++ lineFeed :: text "\x7d") := by
          simp [Text.join]
        rw [htext]
        refine (hreads lineFeed _ separates_lineFeed).reads_iff.2 ?_
        exact State.reads_lineFeed_iff.2 ⟨_, hend, hnext⟩
      · -- only a bare optional property is not ended by a line feed
        have hbare := congrArg Member.isBareOptional (Members.add_inj hadd)
        rw [Member.isBareOptional_move, hb m (by simp)] at hbare
        exact absurd hbare (by simp [Member.isBareOptional])

/-! ## classes -/

/-- The class with these members, where it is the only statement of a source. -/
def trialProgram (ms : List Member) : Program := ⟨[.classDecl ⟨1, 1⟩ ⟨text "C", ⟨1, 7⟩⟩ (.mk [] none ms)]⟩

theorem conclude?_addMany_trialClass (ms : List Member) :
    (trialClass.addMany ms).close.conclude? = some (trialProgram ms) := by
  rw [trialClass, Members.addMany_mk, List.append_nil, Members.close, List.reverse_reverse]
  rfl

/-- Members with semicolons between them are members of one class. -/
theorem parse_semicolons {ts : List Text} {ms : List Member} (h : List.Forall₂ ReadsMember ts ms) (hne : ts ≠ [])
    (hw : ∀ m ∈ ms.tail, startsStatement m.name.text = false) :
    ∃ ms', Relocated ms ms' ∧
      parse (text "class C \x7b " ++ Text.join (text "; ") ts ++ text " \x7d") = .ok (trialProgram ms') := by
  obtain ⟨ms', hms, hreads⟩ := reads_semicolons h hne hw (e := .opened) trialClass ⟨1, 11⟩ (by simp)
  refine ⟨ms', hms, parse_eq_ok_iff.2 ⟨_, ?_, conclude?_addMany_trialClass ms'⟩⟩
  rw [List.append_assoc]
  exact reads_classHead_iff.2 ((State.reads_blank_iff rfl).2 hreads)

/-- Members on lines of their own are members of one class. -/
theorem parse_lines {ts : List Text} {ms : List Member} (h : List.Forall₂ ReadsMember ts ms) (hne : ts ≠ [])
    (hw : ∀ m ∈ ms.tail, startsStatement m.name.text = false) (hb : ∀ m ∈ ms.dropLast, m.isBareOptional = false) :
    ∃ ms', Relocated ms ms' ∧
      parse (text "class C \x7b" ++ lineFeed :: (Text.join [lineFeed] ts ++ lineFeed :: text "\x7d")) =
        .ok (trialProgram ms') := by
  obtain ⟨ms', hms, hreads⟩ := reads_lines h hne hw hb (e := .opened) trialClass ⟨2, 1⟩ (by simp)
  refine ⟨ms', hms, parse_eq_ok_iff.2 ⟨_, ?_, conclude?_addMany_trialClass ms'⟩⟩
  exact reads_classHead_iff.2 (State.reads_lineFeed_iff.2 ⟨_, rfl, hreads⟩)

end TypeLint.Source
