import Mathlib.Logic.Function.Iterate
import TypeLint.Proofs.Lint.Places
import TypeLint.Proofs.Tree.Relocate

/-!
# Sources made of sources

A source below another one, or inside a block, keeps its diagnostics; only their lines change.

* `mentions_relocate` — what is looked at in a relocated tree;
* `Diagnostic.down` — a diagnostic, some lines further down;
* `found_relocate` — the diagnostics of a tree that is some lines further down;
* `Linter.lintProgram_append`, `Linter.lintSource_append` — the diagnostics of a source below another one;
* `Linter.lintProgram_inRun`, `Linter.lintSource_inRun` — the diagnostics of a source inside a block.
-/

namespace TypeLint.Rule

/-- The mention, with the locations changed. -/
def Mention.relocate (g : Tree.Loc → Tree.Loc) (m : Mention) : Mention := ⟨m.position, m.node.relocate g⟩

end TypeLint.Rule

namespace TypeLint.Tree

open Rule

/-! ## relocated trees -/

/-- The location, that many lines further down. -/
def Loc.down (n : Nat) (l : Loc) : Loc := { l with line := l.line.map (· + (n : Int)) }

theorem Loc.down_zero : Loc.down 0 = id := by
  funext l
  simp [Loc.down]

theorem Loc.down_down (m n : Nat) (l : Loc) : (l.down m).down n = l.down (m + n) := by
  simp [Loc.down, Function.comp_def, Int.add_assoc]

namespace Node

variable (g : Loc → Loc) (n : Node)

@[simp]
theorem typeIn_relocate (f : Field) (p : Position) :
    (n.relocate g).typeIn f p = (n.typeIn f p).map (Mention.relocate g) := by
  cases h : n.child? f <;> simp [typeIn, h, Mention.relocate]

@[simp]
theorem argumentTypes_relocate : (n.relocate g).argumentTypes = n.argumentTypes.map (Mention.relocate g) := by
  simp [argumentTypes, Mention.relocate]

@[simp]
theorem parameterDefaults_relocate :
    (n.relocate g).parameterDefaults = n.parameterDefaults.map (Mention.relocate g) := by
  simp [parameterDefaults, List.flatMap_map, List.map_flatMap]

@[simp]
theorem signatureTypes_relocate : (n.relocate g).signatureTypes = n.signatureTypes.map (Mention.relocate g) := by
  simp [signatureTypes, List.flatMap_map, List.map_flatMap]

theorem entryTypes?_relocate :
    (n.relocate g).entryTypes? = n.entryTypes?.map (List.map (Mention.relocate g)) := by
  unfold entryTypes?
  rw [kind_relocate]
  cases n.kind
  case classDeclaration | classExpression => cases h : n.child? .heritage <;> simp [h]
  case expressionStatement => cases h : n.child? .expression <;> simp [h]
  all_goals simp

theorem innerTypes_relocate : (n.relocate g).innerTypes = n.innerTypes.map (Mention.relocate g) := by
  unfold innerTypes
  rw [kind_relocate]
  cases n.kind <;> simp

end Node

end TypeLint.Tree

namespace TypeLint.Rule

open TypeLint.Tree

section Relocate

variable (g : Loc → Loc)

theorem Mention.all_relocate (m : Mention) : (m.relocate g).all = m.all.map (Mention.relocate g) := by
  induction m using Mention.all.induct with
  | case1 m ih =>
    rw [Mention.all_eq, Mention.all_eq m, List.map_cons, List.map_flatMap]
    congr 1
    rw [Mention.relocate, Node.innerTypes_relocate, List.flatMap_map]
    exact List.flatMap_congr fun inner hi => ih inner hi

/-- What is looked at in a relocated tree is what is looked at in the tree, relocated. -/
theorem mentions_relocate (n : Node) : mentions (n.relocate g) = (mentions n).map (Mention.relocate g) := by
  unfold mentions
  rw [Node.preorder_relocate, List.flatMap_map, List.map_flatMap]
  refine List.flatMap_congr ?_
  intro c _
  rw [Node.entryTypes?_relocate]
  cases c.entryTypes? with
  | none => rfl
  | some ms => simp [List.flatMap_map, List.map_flatMap, Mention.all_relocate]

end Relocate

/-- What is looked at in a tree: the types that its root mentions, and what is looked at below. -/
theorem mentions_eq (n : Node) :
    mentions n = (n.entryTypes?.getD []).flatMap Mention.all ++ n.children.flatMap mentions := by
  unfold mentions
  rw [Node.preorder_eq, List.flatMap_cons, List.flatMap_assoc]

end TypeLint.Rule

namespace TypeLint.Report

/-- The span, that many lines further down. -/
def Span.down (n : Nat) (s : Span) : Span :=
  { s with line := s.line.map (· + (n : Int)), origin := s.origin.map (Tree.Loc.down n) }

/-- The diagnostic, that many lines further down. -/
def Diagnostic.down (n : Nat) (d : Diagnostic) : Diagnostic := { d with span := d.span.down n }

theorem Diagnostic.down_zero : Diagnostic.down 0 = id := by
  funext d
  simp [Diagnostic.down, Span.down, Tree.Loc.down_zero]

theorem Diagnostic.down_comp_down (m n : Nat) : Diagnostic.down n ∘ Diagnostic.down m = Diagnostic.down (m + n) := by
  funext d
  simp [Diagnostic.down, Span.down, Function.comp_def, Tree.Loc.down_down, Int.add_assoc]

end TypeLint.Report

namespace TypeLint.Source

open TypeLint.Tree

theorem Pos.toLoc_down (n : Nat) (p : Pos) : (p.down n).toLoc = p.toLoc.down n := rfl

/-- The tree of a program with these statements. -/
def programNode (body : List Node) : Node := nodeAt .program .start [nodeList body]

theorem Program.toNode_eq_ok {p : Program} {root : Node} :
    p.toNode = .ok root ↔ ∃ body, stmtNodes p.body = .ok body ∧ programNode body = root := by
  simp only [Program.toNode, bind_eq_ok, pure_eq_ok, programNode]

theorem stmtNodes_append {ss ss' : List Stmt} {ns ns' : List Node} (h : stmtNodes ss = .ok ns)
    (h' : stmtNodes ss' = .ok ns') : stmtNodes (ss ++ ss') = .ok (ns ++ ns') := by
  induction ss generalizing ns with
  | nil =>
    obtain rfl := Except.ok.inj h
    exact h'
  | cons s ss ih =>
    simp only [stmtNodes, bind_eq_ok, pure_eq_ok] at h
    obtain ⟨n, hn, ms, hms, rfl⟩ := h
    rw [List.cons_append, stmtNodes, hn, ih hms]
    rfl

theorem stmtNodes_down {ss : List Stmt} {ns : List Node} (h : stmtNodes ss = .ok ns) (n : Nat) :
    stmtNodes (ss.map (Stmt.move (Pos.down n))) = .ok (ns.map (Node.relocate (Loc.down n))) := by
  rw [stmtNodes_move (Pos.toLoc_down n), h]
  rfl

/-- The tree of a call of `run` with a function that has these statements. -/
def runNode (body : List Node) : Node :=
  nodeAt .expressionStatement ⟨1, 1⟩ [.node (nodeAt .callExpression ⟨1, 1⟩ [
    .node (nodeAt .identifier ⟨1, 1⟩ [.text (text "run")]), .null,
    nodeList [nodeAt .arrowFunctionExpression ⟨1, 5⟩ [.null, nodeList [], .null,
      .node (nodeAt .block ⟨1, 11⟩ [nodeList body])]]])]

theorem stmtNodes_runCall {ss : List Stmt} {ns : List Node} (h : stmtNodes ss = .ok ns) :
    stmtNodes [.expr (runCall ss)] = .ok [runNode ns] := by
  simp only [stmtNodes, Stmt.toNode, runCall, Expr.toNode, exprNodes, typeNodes, Signature.nodes, typeParamNodes,
    paramNodes, optionalTypeNode, ArrowBody.toNode, Block.toNode, h]
  rfl

end TypeLint.Source

namespace TypeLint.Lint

open Report Rule Source TypeLint.Tree
open CodePoint (lineFeed)

/-! ## diagnostics further down -/

theorem report_relocate (l : Linter) (file : Option Text) (n : Nat) (m : Mention) (name : Text) (ban : Ban) :
    report l file (m.relocate (Loc.down n)) name ban = (report l file m name ban).down n := by
  simp only [report, Mention.relocate, Node.loc_relocate]
  cases m.node.loc <;> rfl

theorem report?_relocate (l : Linter) (file : Option Text) (n : Nat) (m : Mention) :
    report? l file (m.relocate (Loc.down n)) = (report? l file m).map (Diagnostic.down n) := by
  unfold report?
  rw [show (m.relocate (Loc.down n)).node = m.node.relocate (Loc.down n) from rfl, Node.name?_relocate]
  cases m.node.name? with
  | none => rfl
  | some name =>
    rw [Option.bind_some, Option.bind_some, Option.map_map]
    congr 1
    funext ban
    exact report_relocate l file n m name ban

theorem found_relocate (l : Linter) (file : Option Text) (k : Nat) (n : Node) :
    found l file (n.relocate (Loc.down k)) = (found l file n).map (Diagnostic.down k) := by
  rw [found, mentions_relocate, List.filterMap_map, found, List.map_filterMap]
  refine List.filterMap_congr ?_
  intro m _
  exact report?_relocate l file k m

/-- At a node that mentions no types, nothing is found but what is found below it. -/
theorem found_of_entryTypes?_getD {n : Node} (h : n.entryTypes?.getD [] = []) (l : Linter) (file : Option Text) :
    found l file n = n.children.flatMap (found l file) := by
  rw [found, mentions_eq, h, List.flatMap_nil, List.nil_append, List.filterMap_flatMap]
  rfl

theorem found_nodeAt {kind : NodeKind} {pos : Pos} {values : List Value}
    (h : (nodeAt kind pos values).entryTypes?.getD [] = []) (l : Linter) (file : Option Text) :
    found l file (nodeAt kind pos values) = (values.flatMap Value.nodes).flatMap (found l file) :=
  found_of_entryTypes?_getD h l file

theorem found_programNode (l : Linter) (file : Option Text) (body : List Node) :
    found l file (programNode body) = body.flatMap (found l file) := by
  rw [programNode, found_nodeAt rfl]
  simp

theorem found_runNode (l : Linter) (file : Option Text) (body : List Node) :
    found l file (runNode body) = body.flatMap (found l file) := by
  have hname : found l file (nodeAt .identifier ⟨1, 1⟩ [.text (text "run")]) = [] := by
    rw [found_nodeAt rfl]
    simp
  have hblock : found l file (nodeAt .block ⟨1, 11⟩ [nodeList body]) = body.flatMap (found l file) := by
    rw [found_nodeAt rfl]
    simp
  have harrow : found l file (nodeAt .arrowFunctionExpression ⟨1, 5⟩ [.null, nodeList [], .null,
      .node (nodeAt .block ⟨1, 11⟩ [nodeList body])]) = body.flatMap (found l file) := by
    rw [found_nodeAt rfl]
    simp [hblock]
  rw [runNode, found_nodeAt rfl, List.flatMap_singleton, nodes_node, List.flatMap_singleton, found_nodeAt rfl]
  simp [hname, harrow]

theorem StandsAt.down {d : Diagnostic} {p : Pos} (h : StandsAt d p) (n : Nat) : StandsAt (d.down n) (p.down n) := by
  obtain ⟨hl, hc⟩ := h
  refine ⟨?_, hc⟩
  simp [Diagnostic.down, Span.down, hl, Pos.down]

theorem Before.down {a b : Diagnostic} (h : Before a b) (n : Nat) : Before (a.down n) (b.down n) := by
  obtain ⟨p, q, hp, hq, hpq⟩ := h
  refine ⟨p.down n, q.down n, hp.down n, hq.down n, ?_⟩
  simp only [Pos.Before, Pos.down] at *
  omega

theorem pairwise_down {ds : List Diagnostic} (h : ds.Pairwise Before) (n : Nat) :
    (ds.map (Diagnostic.down n)).Pairwise Before :=
  List.pairwise_map.2 (h.imp fun hab => hab.down n)

theorem flatMap_found_relocate (l : Linter) (file : Option Text) (n : Nat) (body : List Node) :
    (body.map (Node.relocate (Loc.down n))).flatMap (found l file) =
      (body.flatMap (found l file)).map (Diagnostic.down n) := by
  simp [List.flatMap_map, List.map_flatMap, found_relocate]

theorem Linter.lintProgram_perm (l : Linter) (file : Option Text) (body : List Node) :
    (l.lintProgram file (programNode body)).Perm (body.flatMap (found l file)) := by
  rw [Linter.lintProgram_eq, ← found_programNode]
  exact List.mergeSort_perm ..

section Source

variable {source : Text} {p : Program} {body : List Node} (hp : parse source = .ok p)
  (hbody : stmtNodes p.body = .ok body)
include hp hbody

theorem Linter.pairwise_lintProgram_programNode (l : Linter) (file : Option Text) :
    (l.lintProgram file (programNode body)).Pairwise Before :=
  Linter.pairwise_lintProgram hp (Program.toNode_eq_ok.2 ⟨body, hbody, rfl⟩) l file

/-- The line of a diagnostic is a line of the source. -/
theorem Linter.line_of_mem_lintProgram {l : Linter} {file : Option Text} {d : Diagnostic}
    (h : d ∈ l.lintProgram file (programNode body)) :
    ∃ pos, StandsAt d pos ∧ 1 ≤ pos.line ∧ pos.line ≤ 1 + source.count lineFeed := by
  obtain ⟨id, hid, hspan, -⟩ :=
    Linter.head_of_mem_lintProgram (Program.toNode_eq_ok.2 ⟨body, hbody, rfl⟩) h
  obtain ⟨before, behind, rfl, hpos, -⟩ := (heads_of_parse hp).1 id hid
  have hline : id.pos.line = 1 + before.count lineFeed := by rw [hpos, Pos.line_after, Pos.start]
  refine ⟨id.pos, standsAt_of_span hspan, ?_, ?_⟩
  · omega
  · rw [List.count_append]
    omega

/-! ## one source below another -/

/-- Of two sources, one below the other, the diagnostics are those of the first one, and then those of the second
one. -/
theorem Linter.lintProgram_append {source' : Text} {p' : Program} {body' : List Node} (hp' : parse source' = .ok p')
    (hbody' : stmtNodes p'.body = .ok body') (l : Linter) (file : Option Text) :
    l.lintProgram file (programNode (body ++ body'.map (Node.relocate (Loc.down (1 + source.count lineFeed))))) =
      l.lintProgram file (programNode body) ++
        (l.lintProgram file (programNode body')).map (Diagnostic.down (1 + source.count lineFeed)) := by
  have hjoined := stmtNodes_append hbody (stmtNodes_down hbody' (1 + source.count lineFeed))
  -- both sides are in the order of their places, so they only have to agree up to order
  refine eq_of_perm (pairwise_lintProgram_programNode (parse_append hp hp') hjoined l file) ?_ ?_
  · refine List.pairwise_append.2 ⟨pairwise_lintProgram_programNode hp hbody l file,
      pairwise_down (pairwise_lintProgram_programNode hp' hbody' l file) _, ?_⟩
    intro a ha b hb
    obtain ⟨d, hd, rfl⟩ := List.mem_map.1 hb
    -- the first source ends above the line on which the second one starts
    obtain ⟨pos, hpos, -, hle⟩ := line_of_mem_lintProgram hp hbody ha
    obtain ⟨pos', hpos', hge, -⟩ := line_of_mem_lintProgram hp' hbody' hd
    refine ⟨pos, pos'.down _, hpos, hpos'.down _, .inl ?_⟩
    simp only [Pos.down]
    omega
  · refine (lintProgram_perm ..).trans ?_
    rw [List.flatMap_append, flatMap_found_relocate]
    exact (lintProgram_perm ..).symm.append ((lintProgram_perm ..).symm.map _)

/-! ## a source inside a block -/

/-- The diagnostics of a source inside a block are those of the source. -/
theorem Linter.lintProgram_inRun (l : Linter) (file : Option Text) :
    l.lintProgram file (programNode [runNode (body.map (Node.relocate (Loc.down 1)))]) =
      (l.lintProgram file (programNode body)).map (Diagnostic.down 1) := by
  have hrun := stmtNodes_runCall (stmtNodes_down hbody 1)
  refine eq_of_perm (pairwise_lintProgram_programNode (parse_inRun hp) hrun l file)
    (pairwise_down (pairwise_lintProgram_programNode hp hbody l file) 1) ?_
  refine (lintProgram_perm ..).trans ?_
  rw [List.flatMap_singleton, found_runNode, flatMap_found_relocate]
  exact (lintProgram_perm ..).symm.map _

/-- Inside that many blocks, the diagnostics are that many lines further down. -/
theorem Linter.lintProgram_iterate_inRun (l : Linter) (file : Option Text) (k : Nat) :
    ∃ p' body', parse (inRun^[k] source) = .ok p' ∧ stmtNodes p'.body = .ok body' ∧
      l.lintProgram file (programNode body') = (l.lintProgram file (programNode body)).map (Diagnostic.down k) := by
  induction k with
  | zero =>
    refine ⟨p, body, hp, hbody, ?_⟩
    rw [Diagnostic.down_zero, List.map_id]
  | succ k ih =>
    obtain ⟨p', body', hp', hbody', hlint⟩ := ih
    refine ⟨_, _, ?_, stmtNodes_runCall (stmtNodes_down hbody' 1), ?_⟩
    · rw [Function.iterate_succ_apply']
      exact parse_inRun hp'
    · rw [lintProgram_inRun hp' hbody', hlint, List.map_map, Diagnostic.down_comp_down]

theorem parseSource_eq (file : Option Text) : parseSource source file = .ok (.program (programNode body)) :=
  parseSource_eq_program.2 ⟨p, hp, Program.toNode_eq_ok.2 ⟨body, hbody, rfl⟩⟩

theorem Linter.lintSource_programNode (l : Linter) (file : Option Text) :
    l.lintSource file source = .ok (l.lintProgram file (programNode body)) :=
  lintSource_eq hp (Program.toNode_eq_ok.2 ⟨body, hbody, rfl⟩) l file

end Source

theorem exists_of_parseSource {source : Text} {path : Option Text} {root : Node}
    (h : parseSource source path = .ok (.program root)) :
    ∃ p body, parse source = .ok p ∧ stmtNodes p.body = .ok body ∧ programNode body = root := by
  obtain ⟨p, hp, hroot⟩ := parseSource_eq_program.1 h
  obtain ⟨body, hbody, rfl⟩ := Program.toNode_eq_ok.1 hroot
  exact ⟨p, body, hp, hbody, rfl⟩

/-- Two sources, one below the other, are a source with the statements and the diagnostics of both. -/
theorem Linter.lintSource_append {source source' : Text} {path path' : Option Text} {root root' : Node}
    (h : parseSource source path = .ok (.program root)) (h' : parseSource source' path' = .ok (.program root')) :
    ∃ body body', root = programNode body ∧ root' = programNode body' ∧ ∀ file,
      parseSource (source ++ lineFeed :: source') file = .ok (.program (programNode
        (body ++ body'.map (Node.relocate (Loc.down (1 + source.count lineFeed)))))) ∧
      ∀ l : Linter, ∃ ds ds', l.lintSource file source = .ok ds ∧ l.lintSource file source' = .ok ds' ∧
        l.lintSource file (source ++ lineFeed :: source') =
          .ok (ds ++ ds'.map (Diagnostic.down (1 + source.count lineFeed))) := by
  obtain ⟨p, body, hp, hbody, rfl⟩ := exists_of_parseSource h
  obtain ⟨p', body', hp', hbody', rfl⟩ := exists_of_parseSource h'
  have hjoined := stmtNodes_append hbody (stmtNodes_down hbody' (1 + source.count lineFeed))
  refine ⟨body, body', rfl, rfl, fun file => ⟨parseSource_eq (parse_append hp hp') hjoined file, fun l => ?_⟩⟩
  refine ⟨_, _, lintSource_programNode hp hbody l file, lintSource_programNode hp' hbody' l file, ?_⟩
  rw [lintSource_programNode (parse_append hp hp') hjoined, lintProgram_append hp hbody hp' hbody']

theorem Linter.lintSource_append_comments :
    ∃ root root', parseSource (text "let a: A // b") none = .ok (.program root) ∧
      parseSource (text "/*\n*/ let b: A") none = .ok (.program root') ∧ ∀ l : Linter, ∃ ds ds',
        l.lintSource none (text "let a: A // b") = .ok ds ∧ l.lintSource none (text "/*\n*/ let b: A") = .ok ds' ∧
        l.lintSource none (text "let a: A // b\n/*\n*/ let b: A") = .ok (ds ++ ds'.map (Diagnostic.down 1)) := by
  obtain ⟨root, root', hroot, hroot'⟩ : ∃ root root',
      parseSource (text "let a: A // b") none = .ok (.program root) ∧
      parseSource (text "/*\n*/ let b: A") none = .ok (.program root') := ⟨_, _, by cbv, by cbv⟩
  obtain ⟨body, body', -, -, h⟩ := Linter.lintSource_append hroot hroot'
  exact ⟨root, root', hroot, hroot', (h none).2⟩

/-- A source inside a block is a call with its statements, and has its diagnostics; so it is inside any number of
blocks. -/
theorem Linter.lintSource_inRun {source : Text} {path : Option Text} {root : Node}
    (h : parseSource source path = .ok (.program root)) :
    ∃ body, root = programNode body ∧ ∀ file,
      parseSource (inRun source) file =
        .ok (.program (programNode [runNode (body.map (Node.relocate (Loc.down 1)))])) ∧
      ∀ l : Linter, ∃ ds, l.lintSource file source = .ok ds ∧
        l.lintSource file (inRun source) = .ok (ds.map (Diagnostic.down 1)) ∧
        ∀ k, l.lintSource file (inRun^[k] source) = .ok (ds.map (Diagnostic.down k)) := by
  obtain ⟨p, body, hp, hbody, rfl⟩ := exists_of_parseSource h
  have hrun := stmtNodes_runCall (stmtNodes_down hbody 1)
  refine ⟨body, rfl, fun file => ⟨parseSource_eq (parse_inRun hp) hrun file, fun l => ?_⟩⟩
  refine ⟨_, lintSource_programNode hp hbody l file, ?_, fun k => ?_⟩
  · rw [lintSource_programNode (parse_inRun hp) hrun, lintProgram_inRun hp hbody]
  · obtain ⟨p', body', hp', hbody', hlint⟩ := lintProgram_iterate_inRun hp hbody l file k
    rw [lintSource_programNode hp' hbody', hlint]

theorem Linter.lintSource_inRun_comment :
    ∃ root, parseSource (text "let a: A // b") none = .ok (.program root) ∧ ∀ l : Linter, ∃ ds,
      l.lintSource none (text "let a: A // b") = .ok ds ∧
      l.lintSource none (text "run(() => \x7b\nlet a: A // b\n\x7d)") = .ok (ds.map (Diagnostic.down 1)) := by
  obtain ⟨root, hroot⟩ : ∃ root, parseSource (text "let a: A // b") none = .ok (.program root) := ⟨_, by cbv⟩
  obtain ⟨body, -, h⟩ := Linter.lintSource_inRun hroot
  refine ⟨root, hroot, fun l => ?_⟩
  obtain ⟨ds, hds, hrun, -⟩ := (h none).2 l
  exact ⟨ds, hds, hrun⟩

end TypeLint.Lint
