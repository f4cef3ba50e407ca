import TypeLint.Proofs.Lint.Members
import TypeLint.Proofs.Source.Gaps
import TypeLint.Proofs.Tree.Literals

/-!
# Layout does not matter

The tree of a source depends on its tokens and on where its lines end, not on how they are laid out.

* `parseSource_withReturns` — a carriage return before each line feed changes nothing at all;
* `parseSource_fill` — white space or a comment between two lexemes changes only locations.
-/

namespace TypeLint.Lint

open Source TypeLint.Tree

/-- A program without literals has a tree. -/
theorem exists_parseSource {source : Text} {p : Program} (hp : parse source = .ok p) (hliterals : p.literals = [])
    (path : Option Text) : ∃ root, parseSource source path = .ok (.program root) := by
  obtain ⟨root, hroot⟩ : ∃ root, p.toNode = .ok root := Program.exists_toNode_iff.2 (by simp [hliterals])
  exact ⟨root, parseSource_eq_program.2 ⟨p, hp, hroot⟩⟩

/-- Carriage returns before line feeds do not matter: a source has the same tree, and so the same diagnostics. -/
theorem parseSource_withReturns (source : Text) (path : Option Text) :
    (∀ root, parseSource (withReturns source) path = .ok (.program root) ↔
      parseSource source path = .ok (.program root)) ∧
    ∀ root, parseSource source path = .ok (.program root) → ∀ (l : Linter) (file : Option Text),
      ∃ ds, l.lintSource file source = .ok ds ∧ l.lintSource file (withReturns source) = .ok ds := by
  have htree : ∀ (path : Option Text) root, parseSource (withReturns source) path = .ok (.program root) ↔
      parseSource source path = .ok (.program root) := by
    intro path root
    simp only [parseSource_eq_program, parse_withReturns_iff]
  refine ⟨htree path, fun root hroot l file => ?_⟩
  have hfile : parseSource source file = .ok (.program root) := by rwa [parseSource_eq_program] at hroot ⊢
  refine ⟨l.lintProgram file root, ?_, ?_⟩
  · rw [Linter.lintSource, hfile]
  · rw [Linter.lintSource, (htree file root).2 hfile]

theorem parseSource_withReturns_comments :
    withReturns (text "let a // A\nlet b: A /*\n*/") = text "let a // A\r\nlet b: A /*\r\n*/" ∧
    ∃ root, parseSource (text "let a // A\nlet b: A /*\n*/") none = .ok (.program root) ∧
      parseSource (text "let a // A\r\nlet b: A /*\r\n*/") none = .ok (.program root) ∧
      ∀ l : Linter, ∃ ds, l.lintSource none (text "let a // A\nlet b: A /*\n*/") = .ok ds ∧
        l.lintSource none (text "let a // A\r\nlet b: A /*\r\n*/") = .ok ds := by
  obtain ⟨p, hp, hliterals⟩ : ∃ p, parse (text "let a // A\nlet b: A /*\n*/") = .ok p ∧ p.literals = [] :=
    ⟨_, by rw [parse_eq_runFor]; cbv, rfl⟩
  obtain ⟨root, hroot⟩ := exists_parseSource hp hliterals none
  obtain ⟨htree, hlint⟩ := parseSource_withReturns (text "let a // A\nlet b: A /*\n*/") none
  exact ⟨by decide, root, hroot, (htree root).2 hroot, fun l => hlint root hroot l none⟩

theorem unlocated_programNode (body : List Node) :
    (programNode body).unlocated = .mk .program (some ⟨none, none⟩) [nodeList (body.map Node.unlocated)] := by
  simp only [programNode, nodeAt, Node.unlocated, Node.relocate, relocateValues, relocate_nodeList]
  rfl

/-- White space or a comment between two lexemes of a source, or at one of its ends, does not change its tree but for
locations. -/
theorem parseSource_fill {source : Text} {path : Option Text} {root : Node}
    (h : parseSource source path = .ok (.program root)) :
    (pieces source).flatten = source ∧ ∀ (n : Nat) (g : Text), Filler g →
      ∃ root', parseSource (((pieces source).take n).flatten ++ (g ++ ((pieces source).drop n).flatten)) path =
        .ok (.program root') ∧ root'.unlocated = root.unlocated := by
  obtain ⟨p, body, hp, hbody, rfl⟩ := exists_of_parseSource h
  refine ⟨flatten_pieces hp, fun n g hg => ?_⟩
  obtain ⟨f, hfill⟩ := parse_fill hp hg n
  obtain ⟨r, hr⟩ := exists_relocation f
  have hmoved : stmtNodes (p.body.map (Stmt.move f)) = .ok (body.map (Node.relocate r)) := by
    rw [stmtNodes_move hr, hbody]
    rfl
  refine ⟨programNode (body.map (Node.relocate r)), parseSource_eq hfill hmoved path, ?_⟩
  rw [unlocated_programNode, unlocated_programNode, List.map_map]
  exact congrArg (Node.mk _ _ [nodeList ·]) (List.map_congr_left fun n _ => n.unlocated_relocate r)

theorem parseSource_fill_operators :
    pieces (text "let a:A=b/c//d") = [text "let", text " ", text "a", text ":", text "A", text "=", text "b", text "/",
      text "c", text "//d"] ∧
    ∃ root, parseSource (text "let a:A=b/c//d") none = .ok (.program root) ∧
      (∃ root', parseSource (text "let a:A=b/ /*=>*/c//d") none = .ok (.program root') ∧
        root'.unlocated = root.unlocated) ∧
      ∃ root', parseSource (text "let a:A=b/c//d\t") none = .ok (.program root') ∧
        root'.unlocated = root.unlocated := by
  obtain ⟨p, hp, hliterals⟩ : ∃ p, parse (text "let a:A=b/c//d") = .ok p ∧ p.literals = [] :=
    ⟨_, by rw [parse_eq_runFor]; cbv, rfl⟩
  obtain ⟨root, hroot⟩ := exists_parseSource hp hliterals none
  have hpieces : pieces (text "let a:A=b/c//d") = [text "let", text " ", text "a", text ":", text "A", text "=",
      text "b", text "/", text "c", text "//d"] := by cbv
  obtain ⟨-, hfill⟩ := parseSource_fill hroot
  rw [hpieces] at hfill
  refine ⟨hpieces, root, hroot, ?_, ?_⟩
  · exact hfill 8 (text " /*=>*/") (.comment (by decide) (by decide))
  · exact hfill 10 (text "\t") .tab

end TypeLint.Lint
