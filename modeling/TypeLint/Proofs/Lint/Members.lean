import TypeLint.Proofs.Lint.Compose
import TypeLint.Proofs.Source.Members

/-!
# Classes that differ in their separators

The members of a class may be written with semicolons between them or on lines of their own; the tree of the class is
the same up to locations.

* `Node.unlocated` — a tree without its locations;
* `SpellsClass`, `SpellsMember` — a source that is one class with given members, and a text that spells one member;
* `parseSource_members` — several such texts, with either separator, spell a class with their members.
-/

namespace TypeLint.Tree

/-! ## trees without locations -/

mutual

theorem Node.relocate_relocate (g g' : Loc → Loc) : ∀ n : Node, (n.relocate g).relocate g' = n.relocate (g' ∘ g)
  | .mk kind loc values => by
    rw [Node.relocate, Node.relocate, Node.relocate, Option.map_map, relocateValues_relocateValues g g' values]

theorem Value.relocate_relocate (g g' : Loc → Loc) : ∀ v : Value, (v.relocate g).relocate g' = v.relocate (g' ∘ g)
  | .null | .bool _ | .int _ | .float _ | .text _ => rfl
  | .node n => congrArg Value.node (n.relocate_relocate g g')
  | .list vs => congrArg Value.list (relocateValues_relocateValues g g' vs)

theorem relocateValues_relocateValues (g g' : Loc → Loc) :
    ∀ vs : List Value, relocateValues g' (relocateValues g vs) = relocateValues (g' ∘ g) vs
  | [] => rfl
  | v :: vs => by
    rw [relocateValues, relocateValues, relocateValues, v.relocate_relocate g g', relocateValues_relocateValues g g' vs]

end

/-- The tree without its locations. -/
def Node.unlocated (n : Node) : Node := n.relocate fun _ => ⟨none, none⟩

@[simp]
theorem Node.unlocated_relocate (g : Loc → Loc) (n : Node) : (n.relocate g).unlocated = n.unlocated :=
  n.relocate_relocate g _

/-- A property of which only the name and a question mark are written. -/
def Node.isBareOptional : Node → Bool
  | .mk .propertyDefinition _ [_, .null, .bool true, .null] => true
  | _ => false

end TypeLint.Tree

namespace TypeLint.Source

open TypeLint.Tree

/-! ## the trees of classes -/

theorem exists_relocation (f : Pos → Pos) : ∃ g : Loc → Loc, ∀ p : Pos, (f p).toLoc = g p.toLoc := by
  refine ⟨fun l => (f ⟨(l.line.getD 0).toNat, (l.column.getD 0).toNat⟩).toLoc, fun p => ?_⟩
  simp [Pos.toLoc]

theorem memberNodes_eq_ok_iff {ms : List Member} {ns : List Node} :
    memberNodes ms = .ok ns ↔ List.Forall₂ (fun m n => m.toNode = .ok n) ms ns := by
  induction ms generalizing ns with
  | nil => simp [memberNodes, eq_comm]
  | cons m ms ih =>
    simp only [memberNodes, bind_eq_ok, pure_eq_ok, List.forall₂_cons_left_iff, ih]
    constructor
    · rintro ⟨n, hn, ns', hns, rfl⟩
      exact ⟨n, ns', hn, hns, rfl⟩
    · rintro ⟨n, ns', hn, hns, rfl⟩
      exact ⟨n, hn, ns', hns, rfl⟩

theorem exists_toNode_of_mem {ms : List Member} {ns : List Node}
    (h : List.Forall₂ (fun m n => Member.toNode m = .ok n) ms ns) {m : Member} (hm : m ∈ ms) :
    ∃ n ∈ ns, m.toNode = .ok n := by
  induction h with
  | nil => simp at hm
  | @cons m' n ms ns hn _ ih =>
    obtain rfl | hm := List.mem_cons.1 hm
    · exact ⟨n, by simp, hn⟩
    · obtain ⟨n', hn', hm⟩ := ih hm
      exact ⟨n', by simp [hn'], hm⟩

/-- The trees of members that are moved differ only in their locations. -/
theorem memberNodes_relocated {ms ms' : List Member} (h : Relocated ms ms') {ns : List Node}
    (hns : memberNodes ms = .ok ns) :
    ∃ ns', memberNodes ms' = .ok ns' ∧ ns'.map Node.unlocated = ns.map Node.unlocated := by
  induction h generalizing ns with
  | nil =>
    obtain rfl := Except.ok.inj hns
    exact ⟨[], rfl, rfl⟩
  | @cons m m' ms ms' hm hms ih =>
    obtain ⟨f, rfl⟩ := hm
    obtain ⟨g, hg⟩ := exists_relocation f
    simp only [memberNodes, bind_eq_ok, pure_eq_ok] at hns
    obtain ⟨n, hn, ns₁, hns₁, rfl⟩ := hns
    obtain ⟨ns', hns', he⟩ := ih hns₁
    refine ⟨n.relocate g :: ns', ?_, by simp [he]⟩
    simp only [memberNodes, bind_eq_ok, pure_eq_ok]
    exact ⟨_, by rw [Member.toNode_move hg, hn]; rfl, _, hns', rfl⟩

theorem items_nodeList (ns : List Node) : (nodeList ns).items = ns := by
  simp [nodeList, Value.items, List.filterMap_map, Function.comp_def, Value.node?]

theorem stmtNodes_eq_singleton {ss : List Stmt} {n : Node} (h : stmtNodes ss = .ok [n]) :
    ∃ s, ss = [s] ∧ s.toNode = .ok n := by
  match ss with
  | [] => simp [stmtNodes] at h
  | [s] =>
    simp only [stmtNodes, bind_eq_ok, pure_eq_ok] at h
    obtain ⟨n', hn, ns, -, he⟩ := h
    obtain ⟨rfl, -⟩ := List.cons.inj he
    exact ⟨s, rfl, hn⟩
  | s :: s' :: ss =>
    simp only [stmtNodes, bind_eq_ok, pure_eq_ok] at h
    obtain ⟨n', hn, ns, ⟨n₁, -, ns₁, -, rfl⟩, he⟩ := h
    simp at he

theorem Stmt.of_toNode_classDeclaration {s : Stmt} {cls : Node} (h : s.toNode = .ok cls)
    (hk : cls.kind = .classDeclaration) :
    ∃ pos name typeParams heritage ms, s = .classDecl pos name (.mk typeParams heritage ms) ∧
      memberNodes ms = .ok (cls.items .body) := by
  cases s with
  | classDecl pos name shape =>
    obtain ⟨typeParams, heritage, ms⟩ := shape
    simp only [Stmt.toNode, ClassShape.nodes, bind_eq_ok, pure_eq_ok] at h
    obtain ⟨_, ⟨_, -, ns, hns, _, -, rfl⟩, rfl⟩ := h
    refine ⟨pos, name, typeParams, heritage, ms, rfl, ?_⟩
    rw [hns]
    exact congrArg Except.ok (items_nodeList ns).symm
  | «variables» =>
    simp only [Stmt.toNode, bind_eq_ok, pure_eq_ok] at h
    obtain ⟨_, -, rfl⟩ := h
    cases hk
  | function =>
    simp only [Stmt.toNode, bind_eq_ok, pure_eq_ok] at h
    obtain ⟨_, -, _, -, rfl⟩ := h
    cases hk
  | ret | expr =>
    simp only [Stmt.toNode, bind_eq_ok, pure_eq_ok] at h
    obtain ⟨_, -, rfl⟩ := h
    cases hk

theorem Member.name?_toNode {m : Member} {n : Node} (h : m.toNode = .ok n) : n.name? = some m.name.text := by
  cases m with
  | method name sig body =>
    simp only [Member.toNode, bind_eq_ok, pure_eq_ok] at h
    obtain ⟨_, -, _, -, rfl⟩ := h
    rfl
  | property name optional declared value =>
    simp only [Member.toNode, bind_eq_ok, pure_eq_ok] at h
    obtain ⟨_, -, _, -, rfl⟩ := h
    rfl

theorem Member.isBareOptional_of_toNode {m : Member} {n : Node} (h : m.toNode = .ok n)
    (hn : n.isBareOptional = false) : m.isBareOptional = false := by
  unfold Member.isBareOptional
  split
  · next name =>
    obtain rfl := Except.ok.inj h
    exact absurd hn (by simp [Node.isBareOptional, nodeAt, optionalNode])
  · rfl

end TypeLint.Source

namespace TypeLint.Lint

open Source TypeLint.Tree
open CodePoint (lineFeed)

/-- The source is a class with these members, and nothing else. -/
def SpellsClass (source : Text) (members : List Node) : Prop :=
  ∃ root cls, parseSource source none = .ok (.program root) ∧ root.items .body = [cls] ∧
    cls.kind = .classDeclaration ∧ cls.items .body = members

theorem SpellsClass.exists_parse {source : Text} {members : List Node} (h : SpellsClass source members) :
    ∃ pos name typeParams heritage ms, parse source = .ok ⟨[.classDecl pos name (.mk typeParams heritage ms)]⟩ ∧
      memberNodes ms = .ok members := by
  obtain ⟨root, cls, hsource, hroot, hkind, rfl⟩ := h
  obtain ⟨⟨body⟩, ns, hparse, hstmts, rfl⟩ := exists_of_parseSource hsource
  obtain rfl : ns = [cls] := (items_nodeList ns).symm.trans hroot
  obtain ⟨s, rfl, hs⟩ := stmtNodes_eq_singleton hstmts
  obtain ⟨pos, name, typeParams, heritage, ms, rfl, hms⟩ := Stmt.of_toNode_classDeclaration hs hkind
  exact ⟨pos, name, typeParams, heritage, ms, hparse, hms⟩

theorem SpellsClass.of_parse {source : Text} {ms : List Member} {members : List Node}
    (h : parse source = .ok (trialProgram ms)) (hms : memberNodes ms = .ok members) : SpellsClass source members := by
  have hshape : (ClassShape.mk [] none ms).nodes = .ok ⟨[], none, members⟩ := by
    simp [ClassShape.nodes, optionalHeritageNode, typeParamNodes, hms, bind, Except.bind, pure, Except.pure]
  let cls := nodeAt .classDeclaration ⟨1, 1⟩ (.text (text "C") :: ClassNodes.values ⟨[], none, members⟩)
  have hstmts : stmtNodes (trialProgram ms).body = .ok [cls] := by
    simp only [trialProgram, stmtNodes, Stmt.toNode, hshape]
    rfl
  exact ⟨programNode [cls], cls, parseSource_eq h hstmts none, items_nodeList [cls], rfl, items_nodeList members⟩

/-- A text without line feeds that spells a class with one member, whether the closing brace follows in the same line
or in the next. -/
structure SpellsMember (t : Text) (member : Node) : Prop where
  lineFeed_notMem : lineFeed ∉ t
  inline : SpellsClass (text "class C \x7b " ++ t ++ text " \x7d") [member]
  acrossLines : ∃ root, parseSource (text "class C \x7b " ++ t ++ lineFeed :: text "\x7d") none = .ok (.program root)

theorem SpellsMember.of_parse {t : Text} {m : Member} {member : Node} (ht : lineFeed ∉ t)
    (hinline : parse (text "class C \x7b " ++ t ++ text " \x7d") = .ok (trialProgram [m]))
    (hlines : parse (text "class C \x7b " ++ t ++ lineFeed :: text "\x7d") = .ok (trialProgram [m]))
    (hm : m.toNode = .ok member) : SpellsMember t member := by
  have hms : memberNodes [m] = .ok [member] := memberNodes_eq_ok_iff.2 (.cons hm .nil)
  obtain ⟨root, -, hroot, -⟩ := SpellsClass.of_parse hlines hms
  exact ⟨ht, .of_parse hinline hms, root, hroot⟩

theorem SpellsMember.exists_readsMember {t : Text} {member : Node} (h : SpellsMember t member) :
    ∃ m, ReadsMember t m ∧ m.toNode = .ok member := by
  obtain ⟨pos, name, typeParams, heritage, ms, hparse, hms⟩ := h.inline.exists_parse
  obtain ⟨m, _, hm, hnil, rfl⟩ := List.forall₂_cons_right_iff.1 (memberNodes_eq_ok_iff.1 hms)
  obtain rfl := List.forall₂_nil_right_iff.1 hnil
  obtain ⟨root, hroot⟩ := h.acrossLines
  obtain ⟨p, hp, -⟩ := parseSource_eq_program.1 hroot
  exact ⟨m, .of_parse h.lineFeed_notMem hparse hp, hm⟩

theorem exists_readsMembers {ts : List Text} {members : List Node} (h : List.Forall₂ SpellsMember ts members) :
    ∃ ms, List.Forall₂ ReadsMember ts ms ∧ List.Forall₂ (fun m n => Member.toNode m = .ok n) ms members := by
  induction h with
  | nil => exact ⟨[], .nil, .nil⟩
  | cons ht _ ih =>
    obtain ⟨m, hreads, hm⟩ := ht.exists_readsMember
    obtain ⟨ms, hmany, hms⟩ := ih
    exact ⟨m :: ms, .cons hreads hmany, .cons hm hms⟩

theorem SpellsClass.of_relocated {source : Text} {ms ms' : List Member} {members : List Node}
    (hms : memberNodes ms = .ok members) (hr : Relocated ms ms') (h : parse source = .ok (trialProgram ms')) :
    ∃ ns, SpellsClass source ns ∧ ns.map Node.unlocated = members.map Node.unlocated := by
  obtain ⟨ns, hns, he⟩ := memberNodes_relocated hr hms
  exact ⟨ns, .of_parse h hns, he⟩

/-- Members that can stand by themselves can stand in one class, with semicolons between them or on lines of their own:
the class has the same members, up to locations. Behind the first member a name may not be a word that starts a
statement, and a line feed does not end a property of which only the name and a question mark are written. -/
theorem parseSource_members {ts : List Text} {members : List Node} (h : List.Forall₂ SpellsMember ts members)
    (hne : ts ≠ []) (hw : ∀ n ∈ members.tail, ∀ w ∈ n.name?, startsStatement w = false) :
    (∃ ns, SpellsClass (text "class C \x7b " ++ Text.join (text "; ") ts ++ text " \x7d") ns ∧
      ns.map Node.unlocated = members.map Node.unlocated) ∧
    ((∀ n ∈ members.dropLast, n.isBareOptional = false) →
      ∃ ns, SpellsClass (text "class C \x7b" ++ lineFeed :: (Text.join [lineFeed] ts ++ lineFeed :: text "\x7d")) ns ∧
        ns.map Node.unlocated = members.map Node.unlocated) := by
  obtain ⟨ms, hreads, htree⟩ := exists_readsMembers h
  have hms := memberNodes_eq_ok_iff.2 htree
  have hwords : ∀ m ∈ ms.tail, startsStatement m.name.text = false := by
    have htail := List.forall₂_drop 1 htree
    rw [List.drop_one, List.drop_one] at htail
    intro m hm
    obtain ⟨n, hn, hmn⟩ := exists_toNode_of_mem htail hm
    exact hw n hn _ (Member.name?_toNode hmn)
  refine ⟨?_, fun hb => ?_⟩
  · obtain ⟨ms', hrel, hparse⟩ := parse_semicolons hreads hne hwords
    exact SpellsClass.of_relocated hms hrel hparse
  · have hbare : ∀ m ∈ ms.dropLast, m.isBareOptional = false := by
      have hinit := List.forall₂_take (ms.length - 1) htree
      rw [← List.dropLast_eq_take, htree.length_eq, ← List.dropLast_eq_take] at hinit
      intro m hm
      obtain ⟨n, hn, hmn⟩ := exists_toNode_of_mem hinit hm
      exact Member.isBareOptional_of_toNode hmn (hb n hn)
    obtain ⟨ms', hrel, hparse⟩ := parse_lines hreads hne hwords hbare
    exact SpellsClass.of_relocated hms hrel hparse

theorem parseSource_members_property_method :
    ∃ a f : Node, List.Forall₂ SpellsMember [text "a", text "f() \x7b\x7d"] [a, f] ∧
      (∃ ns, SpellsClass (text "class C \x7b a; f() \x7b\x7d \x7d") ns ∧
        ns.map Node.unlocated = [a.unlocated, f.unlocated]) ∧
      ∃ ns, SpellsClass (text "class C \x7b\na\nf() \x7b\x7d\n\x7d") ns ∧
        ns.map Node.unlocated = [a.unlocated, f.unlocated] := by
  have ha : SpellsMember (text "a") _ := .of_parse (m := .property ⟨text "a", ⟨1, 11⟩⟩ false none none) (by decide)
    (by rw [parse_eq_runFor]; cbv) (by rw [parse_eq_runFor]; cbv) rfl
  have hf : SpellsMember (text "f() \x7b\x7d") _ := .of_parse
    (m := .method ⟨text "f", ⟨1, 11⟩⟩ (.mk [] [] none) (.mk ⟨1, 15⟩ [])) (by decide)
    (by rw [parse_eq_runFor]; cbv) (by rw [parse_eq_runFor]; cbv) rfl
  have h := List.Forall₂.cons ha (.cons hf .nil)
  obtain ⟨hsemicolons, hlines⟩ := parseSource_members h (by simp) (by decide)
  exact ⟨_, _, h, hsemicolons, hlines (by decide)⟩

theorem parseSource_members_bareOptional :
    (∃ a, SpellsClass (text "class C \x7b a? \x7d") [a]) ∧ (∃ b, SpellsClass (text "class C \x7b b \x7d") [b]) ∧
      ¬ ∃ ns, SpellsClass (text "class C \x7b\na?\nb\n\x7d") ns := by
  have ha : parse (text "class C \x7b a? \x7d") =
      .ok (trialProgram [.property ⟨text "a", ⟨1, 11⟩⟩ true none none]) := by rw [parse_eq_runFor]; cbv
  have hb : parse (text "class C \x7b b \x7d") =
      .ok (trialProgram [.property ⟨text "b", ⟨1, 11⟩⟩ false none none]) := by rw [parse_eq_runFor]; cbv
  have hrefused : (parse (text "class C \x7b\na?\nb\n\x7d")).isOk = false := by rw [parse_eq_runFor]; cbv
  refine ⟨⟨_, .of_parse ha rfl⟩, ⟨_, .of_parse hb rfl⟩, ?_⟩
  rintro ⟨ns, root, cls, hroot, -⟩
  obtain ⟨p, hp, -⟩ := parseSource_eq_program.1 hroot
  rw [hp] at hrefused
  exact absurd hrefused (by simp [Except.isOk, Except.toBool])

end TypeLint.Lint
