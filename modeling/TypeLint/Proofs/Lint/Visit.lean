import TypeLint.Proofs.Lint.Coverage
import TypeLint.Proofs.Rule.Reports
import TypeLint.Proofs.Tree.Traversal

/-!
# Visits that do not fail

A visit reads fields by their names on whatever node it meets.  On a tree whose list fields hold lists or nothing, it
does not fail, and it reports what `findings` finds.

* `Node.Listed` — the list fields of a tree hold lists, or nothing;
* `visitMention_all`, `visit_eq` — a visit checks the types that are mentioned, one after the other;
* `perform_forM_check` — a check does not fail, and reports a banned name;
* `perform_visitType`, `perform_visit`, `perform_traverse` — what visits report;
* `Linter.examine_eq` — a linter that goes step by step gives the diagnostics of `Linter.lintProgram`;
* `Linter.visits_return` — visits return, and report only nodes with banned names.
-/

namespace TypeLint.Tree

/-! ## list fields -/

/-- A list, or nothing. -/
def Value.isListed : Value → Bool
  | .null | .list _ => true
  | _ => false

/-- The list fields of the nodes of a tree hold lists, or nothing. -/
def Node.Listed (root : Node) : Prop :=
  ∀ n ∈ root.walk, ∀ f ∈ [Field.typeParams, .params, .typeArgs], (n.get f).isListed = true

theorem Value.loop?_of_isListed {v : Value} (h : v.isListed = true) :
    ∃ items, v.loop? = some items ∧ v.items = items.filterMap Value.node? := by
  cases v with
  | null => exact ⟨[], rfl, rfl⟩
  | list vs => exact ⟨vs, rfl, rfl⟩
  | _ => simp [isListed] at h

theorem Value.eq_node_of_node? {v : Value} {n : Node} (h : v.node? = some n) : v = .node n := by
  cases v with
  | node m => rw [Option.some.inj h]
  | _ => simp [Value.node?] at h

theorem Node.Listed.of_mem {n m : Node} (h : n.Listed) (hm : m ∈ n.walk) : m.Listed := by
  intro c hc
  exact h c (Node.mem_walk_trans hm hc)

theorem Node.Listed.get {n : Node} (h : n.Listed) {f : Field} (hf : f ∈ [Field.typeParams, .params, .typeArgs]) :
    (n.get f).isListed = true :=
  h n n.mem_walk_self f hf

end TypeLint.Tree

namespace TypeLint.Rule.BanTypes

open Report TypeLint.Tree

variable (bans : List Ban)

/-! ## the types that a visit checks -/

/-- A type that is mentioned, with the types inside it. -/
def visitMention (m : Mention) : Visit Unit := visitType bans m.position (.node m.node)

/-- Only nodes are visited. -/
theorem visitType_eq (p : Position) (v : Value) :
    visitType bans p v = forM (v.node?.toList.map (⟨p, ·⟩)) (visitMention bans) := by
  cases v with
  | node n =>
    rw [Value.node?, Option.toList_some, List.map_singleton, List.forM_cons, List.forM_nil]
    exact (bind_pure (visitMention bans ⟨p, n⟩)).symm
  | _ =>
    rw [visitType]
    · rfl
    · simp

/-- The items of a list that are no nodes do not count. -/
theorem flatMap_items {β : Type} {g : Value → List β} (hg : ∀ v, v.node? = none → g v = []) (vs : List Value) :
    vs.flatMap g = (vs.filterMap Value.node?).flatMap fun n => g (.node n) := by
  induction vs with
  | nil => rfl
  | cons v vs ih =>
    cases hv : v.node? with
    | none => rw [List.filterMap_cons_none hv, List.flatMap_cons, hg v hv, List.nil_append, ih]
    | some n =>
      rw [List.filterMap_cons_some hv, List.flatMap_cons, List.flatMap_cons, ih, Value.eq_node_of_node? hv]

theorem visitEach_eq (p : Position) (f : Option Field) {v : Value} (h : v.isListed = true) :
    visitEach bans p f v =
      forM (v.items.flatMap fun c => ((Value.node c).pick f).node?.toList.map (⟨p, ·⟩)) (visitMention bans) := by
  obtain ⟨items, hloop, hitems⟩ := Value.loop?_of_isListed h
  have hpick : ∀ w : Value, w.node? = none → (w.pick f).node?.toList.map (Mention.mk p) = [] := by
    intro w hw
    cases f with
    | none => simp [Value.pick, hw]
    | some f =>
      cases w with
      | node n => simp [Value.node?] at hw
      | _ => rfl
  rw [hitems, ← flatMap_items hpick, forM_flatMap, visitEach]
  split
  · next items' hloop' =>
    obtain rfl : items' = items := Option.some.inj (hloop'.symm.trans hloop)
    conv_rhs => rw [← List.attach_map_subtype_val items', List.forM_map]
    exact forM_congr fun w _ => visitType_eq bans p (w.1.pick f)
  · next hloop' => simp [hloop'] at hloop

-- anything but a list or a missing value may end the visit
example (r : Reporter) : r.perform (visitEach [] .typeArgument none (.int 1)) = (.error (.noLoop (.int 1)), r) := by
  cbv

theorem visitEach_field (p : Position) {n : Node} {f g : Field} (h : (n.get f).isListed = true) :
    visitEach bans p (some g) (n.get f) = forM ((n.items f).flatMap fun c => c.typeIn g p) (visitMention bans) :=
  visitEach_eq bans p (some g) h

theorem visitEach_arguments {n : Node} (h : (n.get .typeArgs).isListed = true) :
    visitEach bans .typeArgument none (n.get .typeArgs) = forM n.argumentTypes (visitMention bans) := by
  have hmap : n.argumentTypes = (n.items .typeArgs).flatMap fun c => [⟨.typeArgument, c⟩] := List.map_eq_flatMap
  rw [visitEach_eq bans _ _ h, hmap]
  rfl

/-- The type arguments of a node in a field. -/
theorem visitEach_argumentsOf {v : Value} (h : ∀ c, v.node? = some c → (c.get .typeArgs).isListed = true) :
    visitEach bans .typeArgument none (v.get .typeArgs) =
      forM (v.node?.toList.flatMap Node.argumentTypes) (visitMention bans) := by
  cases hv : v.node? with
  | none =>
    have hnull : v.get .typeArgs = .null := by
      cases v with
      | node n => simp [Value.node?] at hv
      | _ => rfl
    rw [hnull, visitEach_eq bans _ _ rfl]
    rfl
  | some c =>
    rw [Value.eq_node_of_node? hv, Value.get, visitEach_arguments bans (h c hv), Option.toList_some,
      List.flatMap_singleton]

theorem visitSignature_eq {n : Node} (h : n.Listed) :
    visitSignature bans n = forM n.signatureTypes (visitMention bans) := by
  rw [visitSignature, visitEach_field bans _ (h.get (by simp)), visitEach_field bans _ (h.get (by simp)), visitType_eq,
    Node.signatureTypes, List.forM_append, List.forM_append, bind_assoc]
  rfl

theorem check_functionType {m : Mention} (h : m.node.kind = .functionType) : check bans m = pure () := by
  have hname : m.node.name? = none := by
    cases hn : m.node.name? with
    | none => rfl
    | some name => simpa [h] using Lint.kind_of_name? (by rw [h]; rfl) hn
  rw [check, finding?, hname]

/-- A type that is mentioned is checked, and then the types inside it are visited. -/
theorem visitMention_eq {m : Mention} (h : m.node.Listed) :
    visitMention bans m = (do check bans m; forM m.node.innerTypes (visitMention bans)) := by
  rw [visitMention, visitType]
  split
  · next hk =>
    have hinner : m.node.innerTypes = m.node.signatureTypes := by simp only [Node.innerTypes, hk]
    rw [hinner, visitSignature_eq bans h, check_functionType bans hk, pure_bind]
  · next hk =>
    have hinner : m.node.innerTypes = m.node.argumentTypes := by simp only [Node.innerTypes, hk]
    rw [hinner, visitEach_arguments bans (h.get (by simp))]
  · next hk =>
    have hinner : m.node.innerTypes = m.node.argumentTypes := by simp only [Node.innerTypes, hk]
    rw [hinner, visitEach_arguments bans (h.get (by simp))]
  · next hfunction hreference hqualified =>
    have hinner : m.node.innerTypes = [] := by
      unfold Node.innerTypes
      split <;> first | contradiction | rfl
    rw [hinner, List.forM_nil]
    exact (bind_pure (check bans m)).symm

theorem mem_walk_of_innerTypes {n : Node} {m : Mention} (h : m ∈ n.innerTypes) : m.node ∈ n.walk := by
  obtain ⟨p, -, hat, -⟩ := (enumerates_innerTypes n).exists_key h
  exact Node.mem_walk_of_at? hat

/-- A type that is mentioned is checked with all that it leads to. -/
theorem visitMention_all {m : Mention} (h : m.node.Listed) : visitMention bans m = forM m.all (check bans) := by
  induction m using Mention.all.induct with
  | case1 m ih =>
    rw [visitMention_eq bans h, Mention.all_eq, List.forM_cons, forM_flatMap]
    congr 1
    funext _
    exact forM_congr fun inner hinner => ih inner hinner (h.of_mem (mem_walk_of_innerTypes hinner))

theorem forM_visitMention {ms : List Mention} (h : ∀ m ∈ ms, m.node.Listed) :
    forM ms (visitMention bans) = forM (ms.flatMap Mention.all) (check bans) := by
  rw [forM_flatMap]
  exact forM_congr fun m hm => visitMention_all bans (h m hm)

theorem argumentsOf_isListed {n : Node} (h : n.Listed) (f : Field) :
    ∀ c, (n.get f).node? = some c → (c.get .typeArgs).isListed = true := by
  intro c hc
  have hat : n.at? [.field f] = some c := Node.at?_cons_eq_some.2 ⟨c, hc, rfl⟩
  exact h c (Node.mem_walk_of_at? hat) .typeArgs (by simp)

/-- The visit of a node is one of the types that it mentions. -/
theorem visit_eq {n : Node} (h : n.Listed) {ms : List Mention} (hms : n.entryTypes? = some ms) :
    visit bans n = forM ms (visitMention bans) := by
  cases hk : n.kind with
  | variableDeclarator | propertyDefinition =>
    simp only [Node.entryTypes?, hk, Option.some.injEq] at hms
    simp only [visit, hk, ← hms]
    exact visitType_eq bans _ _
  | functionDeclaration | functionExpression | arrowFunctionExpression =>
    simp only [Node.entryTypes?, hk, Option.some.injEq] at hms
    simp only [visit, hk, ← hms]
    exact visitSignature_eq bans h
  | classDeclaration | classExpression =>
    simp only [Node.entryTypes?, hk, Option.some.injEq] at hms
    simp only [visit, hk, ← hms]
    rw [visitEach_field bans _ (h.get (by simp)), visitEach_argumentsOf bans (argumentsOf_isListed h .heritage),
      List.forM_append]
    rfl
  | expressionStatement =>
    simp only [Node.entryTypes?, hk, Option.some.injEq] at hms
    simp only [visit, hk, ← hms]
    exact visitEach_argumentsOf bans (argumentsOf_isListed h .expression)
  | _ => simp [Node.entryTypes?, hk] at hms

theorem visit_of_not_mem {n : Node} (h : n.kind ∉ info.entryKinds) : visit bans n = throw (.unhandled n.kind) := by
  cases hk : n.kind with
  | variableDeclarator | propertyDefinition | functionDeclaration | functionExpression | arrowFunctionExpression
  | classDeclaration | classExpression | expressionStatement =>
    rw [hk] at h
    exact absurd h (by decide)
  | _ => simp only [visit, hk]

theorem entryTypes?_of_mem {n : Node} (h : n.kind ∈ info.entryKinds) : ∃ ms, n.entryTypes? = some ms := by
  cases hk : n.kind with
  | variableDeclarator | propertyDefinition | functionDeclaration | functionExpression | arrowFunctionExpression
  | classDeclaration | classExpression | expressionStatement =>
    simp only [Node.entryTypes?, hk]
    exact ⟨_, rfl⟩
  | _ =>
    rw [hk] at h
    exact absurd h (by decide)

theorem mem_walk_of_entryTypes {n : Node} {ms : List Mention} (hms : n.entryTypes? = some ms) {m : Mention}
    (h : m ∈ ms) : m.node ∈ n.walk := by
  have hentry := enumerates_entryTypes n
  rw [hms, Option.getD_some] at hentry
  obtain ⟨p, -, hat, -⟩ := hentry.exists_key h
  exact Node.mem_walk_of_at? hat

variable {bans} in
theorem mem_entryKinds_of_handled {kind : NodeKind} (h : kind ∈ handledKinds bans) : kind ∈ info.entryKinds := by
  unfold handledKinds at h
  split at h
  · exact absurd h (List.not_mem_nil)
  · exact h

/-! ## what a visit reports -/

/-- The diagnostic of a finding. -/
def Finding.entry (f : Finding) (r : Reporter) : Diagnostic := f.call.entry r f.name f.ban.message

section Perform

variable {bans} {r : Reporter} (hr : r.info = info)
include hr

theorem diagnostic?_eq_entry (f : Finding) : f.diagnostic? r = some (f.entry r) := Call.toOption_draft hr f.call

/-- A finding is reported without fail. -/
theorem perform_report_finding (f : Finding) : r.perform f.call.report = (.ok (), r.extend [f.entry r]) := by
  have hdraft : (f.call.draft r).toOption = some (f.entry r) := diagnostic?_eq_entry hr f
  rw [Call.perform_report]
  cases hd : f.call.draft r with
  | ok d =>
    rw [hd] at hdraft
    rw [Option.some.inj hdraft]
  | error e =>
    rw [hd] at hdraft
    simp [Except.toOption] at hdraft

theorem perform_check (m : Mention) :
    r.perform (check bans m) = (.ok (), r.extend ((finding? bans m).toList.map (·.entry r))) := by
  unfold check
  cases finding? bans m with
  | none => rw [Option.toList_none, List.map_nil, Reporter.extend_nil, Reporter.perform_pure]
  | some f =>
    rw [Option.toList_some, List.map_singleton, Reporter.perform_adapt, perform_report_finding hr]
    rfl

/-- Checks do not fail, and report the banned names in order. -/
theorem perform_forM_check (ms : List Mention) :
    r.perform (forM ms (check bans)) = (.ok (), r.extend ((ms.filterMap (finding? bans)).map (·.entry r))) := by
  induction ms generalizing r with
  | nil =>
    rw [List.filterMap_nil, List.map_nil, Reporter.extend_nil]
    rfl
  | cons m ms ih =>
    have hrest := ih (r := r.extend ((finding? bans m).toList.map (·.entry r))) hr
    rw [List.forM_cons, Reporter.perform_bind, perform_check hr]
    dsimp only
    rw [hrest, Reporter.extend_extend]
    cases hm : finding? bans m with
    | none =>
      rw [List.filterMap_cons_none hm]
      rfl
    | some f =>
      rw [List.filterMap_cons_some hm]
      rfl

/-- What types lead to is reported, without fail. -/
theorem perform_forM_visitMention {ms : List Mention} (h : ∀ m ∈ ms, m.node.Listed) :
    r.perform (forM ms (visitMention bans)) = (.ok (), r.extend ((findings bans ms).map (·.entry r))) := by
  rw [forM_visitMention bans h, perform_forM_check hr, findings]

theorem perform_visitType {n : Node} (h : n.Listed) (p : Position) :
    r.perform (visitType bans p (.node n)) = (.ok (), r.extend ((findings bans [⟨p, n⟩]).map (·.entry r))) := by
  have hone : ∀ m ∈ [Mention.mk p n], m.node.Listed := List.forall_mem_singleton.2 h
  rw [visitType_eq]
  exact perform_forM_visitMention hr hone

theorem perform_visit {n : Node} (h : n.Listed) {ms : List Mention} (hms : n.entryTypes? = some ms) :
    r.perform (visit bans n) = (.ok (), r.extend ((findings bans ms).map (·.entry r))) := by
  rw [visit_eq bans h hms]
  exact perform_forM_visitMention hr fun m hm => h.of_mem (mem_walk_of_entryTypes hms hm)

/-- The nodes that are looked at are visited one after the other. -/
theorem perform_traverse {root : Node} (h : root.Listed) :
    r.perform (root.traverse (handlers bans)) = (.ok (), r.extend ((inspect bans root).map (·.entry r))) := by
  have hvisit : ∀ n ∈ root.visited (handledKinds bans),
      visit bans n = forM ((n.entryTypes?.getD []).flatMap Mention.all) (check bans) := by
    intro n hn
    obtain ⟨hwalk, hkind⟩ := List.mem_filter.1 hn
    obtain ⟨ms, hms⟩ := entryTypes?_of_mem (mem_entryKinds_of_handled (List.contains_iff_mem.1 hkind))
    have hlisted := h.of_mem hwalk
    rw [visit_eq bans hlisted hms, hms, Option.getD_some]
    exact forM_visitMention bans fun m hm => hlisted.of_mem (mem_walk_of_entryTypes hms hm)
  have hinspect : inspect bans root =
      ((root.visited (handledKinds bans)).flatMap fun n => (n.entryTypes?.getD []).flatMap Mention.all).filterMap
        (finding? bans) := by
    simp only [inspect, visit?_getD, List.filterMap_flatMap]
  rw [handlers, Node.traverse_forKinds, forM_congr hvisit, ← forM_flatMap, perform_forM_check hr, hinspect]

end Perform

/-! ## what reports are about -/

/-- A diagnostic is the report of a node of a tree whose name is a text that a ban applies to. -/
def Concerns (root : Node) (r : Reporter) (d : Diagnostic) : Prop :=
  ∃ f : Finding, f.mention.node ∈ root.walk ∧ f.mention.node.get .name = .text f.name ∧ f.ban ∈ bans ∧
    f.ban.applies f.name = true ∧ d = f.entry r

theorem mem_walk_of_all {m t : Mention} (h : t ∈ m.all) : t.node ∈ m.node.walk := by
  obtain ⟨ps, hps, -⟩ := m.enumerates_all.exists_key h
  exact Node.mem_walk_of_at? hps.at?

variable {bans}

theorem finding?_eq_some {m : Mention} {f : Finding} (h : finding? bans m = some f) :
    f.mention = m ∧ m.node.get .name = .text f.name ∧ f.ban ∈ bans ∧ f.ban.applies f.name = true := by
  unfold finding? at h
  split at h
  · simp at h
  · next name hname =>
    obtain ⟨ban, hban, rfl⟩ := Option.map_eq_some_iff.1 h
    have happlies : ban.applies name = true := by simpa using List.find?_some hban
    have htext : m.node.get .name = .text name := by
      rw [Node.name?] at hname
      cases hv : m.node.get .name <;> simp_all [Value.text?]
    exact ⟨rfl, htext, List.mem_of_find?_eq_some hban, happlies⟩

/-- What is found at mentions in a tree is about nodes of the tree. -/
theorem concerns_of_findings {root : Node} {ms : List Mention} (h : ∀ m ∈ ms, m.node ∈ root.walk) {f : Finding}
    (hf : f ∈ findings bans ms) (r : Reporter) : Concerns bans root r (f.entry r) := by
  obtain ⟨t, ht, hfound⟩ := List.mem_filterMap.1 hf
  obtain ⟨m, hm, ht⟩ := List.mem_flatMap.1 ht
  obtain ⟨rfl, hname, hban, happlies⟩ := finding?_eq_some hfound
  exact ⟨f, Node.mem_walk_trans (h m hm) (mem_walk_of_all ht), hname, hban, happlies, rfl⟩

theorem concerns_of_inspect {root : Node} {f : Finding} (hf : f ∈ inspect bans root) (r : Reporter) :
    Concerns bans root r (f.entry r) := by
  obtain ⟨n, hn, hf⟩ := List.mem_flatMap.1 hf
  cases hms : n.entryTypes? with
  | none => simp [visit?, hms] at hf
  | some ms =>
    rw [visit?, hms] at hf
    refine concerns_of_findings (fun m hm => ?_) hf r
    exact Node.mem_walk_trans (List.mem_filter.1 hn).1 (mem_walk_of_entryTypes hms hm)

end TypeLint.Rule.BanTypes

namespace TypeLint.Lint

open Report Rule TypeLint.Tree

/-- Step by step, a linter gives the same diagnostics. -/
theorem Linter.examine_eq {root : Node} (h : root.Listed) (l : Linter) (file : Option Text) :
    l.examine file root = .ok (l.lintProgram file root) := by
  have hr : (l.reporter file).info = BanTypes.info := rfl
  have hall : (·.diagnostic? (l.reporter file)) = fun f : BanTypes.Finding => some (f.entry (l.reporter file)) :=
    funext (BanTypes.diagnostic?_eq_entry hr)
  rw [Linter.examine, BanTypes.perform_traverse hr h, Linter.lintProgram, hall, List.filterMap_eq_map']
  rfl

theorem Linter.concerns_of_lintProgram {l : Linter} {file : Option Text} {root : Node} {d : Diagnostic}
    (h : d ∈ l.lintProgram file root) : BanTypes.Concerns l.bans root (l.reporter file) d := by
  have hr : (l.reporter file).info = BanTypes.info := rfl
  obtain ⟨f, hf, hd⟩ := List.mem_filterMap.1 (List.mem_mergeSort.1 h)
  rw [BanTypes.diagnostic?_eq_entry hr] at hd
  exact Option.some.inj hd ▸ BanTypes.concerns_of_inspect hf (l.reporter file)

/-- On a tree whose list fields hold lists or nothing, the visits of the tree, of a type and of a program return, and so
does the visit of a node of a kind that is looked at; they report what is found.  The visit of any other node fails, and
nothing is reported.  All reports are about nodes of the tree whose names are texts that a ban applies to. -/
theorem Linter.visits_return {root : Node} (hroot : root.Listed) {r : Reporter} (hr : r.info = BanTypes.info)
    (bans : List Ban) (p : Position) (l : Linter) (file : Option Text) :
    (r.perform (root.traverse (BanTypes.handlers bans)) =
        (.ok (), r.extend ((BanTypes.inspect bans root).map (·.entry r))) ∧
      ∀ f ∈ BanTypes.inspect bans root, BanTypes.Concerns bans root r (f.entry r)) ∧
    (r.perform (BanTypes.visitType bans p (.node root)) =
        (.ok (), r.extend ((BanTypes.findings bans [⟨p, root⟩]).map (·.entry r))) ∧
      ∀ f ∈ BanTypes.findings bans [⟨p, root⟩], BanTypes.Concerns bans root r (f.entry r)) ∧
    r.perform (BanTypes.visitType bans p .null) = (.ok (), r) ∧
    (l.examine file root = .ok (l.lintProgram file root) ∧
      ∀ d ∈ l.lintProgram file root, BanTypes.Concerns l.bans root (l.reporter file) d) ∧
    ((∃ kind, (r.perform (BanTypes.visit bans root)).1 = .error (.unhandled kind)) ↔
      root.kind ∉ BanTypes.info.entryKinds) ∧
    (root.kind ∉ BanTypes.info.entryKinds →
      r.perform (BanTypes.visit bans root) = (.error (.unhandled root.kind), r)) ∧
    (root.kind ∈ BanTypes.info.entryKinds → ∃ ms, root.entryTypes? = some ms ∧
      r.perform (BanTypes.visit bans root) = (.ok (), r.extend ((BanTypes.findings bans ms).map (·.entry r))) ∧
      ∀ f ∈ BanTypes.findings bans ms, BanTypes.Concerns bans root r (f.entry r)) := by
  have hfails : root.kind ∉ BanTypes.info.entryKinds →
      r.perform (BanTypes.visit bans root) = (.error (.unhandled root.kind), r) := by
    intro hkind
    rw [BanTypes.visit_of_not_mem bans hkind, Reporter.perform_throw]
  refine ⟨⟨BanTypes.perform_traverse hr hroot, fun f hf => BanTypes.concerns_of_inspect hf r⟩,
    ⟨BanTypes.perform_visitType hr hroot p, fun f hf => BanTypes.concerns_of_findings ?_ hf r⟩, ?_,
    ⟨Linter.examine_eq hroot l file, fun d hd => Linter.concerns_of_lintProgram hd⟩, ?_, hfails, ?_⟩
  · exact List.forall_mem_singleton.2 root.mem_walk_self
  · rw [BanTypes.visitType_eq]
    rfl
  · constructor
    · rintro ⟨kind, herror⟩ hkind
      obtain ⟨ms, hms⟩ := BanTypes.entryTypes?_of_mem hkind
      simp [BanTypes.perform_visit hr hroot hms] at herror
    · intro hkind
      exact ⟨root.kind, by rw [hfails hkind]⟩
  · intro hkind
    obtain ⟨ms, hms⟩ := BanTypes.entryTypes?_of_mem hkind
    refine ⟨ms, hms, BanTypes.perform_visit hr hroot hms, fun f hf => ?_⟩
    exact BanTypes.concerns_of_findings (fun m hm => BanTypes.mem_walk_of_entryTypes hms hm) hf r

/-- A function without a location and a body, whose type parameters are a gap and a parameter with an expression for a
default, and whose result is a block: the name of the expression is reported. -/
theorem Linter.visits_return_gaps :
    ∃ (l : Linter) (root : Node),
      Linter.ofRule (text "ban-types") [.arr [.str (text "A")]] = .ok l ∧
      root = .mk .functionDeclaration none [.null, .list [.null, .node (.mk .param none [.null, .null, .null,
        .node (.mk .identifier none [.text (text "A")])])], .null, .node (.mk .block none [])] ∧
      root.Listed ∧ ∃ ds, l.examine none root = .ok ds ∧ ds.length = 1 := by
  let l : Linter :=
    ⟨[⟨text "^A$", ⟨{}, .seq [.anchor .lineStart, .char 'A', .anchor .lineEnd]⟩, []⟩], text "error"⟩
  let root : Node := .mk .functionDeclaration none [.null, .list [.null, .node (.mk .param none [.null, .null, .null,
    .node (.mk .identifier none [.text (text "A")])])], .null, .node (.mk .block none [])]
  have hlisted : root.Listed := by
    simp [root, Node.Listed, Node.walk_eq, Node.preorder_eq, Node.children, Node.values, Value.nodes, Value.node?,
      Node.get, Node.kind, NodeKind.fields, Value.isListed, List.filterMap_cons]
  have hlen : (found l none root).length = 1 := by cbv
  have hreturn := (Linter.visits_return hlisted (r := l.reporter none) rfl l.bans .declared l none).2.2.2.1.1
  refine ⟨l, root, rfl, rfl, hlisted, _, hreturn, ?_⟩
  rw [Linter.lintProgram_eq, List.length_mergeSort, hlen]

end TypeLint.Lint
