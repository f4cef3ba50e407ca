import TypeLint.Lint.Linter
import TypeLint.Proofs.Rule.Route

/-!
# What a linter reports

The diagnostics of a tree are the reports of the banned type references to which routes lead.

* `BanTypes.inspect_eq` — what is found is found among the types that are looked at;
* `report`, `found` — the diagnostic of a banned name, and the diagnostics of a tree;
* `diagnostic?_eq`, `Linter.lintProgram_eq` — a linter reports each finding, and sorts its reports;
* `BannedAt`, `IsReport` — the places where types are banned, and the report of such a place;
* `Linter.enumerates_reports` — the diagnostics are the reports, one for each place;
* `Linter.lintProgram_covers` — the same for the tree of a source, with the one route that leads to each place.
-/

namespace TypeLint.Rule

open Report TypeLint.Tree

/-! ## what is found -/

theorem entryTypes?_of_not_isEntry {n : Node} (h : isEntry n.kind = false) : n.entryTypes? = none := by
  unfold Node.entryTypes?
  split
  all_goals first | rfl | (next hk => rw [hk] at h; exact (Bool.false_ne_true h.symm).elim)

namespace BanTypes

theorem finding?_nil (m : Mention) : finding? [] m = none := by
  unfold finding?
  split <;> rfl

theorem visit?_getD (bans : List Ban) (n : Node) :
    (visit? bans n).getD [] = ((n.entryTypes?.getD []).flatMap Mention.all).filterMap (finding? bans) := by
  unfold visit? findings
  cases n.entryTypes? <;> rfl

theorem flatMap_filter {α β : Type} {p : α → Bool} {f : α → List β} (h : ∀ a, p a = false → f a = []) (l : List α) :
    (l.filter p).flatMap f = l.flatMap f := by
  induction l with
  | nil => rfl
  | cons a l ih =>
    cases ha : p a with
    | true => rw [List.filter_cons_of_pos ha, List.flatMap_cons, List.flatMap_cons, ih]
    | false => rw [List.filter_cons_of_neg (by simp [ha]), List.flatMap_cons, h a ha, List.nil_append, ih]

/-- What is found is found among the types that are looked at. -/
theorem inspect_eq (bans : List Ban) (root : Node) :
    inspect bans root = (mentions root).filterMap (finding? bans) := by
  unfold inspect Node.visited handledKinds
  simp only [visit?_getD]
  rw [mentions, List.filterMap_flatMap, ← Node.walk_eq]
  split
  · next hb =>
    rw [List.isEmpty_iff.1 hb]
    simp [finding?_nil]
  · refine flatMap_filter (fun n hn => ?_) _
    rw [entryTypes?_of_not_isEntry hn]
    rfl

end BanTypes

/-- The first ban that applies to a name is the one with the lowest index. -/
theorem firstMatch_eq_some {bans : List Ban} {name : Text} {ban : Ban} :
    firstMatch bans name = some ban ↔
      ∃ i : Nat, bans[i]? = some ban ∧ ban.applies name = true ∧
        ∀ (j : Nat) (b : Ban), j < i → bans[j]? = some b → b.applies name = false := by
  rw [firstMatch, List.find?_eq_some_iff_getElem]
  constructor
  · rintro ⟨ha, i, hi, rfl, hj⟩
    refine ⟨i, List.getElem?_eq_getElem hi, ha, ?_⟩
    intro j b hji hb
    obtain ⟨_, rfl⟩ := List.getElem?_eq_some_iff.1 hb
    simpa using hj j hji
  · rintro ⟨i, hb, ha, hj⟩
    obtain ⟨hi, rfl⟩ := List.getElem?_eq_some_iff.1 hb
    refine ⟨ha, i, hi, rfl, ?_⟩
    intro j hji
    simpa using hj j _ hji (List.getElem?_eq_getElem (by omega))

end TypeLint.Rule

namespace TypeLint.Lint

open Report Rule Source TypeLint.Tree

/-! ## reports -/

/-- The diagnostic of a banned name where it is mentioned. -/
def report (l : Linter) (file : Option Text) (m : Mention) (name : Text) (ban : Ban) : Diagnostic where
  message := text "Don't use " ++ (name ++ (text " as a type." ++ ban.message))
  rule := some (text "ban-types")
  messageId := some (text "bannedType")
  data := [(text "type", .str name), (text "additionalMessage", .str ban.message)]
  phase := some (text "lint")
  severity := l.severity
  span := .ofPlace file (match m.node.loc with | some loc => .loc loc | none => .unknown)
  notes := [text "found in " ++ m.position.describe ++ text " position"]

/-- The diagnostic of a mention, if its name is banned. -/
def report? (l : Linter) (file : Option Text) (m : Mention) : Option Diagnostic :=
  m.node.name?.bind fun name => (firstMatch l.bans name).map (report l file m name)

/-- The diagnostics of a tree, before they are sorted. -/
def found (l : Linter) (file : Option Text) (root : Node) : List Diagnostic :=
  (mentions root).filterMap (report? l file)

/-- Every finding is reported. -/
theorem diagnostic?_eq (l : Linter) (file : Option Text) (f : BanTypes.Finding) :
    f.diagnostic? (l.reporter file) = some (report l file f.mention f.name f.ban) := by
  have ht : (l.reporter file).info.template? BanTypes.bannedType = some BanTypes.template := rfl
  have htype : Json.lookup (text "type") f.data = some (.str f.name) := rfl
  have hmore : Json.lookup (text "additionalMessage") f.data = some (.str f.ban.message) := rfl
  have hm : BanTypes.template.render f.data =
      .ok (text "Don't use " ++ (f.name ++ (text " as a type." ++ f.ban.message))) := by
    simp [BanTypes.template, Template.render, Template.value, htype, hmore, Json.display?, bind, Except.bind, pure,
      Except.pure]
  simp only [BanTypes.Finding.diagnostic?, Reporter.draft, ht, hm]
  rfl

/-- The diagnostics of a tree are those of the types that are looked at, in order. -/
theorem Linter.lintProgram_eq (l : Linter) (file : Option Text) (root : Node) :
    l.lintProgram file root = (found l file root).mergeSort fun a b => a.span.key.le b.span.key := by
  have h : ∀ m, (BanTypes.finding? l.bans m).bind (·.diagnostic? (l.reporter file)) = report? l file m := by
    intro m
    unfold BanTypes.finding? report?
    cases m.node.name? with
    | none => rfl
    | some name => cases hb : firstMatch l.bans name <;> simp [hb, diagnostic?_eq]
  rw [Linter.lintProgram, BanTypes.inspect_eq, List.filterMap_filterMap]
  simp only [h, found]

/-- A type reference with a banned name stands at an address, and a route leads to it. -/
def BannedAt (bans : List Ban) (root : Node) (t : Address) : Prop :=
  ∃ (r : Route) (n : Node) (name : Text), r.address = t ∧ r.LeadsTo root n ∧ n.kind = .typeReference ∧
    n.name? = some name ∧ ∃ ban ∈ bans, ban.applies name = true

/-- The report of the type reference at an address: of the bans that apply to its name, the one with the lowest index
is reported. -/
def IsReport (l : Linter) (file : Option Text) (root : Node) (t : Address) (d : Diagnostic) : Prop :=
  ∃ (n : Node) (name : Text) (i : Nat) (ban : Ban), root.at? t = some n ∧ n.kind = .typeReference ∧
    n.name? = some name ∧ l.bans[i]? = some ban ∧ ban.applies name = true ∧
    (∀ (j : Nat) (b : Ban), j < i → l.bans[j]? = some b → b.applies name = false) ∧
    d = report l file ⟨placeBehind .declared t, n⟩ name ban

/-- Of the types, only type references have a name. -/
theorem kind_of_name? {n : Node} {name : Text} (ht : n.kind.isType = true) (h : n.name? = some name) :
    n.kind = .typeReference := by
  have hname : Field.name ∈ n.kind.fields := by
    have hv : n.get .name ≠ .null := by
      intro hn
      simp [Node.name?, hn, Value.text?] at h
    exact (List.of_mem_zip (Node.mem_zip_of_get_ne hv)).1
  generalize n.kind = k at ht hname
  cases k <;> first | rfl | exact absurd hname (by decide) | exact absurd ht (by decide)

/-- The diagnostics of a tree are the reports of the banned type references, one for each address. -/
theorem Linter.enumerates_reports {root : Node} (hroot : root.Conforms) (l : Linter) (file : Option Text) :
    Enumerates (found l file root) fun t d => BannedAt l.bans root t ∧ IsReport l file root t d := by
  refine (((enumerates_mentions hroot).filterMap).rekey (f := Route.address) ?_).congr ?_
  · rintro r d r' d' ⟨m, ⟨hr, -⟩, -⟩ ⟨m', ⟨hr', -⟩, -⟩ h
    exact Route.eq_of_address_eq hroot hr hr' h
  · intro t d
    constructor
    · rintro ⟨r, ⟨m, ⟨hr, hpos⟩, hd⟩, rfl⟩
      obtain ⟨name, hname, hd⟩ := Option.bind_eq_some_iff.1 hd
      obtain ⟨ban, hban, rfl⟩ := Option.map_eq_some_iff.1 hd
      have hkind := kind_of_name? (hr.isType hroot) hname
      obtain ⟨i, hi, ha, hj⟩ := firstMatch_eq_some.1 hban
      refine ⟨⟨r, m.node, name, rfl, hr, hkind, hname, ban, List.mem_of_getElem? hi, ha⟩, ?_⟩
      refine ⟨m.node, name, i, ban, hr.at?, hkind, hname, hi, ha, hj, ?_⟩
      rw [← hpos]
    · rintro ⟨⟨r, n, name, rfl, hr, -, hname, -⟩, n', name', i, ban, hat, -, hname', hi, ha, hj, rfl⟩
      obtain rfl := Option.some.inj (hr.at?.symm.trans hat)
      obtain rfl := Option.some.inj (hname.symm.trans hname')
      refine ⟨r, ⟨⟨placeBehind .declared r.address, n⟩, ⟨hr, rfl⟩, ?_⟩, rfl⟩
      rw [report?, hname, Option.bind_some, firstMatch_eq_some.2 ⟨i, hi, ha, hj⟩, Option.map_some]

theorem isReport_of_bannedAt {root : Node} {l : Linter} {t : Address} (h : BannedAt l.bans root t)
    (file : Option Text) : ∃ d, IsReport l file root t d := by
  obtain ⟨r, n, name, rfl, hr, hkind, hname, ban, hban, ha⟩ := h
  have hsome : (firstMatch l.bans name).isSome := List.find?_isSome.2 ⟨ban, hban, ha⟩
  obtain ⟨first, hfirst⟩ := Option.isSome_iff_exists.1 hsome
  obtain ⟨i, hi, ha, hj⟩ := firstMatch_eq_some.1 hfirst
  exact ⟨_, n, name, i, first, hr.at?, hkind, hname, hi, ha, hj, rfl⟩

/-- The tree of a source is the tree of the program that it spells. -/
theorem parseSource_eq_program {source : Text} {path : Option Text} {root : Node} :
    parseSource source path = .ok (.program root) ↔ ∃ p, parse source = .ok p ∧ p.toNode = .ok root := by
  unfold parseSource
  split
  · next e he => simp [he]
  · next p hp =>
    cases hn : p.toNode <;> simp [hp, hn, Except.map]

/-- For the tree of a source, the diagnostics are one for each address of a banned type reference that a route leads
to, and only one route does. -/
theorem Linter.lintProgram_covers {source : Text} {path : Option Text} {root : Node}
    (h : parseSource source path = .ok (.program root)) (l : Linter) (file : Option Text) :
    ∃ reports : List (Address × Diagnostic),
      (l.lintProgram file root).Perm (reports.map Prod.snd) ∧
      (reports.map Prod.fst).Nodup ∧
      (∀ t, t ∈ reports.map Prod.fst ↔ BannedAt l.bans root t) ∧
      (∀ x ∈ reports, IsReport l file root x.1 x.2) ∧
      ∀ t ∈ reports.map Prod.fst, ∃! r : Route, r.address = t ∧ ∃ n, r.LeadsTo root n := by
  obtain ⟨p, -, hp⟩ := parseSource_eq_program.1 h
  have hroot := Program.conforms hp
  obtain ⟨reports, hds, hmem, hnodup⟩ := Linter.enumerates_reports hroot l file
  have hbanned : ∀ t, t ∈ reports.map Prod.fst ↔ BannedAt l.bans root t := by
    intro t
    constructor
    · intro ht
      obtain ⟨⟨t, d⟩, hx, rfl⟩ := List.mem_map.1 ht
      exact ((hmem t d).1 hx).1
    · intro ht
      obtain ⟨d, hd⟩ := isReport_of_bannedAt ht file
      exact List.mem_map.2 ⟨(t, d), (hmem t d).2 ⟨ht, hd⟩, rfl⟩
  refine ⟨reports, ?_, hnodup, hbanned, fun x hx => ((hmem x.1 x.2).1 hx).2, ?_⟩
  · rw [Linter.lintProgram_eq, hds]
    exact List.mergeSort_perm ..
  · intro t ht
    obtain ⟨r, n, name, rfl, hr, -⟩ := (hbanned t).1 ht
    refine ⟨r, ⟨rfl, n, hr⟩, ?_⟩
    rintro r' ⟨ha, n', hr'⟩
    exact Route.eq_of_address_eq hroot hr' hr ha

theorem Linter.lintProgram_covers_declaration :
    ∃ l root, Linter.ofRule (text "ban-types") [.arr [.str (text "A"), .str (text "Use B.")]] = .ok l ∧
      parseSource (text "let a: A<A>") none = .ok (.program root) ∧ (l.lintProgram none root).length = 2 ∧
      ∃ reports : List (Address × Diagnostic), (l.lintProgram none root).Perm (reports.map Prod.snd) ∧
        ∀ t, t ∈ reports.map Prod.fst ↔ BannedAt l.bans root t := by
  obtain ⟨l, root, hl, hroot, hlen⟩ : ∃ l root,
      Linter.ofRule (text "ban-types") [.arr [.str (text "A"), .str (text "Use B.")]] = .ok l ∧
      parseSource (text "let a: A<A>") none = .ok (.program root) ∧ (found l none root).length = 2 := by
    refine ⟨⟨[⟨text "^A$", ⟨{}, .seq [.anchor .lineStart, .char 'A', .anchor .lineEnd]⟩, text "Use B."⟩],
      text "error"⟩, _, rfl, by cbv, by cbv⟩
  obtain ⟨reports, hperm, -, hbanned, -⟩ := Linter.lintProgram_covers hroot l none
  refine ⟨l, root, hl, hroot, ?_, reports, hperm, hbanned⟩
  rw [Linter.lintProgram_eq, List.length_mergeSort, hlen]

end TypeLint.Lint
