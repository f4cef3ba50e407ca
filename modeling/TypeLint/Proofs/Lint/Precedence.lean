import TypeLint.Proofs.Lint.Places
import TypeLint.Proofs.Rule.Entries

/-!
# Bans behind other bans

Of the bans that apply to a name the first one is reported.  So bans that are put behind others change nothing about
the names that those apply to.

* `Linter.ofConfig_append` — the linter of a rule with more options;
* `Linter.ofConfig_merge` — the linter of a configuration that the bans of flags are added to;
* `Diagnostic.concerns` — whether the name that a diagnostic is about is banned;
* `Linter.interleaves_lintProgram` — what earlier and later bans find together, told apart by the names;
* `Linter.lintSource_precedence` — earlier bans keep their diagnostics, and a configuration that bans are added to keeps
  its messages and its severity.
-/

namespace TypeLint.Lint

open Report Rule Source TypeLint.Tree

/-! ## configurations -/

namespace Linter

theorem addRule_eq_ok_iff {l l' : Linter} {id : Text} {rule : RuleConfig} :
    l.addRule (id, rule) = .ok l' ↔ id = BanTypes.id ∧ (∀ v ∈ rule.options, IsEntry v) ∧
      compile rule.options = .ok l'.bans ∧ l'.severity = rule.severity := by
  obtain ⟨bans, severity⟩ := l'
  unfold addRule
  rw [← validate_eq_ok_iff id]
  by_cases hid : id = BanTypes.id
  · simp only [ne_eq, hid, not_true_eq_false, if_false, true_and]
    cases validate BanTypes.id BanTypes.info.schema (.arr rule.options) with
    | error e => simp
    | ok u => cases compile rule.options <;> simp [eq_comm]
  · simp [hid]

/-- The linter of a single rule. -/
theorem ofConfig_rule {l : Linter} {id : Text} {rule : RuleConfig} :
    ofConfig ⟨[(id, rule)]⟩ = .ok l ↔ id = BanTypes.id ∧ (∀ v ∈ rule.options, IsEntry v) ∧
      compile rule.options = .ok l.bans ∧ l.severity = rule.severity := by
  rw [ofConfig, List.foldlM_cons, bind_eq_ok]
  simp only [List.foldlM_nil, pure_eq_ok, exists_eq_right, addRule_eq_ok_iff]

/-- The linter of a rule with more options has the bans of both. -/
theorem ofConfig_append {l : Linter} {X Y : List Json} {severity : Text} :
    ofConfig ⟨[(BanTypes.id, ⟨X ++ Y, severity⟩)]⟩ = .ok l ↔
      ∃ lX lY, ofConfig ⟨[(BanTypes.id, ⟨X, severity⟩)]⟩ = .ok lX ∧ ofConfig ⟨[(BanTypes.id, ⟨Y, severity⟩)]⟩ = .ok lY ∧
        l = ⟨lX.bans ++ lY.bans, severity⟩ := by
  simp only [ofConfig_rule, true_and, List.forall_mem_append, compile_append]
  constructor
  · rintro ⟨⟨hX, hY⟩, ⟨x, y, hx, hy, hl⟩, hs⟩
    refine ⟨⟨x, severity⟩, ⟨y, severity⟩, ⟨hX, hx, rfl⟩, ⟨hY, hy, rfl⟩, ?_⟩
    rw [← hl, ← hs]
  · rintro ⟨lX, lY, ⟨hX, hx, -⟩, ⟨hY, hy, -⟩, rfl⟩
    exact ⟨⟨hX, hY⟩, ⟨_, _, hx, hy, rfl⟩, rfl⟩

/-- Each rule that a linter is made of is known. -/
theorem id_of_ofConfig {c : Config} {l : Linter} (h : ofConfig c = .ok l) : ∀ rule ∈ c.rules, rule.1 = BanTypes.id := by
  obtain ⟨rules⟩ := c
  rw [ofConfig] at h
  generalize ({} : Linter) = start at h
  induction rules generalizing start with
  | nil => simp
  | cons rule rest ih =>
    rw [List.foldlM_cons, bind_eq_ok] at h
    obtain ⟨l', hl', h⟩ := h
    rw [List.forall_mem_cons]
    exact ⟨(addRule_eq_ok_iff.1 hl').1, ih _ h⟩

/-- A configuration in which each rule stands once and that makes a linter holds at most the one rule there is. -/
theorem rules_of_ofConfig {c : Config} {l : Linter} (hc : (c.rules.map Prod.fst).Nodup) (h : ofConfig c = .ok l) :
    c.rules = [] ∨ ∃ rule, c.rules = [(BanTypes.id, rule)] := by
  have hid := id_of_ofConfig h
  obtain ⟨rules⟩ := c
  match rules with
  | [] => exact .inl rfl
  | [(id, rule)] =>
    obtain rfl : id = BanTypes.id := hid (id, rule) (by simp)
    exact .inr ⟨rule, rfl⟩
  | a :: b :: rest =>
    have ha := hid a (by simp)
    have hb := hid b (by simp)
    simp [ha, hb] at hc

end Linter

/-- The severity of the rule of a configuration. -/
def Config.severity (c : Config) : Text :=
  ((c.rules.find? (·.1 = BanTypes.id)).map (·.2.severity)).getD (text "error")

theorem Config.ofBans_eq_ok {flags : List Text} {c : Config} (h : Config.ofBans flags = .ok c) :
    c = {} ∨ ∃ entries, c = ⟨[(BanTypes.id, { options := entries })]⟩ := by
  rw [Config.ofBans, bind_eq_ok] at h
  obtain ⟨entries, -, h⟩ := h
  rw [pure_eq_ok] at h
  split at h
  · exact .inl h.symm
  · exact .inr ⟨entries, h.symm⟩

theorem Linter.severity_of_ofConfig {c : Config} {l : Linter} (hc : (c.rules.map Prod.fst).Nodup)
    (h : Linter.ofConfig c = .ok l) : l.severity = c.severity := by
  obtain ⟨rules⟩ := c
  obtain rfl | ⟨rule, rfl⟩ := Linter.rules_of_ofConfig hc h
  · obtain rfl := Except.ok.inj h
    rfl
  · exact (Linter.ofConfig_rule.1 h).2.2.2

/-- A configuration that bans are added to makes the linter of the configuration, with the bans behind its own. -/
theorem Linter.ofConfig_merge {F B : Config} {flags : List Text} {l : Linter} (hF : (F.rules.map Prod.fst).Nodup)
    (hB : Config.ofBans flags = .ok B) (h : Linter.ofConfig (F.merge B) = .ok l) :
    ∃ lF lB, Linter.ofConfig F = .ok lF ∧ Linter.ofConfig B = .ok lB ∧ l = ⟨lF.bans ++ lB.bans, lF.severity⟩ := by
  obtain ⟨rules⟩ := F
  obtain rfl | ⟨entries, rfl⟩ := Config.ofBans_eq_ok hB
  · exact ⟨l, {}, h, rfl, by simp⟩
  match rules with
  | [] =>
    obtain ⟨bans, severity⟩ := l
    obtain rfl : severity = text "error" := (Linter.ofConfig_rule.1 h).2.2.2
    exact ⟨{}, _, rfl, h, rfl⟩
  | (id, rule) :: rest =>
    by_cases hid : id = BanTypes.id
    · subst hid
      have hmerge : Config.merge ⟨(BanTypes.id, rule) :: rest⟩ ⟨[(BanTypes.id, { options := entries })]⟩ =
          ⟨(BanTypes.id, ⟨rule.options ++ entries, rule.severity⟩) :: rest⟩ := by
        simp [Config.merge, Config.addRule]
      rw [hmerge] at h
      obtain rfl : rest = [] := by
        rcases Linter.rules_of_ofConfig (by simpa using hF) h with hnil | ⟨rule', hone⟩
        · simp at hnil
        · exact (List.cons.inj hone).2
      obtain ⟨lF, lB, hlF, hlB, rfl⟩ := Linter.ofConfig_append.1 h
      have hs : lF.severity = rule.severity := (Linter.ofConfig_rule.1 hlF).2.2.2
      obtain ⟨-, hentries, hbans, -⟩ := Linter.ofConfig_rule.1 hlB
      exact ⟨lF, ⟨lB.bans, text "error"⟩, hlF, Linter.ofConfig_rule.2 ⟨rfl, hentries, hbans, rfl⟩, by rw [hs]⟩
    · -- a rule that is not known keeps its place
      have hmerge : (id, rule) ∈ (Config.merge ⟨(id, rule) :: rest⟩ ⟨[(BanTypes.id, { options := entries })]⟩).rules := by
        simp [Config.merge, Config.addRule, hid]
      exact absurd (Linter.id_of_ofConfig h _ hmerge) hid

end TypeLint.Lint

namespace TypeLint.Report

/-- Whether the name that a diagnostic is about is banned. -/
def Diagnostic.concerns (d : Diagnostic) (bans : List Rule.Ban) : Bool :=
  match Json.lookup (text "type") d.data with
  | some (.str name) => bans.any (·.applies name)
  | _ => false

end TypeLint.Report

namespace TypeLint.Lint

open Report Rule Source TypeLint.Tree

/-! ## diagnostics -/

theorem concerns_report (l : Linter) (file : Option Text) (m : Mention) (name : Text) (ban : Ban) (bans : List Ban) :
    (report l file m name ban).concerns bans = (firstMatch bans name).isSome := by
  rw [firstMatch, List.isSome_find?]
  rfl

section Together

variable (l : Linter) (more : List Ban) (file : Option Text)

theorem firstMatch_append (name : Text) :
    firstMatch (l.bans ++ more) name = (firstMatch l.bans name).or (firstMatch more name) := List.find?_append

/-- A mention that the earlier bans apply to is reported by them. -/
theorem report?_append_earlier (m : Mention) :
    (report? { l with bans := l.bans ++ more } file m).filter (·.concerns l.bans) = report? l file m := by
  unfold report?
  cases m.node.name? with
  | none => rfl
  | some name =>
    cases hl : firstMatch l.bans name with
    | some ban => simp [firstMatch_append, hl, concerns_report]; rfl
    | none => cases hm : firstMatch more name <;> simp [firstMatch_append, hl, hm, concerns_report]

/-- A mention that they do not apply to is reported by the later ones. -/
theorem report?_append_later (m : Mention) :
    (report? { l with bans := l.bans ++ more } file m).filter (!·.concerns l.bans) =
      (report? { l with bans := more } file m).filter (!·.concerns l.bans) := by
  unfold report?
  cases m.node.name? with
  | none => rfl
  | some name =>
    cases hl : firstMatch l.bans name with
    | some ban => cases hm : firstMatch more name <;> simp [firstMatch_append, hl, hm, concerns_report, Option.filter]
    | none => cases hm : firstMatch more name <;> simp [firstMatch_append, hl, hm]; rfl

end Together

/-- Each diagnostic reports the first ban that applies to its name. -/
theorem Linter.eq_report_of_mem {l : Linter} {file : Option Text} {root : Node} {d : Diagnostic}
    (h : d ∈ l.lintProgram file root) : ∃ m name ban, firstMatch l.bans name = some ban ∧ d = report l file m name ban := by
  rw [Linter.lintProgram_eq, List.mem_mergeSort] at h
  obtain ⟨m, -, hm⟩ := List.mem_filterMap.1 h
  obtain ⟨name, -, hname⟩ := Option.bind_eq_some_iff.1 hm
  obtain ⟨ban, hban, rfl⟩ := Option.map_eq_some_iff.1 hname
  exact ⟨m, name, ban, hban, rfl⟩

/-- What `ds` says about the names of the bans is `earlier`, the rest is what `later` says about other names, and all is
in the order of places. -/
def Interleaves (bans : List Ban) (ds earlier later : List Diagnostic) : Prop :=
  ds.filter (·.concerns bans) = earlier ∧
    ds.filter (!·.concerns bans) = later.filter (!·.concerns bans) ∧ ds.Pairwise Before

section Source

variable {source : Text} {p : Program} {root : Node} (hp : parse source = .ok p) (hroot : p.toNode = .ok root)
include hp hroot

theorem Linter.filter_lintProgram {l l' : Linter} {file : Option Text} {q q' : Diagnostic → Bool}
    (h : ∀ m, (report? l file m).filter q = (report? l' file m).filter q') :
    (l.lintProgram file root).filter q = (l'.lintProgram file root).filter q' := by
  have hfound : (found l file root).filter q = (found l' file root).filter q' := by
    unfold found
    rw [List.filter_filterMap, List.filter_filterMap]
    simp only [h]
  -- both sides are in the order of places, so it is enough that they hold the same diagnostics
  refine eq_of_perm ((Linter.pairwise_lintProgram hp hroot l file).filter q)
    ((Linter.pairwise_lintProgram hp hroot l' file).filter q') ?_
  have hperm : ∀ l : Linter, (l.lintProgram file root).Perm (found l file root) := by
    intro l
    rw [Linter.lintProgram_eq]
    exact List.mergeSort_perm ..
  have hl := (hperm l).filter q
  rw [hfound] at hl
  exact hl.trans ((hperm l').filter q').symm

/-- What earlier and later bans find together, told apart by the names. -/
theorem Linter.interleaves_lintProgram (l : Linter) (more : List Ban) (file : Option Text) :
    Interleaves l.bans (Linter.lintProgram { l with bans := l.bans ++ more } file root) (l.lintProgram file root)
      (Linter.lintProgram { l with bans := more } file root) := by
  refine ⟨?_, ?_, Linter.pairwise_lintProgram hp hroot _ file⟩
  · have h : ∀ m, (report? { l with bans := l.bans ++ more } file m).filter (·.concerns l.bans) =
        (report? l file m).filter fun _ => true := by
      intro m
      rw [report?_append_earlier l more file m]
      cases report? l file m <;> rfl
    rw [Linter.filter_lintProgram hp hroot h, List.filter_true]
  · exact Linter.filter_lintProgram hp hroot (report?_append_later l more file)

end Source

/-- Bans that are put behind others leave the diagnostics of those as they are, and add only what they themselves find
about other names.  So a configuration that the bans of flags are added to keeps its messages, and its severity is that
of all diagnostics. -/
theorem Linter.lintSource_precedence :
    (∀ (X Y : List Json) (severity : Text) (lX lY : Linter),
      Linter.ofConfig ⟨[(BanTypes.id, ⟨X, severity⟩)]⟩ = .ok lX → Linter.ofConfig ⟨[(BanTypes.id, ⟨Y, severity⟩)]⟩ = .ok lY →
      ∃ l, Linter.ofConfig ⟨[(BanTypes.id, ⟨X ++ Y, severity⟩)]⟩ = .ok l ∧
        ∀ (source : Text) (path file : Option Text) (root : Node), parseSource source path = .ok (.program root) →
          ∃ ds dsX dsY, l.lintSource file source = .ok ds ∧ lX.lintSource file source = .ok dsX ∧
            lY.lintSource file source = .ok dsY ∧ Interleaves lX.bans ds dsX dsY) ∧
    (∀ (F B : Config) (flags : List Text) (l : Linter), (F.rules.map Prod.fst).Nodup → Config.ofBans flags = .ok B →
      Linter.ofConfig (F.merge B) = .ok l →
      ∃ lF, Linter.ofConfig F = .ok lF ∧
        ∀ (source : Text) (path file : Option Text) (root : Node), parseSource source path = .ok (.program root) →
          ∃ ds dsF, l.lintSource file source = .ok ds ∧ lF.lintSource file source = .ok dsF ∧
            ds.filter (·.concerns lF.bans) = dsF ∧
            ∀ d ∈ ds, d.severity = F.severity ∧
              ∀ name ban, Json.lookup (text "type") d.data = some (.str name) → firstMatch lF.bans name = some ban →
                Json.lookup (text "additionalMessage") d.data = some (.str ban.message) ∧
                d.message = text "Don't use " ++ (name ++ (text " as a type." ++ ban.message))) := by
  refine ⟨?_, ?_⟩
  · intro X Y severity lX lY hX hY
    refine ⟨_, Linter.ofConfig_append.2 ⟨lX, lY, hX, hY, rfl⟩, ?_⟩
    intro source path file root hsource
    obtain ⟨p, hp, hroot⟩ := parseSource_eq_program.1 hsource
    obtain rfl : lX.severity = severity := (Linter.ofConfig_rule.1 hX).2.2.2
    obtain ⟨y, _⟩ := lY
    obtain rfl := (Linter.ofConfig_rule.1 hY).2.2.2
    exact ⟨_, _, _, Linter.lintSource_eq hp hroot _ file, Linter.lintSource_eq hp hroot _ file,
      Linter.lintSource_eq hp hroot _ file, Linter.interleaves_lintProgram hp hroot lX y file⟩
  · intro F B flags l hF hB hl
    obtain ⟨lF, lB, hlF, -, rfl⟩ := Linter.ofConfig_merge hF hB hl
    refine ⟨lF, hlF, ?_⟩
    intro source path file root hsource
    obtain ⟨p, hp, hroot⟩ := parseSource_eq_program.1 hsource
    refine ⟨_, _, Linter.lintSource_eq hp hroot _ file, Linter.lintSource_eq hp hroot _ file,
      (Linter.interleaves_lintProgram hp hroot lF lB.bans file).1, ?_⟩
    intro d hd
    obtain ⟨m, name, ban, hban, rfl⟩ := Linter.eq_report_of_mem hd
    refine ⟨Linter.severity_of_ofConfig hF hlF, ?_⟩
    rintro name' ban' hname hfirst
    obtain rfl : name = name' := Json.str.inj (Option.some.inj hname)
    rw [firstMatch_append, hfirst, Option.some_or] at hban
    obtain rfl := Option.some.inj hban
    exact ⟨rfl, rfl⟩

theorem Linter.lintSource_precedence_flags :
    ∃ (X Y : List Json) (l lX : Linter) (ds dsX dsY : List Diagnostic),
      Linter.ofConfig ⟨[(BanTypes.id, ⟨X, text "warning"⟩)]⟩ = .ok lX ∧
      Config.ofBans [text "A=Use D.", text "B"] = .ok ⟨[(BanTypes.id, { options := Y })]⟩ ∧
      Linter.ofConfig (Config.merge ⟨[(BanTypes.id, ⟨X, text "warning"⟩)]⟩ ⟨[(BanTypes.id, { options := Y })]⟩) = .ok l ∧
      l.lintSource none (text "let a: B<A>") = .ok ds ∧ lX.lintSource none (text "let a: B<A>") = .ok dsX ∧
      ds.length = 2 ∧ dsX.length = 1 ∧ Interleaves lX.bans ds dsX dsY ∧ ∀ d ∈ ds, d.severity = text "warning" := by
  let X : List Json := [.arr [.str (text "A"), .str (text "Use C.")]]
  let Y : List Json := [.arr [.str (text "A"), .str (text "Use D.")], .arr [.str (text "B")]]
  obtain ⟨l, lX, lY, root, hX, hlY, hl, hroot, hlen, hlenX⟩ : ∃ l lX lY root,
      Linter.ofConfig ⟨[(BanTypes.id, ⟨X, text "warning"⟩)]⟩ = .ok lX ∧
      Linter.ofConfig ⟨[(BanTypes.id, ⟨Y, text "warning"⟩)]⟩ = .ok lY ∧
      Linter.ofConfig ⟨[(BanTypes.id, ⟨X ++ Y, text "warning"⟩)]⟩ = .ok l ∧
      parseSource (text "let a: B<A>") none = .ok (.program root) ∧ (found l none root).length = 2 ∧
      (found lX none root).length = 1 := ⟨_, _, _, _, rfl, rfl, rfl, by cbv, by decide +kernel, by decide +kernel⟩
  obtain ⟨htogether, hmerged⟩ := Linter.lintSource_precedence
  obtain ⟨l', hl', h⟩ := htogether X Y _ lX lY hX hlY
  obtain rfl := Except.ok.inj (hl.symm.trans hl')
  obtain ⟨ds, dsX, dsY, hds, hdsX, -, hinter⟩ := h _ _ none root hroot
  have hY : Config.ofBans [text "A=Use D.", text "B"] = .ok ⟨[(BanTypes.id, { options := Y })]⟩ := rfl
  obtain ⟨lF, hlF, h⟩ := hmerged ⟨[(BanTypes.id, ⟨X, text "warning"⟩)]⟩ _ _ l (by decide) hY hl
  obtain ⟨ds', -, hds', -, -, hall⟩ := h _ _ none root hroot
  obtain rfl := Except.ok.inj (hds.symm.trans hds')
  have hlength : ∀ (l : Linter) ds, l.lintSource none (text "let a: B<A>") = .ok ds →
      ds.length = (found l none root).length := by
    intro l ds hds
    rw [Linter.lintSource, hroot] at hds
    rw [← Except.ok.inj hds, Linter.lintProgram_eq, List.length_mergeSort]
  exact ⟨X, Y, l, lX, ds, dsX, dsY, hX, hY, hl, hds, hdsX, (hlength l ds hds).trans hlen,
    (hlength lX dsX hdsX).trans hlenX, hinter, fun d hd => (hall d hd).1⟩

end TypeLint.Lint
