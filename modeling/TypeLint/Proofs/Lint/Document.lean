import Mathlib.Data.List.Forall2
import TypeLint.Lint.Config

/-!
# Documents that hold a configuration

A document is an object with a mark and rules.  Each rule has a list of options, or an object with options and a severity.
What is left out has a default.  A document that is not of this form is refused for the first check that fails: those of
the whole document come before those of its rules, and these follow the order of the members.

* `Config.Describes` — the configuration of a document;
* `Config.FirstFault` — the first check that a document fails;
* `Config.ruleOf_cases`, `Config.rulesOf_cases`, `Config.ofJson_cases` — a value is of the form, or fails a first check;
* `Config.ofJson_withRules` — a document with other rules;
* `Config.parse_documented` — configurations are read from the documents that describe one, and from no others.
-/

namespace TypeLint.Lint

open Files

namespace Config

/-! ## the form of a document -/

/-- What members give for a key, or the default. -/
def given (members : List (Text × Json)) (key : String) (default : Json) : Json :=
  (Json.lookup (text key) members).getD default

/-- Equal to the number zero, as `false` is too. -/
inductive Nought : Json → Prop
  | int : Nought (.int 0)
  | float (negative : Bool) (exponent : Int) : Nought (.float (.finite negative 0 exponent))
  | bool : Nought (.bool false)

/-- The mark of a document. -/
structure Supported (members : List (Text × Json)) : Prop where
  format : given members "format" (.str (text "typeban")) = .str (text "typeban")
  version : Nought (given members "version" (.int 0))

/-- How grave findings can be. -/
def IsSeverity (s : Text) : Prop := s = text "error" ∨ s = text "warning"

/-- The value of a rule: its options, or an object with the options and the severity. -/
inductive RuleValue : Json → RuleConfig → Prop
  | list (options : List Json) : RuleValue (.arr options) ⟨options, text "error"⟩
  | object {members : List (Text × Json)} {options : List Json} {severity : Text}
      (hoptions : given members "options" (.arr []) = .arr options)
      (hseverity : given members "severity" (.str (text "error")) = .str severity)
      (hknown : IsSeverity severity) : RuleValue (.obj members) ⟨options, severity⟩

/-- A member gives a rule of a configuration: its name is that of a rule, and its value one for a rule. -/
def IsRule (member : Text × Json) (rule : Text × RuleConfig) : Prop :=
  member.1 ∈ knownRules ∧ rule.1 = member.1 ∧ RuleValue member.2 rule.2

/-- A document describes a configuration: the rules are its members, in their order. -/
inductive Describes : Json → Config → Prop
  | document {members members' : List (Text × Json)} {rules : List (Text × RuleConfig)} (supported : Supported members)
      (hrules : given members "rules" (.obj []) = .obj members') (h : List.Forall₂ IsRule members' rules) :
      Describes (.obj members) ⟨rules⟩

/-- The first check that the value of a rule fails: its kind, its options, its severity. -/
inductive ValueFault (id : Text) : Json → ConfigFault → Prop
  | kind {v : Json} (hlist : ∀ options, v ≠ .arr options) (hobject : ∀ members, v ≠ .obj members) :
      ValueFault id v (.ruleNotUsable id)
  | options {members : List (Text × Json)} (h : ∀ options, given members "options" (.arr []) ≠ .arr options) :
      ValueFault id (.obj members) (.optionsNotList id)
  | severity {members : List (Text × Json)} {options : List Json}
      (hoptions : given members "options" (.arr []) = .arr options)
      (h : ∀ severity, IsSeverity severity → given members "severity" (.str (text "error")) ≠ .str severity) :
      ValueFault id (.obj members) (.badSeverity id)

/-- The first check that a rule fails: that of its name, and then those of its value. -/
inductive RuleFault : Text × Json → ConfigFault → Prop
  | unknown {id : Text} {v : Json} (h : id ∉ knownRules) : RuleFault (id, v) (.unknownRule id)
  | value {id : Text} {v : Json} {fault : ConfigFault} (hid : id ∈ knownRules) (h : ValueFault id v fault) :
      RuleFault (id, v) fault

/-- The first check that rules fail: it is one of a rule that has none before it with a fault. -/
def RulesFault (members : List (Text × Json)) (fault : ConfigFault) : Prop :=
  ∃ before member behind, members = before ++ member :: behind ∧ (∀ m ∈ before, ∃ rule, IsRule m rule) ∧
    RuleFault member fault

/-- The first check that a document fails. -/
inductive FirstFault : Json → ConfigFault → Prop
  | object {v : Json} (h : ∀ members, v ≠ .obj members) : FirstFault v .notObject
  | mark {members : List (Text × Json)} (h : ¬ Supported members) : FirstFault (.obj members) .unsupported
  | rules {members : List (Text × Json)} (supported : Supported members)
      (h : ∀ members', given members "rules" (.obj []) ≠ .obj members') : FirstFault (.obj members) .rulesNotObject
  | rule {members members' : List (Text × Json)} {fault : ConfigFault} (supported : Supported members)
      (hrules : given members "rules" (.obj []) = .obj members') (h : RulesFault members' fault) :
      FirstFault (.obj members) fault

/-! ## the mark -/

theorem isZero_iff {v : Json} : v.isZero = true ↔ Nought v := by
  constructor
  · intro h
    cases v with
    | int n =>
      obtain rfl : n = 0 := by simpa [Json.isZero] using h
      exact .int
    | bool b =>
      obtain rfl : b = false := by simpa [Json.isZero] using h
      exact .bool
    | float x =>
      cases x with
      | finite negative mantissa exponent =>
        obtain rfl : mantissa = 0 := by simpa [Json.isZero, Binary64.isZero] using h
        exact .float negative exponent
      | infinite negative => simp [Json.isZero, Binary64.isZero] at h
      | nan => simp [Json.isZero, Binary64.isZero] at h
    | null => simp [Json.isZero] at h
    | str t => simp [Json.isZero] at h
    | arr items => simp [Json.isZero] at h
    | obj members => simp [Json.isZero] at h
  · rintro (_ | _ | _) <;> rfl

theorem isSupported_iff {members : List (Text × Json)} : isSupported members = true ↔ Supported members := by
  rw [isSupported, Bool.and_eq_true, isZero_iff]
  constructor
  · rintro ⟨hformat, hversion⟩
    refine ⟨?_, hversion⟩
    unfold given
    split at hformat
    · next t h =>
      obtain rfl : t = text "typeban" := by simpa using hformat
      rw [h, Option.getD_some]
    · simp at hformat
    · next h => rw [h, Option.getD_none]
  · rintro ⟨hformat, hversion⟩
    refine ⟨?_, hversion⟩
    unfold given at hformat
    cases h : Json.lookup (text "format") members with
    | none => rfl
    | some v =>
      obtain rfl : v = .str (text "typeban") := by simpa [h] using hformat
      exact decide_eq_true rfl

/-! ## one rule -/

section

variable {id : Text} {v : Json} {rule : RuleConfig} {fault : ConfigFault}

theorem contains_severities {s : Text} : ConfigFault.severities.contains s = true ↔ IsSeverity s := by
  simp [ConfigFault.severities, IsSeverity]

theorem RuleValue.ruleOf_eq (h : RuleValue v rule) (id : Text) : ruleOf id v = .ok rule := by
  cases h with
  | list options => rfl
  | @object members options severity hoptions hseverity hknown =>
    have hs : severityOf id (.str severity) = .ok severity := if_pos (contains_severities.2 hknown)
    unfold given at hoptions hseverity
    simp [ruleOf, hoptions, hseverity, hs, bind, Except.bind, pure, Except.pure]

theorem ValueFault.ruleOf_eq (h : ValueFault id v fault) : ruleOf id v = .error fault := by
  cases h with
  | kind hlist hobject =>
    cases v with
    | arr options => exact absurd rfl (hlist options)
    | obj members => exact absurd rfl (hobject members)
    | null => rfl
    | bool b => rfl
    | int n => rfl
    | float x => rfl
    | str t => rfl
  | @options members h =>
    unfold given at h
    simp [ruleOf, bind, Except.bind]
  | @severity members options hoptions h =>
    have hs : severityOf id (given members "severity" (.str (text "error"))) = .error (.badSeverity id) := by
      unfold severityOf
      split
      · next s hseverity =>
        refine if_neg fun hs => ?_
        exact h s (contains_severities.1 hs) hseverity
      · rfl
    unfold given at hoptions hs
    simp [ruleOf, hoptions, hs, bind, Except.bind]

theorem ruleOf_cases (id : Text) (v : Json) : (∃ rule, RuleValue v rule) ∨ ∃ fault, ValueFault id v fault := by
  by_cases hlist : ∃ options, v = .arr options
  · obtain ⟨options, rfl⟩ := hlist
    exact .inl ⟨_, .list options⟩
  by_cases hobject : ∃ members, v = .obj members
  · obtain ⟨members, rfl⟩ := hobject
    by_cases hoptions : ∃ options, given members "options" (.arr []) = .arr options
    · obtain ⟨options, hoptions⟩ := hoptions
      by_cases hseverity : ∃ s, IsSeverity s ∧ given members "severity" (.str (text "error")) = .str s
      · obtain ⟨s, hs, hseverity⟩ := hseverity
        exact .inl ⟨_, .object hoptions hseverity hs⟩
      · exact .inr ⟨_, .severity hoptions fun s hs heq => hseverity ⟨s, hs, heq⟩⟩
    · exact .inr ⟨_, .options fun options heq => hoptions ⟨options, heq⟩⟩
  · exact .inr ⟨_, .kind (fun options heq => hlist ⟨options, heq⟩) fun members heq => hobject ⟨members, heq⟩⟩

end

/-! ## the rules, one after the other -/

section

variable {members : List (Text × Json)} {rules : List (Text × RuleConfig)} {fault : ConfigFault}

/-- A member that gives a rule is passed by. -/
theorem rulesOf_cons {member : Text × Json} {entry : Text × RuleConfig} (h : IsRule member entry)
    (members : List (Text × Json)) : rulesOf (member :: members) = (rulesOf members).map (entry :: ·) := by
  obtain ⟨id, v⟩ := member
  obtain ⟨id', rule⟩ := entry
  obtain ⟨hid, rfl, hvalue⟩ := h
  cases hrest : rulesOf members <;>
    simp [rulesOf, show id' ∈ knownRules from hid, hvalue.ruleOf_eq, hrest, bind, Except.bind, pure, Except.pure, Except.map]

/-- A member that fails a check stops the reading. -/
theorem RuleFault.rulesOf_eq {member : Text × Json} (h : RuleFault member fault) (members : List (Text × Json)) :
    rulesOf (member :: members) = .error fault := by
  cases h with
  | @unknown id v h =>
    simp [rulesOf, h, bind, Except.bind]
  | @value id v fault hid h =>
    simp [rulesOf, hid, h.ruleOf_eq, bind, Except.bind]

theorem rulesOf_of_forall₂ (h : List.Forall₂ IsRule members rules) : rulesOf members = .ok rules := by
  induction h with
  | nil => rfl
  | cons hmember _ ih =>
    rw [rulesOf_cons hmember, ih]
    rfl

theorem RulesFault.rulesOf_eq (h : RulesFault members fault) : rulesOf members = .error fault := by
  obtain ⟨before, member, behind, rfl, hbefore, hfault⟩ := h
  induction before with
  | nil => exact hfault.rulesOf_eq behind
  | cons first before ih =>
    obtain ⟨⟨entry, hentry⟩, hbefore⟩ := List.forall_mem_cons.1 hbefore
    rw [List.cons_append, rulesOf_cons hentry, ih hbefore]
    rfl

theorem rulesOf_cases (members : List (Text × Json)) :
    (∃ rules, List.Forall₂ IsRule members rules) ∨ ∃ fault, RulesFault members fault := by
  induction members with
  | nil => exact .inl ⟨[], .nil⟩
  | cons member members ih =>
    obtain ⟨id, v⟩ := member
    by_cases hid : id ∈ knownRules
    · rcases ruleOf_cases id v with ⟨rule, hrule⟩ | ⟨fault, hfault⟩
      · have hmember : IsRule (id, v) (id, rule) := ⟨hid, rfl, hrule⟩
        rcases ih with ⟨rules, hrules⟩ | ⟨fault, before, member, behind, rfl, hbefore, hfault⟩
        · exact .inl ⟨(id, rule) :: rules, .cons hmember hrules⟩
        · exact .inr ⟨fault, (id, v) :: before, member, behind, rfl, List.forall_mem_cons.2 ⟨⟨_, hmember⟩, hbefore⟩, hfault⟩
      · exact .inr ⟨fault, [], _, members, rfl, by simp, .value hid hfault⟩
    · exact .inr ⟨_, [], _, members, rfl, by simp, .unknown hid⟩

end

/-! ## documents -/

section

variable {v : Json} {c : Config} {fault : ConfigFault}

theorem Describes.ofJson_eq (h : Describes v c) : ofJson v = .ok c := by
  obtain ⟨supported, hrules, h⟩ := h
  unfold given at hrules
  simp [ofJson, isSupported_iff.2 supported, hrules, rulesOf_of_forall₂ h, Except.map]

theorem FirstFault.ofJson_eq (h : FirstFault v fault) : ofJson v = .error fault := by
  cases h with
  | object h =>
    unfold ofJson
    split
    · next members => exact absurd rfl (h members)
    · rfl
  | @mark members h =>
    have hmark : isSupported members = false := by
      rw [← Bool.not_eq_true, isSupported_iff]
      exact h
    simp [ofJson, hmark]
  | @rules members supported h =>
    unfold given at h
    simp [ofJson, isSupported_iff.2 supported]
  | rule supported hrules h =>
    unfold given at hrules
    simp [ofJson, isSupported_iff.2 supported, hrules, h.rulesOf_eq, Except.map]

theorem ofJson_cases (v : Json) : (∃ c, Describes v c) ∨ ∃ fault, FirstFault v fault := by
  by_cases hobject : ∃ members, v = .obj members
  · obtain ⟨members, rfl⟩ := hobject
    by_cases supported : Supported members
    · by_cases hrules : ∃ members', given members "rules" (.obj []) = .obj members'
      · obtain ⟨members', hrules⟩ := hrules
        rcases rulesOf_cases members' with ⟨rules, h⟩ | ⟨fault, h⟩
        · exact .inl ⟨⟨rules⟩, .document supported hrules h⟩
        · exact .inr ⟨fault, .rule supported hrules h⟩
      · exact .inr ⟨_, .rules supported fun members' heq => hrules ⟨members', heq⟩⟩
    · exact .inr ⟨_, .mark supported⟩
  · exact .inr ⟨_, .object fun members heq => hobject ⟨members, heq⟩⟩

end

/-- If one of two conditions holds, one for values and one for errors, then they say what the result is. -/
theorem eq_iff_of_cases {ε α : Type} {result : Except ε α} {P : α → Prop} {Q : ε → Prop} (hok : ∀ a, P a → result = .ok a)
    (herror : ∀ e, Q e → result = .error e) (hcases : (∃ a, P a) ∨ ∃ e, Q e) :
    (∀ a, result = .ok a ↔ P a) ∧ ∀ e, result = .error e ↔ Q e := by
  obtain ⟨a, ha⟩ | ⟨e, he⟩ := hcases
  · have hresult := hok a ha
    refine ⟨fun b => ⟨fun h => ?_, hok b⟩, fun e => ⟨fun h => ?_, herror e⟩⟩
    · obtain rfl : a = b := Except.ok.inj (hresult.symm.trans h)
      exact ha
    · simp [hresult] at h
  · have hresult := herror e he
    refine ⟨fun a => ⟨fun h => ?_, hok a⟩, fun e' => ⟨fun h => ?_, herror e'⟩⟩
    · simp [hresult] at h
    · obtain rfl : e = e' := Except.error.inj (hresult.symm.trans h)
      exact he

/-! ## two forms of one rule -/

theorem lookup_cons (key first : Text) (w : Json) (members : List (Text × Json)) :
    Json.lookup key ((first, w) :: members) = if first = key then some w else Json.lookup key members := by
  by_cases h : first = key <;> simp [Json.lookup, h]

theorem lookup_set (key key' : Text) (v : Json) (members : List (Text × Json)) :
    Json.lookup key (Json.set key' v members) = if key' = key then some v else Json.lookup key members := by
  induction members with
  | nil => rw [Json.set, lookup_cons]
  | cons member members ih =>
    obtain ⟨first, w⟩ := member
    rw [Json.set]
    by_cases hfirst : first = key'
    · subst hfirst
      rw [if_pos rfl, lookup_cons, lookup_cons]
      by_cases h : first = key <;> simp [h]
    · rw [if_neg hfirst, lookup_cons, lookup_cons, ih]
      by_cases h : first = key
      · subst h
        simp [Ne.symm hfirst]
      · simp [h]

/-- Only the value of a rule counts, not how it is written. -/
theorem rulesOf_congr {id : Text} {v v' : Json} (h : ruleOf id v = ruleOf id v') (before behind : List (Text × Json)) :
    rulesOf (before ++ (id, v) :: behind) = rulesOf (before ++ (id, v') :: behind) := by
  induction before with
  | nil => simp only [List.nil_append, rulesOf, h]
  | cons member before ih => simp only [List.cons_append, rulesOf, ih]

/-- The document with other rules. -/
def withRules (members rules : List (Text × Json)) : Json := .obj (Json.set (text "rules") (.obj rules) members)

theorem ofJson_withRules (members rules : List (Text × Json)) : ofJson (withRules members rules) =
    if isSupported members then (rulesOf rules).map (⟨·⟩) else .error .unsupported := by
  have hmark : isSupported (Json.set (text "rules") (.obj rules) members) = isSupported members := by
    have hformat : text "rules" ≠ text "format" := by decide
    have hversion : text "rules" ≠ text "version" := by decide
    simp only [isSupported, lookup_set, if_neg hformat, if_neg hversion]
  unfold withRules ofJson
  simp only [hmark, lookup_set, if_true, Option.getD_some]
  cases isSupported members <;> rfl

/-! ## errors -/

/-- The configuration that a value holds; an error names the file that the value is from, if there is one. -/
def parse (path : Option Path) (v : Json) : Except ConfigError Config := (ofJson v).mapError (⟨·, path⟩)

theorem load_eq {t : FileTree} {p : Path} {document : Text} {v : Json} (hread : t.readText p = .ok document)
    (hjson : Json.read document = .ok v) : load t p = (parse (some p) v).mapError .config := by
  unfold load parse
  simp only [hread, hjson]
  cases ofJson v <;> rfl

theorem parse_eq_ok_iff {path : Option Path} {v : Json} {c : Config} : parse path v = .ok c ↔ ofJson v = .ok c := by
  unfold parse
  cases ofJson v <;> simp [Except.mapError]

theorem parse_eq_error_iff {path : Option Path} {v : Json} {e : ConfigError} :
    parse path v = .error e ↔ e.path = path ∧ ofJson v = .error e.fault := by
  obtain ⟨fault, path'⟩ := e
  unfold parse
  cases ofJson v with
  | ok c => simp [Except.mapError]
  | error fault' => simp [Except.mapError, and_comm, eq_comm]

/-- A configuration is read from the documents that describe one.  Its rules are the members, in their order and with
their options, and a list of options stands for an object with these options and the severity `error`.  Any other value
is refused for the first check that it fails, in words that begin with the file it is from. -/
theorem parse_documented (path : Option Path) (v : Json) :
    (∀ c, parse path v = .ok c ↔ Describes v c) ∧
    (∀ e, parse path v = .error e ↔ e.path = path ∧ FirstFault v e.fault) ∧
    ((∃ c, parse path v = .ok c) ∨ ∃ e, parse path v = .error e ∧
      e.message = (path.elim [] fun p => p.toText ++ text ": ") ++ e.fault.message) ∧
    (∀ members before id options behind,
      parse path (withRules members (before ++ (id, .arr options) :: behind)) =
        parse path (withRules members (before ++ (id, .obj [(text "options", .arr options),
          (text "severity", .str (text "error"))]) :: behind))) ∧
    ∀ (t : FileTree) p document, t.readText p = .ok document → Json.read document = .ok v →
      Config.load t p = (parse (some p) v).mapError .config := by
  obtain ⟨hok, herror⟩ := eq_iff_of_cases (fun c => Describes.ofJson_eq) (fun fault => FirstFault.ofJson_eq) (ofJson_cases v)
  refine ⟨fun c => parse_eq_ok_iff.trans (hok c), ?_, ?_, ?_, fun t p document => load_eq⟩
  · intro e
    rw [parse_eq_error_iff, herror]
  · cases hparse : parse path v with
    | ok c => exact .inl ⟨c, rfl⟩
    | error e =>
      obtain ⟨rfl, -⟩ := parse_eq_error_iff.1 hparse
      refine .inr ⟨e, rfl, ?_⟩
      obtain ⟨fault, _ | p⟩ := e <;> simp [ConfigError.message]
  · intro members before id options behind
    have hrule : ruleOf id (.arr options) =
        ruleOf id (.obj [(text "options", .arr options), (text "severity", .str (text "error"))]) := rfl
    simp only [parse, ofJson_withRules, rulesOf_congr hrule]

/-- Of a rule with bad options, a bad severity and an unknown rule behind it, the options are to blame; and a file with an
empty list is refused under its name. -/
theorem parse_documented_first :
    (∃ v e, v = withRules [] [(Rule.BanTypes.id, .obj [(text "severity", .null), (text "options", .int 1)]),
        (text "x", .arr [])] ∧ parse (some (.ofText (text "a//c"))) v = .error e ∧
      FirstFault v (.optionsNotList Rule.BanTypes.id) ∧ e.message = text "a/c: ban-types: options must be a list") ∧
    ∃ t : FileTree, t.readText (.ofText (text "c")) = .ok (text "[]") ∧ Json.read (text "[]") = .ok (.arr []) ∧
      load t (.ofText (text "c")) = .error (.config ⟨.notObject, some (.ofText (text "c"))⟩) := by
  constructor
  · let v := withRules [] [(Rule.BanTypes.id, .obj [(text "severity", .null), (text "options", .int 1)]),
      (text "x", .arr [])]
    let e : ConfigError := ⟨.optionsNotList Rule.BanTypes.id, some (.ofText (text "a//c"))⟩
    have hparse : parse (some (.ofText (text "a//c"))) v = .error e := rfl
    exact ⟨v, e, rfl, hparse, (((parse_documented _ v).2.1 e).1 hparse).2, rfl⟩
  · have hread : FileTree.readText ⟨.dir [(text "c", .file [0x5b, 0x5d])], []⟩ (.ofText (text "c")) = .ok (text "[]") := rfl
    have hjson : Json.read (text "[]") = .ok (.arr []) := rfl
    exact ⟨_, hread, hjson, (parse_documented none (.arr [])).2.2.2.2 _ _ _ hread hjson⟩

end Config

end TypeLint.Lint
