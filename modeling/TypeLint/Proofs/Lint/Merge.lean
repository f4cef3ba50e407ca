import Mathlib.Data.List.Nodup
import TypeLint.Lint.Config

/-!
# Configurations put together

A configuration is a map that keeps the order of its rules.  Two such maps are the same if they name the same rules in
the same order and agree about each of them.  So it is enough to say which rules `merge` names and what it gives for
each, and its laws follow from those of lists and of options.

* `Config.ids`, `Config.rule?` — the rules that are named, and what is given for one of them;
* `Config.IsMap` — each rule is named once;
* `Config.eq_of_rule?` — when two configurations are the same;
* `Config.ids_merge`, `Config.rule?_merge` — what is named and given by two configurations together;
* `Config.merge_monoid` — configurations form a monoid.
-/

namespace TypeLint.Lint

/-- More options behind those of a rule, which keeps its severity. -/
def RuleConfig.append (r s : RuleConfig) : RuleConfig := { r with options := r.options ++ s.options }

instance : Std.Associative RuleConfig.append where
  assoc r s u := by simp [RuleConfig.append]

namespace Config

/-- The rules that a configuration names, in order. -/
def ids (c : Config) : List Text := c.rules.map Prod.fst

/-- What a configuration gives for a rule. -/
def rule? (c : Config) (id : Text) : Option RuleConfig := (c.rules.find? (·.1 = id)).map (·.2)

/-- The options of a rule; none if it is not named. -/
def options (c : Config) (id : Text) : List Json := (c.rule? id).elim [] (·.options)

/-- The severity of a rule that is named. -/
def severity? (c : Config) (id : Text) : Option Text := (c.rule? id).map (·.severity)

/-- Each rule is named once. -/
def IsMap (c : Config) : Prop := c.ids.Nodup

/-! ## what configurations name and give -/

section

variable (key : Text) (rule : RuleConfig) (rules : List (Text × RuleConfig)) (id : Text)

@[simp] theorem ids_cons : ids ⟨(key, rule) :: rules⟩ = key :: ids ⟨rules⟩ := rfl

theorem rule?_cons : rule? ⟨(key, rule) :: rules⟩ id = if key = id then some rule else rule? ⟨rules⟩ id := by
  by_cases h : key = id <;> simp [rule?, h]

theorem merge_cons (a : Config) : a.merge ⟨(key, rule) :: rules⟩ = merge ⟨addRule key rule a.rules⟩ ⟨rules⟩ := rfl

end

theorem rule?_eq_none_iff {c : Config} {id : Text} : c.rule? id = none ↔ id ∉ c.ids := by
  obtain ⟨rules⟩ := c
  induction rules with
  | nil => simp [rule?, ids]
  | cons entry rules ih =>
    obtain ⟨key, rule⟩ := entry
    rw [rule?_cons, ids_cons, List.mem_cons]
    by_cases hkey : key = id
    · simp [hkey]
    · simpa [hkey, Ne.symm hkey] using ih

/-- Two configurations are the same if they name the same rules in the same order and give the same for each. -/
theorem eq_of_rule? {a b : Config} (ha : a.IsMap) (hids : a.ids = b.ids) (h : ∀ id, a.rule? id = b.rule? id) :
    a = b := by
  obtain ⟨as⟩ := a
  obtain ⟨bs⟩ := b
  induction as generalizing bs with
  | nil =>
    cases bs with
    | nil => rfl
    | cons entry bs => simp [ids] at hids
  | cons entry as ih =>
    obtain ⟨key, rule⟩ := entry
    cases bs with
    | nil => simp [ids] at hids
    | cons entry' bs =>
      obtain ⟨key', rule'⟩ := entry'
      simp only [ids_cons, List.cons.injEq] at hids
      obtain ⟨rfl, hids⟩ := hids
      obtain ⟨hnew, ha⟩ := List.nodup_cons.1 ha
      obtain rfl : rule = rule' := by simpa [rule?_cons] using h key
      have hrest : ∀ id, rule? ⟨as⟩ id = rule? ⟨bs⟩ id := by
        intro id
        by_cases hid : key = id
        · -- the rest of neither names the first rule again
          subst hid
          rw [rule?_eq_none_iff.2 hnew, rule?_eq_none_iff.2 (hids ▸ hnew)]
        · simpa [rule?_cons, hid] using h id
      have heq := ih ha bs hids hrest
      simp only [Config.mk.injEq] at heq
      rw [heq]

/-! ## one more rule -/

section

variable (id : Text) (rule : RuleConfig) (rules : List (Text × RuleConfig))

theorem ids_addRule : ids ⟨addRule id rule rules⟩ = if id ∈ ids ⟨rules⟩ then ids ⟨rules⟩ else ids ⟨rules⟩ ++ [id] := by
  induction rules with
  | nil => simp [addRule, ids]
  | cons entry rules ih =>
    obtain ⟨key, old⟩ := entry
    rw [addRule]
    by_cases hkey : key = id
    · simp [hkey]
    · rw [if_neg hkey, ids_cons, ih]
      by_cases hid : id ∈ ids ⟨rules⟩ <;> simp [hid, Ne.symm hkey]

theorem rule?_addRule (key : Text) : rule? ⟨addRule id rule rules⟩ key =
    if id = key then Option.merge RuleConfig.append (rule? ⟨rules⟩ id) (some rule) else rule? ⟨rules⟩ key := by
  induction rules with
  | nil => simp [addRule, rule?_cons, show rule? ⟨[]⟩ id = none from rfl]
  | cons entry rules ih =>
    obtain ⟨first, old⟩ := entry
    rw [addRule]
    by_cases hfirst : first = id
    · subst hfirst
      by_cases hkey : first = key <;> simp [rule?_cons, hkey, RuleConfig.append]
    · rw [if_neg hfirst, rule?_cons, rule?_cons, rule?_cons, if_neg hfirst, ih]
      by_cases hkey : id = key
      · subst hkey
        simp [hfirst]
      · simp [hkey]

end

/-! ## two configurations -/

section

variable {a b c : Config}

/-- The rules of the first configuration stand in front, in their order, and then the new ones of the second. -/
theorem ids_merge (hb : b.IsMap) : (a.merge b).ids = a.ids ++ b.ids.filter (· ∉ a.ids) := by
  obtain ⟨rules⟩ := b
  -- the configuration in front grows by the rules that have been added
  induction rules generalizing a with
  | nil => simp [merge, ids]
  | cons entry rules ih =>
    obtain ⟨id, rule⟩ := entry
    obtain ⟨hnew, hb⟩ := List.nodup_cons.1 hb
    rw [merge_cons, ih hb, ids_addRule, ids_cons]
    by_cases hid : id ∈ a.ids
    · simp [hid]
    · have hfilter : (ids ⟨rules⟩).filter (· ∉ a.ids ++ [id]) = (ids ⟨rules⟩).filter (· ∉ a.ids) := by
        apply List.filter_congr
        intro key hkey
        have hne : key ≠ id := by
          rintro rfl
          exact hnew hkey
        simp [hne]
      rw [if_neg hid, hfilter, List.filter_cons_of_pos (by simpa using hid)]
      simp

/-- A rule of both has the options of both. -/
theorem rule?_merge (hb : b.IsMap) (id : Text) :
    (a.merge b).rule? id = Option.merge RuleConfig.append (a.rule? id) (b.rule? id) := by
  obtain ⟨rules⟩ := b
  induction rules generalizing a with
  | nil => simp [merge, show rule? ⟨[]⟩ id = none from rfl]
  | cons entry rules ih =>
    obtain ⟨key, rule⟩ := entry
    obtain ⟨hnew, hb⟩ := List.nodup_cons.1 hb
    rw [merge_cons, ih hb, rule?_addRule, rule?_cons]
    by_cases hkey : key = id
    · subst hkey
      simp [rule?_eq_none_iff.2 hnew]
    · simp [hkey]

theorem isMap_merge (ha : a.IsMap) (hb : b.IsMap) : (a.merge b).IsMap := by
  unfold IsMap
  rw [ids_merge hb, List.nodup_append]
  refine ⟨ha, hb.filter _, ?_⟩
  intro id hid key hkey
  rintro rfl
  simp [hid] at hkey

theorem empty_merge (ha : a.IsMap) : merge {} a = a := by
  have hempty : IsMap {} := List.nodup_nil
  refine eq_of_rule? (isMap_merge hempty ha) ?_ ?_
  · rw [ids_merge ha]
    simp [ids]
  · intro id
    rw [rule?_merge ha, show rule? {} id = none from rfl, Option.merge_none_left]

theorem merge_assoc (ha : a.IsMap) (hb : b.IsMap) (hc : c.IsMap) : (a.merge b).merge c = a.merge (b.merge c) := by
  have hbc := isMap_merge hb hc
  refine eq_of_rule? (isMap_merge (isMap_merge ha hb) hc) ?_ ?_
  · rw [ids_merge hc, ids_merge hb, ids_merge hbc, ids_merge hc, List.filter_append, List.filter_filter,
      List.append_assoc]
    congr 2
    -- a rule of the third is new behind both exactly if it is new behind each
    apply List.filter_congr
    intro id hid
    by_cases ha : id ∈ a.ids <;> by_cases hb : id ∈ b.ids <;> simp [ha, hb]
  · intro id
    rw [rule?_merge hc, rule?_merge hb, rule?_merge hbc, rule?_merge hc]
    exact Std.Associative.assoc _ _ _

theorem options_merge (hb : b.IsMap) (id : Text) : (a.merge b).options id = a.options id ++ b.options id := by
  unfold options
  rw [rule?_merge hb]
  cases a.rule? id <;> cases b.rule? id <;> simp [RuleConfig.append]

theorem severity?_merge (hb : b.IsMap) (id : Text) : (a.merge b).severity? id = (a.severity? id).or (b.severity? id) := by
  unfold severity?
  rw [rule?_merge hb]
  cases a.rule? id <;> cases b.rule? id <;> simp [RuleConfig.append]

/-- Configurations form a monoid: with the empty one nothing changes, on either side, and of three it does not matter
which two are put together first.  Two configurations together name the rules of the first and then the new ones of the
second; a rule has the options of the first and then those of the second, and the severity that the first gives it if it
does. -/
theorem merge_monoid (ha : a.IsMap) (hb : b.IsMap) (hc : c.IsMap) :
    merge {} a = a ∧ merge a {} = a ∧ (a.merge b).merge c = a.merge (b.merge c) ∧ (a.merge b).IsMap ∧
    (a.merge b).ids = a.ids ++ b.ids.filter (· ∉ a.ids) ∧
    ∀ id, (a.merge b).options id = a.options id ++ b.options id ∧
      (a.merge b).severity? id = (a.severity? id).or (b.severity? id) := by
  refine ⟨empty_merge ha, rfl, merge_assoc ha hb hc, isMap_merge ha hb, ids_merge hb, ?_⟩
  intro id
  exact ⟨options_merge hb id, severity?_merge hb id⟩

end

/-- Three configurations that share rules: the first gives the rule `a` its severity, though the others name it too, and
the rules that only the second one names come behind those of the first. -/
theorem merge_monoid_shared :
    ∃ first second third : Config, first.IsMap ∧ second.IsMap ∧ third.IsMap ∧
      first.ids = [text "b", text "a"] ∧ second.ids = [text "c", text "a"] ∧ third.ids = [text "a", text "d", text "c"] ∧
      (first.merge second).merge third = first.merge (second.merge third) ∧
      (first.merge second).ids = [text "b", text "a", text "c"] ∧
      (first.merge second).options (text "a") = [.null, .bool true] ∧
      (first.merge second).severity? (text "a") = some (text "warning") := by
  let first : Config := ⟨[(text "b", {}), (text "a", ⟨[.null], text "warning"⟩)]⟩
  let second : Config := ⟨[(text "c", {}), (text "a", ⟨[.bool true], text "error"⟩)]⟩
  let third : Config := ⟨[(text "a", ⟨[.null], text "error"⟩), (text "d", {}), (text "c", {})]⟩
  have hfirst : first.IsMap := by unfold IsMap; decide
  have hsecond : second.IsMap := by unfold IsMap; decide
  have hthird : third.IsMap := by unfold IsMap; decide
  obtain ⟨-, -, hassoc, -, hids, hrules⟩ := merge_monoid hfirst hsecond hthird
  obtain ⟨hoptions, hseverity⟩ := hrules (text "a")
  exact ⟨first, second, third, hfirst, hsecond, hthird, rfl, rfl, rfl, hassoc, hids.trans (by decide), hoptions,
    hseverity.trans (by decide)⟩

end Config

end TypeLint.Lint
