import Mathlib.Algebra.Group.Nat.Defs
import TypeLint.Rule.BanTypes

/-!
# Reports

A report finds its template and fills it before anything is put down, so that a report that fails leaves no trace.

* `Json.Overlong`, `Json.display?_eq_none_iff` — the values that cannot be put into a message;
* `Call.perform_report`, `Call.run_reportAll` — what a report does, and what a sequence of reports does;
* `Call.entry`, `Call.diagnostic?` — the diagnostic of a report with the texts of the two fields;
* `Call.draft_eq` — the three ways in which a report of a banned type fails, and the diagnostic of any other;
* `Call.reports_atomic` — reports that fail leave no trace, and the others are put down in order.
-/

/-! ## values without a text -/

namespace TypeLint.Json

/-- A whole number stands somewhere in a value. -/
inductive Holds : Json → Int → Prop
  | here (n : Int) : Holds (.int n) n
  | item {v : Json} {items : List Json} {n : Int} (hv : v ∈ items) (h : Holds v n) : Holds (.arr items) n
  | member {m : Text × Json} {members : List (Text × Json)} {n : Int} (hm : m ∈ members) (h : Holds m.2 n) :
      Holds (.obj members) n

/-- A whole number of too many digits stands somewhere in a value. -/
def Overlong (v : Json) : Prop := ∃ n, v.Holds n ∧ Text.maxDigits < (Text.ofNat n.natAbs).length

theorem overlong_int {n : Int} : Overlong (.int n) ↔ Text.maxDigits < (Text.ofNat n.natAbs).length := by
  constructor
  · rintro ⟨m, ⟨⟩, hm⟩
    exact hm
  · exact fun h => ⟨n, .here n, h⟩

theorem overlong_arr {items : List Json} : Overlong (.arr items) ↔ ∃ v ∈ items, v.Overlong := by
  constructor
  · rintro ⟨n, h, hn⟩
    cases h with
    | item hv h => exact ⟨_, hv, n, h, hn⟩
  · rintro ⟨v, hv, n, h, hn⟩
    exact ⟨n, .item hv h, hn⟩

theorem overlong_obj {members : List (Text × Json)} : Overlong (.obj members) ↔ ∃ m ∈ members, m.2.Overlong := by
  constructor
  · rintro ⟨n, h, hn⟩
    cases h with
    | member hm h => exact ⟨_, hm, n, h, hn⟩
  · rintro ⟨m, hm, n, h, hn⟩
    exact ⟨n, .member hm h, hn⟩

/-- Only numbers, lists and objects can be too long. -/
theorem not_overlong {v : Json} (hint : ∀ n, v ≠ .int n) (harr : ∀ items, v ≠ .arr items)
    (hobj : ∀ members, v ≠ .obj members) : ¬ v.Overlong := by
  rintro ⟨n, h, -⟩
  cases h with
  | here => exact hint n rfl
  | item => exact harr _ rfl
  | member => exact hobj _ rfl

theorem bind_pure_eq_none {f : Text → Text} {a : Option Text} : (do return f (← a)) = none ↔ a = none := by
  cases a <;> simp

theorem bind_bind_pure_eq_none {f : Text → Text → Text} {a b : Option Text} :
    (do return f (← a) (← b)) = none ↔ a = none ∨ b = none := by
  cases a <;> cases b <;> simp

mutual

theorem spell?_eq_none_iff : ∀ v : Json, v.spell? = none ↔ v.Overlong
  | .null | .bool _ | .float _ | .str _ => by
    refine iff_of_false (by simp [spell?]) (not_overlong ?_ ?_ ?_) <;> simp
  | .int n => by simp [spell?, Text.ofInt?, overlong_int]
  | .arr items => by rw [spell?, bind_pure_eq_none, spellItems?_eq_none_iff items, overlong_arr]
  | .obj members => by rw [spell?, bind_pure_eq_none, spellMembers?_eq_none_iff members, overlong_obj]

theorem spellItems?_eq_none_iff : ∀ items : List Json, spellItems? items = none ↔ ∃ v ∈ items, v.Overlong
  | [] => by simp [spellItems?]
  | [v] => by simp [spellItems?, spell?_eq_none_iff v]
  | v :: w :: rest => by
    rw [spellItems?, bind_bind_pure_eq_none, spell?_eq_none_iff v, spellItems?_eq_none_iff (w :: rest)]
    · simp
    · simp

theorem spellMembers?_eq_none_iff : ∀ members : List (Text × Json),
    spellMembers? members = none ↔ ∃ m ∈ members, m.2.Overlong
  | [] => by simp [spellMembers?]
  | [(k, v)] => by rw [spellMembers?, bind_pure_eq_none, spell?_eq_none_iff v]; simp
  | (k, v) :: m :: rest => by
    rw [spellMembers?, bind_bind_pure_eq_none, spell?_eq_none_iff v, spellMembers?_eq_none_iff (m :: rest)]
    · simp
    · simp

end

/-- A value has no text exactly if a whole number in it is too long. -/
theorem display?_eq_none_iff {v : Json} : v.display? = none ↔ v.Overlong := by
  rw [← spell?_eq_none_iff]
  cases v <;> simp [display?, spell?]

end TypeLint.Json

namespace TypeLint.Rule

open Report

/-! ## fields -/

/-- A field has no text because it is missing or too long. -/
theorem Template.value_cases (data : List (Text × Json)) (name : Text) :
    (Json.lookup name data = none ∧ value data name = .error (.missing name)) ∨
      (∃ v, Json.lookup name data = some v ∧ v.Overlong ∧ value data name = .error .tooManyDigits) ∨
      ∃ v t, Json.lookup name data = some v ∧ ¬ v.Overlong ∧ v.display? = some t ∧ value data name = .ok t := by
  unfold value
  cases Json.lookup name data with
  | none => exact .inl ⟨rfl, rfl⟩
  | some v =>
    cases hv : v.display? with
    | none => exact .inr (.inl ⟨v, rfl, Json.display?_eq_none_iff.1 hv, by simp only [hv]⟩)
    | some t =>
      refine .inr (.inr ⟨v, t, rfl, ?_, hv, by simp only [hv]⟩)
      rw [← Json.display?_eq_none_iff, hv]
      simp

/-! ## steps and sequences of steps -/

namespace Reporter

@[simp]
theorem extend_nil (r : Reporter) : r.extend [] = r := by
  rw [extend, List.append_nil]

@[simp]
theorem extend_extend (r : Reporter) (ds es : List Diagnostic) : (r.extend ds).extend es = r.extend (ds ++ es) := by
  simp only [extend, List.append_assoc]

end Reporter

namespace Call

/-- The diagnostic of a report does not depend on the reports before. -/
@[simp]
theorem draft_extend (c : Call) (r : Reporter) (ds : List Diagnostic) : c.draft (r.extend ds) = c.draft r := rfl

/-- A report puts its diagnostic behind the others, or leaves no trace. -/
theorem perform_report (c : Call) (r : Reporter) :
    r.perform c.report =
      match c.draft r with
      | .ok d => (.ok (), r.extend [d])
      | .error e => (.error e, r) := by
  have hget : r.perform (get : Reporting ReportError Reporter) = (.ok r, r) := rfl
  rw [report, Reporter.perform_bind, hget]
  dsimp only
  rw [Reporter.perform_bind]
  cases c.draft r <;> rfl

/-- Of a sequence of reports, those are put down that do not fail, in order. -/
theorem run_reportAll (calls : List Call) (r : Reporter) :
    (reportAll calls).run r =
      (calls.map fun c => (r.perform c.report).1, r.extend (calls.filterMap fun c => (c.draft r).toOption)) := by
  induction calls generalizing r with
  | nil =>
    rw [List.filterMap_nil, Reporter.extend_nil]
    rfl
  | cons c calls ih =>
    have hcons : (reportAll (c :: calls)).run r =
        ((r.perform c.report).1 :: ((reportAll calls).run (r.perform c.report).2).1,
          ((reportAll calls).run (r.perform c.report).2).2) := by
      rw [reportAll, List.mapM_cons]
      rfl
    have hsame : ∀ d, (fun c : Call => ((r.extend [d]).perform c.report).1) = fun c => (r.perform c.report).1 := by
      intro d
      funext c
      rw [perform_report, perform_report, draft_extend]
      cases c.draft r <;> rfl
    rw [hcons, List.map_cons, perform_report]
    cases hd : c.draft r with
    | ok d =>
      dsimp only
      rw [ih, hsame, Reporter.extend_extend, List.filterMap_cons_some (by rw [hd]; rfl)]
      rfl
    | error e =>
      dsimp only
      rw [ih, List.filterMap_cons_none (by rw [hd]; rfl)]

/-! ## reports of banned types -/

/-- The diagnostic of a report with the texts of the two fields. -/
def entry (c : Call) (r : Reporter) (type more : Text) : Diagnostic where
  message := text "Don't use " ++ type ++ text " as a type." ++ more
  rule := some r.rule
  messageId := some c.messageId
  data := c.data
  phase := some (text "lint")
  severity := r.severity
  span := .ofPlace r.file (match c.loc with | some l => .loc l | none => .unknown)
  notes := c.notes

/-- The diagnostic of a report; none if the message is unknown, or if a field has no text. -/
def diagnostic? (c : Call) (r : Reporter) : Option Diagnostic :=
  if c.messageId = text "bannedType" then do
    let type ← (← Json.lookup (text "type") c.data).display?
    let more ← (← Json.lookup (text "additionalMessage") c.data).display?
    return c.entry r type more
  else none

theorem template?_info (id : Text) :
    BanTypes.info.template? id = if id = text "bannedType" then some BanTypes.template else none := by
  by_cases hid : id = text "bannedType"
  · rw [if_pos hid, hid]
    rfl
  · have hne : (BanTypes.bannedType, BanTypes.template).1 ≠ id := fun h => hid h.symm
    rw [if_neg hid, Info.template?, BanTypes.info]
    simp [hne]

/-- The fields are filled from left to right. -/
theorem render_template (data : List (Text × Json)) :
    BanTypes.template.render data = do
      let type ← Template.value data (text "type")
      let more ← Template.value data (text "additionalMessage")
      return text "Don't use " ++ type ++ text " as a type." ++ more := by
  simp only [BanTypes.template, Template.render]
  cases Template.value data (text "type") with
  | error e => rfl
  | ok type =>
    cases Template.value data (text "additionalMessage") with
    | error e => rfl
    | ok more => simp [bind, Except.bind, pure, Except.pure]

theorem draft_of_ne {r : Reporter} (hr : r.info = BanTypes.info) {c : Call} (hid : c.messageId ≠ text "bannedType") :
    c.draft r = .error (.unknownMessage c.messageId) := by
  have htemplate : r.info.template? c.messageId = none := by rw [hr, template?_info, if_neg hid]
  simp only [draft, Reporter.draft, htemplate]

/-- A report fails at the first field without a text, or has a diagnostic with the texts of both. -/
theorem draft_of_eq {r : Reporter} (hr : r.info = BanTypes.info) {c : Call} (hid : c.messageId = text "bannedType") :
    c.draft r =
      ((do
        let type ← Template.value c.data (text "type")
        let more ← Template.value c.data (text "additionalMessage")
        return c.entry r type more) : Except FillError Diagnostic).mapError .unfilled := by
  have htemplate : r.info.template? c.messageId = some BanTypes.template := by rw [hr, template?_info, if_pos hid]
  simp only [draft, Reporter.draft, htemplate, render_template]
  cases Template.value c.data (text "type") with
  | error e => rfl
  | ok type => cases Template.value c.data (text "additionalMessage") <;> rfl

/-- A report looks for something that is not there: its message or a field of it.  The second field is only looked for
behind the first one. -/
def Lacks (c : Call) : Prop :=
  c.messageId ≠ text "bannedType" ∨ Json.lookup (text "type") c.data = none ∨
    ∃ type, Json.lookup (text "type") c.data = some type ∧ ¬ type.Overlong ∧
      Json.lookup (text "additionalMessage") c.data = none

/-- A report comes to a field whose value cannot be put into a message. -/
def Overlong (c : Call) : Prop :=
  c.messageId = text "bannedType" ∧ ∃ type, Json.lookup (text "type") c.data = some type ∧
    (type.Overlong ∨ ∃ more, Json.lookup (text "additionalMessage") c.data = some more ∧ more.Overlong)

/-- What comes of a report. -/
theorem draft_cases {r : Reporter} (hr : r.info = BanTypes.info) (c : Call) :
    (c.Lacks ∧ ¬ c.Overlong ∧ c.diagnostic? r = none ∧ ∃ e, c.draft r = .error e ∧ e.isMissing = true) ∨
      (¬ c.Lacks ∧ c.Overlong ∧ c.diagnostic? r = none ∧ c.draft r = .error (.unfilled .tooManyDigits)) ∨
      (¬ c.Lacks ∧ ¬ c.Overlong ∧ ∃ type more typeText moreText,
        Json.lookup (text "type") c.data = some type ∧ type.display? = some typeText ∧
        Json.lookup (text "additionalMessage") c.data = some more ∧ more.display? = some moreText ∧
        c.diagnostic? r = some (c.entry r typeText moreText) ∧ c.draft r = .ok (c.entry r typeText moreText)) := by
  by_cases hid : c.messageId = text "bannedType"
  · have hdraft := draft_of_eq hr hid
    rcases Template.value_cases c.data (text "type") with ⟨htype, hv⟩ | ⟨type, htype, hlong, hv⟩ |
      ⟨type, typeText, htype, hlong, hshown, hv⟩
    · rw [hv] at hdraft
      refine .inl ⟨.inr (.inl htype), by simp [Overlong, htype], ?_, _, hdraft, rfl⟩
      simp [diagnostic?, hid, htype]
    · rw [hv] at hdraft
      have hnone := Json.display?_eq_none_iff.2 hlong
      refine .inr (.inl ⟨by simp [Lacks, hid, htype, hlong], ⟨hid, type, htype, .inl hlong⟩, ?_, hdraft⟩)
      simp [diagnostic?, hid, htype, hnone]
    · rcases Template.value_cases c.data (text "additionalMessage") with ⟨hmore, hw⟩ | ⟨more, hmore, hlong', hw⟩ |
        ⟨more, moreText, hmore, hlong', hshown', hw⟩
      · rw [hv, hw] at hdraft
        refine .inl ⟨.inr (.inr ⟨type, htype, hlong, hmore⟩), by simp [Overlong, htype, hlong, hmore], ?_, _, hdraft, rfl⟩
        simp [diagnostic?, hid, htype, hmore]
      · rw [hv, hw] at hdraft
        have hnone := Json.display?_eq_none_iff.2 hlong'
        refine .inr (.inl ⟨by simp [Lacks, hid, htype, hmore], ⟨hid, type, htype, .inr ⟨more, hmore, hlong'⟩⟩, ?_, hdraft⟩)
        simp [diagnostic?, hid, htype, hmore, hnone]
      · rw [hv, hw] at hdraft
        refine .inr (.inr ⟨by simp [Lacks, hid, htype, hmore], by simp [Overlong, htype, hlong, hmore, hlong'], type,
          more, typeText, moreText, htype, hshown, hmore, hshown', ?_, hdraft⟩)
        simp [diagnostic?, hid, htype, hmore, hshown, hshown']
  · refine .inl ⟨.inl hid, fun h => hid h.1, if_neg hid, _, draft_of_ne hr hid, rfl⟩

/-- The diagnostic of a report has the texts of the two fields in their places. -/
theorem toOption_draft {r : Reporter} (hr : r.info = BanTypes.info) (c : Call) : (c.draft r).toOption = c.diagnostic? r := by
  rcases draft_cases hr c with ⟨-, -, hentry, e, hdraft, -⟩ | ⟨-, -, hentry, hdraft⟩ |
    ⟨-, -, _, _, _, _, -, -, -, -, hentry, hdraft⟩
  all_goals
    rw [hentry, hdraft]
    rfl

/-- A report of a banned type fails if it looks for something that is not there, or if a value holds too long a whole
number, and leaves no trace then.  Any other report puts one diagnostic behind those that are there; its message is the
template with the texts of the values in the places of the fields, whatever these hold.  After a sequence of reports,
those that did not fail have been put down, in order. -/
theorem reports_atomic {r : Reporter} (hr : r.info = BanTypes.info) :
    (∀ c : Call,
      ((∃ e, (r.perform c.report).1 = .error e ∧ e.isMissing = true) ↔ c.Lacks) ∧
      ((r.perform c.report).1 = .error (.unfilled .tooManyDigits) ↔ c.Overlong) ∧
      (∀ e, (r.perform c.report).1 = .error e → (r.perform c.report).2 = r) ∧
      (¬ c.Lacks → ¬ c.Overlong → ∃ type more typeText moreText,
        Json.lookup (text "type") c.data = some type ∧ type.display? = some typeText ∧
        Json.lookup (text "additionalMessage") c.data = some more ∧ more.display? = some moreText ∧
        r.perform c.report = (.ok (), r.extend [c.entry r typeText moreText]))) ∧
    (∀ calls, (reportAll calls).run r =
      (calls.map fun c => (r.perform c.report).1, r.extend (calls.filterMap fun c => c.diagnostic? r))) ∧
    BanTypes.template.written = text "Don't use \x7btype\x7d as a type.\x7badditionalMessage\x7d" := by
  refine ⟨fun c => ?_, fun calls => ?_, rfl⟩
  · rw [perform_report]
    rcases draft_cases hr c with ⟨hlacks, hlong, -, e, hdraft, he⟩ | ⟨hlacks, hlong, -, hdraft⟩ |
      ⟨hlacks, hlong, type, more, typeText, moreText, htype, hshown, hmore, hshown', -, hdraft⟩
    · rw [hdraft]
      refine ⟨iff_of_true ⟨e, rfl, he⟩ hlacks, iff_of_false ?_ hlong, fun _ _ => rfl, fun h => absurd hlacks h⟩
      rintro ⟨⟩
      simp [ReportError.isMissing] at he
    · rw [hdraft]
      refine ⟨iff_of_false ?_ hlacks, iff_of_true rfl hlong, fun _ _ => rfl, fun _ h => absurd hlong h⟩
      rintro ⟨e, ⟨⟩, he⟩
      simp [ReportError.isMissing] at he
    · rw [hdraft]
      refine ⟨iff_of_false (by simp) hlacks, iff_of_false (by simp) hlong, by simp, fun _ _ => ?_⟩
      exact ⟨type, more, typeText, moreText, htype, hshown, hmore, hshown', rfl⟩
  · rw [run_reportAll, funext (toOption_draft hr)]

/-- A field without a value, and then values that look like templates. -/
theorem reports_atomic_braces :
    ∃ (lacking full : Call) (r : Reporter), r.info = BanTypes.info ∧
      lacking = ⟨none, text "bannedType", [(text "type", .str (text "A"))], []⟩ ∧
      full = ⟨none, text "bannedType", [(text "type", .str (text "\x7badditionalMessage\x7d")),
        (text "additionalMessage", .str (text "\x7b0\x7d"))], []⟩ ∧
      (((reportAll [lacking, full, lacking]).run r).2.diagnostics.map (·.message)) =
        [text "Don't use \x7badditionalMessage\x7d as a type.\x7b0\x7d"] := by
  refine ⟨_, _, ⟨BanTypes.id, BanTypes.info, none, text "error", []⟩, rfl, rfl, rfl, ?_⟩
  rw [(reports_atomic rfl).2.1]
  rfl

/-- A power of ten has one digit more than its exponent says. -/
theorem lt_length_ofNat_pow {k : Nat} (hk : 0 < k) : k < (Text.ofNat (10 ^ k)).length := by
  rw [Text.ofNat, List.length_map, ← Nat.not_le, Nat.length_toDigits_le_iff (by decide) hk]
  exact Nat.lt_irrefl _

/-- A number with one digit too many, in a report whose message is known and whose fields both have values: the report
fails with no look-up to blame, and puts down nothing. -/
theorem report_long_number :
    let r : Reporter := ⟨BanTypes.id, BanTypes.info, none, text "error", []⟩
    let c : Call := ⟨none, text "bannedType",
      [(text "type", .int (10 ^ Text.maxDigits : Nat)), (text "additionalMessage", .str [])], []⟩
    r.perform c.report = (.error (.unfilled .tooManyDigits), r) ∧
      ¬ (((∃ e, (r.perform c.report).1 = .error e ∧ e.isMissing = true) ↔
          c.messageId ≠ text "bannedType" ∨ Json.lookup (text "type") c.data = none ∨
            Json.lookup (text "additionalMessage") c.data = none) ∧
        ((¬ ∃ e, (r.perform c.report).1 = .error e ∧ e.isMissing = true) →
          ∃ d, r.perform c.report = (.ok (), r.extend [d]))) := by
  intro r c
  have hdigits : Text.maxDigits < (Text.ofNat ((10 ^ Text.maxDigits : Nat) : Int).natAbs).length := by
    rw [Int.natAbs_natCast]
    exact lt_length_ofNat_pow (by decide)
  have hlong : c.Overlong := ⟨rfl, _, rfl, .inl (Json.overlong_int.2 hdigits)⟩
  have hfails : r.perform c.report = (.error (.unfilled .tooManyDigits), r) := by
    rw [perform_report]
    rcases draft_cases (r := r) rfl c with ⟨-, hno, -⟩ | ⟨-, -, -, hdraft⟩ | ⟨-, hno, -⟩
    · exact absurd hlong hno
    · rw [hdraft]
    · exact absurd hlong hno
  refine ⟨hfails, fun h => ?_⟩
  obtain ⟨d, hd⟩ := h.2 (by rw [hfails]; rintro ⟨e, ⟨⟩, he⟩; simp [ReportError.isMissing] at he)
  rw [hfails] at hd
  simp at hd

end Call

end TypeLint.Rule
