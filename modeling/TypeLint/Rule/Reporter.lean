import TypeLint.Report.Diagnostic
import TypeLint.Rule.Schema
import TypeLint.Rule.Template
import TypeLint.Tree.Node

/-!
# Reporting

A rule describes itself by an `Info`.  A `Reporter` collects the diagnostics of a rule for one file.

* `Info` — what a rule says about itself;
* `Reporter`, `Reporter.draft` — where reports go, and the diagnostic of a report;
* `Reporting`, `Reporter.perform` — steps that make reports and can fail;
* `Call`, `Call.report`, `Call.reportAll` — a report that is to be made, alone and in a sequence.
-/

namespace TypeLint.Rule

open Report TypeLint.Tree

/-- What a rule says about itself. -/
structure Info where
  id : Text
  description : Text
  category : Text
  recommended : Bool
  url : Option Text
  /-- the templates of its messages by name -/
  messages : List (Text × Template)
  schema : Schema
  /-- the kinds of nodes that it looks at -/
  entryKinds : List NodeKind

/-- Why a report has no message. -/
inductive ReportError where
  | unknownMessage (id : Text)
  | unfilled (e : FillError)
deriving DecidableEq

/-- Something is looked up that is not there. -/
def ReportError.isMissing : ReportError → Bool
  | .unknownMessage _ | .unfilled (.missing _) => true
  | .unfilled .tooManyDigits => false

/-- The template of a message. -/
def Info.template? (info : Info) (id : Text) : Option Template :=
  (info.messages.find? (·.1 = id)).map (·.2)

/-- Where the reports of a rule go for one file. -/
structure Reporter where
  rule : Text
  info : Info
  file : Option Text := none
  severity : Text := text "error"
  diagnostics : List Diagnostic := []

namespace Reporter

/-- The diagnostic of a report. -/
def draft (r : Reporter) (loc : Option Loc) (id : Text) (data : List (Text × Json)) (notes : List Text) :
    Except ReportError Diagnostic :=
  match r.info.template? id with
  | none => .error (.unknownMessage id)
  | some template =>
    match template.render data with
    | .error e => .error (.unfilled e)
    | .ok message => .ok {
        message
        rule := some r.rule
        messageId := some id
        data
        phase := some (text "lint")
        severity := r.severity
        span := .ofPlace r.file (match loc with | some l => .loc l | none => .unknown)
        notes }

/-- With further diagnostics. -/
def extend (r : Reporter) (ds : List Diagnostic) : Reporter := { r with diagnostics := r.diagnostics ++ ds }

end Reporter

/-- A report that is to be made. -/
structure Call where
  /-- the location of the node that it is about -/
  loc : Option Loc
  messageId : Text
  data : List (Text × Json)
  notes : List Text := []

/-- Steps that make reports and can fail.  What was reported before a failure stays. -/
abbrev Reporting (ε : Type) := ExceptT ε (StateM Reporter)

/-- What comes of steps, and the reporter behind them. -/
def Reporter.perform {ε α : Type} (r : Reporter) (steps : Reporting ε α) : Except ε α × Reporter := steps.run.run r

namespace Call

/-- The diagnostic of a report. -/
def draft (c : Call) (r : Reporter) : Except ReportError Diagnostic := r.draft c.loc c.messageId c.data c.notes

/-- Makes a report: its diagnostic is put behind the others. -/
def report (c : Call) : Reporting ReportError Unit := do
  let r ← get
  let d ← MonadExcept.ofExcept (c.draft r)
  set (r.extend [d])

/-- Makes reports one after the other, whatever comes of those before. -/
def reportAll (calls : List Call) : StateM Reporter (List (Except ReportError Unit)) :=
  calls.mapM fun c => c.report.run

end Call

/-! ## steps -/

namespace Reporter

variable {ε ε' α β : Type}

@[simp]
theorem perform_pure (r : Reporter) (a : α) : r.perform (pure a : Reporting ε α) = (.ok a, r) := rfl

@[simp]
theorem perform_throw (r : Reporter) (e : ε) : r.perform (throw e : Reporting ε α) = (.error e, r) := rfl

theorem perform_bind (r : Reporter) (steps : Reporting ε α) (next : α → Reporting ε β) :
    r.perform (steps >>= next) =
      match r.perform steps with
      | (.ok a, r') => r'.perform (next a)
      | (.error e, r') => (.error e, r') := by
  simp only [perform, ExceptT.run_bind, StateT.run_bind]
  rcases steps.run.run r with ⟨_ | _, r'⟩ <;> rfl

theorem perform_adapt (r : Reporter) (f : ε → ε') (steps : Reporting ε α) :
    r.perform (ExceptT.adapt f steps) = ((r.perform steps).1.mapError f, (r.perform steps).2) := rfl

end Reporter

end TypeLint.Rule
