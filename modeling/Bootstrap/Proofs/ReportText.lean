import Bootstrap.Proofs.JsonWriting
import Bootstrap.Report

/-!
Reports read back from their JSON text. The reader looks members up by their names and goes by the
tags; it finds in either written form the very report, so no two reports are written alike.
-/

namespace Bootstrap

namespace Json

/-- The whole number that a token without fraction and exponent shows. -/
def Number.integer? (token : Number) : Option Int :=
  match token.fraction, token.exponent with
  | none, none =>
      let magnitude : Int := Nat.ofDigitChars 10 token.whole 0
      some (if token.negative then -magnitude else magnitude)
  | _, _ => none

namespace Node

def text? : Node → Option String
  | .string text => text
  | _ => none

def integer? : Node → Option Int
  | .number token => token.integer?
  | _ => none

def items? : Node → Option (List Node)
  | .array items .closed => some items
  | _ => none

def entries? : Node → Option (List (String × Node))
  | .object members .closed => members.mapM fun member => member.1.map fun name => (name, member.2)
  | _ => none

def member? (name : String) : Node → Option Node
  | .object members .closed => (members.find? fun member => member.1 = some name).map Prod.snd
  | _ => none

def textMember? (name : String) (node : Node) : Option String :=
  (node.member? name).bind text?

def readItems? {α : Type} (read : Node → Option α) (node : Node) : Option (List α) :=
  node.items?.bind fun items => items.mapM read

end Node

section written

theorem integer?_token (value : Int) : (token value).integer? = some value := by
  simp only [Number.integer?, token, Nat.ofDigitChars_ten_toDigits, decide_eq_true_eq]
  split <;> simp only [Option.some.injEq] <;> omega

@[simp]
theorem integer?_written (value : Int) : (number value).node.integer? = some value :=
  integer?_token value

@[simp]
theorem text?_written (text : String) : (string text).node.text? = some text := rfl

theorem itemNodes_eq_map (items : List Json) : itemNodes items = items.map node := by
  induction items with
  | nil => rfl
  | cons item items ih => rw [itemNodes, ih, List.map_cons]

theorem memberNodes_eq_map (members : List (String × Json)) :
    memberNodes members = members.map fun member => (some member.1, member.2.node) := by
  induction members with
  | nil => rfl
  | cons member members ih => rw [memberNodes, ih, List.map_cons]

theorem mapM_eq_some_of_back {α β : Type} {write : α → β} {read : β → Option α}
    (back : ∀ item, read (write item) = some item) (items : List α) :
    (items.map write).mapM read = some items := by
  have whole : read ∘ write = pure ∘ id := funext back
  rw [List.mapM_map, whole]
  exact List.mapM_pure.trans (congrArg some (List.map_id items))

theorem readItems?_written {α : Type} {write : α → Json} {read : Node → Option α}
    (back : ∀ item, read (write item).node = some item) (items : List α) :
    (array (items.map write)).node.readItems? read = some items := by
  rw [node, itemNodes_eq_map, List.map_map]
  exact mapM_eq_some_of_back back items

theorem entries?_written (members : List (String × Json)) :
    (object members).node.entries? =
      some (members.map fun member => (member.1, member.2.node)) := by
  rw [node, memberNodes_eq_map, Node.entries?, List.mapM_map]
  exact List.mapM_pure

@[simp]
theorem member?_written (name : String) (members : List (String × Json)) :
    (object members).node.member? name =
      (members.find? fun member => member.1 = name).map fun member => member.2.node := by
  rw [node, memberNodes_eq_map, Node.member?, List.find?_map]
  simp [Function.comp_def]

@[simp]
theorem textMember?_written (name : String) (members : List (String × Json)) :
    (object members).node.textMember? name =
      (members.find? fun member => member.1 = name).bind fun member => member.2.node.text? := by
  rw [Node.textMember?, member?_written, Option.bind_map]
  rfl

end written

end Json

section readers

def Verdict.read? (node : Json.Node) : Option Verdict := do
  let tag ← node.textMember? "type"
  if tag = "false" then some .no
  else if tag = "true" then some .yes
  else if tag = "integer" then ((node.member? "value").bind Json.Node.integer?).map .integer
  else if tag = "opaque" then (node.textMember? "value").map .printed
  else none

def AttemptFailure.read? (node : Json.Node) : Option AttemptFailure := do
  let kind ← (node.textMember? "kind").bind FailureKind.ofKey?
  let diagnostic ← node.textMember? "diagnostic"
  some ⟨kind, diagnostic⟩

/-- The fields of a failure stand beside the status. -/
def Outcome.read? (node : Json.Node) : Option Outcome := do
  let status ← node.textMember? "status"
  if status = "passed" then ((node.member? "value").bind Verdict.read?).map .passed
  else if status = "failed" then (AttemptFailure.read? node).map .failed
  else none

def Attempt.read? (node : Json.Node) : Option Attempt := do
  let test ← node.textMember? "test"
  let stage ← (node.textMember? "stage").bind Stage.ofName?
  let outcome ← (node.member? "outcome").bind Outcome.read?
  some ⟨test, stage, outcome⟩

def StageFailure.read? (node : Json.Node) : Option StageFailure := do
  let stage ← (node.textMember? "stage").bind Stage.ofName?
  let failure ← AttemptFailure.read? node
  some ⟨stage, failure.kind, failure.diagnostic⟩

def FailureReport.readTest? (entry : String × Json.Node) : Option (String × List StageFailure) :=
  (entry.2.readItems? StageFailure.read?).map fun failures => (entry.1, failures)

def FailureReport.read? (node : Json.Node) : Option FailureReport := do
  let entries ← (node.member? "failures").bind Json.Node.entries?
  (entries.mapM readTest?).map .mk

namespace TrialReport

def read? (node : Json.Node) : Option TrialReport := do
  let attempts ← (node.member? "attempts").bind (Json.Node.readItems? Attempt.read?)
  let report ← (node.member? "report").bind FailureReport.read?
  let failures ← (node.member? "stage_build_failures").bind (Json.Node.readItems? StageFailure.read?)
  some ⟨attempts, report, failures⟩

def ofText? (text : String) : Option TrialReport :=
  match Json.readText text with
  | (node, true) => read? node
  | _ => none

end TrialReport

end readers

section

theorem FailureKind.ofKey?_key (kind : FailureKind) : ofKey? kind.key = some kind := by
  cases kind <;> decide

theorem Verdict.read?_toJson (verdict : Verdict) : read? verdict.toJson.node = some verdict := by
  cases verdict <;> simp [read?, toJson]

theorem AttemptFailure.read?_members (before : List (String × Json)) (failure : AttemptFailure)
    (apart : ∀ member ∈ before, member.1 ≠ "kind" ∧ member.1 ≠ "diagnostic") :
    read? (Json.object (before ++ [("kind", .string failure.kind.key),
      ("diagnostic", .string failure.diagnostic)])).node = some failure := by
  have noKind : before.find? (fun member => member.1 = "kind") = none := by
    simpa using fun name value member => (apart (name, value) member).1
  have noDiagnostic : before.find? (fun member => member.1 = "diagnostic") = none := by
    simpa using fun name value member => (apart (name, value) member).2
  simp [read?, noKind, noDiagnostic, FailureKind.ofKey?_key]

theorem Outcome.read?_toJson (outcome : Outcome) : read? outcome.toJson.node = some outcome := by
  cases outcome with
  | passed value => simp [read?, toJson, Verdict.read?_toJson]
  | failed failure =>
      have read := AttemptFailure.read?_members [("status", .string "failed")] failure (by simp)
      rw [List.singleton_append] at read
      simp [Outcome.read?, toJson, read]

theorem Attempt.read?_toJson (attempt : Attempt) : read? attempt.toJson.node = some attempt := by
  simp [read?, toJson, Stage.ofName?_name, Outcome.read?_toJson]

theorem StageFailure.read?_toJson (failure : StageFailure) :
    read? failure.toJson.node = some failure := by
  have read := AttemptFailure.read?_members [("stage", .string failure.stage.name)]
    ⟨failure.kind, failure.diagnostic⟩ (by simp)
  rw [List.singleton_append] at read
  simp [read?, toJson, Stage.ofName?_name, read]

theorem FailureReport.read?_toJson (report : FailureReport) :
    read? report.toJson.node = some report := by
  have entries : (report.failures.map fun entry =>
      (entry.1, (Json.array (entry.2.map StageFailure.toJson)).node)).mapM readTest? =
        some report.failures :=
    Json.mapM_eq_some_of_back
      (fun entry => by
        rw [readTest?, Json.readItems?_written StageFailure.read?_toJson]
        rfl)
      report.failures
  simp [read?, toJson, Json.entries?_written, Function.comp_def, entries]

namespace TrialReport

theorem read?_toJson (trials : TrialReport) : read? trials.toJson.node = some trials := by
  simp [read?, toJson, members, Json.readItems?_written Attempt.read?_toJson,
    Json.readItems?_written StageFailure.read?_toJson, FailureReport.read?_toJson]

theorem ofText?_of_spells {trials : TrialReport} {text : String}
    (spelled : Json.SpellsText trials.toJson.node text) : ofText? text = some trials := by
  rw [ofText?, Json.readText_of_spells spelled]
  exact read?_toJson trials

theorem ofText?_compact (trials : TrialReport) : ofText? trials.toJson.compact = some trials :=
  ofText?_of_spells (Json.spells_compact trials.toJson)

theorem ofText?_pretty (trials : TrialReport) : ofText? trials.toJson.pretty = some trials :=
  ofText?_of_spells (Json.spells_pretty trials.toJson)

theorem written_eq_iff {write : Json → String}
    (back : ∀ trials : TrialReport, ofText? (write trials.toJson) = some trials)
    (trials other : TrialReport) :
    write trials.toJson = write other.toJson ↔ trials = other := by
  constructor
  · intro same
    have read := back trials
    rw [same, back other] at read
    exact (Option.some.inj read).symm
  · rintro rfl
    rfl

/-- Both written forms of a report are read back as it, and no other report is written so. -/
theorem toJson_lossless (trials : TrialReport) :
    (ofText? trials.toJson.compact = some trials ∧ ofText? trials.toJson.pretty = some trials) ∧
    ∀ other : TrialReport,
      (trials.toJson.compact = other.toJson.compact ↔ trials = other) ∧
      (trials.toJson.pretty = other.toJson.pretty ↔ trials = other) := by
  refine ⟨⟨ofText?_compact trials, ofText?_pretty trials⟩, fun other => ⟨?_, ?_⟩⟩
  · exact written_eq_iff ofText?_compact trials other
  · exact written_eq_iff ofText?_pretty trials other

end TrialReport

end

end Bootstrap
