import Bootstrap.Failure

/-!
Blocking a failure again and again: the last blocker takes the place of all earlier ones, and what
is reported stays the failure at the root.
-/

namespace Bootstrap

namespace StageError

def depth : StageError → Nat
  | .dependency _ cause => cause.depth + 1
  | _ => 0

def root : StageError → StageError
  | .dependency _ cause => cause.root
  | failure => failure

theorem stage_root (error : StageError) : error.root.stage = error.rootStage := by
  induction error with
  | dependency stage cause ih => exact ih
  | _ => rfl

theorem kind_root (error : StageError) : error.root.kind = error.kind := by
  induction error with
  | dependency stage cause ih => exact ih
  | _ => rfl

theorem root_eq_self {error : StageError} (own : error.isDependency = false) :
    error.root = error := by
  cases error with
  | dependency stage cause => simp [isDependency] at own
  | _ => rfl

theorem rootStage_eq_stage {error : StageError} (own : error.isDependency = false) :
    error.rootStage = error.stage := by
  rw [← stage_root, root_eq_self own]

theorem blocking_eq_dependency {error : StageError} (own : error.isDependency = false)
    (stage : Stage) : error.blocking stage = .dependency stage error := by
  cases error with
  | dependency above cause => simp [isDependency] at own
  | _ => rfl

theorem isDependency_blocking (error : StageError) (stage : Stage) :
    (error.blocking stage).isDependency = true := by
  cases error <;> rfl

theorem stage_blocking (error : StageError) (stage : Stage) :
    (error.blocking stage).stage = stage := by
  cases error <;> rfl

theorem root_blocking (error : StageError) (stage : Stage) :
    (error.blocking stage).root = error.root := by
  cases error <;> rfl

theorem blocking_blocking (error : StageError) (lower higher : Stage) :
    (error.blocking lower).blocking higher = error.blocking higher := by
  cases error <;> rfl

theorem depth_blocking (error : StageError) (stage : Stage) :
    (error.blocking stage).depth = max 1 error.depth := by
  cases error with
  | dependency above cause =>
      simp only [blocking, depth]
      omega
  | _ => rfl

theorem foldl_blocking (error : StageError) (earlier : List Stage) (last : Stage) :
    (earlier ++ [last]).foldl blocking error = error.blocking last := by
  induction earlier generalizing error with
  | nil => rfl
  | cons stage rest ih =>
      rw [List.cons_append, List.foldl_cons, ih, blocking_blocking]

/-- What is reported besides the message depends on the root alone. -/
theorem report_of_root {error other : StageError} (same : error.root = other.root) :
    (RunError.stageBuild error).report =
      { (RunError.stageBuild other).report with message := error.message } := by
  have kind : error.kind = other.kind := by
    rw [← kind_root error, same, kind_root other]
  have stage : error.rootStage = other.rootStage := by
    rw [← stage_root error, same, stage_root other]
  rw [RunError.report, RunError.report, kind, stage]

/-- Whatever has been blocked by whatever list of generations is as good as blocked by the last of
them alone, and reports the root that it had. -/
theorem blocked_keeps_root (error : StageError) (earlier : List Stage) (last : Stage) :
    let blocked := (earlier ++ [last]).foldl blocking error
    let before := (RunError.stageBuild error).report
    let after := (RunError.stageBuild blocked).report
    blocked = error.blocking last ∧ blocked.stage = last ∧
    blocked.rootStage = error.rootStage ∧
    after.phase = before.phase ∧ after.kind = before.kind ∧ after.stage = before.stage ∧
    blocked.depth = max 1 error.depth ∧
    (error.isDependency = false → blocked = .dependency last error ∧
      blocked.message = last.name ++ " unavailable because " ++ error.message) := by
  intro blocked before after
  have alone : blocked = error.blocking last := foldl_blocking error earlier last
  have kept : blocked.root = error.root := by
    rw [alone]
    exact root_blocking error last
  have reported : after = { before with message := blocked.message } := report_of_root kept
  refine ⟨alone, ?_, ?_, ?_, ?_, ?_, ?_, ?_⟩
  · rw [alone]
    exact stage_blocking error last
  · rw [← stage_root, ← stage_root, kept]
  · rw [reported]
  · rw [reported]
  · rw [reported]
  · rw [alone]
    exact depth_blocking error last
  · intro own
    have wrapped : blocked = .dependency last error :=
      alone.trans (blocking_eq_dependency own last)
    refine ⟨wrapped, ?_⟩
    rw [wrapped]
    rfl

def badOpcode : StageError :=
  .compile .stage1 ⟨"bad opcode"⟩

theorem badOpcode_kept :
    badOpcode.isDependency = false ∧
      ([.stage2, .stage3].foldl blocking badOpcode).message =
        "stage3 unavailable because stage1 build failed: bad opcode" ∧
      ([.stage2, .stage3].foldl blocking badOpcode).rootStage = .stage1 := by
  obtain ⟨-, -, rootStage, -, -, -, -, own⟩ := blocked_keeps_root badOpcode [.stage2] .stage3
  exact ⟨rfl, (own rfl).2, rootStage⟩

end StageError

end Bootstrap
