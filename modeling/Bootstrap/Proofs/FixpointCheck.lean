import Bootstrap.Fixpoint
import Bootstrap.Proofs.FirstDifference
import Bootstrap.Proofs.Memo

/-!
The fixpoint check without memory: two generations of the plain recursion, compared byte by byte.
-/

namespace Bootstrap

namespace Basis

variable {State Value : Type}

def judge (base next : Stage) (current again : Artifact) : Except RunError Convergence :=
  match Mismatch.compare? base next current.bytes again.bytes with
  | some mismatch => .error (.fixpoint mismatch)
  | none => .ok (.converged base next current.size current.digest)

def compare (basis : Basis State Value) (reading : Reading) (base next : Stage) :
    Except RunError Convergence :=
  match basis.generation reading base with
  | .error error => .error (.stageBuild error)
  | .ok current =>
      match basis.generation reading next with
      | .error error => .error (.stageBuild error)
      | .ok again => judge base next current again

def verify (basis : Basis State Value) (reading : Reading) (selection : Selection) :
    Except RunError Convergence :=
  if selection.checksFixpoint then
    match selection.fixpointBase.next? with
    | none => .error (.settings (selection.fixpointBase.name ++ " has no successor stage"))
    | some next => basis.compare reading selection.fixpointBase next
  else .ok .skipped

/-- How high the ladder is after the check: a base that cannot be built ends it. -/
def compareReach (basis : Basis State Value) (height : Nat) (base next : Stage)
    (reading : Reading) : Nat :=
  match basis.generation reading base with
  | .error _ => max height (base.index + 1)
  | .ok _ => max (max height (base.index + 1)) (next.index + 1)

def verifyReach (basis : Basis State Value) (height : Nat) (selection : Selection)
    (reading : Reading) : Nat :=
  if selection.checksFixpoint then
    match selection.fixpointBase.next? with
    | none => height
    | some next => basis.compareReach height selection.fixpointBase next reading
  else height

theorem le_compareReach (basis : Basis State Value) (height : Nat) (base next : Stage)
    (reading : Reading) : height ≤ basis.compareReach height base next reading := by
  unfold compareReach
  split <;> omega

theorem compareReach_le (basis : Basis State Value) {height : Nat} (low : height ≤ 4)
    (base next : Stage) (reading : Reading) : basis.compareReach height base next reading ≤ 4 := by
  have first := base.index_lt
  have second := next.index_lt
  unfold compareReach
  split <;> omega

theorem compare_of_agree {basis : Basis State Value} {reading other : Reading} {height : Nat}
    {base next : Stage} (agree : basis.Agree (basis.compareReach height base next reading) reading other) :
    basis.compare other base next = basis.compare reading base next := by
  unfold compareReach at agree
  unfold compare
  cases built : basis.generation reading base with
  | error error =>
      simp only [built] at agree
      have still := (generation_of_agree agree base (by omega)).trans built
      simp [still]
  | ok current =>
      simp only [built] at agree
      have still := (generation_of_agree agree base (by omega)).trans built
      simp [still, generation_of_agree agree next (by omega)]

theorem compareReach_of_agree {basis : Basis State Value} {reading other : Reading} {height : Nat}
    {base next : Stage}
    (agree : basis.Agree (basis.compareReach height base next reading) reading other) :
    basis.compareReach height base next other = basis.compareReach height base next reading := by
  have low : base.index < basis.compareReach height base next reading := by
    unfold compareReach
    split <;> omega
  simp only [compareReach, generation_of_agree agree base low]

theorem le_verifyReach (basis : Basis State Value) (height : Nat) (selection : Selection)
    (reading : Reading) : height ≤ basis.verifyReach height selection reading := by
  unfold verifyReach
  split
  · split
    · exact Nat.le_refl height
    · exact basis.le_compareReach height _ _ reading
  · exact Nat.le_refl height

theorem verifyReach_le (basis : Basis State Value) {height : Nat} (low : height ≤ 4)
    (selection : Selection) (reading : Reading) :
    basis.verifyReach height selection reading ≤ 4 := by
  unfold verifyReach
  split
  · split
    · exact low
    · exact basis.compareReach_le low _ _ reading
  · exact low

theorem verifyReach_of_agree {basis : Basis State Value} {reading other : Reading} {height : Nat}
    {selection : Selection}
    (agree : basis.Agree (basis.verifyReach height selection reading) reading other) :
    basis.verifyReach height selection other = basis.verifyReach height selection reading := by
  unfold verifyReach at agree ⊢
  split
  · split
    · rfl
    · rename_i checks _ next above
      simp only [checks, above, if_true] at agree
      exact compareReach_of_agree agree
  · rfl

theorem verify_of_agree {basis : Basis State Value} {reading other : Reading} {height : Nat}
    {selection : Selection}
    (agree : basis.Agree (basis.verifyReach height selection reading) reading other) :
    basis.verify other selection = basis.verify reading selection := by
  unfold verifyReach at agree
  unfold verify
  split
  · split
    · rfl
    · rename_i checks _ next above
      simp only [checks, above, if_true] at agree
      exact compare_of_agree agree
  · rfl

end Basis

/-- The base of the check is a tested generation, and each of them has a next one. -/
theorem Selection.next?_fixpointBase (selection : Selection) :
    ∃ next, selection.fixpointBase.next? = some next := by
  obtain ⟨_, stage0, stage1, stage2, _⟩ := selection
  cases stage0 <;> cases stage1 <;> cases stage2 <;> exact ⟨_, rfl⟩

namespace Basis

variable {State Value : Type}

theorem judge_isOk_iff (base next : Stage) (current again : Artifact) :
    (∃ proof, judge base next current again = .ok proof) ↔ current.bytes = again.bytes := by
  unfold judge
  rw [← Mismatch.compare?_eq_none_iff base next current.bytes again.bytes]
  cases Mismatch.compare? base next current.bytes again.bytes <;> simp

theorem verify_isOk_iff (basis : Basis State Value) (reading : Reading) (selection : Selection) :
    (∃ proof, basis.verify reading selection = .ok proof) ↔
      selection.checksFixpoint = true →
        ∃ next current again, selection.fixpointBase.next? = some next ∧
          basis.generation reading selection.fixpointBase = .ok current ∧
          basis.generation reading next = .ok again ∧ current.bytes = again.bytes := by
  obtain ⟨next, above⟩ := selection.next?_fixpointBase
  unfold verify
  cases selection.checksFixpoint with
  | false => simp
  | true =>
      simp only [above, if_true, compare, forall_const, Option.some.injEq]
      cases basis.generation reading selection.fixpointBase with
      | error error => simp
      | ok current =>
          cases found : basis.generation reading next with
          | error error => simp [found]
          | ok again => simp [found, judge_isOk_iff]

end Basis

namespace Fixpoint

variable {World Engine State Value : Type} {env : Environment World Engine Value}
  {Fits : World → Ledger Engine State → Prop} {basis : Basis State Value}
  {MayRead : Path → Except FileError Bytes → Prop}

theorem judge_takes (apart : env.LogsApart Fits) (base next : Stage) (current again : Artifact)
    (account : Account) :
    Run.Takes Fits account (judge env base next current again) fun answer after =>
      answer = Basis.judge base next current again ∧ after = account := by
  unfold judge Basis.judge
  cases Mismatch.compare? base next current.bytes again.bytes with
  | none =>
      refine Run.Takes.bind (Run.Takes.say apart _ _ _) ?_
      rintro _ _ rfl
      exact Run.Takes.pure ⟨rfl, rfl⟩
  | some mismatch =>
      refine Run.Takes.bind (Run.Takes.say apart _ _ _) ?_
      rintro _ _ rfl
      exact Run.Takes.pure ⟨rfl, rfl⟩

theorem compare_leads (deterministic : Deterministic env basis.oracle MayRead Fits)
    (base next : Stage) (reading : Reading) (height : Nat) :
    basis.Leads MayRead Fits reading height (basis.compareReach height base next)
      (compare env basis.settings base next) (fun other => basis.compare other base next)
      (fun _ => [])
      (fun other => basis.eventsBetween other height
        (basis.compareReach height base next other)) := by
  refine Basis.Leads.after_say deterministic.logsApart ?_
  intro entries events possible
  refine (Ladder.build_leads deterministic base reading height entries events possible).bind ?_
  rintro _ _ ⟨other, agree, may, rfl, rfl⟩
  dsimp only
  rw [List.append_nil]
  cases built : basis.generation other base with
  | error error =>
      refine Run.Takes.pure ⟨other, agree, may, ?_, ?_⟩
      · simp [Basis.compare, built]
      · simp [Basis.compareReach, built]
  | ok current =>
      have rises : height ≤ max height (base.index + 1) := Nat.le_max_left _ _
      refine (Ladder.build_leads deterministic next other _ entries _ may).bind ?_
      rintro _ _ ⟨another, later, possibly, rfl, rfl⟩
      have still : basis.generation another base = .ok current :=
        (Basis.generation_of_agree later base (by omega)).trans built
      have reached : basis.compareReach height base next another =
          max (max height (base.index + 1)) (next.index + 1) := by
        simp [Basis.compareReach, still]
      have asked := basis.eventsBetween_append another rises
        (Nat.le_max_left (max height (base.index + 1)) (next.index + 1))
      rw [Basis.eventsBetween_of_agree later] at asked
      dsimp only
      rw [List.append_assoc, asked, List.append_nil]
      have whole := agree.trans (later.mono rises)
      cases following : basis.generation another next with
      | error error =>
          exact Run.Takes.pure
            ⟨another, whole, possibly, by simp [Basis.compare, still, following], by simp [reached]⟩
      | ok again =>
          refine (judge_takes deterministic.logsApart base next current again _).mono ?_
          rintro _ _ ⟨rfl, rfl⟩
          exact
            ⟨another, whole, possibly, by simp [Basis.compare, still, following], by simp [reached]⟩

theorem verify_leads (deterministic : Deterministic env basis.oracle MayRead Fits)
    (selection : Selection) (reading : Reading) (height : Nat) :
    basis.Leads MayRead Fits reading height (basis.verifyReach height selection)
      (verify env basis.settings selection) (fun other => basis.verify other selection)
      (fun _ => [])
      (fun other => basis.eventsBetween other height
        (basis.verifyReach height selection other)) := by
  obtain ⟨next, above⟩ := selection.next?_fixpointBase
  unfold verify Basis.verify Basis.verifyReach
  cases selection.checksFixpoint with
  | false =>
      simp only [Bool.false_eq_true, if_false, Basis.eventsBetween_self]
      exact Basis.Leads.pure fun _ => Except.ok Convergence.skipped
  | true =>
      simp only [above, if_true]
      exact (compare_leads deterministic selection.fixpointBase next reading height).within

end Fixpoint

end Bootstrap
