/-!
The four compiler generations, in build order.
-/

namespace Bootstrap

inductive Stage where
  | stage0
  | stage1
  | stage2
  | stage3
  deriving DecidableEq, Repr

namespace Stage

def all : List Stage :=
  [.stage0, .stage1, .stage2, .stage3]

def testable : List Stage :=
  [.stage0, .stage1, .stage2]

def index : Stage → Nat
  | .stage0 => 0
  | .stage1 => 1
  | .stage2 => 2
  | .stage3 => 3

def ofIndex? : Nat → Option Stage
  | 0 => some .stage0
  | 1 => some .stage1
  | 2 => some .stage2
  | 3 => some .stage3
  | _ => none

def name : Stage → String
  | .stage0 => "stage0"
  | .stage1 => "stage1"
  | .stage2 => "stage2"
  | .stage3 => "stage3"

def ofName? (name : String) : Option Stage :=
  all.find? fun stage => stage.name = name

def previous? : Stage → Option Stage
  | .stage0 => none
  | .stage1 => some .stage0
  | .stage2 => some .stage1
  | .stage3 => some .stage2

def next? : Stage → Option Stage
  | .stage0 => some .stage1
  | .stage1 => some .stage2
  | .stage2 => some .stage3
  | .stage3 => none

def isCompileOnly (stage : Stage) : Bool :=
  stage = .stage3

def isTestable (stage : Stage) : Bool :=
  testable.contains stage

instance : LE Stage := ⟨fun left right => left.index ≤ right.index⟩

instance : LT Stage := ⟨fun left right => left.index < right.index⟩

instance (left right : Stage) : Decidable (left ≤ right) :=
  inferInstanceAs (Decidable (left.index ≤ right.index))

instance (left right : Stage) : Decidable (left < right) :=
  inferInstanceAs (Decidable (left.index < right.index))

def climb {α : Type} (base : α) (step : (below stage : Stage) → α → α) : Stage → α
  | .stage0 => base
  | .stage1 => step .stage0 .stage1 base
  | .stage2 => step .stage1 .stage2 (step .stage0 .stage1 base)
  | .stage3 => step .stage2 .stage3 (step .stage1 .stage2 (step .stage0 .stage1 base))

theorem climb_next {α : Type} (base : α) (step : (below stage : Stage) → α → α)
    {below stage : Stage} (above : below.next? = some stage) :
    climb base step stage = step below stage (climb base step below) := by
  cases below <;> cases stage <;> simp_all [next?, climb]

theorem ofIndex?_index (stage : Stage) : ofIndex? stage.index = some stage := by
  cases stage <;> rfl

theorem index_inj {left right : Stage} (same : left.index = right.index) : left = right := by
  have found := congrArg ofIndex? same
  rw [ofIndex?_index, ofIndex?_index] at found
  exact Option.some.inj found

theorem ofName?_name (stage : Stage) : ofName? stage.name = some stage := by
  cases stage <;> decide

theorem next?_eq_some_iff (below stage : Stage) :
    below.next? = some stage ↔ stage.previous? = some below := by
  cases below <;> cases stage <;> decide

end Stage

end Bootstrap
