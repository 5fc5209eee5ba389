/-!
How a search or a run ends: with an answer, with an error, or with neither.
-/

namespace Bootstrap

/-- A crash is no error that somebody could report. Whoever waits for the answer crashes with it. -/
inductive Result (Error Answer : Type) where
  | ok (answer : Answer)
  | error (error : Error)
  | crash
  deriving DecidableEq, Repr

namespace Result

variable {Error Answer Other : Type}

def ofExcept : Except Error Answer → Result Error Answer
  | .ok answer => .ok answer
  | .error failed => .error failed

def returned? : Result Error Answer → Option (Except Error Answer)
  | .ok answer => some (.ok answer)
  | .error failed => some (.error failed)
  | .crash => none

def toOption : Result Error Answer → Option Answer
  | .ok answer => some answer
  | .error _ => none
  | .crash => none

def bind (result : Result Error Answer) (next : Answer → Result Error Other) :
    Result Error Other :=
  match result with
  | .ok answer => next answer
  | .error failed => .error failed
  | .crash => .crash

def map (change : Answer → Other) (result : Result Error Answer) : Result Error Other :=
  result.bind fun answer => .ok (change answer)

@[simp] theorem bind_ok (answer : Answer) (next : Answer → Result Error Other) :
    (ok answer).bind next = next answer := rfl

@[simp] theorem bind_error (failed : Error) (next : Answer → Result Error Other) :
    (error failed).bind next = error failed := rfl

@[simp] theorem bind_crash (next : Answer → Result Error Other) :
    (crash : Result Error Answer).bind next = crash := rfl

@[simp] theorem map_ok (change : Answer → Other) (answer : Answer) :
    (ok answer : Result Error Answer).map change = ok (change answer) := rfl

@[simp] theorem map_error (change : Answer → Other) (failed : Error) :
    (error failed).map change = error failed := rfl

@[simp] theorem map_crash (change : Answer → Other) :
    (crash : Result Error Answer).map change = crash := rfl

@[simp] theorem map_eq_crash_iff (change : Answer → Other) (result : Result Error Answer) :
    result.map change = crash ↔ result = crash := by
  cases result <;> simp

@[simp] theorem toOption_eq_some_iff (result : Result Error Answer) (answer : Answer) :
    result.toOption = some answer ↔ result = ok answer := by
  cases result <;> simp [toOption]

@[simp] theorem ofExcept_ne_crash (returned : Except Error Answer) : ofExcept returned ≠ crash := by
  cases returned <;> simp [ofExcept]

@[simp] theorem ofExcept_eq_ok_iff (returned : Except Error Answer) (answer : Answer) :
    ofExcept returned = ok answer ↔ returned = .ok answer := by
  cases returned <;> simp [ofExcept]

end Result

end Bootstrap
