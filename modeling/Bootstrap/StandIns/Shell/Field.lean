import Bootstrap.StandIns.Shell.Pattern

/-!
How an expanded word falls into fields at the separators.
-/

namespace Bootstrap

namespace Shell

/-- A part of an expanded word: text that stays together, a quote, which makes a field even out of
nothing, a value that is split at the separators and at the cuts in it, or arguments that are fields
of their own. -/
inductive Part where
  | fixed (marks : List Mark)
  | quote
  | loose (value : List (Option Char))
  | arguments (values : List Octets)
  deriving DecidableEq, Repr

namespace Mark

def all (quoted : Bool) (value : Octets) : List Mark :=
  value.map fun character => ⟨character, quoted⟩

end Mark

namespace Part

def blanks : Octets :=
  [' ', '\t', '\n']

def cutting : List Octets → List (Option Char)
  | [] => []
  | [last] => last.map some
  | value :: rest => value.map some ++ none :: cutting rest

def whole : List Part → List Mark
  | [] => []
  | .fixed marks :: rest => marks ++ whole rest
  | .quote :: rest => whole rest
  | .loose value :: rest => (value.map fun item => ⟨item.getD ' ', false⟩) ++ whole rest
  | .arguments values :: rest => Mark.all true ([' '].intercalate values) ++ whole rest

end Part

/-- A word while it is split; fields and characters stand last first. `surplus` are the characters
behind the place where the last field may end; `allowed` is how many fields are still to come, if
that is limited; `afterBlank` says that white space has just ended a field. -/
structure Splitting where
  closed : List (List Mark)
  current : Option (List Mark)
  surplus : Option (List Mark)
  allowed : Option Nat
  afterBlank : Bool
  afterArguments : Bool
  deriving DecidableEq, Repr

namespace Splitting

def start (allowed : Option Nat) : Splitting :=
  ⟨[], none, none, allowed, false, false⟩

def keep (splitting : Splitting) (mark : Mark) : Splitting :=
  match splitting.surplus with
  | some surplus => { splitting with surplus := some (mark :: surplus) }
  | none => { splitting with current := some (mark :: splitting.current.getD []) }

def open' (splitting : Splitting) : Splitting :=
  { splitting with current := some (splitting.current.getD []) }

def close (splitting : Splitting) : Splitting :=
  { splitting with
    closed := (splitting.current.getD []).reverse :: splitting.closed
    current := none }

def settle (splitting : Splitting) : Splitting :=
  { splitting with
    current := match splitting.surplus with
      | some surplus => some (surplus ++ splitting.current.getD [])
      | none => splitting.current
    surplus := none }

/-- Behind the last field that may begin, only white space at the end is left out. -/
def stepLast (splitting : Splitting) (mark : Mark) (separates blank : Bool) : Splitting :=
  if blank then
    { splitting with surplus := some (mark :: splitting.surplus.getD []) }
  else
    let settled := if separates && splitting.afterBlank then splitting else splitting.settle
    { settled.keep mark with afterBlank := false }

def step (splitting : Splitting) (mark : Mark) (separates blank : Bool) : Splitting :=
  if splitting.allowed = some 0 then splitting.stepLast mark separates blank
  else if splitting.afterBlank && blank then splitting
  else if splitting.afterBlank && separates then { splitting with afterBlank := false }
  else if separates then
    let afterBlank := blank && !splitting.afterArguments
    if splitting.current.isNone && afterBlank then { splitting with afterBlank := false }
    else
      match splitting.allowed with
      | some 1 =>
          { splitting with allowed := some 0, surplus := some [mark], afterBlank := afterBlank }
      | allowed =>
          { splitting.close with allowed := allowed.map (· - 1), afterBlank := afterBlank }
  else { splitting.keep mark with afterBlank := false }

def steps (separators : Octets) (splitting : Splitting) : List (Option Char) → Splitting
  | [] => splitting
  | item :: rest =>
      let next := match item with
        | none => splitting.step ⟨' ', false⟩ true true
        | some character =>
            let separates := separators.contains character
            splitting.step ⟨character, false⟩ separates
              (separates && Part.blanks.contains character)
      steps separators next rest

def arguments (splitting : Splitting) : List Octets → Splitting
  | [] => splitting
  | [last] => (Mark.all true last).foldl keep splitting
  | value :: rest => arguments ((Mark.all true value).foldl keep splitting).close rest

def add (separators : Octets) (splitting : Splitting) : Part → Splitting
  | .fixed marks => marks.foldl keep splitting
  | .quote => splitting.open'
  | .loose value =>
      { steps separators { splitting with afterBlank := false } value with afterArguments := false }
  | .arguments values =>
      { splitting.arguments values with afterBlank := false, afterArguments := true }

/-- The fields; what stands behind the end of the last one is left out. The last of some arguments
is a field even if it is empty. -/
def fields (splitting : Splitting) : List (List Mark) :=
  (match splitting.current with
    | some last => last.reverse :: splitting.closed
    | none => if splitting.afterArguments then [] :: splitting.closed else splitting.closed).reverse

end Splitting

namespace Part

/-- The fields of an expanded word, at most so many if that is limited. -/
def fields (separators : Octets) (allowed : Option Nat) (parts : List Part) : List (List Mark) :=
  (parts.foldl (Splitting.add separators) (Splitting.start allowed)).fields

end Part

end Shell

end Bootstrap
