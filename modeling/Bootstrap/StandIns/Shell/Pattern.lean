import Bootstrap.Disk.Access
import Bootstrap.StandIns.Shell.CharacterClass

/-!
Patterns with wildcards, matched against texts and against the names on a disk.
-/

namespace Bootstrap

namespace Shell

structure Mark where
  value : Char
  quoted : Bool
  deriving DecidableEq, Repr

inductive Member where
  | range (low high : Char)
  | named (name : String)
  deriving DecidableEq, Repr

def Member.includes (member : Member) (character : Char) : Bool :=
  match member with
  | .range low high => low ≤ character && character ≤ high
  | .named name => (CharacterClass.named? name).any fun isMember => isMember character

inductive Slot where
  | exactly (value : Char)
  | anyone
  | anything
  | among (inverted : Bool) (listed : List Member)
  deriving DecidableEq, Repr

def Slot.accepts (slot : Slot) (character : Char) : Bool :=
  match slot with
  | .exactly value => value = character
  | .anyone => true
  | .anything => true
  | .among inverted listed => (listed.any fun member => member.includes character) != inverted

abbrev Pattern := List Slot

namespace Pattern

def isPlain (value : Char) (mark : Mark) : Bool :=
  mark.value = value && !mark.quoted

def namedClass? (marks : List Mark) : Option (String × List Mark) :=
  match marks with
  | ⟨':', false⟩ :: rest =>
      let letters := rest.takeWhile fun mark => mark.value.isAlpha
      let name := String.ofList (letters.map Mark.value)
      match rest.drop letters.length with
      | ⟨':', false⟩ :: ⟨']', false⟩ :: after =>
          if (CharacterClass.named? name).isSome then some (name, after) else none
      | _ => none
  | _ => none

/-- One character of a bracket; a backslash makes the next one literal. -/
def literal : List Mark → Option (Char × List Mark)
  | [] => none
  | mark :: rest =>
      if isPlain '\\' mark then
        match rest with
        | next :: after => some (next.value, after)
        | [] => none
      else some (mark.value, rest)

/-- What a bracket lists up to its end; a bracket right after the opening stands for itself. -/
def bracket : (fuel : Nat) → (isFirst : Bool) → List Mark → Option (List Member × List Mark)
  | 0, _, _ => none
  | _ + 1, _, [] => none
  | fuel + 1, isFirst, mark :: rest =>
      if isPlain ']' mark && !isFirst then some ([], rest)
      else
        let found : Option (Member × List Mark) :=
          match if isPlain '[' mark then namedClass? rest else none with
          | some (name, after) => some (.named name, after)
          | none =>
              match literal (mark :: rest) with
              | none => none
              | some (low, hyphen :: next) =>
                  if isPlain '-' hyphen && !(next.head?.all (isPlain ']')) then
                    (literal next).map fun (high, after) => (.range low high, after)
                  else some (.range low low, hyphen :: next)
              | some (low, []) => some (.range low low, [])
        match found with
        | none => none
        | some (member, after) =>
            (bracket fuel false after).map fun (others, final) => (member :: others, final)

def slot : List Mark → Option (Slot × List Mark)
  | [] => none
  | mark :: rest =>
      if mark.quoted then some (.exactly mark.value, rest)
      else if mark.value = '*' then some (.anything, rest)
      else if mark.value = '?' then some (.anyone, rest)
      else if mark.value = '\\' then
        match rest with
        | next :: after => some (.exactly next.value, after)
        | [] => some (.exactly '\\', [])
      else if mark.value = '[' then
        let inverted := rest.head?.any (isPlain '!')
        match bracket (rest.length + 1) true (if inverted then rest.drop 1 else rest) with
        | some (listed, after) => some (.among inverted listed, after)
        | none => some (.exactly '[', rest)
      else some (.exactly mark.value, rest)

def ofMarksFrom : (fuel : Nat) → List Mark → Pattern
  | 0, _ => []
  | fuel + 1, marks =>
      match slot marks with
      | none => []
      | some (first, rest) => first :: ofMarksFrom fuel rest

def ofMarks (marks : List Mark) : Pattern :=
  ofMarksFrom marks.length marks

def isWild : Pattern → Bool
  | [] => false
  | .exactly _ :: rest => isWild rest
  | _ :: _ => true

def suffixes : List Char → List (List Char)
  | [] => [[]]
  | character :: rest => (character :: rest) :: suffixes rest

def accepts : Pattern → List Char → Bool
  | [], text => text.isEmpty
  | .anything :: rest, text => (suffixes text).any (accepts rest)
  | _ :: _, [] => false
  | slot :: rest, character :: after => Slot.accepts slot character && accepts rest after

/-- A name that starts with a dot is matched only by a pattern that does. -/
def acceptsName (pattern : Pattern) (name : List Char) : Bool :=
  (name.head? ≠ some '.' || pattern.head? = some (.exactly '.')) && accepts pattern name

end Pattern

namespace Mark

def text (marks : List Mark) : Octets :=
  marks.map Mark.value

def segments : List Mark → List (List Mark)
  | [] => [[]]
  | mark :: rest =>
      match segments rest with
      | [] => [[mark]]
      | first :: others =>
          if mark.value = '/' then [] :: first :: others else (mark :: first) :: others

def candidates (disk : Disk) (before : Octets) (segment : List Mark) : List Octets :=
  let pattern := Pattern.ofMarks segment
  if Pattern.isWild pattern then
    let directory : Path := ⟨if before.isEmpty then "." else Octets.toText before⟩
    match disk.look directory with
    | .ok (location, .directory) =>
        (['.'] :: ['.', '.'] :: (disk.names location).map Octets.ofText).filter
          (Pattern.acceptsName pattern)
    | _ => []
  else [text segment]

def matchesFrom (disk : Disk) : Octets → List (List Mark) → List Octets
  | before, [] => [before]
  | before, [segment] =>
      (candidates disk before segment).map (before ++ ·)
  | before, segment :: rest =>
      (candidates disk before segment).flatMap fun name =>
        matchesFrom disk (before ++ name ++ ['/']) rest

def isWild (marks : List Mark) : Bool :=
  (segments marks).any fun segment => Pattern.isWild (Pattern.ofMarks segment)

/-- The paths on the disk that a word with wildcards matches, ascending, or the word itself if none
does. -/
def expand (disk : Disk) (marks : List Mark) : List Octets :=
  if isWild marks then
    let found := (matchesFrom disk [] (segments marks)).filter fun name =>
      disk.contains ⟨Octets.toText name⟩
    if found.isEmpty then [text marks]
    else found.mergeSort Octets.isAtMost
  else [text marks]

end Mark

end Shell

end Bootstrap
