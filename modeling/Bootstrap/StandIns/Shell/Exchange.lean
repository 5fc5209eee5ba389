import Bootstrap.StandIns.Shell.CharacterSet
import Bootstrap.StandIns.Shell.Options

/-!
The tool that exchanges, drops and squeezes characters.
-/

namespace Bootstrap

namespace Shell

namespace Exchange

open SetPart

def forms : List OptionForm :=
  [.flag 'c' "complement", ⟨"complement", some 'C', none, .none⟩, .flag 'd' "delete",
    .flag 's' "squeeze-repeats", .flag 't' "truncate-set1"] ++ OptionForm.standard

structure Request where
  complement : Bool
  deletes : Bool
  squeezes : Bool
  truncates : Bool
  deriving DecidableEq, Repr

def requestOf (sorted : Sorted) : Request where
  complement := sorted.has "complement"
  deletes := sorted.has "delete"
  squeezes := sorted.has "squeeze-repeats"
  truncates := sorted.has "truncate-set1"

/-- More repetitions than there are characters make no difference. -/
def most : Nat := 512

def membersOf (parts : List SetPart) : List Char :=
  parts.flatMap (members most)

def sizeOf (parts : List SetPart) : Nat :=
  (parts.map size).foldl (· + ·) 0

def complementOf (parts : List SetPart) : List Char :=
  let present := membersOf parts
  CharacterClass.octets.filter fun character => !present.contains character

inductive Step where
  | one (character : Char)
  | letters (capital : Bool)
  deriving DecidableEq, Repr

def stepsOf (part : SetPart) : List Step :=
  match part.case? with
  | some capital => [.letters capital]
  | none => (part.members most).map .one

def caseMembers (capital : Bool) : List Char :=
  CharacterClass.members (if capital then Char.isUpper else Char.isLower)

def pairs : (fuel : Nat) → List Step → List Step → List (Char × Char)
  | 0, _, _ => []
  | fuel + 1, .letters first :: rest, .letters second :: others =>
      let change := if second then Char.toUpper else Char.toLower
      (caseMembers first).map (fun character => (character, change character)) ++
        pairs fuel rest others
  | fuel + 1, .letters first :: rest, others =>
      pairs fuel ((caseMembers first).map .one ++ rest) others
  | fuel + 1, first, .letters second :: others =>
      pairs fuel first ((caseMembers second).map .one ++ others)
  | fuel + 1, .one first :: rest, .one second :: others => (first, second) :: pairs fuel rest others
  | _, _, _ => []

def aligned : (fuel : Nat) → List Step → List Step → Bool
  | 0, _, _ => true
  | fuel + 1, .letters _ :: rest, .letters _ :: others => aligned fuel rest others
  | _ + 1, _, .letters _ :: _ => false
  | fuel + 1, .letters first :: rest, others =>
      aligned fuel ((caseMembers first).map .one ++ rest) others
  | fuel + 1, .one _ :: rest, .one _ :: others => aligned fuel rest others
  | _, _, _ => true

/-- A repetition without a count takes up what the second set lacks. -/
def filled (lacking : Nat) (parts : List SetPart) : List SetPart :=
  parts.map fun part => match part with
    | .filling character => .repeated character lacking
    | other => other

def discount (first second : List SetPart) : Nat :=
  let cases := (second.filter fun part => part.case?.isSome).length
  let inFirst := (first.filter fun part => part.case?.isSome).take cases
  (inFirst.map fun part => part.size - 1).foldl (· + ·) 0

/-- The last character of the second set is repeated as often as the first is longer. -/
def extended (lacking : Nat) (parts : List SetPart) : Except String (List SetPart) :=
  match parts.getLast? with
  | some (.single character) => .ok (parts ++ [.repeated character lacking])
  | some (.range _ high) => .ok (parts ++ [.repeated high lacking])
  | some (.repeated character _) => .ok (parts ++ [.repeated character lacking])
  | some (.named _) =>
      .error ("when translating with string1 longer than string2,\n" ++
        "the latter string must not end with a character class")
  | _ => .ok parts

def isUniform (characters : List Char) : Bool :=
  match characters with
  | [] => true
  | first :: rest => rest.all fun character => character = first

def matched (request : Request) (first second : List SetPart) : Except String (List SetPart) := do
  let length := if request.complement then (complementOf first).length else sizeOf first
  let lacking := length - sizeOf second
  let hasFilling := second.any isFilling
  let whole := filled lacking second
  let size := sizeOf whole
  if second.any fun part => match part with
      | .equivalent _ => true
      | _ => false then
    throw "[=c=] expressions may not appear in string2 when translating"
  if second.any fun part => part.isNamed && part.case?.isNone then
    throw ("when translating, the only character classes that may appear in\n" ++
      "string2 are 'upper' and 'lower'")
  let checked := !request.complement && second.any isNamed
  if checked && !aligned (4 * most + first.length + whole.length + size + length + 4)
      (first.flatMap stepsOf) (whole.flatMap stepsOf) then
    throw "misaligned [:upper:] and/or [:lower:] construct"
  let firstLength := if checked then length - discount first whole else length
  let secondLength := if checked then size - discount whole whole else size
  let final ←
    if secondLength < firstLength ∧ !request.truncates then
      if size = 0 ∧ !hasFilling then throw "when not truncating set1, string2 must be non-empty"
      else extended (firstLength - secondLength) whole
    else pure whole
  if request.complement && first.any isNamed &&
      !(sizeOf final = length && isUniform (membersOf final)) then
    throw ("when translating with complemented character classes,\n" ++
      "string2 must map all characters in the domain to one")
  return final

/-- Of several pairs for a character the last one counts. -/
def partnerOf (table : List (Char × Char)) (character : Char) : Char :=
  ((table.reverse.find? fun pair => pair.1 = character).map Prod.snd).getD character

def squeeze (characters : List Char) : Option Char → List Char → List Char
  | _, [] => []
  | last, character :: rest =>
      if last = some character ∧ characters.contains character then squeeze characters last rest
      else character :: squeeze characters (some character) rest

def change (request : Request) (first : List SetPart) (second? : Option (List SetPart)) :
    Except String (List Char → List Char) := do
  if first.any isFilling then
    throw "the [c*] repeat construct may not appear in string1"
  let chosen := if request.complement then complementOf first else membersOf first
  match second? with
  | none =>
      if request.deletes then
        return fun text => text.filter fun character => !chosen.contains character
      else return squeeze chosen none
  | some second =>
      if 1 < (second.filter isFilling).length then
        throw "only one [c*] repeat construct may appear in string2"
      if request.deletes then
        if second.any isFilling then
          throw "the [c*] construct may appear in string2 only when translating"
        return fun text =>
          squeeze (membersOf second) none (text.filter fun character => !chosen.contains character)
      else
        let final ← matched request first second
        let table :=
          if request.complement then chosen.zip (membersOf final)
          else pairs (8 * most + sizeOf first + 4) (first.flatMap stepsOf) (final.flatMap stepsOf)
        let changed := CharacterClass.octets.map (partnerOf table)
        let exchange := fun (character : Char) => (changed[character.toNat]?).getD character
        return fun text =>
          let exchanged := text.map exchange
          if request.squeezes then squeeze (membersOf final) none exchanged else exchanged

def miscounted (request : Request) (words operands : List Octets) : Option (List String) :=
  let least := 1 + if request.deletes = request.squeezes then 1 else 0
  let atMost := 1 + if request.deletes ∧ !request.squeezes then 0 else 1
  if operands.length < least then
    if operands.isEmpty then some ["missing operand"]
    else
      some ["missing operand after " ++ Quoted.curly (words.getLast?.getD []),
        if request.squeezes then
          "Two strings must be given when both deleting and squeezing repeats."
        else "Two strings must be given when translating."]
  else
    match operands.drop atMost with
    | [] => none
    | extra :: _ =>
        some (("extra operand " ++ Quoted.curly extra) ::
          if operands.length = 2 then
            ["Only one string may be given when deleting without squeezing repeats."]
          else [])

def warnAll : List String → Tool Unit
  | [] => return ()
  | warning :: rest => do
      Tool.complain "tr" warning
      warnAll rest

def setOf (text : Octets) : Tool (Except String (List SetPart)) := do
  let (letters, warnings) := CharacterSet.lettersOf text
  warnAll warnings
  return CharacterSet.parts letters

def fail (text : String) : Tool Nat := do
  Tool.complain "tr" text
  return 1

def filter (step : List Char → List Char) : Tool Nat := do
  match ← Tool.takeInput with
  | .ok bytes =>
      Tool.write 1 (step (Octets.ofBytes bytes))
      return 0
  | .error error => fail ("read error: " ++ error.reason)

def run (words : List Octets) : Tool Nat := do
  let sorted := Sorted.sort forms false words
  match sorted.trouble with
  | some text => Tool.misuse "tr" text
  | none =>
      let request := requestOf sorted
      match miscounted request words sorted.operands with
      | some lines =>
          Tool.complain "tr" ("\n".intercalate lines)
          Tool.pointToHelp "tr"
      | none =>
          match ← setOf (sorted.operands.head?.getD []) with
          | .error text => fail text
          | .ok first =>
              let second ← match sorted.operands.drop 1 with
                | text :: _ => do
                    let found ← setOf text
                    pure (found.map some)
                | [] => pure (.ok none)
              match second with
              | .error text => fail text
              | .ok second? =>
                  match change request first second? with
                  | .error text => fail text
                  | .ok step => filter step

end Exchange

end Shell

end Bootstrap
