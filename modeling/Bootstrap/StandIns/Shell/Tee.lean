import Bootstrap.StandIns.Shell.Options

/-!
The tool that passes its input on to the standard output and to files.
-/

namespace Bootstrap

namespace Shell

namespace Tee

def forms : List OptionForm :=
  [OptionForm.flag 'a' "append", OptionForm.flag 'i' "ignore-interrupts", OptionForm.letterOnly 'p']

def store (append : Bool) (content : Bytes) (operand : Octets) : Tool Nat := do
  let bench ← get
  let path := Tool.path operand
  let before := if append then (bench.disk.read path).toOption.getD [] else []
  match ← Tool.onDisk fun disk => disk.write path (before ++ content) with
  | none => return 0
  | some error =>
      Tool.complain "tee" (Quoted.name operand ++ ": " ++ error.reason)
      return 1

def storeAll (append : Bool) (content : Bytes) : List Octets → Tool Nat
  | [] => return 0
  | operand :: rest => do
      let first ← store append content operand
      return max first (← storeAll append content rest)

def run (words : List Octets) : Tool Nat := do
  let sorted := Sorted.sort (OptionForm.standard ++ forms) true words
  match sorted.trouble with
  | some trouble => Tool.misuse "tee" trouble
  | none =>
      match ← Tool.takeInput with
      | .error error =>
          Tool.complain "tee" ("read error: " ++ error.reason)
          return 1
      | .ok content =>
          Tool.emit content
          storeAll (sorted.has "append") content sorted.operands

end Tee

end Shell

end Bootstrap
