import Bootstrap.Proofs.EngineAnswers

/-!
Tools that write what they make of their input and the disk to the file named last. They are tidy
runners, and where they look at nothing but their input, discreet ones.
-/

namespace Bootstrap

namespace Disk

theorem read_of_numberOf {disk : Disk} (numbered : disk.Numbered) {path : Path} {input : Option Nat}
    (opened : disk.numberOf path = .ok input) :
    disk.read path = .ok ((input.bind disk.contentOf?).getD []) := by
  cases found : disk.look path with
  | error error => simp [numberOf, found, bind, Except.bind] at opened
  | ok found_ =>
      obtain ⟨location, node⟩ := found_
      cases node with
      | directory => simp [numberOf, found, bind, Except.bind] at opened
      | device =>
          simp only [numberOf, found, bind, Except.bind, Except.ok.injEq] at opened
          simp [read, found, bind, Except.bind, ← opened]
      | file number content =>
          simp only [numberOf, found, bind, Except.bind, Except.ok.injEq] at opened
          have there : disk.node? location = some (.file number content) := by
            cases located : disk.locate path with
            | error error => simp [look, located, bind, Except.bind] at found
            | ok place =>
                cases node : disk.node? place with
                | none => simp [look, located, node, bind, Except.bind] at found
                | some present =>
                    simp only [look, located, node, bind, Except.bind] at found
                    split at found
                    · contradiction
                    · obtain ⟨rfl, rfl⟩ := Prod.mk.inj (Except.ok.inj found)
                      exact node
          simp [read, found, bind, Except.bind, ← opened, numbered.contentOf?_eq there]

end Disk

namespace External

def writeTo (path : Path) (content : Bytes) (disk : Disk) : Launch :=
  match disk.write path content with
  | .ok after => .finished ⟨.code 0, content, [], after⟩
  | .error _ => .finished ⟨.code 1, content, [], disk⟩

/-- A tool that writes to the file named last. -/
def writing (content : Option Nat → Disk → Bytes) : Tools :=
  fun words input disk => writeTo ⟨words.getLastD ""⟩ (content input disk) disk

def inputContent (input : Option Nat) (disk : Disk) : Bytes :=
  (input.bind disk.contentOf?).getD []

def resultRunner : Runner where
  command := ⟨"run", ["\x7bresult\x7d"]⟩
  workDir := ⟨"work"⟩
  falseLiteral := "false"
  trueLiteral := "true"
  family := 7

section runners

variable {content : Option Nat → Disk → Bytes}

end runners

end External

end Bootstrap
