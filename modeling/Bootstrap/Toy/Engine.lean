import Bootstrap.Toy.Module

/-!
An engine for toy modules: it compiles by copying its input and answers tests from their headers.
-/

namespace Bootstrap

namespace Toy

inductive Value where
  | printed (text : String)
  | sealed
  deriving DecidableEq, Repr

structure Engine where
  input : Bytes
  output : Bytes
  module : Option Module
  deriving DecidableEq, Repr

namespace Engine

def fresh : Engine :=
  ⟨[], [], none⟩

def bindInput (input : Bytes) (engine : Engine) : Engine :=
  { engine with input := input }

def clearOutput (engine : Engine) : Engine :=
  { engine with output := [] }

/-- A module that cannot be read leaves the engine as it was. -/
def load (bytes : Bytes) (engine : Engine) : Except Fault Unit × Engine :=
  match Module.parse bytes with
  | .ok module => (.ok (), { engine with module := some module })
  | .error fault => (.error fault, engine)

def compileExport : String :=
  "compile_stdin_to_stdout"

def placeholder : String :=
  "$NEXT"

def errorMark : String :=
  "#error"

def refusesUnder (tag source : String) : Bool :=
  (Text.lines source).any fun line => Text.trim line = "#fail-under " ++ tag

/-- Numbers are 64-bit words. Here the last one is followed by zero, as in a build without overflow
checks; a build with them, such as the one for tests, crashes at the addition instead. -/
def following (number : Nat) : Nat :=
  (number + 1) % Numeral.wordBound

def fillPlaceholder (tag source : String) : String :=
  match Numeral.word64? tag with
  | some number => Text.replace source placeholder (toString (following number))
  | none => source

def compile (tag : String) (engine : Engine) : Except Fault Value × Engine :=
  let source := Utf8.decodeLossy engine.input
  if Text.contains source errorMark then (.error (.trap "compile error"), engine)
  else if refusesUnder tag source then
    (.error (.trap ("refusing to compile under " ++ tag)), engine)
  else
    (.ok (.printed "#t"),
      { engine with output := engine.output ++ Utf8.encode (fillPlaceholder tag source) })

def verdictLiteral (holds : Bool) : String :=
  if holds then "#t" else "#f"

def echo (expected : Bytes) (engine : Engine) : Except Fault Value × Engine :=
  let output := engine.output ++ engine.input
  (.ok (.printed (verdictLiteral (output = expected))), { engine with output := output })

def perform (exportName : String) (engine : Engine) : Module → Except Fault Value × Engine
  | .compiler tag =>
      if exportName = compileExport then engine.compile tag
      else (.error (.trap ("no export '" ++ exportName ++ "'")), engine)
  | .answer literal => (.ok (.printed literal), engine)
  | .expectInput expected => engine.echo expected
  | .trap message => (.error (.trap message), engine)
  | .unmarshalable => (.ok .sealed, engine)

def invoke (exportName : String) (engine : Engine) : Except Fault Value × Engine :=
  match engine.module with
  | some module => engine.perform exportName module
  | none => (.error (.trap "no module loaded"), engine)

def marshal : Value → Except Fault Verdict
  | .printed text => .ok (Verdict.ofPrinted "#f" "#t" text)
  | .sealed => .error (.marshal "opaque value")

end Engine

end Toy

end Bootstrap
