import Bootstrap.Act
import Bootstrap.Json.Value
import Bootstrap.Text.Utf8

/-!
Engines that execute compiled modules: the values they give back, how they fail, and what a kit of
engines has to offer.
-/

namespace Bootstrap

/-- An export's result as the harness sees it. Only the canonical false counts as a failure. -/
inductive Verdict where
  | no
  | yes
  | integer (value : Int)
  | printed (text : String)
  deriving DecidableEq, Repr

namespace Verdict

def isTruthy (verdict : Verdict) : Bool :=
  verdict ≠ .no

def text : Verdict → String
  | .no => "false"
  | .yes => "true"
  | .integer value => toString value
  | .printed text => text

def toJson : Verdict → Json
  | .no => .object [("type", .string "false")]
  | .yes => .object [("type", .string "true")]
  | .integer value => .object [("type", .string "integer"), ("value", .number value)]
  | .printed text => .object [("type", .string "opaque"), ("value", .string text)]

def ofPrinted (falseLiteral trueLiteral text : String) : Verdict :=
  if text = falseLiteral then .no
  else if text = trueLiteral then .yes
  else
    match Numeral.int64? text with
    | some value => .integer value
    | none => .printed text

end Verdict

inductive Fault where
  | instantiate (diagnostic : String)
  | load (diagnostic : String)
  | trap (diagnostic : String)
  | marshal (diagnostic : String)
  deriving DecidableEq, Repr

namespace Fault

def diagnostic : Fault → String
  | .instantiate diagnostic => diagnostic
  | .load diagnostic => diagnostic
  | .trap diagnostic => diagnostic
  | .marshal diagnostic => diagnostic

def message : Fault → String
  | .instantiate diagnostic => "cannot instantiate engine: " ++ diagnostic
  | .load diagnostic => "module load failed: " ++ diagnostic
  | .trap diagnostic => "trap: " ++ diagnostic
  | .marshal diagnostic => "cannot marshal result: " ++ diagnostic

end Fault

/-- Fresh engines on demand. An engine keeps its own input, output and module; what it shares with
the outside world it reaches through actions, and `release` gives that up. -/
structure EngineKit (World Engine Value : Type) where
  instantiate : Act World (Except Fault Engine)
  bindInput : Bytes → Engine → Engine
  clearOutput : Engine → Engine
  output : Engine → Bytes
  load : Bytes → Engine → Act World (Except Fault Unit × Engine)
  invoke : String → Engine → Act World (Except Fault Value × Engine)
  marshal : Engine → Value → Except Fault Verdict
  release : Engine → Act World Unit

end Bootstrap
