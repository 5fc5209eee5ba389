import Bootstrap.Settings
import Bootstrap.Text.Blank
import Bootstrap.Text.Numeral

/-!
What the command line asks for: the values of its options, and the settings that they replace.
-/

namespace Bootstrap

namespace CommandLine

structure Invocation where
  config : Path
  snapshot : Bool
  stages : Option (List Stage)
  filter : Option String
  verbosity : Option Verbosity
  logFile : Option Path
  json : Bool
  deriving DecidableEq, Repr

def Invocation.default : Invocation :=
  ⟨⟨"bootcheck.json"⟩, false, none, none, none, none, false⟩

def stage? (text : String) : Option Stage :=
  let plain := Text.trim text
  (Numeral.word64? ((Text.dropPrefix? plain "stage").getD plain)).bind Stage.ofIndex?

def readStage (text : String) : Except String Stage :=
  match stage? text with
  | some stage => .ok stage
  | none => .error ("unknown stage '" ++ Text.trim text ++ "', expected 0..3")

def readVerbosity (text : String) : Except String Verbosity :=
  match Verbosity.parse? text with
  | some verbosity => .ok verbosity
  | none => .error ("unknown log level '" ++ text ++ "'")

def Invocation.applyTo (invocation : Invocation) (settings : Settings) : Settings :=
  let useSnapshot := invocation.snapshot || settings.selection.useSnapshot
  { settings with
    selection :=
      match invocation.stages with
      | some stages => Selection.only useSnapshot stages
      | none => { settings.selection with useSnapshot := useSnapshot }
    verbosity := invocation.verbosity.getD settings.verbosity }

end CommandLine

end Bootstrap
