import Bootstrap.Path
import Bootstrap.Stage

/-!
What a run is told: the generations to use, the well-known paths, the corpus layout, the external
commands and how much to log.
-/

namespace Bootstrap

/-- Which generations are built and exercised; the last one only enables the fixpoint check. -/
structure Selection where
  useSnapshot : Bool
  stage0 : Bool
  stage1 : Bool
  stage2 : Bool
  stage3 : Bool
  deriving DecidableEq, Repr

namespace Selection

def default : Selection :=
  ⟨false, true, true, true, true⟩

def only (useSnapshot : Bool) (stages : List Stage) : Selection :=
  ⟨useSnapshot, stages.contains .stage0, stages.contains .stage1, stages.contains .stage2,
    stages.contains .stage3⟩

def isEnabled (selection : Selection) : Stage → Bool
  | .stage0 => selection.stage0
  | .stage1 => selection.stage1
  | .stage2 => selection.stage2
  | .stage3 => selection.stage3

def tested (selection : Selection) : List Stage :=
  Stage.testable.filter selection.isEnabled

def checksFixpoint (selection : Selection) : Bool :=
  selection.stage3

/-- The generation that is compared with the next one: the last tested, or stage2 if none is. -/
def fixpointBase (selection : Selection) : Stage :=
  selection.tested.getLast?.getD .stage2

end Selection

structure Locations where
  compilerSource : Path
  snapshot : Path
  scratchArtifact : Path
  workDir : Path
  deriving DecidableEq, Repr

def Locations.default : Locations :=
  ⟨⟨"compiler/compiler.src"⟩, ⟨"stage0.mod"⟩, ⟨"out.mod"⟩, ⟨".bootcheck"⟩⟩

structure CorpusLayout where
  dir : Path
  sourceExtension : String
  inputExtension : String
  deriving DecidableEq, Repr

def CorpusLayout.default : CorpusLayout :=
  ⟨⟨"tests"⟩, "src", "in"⟩

structure Toolchain where
  host : List String
  runner : List String
  compileExport : String
  entryExport : String
  falseLiteral : String
  trueLiteral : String
  deriving DecidableEq, Repr

def Toolchain.default : Toolchain where
  host := ["hostc", "\x7bsource\x7d", "-o", "\x7boutput\x7d"]
  runner := ["modrun", "\x7bmodule\x7d", "\x7bexport\x7d", "\x7bresult\x7d"]
  compileExport := "compile_stdin_to_stdout"
  entryExport := "main"
  falseLiteral := "#f"
  trueLiteral := "#t"

inductive Verbosity where
  | trace
  | debug
  | info
  | warn
  | error
  deriving DecidableEq, Repr

namespace Verbosity

def all : List Verbosity :=
  [.trace, .debug, .info, .warn, .error]

def name : Verbosity → String
  | .trace => "trace"
  | .debug => "debug"
  | .info => "info"
  | .warn => "warn"
  | .error => "error"

def ofName? (name : String) : Option Verbosity :=
  all.find? fun verbosity => verbosity.name = name

/-- Reads a name in any case of its letters; a silent log still shows errors. -/
def parse? (text : String) : Option Verbosity :=
  let lower := text.map Char.toLower
  if lower = "silent" then some .error else ofName? lower

end Verbosity

structure Settings where
  selection : Selection
  locations : Locations
  corpus : CorpusLayout
  toolchain : Toolchain
  verbosity : Verbosity
  deriving DecidableEq, Repr

namespace Settings

def default : Settings :=
  ⟨.default, .default, .default, .default, .info⟩

def resolved (settings : Settings) (base : Path) : Settings :=
  { settings with
    locations :=
      { compilerSource := base.join settings.locations.compilerSource
        snapshot := base.join settings.locations.snapshot
        scratchArtifact := base.join settings.locations.scratchArtifact
        workDir := base.join settings.locations.workDir }
    corpus := { settings.corpus with dir := base.join settings.corpus.dir } }

end Settings

end Bootstrap
