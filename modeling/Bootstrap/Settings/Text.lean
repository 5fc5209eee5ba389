import Bootstrap.Settings
import Bootstrap.Json.Value
import Bootstrap.Json.Node
import Bootstrap.Text.Escaped

/-!
Settings as JSON text: what is written, and a reader that overlays what is given on the defaults
and stops at the first problem in the text.
-/

namespace Bootstrap

namespace Settings

inductive ReadFault where
  | malformed
  | mismatch (found expected : String)
  | duplicate (field : String)
  | unknownLevel (name : String)
  deriving DecidableEq, Repr

/-- The message of a text that is well formed up to its first wrong value; none for a text whose
form is wrong. -/
def ReadFault.message? : ReadFault → Option String
  | .malformed => none
  | .mismatch found expected => some ("invalid type: " ++ found ++ ", expected " ++ expected)
  | .duplicate field => some ("duplicate field \x60" ++ field ++ "\x60")
  | .unknownLevel name =>
      some ("unknown variant \x60" ++ name ++ "\x60, expected one of " ++
        ", ".intercalate (Verbosity.all.map fun level => "\x60" ++ level.name ++ "\x60"))

def describe : Json.Node → Option String
  | .null => some "null"
  | .bool value => some ("boolean \x60" ++ (if value then "true" else "false") ++ "\x60")
  | .number token =>
      match token.reading with
      | .integer value => some ("integer \x60" ++ toString value ++ "\x60")
      | .floating negative magnitude =>
          some ("floating point \x60" ++ Json.Number.floatText negative magnitude ++ "\x60")
      | .outOfRange => none
  | .string text => text.map fun shown => "string " ++ Text.escaped shown
  | .array _ _ => some "sequence"
  | .object _ _ => some "map"
  | .broken => none

def mismatch (expected : String) (node : Json.Node) : ReadFault :=
  match describe node with
  | some found => .mismatch found expected
  | none => .malformed

def readBool : Json.Node → Except ReadFault Bool
  | .bool value => .ok value
  | node => .error (mismatch "a boolean" node)

def readStringAs (expected : String) : Json.Node → Except ReadFault String
  | .string (some text) => .ok text
  | node => .error (mismatch expected node)

def readString : Json.Node → Except ReadFault String :=
  readStringAs "a string"

def readPath (node : Json.Node) : Except ReadFault Path :=
  (readStringAs "path string" node).map Path.mk

def readEach : List Json.Node → Except ReadFault (List String)
  | [] => .ok []
  | node :: nodes => do
      let first ← readString node
      let rest ← readEach nodes
      .ok (first :: rest)

def readStrings : Json.Node → Except ReadFault (List String)
  | .array items ending => do
      let texts ← readEach items
      match ending with
      | .closed => .ok texts
      | _ => .error .malformed
  | node => .error (mismatch "a sequence" node)

def readLevelName (name : Option String) : Except ReadFault Verbosity :=
  match name with
  | none => .error .malformed
  | some text =>
      match Verbosity.ofName? text with
      | some level => .ok level
      | none => .error (.unknownLevel text)

/-- A level is a name, or an object whose only member has that name and the value null. -/
def readLevel : Json.Node → Except ReadFault Verbosity
  | .string text => readLevelName text
  | .object ((name, value) :: others) ending => do
      let level ← readLevelName name
      match value with
      | .null =>
          match others, ending with
          | [], .closed => .ok level
          | _, _ => .error .malformed
      | other => .error (mismatch "unit" other)
  | _ => .error .malformed

structure Field (α : Type) where
  name : String
  read : Json.Node → Except ReadFault (α → α)

def Field.of {α β : Type} (name : String) (read : Json.Node → Except ReadFault β)
    (update : β → α → α) : Field α where
  name := name
  read := fun node => (read node).map update

def Field.named? {α : Type} (fields : List (Field α)) (name : String) : Option (Field α) :=
  fields.find? fun field => field.name = name

/-- Members in their order: a known name may come once, and an unknown one is skipped. -/
def readMembers {α : Type} (fields : List (Field α)) (ending : Json.Ending) :
    (seen : List String) → α → List (Option String × Json.Node) → Except ReadFault α
  | _, record, [] =>
      match ending with
      | .closed => .ok record
      | _ => .error .malformed
  | _, _, (none, _) :: _ => .error .malformed
  | seen, record, (some name, value) :: members =>
      match Field.named? fields name with
      | none => if value.isWhole then readMembers fields ending seen record members else .error .malformed
      | some field =>
          if seen.contains name then .error (.duplicate name)
          else do
            let update ← field.read value
            readMembers fields ending (name :: seen) (update record) members

/-- Items in the order of the fields: a missing tail is left alone, a surplus is refused. -/
def readItems {α : Type} (ending : Json.Ending) :
    List (Field α) → α → List Json.Node → Except ReadFault α
  | _, record, [] =>
      match ending with
      | .closed => .ok record
      | _ => .error .malformed
  | [], _, _ :: _ => .error .malformed
  | field :: fields, record, item :: items => do
      let update ← field.read item
      readItems ending fields (update record) items

def readRecord {α : Type} (kind : String) (fields : List (Field α)) (default : α) :
    Json.Node → Except ReadFault α
  | .object members ending => readMembers fields ending [] default members
  | .array items ending => readItems ending fields default items
  | node => .error (mismatch ("struct " ++ kind) node)

def selectionFields : List (Field Selection) :=
  [.of "use_snapshot" readBool fun value record => { record with useSnapshot := value },
    .of "stage0" readBool fun value record => { record with stage0 := value },
    .of "stage1" readBool fun value record => { record with stage1 := value },
    .of "stage2" readBool fun value record => { record with stage2 := value },
    .of "stage3" readBool fun value record => { record with stage3 := value }]

def locationFields : List (Field Locations) :=
  [.of "compiler_source" readPath fun value record => { record with compilerSource := value },
    .of "snapshot" readPath fun value record => { record with snapshot := value },
    .of "scratch_artifact" readPath fun value record => { record with scratchArtifact := value },
    .of "work_dir" readPath fun value record => { record with workDir := value }]

def corpusFields : List (Field CorpusLayout) :=
  [.of "dir" readPath fun value record => { record with dir := value },
    .of "source_extension" readString fun value record => { record with sourceExtension := value },
    .of "input_extension" readString fun value record => { record with inputExtension := value }]

def toolchainFields : List (Field Toolchain) :=
  [.of "host" readStrings fun value record => { record with host := value },
    .of "runner" readStrings fun value record => { record with runner := value },
    .of "compile_export" readString fun value record => { record with compileExport := value },
    .of "entry_export" readString fun value record => { record with entryExport := value },
    .of "false_literal" readString fun value record => { record with falseLiteral := value },
    .of "true_literal" readString fun value record => { record with trueLiteral := value }]

def fields : List (Field Settings) :=
  [.of "stages" (readRecord "StageSelection" selectionFields .default)
      fun value record => { record with selection := value },
    .of "paths" (readRecord "PathsConfig" locationFields .default)
      fun value record => { record with locations := value },
    .of "corpus" (readRecord "CorpusConfig" corpusFields .default)
      fun value record => { record with corpus := value },
    .of "toolchain" (readRecord "ToolchainConfig" toolchainFields .default)
      fun value record => { record with toolchain := value },
    .of "log_level" readLevel fun value record => { record with verbosity := value }]

def readNode : Json.Node → Except ReadFault Settings :=
  readRecord "HarnessConfig" fields .default

def parse (text : String) : Except ReadFault Settings := do
  let (node, isLast) := Json.readText text
  let settings ← readNode node
  if isLast then .ok settings else .error .malformed

def jsonOfSelection (selection : Selection) : Json :=
  .object
    [("use_snapshot", .bool selection.useSnapshot), ("stage0", .bool selection.stage0),
      ("stage1", .bool selection.stage1), ("stage2", .bool selection.stage2),
      ("stage3", .bool selection.stage3)]

def toJson (settings : Settings) : Json :=
  .object
    [("stages", jsonOfSelection settings.selection),
      ("paths", .object
        [("compiler_source", .string settings.locations.compilerSource.text),
          ("snapshot", .string settings.locations.snapshot.text),
          ("scratch_artifact", .string settings.locations.scratchArtifact.text),
          ("work_dir", .string settings.locations.workDir.text)]),
      ("corpus", .object
        [("dir", .string settings.corpus.dir.text),
          ("source_extension", .string settings.corpus.sourceExtension),
          ("input_extension", .string settings.corpus.inputExtension)]),
      ("toolchain", .object
        [("host", .array (settings.toolchain.host.map .string)),
          ("runner", .array (settings.toolchain.runner.map .string)),
          ("compile_export", .string settings.toolchain.compileExport),
          ("entry_export", .string settings.toolchain.entryExport),
          ("false_literal", .string settings.toolchain.falseLiteral),
          ("true_literal", .string settings.toolchain.trueLiteral)]),
      ("log_level", .string settings.verbosity.name)]

end Settings

end Bootstrap
