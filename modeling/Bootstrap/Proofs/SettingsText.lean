import Bootstrap.Settings.Text
import Bootstrap.Proofs.JsonWriting

/-!
Settings survive being written down: whatever texts, paths and lists they hold, reading either
written form gives them back.
-/

namespace Bootstrap

namespace Settings

theorem parse_of_spells {node : Json.Node} {text : String} (spelled : Json.SpellsText node text) :
    parse text = readNode node := by
  simp only [parse, Json.readText_of_spells spelled, if_true]
  cases readNode node <;> rfl

section values

@[simp]
theorem readBool_written (value : Bool) : readBool (Json.bool value).node = .ok value := rfl

@[simp]
theorem readString_written (text : String) : readString (Json.string text).node = .ok text := rfl

@[simp]
theorem readPath_written (path : Path) : readPath (Json.string path.text).node = .ok path := rfl

theorem readEach_written (texts : List String) :
    readEach (Json.itemNodes (texts.map .string)) = .ok texts := by
  induction texts with
  | nil => rfl
  | cons text texts ih =>
      simp only [List.map_cons, Json.itemNodes, readEach, readString_written, ih]
      rfl

@[simp]
theorem readStrings_written (texts : List String) :
    readStrings (Json.array (texts.map .string)).node = .ok texts := by
  simp only [Json.node, readStrings, readEach_written]
  rfl

@[simp]
theorem readLevel_written (level : Verbosity) :
    readLevel (Json.string level.name).node = .ok level := by
  cases level <;> rfl

end values

section records

theorem readRecord_written {α : Type} (kind : String) (fields : List (Field α)) (default : α)
    (members : List (String × Json)) :
    readRecord kind fields default (Json.object members).node =
      readMembers fields .closed [] default (Json.memberNodes members) := rfl

theorem readSelection_written (selection : Selection) :
    readRecord "StageSelection" selectionFields .default (jsonOfSelection selection).node =
      .ok selection := by
  rw [jsonOfSelection, readRecord_written]
  simp [Json.memberNodes, readMembers, Field.named?, selectionFields, Field.of, Except.map, bind,
    Except.bind]

theorem readLocations_written (locations : Locations) :
    readRecord "PathsConfig" locationFields .default (Json.object
      [("compiler_source", .string locations.compilerSource.text),
        ("snapshot", .string locations.snapshot.text),
        ("scratch_artifact", .string locations.scratchArtifact.text),
        ("work_dir", .string locations.workDir.text)]).node = .ok locations := by
  rw [readRecord_written]
  simp [Json.memberNodes, readMembers, Field.named?, locationFields, Field.of, Except.map, bind,
    Except.bind]

theorem readCorpus_written (corpus : CorpusLayout) :
    readRecord "CorpusConfig" corpusFields .default (Json.object
      [("dir", .string corpus.dir.text), ("source_extension", .string corpus.sourceExtension),
        ("input_extension", .string corpus.inputExtension)]).node = .ok corpus := by
  rw [readRecord_written]
  simp [Json.memberNodes, readMembers, Field.named?, corpusFields, Field.of, Except.map, bind,
    Except.bind]

theorem readToolchain_written (toolchain : Toolchain) :
    readRecord "ToolchainConfig" toolchainFields .default (Json.object
      [("host", .array (toolchain.host.map .string)),
        ("runner", .array (toolchain.runner.map .string)),
        ("compile_export", .string toolchain.compileExport),
        ("entry_export", .string toolchain.entryExport),
        ("false_literal", .string toolchain.falseLiteral),
        ("true_literal", .string toolchain.trueLiteral)]).node = .ok toolchain := by
  rw [readRecord_written]
  simp [Json.memberNodes, readMembers, Field.named?, toolchainFields, Field.of, Except.map, bind,
    Except.bind]

theorem readNode_written (settings : Settings) : readNode settings.toJson.node = .ok settings := by
  rw [readNode, toJson, readRecord_written]
  simp [Json.memberNodes, readMembers, Field.named?, fields, Field.of, readSelection_written,
    readLocations_written, readCorpus_written, readToolchain_written, Except.map, bind,
    Except.bind]

end records

/-- Both written forms, on one line and indented, are read back as the settings they show. -/
theorem parse_toJson (settings : Settings) :
    parse settings.toJson.compact = .ok settings ∧ parse settings.toJson.pretty = .ok settings := by
  constructor
  · rw [parse_of_spells (Json.spells_compact settings.toJson), readNode_written]
  · rw [parse_of_spells (Json.spells_pretty settings.toJson), readNode_written]

end Settings

end Bootstrap
