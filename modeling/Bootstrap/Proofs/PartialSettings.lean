import Mathlib.Data.List.Forall2
import Bootstrap.Proofs.SettingsText
import Bootstrap.Proofs.RecordReading

/-!
Settings of which only some fields are given: an object with those members, in any order and with
unknown ones between them, is read as the defaults with exactly these fields replaced.
-/

namespace Bootstrap

open Json (Member timesGiven valueOf?)

section parts

structure Selection.Partial where
  useSnapshot : Option Bool
  stage0 : Option Bool
  stage1 : Option Bool
  stage2 : Option Bool
  stage3 : Option Bool
  deriving DecidableEq, Repr

structure Locations.Partial where
  compilerSource : Option Path
  snapshot : Option Path
  scratchArtifact : Option Path
  workDir : Option Path
  deriving DecidableEq, Repr

structure CorpusLayout.Partial where
  dir : Option Path
  sourceExtension : Option String
  inputExtension : Option String
  deriving DecidableEq, Repr

structure Toolchain.Partial where
  host : Option (List String)
  runner : Option (List String)
  compileExport : Option String
  entryExport : Option String
  falseLiteral : Option String
  trueLiteral : Option String
  deriving DecidableEq, Repr

structure Settings.Partial where
  selection : Option Selection.Partial
  locations : Option Locations.Partial
  corpus : Option CorpusLayout.Partial
  toolchain : Option Toolchain.Partial
  verbosity : Option Verbosity
  deriving DecidableEq, Repr

def Selection.Partial.completed (part : Selection.Partial) : Selection where
  useSnapshot := part.useSnapshot.getD Selection.default.useSnapshot
  stage0 := part.stage0.getD Selection.default.stage0
  stage1 := part.stage1.getD Selection.default.stage1
  stage2 := part.stage2.getD Selection.default.stage2
  stage3 := part.stage3.getD Selection.default.stage3

def Locations.Partial.completed (part : Locations.Partial) : Locations where
  compilerSource := part.compilerSource.getD Locations.default.compilerSource
  snapshot := part.snapshot.getD Locations.default.snapshot
  scratchArtifact := part.scratchArtifact.getD Locations.default.scratchArtifact
  workDir := part.workDir.getD Locations.default.workDir

def CorpusLayout.Partial.completed (part : CorpusLayout.Partial) : CorpusLayout where
  dir := part.dir.getD CorpusLayout.default.dir
  sourceExtension := part.sourceExtension.getD CorpusLayout.default.sourceExtension
  inputExtension := part.inputExtension.getD CorpusLayout.default.inputExtension

def Toolchain.Partial.completed (part : Toolchain.Partial) : Toolchain where
  host := part.host.getD Toolchain.default.host
  runner := part.runner.getD Toolchain.default.runner
  compileExport := part.compileExport.getD Toolchain.default.compileExport
  entryExport := part.entryExport.getD Toolchain.default.entryExport
  falseLiteral := part.falseLiteral.getD Toolchain.default.falseLiteral
  trueLiteral := part.trueLiteral.getD Toolchain.default.trueLiteral

def Settings.Partial.completed (part : Settings.Partial) : Settings where
  selection := (part.selection.map (·.completed)).getD Settings.default.selection
  locations := (part.locations.map (·.completed)).getD Settings.default.locations
  corpus := (part.corpus.map (·.completed)).getD Settings.default.corpus
  toolchain := (part.toolchain.map (·.completed)).getD Settings.default.toolchain
  verbosity := part.verbosity.getD Settings.default.verbosity

end parts

section members

def stringsNode (texts : List String) : Json.Node :=
  .array (texts.map fun text => .string (some text)) .closed

def Selection.Partial.values (part : Selection.Partial) : List (String × Option Json.Node) :=
  [("use_snapshot", part.useSnapshot.map .bool), ("stage0", part.stage0.map .bool),
    ("stage1", part.stage1.map .bool), ("stage2", part.stage2.map .bool),
    ("stage3", part.stage3.map .bool)]

def Locations.Partial.values (part : Locations.Partial) : List (String × Option Json.Node) :=
  [("compiler_source", part.compilerSource.map fun path => .string (some path.text)),
    ("snapshot", part.snapshot.map fun path => .string (some path.text)),
    ("scratch_artifact", part.scratchArtifact.map fun path => .string (some path.text)),
    ("work_dir", part.workDir.map fun path => .string (some path.text))]

def CorpusLayout.Partial.values (part : CorpusLayout.Partial) :
    List (String × Option Json.Node) :=
  [("dir", part.dir.map fun path => .string (some path.text)),
    ("source_extension", part.sourceExtension.map fun text => .string (some text)),
    ("input_extension", part.inputExtension.map fun text => .string (some text))]

def Toolchain.Partial.values (part : Toolchain.Partial) : List (String × Option Json.Node) :=
  [("host", part.host.map stringsNode), ("runner", part.runner.map stringsNode),
    ("compile_export", part.compileExport.map fun text => .string (some text)),
    ("entry_export", part.entryExport.map fun text => .string (some text)),
    ("false_literal", part.falseLiteral.map fun text => .string (some text)),
    ("true_literal", part.trueLiteral.map fun text => .string (some text))]

/-- The names are texts and no known one comes twice. -/
structure Json.WellNamed (known : List String) (members : List Member) : Prop where
  texts : ∀ member ∈ members, member.1.isSome = true
  once : ∀ name ∈ known, timesGiven name members ≤ 1

/-- The members give exactly these values for the known names, in whatever order. -/
structure Json.Gives (values : List (String × Option Node)) (members : List Member) : Prop where
  named : WellNamed (values.map Prod.fst) members
  given : ∀ value ∈ values, valueOf? value.1 members = value.2

def Json.IsSection (values : List (String × Option Node)) (node : Node) : Prop :=
  ∃ members, node = .object members .closed ∧ Gives values members

/-- A level is spelled by its name, or as an object with that name alone and null. -/
def Verbosity.IsSpelled (level : Verbosity) (node : Json.Node) : Prop :=
  node = .string (some level.name) ∨ node = .object [(some level.name, .null)] .closed

structure Settings.Partial.ShownBy (part : Settings.Partial) (members : List Member) : Prop where
  named : Json.WellNamed ["stages", "paths", "corpus", "toolchain", "log_level"] members
  selection : Option.Rel (fun given node => Json.IsSection given.values node) part.selection
    (valueOf? "stages" members)
  locations : Option.Rel (fun given node => Json.IsSection given.values node) part.locations
    (valueOf? "paths" members)
  corpus : Option.Rel (fun given node => Json.IsSection given.values node) part.corpus
    (valueOf? "corpus" members)
  toolchain : Option.Rel (fun given node => Json.IsSection given.values node) part.toolchain
    (valueOf? "toolchain" members)
  verbosity : Option.Rel Verbosity.IsSpelled part.verbosity (valueOf? "log_level" members)

end members

namespace Settings

section yields

variable {α β γ : Type} {name : String} {read : Json.Node → Except ReadFault β}
  {update : β → α → α} {fields : List (Field α)} {members : List Member}

structure Field.Yields (field : Field α) (given : Option Json.Node) (change : α → α) : Prop where
  reads : ∀ node ∈ given, ∃ update, field.read node = .ok update
  change_eq : field.change given = change

theorem Field.Yields.of_shown {shown : β → Json.Node}
    (reads : ∀ value, read (shown value) = .ok value) {part : Option β}
    {given : Option Json.Node} (same : given = part.map shown) :
    (Field.of name read update).Yields given ((part.map update).getD id) := by
  subst same
  constructor
  · intro node member
    obtain ⟨value, -, rfl⟩ := Option.map_eq_some_iff.mp member
    exact ⟨update value, Field.read_of (reads value)⟩
  · rw [Field.change_of]
    cases part with
    | none => rfl
    | some value => simp [reads, Except.toOption]

theorem Field.Yields.of_rel {Shows : γ → Json.Node → Prop} {complete : γ → β}
    {part : Option γ} {given : Option Json.Node}
    (reads : ∀ value, ∀ node ∈ given, Shows value node → read node = .ok (complete value))
    (shown : Option.Rel Shows part given) :
    (Field.of name read update).Yields given
      (((part.map complete).map update).getD id) := by
  cases shown with
  | none => exact ⟨by simp, rfl⟩
  | @some value node shows_ =>
      have result := reads value node rfl shows_
      constructor
      · rintro other ⟨⟩
        exact ⟨update (complete value), Field.read_of result⟩
      · rw [Field.change_of]
        simp [result, Except.toOption]

theorem fits_of_yields {changes : List (α → α)}
    (named : Json.WellNamed (fields.map Field.name) members)
    (whole : Json.allMembersWhole members = true)
    (yields : List.Forall₂ (fun field change => field.Yields (valueOf? field.name members) change)
      fields changes) : Fits fields [] members where
  texts := named.texts
  whole := Json.isWhole_of_mem whole
  once := fun field listed => named.once field.name (List.mem_map_of_mem listed)
  fresh := by simp
  reads := fun field listed value member => by
    have found := Json.valueOf?_of_mem (named.once _ (List.mem_map_of_mem listed)) member
    clear named
    induction yields with
    | nil => simp at listed
    | cons first _ ih =>
        rcases List.mem_cons.mp listed with rfl | later
        · exact first.reads value found
        · exact ih later

theorem readMembers_yields {changes : List (α → α)} (apart : fields.Pairwise Field.Apart)
    (named : Json.WellNamed (fields.map Field.name) members)
    (whole : Json.allMembersWhole members = true)
    (yields : List.Forall₂ (fun field change => field.Yields (valueOf? field.name members) change)
      fields changes) (record : α) :
    readMembers fields .closed [] record members =
      .ok (changes.foldl (fun record change => change record) record) := by
  rw [readMembers_eq_overlay apart (fits_of_yields named whole yields)]
  congr 1
  clear apart named
  induction yields generalizing record with
  | nil => rfl
  | cons first _ ih => rw [overlay_cons, first.change_eq, List.foldl_cons, ih]

end yields

section sections

theorem selectionFields_apart : selectionFields.Pairwise Field.Apart := by
  simp [selectionFields, Field.apart_of]

theorem locationFields_apart : locationFields.Pairwise Field.Apart := by
  simp [locationFields, Field.apart_of]

theorem corpusFields_apart : corpusFields.Pairwise Field.Apart := by
  simp [corpusFields, Field.apart_of]

theorem toolchainFields_apart : toolchainFields.Pairwise Field.Apart := by
  simp [toolchainFields, Field.apart_of]

theorem fields_apart : fields.Pairwise Field.Apart := by
  simp [fields, Field.apart_of]

theorem readSelection_partial {part : Selection.Partial} {node : Json.Node}
    (whole : node.isWhole = true) (given : Json.IsSection part.values node) :
    readRecord "StageSelection" selectionFields .default node = .ok part.completed := by
  obtain ⟨members, rfl, named, given⟩ := given
  simp only [Selection.Partial.values, List.forall_mem_cons] at given
  obtain ⟨useSnapshot, stage0, stage1, stage2, stage3, -⟩ := given
  rw [readRecord, readMembers_yields selectionFields_apart named whole
    (.cons (.of_shown readBool_written useSnapshot) (.cons (.of_shown readBool_written stage0)
      (.cons (.of_shown readBool_written stage1) (.cons (.of_shown readBool_written stage2)
        (.cons (.of_shown readBool_written stage3) .nil)))))]
  obtain ⟨_ | _, _ | _, _ | _, _ | _, _ | _⟩ := part <;> rfl

theorem readLocations_partial {part : Locations.Partial} {node : Json.Node}
    (whole : node.isWhole = true) (given : Json.IsSection part.values node) :
    readRecord "PathsConfig" locationFields .default node = .ok part.completed := by
  obtain ⟨members, rfl, named, given⟩ := given
  simp only [Locations.Partial.values, List.forall_mem_cons] at given
  obtain ⟨compilerSource, snapshot, scratchArtifact, workDir, -⟩ := given
  rw [readRecord, readMembers_yields locationFields_apart named whole
    (.cons (.of_shown readPath_written compilerSource)
      (.cons (.of_shown readPath_written snapshot)
        (.cons (.of_shown readPath_written scratchArtifact)
          (.cons (.of_shown readPath_written workDir) .nil))))]
  obtain ⟨_ | _, _ | _, _ | _, _ | _⟩ := part <;> rfl

theorem readCorpus_partial {part : CorpusLayout.Partial} {node : Json.Node}
    (whole : node.isWhole = true) (given : Json.IsSection part.values node) :
    readRecord "CorpusConfig" corpusFields .default node = .ok part.completed := by
  obtain ⟨members, rfl, named, given⟩ := given
  simp only [CorpusLayout.Partial.values, List.forall_mem_cons] at given
  obtain ⟨dir, sourceExtension, inputExtension, -⟩ := given
  rw [readRecord, readMembers_yields corpusFields_apart named whole
    (.cons (.of_shown readPath_written dir)
      (.cons (.of_shown readString_written sourceExtension)
        (.cons (.of_shown readString_written inputExtension) .nil)))]
  obtain ⟨_ | _, _ | _, _ | _⟩ := part <;> rfl

theorem readStrings_stringsNode (texts : List String) :
    readStrings (stringsNode texts) = .ok texts := by
  have same : (Json.array (texts.map .string)).node = stringsNode texts := by
    rw [Json.node, stringsNode]
    congr 1
    induction texts with
    | nil => rfl
    | cons text texts ih => simp only [List.map_cons, Json.itemNodes, Json.node, ih]
  rw [← same, readStrings_written]

theorem readToolchain_partial {part : Toolchain.Partial} {node : Json.Node}
    (whole : node.isWhole = true) (given : Json.IsSection part.values node) :
    readRecord "ToolchainConfig" toolchainFields .default node = .ok part.completed := by
  obtain ⟨members, rfl, named, given⟩ := given
  simp only [Toolchain.Partial.values, List.forall_mem_cons] at given
  obtain ⟨host, runner, compileExport, entryExport, falseLiteral, trueLiteral, -⟩ := given
  rw [readRecord, readMembers_yields toolchainFields_apart named whole
    (.cons (.of_shown readStrings_stringsNode host)
      (.cons (.of_shown readStrings_stringsNode runner)
        (.cons (.of_shown readString_written compileExport)
          (.cons (.of_shown readString_written entryExport)
            (.cons (.of_shown readString_written falseLiteral)
              (.cons (.of_shown readString_written trueLiteral) .nil))))))]
  obtain ⟨_ | _, _ | _, _ | _, _ | _, _ | _, _ | _⟩ := part <;> rfl

theorem readLevel_spelled {level : Verbosity} {node : Json.Node} (spelled : level.IsSpelled node) :
    readLevel node = .ok level := by
  rcases spelled with rfl | rfl <;> cases level <;> rfl

theorem readNode_partial {part : Partial} {members : List Member}
    (whole : Json.allMembersWhole members = true) (shown : part.ShownBy members) :
    readNode (.object members .closed) = .ok part.completed := by
  have each {name : String} : ∀ node ∈ valueOf? name members, node.isWhole = true :=
    fun node found => Json.isWhole_of_mem whole _ (Json.mem_of_valueOf? found)
  rw [readNode, readRecord, readMembers_yields fields_apart shown.named whole <|
    .cons (.of_rel (fun _ node found given => readSelection_partial (each node found) given)
      shown.selection) <|
    .cons (.of_rel (fun _ node found given => readLocations_partial (each node found) given)
      shown.locations) <|
    .cons (.of_rel (fun _ node found given => readCorpus_partial (each node found) given)
      shown.corpus) <|
    .cons (.of_rel (fun _ node found given => readToolchain_partial (each node found) given)
      shown.toolchain) <|
    .cons (.of_rel (fun level _ _ given => show _ = Except.ok (id level) from readLevel_spelled given)
      shown.verbosity) .nil]
  obtain ⟨_ | _, _ | _, _ | _, _ | _, _ | _⟩ := part <;> rfl

end sections

end Settings

section order

namespace Json

/-- The same value, an object perhaps with its members in another order. -/
inductive SameButOrder : Node → Node → Prop
  | refl (node : Node) : SameButOrder node node
  | object {members shuffled : List Member} {ending : Ending} : members.Perm shuffled →
      SameButOrder (.object members ending) (.object shuffled ending)

def Reordered (members shuffled : List Member) : Prop :=
  ∃ middle, members.Perm middle ∧
    List.Forall₂ (fun left right => left.1 = right.1 ∧ SameButOrder left.2 right.2) middle shuffled

theorem valueOf?_perm {name : String} {members shuffled : List Member}
    (reordered : members.Perm shuffled) (once : timesGiven name members ≤ 1) :
    valueOf? name shuffled = valueOf? name members := by
  have onceShuffled : timesGiven name shuffled ≤ 1 := by
    rwa [timesGiven, ← reordered.countP_eq]
  apply Option.ext
  intro value
  constructor
  · exact fun found =>
      valueOf?_of_mem once (reordered.symm.subset (mem_of_valueOf? found))
  · exact fun found =>
      valueOf?_of_mem onceShuffled (reordered.subset (mem_of_valueOf? found))

theorem WellNamed.perm {known : List String} {members shuffled : List Member}
    (reordered : members.Perm shuffled) (named : WellNamed known members) :
    WellNamed known shuffled where
  texts := fun member listed => named.texts member (reordered.symm.subset listed)
  once := fun name listed => by
    rw [timesGiven, ← reordered.countP_eq]
    exact named.once name listed

theorem Gives.perm {values : List (String × Option Node)} {members shuffled : List Member}
    (reordered : members.Perm shuffled) (gives : Gives values members) : Gives values shuffled where
  named := gives.named.perm reordered
  given := fun value listed => by
    rw [valueOf?_perm reordered (gives.named.once _ (List.mem_map_of_mem listed))]
    exact gives.given value listed

theorem IsSection.reordered {values : List (String × Option Node)} {node other : Node}
    (same : SameButOrder node other) (isSection : IsSection values node) :
    IsSection values other := by
  cases same with
  | refl => exact isSection
  | object reordered =>
      obtain ⟨members, shape, gives⟩ := isSection
      obtain ⟨rfl, rfl⟩ := Node.object.inj shape
      exact ⟨_, rfl, gives.perm reordered⟩

section pointwise

variable {members shuffled : List Member}
  (matched : List.Forall₂ (fun left right => left.1 = right.1 ∧ SameButOrder left.2 right.2)
    members shuffled)

include matched

theorem timesGiven_pointwise (name : String) :
    timesGiven name shuffled = timesGiven name members := by
  induction matched with
  | nil => rfl
  | @cons left right _ _ same _ ih =>
      obtain ⟨given, value⟩ := left
      obtain ⟨_, other⟩ := right
      obtain ⟨rfl, -⟩ := same
      rw [timesGiven_cons, timesGiven_cons, ih]

theorem WellNamed.pointwise {known : List String} (named : WellNamed known members) :
    WellNamed known shuffled where
  texts := by
    have texts := named.texts
    clear named
    induction matched with
    | nil => simp
    | cons same _ ih =>
        rw [List.forall_mem_cons] at texts ⊢
        exact ⟨same.1 ▸ texts.1, ih texts.2⟩
  once := fun name listed => by
    rw [timesGiven_pointwise matched]
    exact named.once name listed

theorem valueOf?_pointwise (name : String) :
    Option.Rel SameButOrder (valueOf? name members) (valueOf? name shuffled) := by
  induction matched with
  | nil => exact .none
  | @cons left right _ _ same _ ih =>
      obtain ⟨given, value⟩ := left
      obtain ⟨_, other⟩ := right
      obtain ⟨rfl, same⟩ := same
      rw [valueOf?, valueOf?]
      split
      · exact .some same
      · exact ih

end pointwise

end Json

theorem Verbosity.IsSpelled.reordered {level : Verbosity} {node other : Json.Node}
    (same : Json.SameButOrder node other) (spelled : level.IsSpelled node) :
    level.IsSpelled other := by
  cases same with
  | refl => exact spelled
  | object reordered =>
      rcases spelled with shape | shape
      · cases shape
      · obtain ⟨rfl, rfl⟩ := Json.Node.object.inj shape
        rw [← List.singleton_perm.mp reordered]
        exact .inr rfl

theorem rel_reordered {γ : Type} {Shows : γ → Json.Node → Prop}
    (keeps : ∀ {part node other}, Json.SameButOrder node other → Shows part node →
      Shows part other) {part : Option γ} {given other : Option Json.Node}
    (shown : Option.Rel Shows part given) (same : Option.Rel Json.SameButOrder given other) :
    Option.Rel Shows part other := by
  cases same with
  | none => exact shown
  | some same =>
      cases shown with
      | some shows_ => exact .some (keeps same shows_)

theorem Settings.Partial.ShownBy.reordered {part : Settings.Partial}
    {members shuffled : List Member} (same : Json.Reordered members shuffled)
    (shown : part.ShownBy members) : part.ShownBy shuffled := by
  obtain ⟨middle, permuted, matched⟩ := same
  have values {name : String}
      (known : name ∈ ["stages", "paths", "corpus", "toolchain", "log_level"]) :
      Option.Rel Json.SameButOrder (valueOf? name members) (valueOf? name shuffled) := by
    rw [← Json.valueOf?_perm permuted (shown.named.once name known)]
    exact Json.valueOf?_pointwise matched name
  exact
    { named := (shown.named.perm permuted).pointwise matched
      selection := rel_reordered .reordered shown.selection (values (by simp))
      locations := rel_reordered .reordered shown.locations (values (by simp))
      corpus := rel_reordered .reordered shown.corpus (values (by simp))
      toolchain := rel_reordered .reordered shown.toolchain (values (by simp))
      verbosity := rel_reordered .reordered shown.verbosity (values (by simp)) }

end order

namespace Settings

section refusal

def sections : List (String × List String) :=
  [("stages", ["use_snapshot", "stage0", "stage1", "stage2", "stage3"]),
    ("paths", ["compiler_source", "snapshot", "scratch_artifact", "work_dir"]),
    ("corpus", ["dir", "source_extension", "input_extension"]),
    ("toolchain",
      ["host", "runner", "compile_export", "entry_export", "false_literal", "true_literal"])]

theorem Field.of_ok {α β : Type} {name : String} {read : Json.Node → Except ReadFault β}
    {update : β → α → α} {node : Json.Node} {change : α → α}
    (changed : (Field.of name read update).read node = .ok change) :
    ∃ value, read node = .ok value := by
  cases result : read node with
  | ok value => exact ⟨value, rfl⟩
  | error fault => simp [Field.of, result, Except.map] at changed

theorem Taken.wellNamed {α : Type} {fields : List (Field α)} {seen : List String}
    {members : List Member} (taken : Taken fields seen members) :
    Json.WellNamed (fields.map Field.name) members where
  texts := taken.texts
  once := fun name listed => by
    obtain ⟨field, known, rfl⟩ := List.mem_map.mp listed
    exact taken.once field known

theorem Taken.section {α β : Type} {outer : List (Field α)} {known : List (Field β)}
    {members inner : List Member} {final : Json.Ending} {name kind : String} {default : β}
    {update : β → α → α} (taken : Taken outer [] members)
    (listed : Field.named? outer name = some (Field.of name (readRecord kind known default) update))
    (member : (some name, .object inner final) ∈ members) :
    Json.WellNamed (known.map Field.name) inner := by
  obtain ⟨_, changed⟩ := taken.reads name _ listed _ member
  obtain ⟨_, result⟩ := Field.of_ok changed
  exact (readMembers_ok result).wellNamed

theorem wellNamed_of_readNode {members : List Member} {ending : Json.Ending} {settings : Settings}
    (read : readNode (.object members ending) = .ok settings) :
    Json.WellNamed ["stages", "paths", "corpus", "toolchain", "log_level"] members ∧
      ∀ known ∈ sections, ∀ inner final, (some known.1, .object inner final) ∈ members →
        Json.WellNamed known.2 inner := by
  have taken : Taken fields [] members := readMembers_ok read
  refine ⟨taken.wellNamed, ?_⟩
  simp only [sections, List.forall_mem_cons, List.not_mem_nil, false_implies, implies_true, and_true]
  refine ⟨?_, ?_, ?_, ?_⟩ <;> intro inner final member
  · exact (taken.section rfl member :)
  · exact (taken.section rfl member :)
  · exact (taken.section rfl member :)
  · exact (taken.section rfl member :)

def Misnamed (known : List String) (members : List Member) : Prop :=
  (∃ name ∈ known, 2 ≤ timesGiven name members) ∨ ∃ value, (none, value) ∈ members

theorem Misnamed.not_wellNamed {known : List String} {members : List Member}
    (misnamed : Misnamed known members) : ¬Json.WellNamed known members := by
  intro named
  rcases misnamed with ⟨name, listed, twice⟩ | ⟨value, member⟩
  · have := named.once name listed
    omega
  · simpa using named.texts _ member

theorem parse_misnamed {members : List Member} {text : String}
    (spelled : Json.SpellsText (.object members .closed) text)
    (misnamed : Misnamed ["stages", "paths", "corpus", "toolchain", "log_level"] members ∨
      ∃ known ∈ sections, ∃ inner, (some known.1, .object inner .closed) ∈ members ∧
        Misnamed known.2 inner) : ∃ fault, parse text = .error fault := by
  rw [parse_of_spells spelled]
  cases result : readNode (.object members .closed) with
  | error fault => exact ⟨fault, rfl⟩
  | ok settings =>
      obtain ⟨outer, inner⟩ := wellNamed_of_readNode result
      rcases misnamed with root | ⟨known, listed, members, member, wrong⟩
      · exact absurd outer root.not_wellNamed
      · exact absurd (inner known listed members .closed member) wrong.not_wellNamed

end refusal

/-- An object with any fields given is read as the defaults with these replaced, whatever unknown
members stand between them; another order of the members changes nothing; and a known name that
comes twice in one object, or a name that is no text, is refused wherever it stands. -/
theorem parse_partial :
    (∀ (part : Partial) members text, part.ShownBy members →
      Json.SpellsText (.object members .closed) text → parse text = .ok part.completed) ∧
    (∀ (part : Partial) members shuffled text other, part.ShownBy members →
      Json.Reordered members shuffled → Json.SpellsText (.object members .closed) text →
      Json.SpellsText (.object shuffled .closed) other → parse other = parse text) ∧
    (∀ members text, Json.SpellsText (.object members .closed) text →
      (Misnamed ["stages", "paths", "corpus", "toolchain", "log_level"] members ∨
        ∃ known ∈ sections, ∃ inner, (some known.1, .object inner .closed) ∈ members ∧
          Misnamed known.2 inner) → ∃ fault, parse text = .error fault) := by
  have given : ∀ (part : Partial) members text, part.ShownBy members →
      Json.SpellsText (.object members .closed) text → parse text = .ok part.completed := by
    intro part members text shown spelled
    rw [parse_of_spells spelled]
    exact readNode_partial spelled.isWhole shown
  refine ⟨given, ?_, fun members text spelled misnamed => parse_misnamed spelled misnamed⟩
  intro part members shuffled text other shown reordered spelled spelledOther
  rw [given part members text shown spelled,
    given part shuffled other (shown.reordered reordered) spelledOther]

section samples

def sampleMembers : List (String × Json) :=
  [("note", .array [.number (-40), .object [("log_level", .null), ("log_level", .null)]]),
    ("log_level", .string "warn"),
    ("paths", .object
      [("work_dir", .string "w\n\"é"), ("stages", .bool true), ("snapshot", .string "")])]

def shuffledSample : List (String × Json) :=
  [("log_level", .string "warn"),
    ("note", .array [.number (-40), .object [("log_level", .null), ("log_level", .null)]]),
    ("paths", .object
      [("stages", .bool true), ("work_dir", .string "w\n\"é"), ("snapshot", .string "")])]

def repeatedSample : List (String × Json) :=
  [("corpus", .object [("dir", .string "a"), ("x", .null), ("dir", .string "a")])]

def samplePart : Partial where
  selection := none
  locations := some ⟨none, some ⟨""⟩, none, some ⟨"w\n\"é"⟩⟩
  corpus := none
  toolchain := none
  verbosity := some .warn

theorem samplePart_shown : samplePart.ShownBy (Json.memberNodes sampleMembers) where
  named := ⟨by simp [sampleMembers, Json.memberNodes], by decide⟩
  selection := .none
  locations := .some ⟨_, rfl, ⟨by simp [Json.memberNodes], by decide⟩, by
    simp [Locations.Partial.values, valueOf?, Json.memberNodes, Json.node]⟩
  corpus := .none
  toolchain := .none
  verbosity := .some (.inl rfl)

theorem sample_reordered :
    Json.Reordered (Json.memberNodes sampleMembers) (Json.memberNodes shuffledSample) :=
  ⟨_, .swap _ _ _, .cons ⟨rfl, .refl _⟩ (.cons ⟨rfl, .refl _⟩
    (.cons ⟨rfl, .object (.swap _ _ _)⟩ .nil))⟩

theorem parse_sample :
    parse (Json.object sampleMembers).compact = .ok samplePart.completed ∧
      parse (Json.object shuffledSample).pretty = parse (Json.object sampleMembers).compact ∧
      ∃ fault, parse (Json.object repeatedSample).compact = .error fault :=
  ⟨parse_partial.1 samplePart _ _ samplePart_shown (Json.spells_compact (.object sampleMembers)),
    parse_partial.2.1 samplePart _ _ _ _ samplePart_shown sample_reordered
      (Json.spells_compact (.object sampleMembers)) (Json.spells_pretty (.object shuffledSample)),
    parse_partial.2.2 _ _ (Json.spells_compact (.object repeatedSample))
      (.inr ⟨sections[2], by simp [sections], _, .head _, .inl ⟨"dir", by decide, by decide⟩⟩)⟩

/-- A member whose name is half of a surrogate pair is well formed, and the text is refused for it
even where no known field is given. -/
theorem lone_surrogate_name_refused :
    ¬∀ members text, Json.SpellsText (.object members .closed) text →
      (∀ name ∈ ["stages", "paths", "corpus", "toolchain", "log_level"],
        timesGiven name members = 0) → parse text = .ok .default := by
  intro claimed
  have unit : Json.SpellsPieces [.unit (((13 * 16 + 8) * 16 + 0) * 16 + 0)]
      ['\\', 'u', 'd', '8', '0', '0'] := .unit rfl rfl rfl rfl .nil
  have name : Json.SpellsString none ['"', '\\', 'u', 'd', '8', '0', '0', '"'] := .quoted unit
  have zero : Json.SpellsNumber ⟨false, ['0'], none, none⟩ ['0'] :=
    @Json.SpellsNumber.parts false _ _ _ _ _
      ⟨List.cons_ne_nil _ _, List.forall_mem_singleton.mpr rfl⟩ (fun _ => rfl) .absent .absent
  have spelled : Json.SpellsText
      (.object [(none, .number ⟨false, ['0'], none, none⟩)] .closed) "\x7b\"\\ud800\":0\x7d" :=
    .value Json.blank_nil (.object Json.blank_nil
      (.last (.named name Json.blank_nil Json.blank_nil (.number zero)) Json.blank_nil))
      Json.blank_nil (by decide)
  obtain ⟨fault, refused⟩ := parse_misnamed spelled (.inl (.inr ⟨_, .head _⟩))
  simp [claimed _ _ spelled (by decide)] at refused

end samples

end Settings

end Bootstrap
