import Bootstrap.Proofs.JoinedPaths
import Bootstrap.Settings

/-!
Settings with resolved paths. Settings name five places by paths; resolving them puts each relative
path below the base and keeps all else, and below an absolute base nothing is left to resolve.
-/

namespace Bootstrap

namespace Settings

/-- What settings name by a path. -/
inductive Site where
  | compilerSource
  | snapshot
  | scratchArtifact
  | workDir
  | corpus
  deriving DecidableEq, Repr

def path (settings : Settings) : Site → Path
  | .compilerSource => settings.locations.compilerSource
  | .snapshot => settings.locations.snapshot
  | .scratchArtifact => settings.locations.scratchArtifact
  | .workDir => settings.locations.workDir
  | .corpus => settings.corpus.dir

structure SameBesides (settings other : Settings) : Prop where
  selection : settings.selection = other.selection
  sourceExtension : settings.corpus.sourceExtension = other.corpus.sourceExtension
  inputExtension : settings.corpus.inputExtension = other.corpus.inputExtension
  toolchain : settings.toolchain = other.toolchain
  verbosity : settings.verbosity = other.verbosity

section

variable {settings other : Settings} {base : Path}

theorem SameBesides.eq_of_paths (besides : settings.SameBesides other)
    (paths : ∀ site, settings.path site = other.path site) : settings = other := by
  obtain ⟨selection, ⟨source, snapshot, scratch, work⟩, ⟨dir, _, _⟩, toolchain, verbosity⟩ :=
    settings
  obtain ⟨_, ⟨_, _, _, _⟩, ⟨_, _, _⟩, _, _⟩ := other
  obtain ⟨rfl, rfl, rfl, rfl, rfl⟩ := besides
  obtain rfl := paths .compilerSource
  obtain rfl := paths .snapshot
  obtain rfl := paths .scratchArtifact
  obtain rfl := paths .workDir
  obtain rfl := paths .corpus
  rfl

theorem sameBesides_resolved (settings : Settings) (base : Path) :
    (settings.resolved base).SameBesides settings :=
  ⟨rfl, rfl, rfl, rfl, rfl⟩

theorem path_resolved (settings : Settings) (base : Path) (site : Site) :
    (settings.resolved base).path site = base.join (settings.path site) := by
  cases site <;> rfl

theorem isAbsolute_path_resolved (absolute : base.isAbsolute = true) (settings : Settings)
    (site : Site) : ((settings.resolved base).path site).isAbsolute = true := by
  rw [path_resolved]
  cases kept : (settings.path site).isAbsolute with
  | true => rw [Path.join_of_absolute base kept, kept]
  | false => rw [Path.isAbsolute_join base kept, absolute]

theorem resolved_of_absolute (absolute : ∀ site, (settings.path site).isAbsolute = true)
    (base : Path) : settings.resolved base = settings := by
  refine (sameBesides_resolved settings base).eq_of_paths fun site => ?_
  rw [path_resolved, Path.join_of_absolute base (absolute site)]

end

/-- Resolving settings keeps everything but their relative paths, which go below the base. Against
an absolute base this is final: every path is absolute then, and no other base changes anything. -/
theorem resolved_final (settings : Settings) (base : Path) :
    (settings.resolved base).SameBesides settings ∧
    (∀ site,
      ((settings.path site).isAbsolute = true →
        (settings.resolved base).path site = settings.path site) ∧
      ((settings.path site).isAbsolute = false →
        (settings.resolved base).path site = base.join (settings.path site) ∧
        Disk.segments ((settings.resolved base).path site) =
          Disk.segments base ++ Disk.segments (settings.path site))) ∧
    (base.isAbsolute = true →
      (∀ site, ((settings.resolved base).path site).isAbsolute = true) ∧
      ∀ other, (settings.resolved base).resolved other = settings.resolved base) := by
  refine ⟨sameBesides_resolved settings base, fun site => ?_, fun absolute => ?_⟩
  · rw [path_resolved]
    refine ⟨Path.join_of_absolute base, fun relative => ⟨rfl, ?_⟩⟩
    exact Path.segments_join base relative
  · have allAbsolute := isAbsolute_path_resolved absolute settings
    exact ⟨allAbsolute, resolved_of_absolute allAbsolute⟩

def foreignSnapshot : Settings :=
  { default with locations := { Locations.default with snapshot := ⟨"/abs/stage0.mod"⟩ } }

theorem foreignSnapshot_final :
    (foreignSnapshot.path .snapshot).isAbsolute = true ∧
      (foreignSnapshot.path .workDir).isAbsolute = false ∧ Path.isAbsolute ⟨"/project/"⟩ = true ∧
      (foreignSnapshot.resolved ⟨"/project/"⟩).path .snapshot = ⟨"/abs/stage0.mod"⟩ ∧
      (foreignSnapshot.resolved ⟨"/project/"⟩).path .workDir = ⟨"/project/.bootcheck"⟩ ∧
      (foreignSnapshot.resolved ⟨"/project/"⟩).resolved ⟨"other"⟩ =
        foreignSnapshot.resolved ⟨"/project/"⟩ := by
  obtain ⟨-, placed, final⟩ := resolved_final foreignSnapshot ⟨"/project/"⟩
  have absolute : (foreignSnapshot.path .snapshot).isAbsolute = true := by decide
  have relative : (foreignSnapshot.path .workDir).isAbsolute = false := by decide
  have absoluteBase : Path.isAbsolute ⟨"/project/"⟩ = true := by decide
  have below := ((placed .workDir).2 relative).1
  exact ⟨absolute, relative, absoluteBase, (placed .snapshot).1 absolute,
    below.trans (by decide), (final absoluteBase).2 ⟨"other"⟩⟩

end Settings

end Bootstrap
