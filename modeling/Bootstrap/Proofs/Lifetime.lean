import Bootstrap.Proofs.Balance
import Bootstrap.Proofs.RootCause
import Bootstrap.Toy.World

/-!
The life of the cells, from empty ones on: requests and whole runs one after another, with anything
between them that leaves the cells alone. What is told of all constructions together names one
failure as an error, that of the generation at whose construction things went wrong.
-/

namespace Bootstrap

theorem Stage.lt_of_next {lower below stage : Stage} (above : below.next? = some stage)
    (less : lower < stage) : lower = below ∨ lower < below := by
  have height := index_next above
  have low : lower.index < stage.index := less
  rcases Nat.lt_or_ge lower.index below.index with less | least
  · exact .inr less
  · exact .inl (index_inj (by omega))

namespace Cells

variable {cells : Cells}

theorem Ordered.built_below (ordered : cells.Ordered) {lower stage : Stage} (less : lower < stage)
    {result : Except StageError Artifact} (built : cells.built stage = some result) :
    ∃ earlier, cells.built lower = some earlier := by
  induction stage using Stage.ascend generalizing result with
  | first => exact absurd less (Nat.not_lt_zero _)
  | next below stage above ih =>
      obtain ⟨earlier, present, _⟩ := (ordered.bears stage result built).next below above
      rcases Stage.lt_of_next above less with rfl | deeper
      · exact ⟨earlier, present⟩
      · exact ih deeper present

theorem Ordered.blocked (ordered : cells.Ordered) {lower stage : Stage} (less : lower < stage)
    {error : StageError} (failed : cells.built lower = some (.error error))
    {result : Except StageError Artifact} (built : cells.built stage = some result) :
    result = .error (error.blocking stage) := by
  induction stage using Stage.ascend generalizing result with
  | first => exact absurd less (Nat.not_lt_zero _)
  | next below stage above ih =>
      obtain ⟨earlier, present, follows⟩ := (ordered.bears stage result built).next below above
      rcases Stage.lt_of_next above less with rfl | deeper
      · obtain rfl := Option.some.inj (failed.symm.trans present)
        exact follows
      · obtain rfl := ih deeper present
        rw [← error.blocking_blocking below stage]
        exact follows

structure Root (cells : Cells) (stage : Stage) (error : StageError) : Prop where
  failed : cells.built stage = some (.error error)
  own : error.isDependency = false
  below : ∀ lower, lower < stage → ∃ artifact, cells.built lower = some (.ok artifact)
  above : ∀ higher, stage < higher → ∀ result, cells.built higher = some result →
    result = .error (error.blocking higher)

theorem Ordered.root (ordered : cells.Ordered) {stage : Stage} {error : StageError}
    (failed : cells.built stage = some (.error error)) (own : error.isDependency = false) :
    cells.Root stage error where
  failed := failed
  own := own
  below := by
    intro lower less
    obtain ⟨earlier, present⟩ := ordered.built_below less failed
    cases earlier with
    | ok artifact => exact ⟨artifact, present⟩
    | error cause =>
        have passed := ordered.blocked less present failed
        rw [Except.error.inj passed, cause.isDependency_blocking] at own
        cases own
  above := fun higher less result built => ordered.blocked less failed built

theorem Root.unique {stage other : Stage} {error another : StageError}
    (root : cells.Root stage error) (twin : cells.Root other another) : stage = other := by
  rcases Nat.lt_trichotomy stage.index other.index with less | same | more
  · obtain ⟨artifact, built⟩ := twin.below stage less
    rw [root.failed] at built
    cases built
  · exact Stage.index_inj same
  · obtain ⟨artifact, built⟩ := root.below other more
    rw [twin.failed] at built
    cases built

end Cells

namespace Chronicle

def isError (remark : Remark) : Bool :=
  remark.about.isSome && decide (remark.note.level = .error)

def errors (told : Chronicle) : List Remark :=
  told.remarks.filter isError

variable {settings : Settings} {told : Chronicle} {stage : Stage}

theorem level_of_mem_loadingNotes {note : Note}
    (member : note ∈ Ladder.loadingNotes settings stage) : note.level = .debug := by
  cases stage with
  | stage0 =>
      simp only [Ladder.loadingNotes] at member
      split at member
      next => rw [List.mem_singleton.mp member]
      next => cases member
  | _ => cases member

theorem filter_constructionNotes (settings : Settings) (stage : Stage)
    (result : Except StageError Artifact) :
    (Ladder.constructionNotes settings stage result).filter (fun note => note.level = .error) =
      [Ladder.outcomeNote result].filter fun note => note.level = .error := by
  have loading : (Ladder.loadingNotes settings stage).filter (fun note => note.level = .error) =
      [] := by
    refine List.filter_eq_nil_iff.mpr fun note member => ?_
    simp [level_of_mem_loadingNotes member]
  simp [Ladder.constructionNotes, Ladder.startNote, List.filter_append, loading]

theorem Attributes.errors {later : Option (Except StageError Artifact)}
    (attributes : told.Attributes settings stage none later) :
    (told.remarksAbout stage).filter isError = [] ∧
        (∀ error, later = some (.error error) → error.isDependency = true) ∨
      ∃ error number, later = some (.error error) ∧ error.isDependency = false ∧
        (told.remarksAbout stage).filter isError =
          [⟨some stage, Ladder.outcomeNote (.error error), some number⟩] := by
  rcases attributes with ⟨rfl, noRemarks, _⟩ | ⟨_, result, number, rfl, _, noted⟩
  · exact .inl ⟨by rw [noRemarks]; rfl, by simp⟩
  · have kept : (told.remarksAbout stage).filter isError =
        ([Ladder.outcomeNote result].filter fun note => note.level = .error).map fun note =>
          ⟨some stage, note, some number⟩ := by
      rw [noted, ← filter_constructionNotes settings stage,
        List.filter_map]
      rfl
    cases result with
    | ok artifact => exact .inl ⟨by rw [kept]; rfl, by simp⟩
    | error error =>
        cases own : error.isDependency with
        | true =>
            refine .inl ⟨by simp [kept, Ladder.outcomeNote, own], fun other same => ?_⟩
            rw [← Except.error.inj (Option.some.inj same), own]
        | false => exact .inr ⟨error, number, rfl, own, by simp [kept, Ladder.outcomeNote, own]⟩

/-- One failure is told of as an error, if there is any, and those that it blocks are warnings. -/
structure Blames (told : Chronicle) (cells : Cells) : Prop where
  errors : (∃ stage error number, cells.Root stage error ∧
      told.errors = [⟨some stage, Ladder.outcomeNote (.error error), some number⟩]) ∨
    told.errors = [] ∧ ∀ stage error, ¬ cells.Root stage error
  warnings : ∀ stage error, cells.Root stage error → ∀ higher, stage < higher →
    cells.built higher ≠ none → ∃ number,
      ⟨some higher, ⟨.warn, Log.Target.stage, (error.blocking higher).message⟩, some number⟩ ∈
        told.remarks

theorem mem_errors_iff (remark : Remark) : remark ∈ told.errors ↔
    ∃ stage, remark.about = some stage ∧ remark ∈ (told.remarksAbout stage).filter isError := by
  simp only [Chronicle.errors, remarksAbout, List.mem_filter, isError, Bool.and_eq_true,
    Option.isSome_iff_exists, decide_eq_true_eq]
  constructor
  · rintro ⟨member, ⟨stage, about⟩, level⟩
    exact ⟨stage, about, ⟨member, about⟩, ⟨stage, about⟩, level⟩
  · rintro ⟨stage, about, ⟨member, _⟩, rest⟩
    exact ⟨member, rest⟩

theorem blames {cells : Cells} (ordered : cells.Ordered)
    (attributes : ∀ stage, told.Attributes settings stage none (cells.built stage)) :
    told.Blames cells where
  errors := by
    have rooted : ∀ remark ∈ told.errors, ∃ stage error, remark.about = some stage ∧
        cells.Root stage error := by
      intro remark member
      obtain ⟨stage, about, found⟩ := (mem_errors_iff remark).mp member
      rcases (attributes stage).errors with ⟨nothing, _⟩ | ⟨error, number, failed, own, _⟩
      · rw [nothing] at found
        cases found
      · exact ⟨stage, error, about, ordered.root failed own⟩
    by_cases any : ∃ stage error, cells.Root stage error
    · obtain ⟨stage, error, root⟩ := any
      left
      -- An error about another generation would make that one a root, too.
      have all : told.errors = (told.remarksAbout stage).filter isError := by
        rw [remarksAbout, List.filter_comm]
        refine (List.filter_eq_self.mpr fun remark member => ?_).symm
        obtain ⟨other, another, about, twin⟩ := rooted remark member
        rw [decide_eq_true_eq, about, root.unique twin]
      rcases (attributes stage).errors with ⟨_, blocked⟩ | ⟨another, number, failed, own, one⟩
      · have own := root.own
        rw [blocked error root.failed] at own
        cases own
      · obtain rfl := Except.error.inj (Option.some.inj (root.failed.symm.trans failed))
        exact ⟨stage, error, number, root, all.trans one⟩
    · right
      refine ⟨List.eq_nil_iff_forall_not_mem.mpr fun remark member => ?_,
        fun stage error root => any ⟨stage, error, root⟩⟩
      obtain ⟨stage, error, _, root⟩ := rooted remark member
      exact any ⟨stage, error, root⟩
  warnings := by
    intro stage error root higher less present
    rcases attributes higher with ⟨missing, _⟩ | ⟨_, result, number, built, _, noted⟩
    · exact absurd missing present
    · obtain rfl := root.above higher less result built
      refine ⟨number, ?_⟩
      have outcome : Ladder.outcomeNote (.error (error.blocking higher)) =
          ⟨.warn, Log.Target.stage, (error.blocking higher).message⟩ := by
        simp [Ladder.outcomeNote, error.isDependency_blocking]
      have member : (⟨some higher, Ladder.outcomeNote (.error (error.blocking higher)),
          some number⟩ : Remark) ∈ told.remarksAbout higher := by
        rw [noted]
        exact List.mem_map_of_mem (by simp [Ladder.constructionNotes])
      rw [outcome] at member
      exact (List.mem_filter.mp member).1

end Chronicle

inductive Deed where
  | request (asked : Request)
  | run (filter : Option String)

variable {World Engine Value : Type} (env : Environment World Engine Value) (settings : Settings)

def Deed.later (session : Session World) : Deed → Session World
  | .request asked => (asked.serve env settings session).2
  | .run filter => (Verification.run env settings filter session).2

theorem Deed.tells (session : Session World) (deed : Deed) :
    ∃ told, session.Tells env settings told (deed.later env settings session) := by
  cases deed with
  | request asked => exact (asked.serve_balances env settings session).1
  | run filter => exact (Verification.run_balances env settings filter session).1

/-- Deeds one after another, with anything between them that leaves the cells alone; only what the
deeds tell counts. -/
inductive Session.Lives (first : Session World) : Chronicle → Session World → Prop where
  | start : Lives first .empty first
  | deed {told more : Chronicle} {session : Session World} (deed : Deed)
      (lives : Lives first told session)
      (tells : session.Tells env settings more (deed.later env settings session)) :
      Lives first (told ++ more) (deed.later env settings session)
  | meanwhile {told : Chronicle} {session later : Session World} (lives : Lives first told session)
      (same : later.cells = session.cells) : Lives first told later

variable {env settings}

theorem Session.Lives.keeps {first later : Session World} {told : Chronicle}
    (lives : first.Lives env settings told later) :
    (first.cells.Ordered → later.cells.Ordered) ∧ ∀ stage,
      told.Attributes settings stage (first.cells.built stage) (later.cells.built stage) := by
  induction lives with
  | start => exact ⟨id, fun stage => .inl ⟨rfl, rfl, rfl⟩⟩
  | deed deed _ tells ih =>
      exact ⟨fun ordered => tells.ordered (ih.1 ordered),
        fun stage => (ih.2 stage).trans (tells.attributes stage)⟩
  | meanwhile _ same ih =>
      rw [same]
      exact ih

variable (env settings)

theorem Session.exists_lives (first : Session World) (deeds : List Deed) :
    ∃ told, first.Lives env settings told
      (deeds.foldl (fun session deed => deed.later env settings session) first) := by
  induction deeds using List.reverseRecOn with
  | nil => exact ⟨.empty, .start⟩
  | append_singleton deeds deed ih =>
      obtain ⟨told, lives⟩ := ih
      obtain ⟨more, tells⟩ := deed.tells env settings
        (deeds.foldl (fun session deed => deed.later env settings session) first)
      rw [List.foldl_append]
      exact ⟨told ++ more, .deed deed lives tells⟩

/-- How the log of constructions is kept, on every path and over the whole life of the cells. -/
structure TellsOfConstructions : Prop where
  spans : ∀ (session : Session World) (deed : Deed),
    (deed.later env settings session).logger.spans = session.logger.spans
  tells : ∀ (session : Session World) (deed : Deed),
    ∃ told, session.Tells env settings told (deed.later env settings session)
  /-- The construction below is told of in between. -/
  nested : ∀ (session : Session World) (stage : Stage), session.cells.built stage = none →
    ∃ inner, session.Tells env settings
      (Ladder.told stage session.logger.nextSpan inner (Ladder.build env settings stage session).1)
      (Ladder.build env settings stage session).2
  lives : ∀ (first : Session World) (deeds : List Deed), ∃ told, first.Lives env settings told
    (deeds.foldl (fun session deed => deed.later env settings session) first)
  blames : ∀ (world : World) (logger : Log.Logger) (told : Chronicle) (later : Session World),
    (Session.start world logger).Lives env settings told later → told.Blames later.cells

theorem tells_of_constructions : TellsOfConstructions env settings where
  spans := by
    intro session deed
    obtain ⟨told, tells⟩ := deed.tells env settings session
    exact tells.logs.spans
  tells := Deed.tells env settings
  nested := by
    intro session stage fresh
    obtain ⟨told, answers⟩ := Ladder.build_answers env settings stage session
    obtain ⟨inner, rfl⟩ := answers.nested fresh
    exact ⟨inner, answers.tells⟩
  lives := Session.exists_lives env settings
  blames := by
    intro world logger told later lives
    obtain ⟨ordered, attributes⟩ := lives.keeps
    exact Chronicle.blames (ordered Cells.ordered_empty) attributes

/-- Without a compiler source the first generation fails, inside the constructions that asked for it. -/
example :
    (((Deed.request (.build .stage2)).later (Toy.environment none false) Settings.default
      (.start (Toy.World.start .empty []) ((Log.Logger.new .info 0).addSink .console))).logger.console.map
        fun record => (record.level, record.span)) =
      [(.info, some 1), (.info, some 2), (.info, some 3), (.error, some 3), (.warn, some 2),
        (.warn, some 1)] := by
  decide +kernel

end Bootstrap
