import Bootstrap.Proofs.LoggerHistory
import Mathlib.Data.List.Perm.Subperm

/-!
Spans and their guards. Giving up a guard ends the innermost span, whosever it is; so the number of
open spans is always that of the live guards, and the innermost span belongs to the newest live
guard exactly as long as no older guard has been given up in the meantime.
-/

namespace Bootstrap

namespace Log

namespace Guarded

def innermost? (guarded : Guarded) : Option Span :=
  guarded.logger.spans.head?

structure Enters (before : Guarded) (name : String) (later : Guarded) : Prop where
  spans : later.logger.spans = ⟨before.logger.nextSpan, name⟩ :: before.logger.spans
  nextSpan : later.logger.nextSpan = before.logger.nextSpan + 1
  live : later.live = before.live ++ [before.issued]
  issued : later.issued = before.issued + 1

structure Drops (before : Guarded) (guard : Nat) (later : Guarded) : Prop where
  member : guard ∈ before.live
  spans : later.logger.spans = before.logger.spans.tail
  nextSpan : later.logger.nextSpan = before.logger.nextSpan
  live : later.live = before.live.erase guard
  issued : later.issued = before.issued

structure Stays (before later : Guarded) : Prop where
  spans : later.logger.spans = before.logger.spans
  nextSpan : later.logger.nextSpan = before.logger.nextSpan
  live : later.live = before.live
  issued : later.issued = before.issued

theorem perform_cases (guarded : Guarded) (step : Step) :
    (∃ name, step = .enter name ∧ guarded.Enters name (guarded.perform step)) ∨
      (∃ guard, step = .drop guard ∧ guarded.Drops guard (guarded.perform step)) ∨
      step.entered? = none ∧ (∀ guard ∈ guarded.live, step ≠ .drop guard) ∧
        guarded.Stays (guarded.perform step) := by
  cases step with
  | enter name => exact .inl ⟨name, rfl, rfl, rfl, rfl, rfl⟩
  | drop guard =>
      right
      by_cases member : guard ∈ guarded.live
      · left
        have performed : guarded.perform (.drop guard) =
            { guarded with logger := guarded.logger.leave, live := guarded.live.erase guard } := by
          simp [perform, drop, member]
        rw [performed]
        exact ⟨guard, rfl, member, List.drop_one, rfl, rfl, rfl⟩
      · right
        have performed : guarded.perform (.drop guard) = guarded := by
          simp [perform, drop, member]
        rw [performed]
        refine ⟨rfl, ?_, rfl, rfl, rfl, rfl⟩
        rintro other held ⟨⟩
        exact member held
  | log level target message =>
      have same := guarded.logger.sameSpans_log level target message
      exact .inr (.inr ⟨rfl, by simp, same.spans, same.nextSpan, rfl, rfl⟩)
  | setLevel level => exact .inr (.inr ⟨rfl, by simp, rfl, rfl, rfl, rfl⟩)
  | addSink sink => exact .inr (.inr ⟨rfl, by simp, rfl, rfl, rfl, rfl⟩)

/-- The books of spans and guards, given the names of the spans entered so far. -/
structure Accounts (guarded : Guarded) (names : List String) : Prop where
  issued : guarded.issued = names.length
  nextSpan : guarded.logger.nextSpan = names.length + 1
  balanced : guarded.logger.spans.length = guarded.live.length
  ascending : guarded.live.Pairwise (· < ·)
  known : ∀ guard ∈ guarded.live, guard < names.length
  innermostFirst : guarded.logger.spans.Pairwise fun inner outer => outer.number < inner.number
  entered : ∀ span ∈ guarded.logger.spans, ∃ guard,
    names[guard]? = some span.name ∧ span.number = guard + 1

variable {guarded later : Guarded} {names : List String}

theorem Accounts.number_lt (accounts : guarded.Accounts names) {span : Span}
    (member : span ∈ guarded.logger.spans) : span.number < names.length + 1 := by
  obtain ⟨guard, found, same⟩ := accounts.entered span member
  obtain ⟨bound, _⟩ := List.getElem?_eq_some_iff.mp found
  omega

theorem Accounts.nodup (accounts : guarded.Accounts names) : guarded.live.Nodup :=
  accounts.ascending.imp Nat.ne_of_lt

theorem Accounts.enters (accounts : guarded.Accounts names) {name : String}
    (enters : guarded.Enters name later) : later.Accounts (names ++ [name]) where
  issued := by rw [enters.issued, accounts.issued, List.length_append, List.length_singleton]
  nextSpan := by rw [enters.nextSpan, accounts.nextSpan, List.length_append, List.length_singleton]
  balanced := by
    rw [enters.spans, enters.live, List.length_cons, List.length_append, List.length_singleton,
      accounts.balanced]
  ascending := by
    rw [enters.live, List.pairwise_append]
    refine ⟨accounts.ascending, List.pairwise_singleton .., ?_⟩
    intro guard held newest same
    rw [List.mem_singleton.mp same, accounts.issued]
    exact accounts.known guard held
  known := by
    intro guard held
    rw [enters.live, accounts.issued] at held
    rw [List.length_append, List.length_singleton]
    rcases List.mem_append.mp held with older | newest
    · exact Nat.lt_succ_of_lt (accounts.known guard older)
    · exact Nat.lt_succ_of_le (Nat.le_of_eq (List.mem_singleton.mp newest))
  innermostFirst := by
    rw [enters.spans, List.pairwise_cons]
    refine ⟨fun span member => ?_, accounts.innermostFirst⟩
    rw [accounts.nextSpan]
    exact accounts.number_lt member
  entered := by
    intro span member
    rw [enters.spans, accounts.nextSpan] at member
    rcases List.mem_cons.mp member with rfl | older
    · exact ⟨names.length, by simp, rfl⟩
    · obtain ⟨guard, found, same⟩ := accounts.entered span older
      obtain ⟨bound, _⟩ := List.getElem?_eq_some_iff.mp found
      exact ⟨guard, by rw [List.getElem?_append_left bound, found], same⟩

theorem Accounts.drops (accounts : guarded.Accounts names) {guard : Nat}
    (drops : guarded.Drops guard later) : later.Accounts names where
  issued := drops.issued.trans accounts.issued
  nextSpan := drops.nextSpan.trans accounts.nextSpan
  balanced := by
    rw [drops.spans, drops.live, List.length_tail, List.length_erase_of_mem drops.member,
      accounts.balanced]
  ascending := drops.live ▸ accounts.ascending.sublist List.erase_sublist
  known := fun other held =>
    accounts.known other (List.mem_of_mem_erase (drops.live ▸ held))
  innermostFirst := drops.spans ▸ accounts.innermostFirst.tail
  entered := fun span member =>
    accounts.entered span (List.mem_of_mem_tail (drops.spans ▸ member))

theorem Accounts.stays (accounts : guarded.Accounts names) (stays : guarded.Stays later) :
    later.Accounts names where
  issued := stays.issued.trans accounts.issued
  nextSpan := stays.nextSpan.trans accounts.nextSpan
  balanced := by rw [stays.spans, stays.live, accounts.balanced]
  ascending := stays.live ▸ accounts.ascending
  known := stays.live ▸ accounts.known
  innermostFirst := stays.spans ▸ accounts.innermostFirst
  entered := stays.spans ▸ accounts.entered

theorem Accounts.perform (accounts : guarded.Accounts names) (step : Step) :
    (guarded.perform step).Accounts (names ++ step.entered?.toList) := by
  rcases guarded.perform_cases step with
    ⟨name, rfl, enters⟩ | ⟨guard, rfl, drops⟩ | ⟨quiet, _, stays⟩
  · exact accounts.enters enters
  · simpa [Step.entered?] using accounts.drops drops
  · simpa [quiet] using accounts.stays stays

theorem accounts_after (plan : Plan) (time : Nat) (history : List Step) :
    (after plan time history).Accounts (Log.entered history) := by
  induction history using List.reverseRecOn with
  | nil =>
      have unused := plan.unused_start time
      have spans : (after plan time []).logger.spans = [] := unused.spans
      exact ⟨rfl, unused.nextSpan, by rw [spans]; rfl, .nil, by rintro _ ⟨⟩,
        by rw [spans]; exact .nil, by rw [spans]; rintro _ ⟨⟩⟩
  | append_singleton history step ih =>
      rw [after_concat, entered_concat]
      exact ih.perform step

theorem Accounts.gone (accounts : guarded.Accounts names) {guard : Nat}
    (old : guard < guarded.issued) (gone : guard ∉ guarded.live) (rest : List Step) :
    guard ∉ (guarded.performAll rest).live := by
  induction rest generalizing guarded names with
  | nil => exact gone
  | cons step rest ih =>
      rw [performAll_cons]
      rcases guarded.perform_cases step with
        ⟨name, rfl, enters⟩ | ⟨other, rfl, drops⟩ | ⟨_, _, stays⟩
      · refine ih (accounts.perform _) (by rw [enters.issued]; omega) ?_
        rw [enters.live, List.mem_append, List.mem_singleton]
        rintro (held | rfl)
        · exact gone held
        · exact Nat.lt_irrefl _ old
      · refine ih (accounts.perform _) (by rw [drops.issued]; exact old) ?_
        rw [drops.live]
        exact fun held => gone (List.mem_of_mem_erase held)
      · exact ih (accounts.perform _) (by rw [stays.issued]; exact old) (by rwa [stays.live])

theorem Accounts.mem_live_iff (accounts : guarded.Accounts names) {guard : Nat}
    (held : guard ∈ guarded.live) (rest : List Step) :
    guard ∈ (guarded.performAll rest).live ↔ .drop guard ∉ rest := by
  induction rest generalizing guarded names with
  | nil => simpa [performAll] using held
  | cons step rest ih =>
      rw [performAll_cons, List.mem_cons, not_or]
      rcases guarded.perform_cases step with
        ⟨name, rfl, enters⟩ | ⟨other, rfl, drops⟩ | ⟨_, kept, stays⟩
      · have stillHeld : guard ∈ (guarded.perform (.enter name)).live := by
          rw [enters.live]
          exact List.mem_append_left _ held
        simpa using ih (accounts.perform _) stillHeld
      · by_cases same : other = guard
        · subst other
          have gone : guard ∉ (guarded.perform (.drop guard)).live := by
            rw [drops.live]
            exact fun still => (accounts.nodup.mem_erase_iff.mp still).1 rfl
          have old : guard < (guarded.perform (.drop guard)).issued := by
            rw [drops.issued, accounts.issued]
            exact accounts.known guard held
          simp [(accounts.perform _).gone old gone rest]
        · have stillHeld : guard ∈ (guarded.perform (.drop other)).live := by
            rw [drops.live]
            exact accounts.nodup.mem_erase_iff.mpr ⟨Ne.symm same, held⟩
          simpa [Ne.symm same] using ih (accounts.perform _) stillHeld
      · have stillHeld : guard ∈ (guarded.perform step).live := by rwa [stays.live]
        simpa [Ne.symm (kept guard held)] using ih (accounts.perform _) stillHeld

theorem enters_enter (guarded : Guarded) (name : String) :
    guarded.Enters name (guarded.perform (.enter name)) :=
  ⟨rfl, rfl, rfl, rfl⟩

theorem exists_entering {history : List Step} {guard : Nat}
    (bound : guard < (Log.entered history).length) :
    ∃ before name rest, history = before ++ .enter name :: rest ∧
      guard = (Log.entered before).length := by
  induction history using List.reverseRecOn with
  | nil => exact absurd bound (Nat.not_lt_zero guard)
  | append_singleton history step ih =>
      rcases Nat.lt_or_ge guard (Log.entered history).length with older | newest
      · obtain ⟨before, name, rest, rfl, same⟩ := ih older
        exact ⟨before, name, rest ++ [step], by simp, same⟩
      · rw [entered_concat, List.length_append] at bound
        cases step with
        | enter name =>
            have one : (Step.enter name).entered?.toList.length = 1 := rfl
            exact ⟨history, name, [], rfl, by omega⟩
        | _ =>
            simp only [Step.entered?, Option.toList_none, List.length_nil] at bound
            omega

theorem after_entering (plan : Plan) (time : Nat) (before rest : List Step) (name : String) :
    after plan time (before ++ .enter name :: rest) =
      ((after plan time before).perform (.enter name)).performAll rest :=
  performAll_append _ _ _

theorem mem_live_after_iff (plan : Plan) (time : Nat) (history : List Step) (guard : Nat) :
    guard ∈ (after plan time history).live ↔
      ∃ before name rest, history = before ++ .enter name :: rest ∧
        guard = (Log.entered before).length ∧ .drop guard ∉ rest := by
  have still (before rest : List Step) (name : String) :
      (Log.entered before).length ∈ (after plan time (before ++ .enter name :: rest)).live ↔
        .drop (Log.entered before).length ∉ rest := by
    have accounts := accounts_after plan time before
    have enters := (after plan time before).enters_enter name
    rw [after_entering]
    refine (accounts.enters enters).mem_live_iff ?_ rest
    rw [enters.live, accounts.issued]
    exact List.mem_append_right _ (List.mem_singleton_self _)
  constructor
  · intro held
    obtain ⟨before, name, rest, rfl, rfl⟩ :=
      exists_entering ((accounts_after plan time history).known guard held)
    exact ⟨before, name, rest, rfl, rfl, (still before rest name).mp held⟩
  · rintro ⟨before, name, rest, rfl, rfl, kept⟩
    exact (still before rest name).mpr kept

/-- What came on top of a stack of spans and of the guards that were live with it. -/
def Above (base : List Nat) (bottom : List Span) (guarded : Guarded) : Prop :=
  ∃ newer inner, guarded.live = base ++ newer ∧ guarded.logger.spans = inner ++ bottom ∧
    inner.length = newer.length

theorem Above.perform {base : List Nat} {bottom : List Span} (above : guarded.Above base bottom)
    {step : Step} (kept : ∀ guard ∈ base, step ≠ .drop guard) :
    (guarded.perform step).Above base bottom := by
  obtain ⟨newer, inner, live, spans, same⟩ := above
  rcases guarded.perform_cases step with
    ⟨name, rfl, enters⟩ | ⟨guard, rfl, drops⟩ | ⟨_, _, stays⟩
  · refine ⟨newer ++ [guarded.issued], ⟨guarded.logger.nextSpan, name⟩ :: inner, ?_, ?_, ?_⟩
    · rw [enters.live, live, List.append_assoc]
    · rw [enters.spans, spans, List.cons_append]
    · simp [same]
  · have newerHeld : guard ∈ newer := by
      have held := drops.member
      rw [live] at held
      exact (List.mem_append.mp held).resolve_left fun old => kept guard old rfl
    obtain ⟨top, inner, rfl⟩ : ∃ top rest, inner = top :: rest := by
      refine List.exists_cons_of_length_pos ?_
      rw [same]
      exact List.length_pos_of_mem newerHeld
    refine ⟨newer.erase guard, inner, ?_, ?_, ?_⟩
    · rw [drops.live, live, List.erase_append_right _ fun old => kept guard old rfl]
    · rw [drops.spans, spans]
      rfl
    · rw [List.length_erase_of_mem newerHeld, ← same]
      rfl
  · exact ⟨newer, inner, stays.live.trans live, stays.spans.trans spans, same⟩

theorem Above.performAll {base : List Nat} {bottom : List Span}
    (above : guarded.Above base bottom) {rest : List Step}
    (kept : ∀ guard ∈ base, .drop guard ∉ rest) : (guarded.performAll rest).Above base bottom := by
  induction rest generalizing guarded with
  | nil => exact above
  | cons step rest ih =>
      refine ih (above.perform fun guard old same => ?_) fun guard old later => ?_
      · exact kept guard old (same ▸ List.mem_cons_self)
      · exact kept guard old (List.mem_cons_of_mem _ later)

def Rests (span : Span) (bottom : List Span) (guarded : Guarded) : Prop :=
  (∃ inner, guarded.logger.spans = inner ++ span :: bottom) ∨
    ∀ other ∈ guarded.logger.spans, other.number ≠ span.number

theorem Accounts.rests (accounts : guarded.Accounts names) {span : Span} {bottom : List Span}
    (old : span.number < guarded.logger.nextSpan)
    (lower : ∀ other ∈ bottom, other.number ≠ span.number) (rests : guarded.Rests span bottom)
    (rest : List Step) : (guarded.performAll rest).Rests span bottom := by
  induction rest generalizing guarded names with
  | nil => exact rests
  | cons step rest ih =>
      rw [performAll_cons]
      rcases guarded.perform_cases step with
        ⟨name, rfl, enters⟩ | ⟨guard, rfl, drops⟩ | ⟨_, _, stays⟩
      · refine ih (accounts.perform _) (by rw [enters.nextSpan]; omega) ?_
        rcases rests with ⟨inner, spans⟩ | ended
        · exact .inl ⟨⟨guarded.logger.nextSpan, name⟩ :: inner, by rw [enters.spans, spans]; rfl⟩
        · right
          intro other member
          rw [enters.spans] at member
          rcases List.mem_cons.mp member with rfl | earlier
          · exact Nat.ne_of_gt old
          · exact ended other earlier
      · refine ih (accounts.perform _) (by rw [drops.nextSpan]; exact old) ?_
        rcases rests with ⟨inner, spans⟩ | ended
        · cases inner with
          | nil =>
              right
              rw [drops.spans, spans]
              exact lower
          | cons top inner => exact .inl ⟨inner, by rw [drops.spans, spans]; rfl⟩
        · right
          intro other member
          exact ended other (List.mem_of_mem_tail (drops.spans ▸ member))
      · refine ih (accounts.perform _) (by rw [stays.nextSpan]; exact old) ?_
        rcases rests with ⟨inner, spans⟩ | ended
        · exact .inl ⟨inner, stays.spans.trans spans⟩
        · exact .inr (stays.spans ▸ ended)

theorem Accounts.older_of_newest (accounts : guarded.Accounts names) {name : String}
    {rest : List Step} (enters : guarded.Enters name later)
    (ascending : (later.performAll rest).live.Pairwise (· < ·))
    (newest : (later.performAll rest).live.getLast? = some names.length) {other : Nat}
    (still : other ∈ (later.performAll rest).live) :
    other = names.length ∨ other ∈ guarded.live ∧ .drop other ∉ rest := by
  have opening := accounts.enters enters
  have bound : other ≤ names.length := by
    obtain ⟨front, live⟩ := List.getLast?_eq_some_iff.mp newest
    rw [live, List.pairwise_append] at ascending
    rw [live] at still
    rcases List.mem_append.mp still with older | last
    · exact Nat.le_of_lt (ascending.2.2 other older _ (List.mem_singleton_self _))
    · exact Nat.le_of_eq (List.mem_singleton.mp last)
  rcases Nat.eq_or_lt_of_le bound with same | less
  · exact .inl same
  · have held : other ∈ guarded.live := by
      by_contra absent
      refine opening.gone ?_ ?_ rest still
      · rw [opening.issued, List.length_append]
        omega
      · rw [enters.live, accounts.issued, List.mem_append, List.mem_singleton]
        rintro (older | same)
        · exact absent older
        · exact Nat.ne_of_lt less same
    have opened : other ∈ later.live := enters.live ▸ List.mem_append_left _ held
    exact .inr ⟨held, (opening.mem_live_iff opened rest).mp still⟩

section

variable (plan : Plan) (time : Nat) (before rest : List Step) (name : String)

theorem innermost?_of_kept
    (newest : (after plan time (before ++ .enter name :: rest)).live.getLast? =
      some (Log.entered before).length)
    (kept : ∀ guard ∈ (after plan time before).live, .drop guard ∉ rest) :
    (after plan time (before ++ .enter name :: rest)).innermost? =
      some ⟨(Log.entered before).length + 1, name⟩ := by
  have accounts := accounts_after plan time before
  have final := accounts_after plan time (before ++ .enter name :: rest)
  rw [after_entering] at newest final ⊢
  have enters := (after plan time before).enters_enter name
  generalize (after plan time before).perform (.enter name) = opened at newest final enters ⊢
  have opening : opened.live = (after plan time before).live ++ [(Log.entered before).length] := by
    rw [enters.live, accounts.issued]
  have above : opened.Above opened.live opened.logger.spans := ⟨[], [], by simp, rfl, rfl⟩
  have own : (Log.entered before).length ∈ opened.live := by
    rw [opening]
    exact List.mem_append_right _ (List.mem_singleton_self _)
  have keptAll : ∀ guard ∈ opened.live, .drop guard ∉ rest := by
    intro guard held
    rw [opening] at held
    rcases List.mem_append.mp held with older | same
    · exact kept guard older
    · rw [List.mem_singleton.mp same]
      exact ((accounts.enters enters).mem_live_iff own rest).mp (List.mem_of_getLast? newest)
  obtain ⟨newer, inner, live, spans, same⟩ := above.performAll keptAll
  -- A guard on top of the newest one would be newer still.
  have nothing : newer = [] := by
    rcases List.eq_nil_or_concat newer with none | ⟨front, last, rfl⟩
    · exact none
    · have ascending := final.ascending
      rw [live, List.concat_eq_append, ← List.append_assoc, List.getLast?_concat] at newest
      rw [live, List.pairwise_append] at ascending
      have less := ascending.2.2 _ own last (by simp)
      rw [Option.some.inj newest] at less
      exact absurd less (Nat.lt_irrefl _)
  subst nothing
  have none : inner = [] := List.eq_nil_of_length_eq_zero same
  simp [innermost?, spans, none, enters.spans, accounts.nextSpan]

/-- The newest guard's own span is innermost exactly if no older guard was given up after it
came. -/
theorem innermost?_eq_iff
    (newest : (after plan time (before ++ .enter name :: rest)).live.getLast? =
      some (Log.entered before).length) :
    (after plan time (before ++ .enter name :: rest)).innermost? =
        some ⟨(Log.entered before).length + 1, name⟩ ↔
      ∀ guard ∈ (after plan time before).live, .drop guard ∉ rest := by
  refine ⟨fun innermost guard held dropped => ?_,
    innermost?_of_kept plan time before rest name newest⟩
  have accounts := accounts_after plan time before
  have final := accounts_after plan time (before ++ .enter name :: rest)
  rw [after_entering] at newest final innermost
  have enters := (after plan time before).enters_enter name
  generalize (after plan time before).perform (.enter name) = opened
    at newest final innermost enters
  have opening := accounts.enters enters
  -- The span is still there, so everything that was open below it is, too.
  have deep : (after plan time before).live.length + 1 ≤ (opened.performAll rest).live.length := by
    have start : opened.Rests ⟨(Log.entered before).length + 1, name⟩
        (after plan time before).logger.spans := by
      left
      exact ⟨[], by rw [enters.spans, accounts.nextSpan]; rfl⟩
    have fresh : (Log.entered before).length + 1 < opened.logger.nextSpan := by
      rw [enters.nextSpan, accounts.nextSpan]
      exact Nat.lt_succ_self _
    have rests := opening.rests fresh
      (fun other member => Nat.ne_of_lt (accounts.number_lt member)) start rest
    rcases rests with ⟨inner, spans⟩ | ended
    · rw [← final.balanced, spans, List.length_append, List.length_cons, accounts.balanced]
      omega
    · exact absurd rfl (ended _ (List.mem_of_head? innermost))
  -- But of the older guards one is gone, and none is newer.
  have few : (opened.performAll rest).live.length ≤ (after plan time before).live.length := by
    have within : (opened.performAll rest).live ⊆
        (Log.entered before).length :: (after plan time before).live.erase guard := by
      intro other still
      rcases accounts.older_of_newest enters final.ascending newest still with rfl | ⟨old, kept⟩
      · exact List.mem_cons_self
      · refine List.mem_cons_of_mem _ (accounts.nodup.mem_erase_iff.mpr ⟨?_, old⟩)
        rintro rfl
        exact kept dropped
    have length := (final.nodup.subperm within).length_le
    rw [List.length_cons, List.length_erase_of_mem held] at length
    have some : 0 < (after plan time before).live.length := List.length_pos_of_mem held
    omega
  omega

end

/-- Guards are given up newest first. -/
def Nested (plan : Plan) (time : Nat) (history : List Step) : Prop :=
  ∀ before guard rest, history = before ++ .drop guard :: rest →
    guard ∈ (after plan time before).live → (after plan time before).live.getLast? = some guard

theorem Nested.front {plan : Plan} {time : Nat} {history : List Step} {step : Step}
    (nested : Nested plan time (history ++ [step])) : Nested plan time history := by
  rintro before guard rest rfl held
  exact nested before guard (rest ++ [step]) (by simp) held

theorem spans_of_nested {plan : Plan} {time : Nat} {history : List Step}
    (nested : Nested plan time history) :
    (after plan time history).logger.spans.map Span.number =
      ((after plan time history).live.map (· + 1)).reverse := by
  induction history using List.reverseRecOn with
  | nil =>
      have spans : (after plan time []).logger.spans = [] := (plan.unused_start time).spans
      rw [spans]
      rfl
  | append_singleton history step ih =>
      have same := ih nested.front
      have accounts := accounts_after plan time history
      rw [after_concat]
      rcases (after plan time history).perform_cases step with
        ⟨name, rfl, enters⟩ | ⟨guard, rfl, drops⟩ | ⟨_, _, stays⟩
      · rw [enters.spans, enters.live, List.map_cons, same, accounts.nextSpan, accounts.issued]
        simp
      · obtain ⟨front, live⟩ :=
          List.getLast?_eq_some_iff.mp (nested history guard [] rfl drops.member)
        have once : guard ∉ front := by
          have nodup := accounts.nodup
          rw [live] at nodup
          exact fun older => (List.nodup_append.mp nodup).2.2 guard older guard (by simp) rfl
        rw [drops.spans, drops.live, List.map_tail, same, live, List.erase_append_right _ once]
        simp
      · rw [stays.spans, stays.live, same]

/-- How spans, guards and the tags of records hang together after a history. -/
structure SpansFollow (plan : Plan) (time : Nat) (history : List Step) : Prop where
  depth : (after plan time history).logger.depth = (after plan time history).live.length
  live : ∀ guard, guard ∈ (after plan time history).live ↔
    ∃ before name rest, history = before ++ .enter name :: rest ∧
      guard = (Log.entered before).length ∧ .drop guard ∉ rest
  current : (after plan time history).logger.currentSpan =
    (after plan time history).innermost?.map Span.name
  outside : (after plan time history).innermost? = none ↔ (after plan time history).live = []
  tagged : ∀ sink, ∀ record ∈ (after plan time history).logger.received sink,
    ∃ before level target message rest,
      history = before ++ .log level target message :: rest ∧
        record = ⟨time, level, target, message,
          (after plan time before).innermost?.map Span.number⟩
  /-- Open spans are among those entered, the latest first. -/
  opened : (after plan time history).logger.spans.Pairwise
      (fun inner outer => outer.number < inner.number) ∧
    ∀ span ∈ (after plan time history).logger.spans, ∃ guard,
      (Log.entered history)[guard]? = some span.name ∧ span.number = guard + 1
  ends : ∀ guard ∈ (after plan time history).live,
    ((after plan time history).drop guard).logger.spans =
      (after plan time history).logger.spans.tail
  newest : ∀ before name rest, history = before ++ .enter name :: rest →
    (after plan time history).live.getLast? = some (Log.entered before).length →
      ((after plan time history).innermost? = some ⟨(Log.entered before).length + 1, name⟩ ↔
        ∀ guard ∈ (after plan time before).live, .drop guard ∉ rest)
  nested : Nested plan time history →
    (after plan time history).logger.spans.map Span.number =
      ((after plan time history).live.map (· + 1)).reverse

theorem spans_follow (plan : Plan) (time : Nat) (history : List Step) :
    SpansFollow plan time history where
  depth := (accounts_after plan time history).balanced
  live := mem_live_after_iff plan time history
  current := rfl
  outside := by
    have balanced := (accounts_after plan time history).balanced
    rw [innermost?, List.head?_eq_none_iff, ← List.length_eq_zero_iff, balanced,
      List.length_eq_zero_iff]
  tagged := by
    intro sink record member
    obtain ⟨before, level, target, message, rest, rfl, rfl⟩ := received_after member
    refine ⟨before, level, target, message, rest, rfl, ?_⟩
    simp only [Logger.recordOf, time_after, innermost?]
  opened := ⟨(accounts_after plan time history).innermostFirst,
    (accounts_after plan time history).entered⟩
  ends := by
    intro guard held
    rcases (after plan time history).perform_cases (.drop guard) with
      ⟨name, impossible, _⟩ | ⟨other, _, drops⟩ | ⟨_, kept, _⟩
    · cases impossible
    · exact drops.spans
    · exact absurd rfl (kept guard held)
  newest := by
    rintro before name rest rfl newest
    exact innermost?_eq_iff plan time before rest name newest
  nested := spans_of_nested

theorem currentSpan_of_outer_first :
    (after Plan.quiet 0 [.enter "outer", .enter "inner", .drop 0]).live = [1] ∧
      (after Plan.quiet 0 [.enter "outer", .enter "inner", .drop 0]).logger.currentSpan =
        some "outer" ∧
      ¬ ∀ plan time history, (after plan time history).logger.currentSpan =
        (after plan time history).live.getLast?.bind fun guard =>
          (Log.entered history)[guard]? := by
  refine ⟨by decide, by decide, fun always => ?_⟩
  exact absurd (always Plan.quiet 0 [.enter "outer", .enter "inner", .drop 0]) (by decide)

end Guarded

end Log

end Bootstrap
