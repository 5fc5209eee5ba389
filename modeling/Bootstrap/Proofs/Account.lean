import Bootstrap.Proofs.Determinism

/-!
What a step of a run does apart from logging: to the cells, to the entries and to the ledger of what
the collaborators were asked for, while no engine is in use between steps.
-/

namespace Bootstrap

structure Account where
  cells : Cells
  entries : List Entry
  events : List Event

namespace Account

def ask (account : Account) (events : List Event) : Account :=
  { account with events := account.events ++ events }

def enter (account : Account) (entries : List Entry) : Account :=
  { account with entries := account.entries ++ entries }

@[simp] theorem ask_nil (account : Account) : account.ask [] = account := by
  simp [ask]

@[simp] theorem enter_nil (account : Account) : account.enter [] = account := by
  simp [enter]

@[simp] theorem ask_ask (account : Account) (first second : List Event) :
    (account.ask first).ask second = account.ask (first ++ second) := by
  simp [ask]

@[simp] theorem enter_enter (account : Account) (first second : List Entry) :
    (account.enter first).enter second = account.enter (first ++ second) := by
  simp [enter]

theorem ask_enter (account : Account) (events : List Event) (entries : List Entry) :
    (account.enter entries).ask events = (account.ask events).enter entries :=
  rfl

end Account

variable {World Engine State Value α β : Type}

def Session.Shows (Fits : World → Ledger Engine State → Prop) (session : Session World)
    (account : Account) : Prop :=
  session.cells = account.cells ∧ session.entries = account.entries ∧
    Fits session.world (.opened account.events)

namespace Environment.LogsApart

variable {env : Environment World Engine Value} {Fits : World → Ledger Engine State → Prop}

theorem flush (apart : env.LogsApart Fits) (logger : Log.Logger) {world : World}
    {ledger : Ledger Engine State} (fits : Fits world ledger) :
    Fits (logger.flush env.append world).2 ledger := by
  unfold Log.Logger.flush
  dsimp only
  generalize logger.outbox = outbox
  induction outbox generalizing world with
  | nil => exact fits
  | cons delivery rest ih => exact ih (apart _ _ _ _ fits)

theorem respects (apart : env.LogsApart Fits) (session : Session World) :
    Journal.Respects (session.journal env) Fits :=
  fun _ _ _ fits => apart.flush _ fits

end Environment.LogsApart

/-- Begun in a session that shows an account, a step ends with an answer and in a session that shows
another account, as `outcome` says. -/
def Run.Takes (Fits : World → Ledger Engine State → Prop) (account : Account)
    (step : Run World α) (outcome : α → Account → Prop) : Prop :=
  ∀ session : Session World, session.Shows Fits account →
    ∃ after, outcome (step session).1 after ∧ (step session).2.Shows Fits after

namespace Run.Takes

variable {Fits : World → Ledger Engine State → Prop} {account : Account}

theorem pure {answer : α} {outcome : α → Account → Prop} (holds : outcome answer account) :
    Takes Fits account (Pure.pure answer) outcome :=
  fun _ shows => ⟨account, holds, shows⟩

theorem bind {first : Run World α} {next : α → Run World β} {middle : α → Account → Prop}
    {outcome : β → Account → Prop} (begins : Takes Fits account first middle)
    (goes : ∀ answer after, middle answer after → Takes Fits after (next answer) outcome) :
    Takes Fits account (first >>= next) outcome := by
  intro session shows
  obtain ⟨after, held, showsAfter⟩ := begins session shows
  exact goes _ after held _ showsAfter

theorem mono {step : Run World α} {strong weak : α → Account → Prop}
    (takes : Takes Fits account step strong)
    (weaker : ∀ answer after, strong answer after → weak answer after) :
    Takes Fits account step weak := by
  intro session shows
  obtain ⟨after, held, showsAfter⟩ := takes session shows
  exact ⟨after, weaker _ after held, showsAfter⟩

theorem look : Takes Fits account (get : Run World (Session World))
    fun session after => after = account ∧ session.cells = account.cells :=
  fun _ shows => ⟨account, ⟨rfl, shows.1⟩, shows⟩

theorem change {update : Session World → Session World} (other : Account)
    (changes : ∀ session : Session World, session.Shows Fits account →
      (update session).Shows Fits other) :
    Takes Fits account (modify update : Run World PUnit) fun _ after => after = other :=
  fun session shows => ⟨other, rfl, changes session shows⟩

theorem push (entry : Entry) :
    Takes Fits account (Run.push entry) fun _ after => after = account.enter [entry] :=
  change (account.enter [entry]) fun _ shows =>
    ⟨shows.1, congrArg (· ++ [entry]) shows.2.1, shows.2.2⟩

variable {env : Environment World Engine Value}

theorem say (apart : env.LogsApart Fits) (level : Log.Level) (target message : String) :
    Takes Fits account (Run.say env level target message) fun _ after => after = account :=
  change account fun _ shows => ⟨shows.1, shows.2.1, apart.flush _ shows.2.2⟩

theorem perform (apart : env.LogsApart Fits) {action : Act World α} {outcome : α → Account → Prop}
    (takes : Act.Takes Fits (.opened account.events) action fun answer ledger =>
      ∃ events, ledger = .opened events ∧ outcome answer { account with events := events }) :
    Takes Fits account (Run.perform env action) outcome := by
  intro session shows
  obtain ⟨_, ⟨events, rfl, held⟩, fits⟩ :=
    takes (session.journal env) (apart.respects session) session.world shows.2.2
  exact ⟨{ account with events := events }, held, shows.1, shows.2.1, fits⟩

theorem ask (apart : env.LogsApart Fits) {action : Act World α} {Gives : α → Prop}
    {asked : α → List Event}
    (takes : ∀ ledger, Act.Takes Fits ledger action fun answer after =>
      Gives answer ∧ after = ledger.add (asked answer)) :
    Takes Fits account (Run.perform env action) fun answer after =>
      Gives answer ∧ after = account.ask (asked answer) := by
  refine perform apart ((takes _).mono ?_)
  rintro answer _ ⟨gives, rfl⟩
  exact ⟨account.events ++ asked answer, rfl, gives, rfl⟩

theorem relog (update : Log.Logger → Log.Logger) :
    Takes Fits account
      (modify fun session => { session with logger := update session.logger } : Run World PUnit)
      fun _ after => after = account :=
  change account fun _ shows => shows

theorem within {name : String} {step : Run World α} {outcome : α → Account → Prop}
    (takes : Takes Fits account step outcome) :
    Takes Fits account (Run.within name step) outcome := by
  refine bind (relog fun logger => logger.enter name) ?_
  rintro _ _ rfl
  refine bind takes fun answer after held => ?_
  refine bind (relog Log.Logger.leave) ?_
  rintro _ _ rfl
  exact pure held

end Run.Takes

end Bootstrap
