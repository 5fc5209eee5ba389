import Bootstrap.Proofs.Determinism

/-!
Environments that write down what they are asked for. Apart from the record they answer like the
environments they record.
-/

namespace Bootstrap

variable {World Engine State Value α : Type}

def Act.recording (action : Act World α) (events : α → List Event) : Act (World × List Event) α :=
  fun journal world =>
    let reply := action (fun note inner => (journal note (inner, world.2)).1) world.1
    ⟨reply.answer, reply.notes, (reply.world, world.2 ++ events reply.answer)⟩

def Files.recorded (files : Files World) : Files (World × List Event) where
  read := fun path => (files.read path).recording fun answer => [.read path answer]
  isFile := fun path => (files.isFile path).recording fun _ => []
  list := fun path => (files.list path).recording fun _ => []

def EngineKit.recorded (kit : EngineKit World Engine Value) :
    EngineKit (World × List Event) Engine Value where
  instantiate := kit.instantiate.recording fun _ => [.engine]
  bindInput := kit.bindInput
  clearOutput := kit.clearOutput
  output := kit.output
  load := fun module engine => (kit.load module engine).recording fun _ => []
  invoke := fun exportName engine => (kit.invoke exportName engine).recording fun _ => []
  marshal := kit.marshal
  release := fun engine => (kit.release engine).recording fun _ => []

def Environment.recorded (env : Environment World Engine Value) :
    Environment (World × List Event) Engine Value where
  files := env.files.recorded
  host := fun unit => (env.host unit).recording fun _ => [.host unit]
  engines := env.engines.recorded
  append := fun handle line world => (env.append handle line world.1, world.2)

/-- Worlds that fit whatever has been asked for, if they hold the engines in use. -/
def Uncounted (Holds : World → List (Engine × State) → Prop) (world : World)
    (ledger : Ledger Engine State) : Prop :=
  Holds world ledger.live

structure Recorded (Holds : World → List (Engine × State) → Prop) (world : World × List Event)
    (ledger : Ledger Engine State) : Prop where
  record : world.2 = ledger.events
  holds : Holds world.1 ledger.live

variable {Holds : World → List (Engine × State) → Prop} {ledger : Ledger Engine State}

theorem Ledger.eq_of_live {after : Ledger Engine State} {events : List Event}
    {live : List (Engine × State)} (first : after.events = events) (second : after.live = live) :
    after = ⟨events, live⟩ := by
  rw [← first, ← second]

theorem Act.Takes.recording {action : Act World α} (events : α → List Event)
    (outcome : α → List (Engine × State) → Prop)
    (takes : Act.Takes (Uncounted Holds) ledger action fun answer after =>
      outcome answer after.live) :
    Act.Takes (Recorded Holds) ledger (action.recording events) fun answer after =>
      after.events = ledger.events ++ events answer ∧ outcome answer after.live := by
  rintro journal respects ⟨inner, record⟩ ⟨recordEq, holds⟩
  have kept : Journal.Respects (fun note inner => (journal note (inner, record)).1)
      (Uncounted Holds : World → Ledger Engine State → Prop) := by
    intro note world other held
    exact (respects note (world, record) ⟨record, other.live⟩ ⟨rfl, held⟩).holds
  obtain ⟨after, held, fits⟩ := takes _ kept inner holds
  exact ⟨⟨record ++ events _, after.live⟩, ⟨by rw [← recordEq]; rfl, held⟩, rfl, fits⟩

variable {env : Environment World Engine Value} {oracle : Oracle State Value}
  {MayRead : Path → Except FileError Bytes → Prop}

theorem Deterministic.recorded
    (deterministic : Deterministic env oracle MayRead (Uncounted Holds)) :
    Deterministic env.recorded oracle MayRead (Recorded Holds) where
  logsApart := fun handle line world ledger fits =>
    ⟨fits.record, deterministic.logsApart handle line world.1 ledger fits.holds⟩
  read := by
    intro path ledger
    refine (Act.Takes.recording (fun answer => [.read path answer])
      (fun answer live => MayRead path answer ∧ live = ledger.live)
      ((deterministic.read path ledger).mono ?_)).mono ?_
    · rintro _ _ ⟨may, rfl⟩
      exact ⟨may, rfl⟩
    · rintro _ after ⟨events, may, live⟩
      exact ⟨may, Ledger.eq_of_live events live⟩
  host := by
    intro unit ledger
    refine (Act.Takes.recording (fun _ => [.host unit])
      (fun answer live => answer = oracle.host unit ∧ live = ledger.live)
      ((deterministic.host unit ledger).mono ?_)).mono ?_
    · rintro _ _ ⟨answer, rfl⟩
      exact ⟨answer, rfl⟩
    · rintro _ after ⟨events, answer, live⟩
      exact ⟨answer, Ledger.eq_of_live events live⟩
  instantiate := by
    intro ledger
    have instantiated := deterministic.instantiate ledger
    cases begins : oracle.instantiate with
    | error fault =>
        simp only [begins] at instantiated
        refine (Act.Takes.recording (fun _ => [.engine])
          (fun answer live => answer = .error fault ∧ live = ledger.live)
          (instantiated.mono ?_)).mono ?_
        · rintro _ _ ⟨answer, rfl⟩
          exact ⟨answer, rfl⟩
        · rintro _ after ⟨events, answer, live⟩
          exact ⟨answer, Ledger.eq_of_live events live⟩
    | ok state =>
        simp only [begins] at instantiated
        refine (Act.Takes.recording (fun _ => [.engine])
          (fun answer live => ∃ engine, answer = .ok engine ∧ live = (engine, state) :: ledger.live)
          (instantiated.mono ?_)).mono ?_
        · rintro _ _ ⟨engine, answer, rfl⟩
          exact ⟨engine, answer, rfl⟩
        · rintro _ after ⟨events, engine, answer, live⟩
          exact ⟨engine, answer, Ledger.eq_of_live events live⟩
  bindInput := fun input engine state world ledger fits =>
    ⟨fits.record, deterministic.bindInput input engine state world.1 ledger fits.holds⟩
  clearOutput := fun engine state world ledger fits =>
    ⟨fits.record, deterministic.clearOutput engine state world.1 ledger fits.holds⟩
  output := fun engine state world ledger fits =>
    deterministic.output engine state world.1 ledger fits.holds
  marshal := fun engine state value world ledger fits =>
    deterministic.marshal engine state value world.1 ledger fits.holds
  load := by
    intro module engine state ledger
    refine (Act.Takes.recording (fun _ => [])
      (fun answer live => answer.1 = (oracle.load module state).1 ∧
        live = (answer.2, (oracle.load module state).2) :: ledger.live)
      ((deterministic.load module engine state ledger).mono ?_)).mono ?_
    · rintro _ _ ⟨answer, rfl⟩
      exact ⟨answer, rfl⟩
    · rintro _ after ⟨events, answer, live⟩
      exact ⟨answer, Ledger.eq_of_live (events.trans (List.append_nil _)) live⟩
  invoke := by
    intro exportName engine state ledger
    refine (Act.Takes.recording (fun _ => [])
      (fun answer live => answer.1 = (oracle.invoke exportName state).1 ∧
        live = (answer.2, (oracle.invoke exportName state).2) :: ledger.live)
      ((deterministic.invoke exportName engine state ledger).mono ?_)).mono ?_
    · rintro _ _ ⟨answer, rfl⟩
      exact ⟨answer, rfl⟩
    · rintro _ after ⟨events, answer, live⟩
      exact ⟨answer, Ledger.eq_of_live (events.trans (List.append_nil _)) live⟩
  release := by
    intro engine state ledger
    refine (Act.Takes.recording (fun _ => []) (fun _ live => live = ledger.live)
      ((deterministic.release engine state ledger).mono ?_)).mono ?_
    · rintro _ _ rfl
      rfl
    · rintro _ after ⟨events, live⟩
      exact Ledger.eq_of_live (events.trans (List.append_nil _)) live

end Bootstrap
