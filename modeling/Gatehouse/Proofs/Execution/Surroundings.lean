import Gatehouse.Proofs.Execution.Keeping
import Gatehouse.Simulation

/-!
# Routines in their surroundings

Between two steps of a routine its surroundings may act: routines in the
background take steps, maps begin to be written back, and the world outside
changes what is its own. This module says what becomes of a routine then, in
every order of these acts, and that the invariants which routine and
surroundings keep hold throughout.
-/

namespace Gatehouse

/-- Every step that a routine takes in a state of some kind leads to another one
of that kind, by one of the moves that are allowed. -/
def Routine.Confined {σ α : Type} (kind : σ → Prop) (moves : σ → σ → Prop) : Routine σ α → Prop
  | .done _ => True
  | .step wait act next =>
      ∀ state, kind state → wait.ready state = true →
        kind (act state) ∧ moves state (act state) ∧ (next state).Confined kind moves

namespace Routine

variable {σ α β : Type} {kind : σ → Prop} {moves : σ → σ → Prop}

theorem confined_after {wait : Wait σ} {act : σ → α × σ}
    (step : ∀ state, kind state → kind (act state).2 ∧ moves state (act state).2) :
    (after wait act).Confined kind moves :=
  fun state among _ => ⟨(step state among).1, (step state among).2, trivial⟩

theorem confined_bind {routine : Routine σ α} {next : α → Routine σ β}
    (first : routine.Confined kind moves) (rest : ∀ value, (next value).Confined kind moves) :
    (routine.bind next).Confined kind moves := by
  induction routine with
  | done value => exact rest value
  | step wait act further ih =>
      intro state among ready
      have stepped := first state among ready
      exact ⟨stepped.1, stepped.2.1, ih state stepped.2.2⟩

/-- A call of a store is as confined as counting the call and answering it. -/
theorem confined_callStore {operation : String} {limit : Span} {backend : Backend}
    {act : Site → Except StoreFault α × Site} {kind : Site → Prop} {moves : Site → Site → Prop}
    (counted : ∀ site, kind site → kind (site.countCall backend) ∧
      moves site (site.countCall backend))
    (still : ∀ site, moves site site)
    (acted : ∀ site, kind site → kind (act site).2 ∧ moves site (act site).2) :
    (callStore operation limit backend act).toRoutine.Confined kind moves := by
  intro called among _
  refine ⟨(counted called among).1, (counted called among).2, ?_⟩
  apply confined_after
  intro site among
  split
  · exact ⟨among, still site⟩
  · cases (called.conditions backend).failure with
    | some fault => exact ⟨among, still site⟩
    | none => exact acted site among

end Routine

namespace Simulation

variable {permissions : Permissions} {outside : Site → Site → Prop} {α : Type}

/-- One act of the surroundings. -/
inductive Drifts (permissions : Permissions) (outside : Site → Site → Prop) :
    Simulation → Simulation → Prop where
  | outside {site other : Site} (background : List (Routine Site Unit))
      (acts : outside site other) :
      Drifts permissions outside ⟨site, background⟩ ⟨other, background⟩
  | writeBacks (simulation : Simulation) :
      Drifts permissions outside simulation (simulation.startWriteBacks permissions)
  | background {site : Site} {wait : Wait Site} (act : Site → Site)
      (next : Site → Routine Site Unit) (front back : List (Routine Site Unit))
      (ready : wait.ready site = true) :
      Drifts permissions outside ⟨site, front ++ .step wait act next :: back⟩
        ⟨act site, front ++ next site :: back⟩
  | finish (site : Site) (front back : List (Routine Site Unit)) :
      Drifts permissions outside ⟨site, front ++ .done () :: back⟩ ⟨site, front ++ back⟩

/-- A routine is carried on, as far as what is left of it, while its surroundings
act. -/
inductive Advances (permissions : Permissions) (outside : Site → Site → Prop) :
    Routine Site α → Simulation → Routine Site α → Simulation → Prop where
  | start (routine : Routine Site α) (simulation : Simulation) :
      Advances permissions outside routine simulation routine simulation
  | drift {routine left : Routine Site α} {before between after : Simulation}
      (advances : Advances permissions outside routine before left between)
      (drifts : Drifts permissions outside between after) :
      Advances permissions outside routine before left after
  | step {routine : Routine Site α} {before after : Simulation} {wait : Wait Site}
      {act : Site → Site} {next : Site → Routine Site α}
      (advances : Advances permissions outside routine before (.step wait act next) after)
      (ready : wait.ready after.site = true) :
      Advances permissions outside routine before (next after.site)
        ⟨act after.site, after.background⟩

/-! ## The scheduler -/

section Scheduler

variable {routine middle left : Routine Site α} {before between after : Simulation}

theorem Advances.trans (first : Advances permissions outside routine before middle between)
    (second : Advances permissions outside middle between left after) :
    Advances permissions outside routine before left after := by
  induction second with
  | start => exact first
  | drift advances drifts ih => exact .drift (ih first) drifts
  | step advances ready ih => exact .step (ih first) ready

theorem advances_settle (routine : Routine Site α) (site : Site)
    (background : List (Routine Site Unit)) :
    Advances permissions outside routine ⟨site, background⟩ (routine.settle site).1
      ⟨(routine.settle site).2, background⟩ := by
  induction routine generalizing site with
  | done value => exact .start _ _
  | step wait act next ih =>
      rw [Routine.settle]
      split
      · next ready =>
          have stepped : Advances permissions outside (.step wait act next) ⟨site, background⟩
              (next site) ⟨act site, background⟩ := .step (.start _ _) ready
          exact stepped.trans (ih site (act site))
      · exact .start _ _

/-- A routine in the background goes on as the surroundings of another one. -/
theorem advances_settle_background (left : Routine Site α) (routine : Routine Site Unit)
    (site : Site) (front back : List (Routine Site Unit)) :
    Advances permissions outside left ⟨site, front ++ routine :: back⟩ left
      ⟨(routine.settle site).2, front ++ (routine.settle site).1 :: back⟩ := by
  induction routine generalizing site with
  | done value => exact .start _ _
  | step wait act next ih =>
      rw [Routine.settle]
      split
      · next ready =>
          have stepped : Advances permissions outside left
              ⟨site, front ++ .step wait act next :: back⟩ left
              ⟨act site, front ++ next site :: back⟩ :=
            .drift (.start _ _) (.background act next front back ready)
          exact stepped.trans (ih site (act site))
      · exact .start _ _

theorem advances_settleAll (left : Routine Site α) (site : Site)
    (front back : List (Routine Site Unit)) :
    Advances permissions outside left ⟨site, front ++ back⟩ left
      ⟨(settleAll back site).2, front ++ (settleAll back site).1⟩ := by
  induction back generalizing site front with
  | nil => exact .start _ _
  | cons routine rest ih =>
      have settled : Advances permissions outside left ⟨site, front ++ routine :: rest⟩ left
          ⟨(routine.settle site).2, front ++ (routine.settle site).1 :: rest⟩ :=
        advances_settle_background left routine site front rest
      have others := ih (routine.settle site).2 (front ++ [(routine.settle site).1])
      rw [List.append_assoc, List.append_assoc, List.singleton_append, List.singleton_append]
        at others
      exact settled.trans others

theorem advances_over (left : Routine Site α) (site : Site)
    (front back : List (Routine Site Unit)) :
    Advances permissions outside left ⟨site, front ++ back⟩ left
      ⟨site, front ++ back.filter fun routine => routine.result?.isNone⟩ := by
  induction back generalizing front with
  | nil => exact .start _ _
  | cons routine rest ih =>
      cases routine with
      | done value =>
          have gone : Advances permissions outside left ⟨site, front ++ .done value :: rest⟩ left
              ⟨site, front ++ rest⟩ := .drift (.start _ _) (.finish site front rest)
          exact gone.trans (ih front)
      | step wait act next =>
          have others := ih (front ++ [.step wait act next])
          rw [List.append_assoc, List.append_assoc] at others
          exact others

theorem advances_settleBackground (left : Routine Site α) (simulation : Simulation) :
    Advances permissions outside left simulation left
      (simulation.settleBackground permissions) := by
  have started : Advances permissions outside left simulation left
      (simulation.startWriteBacks permissions) := .drift (.start _ _) (.writeBacks simulation)
  exact (started.trans (advances_settleAll left _ [] _)).trans (advances_over left _ [] _)

/-- A routine and the background after each went on until it had to wait. -/
def settled (permissions : Permissions) (routine : Routine Site α) (simulation : Simulation) :
    Simulation :=
  settleBackground permissions ⟨(routine.settle simulation.site).2, simulation.background⟩

theorem runFor_succ (permissions : Permissions) (fuel : Nat) (routine : Routine Site α)
    (simulation : Simulation) :
    runFor permissions (fuel + 1) [routine] simulation =
        ([(routine.settle simulation.site).1], settled permissions routine simulation) ∨
      (∃ instant, runFor permissions (fuel + 1) [routine] simulation =
        runFor permissions fuel [(routine.settle simulation.site).1]
          { settled permissions routine simulation with
            site := { (settled permissions routine simulation).site with clock := instant } }) ∨
      runFor permissions (fuel + 1) [routine] simulation =
        runFor permissions fuel [(routine.settle simulation.site).1]
          (settled permissions routine simulation) := by
  generalize made : runFor permissions (fuel + 1) [routine] simulation = outcome
  rw [runFor] at made
  dsimp only [settleAll] at made
  by_cases finished :
      ([(routine.settle simulation.site).1].all fun routine => routine.result?.isSome) = true
  · rw [if_pos finished] at made
    exact .inl made.symm
  · rw [if_neg finished] at made
    split at made
    · exact .inr (.inl ⟨_, made.symm⟩)
    · exact .inr (.inr made.symm)

/-- Where time may pass, what the scheduler makes of a routine is one of the ways
in which it can be carried on. -/
theorem advances_runFor (passes : ∀ site instant, outside site { site with clock := instant })
    (fuel : Nat) (routine : Routine Site α) (simulation : Simulation) :
    ∃ left, (runFor permissions fuel [routine] simulation).1 = [left] ∧
      Advances permissions outside routine simulation left
        (runFor permissions fuel [routine] simulation).2 := by
  induction fuel generalizing routine simulation with
  | zero => exact ⟨routine, rfl, .start _ _⟩
  | succ fuel ih =>
      have advances : Advances permissions outside routine simulation
          (routine.settle simulation.site).1 (settled permissions routine simulation) :=
        (advances_settle routine simulation.site simulation.background).trans
          (advances_settleBackground _ _)
      rcases runFor_succ permissions fuel routine simulation with
        finished | ⟨instant, jumped⟩ | went
      · rw [finished]
        exact ⟨_, rfl, advances⟩
      · have passed := passes (settled permissions routine simulation).site instant
        rcases ih (routine.settle simulation.site).1
          { settled permissions routine simulation with
            site := { (settled permissions routine simulation).site with clock := instant } }
          with ⟨left, same, further⟩
        rw [jumped]
        exact ⟨left, same, (Advances.drift advances (.outside _ passed)).trans further⟩
      · rcases ih (routine.settle simulation.site).1 (settled permissions routine simulation)
          with ⟨left, same, further⟩
        rw [went]
        exact ⟨left, same, advances.trans further⟩

/-- The scheduler carries a routine on in one of the ways in which surroundings
allow it. -/
theorem advances_run (passes : ∀ site instant, outside site { site with clock := instant })
    (routine : Routine Site α) (simulation : Simulation) :
    ∃ left, (run permissions [routine] simulation).1 = [left.result?] ∧
      Advances permissions outside routine simulation left
        (run permissions [routine] simulation).2 := by
  rcases advances_runFor passes (jumps 1 simulation.background.length) routine simulation with
    ⟨left, same, advances⟩
  refine ⟨left, ?_, advances⟩
  change ((runFor permissions (jumps 1 simulation.background.length) [routine] simulation).1.map
    Routine.result?) = _
  rw [same]
  rfl

end Scheduler

/-! ## Invariants -/

section Invariants

variable {kind invariant : Site → Prop} {moves : Site → Site → Prop}

/-- The state is of some kind, and the routines in the background keep to moves
among the states of that kind. -/
structure Confined (kind : Site → Prop) (moves : Site → Site → Prop)
    (simulation : Simulation) : Prop where
  site : kind simulation.site
  background : ∀ routine ∈ simulation.background, routine.Confined kind moves

/-- The world outside keeps to states of a kind, and so does writing maps back. -/
structure Surrounds (permissions : Permissions) (outside : Site → Site → Prop)
    (kind : Site → Prop) (moves : Site → Site → Prop) : Prop where
  outside : ∀ site other, kind site → outside site other → kind other
  writeBacks : ∀ site, kind site → kind { site with writeBacks := [] } ∧
    moves site { site with writeBacks := [] } ∧
      ∀ map ∈ site.writeBacks, (permissions.writeBack map).Confined kind moves

/-- An act of the surroundings leaves the simulation as confined as it was, and
comes to a move or to an act of the world outside. -/
theorem Confined.drifts {before after : Simulation} (confined : before.Confined kind moves)
    (surrounds : Surrounds permissions outside kind moves)
    (drifts : Drifts permissions outside before after) :
    after.Confined kind moves ∧ (after.site = before.site ∨ moves before.site after.site ∨
      outside before.site after.site) := by
  cases drifts with
  | outside background acts =>
      constructor
      · exact ⟨surrounds.outside _ _ confined.site acts, confined.background⟩
      · exact .inr (.inr acts)
  | writeBacks =>
      have emptied := surrounds.writeBacks _ confined.site
      constructor
      · constructor
        · exact emptied.1
        · intro routine member
          rcases List.mem_append.mp member with running | starting
          · exact confined.background routine running
          · rcases List.mem_map.mp starting with ⟨map, pending, rfl⟩
            exact emptied.2.2 map pending
      · exact .inr (.inl emptied.2.1)
  | background act next front back ready =>
      have stepped := confined.background _ (List.mem_append_right front List.mem_cons_self)
        _ confined.site ready
      constructor
      · constructor
        · exact stepped.1
        · intro routine member
          rcases List.mem_append.mp member with early | late
          · exact confined.background routine (List.mem_append_left _ early)
          · rcases List.mem_cons.mp late with rfl | later
            · exact stepped.2.2
            · exact confined.background routine
                (List.mem_append_right front (List.mem_cons_of_mem _ later))
      · exact .inr (.inl stepped.2.1)
  | finish site front back =>
      constructor
      · constructor
        · exact confined.site
        · intro routine member
          apply confined.background routine
          rcases List.mem_append.mp member with early | late
          · exact List.mem_append_left _ early
          · exact List.mem_append_right front (List.mem_cons_of_mem _ late)
      · exact .inl rfl

/-- A routine that keeps an invariant keeps it in surroundings whose acts keep
it, however far it is carried on. -/
theorem Confined.advances {routine left : Routine Site α} {before after : Simulation}
    {post : α → Prop} (confined : before.Confined kind moves)
    (surrounds : Surrounds permissions outside kind moves)
    (implies : ∀ site, invariant site → kind site)
    (kept : ∀ site other, invariant site → kind other →
      moves site other ∨ outside site other → invariant other)
    (holds : invariant before.site) (keeps : routine.Keeps invariant post)
    (advances : Advances permissions outside routine before left after) :
    after.Confined kind moves ∧ invariant after.site ∧ left.Keeps invariant post := by
  induction advances with
  | start => exact ⟨confined, holds, keeps⟩
  | drift advances drifts ih =>
      rcases ih confined holds with ⟨between, holds, keeps⟩
      rcases between.drifts surrounds drifts with ⟨confined, same | moved⟩
      · exact ⟨confined, same ▸ holds, keeps⟩
      · exact ⟨confined, kept _ _ holds confined.site moved, keeps⟩
  | step advances ready ih =>
      rcases ih confined holds with ⟨confined, holds, keeps⟩
      have stepped := keeps _ holds ready
      exact ⟨⟨implies _ stepped.1, confined.background⟩, stepped⟩

end Invariants

end Simulation

end Gatehouse
