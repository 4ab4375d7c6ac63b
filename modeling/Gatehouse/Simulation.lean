import Gatehouse.Permissions

/-!
# Routines side by side

Several routines run over one state. Each goes on until it has to wait, in
their order and those in the background last. When none can go on, the clock
jumps to the first instant that one of them waits for.
-/

namespace Gatehouse

/-- A state with the routines that run in its background. -/
structure Simulation where
  site : Site
  background : List (Routine Site Unit)

namespace Simulation

/-- Let routines go on one after the other until each has to wait. -/
def settleAll {α : Type} : List (Routine Site α) → Site → List (Routine Site α) × Site
  | [], site => ([], site)
  | routine :: rest, site =>
      let (routine, site) := routine.settle site
      let (rest, site) := settleAll rest site
      (routine :: rest, site)

/-- Begin to write back the maps that were left for it. -/
def startWriteBacks (permissions : Permissions) (simulation : Simulation) : Simulation where
  site := { simulation.site with writeBacks := [] }
  background :=
    simulation.background ++ simulation.site.writeBacks.map permissions.writeBack

/-- Let the background go on until all of it has to wait. -/
def settleBackground (permissions : Permissions) (simulation : Simulation) : Simulation :=
  let simulation := simulation.startWriteBacks permissions
  let (background, site) := settleAll simulation.background simulation.site
  ⟨site, background.filter fun routine => routine.result?.isNone⟩

/-- The first instant that a routine waits for. -/
def firstWake? (wakes : List (Option Nat)) : Option Nat := (wakes.filterMap id).min?

/-- Let routines and the background go on, and the clock jump, until every
routine is done; `fuel` bounds the number of jumps. -/
def runFor {α : Type} (permissions : Permissions) : Nat → List (Routine Site α) → Simulation →
    List (Routine Site α) × Simulation
  | 0, routines, simulation => (routines, simulation)
  | fuel + 1, routines, simulation =>
      let (routines, site) := settleAll routines simulation.site
      let simulation := settleBackground permissions { simulation with site := site }
      if routines.all fun routine => routine.result?.isSome then (routines, simulation)
      else
        let wakes := routines.map Routine.wake? ++ simulation.background.map Routine.wake?
        match firstWake? wakes with
        | some instant =>
            let clock := max instant simulation.site.clock
            runFor permissions fuel routines
              { simulation with site := { simulation.site with clock := clock } }
        | none => runFor permissions fuel routines simulation

/-- How many jumps the routines of a service can need at most. -/
def jumps (routines background : Nat) : Nat := 16 * (routines + background + 1)

/-- Run routines side by side; a result is missing only if a routine waits for
what never comes. -/
def run {α : Type} (permissions : Permissions) (routines : List (Routine Site α))
    (simulation : Simulation) : List (Option α) × Simulation :=
  let fuel := jumps routines.length simulation.background.length
  let (routines, simulation) := runFor permissions fuel routines simulation
  (routines.map Routine.result?, simulation)

/-- The records of the audit trail that are still to be written, and the state
after they were. -/
def writeTrail (simulation : Simulation) : List AuditRecord × Simulation :=
  let trail := simulation.site.trail
  (trail.queued, { simulation with site := { simulation.site with trail := trail.drained } })

/-- Let time pass, and then the background go on. -/
def advance (permissions : Permissions) (span : Span) (simulation : Simulation) : Simulation :=
  settleBackground permissions
    { simulation with
      site := { simulation.site with clock := simulation.site.clock + span.nanos } }

end Simulation

end Gatehouse
