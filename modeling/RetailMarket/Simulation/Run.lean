import RetailMarket.Simulation.Billing
import RetailMarket.Simulation.Summary

/-!
# Runs of a scenario

A run goes cycle by cycle. Each cycle publishes and revokes the tariffs scheduled for it, lets every
population evaluate, settles the directives, moves whoever is left on a revoked tariff, and bills
the usage of every timeslot.
-/

namespace RetailMarket

namespace Simulation

variable {G R : Type} [Quantity R]

def isConserved (simulation : Simulation G R) : Bool :=
  simulation.customers.all fun e =>
    simulation.books.roster.committedFor e.customer.id == e.customer.population

def shares (simulation : Simulation G R) : List TariffShare :=
  simulation.published.map fun (key, id) =>
    { key, tariff := id, committed := simulation.books.roster.committedTo id }

/-! ## The phases of a cycle -/

def firstSlot (simulation : Simulation G R) : Nat :=
  simulation.cycle * simulation.scenario.run.timeslotsPerCycle

def cycleStart (simulation : Simulation G R) : Instant :=
  simulation.timetable.slotStart simulation.firstSlot

/-- Begins a cycle: stamps the journal with its first timeslot and publishes its tariffs. -/
def publishScheduled (simulation : Simulation G R) :
    Except CycleError Nat × Simulation G R :=
  let journal := { simulation.books.journal with timeslot := simulation.firstSlot }
  { simulation with books := { simulation.books with journal } }.publishAll
    (simulation.scenario.tariffs.filter fun plan => plan.publishCycle == simulation.cycle)

def revokeScheduled (simulation : Simulation G R) : Simulation G R × Nat :=
  simulation.revokeAll
    (simulation.scenario.tariffs.filter fun plan => plan.revokeCycle == some simulation.cycle)

/-- In the first cycle every population is placed. -/
def settlePlacements (simulation : Simulation G R) (now : Instant) : Simulation G R × Nat :=
  if simulation.cycle = 0 then simulation.placeAll.settle now else (simulation, 0)

/-- The directives of a migration are settled at once, if there are any. -/
def settleMigrations (simulation : Simulation G R) (migrations : Nat) (now : Instant) :
    Simulation G R × Nat :=
  if 0 < migrations then simulation.settle now else (simulation, 0)

/-- Runs one cycle. A cycle that fails leaves what it had published. -/
def step [SampleSource G R] (simulation : Simulation G R) :
    Except CycleError (CycleSummary R) × Simulation G R :=
  let cycle := simulation.cycle
  let firstSlot := simulation.firstSlot
  let lastSlot := firstSlot + simulation.scenario.run.timeslotsPerCycle
  let now := simulation.cycleStart
  match simulation.publishScheduled with
  | (.error error, failed) => (.error error, failed)
  | (.ok published, simulation) =>
    let revocation := simulation.revokeScheduled
    let placement := revocation.1.settlePlacements now
    let evaluation := placement.1.evaluateAll now
    let settlement := evaluation.1.settle now
    let migration := settlement.1.migrateAll now
    let rehoming := migration.1.settleMigrations migration.2 now
    let billing := rehoming.1.billCycle
    let last := billing.2
    let summary : CycleSummary R :=
      { cycle, start := now, published, revoked := revocation.2
        settled := placement.2 + settlement.2 + rehoming.2
        migrations := migration.2
        allocationBalance := evaluation.2
        isConserved := last.isConserved
        charges := last.books.journal.chargeBetween firstSlot lastSlot
        curtailed := billing.1.curtailed
        balancing := billing.1.balancing
        transactions := (last.books.journal.between firstSlot lastSlot).length
        shares := last.shares }
    (.ok summary, { last with cycle := cycle + 1 })

def runCycles [SampleSource G R] :
    Nat → Simulation G R → Except CycleError (List (CycleSummary R)) × Simulation G R
  | 0, simulation => (.ok [], simulation)
  | count + 1, simulation =>
    match simulation.step with
    | (.error error, failed) => (.error error, failed)
    | (.ok summary, next) =>
      let (result, last) := runCycles count next
      (result.map (summary :: ·), last)

def run [SampleSource G R] (simulation : Simulation G R) :
    Except CycleError (List (CycleSummary R)) × Simulation G R :=
  runCycles (simulation.scenario.run.cycles - simulation.cycle) simulation

end Simulation

end RetailMarket
