import RetailMarket.Simulation.State

/-!
# Billing

Every subscription that has members is billed for the usage of every timeslot. Inside the control
window curtailable populations are curtailed and then drawn on for balancing energy.
-/

namespace RetailMarket

namespace Simulation

variable {G R : Type} [Quantity R]

structure Tally (R : Type) where
  journal : Journal R
  curtailed : R
  balancing : R

def billSubscription (control : ControlSettings R) (controlled : Bool) (time : Instant) (usage : R)
    (tally : Tally R) (subscription : Subscription R) : Tally R × Subscription R :=
  let tariff := subscription.tariff
  let prepared :=
    if tariff.isInterruptible then
      let up := Quantity.larger (tariff.maxUpRegulation time usage) 0
      let capable := subscription.setCapacity (.clamped up 0)
      if controlled then capable.postRatio control.ratio else capable
    else subscription
  let (billed, postings) := prepared.usePower (usage * (subscription.committed : R)) time
  let (curtailed, metered) := billed.takeCurtailment
  let tally : Tally R :=
    { tally with
      journal := tally.journal.postAll postings
      curtailed := tally.curtailed + curtailed }
  let up := metered.remainingCapacity.up
  if (controlled && decide (0 < control.balancingShare) && tariff.hasRegulation
      && decide (0 < up)) = true then
    let (balanced, postings) := metered.balance (-control.balancingShare * up) time
    let (taken, last) := balanced.takeRegulation
    ({ tally with
        journal := tally.journal.postAll postings
        balancing := tally.balancing + taken }, last)
  else (tally, metered)

def billMembers (simulation : Simulation G R) (controlled : Bool) (time : Instant)
    (tally : Tally R) (subscription : Subscription R) : Tally R × Subscription R :=
  if subscription.isEmpty then (tally, subscription)
  else
    match simulation.customers[subscription.customer.id.number]? with
    | none => (tally, subscription)
    | some e =>
      billSubscription simulation.scenario.control controlled time (e.model.usageAt time) tally
        subscription

def isControlled (simulation : Simulation G R) (time : Instant) : Bool :=
  let control := simulation.scenario.control
  control.isActive && control.window.contains time.hourOfDay

def billSlot (simulation : Simulation G R) (slot : Nat) (time : Instant) (tally : Tally R) :
    Tally R × Simulation G R :=
  let stamped := { tally with journal := { tally.journal with timeslot := slot } }
  let (tally, roster) := simulation.books.roster.mapAccum
    (simulation.billMembers (simulation.isControlled time) time) stamped
  (tally, { simulation with books := { simulation.books with roster } })

def billSlots : Nat → Simulation G R → Tally R → Tally R × Simulation G R
  | 0, simulation, tally => (tally, simulation)
  | count + 1, simulation, tally =>
    match simulation.timetable.tick with
    | (none, _) => (tally, simulation)
    | (some (slot, time), timetable) =>
      let (tally, simulation) := billSlot { simulation with timetable } slot time tally
      billSlots count simulation tally

def billCycle (simulation : Simulation G R) : Tally R × Simulation G R :=
  let (tally, billed) := billSlots simulation.scenario.run.timeslotsPerCycle simulation
    { journal := simulation.books.journal, curtailed := 0, balancing := 0 }
  (tally, { billed with books := { billed.books with journal := tally.journal } })

end Simulation

end RetailMarket
