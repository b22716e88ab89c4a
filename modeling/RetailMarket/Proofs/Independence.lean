import RetailMarket.Customer.SampleStream
import RetailMarket.Proofs.Run
import RetailMarket.Proofs.View.Stages
import RetailMarket.Scenario.Presets

/-!
# Customers do not interfere

A change of the other customers of a scenario, or of how many stand after it, is nothing to a
customer: whatever it is billed and wherever its members are stays the same in every cycle.
-/

namespace RetailMarket

namespace Simulation

variable {G R : Type} [Quantity R] {id : CustomerId} {first second : Simulation G R}

namespace Alike

/-! ## The stages of a cycle -/

omit [Quantity R] in
theorem firstSlot (alike : Alike id first second) : first.firstSlot = second.firstSlot := by
  rw [Simulation.firstSlot, Simulation.firstSlot, alike.cycle, alike.run]

omit [Quantity R] in
theorem cycleStart (alike : Alike id first second) : first.cycleStart = second.cycleStart := by
  rw [Simulation.cycleStart, Simulation.cycleStart, alike.timetable, alike.firstSlot]

omit [Quantity R] in
theorem stamped (alike : Alike id first second) : Alike id first.stamped second.stamped := by
  refine alike.books ?_ alike.faithful alike.faithful'
  rw [alike.firstSlot]
  exact congrArg (fun view : View R => { view with timeslot := second.firstSlot }) alike.view

theorem publishScheduled (alike : Alike id first second) :
    first.publishScheduled.1 = second.publishScheduled.1 ∧
      Alike id first.publishScheduled.2 second.publishScheduled.2 := by
  have plans : (first.scenario.tariffs.filter fun plan => plan.publishCycle == first.cycle) =
      second.scenario.tariffs.filter fun plan => plan.publishCycle == second.cycle := by
    rw [alike.tariffs, alike.cycle]
  have published := alike.stamped.publishAll
    (first.scenario.tariffs.filter fun plan => plan.publishCycle == first.cycle)
  rw [publishScheduled_eq, publishScheduled_eq, ← plans]
  exact published

theorem scheduled (alike : Alike id first second) : Alike id first.scheduled second.scheduled := by
  have published := alike.publishScheduled.2
  have revoked := published.revokeAll (second.publishScheduled.2.scenario.tariffs.filter
    fun plan => plan.revokeCycle == some second.publishScheduled.2.cycle)
  rw [Simulation.scheduled, Simulation.scheduled]
  simp only [revokeScheduled, published.tariffs, published.cycle]
  exact revoked

theorem placed (alike : Alike id first second) : Alike id first.placed second.placed := by
  rw [Simulation.placed, Simulation.placed, settlePlacements, settlePlacements, alike.cycleStart,
    alike.scheduled.cycle]
  split
  · exact alike.scheduled.placeAll.settle _
  · exact alike.scheduled

variable [SampleSource G R]

theorem evaluated (alike : Alike id first second) : Alike id first.evaluated second.evaluated := by
  rw [Simulation.evaluated, Simulation.evaluated, alike.cycleStart]
  exact alike.placed.evaluateAll _

theorem settled (alike : Alike id first second) : Alike id first.settled second.settled := by
  rw [Simulation.settled, Simulation.settled, alike.cycleStart]
  exact alike.evaluated.settle _

theorem migrated (alike : Alike id first second) : Alike id first.migrated second.migrated := by
  rw [Simulation.migrated, Simulation.migrated, alike.cycleStart]
  exact alike.settled.migrateAll _

theorem rehomed (alike : Alike id first second) : Alike id first.rehomed second.rehomed := by
  -- One run may migrate somebody where the other migrates nobody, and only then settles.  As an idle
  -- settlement does nothing, both may be taken to settle.
  rw [rehomed_eq, rehomed_eq, alike.cycleStart]
  exact alike.migrated.settle _

theorem billed (alike : Alike id first second) : Alike id first.billed second.billed := by
  rw [Simulation.billed, Simulation.billed]
  exact alike.rehomed.billCycle

/-! ## Cycles and runs -/

theorem step (alike : Alike id first second) :
    (first.step.1.map fun _ => ()) = (second.step.1.map fun _ => ()) ∧
      Alike id first.step.2 second.step.2 := by
  obtain ⟨same, failed⟩ := alike.publishScheduled
  cases outcome : second.publishScheduled.1 with
  | error error =>
      rw [outcome] at same
      rw [step_of_error outcome, step_of_error same]
      exact ⟨rfl, failed⟩
  | ok count =>
      rw [outcome] at same
      rw [step_of_ok outcome, step_of_ok same, alike.cycle]
      exact ⟨rfl, { alike.billed with cycle := rfl }⟩

theorem afterCalls (alike : Alike id first second) (calls : Nat) :
    Alike id (first.afterCalls calls) (second.afterCalls calls) := by
  induction calls with
  | zero => exact alike
  | succ calls ih => exact ih.step.2

end Alike

variable [SampleSource G R]

theorem numbered_fresh (scenario : Scenario R) :
    Numbered (fresh (G := G) scenario).customers.toList := by
  intro number e found
  have customer : (fresh (G := G) scenario).customers.toList[number]?.map Evaluator.customer =
      scenario.people[number]? := by
    rw [← customers_fresh (G := G), List.getElem?_map]
  rw [found, Scenario.people, List.getElem?_map, List.getElem?_zipIdx] at customer
  obtain ⟨⟨plan, position⟩, entry, same⟩ := Option.map_eq_some_iff.1 customer.symm
  obtain ⟨_, -, pair⟩ := Option.map_eq_some_iff.1 entry
  cases pair
  rw [← same]
  exact Nat.zero_add number

theorem alike_fresh {scenario : Scenario R} {customers : List (CustomerPlan R)} {number : Nat}
    (same : scenario.customers[number]? = customers[number]?) :
    Alike ⟨number⟩ (fresh (G := G) scenario) (fresh { scenario with customers }) := by
  refine ⟨rfl, rfl, rfl, rfl, rfl, rfl, numbered_fresh scenario, numbered_fresh _, ?_,
    Roster.faithful_empty, Roster.faithful_empty, rfl⟩
  simp only [fresh, List.getElem?_toArray, List.getElem?_map, List.getElem?_zipIdx, same]
  rfl

/-- Runs of two scenarios that have the same customer at a number, and differ in other customers
only, fail in the same cycles; after any number of calls, the transactions of that customer and its
subscriptions are the same. -/
theorem customers_independent (scenario : Scenario R) (customers : List (CustomerPlan R))
    (number : Nat) (same : scenario.customers[number]? = customers[number]?) (calls : Nat)
    (s other : Simulation G R) (reached : s = (fresh scenario).afterCalls calls)
    (reachedOther : other = (fresh { scenario with customers }).afterCalls calls) :
    (s.step.1.map fun _ => ()) = (other.step.1.map fun _ => ()) ∧
      (s.books.journal.transactions.toList.filter fun t => t.customer == ⟨number⟩) =
        (other.books.journal.transactions.toList.filter fun t => t.customer == ⟨number⟩) ∧
      (s.books.roster.toList.filter fun subscription => subscription.customer.id == ⟨number⟩) =
        other.books.roster.toList.filter fun subscription =>
          subscription.customer.id == ⟨number⟩ := by
  have alike : Alike ⟨number⟩ s other := by
    rw [reached, reachedOther]
    exact (alike_fresh same).afterCalls calls
  exact ⟨alike.step.1, congrArg View.transactions alike.view,
    congrArg View.subscriptions alike.view⟩

theorem customers_independent_village :
    ∃ s other : Simulation ChaChaStream Float,
      s = (fresh Scenario.baseline).afterCalls 7 ∧
      other = (fresh { Scenario.baseline with customers := [.village] }).afterCalls 7 ∧
      (s.books.journal.transactions.toList.filter fun t => t.customer == ⟨0⟩) =
        other.books.journal.transactions.toList.filter fun t => t.customer == ⟨0⟩ := by
  have same : (Scenario.baseline : Scenario Float).customers[0]? =
      ([.village] : List (CustomerPlan Float))[0]? := rfl
  have alone := customers_independent (G := ChaChaStream) Scenario.baseline [.village] 0 same 7
  generalize (fresh Scenario.baseline : Simulation ChaChaStream Float).afterCalls 7 = s at alone ⊢
  generalize (fresh { (Scenario.baseline : Scenario Float) with customers := [.village] } :
    Simulation ChaChaStream Float).afterCalls 7 = other at alone ⊢
  exact ⟨s, other, rfl, rfl, (alone s other rfl rfl).2.1⟩

end Simulation

end RetailMarket
