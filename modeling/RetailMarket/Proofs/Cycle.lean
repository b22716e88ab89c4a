import RetailMarket.Proofs.Billing
import RetailMarket.Proofs.Population
import RetailMarket.Proofs.Publication
import RetailMarket.Proofs.Validity
import RetailMarket.Simulation.Run

/-!
# The stages of a cycle

A cycle that does not fail passes through a fixed sequence of states, named here.  `Running` is what
holds of a run between two cycles, whether or not the cycles so far have failed; `Passage` is what it
implies for the stages of the next cycle.
-/

namespace RetailMarket

/-! ## The customers of a scenario -/

namespace Scenario

variable {R : Type} [Quantity R]

def people (scenario : Scenario R) : List Customer :=
  scenario.customers.zipIdx.map fun entry => entry.1.customer entry.2

omit [Quantity R] in
theorem mem_people {scenario : Scenario R} {customer : Customer} :
    customer ∈ scenario.people ↔
      ∃ (number : Nat) (plan : CustomerPlan R), scenario.customers[number]? = some plan ∧
        customer = plan.customer number := by
  simp only [people, List.mem_map, Prod.exists, List.mem_zipIdx_iff_getElem?]
  constructor
  · rintro ⟨plan, number, found, rfl⟩
    exact ⟨number, plan, found, rfl⟩
  · rintro ⟨number, plan, found, rfl⟩
    exact ⟨plan, number, found, rfl⟩

omit [Quantity R] in
theorem populations_people (scenario : Scenario R) :
    scenario.people.map Customer.population = scenario.customers.map (·.population) := by
  rw [people, List.map_map]
  conv_rhs => rw [← scenario.customers.zipIdx_map_fst 0, List.map_map]
  rfl

omit [Quantity R] in
theorem nodup_ids_people (scenario : Scenario R) : (scenario.people.map Customer.id).Nodup := by
  have ids : scenario.people.map Customer.id =
      (List.range' 0 scenario.customers.length).map CustomerId.mk := by
    rw [← scenario.customers.zipIdx_map_snd 0, people, List.map_map, List.map_map]
    rfl
  rw [ids]
  exact List.Nodup.map (fun _ _ same => congrArg CustomerId.number same) List.nodup_range'

theorem census_of_valid {scenario : Scenario R} (valid : scenario.problems = [])
    (small : (scenario.customers.map (·.population)).sum < 2 ^ 63) : Census scenario.people := by
  refine ⟨scenario.nodup_ids_people, ?_, ?_⟩
  · intro customer listed
    obtain ⟨number, plan, found, rfl⟩ := mem_people.1 listed
    exact (customer_of_valid valid (List.mem_of_getElem? found)).1
  · rw [populations_people]
    exact small

end Scenario

/-! ## What settlements post -/

namespace Books

variable {R : Type} [Quantity R]

theorem journal_settle_induction {P : Journal R → Prop} {books : Books R}
    (holds : P books.journal)
    (post : ∀ journal postings, (∀ posting ∈ postings, posting.kind.isSettlement = true) →
      P journal → P (journal.postAll postings)) (now : Instant) :
    P (books.settle now).1.journal := by
  apply settle_induction (P := fun current => P current.journal)
  · exact holds
  · intro current directive _ kept
    cases found : current.roster.find? directive.key with
    | none =>
        rw [settleWithdrawal_of_none found]
        exact kept
    | some subscription =>
        rw [settleWithdrawal_of_find? found, operate_of_find? found]
        refine post _ _ (fun posting listed => ?_) kept
        simp only [Subscription.release] at listed
        rcases List.mem_cons.1 listed with rfl | refund
        · rfl
        · split at refund
          · rw [List.mem_singleton.1 refund]
            rfl
          · cases refund
  · intro current directive _ kept
    simp only [settleSignup, operate]
    split
    · exact kept
    · refine post _ _ (fun posting listed => ?_) kept
      rw [List.mem_singleton.1 listed]
      rfl

theorem counts_settle (books : Books R) (now : Instant) {kinds : TransactionKind → Bool}
    {tariffs : Tariff R → Bool} (charges : Bills.Charges kinds tariffs) (slot : Nat)
    (keys : SubscriptionKey → Bool) :
    (books.settle now).1.journal.counts slot kinds keys =
      books.journal.counts slot kinds keys :=
  journal_settle_induction (P := fun journal => journal.counts slot kinds keys =
    books.journal.counts slot kinds keys) rfl
    (fun journal _ settling same => (journal.counts_postAll_of_apart
      (fun posting listed => charges.apart _ (settling posting listed)) _ _).trans same) now

end Books

namespace Simulation

variable {G R : Type} [Quantity R]

/-! ## Stages -/

def scheduled (s : Simulation G R) : Simulation G R := s.publishScheduled.2.revokeScheduled.1

def directed (s : Simulation G R) : Simulation G R :=
  if s.scheduled.cycle = 0 then s.scheduled.placeAll else s.scheduled

def placed (s : Simulation G R) : Simulation G R := (s.scheduled.settlePlacements s.cycleStart).1

variable [SampleSource G R]

def evaluated (s : Simulation G R) : Simulation G R := (s.placed.evaluateAll s.cycleStart).1

def settled (s : Simulation G R) : Simulation G R := (s.evaluated.settle s.cycleStart).1

def migrated (s : Simulation G R) : Simulation G R := (s.settled.migrateAll s.cycleStart).1

def rehomed (s : Simulation G R) : Simulation G R :=
  (s.migrated.settleMigrations (s.settled.migrateAll s.cycleStart).2 s.cycleStart).1

def billed (s : Simulation G R) : Simulation G R := s.rehomed.billCycle.2

def summarize (s : Simulation G R) (published : Nat) : CycleSummary R :=
  let lastSlot := s.firstSlot + s.scenario.run.timeslotsPerCycle
  let migrations := (s.settled.migrateAll s.cycleStart).2
  { cycle := s.cycle, start := s.cycleStart, published
    revoked := s.publishScheduled.2.revokeScheduled.2
    settled := (s.scheduled.settlePlacements s.cycleStart).2 + (s.evaluated.settle s.cycleStart).2 +
      (s.migrated.settleMigrations migrations s.cycleStart).2
    migrations
    allocationBalance := (s.placed.evaluateAll s.cycleStart).2
    isConserved := s.billed.isConserved
    charges := s.billed.books.journal.chargeBetween s.firstSlot lastSlot
    curtailed := s.rehomed.billCycle.1.curtailed
    balancing := s.rehomed.billCycle.1.balancing
    transactions := (s.billed.books.journal.between s.firstSlot lastSlot).length
    shares := s.billed.shares }

theorem step_of_ok {s : Simulation G R} {published : Nat}
    (succeeded : s.publishScheduled.1 = .ok published) :
    s.step = (.ok (s.summarize published), { s.billed with cycle := s.cycle + 1 }) := by
  have split : s.publishScheduled = (.ok published, s.publishScheduled.2) := by rw [← succeeded]
  simp only [step]
  rw [split]
  simp only [summarize, billed, rehomed, migrated, settled, evaluated, placed, scheduled]

theorem step_of_error {s : Simulation G R} {error : CycleError}
    (failed : s.publishScheduled.1 = .error error) :
    s.step = (.error error, s.publishScheduled.2) := by
  have split : s.publishScheduled = (.error error, s.publishScheduled.2) := by rw [← failed]
  simp only [step]
  rw [split]

-- From here on the stages are opened by their equations only: unfolded into one another they are
-- too large to compare.
attribute [irreducible] scheduled placed evaluated settled migrated rehomed billed

theorem step_eq_ok {s next : Simulation G R} {summary : CycleSummary R}
    (stepped : s.step = (.ok summary, next)) :
    ∃ published, s.publishScheduled.1 = .ok published ∧ summary = s.summarize published ∧
      next = { s.billed with cycle := s.cycle + 1 } := by
  cases outcome : s.publishScheduled.1 with
  | error error =>
      rw [step_of_error outcome] at stepped
      cases stepped
  | ok published =>
      rw [step_of_ok outcome] at stepped
      cases stepped
      exact ⟨published, rfl, rfl, rfl⟩

end Simulation

end RetailMarket
