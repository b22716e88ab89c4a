import RetailMarket.Proofs.Run
import RetailMarket.Scenario.Presets

/-!
# Conservation

In a run of a valid scenario every cycle that does not fail leaves each population whole, carries out
all that it directs, and leaves nobody on a revoked tariff.
-/

namespace RetailMarket

namespace Simulation

variable {G R : Type} {scenario : Scenario R}

/-! ## Populations -/

theorem sum_shares {s : Simulation G R} (census : Census scenario.people)
    (orderly : s.Orderly scenario.people) (complete : s.books.Complete scenario.people) :
    (s.shares.map (·.committed)).sum = (scenario.customers.map (·.population)).sum := by
  have ids : (s.shares.map (·.committed)) =
      (s.books.catalogue.listed.map Listing.id).map fun id =>
        s.books.roster.members fun key => key.tariff == id := by
    rw [← orderly.published, shares, List.map_map, List.map_map]
    rfl
  have labelled : ∀ subscription ∈ s.books.roster.toList,
      subscription.key.tariff ∈ s.books.catalogue.listed.map Listing.id := by
    intro subscription listed
    obtain ⟨-, listing, found⟩ := orderly.sound.known subscription listed
    obtain ⟨member, same⟩ := Catalogue.mem_of_find? found
    exact List.mem_map.2 ⟨listing, member, same⟩
  rw [ids, s.books.roster.sum_members SubscriptionKey.tariff orderly.sound.catalogue.nodup labelled,
    complete.members_eq census, Scenario.populations_people]

theorem isConserved_of_complete {s : Simulation G R}
    (customers : s.customers.toList.map Evaluator.customer = scenario.people)
    (complete : s.books.Complete scenario.people) : s.isConserved = true := by
  rw [isConserved, ← Array.all_toList, List.all_eq_true]
  intro e listed
  have member : e.customer ∈ scenario.people := customers ▸ List.mem_map_of_mem listed
  rw [complete.conserved _ member, beq_self_eq_true]

variable [Quantity R]

theorem balance_evaluateAll [SampleSource G R] (s : Simulation G R) (now : Instant) :
    (s.evaluateAll now).2 =
      ((s.evaluateAll now).1.customers.toList.map Evaluator.allocationBalance).sum := rfl

variable [SampleSource G R]

omit [SampleSource G R] in
theorem applied_settle (s : Simulation G R) (now : Instant) :
    (s.settle now).2 = (s.books.settle now).2 := rfl

theorem Passage.settled_summarize {s : Simulation G R} (passage : Passage scenario s)
    (published : Nat) :
    (s.summarize published).settled =
      s.directed.books.market.pending.length + s.evaluated.books.market.pending.length +
        s.migrated.books.market.pending.length := by
  have rehoming := settleMigrations_eq passage.settled.idle s.cycleStart
  rw [← migrated] at rehoming
  simp only [summarize, settlePlacements_eq passage.ready.idle, rehoming, applied_settle,
    passage.placements.counts, passage.evaluations.counts, passage.migrations.counts]

theorem Passage.balance_summarize {s : Simulation G R} (passage : Passage scenario s)
    (published : Nat) : (s.summarize published).allocationBalance = 0 := by
  simp only [summarize, balance_evaluateAll]
  rw [← evaluated]
  refine List.sum_eq_zero fun balance listed => ?_
  obtain ⟨e, member, rfl⟩ := List.mem_map.1 listed
  exact passage.balanced e member

/-- A cycle conserves every population, and what it directs is carried out in full. -/
theorem step_conserves (scenario : Scenario R) (valid : scenario.problems = [])
    (small : (scenario.customers.map (·.population)).sum < 2 ^ 63) (calls : Nat)
    (s : Simulation G R) (reached : s = (fresh scenario).afterCalls calls)
    {summary : CycleSummary R} {next : Simulation G R} (stepped : s.step = (.ok summary, next)) :
    (∀ (number : Nat) (plan : CustomerPlan R), scenario.customers[number]? = some plan →
        next.books.roster.committedFor ⟨number⟩ = plan.population) ∧
      summary.allocationBalance = 0 ∧ summary.isConserved = true ∧
      (summary.shares.map (·.committed)).sum = (scenario.customers.map (·.population)).sum ∧
      s.directed.books.CarriesOut s.cycleStart ∧ s.evaluated.books.CarriesOut s.cycleStart ∧
      s.migrated.books.CarriesOut s.cycleStart ∧
      summary.settled =
        s.directed.books.market.pending.length + s.evaluated.books.market.pending.length +
          s.migrated.books.market.pending.length := by
  have census := Scenario.census_of_valid valid small
  have running : Running scenario s := reached ▸ running_afterCalls valid census calls
  obtain ⟨published, succeeded, rfl, rfl⟩ := step_eq_ok stepped
  have passage := running.passage valid census succeeded
  obtain ⟨complete, orderly, customers⟩ := (running.reaches valid census succeeded).billed
  rw [← billed] at complete orderly customers
  have conserved : s.billed.isConserved = true := isConserved_of_complete customers complete
  have shares : (s.billed.shares.map (·.committed)).sum =
      (scenario.customers.map (·.population)).sum := sum_shares census orderly complete
  refine ⟨?_, passage.balance_summarize published, ?_, ?_, passage.placements,
    passage.evaluations, passage.migrations, passage.settled_summarize published⟩
  · intro number plan found
    have whole := complete.conserved (plan.customer number)
      (Scenario.mem_people.2 ⟨number, plan, found, rfl⟩)
    exact whole
  · simp only [summarize, conserved]
  · simp only [summarize, shares]

theorem step_conserves_baseline :
    ∃ summary next,
      ((fresh Scenario.baseline : Simulation ChaChaStream Float).afterCalls 2).step =
        (.ok summary, next) ∧
      next.books.roster.committedFor ⟨0⟩ = 1000 ∧ next.books.roster.committedFor ⟨1⟩ = 40 ∧
      summary.allocationBalance = 0 ∧ (summary.shares.map (·.committed)).sum = 1040 := by
  have valid : (Scenario.baseline : Scenario Float).problems = [] := by decide +kernel
  have small : (Scenario.baseline.customers.map
      fun plan : CustomerPlan Float => plan.population).sum < 2 ^ 63 := by decide
  obtain ⟨summary, next, stepped⟩ := exists_step_ok (G := ChaChaStream) valid
    (Scenario.census_of_valid valid small) (by decide) 2
  obtain ⟨whole, balanced, -, shares, -⟩ := step_conserves _ valid small 2 _ rfl stepped
  exact ⟨summary, next, stepped, whole 0 .village rfl, whole 1 Scenario.solarPark rfl, balanced,
    shares⟩

/-! ## Revoked tariffs -/

omit [Quantity R] [SampleSource G R] in
theorem Billed.vacated {before after : Simulation G R} (billed : Billed before after)
    (vacated : before.books.Vacated) : after.books.Vacated := by
  intro subscription listed revoked
  obtain ⟨other, member, same⟩ := Roster.exists_of_commitments billed.commitments listed
  have tariff : other.tariff = subscription.tariff := congrArg Commitment.tariff same
  have committed : other.committed = subscription.committed := congrArg Commitment.committed same
  rw [Books.isRevoked, billed.catalogue, ← tariff] at revoked
  rw [← committed]
  exact vacated other member revoked

omit [Quantity R] [SampleSource G R] in
theorem defaultFor_placeEach (books : Books R) (es : List (Evaluator (SampledCustomer G R) R))
    (powerType : PowerType) :
    (es.foldl place books).market.defaultFor powerType = books.market.defaultFor powerType := by
  induction es generalizing books with
  | nil => rfl
  | cons e rest ih =>
      rw [List.foldl_cons, ih]
      simp only [place, Books.direct, Market.direct]
      split
      · rfl
      · split <;> rfl

/-- After a cycle, and in each of its timeslots, nobody is on a revoked tariff.  Whoever is to be
placed, to evaluate or to be moved finds a default tariff. -/
theorem step_vacates (scenario : Scenario R) (valid : scenario.problems = [])
    (small : (scenario.customers.map (·.population)).sum < 2 ^ 63) (calls : Nat)
    (s : Simulation G R) (reached : s = (fresh scenario).afterCalls calls)
    {summary : CycleSummary R} {next : Simulation G R} (stepped : s.step = (.ok summary, next)) :
    next.books.Vacated ∧
      (∀ slots tally, (billSlots slots s.rehomed tally).2.books.Vacated) ∧
      (∀ outcome ∈ (Books.migrateEach s.cycleStart s.settled.books
        s.settled.books.roster.toList).1, outcome ≠ .noReplacement) ∧
      (∀ before e after, s.scheduled.customers.toList = before ++ e :: after →
        ((before.foldl place s.scheduled.books).market.defaultFor
          e.customer.powerType).isSome) ∧
      ∀ before e after, s.placed.customers.toList = before ++ e :: after →
        ((Evaluator.evaluateEach s.cycleStart s.placed.books before).2.market.defaultFor
          e.customer.powerType).isSome := by
  have census := Scenario.census_of_valid valid small
  have running : Running scenario s := reached ▸ running_afterCalls valid census calls
  obtain ⟨published, succeeded, rfl, rfl⟩ := step_eq_ok stepped
  obtain ⟨-, rescheduled, -⟩ := running.ready_scheduled valid succeeded
  have passage := running.passage valid census succeeded
  have billedLast := billed_billCycle s.rehomed
  rw [← billed] at billedLast
  have vacatedLast := billedLast.vacated passage.vacated
  refine ⟨vacatedLast, fun slots tally => (billed_billSlots slots s.rehomed tally).vacated
    passage.vacated, passage.replaced, ?_, ?_⟩
  · intro before e after split
    have same : s.scheduled.customers = s.customers := rescheduled.customers
    have member : e.customer ∈ scenario.people := by
      rw [← running.customers, ← same, split]
      simp
    rw [defaultFor_placeEach]
    exact passage.ready.served _ member
  · intro before e after split
    have member : e.customer ∈ scenario.people := by
      rw [← passage.evaluators, split]
      simp
    obtain ⟨_, queued, -⟩ := Evaluator.exists_round_evaluateEach passage.placed.sound
      (passage.placed.small census) before s.cycleStart
    rw [queued.defaultFor]
    exact passage.placed.served _ member

/-- The baseline with the competitor's tariff revoked in the second cycle: at the end of that cycle
nobody is left on it. -/
theorem step_vacates_revoked :
    ∃ summary next,
      ((fresh { Scenario.baseline with tariffs := Scenario.alphaRevokedAt 1 [] } :
        Simulation ChaChaStream Float).afterCalls 1).step = (.ok summary, next) ∧
      next.books.Vacated := by
  let scenario : Scenario Float :=
    { Scenario.baseline with tariffs := Scenario.alphaRevokedAt 1 [] }
  have valid : scenario.problems = [] := by decide +kernel
  have small : (scenario.customers.map (·.population)).sum < 2 ^ 63 := by decide
  have independent : ∀ plan ∈ scenario.tariffs, plan.supersedes = none := by decide
  obtain ⟨summary, next, stepped⟩ := exists_step_ok (G := ChaChaStream) valid
    (Scenario.census_of_valid valid small) independent 1
  exact ⟨summary, next, stepped, (step_vacates scenario valid small 1 _ rfl stepped).1⟩

end Simulation

end RetailMarket
