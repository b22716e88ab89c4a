import RetailMarket.Proofs.Blocks
import RetailMarket.Proofs.Run
import RetailMarket.Scenario.Presets

/-!
# Populations that may not be split

A customer without `multiContracting` decides once for every subscription part, so that it moves its
members only in blocks of its population.  From its placement on all its members are therefore on
one tariff and in one contract record, through every evaluation and every move off a revoked tariff.
-/

namespace RetailMarket

/-! ## Evaluations -/

namespace Evaluator

variable {M R : Type} {block : Nat}

def InBlocks (block : Nat) (e : Evaluator M R) : Prop :=
  ∀ allocation ∈ e.allocations, (block : Int) ∣ allocation.2

theorem dvd_adjust {allocations : List (Tariff R × Int)}
    (blocks : ∀ allocation ∈ allocations, (block : Int) ∣ allocation.2) {change : Int}
    (whole : (block : Int) ∣ change) (tariff : Tariff R) :
    ∀ allocation ∈ adjust tariff change allocations, (block : Int) ∣ allocation.2 := by
  induction allocations with
  | nil => exact List.forall_mem_singleton.2 whole
  | cons first rest ih =>
      obtain ⟨wholeFirst, wholeRest⟩ := List.forall_mem_cons.1 blocks
      simp only [adjust]
      split
      · exact List.forall_mem_cons.2 ⟨dvd_add wholeFirst whole, wholeRest⟩
      · exact List.forall_mem_cons.2 ⟨wholeFirst, ih wholeRest⟩

/-- A block is counted alike with a sign and without. -/
structure Counted (block count : Nat) : Prop where
  whole : block ∣ count
  small : count < 2 ^ 63

theorem Counted.dvd_signed {count : Nat} (counted : Counted block count) :
    (block : Int) ∣ signed count := by
  rw [signed_of_lt counted.small]
  exact Int.natCast_dvd_natCast.2 counted.whole

theorem dvd_enter_all {allocations : List (Tariff R × Int)}
    (blocks : ∀ allocation ∈ allocations, (block : Int) ∣ allocation.2) {moves : List (Move R)}
    (counted : ∀ move ∈ moves, Counted block move.count) :
    ∀ allocation ∈ moves.foldl enter allocations, (block : Int) ∣ allocation.2 := by
  induction moves generalizing allocations with
  | nil => exact blocks
  | cons move rest ih =>
      obtain ⟨first, later⟩ := List.forall_mem_cons.1 counted
      have left := dvd_adjust blocks first.dvd_signed.neg_right move.origin
      exact ih (dvd_adjust left first.dvd_signed move.destination) later

theorem mem_decisionSizes_self {population size : Nat}
    (listed : size ∈ decisionSizes population population) : size = population := by
  rcases Nat.eq_zero_or_pos population with rfl | positive
  · rw [decisionSizes, dif_neg fun both => absurd both.2 (lt_irrefl 0)] at listed
    cases listed
  · exact List.mem_singleton.1 (decisionSizes_self positive ▸ listed)

variable [Quantity R]

theorem counted_groupSizes {e : Evaluator M R} (single : e.customer.multiContracting = false)
    {subscription : Subscription R} (whole : subscription.commitment.InBlocks block)
    (small : subscription.committed < 2 ^ 63) (now : Instant) :
    ∀ size ∈ e.groupSizes now subscription, Counted block size := by
  have all : block ∣ subscription.committed := whole.dvd_committed
  have free : block ∣ subscription.expiredCount now := whole.records.dvd_expiredCount now
  have most : subscription.expiredCount now ≤ subscription.committed :=
    Subscription.IsRecorded.expiredCount_le whole.recorded now
  have each {population : Nat} (counted : Counted block population) :
      ∀ size ∈ decisionSizes (e.decisionChunk population) population, Counted block size := by
    have chunk : e.decisionChunk population = population := by
      rw [decisionChunk, single]
      rfl
    intro size listed
    rw [chunk] at listed
    exact mem_decisionSizes_self listed ▸ counted
  unfold groupSizes
  dsimp only
  split
  · exact each ⟨all, small⟩
  · exact List.forall_mem_append.2
      ⟨each ⟨free, by omega⟩, each ⟨Nat.dvd_sub all free, by omega⟩⟩

variable [CustomerModel M R]

theorem inBlocks_evaluate {e : Evaluator M R} (single : e.customer.multiContracting = false)
    {books : Books R} (blocks : books.roster.InBlocks e.customer.id block)
    (small : ∀ subscription ∈ books.roster.toList, subscription.committed < 2 ^ 63)
    (now : Instant) : (evaluate e books now).1.InBlocks block := by
  have none : ∀ allocation ∈ ([] : List (Tariff R × Int)), (block : Int) ∣ allocation.2 :=
    fun allocation listed => by cases listed
  cases found : books.market.defaultFor e.customer.powerType with
  | none =>
      rw [evaluate_of_missing found]
      exact none
  | some default =>
      obtain ⟨decisions, obey, decided⟩ := exists_obeys_evaluate found
        fun subscription _ => Governs.anything books _ subscription.tariff _
      rw [InBlocks, decided.moved.allocations]
      refine dvd_enter_all none fun move made => ?_
      obtain ⟨decision, member, moves⟩ := List.mem_filterMap.1 made
      have counts : List.Forall₂ (fun subscription (decisions : List (Decision R)) =>
          ∀ decision ∈ decisions, decision.count ∈ e.groupSizes now subscription)
          (books.roster.activeOf e.customer.id) decisions :=
        obey.imp fun _ _ obeys _ listed => obeys.sizes ▸ List.mem_map_of_mem listed
      obtain ⟨subscription, active, sized⟩ := exists_of_mem_flatten counts member
      obtain ⟨-, -, count, -⟩ := Decision.eq_of_move? moves
      obtain ⟨listed, own, -⟩ := Roster.mem_activeOf.1 active
      rw [count]
      exact counted_groupSizes single (blocks.of_mem listed own) (small subscription listed) now
        decision.count sized

theorem exists_inBlocks_evaluateEach {populations : List Customer} {id : CustomerId}
    {books : Books R} (sound : books.Sound populations)
    (small : ∀ subscription ∈ books.roster.toList, subscription.committed < 2 ^ 63)
    (blocks : books.roster.InBlocks id block) {es : List (Evaluator M R)}
    (single : ∀ e ∈ es, e.customer.id = id → e.customer.multiContracting = false)
    (now : Instant) :
    ∃ orders, Books.Queued orders books (evaluateEach now books es).2 ∧
      Directive.InBlocks id block orders := by
  induction es generalizing books with
  | nil => exact ⟨[], Books.Queued.refl books, fun directive listed => by cases listed⟩
  | cons e rest ih =>
      obtain ⟨singleFirst, singleRest⟩ := List.forall_mem_cons.1 single
      obtain ⟨-, first, queuedFirst, issues⟩ := exists_issued_evaluate sound small e now
      obtain ⟨later, queuedLater, blocksLater⟩ := ih (queuedFirst.sound sound)
        (queuedFirst.small small) (queuedFirst.inBlocks blocks) singleRest
      refine ⟨first ++ later, queuedFirst.trans queuedLater, .append ?_ blocksLater⟩
      intro directive listed own
      obtain ⟨allocation, entered, issued⟩ := exists_of_issued issues listed
      have same : e.customer.id = id := by
        rw [← own, issued.key]
      rw [issued.count]
      exact inBlocks_evaluate (singleFirst same) (same ▸ blocks) small now allocation
        (List.mem_filter.1 entered).1

end Evaluator

/-! ## Cycles -/

namespace Simulation

variable {G R : Type} [Quantity R] [SampleSource G R] {scenario : Scenario R}

section Stages

variable {s : Simulation G R} {customer : Customer} {count : Nat} (running : Running scenario s)
  (valid : scenario.problems = []) (census : Census scenario.people)
  (member : customer ∈ scenario.people)
  (blocks : s.books.roster.InBlocks customer.id customer.population)
  (succeeded : s.publishScheduled.1 = .ok count)

include running valid census member blocks succeeded

omit [SampleSource G R] in
theorem Running.inBlocks_placed :
    s.placed.books.roster.InBlocks customer.id customer.population := by
  obtain ⟨-, rescheduled, ready⟩ := running.ready_scheduled valid succeeded
  have scheduled : s.scheduled.books.roster.InBlocks customer.id customer.population := by
    rw [rescheduled.roster]
    exact blocks
  have customers : s.scheduled.customers.toList.map Evaluator.customer = scenario.people := by
    rw [rescheduled.customers]
    exact running.customers
  have listed (e : Evaluator (SampledCustomer G R) R) (hosted : e ∈ s.scheduled.customers.toList) :
      e.customer ∈ scenario.people := customers ▸ List.mem_map_of_mem hosted
  rw [placed_eq ready.idle]
  unfold directed
  split
  · obtain ⟨orders, queued, placed⟩ := exists_queued_placeEach ready.sound
      s.scheduled.customers.toList
      (fun e hosted =>
        ⟨census.populated _ (listed e hosted), census.population_lt (listed e hosted)⟩)
      (fun e hosted => ready.served _ (listed e hosted))
    rw [customers] at placed
    refine queued.inBlocks_settle ready.sound.roster ready.idle scheduled ?_ _
    refine Books.inBlocks_of_placed placed fun other among same => ?_
    rw [census.eq_of_id_eq among member same]
  · refine (Books.Queued.refl _).inBlocks_settle ready.sound.roster ready.idle scheduled ?_ _
    exact fun directive listed => by cases listed

theorem Running.inBlocks_settled (single : customer.multiContracting = false) :
    s.settled.books.roster.InBlocks customer.id customer.population := by
  have passage := running.passage valid census succeeded
  have placed := running.inBlocks_placed valid census member blocks succeeded
  obtain ⟨orders, queued, whole⟩ := Evaluator.exists_inBlocks_evaluateEach passage.placed.sound
    (passage.placed.small census) placed
    (fun e hosted same => by
      have among : e.customer ∈ scenario.people :=
        passage.evaluators ▸ List.mem_map_of_mem hosted
      rw [census.eq_of_id_eq among member same]
      exact single) s.cycleStart
  rw [settled, evaluated]
  exact queued.inBlocks_settle passage.placed.sound.roster passage.placed.idle placed whole _

theorem Running.inBlocks_billed (single : customer.multiContracting = false) :
    s.billed.books.roster.InBlocks customer.id customer.population := by
  have passage := running.passage valid census succeeded
  have settled := running.inBlocks_settled valid census member blocks succeeded single
  have rehomed : s.rehomed.books.roster.InBlocks customer.id customer.population := by
    rw [rehomed_eq, migrated]
    exact (Books.queued_migrateEach s.cycleStart (passage.settled.small census)).inBlocks_settle
      passage.settled.sound.roster passage.settled.idle settled
      (Books.inBlocks_relocation settled s.cycleStart) _
  rw [billed, Roster.InBlocks, (billed_billCycle s.rehomed).commitments]
  exact rehomed

end Stages

theorem Running.inBlocks_step {s : Simulation G R} (running : Running scenario s)
    (valid : scenario.problems = []) (census : Census scenario.people) {customer : Customer}
    (member : customer ∈ scenario.people) (single : customer.multiContracting = false)
    (blocks : s.books.roster.InBlocks customer.id customer.population) :
    s.step.2.books.roster.InBlocks customer.id customer.population := by
  cases outcome : s.publishScheduled.1 with
  | error error =>
      obtain ⟨-, kept⟩ := running.published
      rw [step_of_error outcome, kept.roster]
      exact blocks
  | ok count =>
      rw [step_of_ok outcome]
      exact running.inBlocks_billed valid census member blocks outcome single

theorem inBlocks_afterCalls (valid : scenario.problems = []) (census : Census scenario.people)
    {customer : Customer} (member : customer ∈ scenario.people)
    (single : customer.multiContracting = false) (calls : Nat) :
    ((fresh (G := G) scenario).afterCalls calls).books.roster.InBlocks customer.id
      customer.population := by
  induction calls with
  | zero => exact fun commitment listed => by cases listed
  | succ calls ih =>
      exact (running_afterCalls valid census calls).inBlocks_step valid census member single ih

/-- After a cycle all members of a customer that may not be split are on one tariff, and their
contracts are one record. -/
theorem step_undivided (scenario : Scenario R) (valid : scenario.problems = [])
    (small : (scenario.customers.map (·.population)).sum < 2 ^ 63) (calls : Nat)
    (s : Simulation G R) (reached : s = (fresh scenario).afterCalls calls)
    {summary : CycleSummary R} {next : Simulation G R} (stepped : s.step = (.ok summary, next))
    (number : Nat) (plan : CustomerPlan R) (found : scenario.customers[number]? = some plan)
    (single : plan.multiContracting = false) :
    0 < plan.population ∧
      ∃ subscription horizon, next.books.roster.activeOf ⟨number⟩ = [subscription] ∧
        subscription.committed = plan.population ∧
        subscription.expirations = [⟨horizon, plan.population⟩] := by
  have census := Scenario.census_of_valid valid small
  have member : plan.customer number ∈ scenario.people :=
    Scenario.mem_people.2 ⟨number, plan, found, rfl⟩
  have running : Running scenario s := reached ▸ running_afterCalls valid census calls
  have before : s.books.roster.InBlocks (plan.customer number).id plan.population := by
    rw [reached]
    exact inBlocks_afterCalls valid census member single calls
  have blocks := running.inBlocks_step valid census member single before
  have runningNext := running.step valid census
  rw [stepped] at blocks runningNext
  have begun : 0 < next.cycle := by
    obtain ⟨_, -, -, rfl⟩ := step_eq_ok stepped
    exact Nat.succ_pos s.cycle
  have whole := (runningNext.complete begun).conserved _ member
  have positive := census.populated _ member
  exact ⟨positive, blocks.exists_single positive whole⟩

theorem step_undivided_solarPark :
    ∃ summary next subscription horizon,
      ((fresh Scenario.baseline : Simulation ChaChaStream Float).afterCalls 2).step =
        (.ok summary, next) ∧
      next.books.roster.activeOf ⟨1⟩ = [subscription] ∧ subscription.committed = 40 ∧
      subscription.expirations = [⟨horizon, 40⟩] := by
  have valid : (Scenario.baseline : Scenario Float).problems = [] := by decide +kernel
  have small : (Scenario.baseline.customers.map
      fun plan : CustomerPlan Float => plan.population).sum < 2 ^ 63 := by decide
  obtain ⟨summary, next, stepped⟩ := exists_step_ok (G := ChaChaStream) valid
    (Scenario.census_of_valid valid small) (by decide) 2
  obtain ⟨-, subscription, horizon, one, everyone, record⟩ := step_undivided _ valid small 2 _ rfl
    stepped 1 Scenario.solarPark rfl rfl
  exact ⟨summary, next, subscription, horizon, stepped, one, everyone, record⟩

end Simulation

end RetailMarket
