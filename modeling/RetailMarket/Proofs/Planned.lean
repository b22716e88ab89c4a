import RetailMarket.Proofs.Compatibility
import RetailMarket.Proofs.ExactQuantity
import RetailMarket.Proofs.Schedule

/-!
# The plans behind a run

Whatever a population comes to is the tariff of a plan of its scenario: nothing else is ever listed
or made a default, and evaluations and migrations lead nowhere else.  So where the scenario fits, no
contract is cut short.  The usage of a population stays what has been drawn for it at the beginning.
-/

namespace RetailMarket

def Scenario.Plans {R : Type} [Quantity R] (scenario : Scenario R) (tariff : Tariff R) : Prop :=
  ∃ plan ∈ scenario.tariffs, ∃ id supersedes, tariff = plan.tariff id supersedes

namespace TariffPlan

variable {R : Type} [Quantity R] (plan : TariffPlan R) (id : TariffId)
  (supersedes : Option TariffId)

theorem curtailable_of_mem_rates {rate : Rate R}
    (listed : rate ∈ (plan.tariff id supersedes).rates) : rate.curtailable = plan.curtailable := by
  obtain ⟨_, -, rfl⟩ := List.mem_map.1 listed
  rfl

theorem isInterruptible_tariff : (plan.tariff id supersedes).isInterruptible =
    (plan.powerType.isInterruptible && !(plan.curtailable == 0)) := by
  simp only [Tariff.isInterruptible, TariffPlan.tariff, Tariff.free, List.any_map, List.any_cons,
    Function.comp_def]
  cases plan.curtailable == 0 <;> simp

end TariffPlan

/-! ## Curves -/

namespace SampledCustomer

variable {G : Type} [SampleSource G ℝ]

theorem drawCurve_nonneg {sign : ℝ} (positive : 0 ≤ sign) (shape : UsageShape ℝ) (source : G)
    (hours : Nat) : ∀ kwh ∈ (drawCurve sign shape source hours).1, 0 ≤ kwh := by
  unfold drawCurve
  refine List.foldlRecOn (motive := fun drawn : Array ℝ × G => ∀ kwh ∈ drawn.1, 0 ≤ kwh) _ _
    (by simp) ?_
  intro drawn kept hour _ kwh member
  rcases Array.mem_push.1 member with earlier | rfl
  · exact kept kwh earlier
  · simp only [drawHour, Quantity.larger_real]
    exact mul_nonneg positive (le_max_right _ _)

omit [SampleSource G ℝ] in
theorem usageAt_nonneg {model : SampledCustomer G ℝ} (drawn : ∀ kwh ∈ model.curve, 0 ≤ kwh)
    (time : Instant) : 0 ≤ model.usageAt time := by
  unfold usageAt Array.getD
  split
  · exact drawn _ (Array.getElem_mem _)
  · exact le_rfl

end SampledCustomer

namespace Evaluator

variable {G R : Type} [Quantity R] [SampleSource G R]

theorem curve_of_moved {moves : List (Move R)} {before after : Evaluator (SampledCustomer G R) R}
    (moved : Moved moves before after) : after.model.curve = before.model.curve := by
  classical
  let transfers (model : SampledCustomer G R) : List Transfer := model.transfers.toList
  -- A record that begins with a mark where the curve is another one.
  let marked (model : SampledCustomer G R) : List Transfer :=
    (if model.curve = before.model.curve then [] else [⟨⟨0⟩, ⟨0⟩, ⟨0⟩, 0⟩]) ++ transfers model
  have kept : Remembers transfers :=
    ⟨fun _ _ _ => rfl, fun _ => rfl, fun _ => rfl, fun _ _ => Array.toList_push⟩
  have keptMarked : Remembers marked := by
    refine ⟨fun _ _ _ => rfl, fun _ => rfl, fun _ => rfl, fun model transfer => ?_⟩
    simp only [marked, kept.notify, ← List.append_assoc]
    rfl
  have told := moved.told marked keptMarked
  simp only [marked, moved.told transfers kept, if_true, List.nil_append] at told
  by_contra other
  rw [if_neg other] at told
  simp at told

end Evaluator

/-! ## Books -/

namespace Books

variable {R : Type} [Quantity R] {scenario : Scenario R}

structure Planned (scenario : Scenario R) (books : Books R) : Prop where
  catalogue : ∀ id listing, books.catalogue.find? id = some listing →
    scenario.Plans listing.tariff
  defaults : ∀ powerType tariff, books.market.defaults powerType = some tariff →
    scenario.Plans tariff
  relates : books.Relates fun customer tariff =>
    customer ∈ scenario.people ∧ scenario.Plans tariff

theorem Planned.defaultFor {books : Books R} (planned : books.Planned scenario)
    {powerType : PowerType} {tariff : Tariff R}
    (found : books.market.defaultFor powerType = some tariff) : scenario.Plans tariff := by
  rw [Market.defaultFor, Option.or_eq_some_iff] at found
  exact found.elim (planned.defaults _ _) fun generic => planned.defaults _ _ generic.2

theorem Planned.successor? {books : Books R} (planned : books.Planned scenario)
    {powerType : PowerType} {tariff successor : Tariff R} {now : Instant}
    (found : books.market.successor? books.catalogue tariff powerType now = some successor) :
    scenario.Plans successor := by
  rw [Market.successor?, Option.or_eq_some_iff] at found
  rcases found with superseding | ⟨-, fallback⟩
  · obtain ⟨id, listing, -, found, -, rfl⟩ := Market.exists_of_superseding? superseding
    exact planned.catalogue id listing found
  · exact planned.defaultFor fallback

theorem Planned.queues {before after : Books R} (planned : before.Planned scenario)
    (queues : Queues (fun customer tariff => customer ∈ scenario.people ∧ scenario.Plans tariff)
      before after) : after.Planned scenario := by
  have relates := planned.relates.queues queues
  obtain ⟨orders, queued, -⟩ := queues
  refine ⟨queued.catalogue ▸ planned.catalogue, ?_, relates⟩
  rw [queued.market]
  exact planned.defaults

theorem Planned.settle {books : Books R} (planned : books.Planned scenario) (now : Instant) :
    (books.settle now).1.Planned scenario := by
  refine ⟨fun id listing found => ?_, ?_, planned.relates.settle now⟩
  · -- Members that join mark a tariff as subscribed and leave its terms.
    have same := congrArg (Catalogue.find? · id) (unmarked_settle books now)
    simp only [Catalogue.find?_unmarked, found, Option.map_some] at same
    obtain ⟨other, before, view⟩ := Option.map_eq_some_iff.1 same.symm
    rw [← listing.tariff_unmarked, ← view, other.tariff_unmarked]
    exact planned.catalogue id other before
  · rw [market_settle]
    exact planned.defaults

theorem Planned.leads {books : Books R} (planned : books.Planned scenario) :
    books.Leads (fun customer tariff => customer ∈ scenario.people ∧ scenario.Plans tariff)
      scenario.people where
  relates := planned.relates
  own customer member subscription active :=
    ⟨member, (planned.relates.of_mem (Roster.mem_activeOf.1 active).1).1.2⟩
  default customer member tariff found := ⟨member, planned.defaultFor found⟩
  recent customer member depth now tariff offered := by
    obtain ⟨id, listing, found, -, -, rfl⟩ := Catalogue.exists_of_mem_recentOffers offered
    exact ⟨member, planned.catalogue id listing found⟩
  successor customer tariff successor now related found := ⟨related.1, planned.successor? found⟩

theorem Planned.evaluateEach {G : Type} [SampleSource G R] {books : Books R}
    (planned : books.Planned scenario) {es : List (Evaluator (SampledCustomer G R) R)}
    (members : ∀ e ∈ es, e.customer ∈ scenario.people) (now : Instant) :
    Queues (fun customer tariff => customer ∈ scenario.people ∧ scenario.Plans tariff) books
        (Evaluator.evaluateEach now books es).2 ∧
      (Evaluator.evaluateEach now books es).1.map (fun e => (e.customer, e.model.curve)) =
        es.map fun e => (e.customer, e.model.curve) := by
  induction es generalizing books with
  | nil => exact ⟨Queues.refl books, rfl⟩
  | cons e rest ih =>
      obtain ⟨here, later⟩ := List.forall_mem_cons.1 members
      obtain ⟨moves, -, moved⟩ := planned.leads.exists_moves_evaluate here now
      have first := planned.leads.queues_evaluate here now
      obtain ⟨last, same⟩ := ih (planned.queues first) later
      refine ⟨first.trans last, ?_⟩
      simp only [Evaluator.evaluateEach, List.map_cons, same, Evaluator.customer_evaluate,
        Evaluator.curve_of_moved moved]

end Books

namespace Simulation

variable {G R : Type} [Quantity R] [SampleSource G R] {scenario : Scenario R}

/-! ## Runs -/

/-- Books on planned tariffs, and customers with the curves drawn for them at the beginning. -/
structure Planned (scenario : Scenario R) (s : Simulation G R) : Prop where
  scenario_eq : s.scenario = scenario
  catalogue : s.books.catalogue.WellFormed
  books : s.books.Planned scenario
  drawn : s.customers.toList.map (fun e => (e.customer, e.model.curve)) =
    (fresh (G := G) scenario).customers.toList.map fun e => (e.customer, e.model.curve)

theorem planned_fresh (scenario : Scenario R) : Planned scenario (fresh (G := G) scenario) := by
  refine ⟨rfl, Catalogue.wellFormed_empty, ⟨?_, ?_, ⟨Roster.faithful_empty, ?_, ?_⟩⟩, rfl⟩
  · intro id listing found
    cases found
  · intro powerType tariff default
    cases default
  · intro commitment listed
    cases listed
  · intro directive queued
    cases queued

theorem Planned.customers {s : Simulation G R} (planned : Planned scenario s) :
    s.customers.toList.map Evaluator.customer = scenario.people := by
  have customers := congrArg (List.map Prod.fst) planned.drawn
  simp only [List.map_map] at customers
  exact customers.trans (customers_fresh scenario)

theorem Planned.member {s : Simulation G R} (planned : Planned scenario s)
    {e : Evaluator (SampledCustomer G R) R} (listed : e ∈ s.customers.toList) :
    e.customer ∈ scenario.people := planned.customers ▸ List.mem_map_of_mem listed

theorem Planned.customer_of_found {s : Simulation G R} (planned : Planned scenario s)
    {customer : Customer} (member : customer ∈ scenario.people)
    {e : Evaluator (SampledCustomer G R) R} (found : s.customers[customer.id.number]? = some e) :
    e.customer = customer := by
  obtain ⟨number, plan, known, rfl⟩ := Scenario.mem_people.1 member
  have position : s.customers.toList[number]? = some e := by
    rw [Array.getElem?_toList]
    exact found
  have entry : (s.customers.toList.map Evaluator.customer)[number]? =
      some (plan.customer number) := by
    rw [planned.customers, Scenario.people, List.getElem?_map, List.getElem?_zipIdx, known]
    simp
  rw [List.getElem?_map, position] at entry
  exact Option.some.inj entry

theorem Planned.usageAt_nonneg [SampleSource G ℝ] {scenario : Scenario ℝ} {s : Simulation G ℝ}
    (planned : Planned scenario s) {e : Evaluator (SampledCustomer G ℝ) ℝ}
    (listed : e ∈ s.customers.toList) (consumes : e.customer.powerType.isProduction = false)
    (time : Instant) : 0 ≤ e.model.usageAt time := by
  have drawn : (e.customer, e.model.curve) ∈
      s.customers.toList.map fun e => (e.customer, e.model.curve) := List.mem_map_of_mem listed
  rw [planned.drawn] at drawn
  obtain ⟨beginning, present, same⟩ := List.mem_map.1 drawn
  simp only [fresh, List.mem_map] at present
  obtain ⟨entry, -, rfl⟩ := present
  obtain ⟨settings, weights, forecaster, cache, configured⟩ := configure_frame scenario
    (Evaluator.standard (entry.1.customer entry.2) (SampledCustomer.drawn (G := G)
      entry.1.powerType entry.1.shape scenario.run.profileHours scenario.run.brokerSwitchFactor
      (scenario.run.seed + UInt64.ofNat entry.2 * seedStride)))
  rw [evaluatorOf, configured, Prod.mk.injEq] at same
  obtain ⟨customer, curve⟩ := same
  have type : entry.1.powerType.isProduction = false := by
    rw [← consumes, ← customer]
    rfl
  refine SampledCustomer.usageAt_nonneg ?_ time
  rw [← curve]
  refine SampledCustomer.drawCurve_nonneg ?_ _ _ _
  rw [Tariff.usageSign, type]
  exact zero_le_one

theorem Planned.publish {s next : Simulation G R} (planned : Planned scenario s)
    {plan : TariffPlan R} (listed : plan ∈ scenario.tariffs) {count : Nat}
    (published : s.publish plan = .ok (next, count)) : Planned scenario next := by
  obtain ⟨id, supersedes, entered, -, -, found, -, rfl⟩ := publish_ok planned.catalogue published
  have own : scenario.Plans (plan.tariff id supersedes) := ⟨plan, listed, id, supersedes, rfl⟩
  refine ⟨planned.scenario_eq, planned.catalogue.nextId.enter found,
    ⟨fun other listing known => ?_, fun powerType tariff default => ?_, ?_⟩, planned.drawn⟩
  · rw [Catalogue.find?_enter found, Option.or_eq_some_iff] at known
    rcases known with old | ⟨-, new⟩
    · obtain ⟨before, known, rfl⟩ := Option.map_eq_some_iff.1 old
      rw [Catalogue.tariff_succeeded]
      exact planned.books.catalogue other before known
    · split at new
      · cases new
        exact own
      · cases new
  · simp only at default
    split at default
    · simp only [Market.setDefault] at default
      split at default
      · cases default
        exact own
      · exact planned.books.defaults powerType tariff default
    · exact planned.books.defaults powerType tariff default
  · obtain ⟨roster, members, pending⟩ := planned.books.relates
    refine ⟨roster, members, ?_⟩
    simp only
    split <;> exact pending

theorem Planned.revoke {s : Simulation G R} (planned : Planned scenario s) (plan : TariffPlan R) :
    Planned scenario (s.revoke plan).1 := by
  simp only [Simulation.revoke]
  split
  · exact planned
  · rename_i id _
    simp only [Market.revoke]
    split
    · exact planned
    · rcases s.books.catalogue.revoke_cases id with same | changed
      · rw [same]
        exact planned
      · obtain ⟨roster, members, pending⟩ := planned.books.relates
        rw [changed]
        refine ⟨planned.scenario_eq, planned.catalogue.update_revoke id,
          ⟨fun other listing known => ?_, planned.books.defaults, ⟨roster, members, pending⟩⟩,
          planned.drawn⟩
        rw [Catalogue.find?_update_revoke] at known
        obtain ⟨before, found, rfl⟩ := Option.map_eq_some_iff.1 known
        have terms := planned.books.catalogue other before found
        split <;> exact terms

theorem Planned.queues {s : Simulation G R} (planned : Planned scenario s) {books : Books R}
    (queues : Books.Queues (fun customer tariff => customer ∈ scenario.people ∧
      scenario.Plans tariff) s.books books) {customers : Array (Evaluator (SampledCustomer G R) R)}
    (same : customers.toList.map (fun e => (e.customer, e.model.curve)) =
      s.customers.toList.map fun e => (e.customer, e.model.curve)) :
    Planned scenario { s with books, customers } := by
  have plannedLast := planned.books.queues queues
  obtain ⟨_, queued, -⟩ := queues
  exact ⟨planned.scenario_eq, queued.catalogue ▸ planned.catalogue, plannedLast,
    same.trans planned.drawn⟩

theorem Planned.billed {before after : Simulation G R} (planned : Planned scenario before)
    (billed : Billed before after) : Planned scenario after := by
  obtain ⟨listings, defaults, ⟨roster, members, pending⟩⟩ := planned.books
  refine ⟨billed.scenario.trans planned.scenario_eq, billed.catalogue ▸ planned.catalogue,
    ⟨billed.catalogue ▸ listings, billed.market ▸ defaults,
      ⟨billed.faithful roster, billed.commitments ▸ members, billed.market ▸ pending⟩⟩, ?_⟩
  rw [billed.customers]
  exact planned.drawn

theorem kept_planned : Kept scenario (Planned (G := G) scenario) := by
  refine ⟨fun planned => planned.scenario_eq, fun planned => ?_,
    fun planned listed published => planned.publish listed published,
    fun planned plan => planned.revoke plan,
    fun planned =>
      planned.queues (planned.books.leads.queues_placeEach fun e => planned.member) rfl,
    fun {s} planned now => ?_, fun {s} planned now => ?_,
    fun planned now => planned.queues (planned.books.leads.queues_migrateEach now) rfl,
    fun {s} planned => ?_, fun planned cycle => ?_⟩
  · obtain ⟨listings, defaults, ⟨roster, members, pending⟩⟩ := planned.books
    exact ⟨planned.scenario_eq, planned.catalogue, ⟨listings, defaults, ⟨roster, members, pending⟩⟩,
      planned.drawn⟩
  · exact ⟨planned.scenario_eq,
      (Catalogue.wellFormed_congr (Books.unmarked_settle s.books now)).2 planned.catalogue,
      planned.books.settle now, planned.drawn⟩
  · obtain ⟨queues, same⟩ :=
      planned.books.evaluateEach (fun e => planned.member (e := e)) now
    exact planned.queues queues same
  · exact planned.billed (billed_billCycle s)
  · exact ⟨planned.scenario_eq, planned.catalogue, planned.books, planned.drawn⟩

/-- Whoever joins a subscription of a run within its timeslots gets a contract of full length. -/
theorem contractEnd_afterCalls (fits : scenario.Fits) (calls : Nat) {subscription : Subscription R}
    (listed : subscription ∈ ((fresh (G := G) scenario).afterCalls calls).books.roster.toList)
    {slot : Nat} (within : slot ≤ scenario.hours) :
    let now := ((fresh (G := G) scenario).afterCalls calls).timetable.slotStart slot
    subscription.tariff.contractEnd now = now.plus subscription.tariff.minDuration := by
  have underway : Underway scenario ((fresh (G := G) scenario).afterCalls calls) :=
    underway_afterCalls scenario calls
  have planned := kept_planned.afterCalls (planned_fresh (G := G) scenario) calls
  obtain ⟨⟨-, plan, planned, id, supersedes, tariff⟩, -⟩ := planned.books.relates.of_mem listed
  obtain ⟨start, -⟩ := underway.slotStart_of_fits fits within
  rw [start, tariff]
  exact fits.contractEnd_eq planned within id supersedes

example : (Scenario.baseline : Scenario Float).Fits := by decide +kernel

end Simulation

end RetailMarket
