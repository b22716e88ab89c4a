import RetailMarket.Proofs.Conservation
import RetailMarket.Proofs.Lifecycle

/-!
# Default tariffs

From the first cycle on the default tariff that the market finds for a power type is the one that has
been published for the plan that the scenario finds for it, and neither finds one without the other.
It is never revoked.  Every population is first signed up to the default of its own power type, as a
whole.
-/

namespace RetailMarket

theorem rel_or {α β : Type} {r : α → β → Prop} {a a' : Option α} {b b' : Option β}
    (first : Option.Rel r a b) (second : Option.Rel r a' b') :
    Option.Rel r (a.or a') (b.or b') := by
  cases first with
  | none => rwa [Option.none_or, Option.none_or]
  | some related => exact .some related

namespace Scenario

variable {R : Type} [Quantity R] {scenario : Scenario R}

def ownDefault (scenario : Scenario R) (powerType : PowerType) : Option (TariffPlan R) :=
  scenario.tariffs.find? fun plan => plan.isDefault && plan.powerType == powerType

omit [Quantity R] in
theorem defaultFor_eq (scenario : Scenario R) (powerType : PowerType) :
    scenario.defaultFor powerType =
      (scenario.ownDefault powerType).or (scenario.ownDefault powerType.generic) := rfl

omit [Quantity R] in
theorem of_ownDefault {powerType : PowerType} {plan : TariffPlan R}
    (found : scenario.ownDefault powerType = some plan) :
    plan ∈ scenario.tariffs ∧ plan.isDefault = true ∧ plan.powerType = powerType := by
  have eligible := List.find?_some found
  simp only [Bool.and_eq_true, beq_iff_eq] at eligible
  exact ⟨List.mem_of_find?_eq_some found, eligible⟩

theorem ownDefault_eq_some (valid : scenario.problems = []) {plan : TariffPlan R}
    (planned : plan ∈ scenario.tariffs) (default : plan.isDefault = true) :
    scenario.ownDefault plan.powerType = some plan := by
  have known : (scenario.ownDefault plan.powerType).isSome := by
    rw [ownDefault, List.find?_isSome]
    exact ⟨plan, planned, by simp [default]⟩
  obtain ⟨other, found⟩ := Option.isSome_iff_exists.1 known
  obtain ⟨planned', default', same⟩ := of_ownDefault found
  rw [found, eq_of_defaults valid planned' planned default' default same]

end Scenario

namespace Simulation

variable {G R : Type} [Quantity R] {scenario : Scenario R}

/-! ## Defaults in force -/

/-- A tariff that has been published for a plan, is found under its key, and is live. -/
structure InForce (s : Simulation G R) (plan : TariffPlan R) (tariff : Tariff R) : Prop where
  published : s.tariffId? plan.key = some tariff.id
  terms : ∃ supersedes, tariff = plan.tariff tariff.id supersedes
  listed : ∃ listing, s.books.catalogue.find? tariff.id = some listing ∧
    listing.tariff = tariff ∧ listing.state ≠ .killed

/-- Every default plan has given the market a default. -/
def Served (scenario : Scenario R) (s : Simulation G R) : Prop :=
  ∀ plan ∈ scenario.tariffs, plan.isDefault = true →
    (s.books.market.defaults plan.powerType).isSome

theorem Registered.inForce {cycle : Nat} {s : Simulation G R}
    (registered : Registered scenario cycle s) (valid : scenario.problems = [])
    (found : ∀ plan ∈ scenario.tariffs, plan.isDefault = true → ∀ id,
      (plan.key, id) ∈ s.published → s.tariffId? plan.key = some id)
    {powerType : PowerType} {tariff : Tariff R}
    (default : s.books.market.defaults powerType = some tariff) :
    ∃ plan ∈ scenario.tariffs, plan.isDefault = true ∧ plan.powerType = powerType ∧
      s.InForce plan tariff := by
  obtain ⟨plan, planned, isDefault, type, entered, listing, known, rfl⟩ :=
    registered.defaults powerType tariff default
  obtain ⟨other, planned', key, -, listing', supersedes, known', terms, revoked⟩ :=
    registered.entries _ entered
  obtain rfl := Scenario.eq_of_keys valid planned' planned key
  rw [known] at known'
  cases known'
  refine ⟨other, planned, isDefault, type, found other planned isDefault _ entered,
    ⟨supersedes, terms⟩, listing, known, rfl, ?_⟩
  rw [ne_eq, ← Listing.isRevoked_iff, revoked, TariffPlan.isRevokedBefore_eq_true]
  rintro ⟨cycle, scheduled, -⟩
  rw [(Scenario.revokeCycle_of_valid valid planned scheduled).2] at isDefault
  cases isDefault

theorem Registered.rel_defaultFor {cycle : Nat} {s : Simulation G R}
    (registered : Registered scenario cycle s) (valid : scenario.problems = [])
    (served : Served scenario s)
    (found : ∀ plan ∈ scenario.tariffs, plan.isDefault = true → ∀ id,
      (plan.key, id) ∈ s.published → s.tariffId? plan.key = some id) (powerType : PowerType) :
    Option.Rel s.InForce (scenario.defaultFor powerType)
      (s.books.market.defaultFor powerType) := by
  have own (powerType : PowerType) : Option.Rel s.InForce (scenario.ownDefault powerType)
      (s.books.market.defaults powerType) := by
    cases default : s.books.market.defaults powerType with
    | some tariff =>
        obtain ⟨plan, planned, isDefault, rfl, inForce⟩ :=
          registered.inForce valid found default
        rw [Scenario.ownDefault_eq_some valid planned isDefault]
        exact .some inForce
    | none =>
        cases planned : scenario.ownDefault powerType with
        | none => exact .none
        | some plan =>
            obtain ⟨listed, isDefault, rfl⟩ := Scenario.of_ownDefault planned
            have some := served plan listed isDefault
            rw [default] at some
            cases some
  rw [Scenario.defaultFor_eq, Market.defaultFor]
  exact rel_or (own powerType) (own powerType.generic)

/-! ## From the first cycle on -/

omit [Quantity R] in
theorem Rescheduled.serves {before after : Simulation G R} (kept : Rescheduled before after)
    (served : Served scenario before) : Served scenario after :=
  fun plan planned isDefault => kept.served _ (served plan planned isDefault)

theorem Running.served_scheduled {s : Simulation G R} (running : Running scenario s)
    (valid : scenario.problems = []) (served : 0 < s.cycle → Served scenario s) {count : Nat}
    (succeeded : s.publishScheduled.1 = .ok count) : Served scenario s.scheduled := by
  obtain ⟨orderly, kept⟩ := running.published
  obtain ⟨-, rescheduled, -⟩ := running.ready_scheduled valid succeeded
  rcases Nat.eq_zero_or_pos s.cycle with first | later
  · intro plan planned isDefault
    have due : plan ∈ s.scenario.tariffs.filter fun plan => plan.publishCycle == s.cycle := by
      rw [running.scenario_eq, first]
      exact List.mem_filter.2 ⟨planned, by
        simpa using Scenario.publishCycle_of_valid valid planned isDefault⟩
    have published := running.orderly.stamped.served_publishAll succeeded due isDefault
    rw [Simulation.scheduled]
    have market := market_revokeAll s.publishScheduled.2
      (s.publishScheduled.2.scenario.tariffs.filter
        fun plan => plan.revokeCycle == some s.publishScheduled.2.cycle)
    rw [revokeScheduled, market]
    exact published
  · exact rescheduled.serves (served later)

variable [SampleSource G R]

theorem served_afterCalls (valid : scenario.problems = []) (census : Census scenario.people)
    (calls : Nat) (begun : 0 < ((fresh (G := G) scenario).afterCalls calls).cycle) :
    Served scenario ((fresh (G := G) scenario).afterCalls calls) := by
  induction calls with
  | zero => exact absurd begun (lt_irrefl 0)
  | succ calls ih =>
      have running := running_afterCalls (G := G) valid census calls
      have underway := underway_afterCalls (G := G) scenario calls
      rw [afterCalls] at begun ⊢
      cases outcome : ((fresh (G := G) scenario).afterCalls calls).publishScheduled.1 with
      | error error =>
          obtain ⟨-, kept⟩ := running.published
          rw [step_of_error outcome] at begun ⊢
          exact kept.serves (ih (kept.cycle ▸ begun))
      | ok count =>
          have served := running.served_scheduled valid ih outcome
          rw [step_of_ok outcome]
          intro plan planned isDefault
          have same := defaults_billed underway.faithful_scheduled
          rw [show ({ ((fresh (G := G) scenario).afterCalls calls).billed with
            cycle := ((fresh (G := G) scenario).afterCalls calls).cycle + 1 } :
              Simulation G R).books.market.defaults = _ from same]
          exact served plan planned isDefault

/-! ## First signups -/

omit [Quantity R] [SampleSource G R] in
theorem pending_placeEach (books : Books R) (es : List (Evaluator (SampledCustomer G R) R))
    (sized : ∀ e ∈ es, 0 < e.customer.population ∧ e.customer.population < 2 ^ 63) :
    (es.foldl place books).market.pending = books.market.pending ++
      (es.map Evaluator.customer).filterMap fun customer =>
        (books.market.defaultFor customer.powerType).map fun default =>
          ⟨customer, default, customer.population⟩ := by
  induction es generalizing books with
  | nil => exact (List.append_nil _).symm
  | cons e rest ih =>
      obtain ⟨⟨populated, small⟩, later⟩ := List.forall_mem_cons.1 sized
      have kept (powerType : PowerType) : (place books e).market.defaultFor powerType =
          books.market.defaultFor powerType := defaultFor_placeEach books [e] powerType
      have moving : (e.customer.population : Int) ≠ 0 := by omega
      rw [List.foldl_cons, ih (place books e) later, List.map_cons, List.filterMap_cons]
      simp only [kept]
      cases found : books.market.defaultFor e.customer.powerType with
      | none => simp only [place, found, Option.map_none]
      | some default =>
          simp only [place, found, Books.direct, Market.direct, signed_of_lt small, if_neg moving,
            Option.map_some, List.append_assoc, List.singleton_append]

omit [SampleSource G R] in
theorem Running.signups_placed {s : Simulation G R} (running : Running scenario s)
    (valid : scenario.problems = []) (census : Census scenario.people) (first : s.cycle = 0)
    (empty : s.books.journal.signups = []) {count : Nat}
    (succeeded : s.publishScheduled.1 = .ok count) :
    s.placed.books.journal.signups = scenario.people.filterMap fun customer =>
      (s.scheduled.books.market.defaultFor customer.powerType).map fun default =>
        (⟨customer.id, default.id⟩, customer.population) := by
  obtain ⟨orderly, rescheduled, ready⟩ := running.ready_scheduled valid succeeded
  have customers : s.scheduled.customers.toList.map Evaluator.customer = scenario.people := by
    rw [rescheduled.customers]
    exact running.customers
  have vacant : s.scheduled.books.roster.toList = [] := by
    rw [rescheduled.roster]
    exact running.vacant first
  obtain ⟨⟨_, queued⟩, -⟩ := ready.settle_placements census vacant customers s.cycleStart
  have pending := pending_placeEach s.scheduled.books s.scheduled.customers.toList
    fun e listed => by
      have member : e.customer ∈ scenario.people := customers ▸ List.mem_map_of_mem listed
      exact ⟨census.populated _ member, census.population_lt member⟩
  have journal : (s.scheduled.customers.toList.foldl place s.scheduled.books).journal.signups =
      [] := by
    rw [queued.journal, rescheduled.journal]
    exact empty
  have all : (s.scheduled.customers.toList.foldl place s.scheduled.books).market.signups =
      (s.scheduled.customers.toList.foldl place s.scheduled.books).market.pending := by
    refine List.filter_eq_self.2 fun directive listed => ?_
    rw [pending, ready.idle, List.nil_append, List.mem_filterMap] at listed
    obtain ⟨customer, member, found⟩ := listed
    obtain ⟨default, -, rfl⟩ := Option.map_eq_some_iff.1 found
    rw [customers] at member
    have populated := census.populated customer member
    simpa using populated
  rw [placed_eq ready.idle, directed, if_pos (rescheduled.cycle.trans first)]
  refine (Books.signups_settle (queued.faithful orderly.sound.roster) s.cycleStart).trans ?_
  rw [journal, all, pending, ready.idle, customers, List.nil_append, List.nil_append,
    List.map_filterMap]
  refine List.filterMap_congr fun customer _ => ?_
  cases s.scheduled.books.market.defaultFor customer.powerType <;> rfl

omit [Quantity R] [SampleSource G R] in
theorem find?_entries {people : List Customer} (census : Census people)
    {target : Customer → Option (Tariff R)} {customer : Customer} (listed : customer ∈ people)
    {tariff : Tariff R} (found : target customer = some tariff) :
    (people.filterMap fun customer => (target customer).map fun tariff =>
        ((⟨customer.id, tariff.id⟩ : SubscriptionKey), customer.population)).find?
          (fun entry => entry.1.customer == customer.id) =
      some (⟨customer.id, tariff.id⟩, customer.population) := by
  have hit (other : Customer) : ((target other).map fun tariff =>
      ((⟨other.id, tariff.id⟩ : SubscriptionKey), other.population)).any
        (fun entry => entry.1.customer == customer.id) =
      ((target other).isSome && other.id == customer.id) := by
    cases target other <;> rfl
  have known : (people.find? fun other =>
      (target other).isSome && other.id == customer.id).isSome := by
    rw [List.find?_isSome]
    exact ⟨customer, listed, by simp [found]⟩
  obtain ⟨other, chosen⟩ := Option.isSome_iff_exists.1 known
  have same := List.find?_some chosen
  simp only [Bool.and_eq_true, beq_iff_eq] at same
  obtain rfl := census.eq_of_id_eq (List.mem_of_find?_eq_some chosen) listed same.2
  rw [List.find?_filterMap]
  simp only [hit]
  rw [chosen, Option.bind_some, found, Option.map_some]

/-- The first signup of every population is for the default of its power type, as a whole. -/
def Founded (scenario : Scenario R) (s : Simulation G R) : Prop :=
  ∀ customer ∈ scenario.people, ∃ plan id,
    scenario.defaultFor customer.powerType = some plan ∧ s.tariffId? plan.key = some id ∧
    s.books.journal.signups.find? (fun entry => entry.1.customer == customer.id) =
      some (⟨customer.id, id⟩, customer.population)

omit [Quantity R] [SampleSource G R] in
theorem Founded.later {before after : Simulation G R} (founded : Founded scenario before)
    {entered : List (String × TariffId)} (published : after.published = before.published ++ entered)
    {added : List (SubscriptionKey × Nat)}
    (signups : after.books.journal.signups = before.books.journal.signups ++ added) :
    Founded scenario after := by
  intro customer listed
  obtain ⟨plan, id, default, found, first⟩ := founded customer listed
  refine ⟨plan, id, default, ?_, ?_⟩
  · rw [tariffId?, published, List.lookup_append, ← tariffId?, found, Option.some_or]
  · rw [signups, List.find?_append, first, Option.some_or]

theorem Running.founded_billed {s : Simulation G R} (running : Running scenario s)
    (valid : scenario.problems = []) (census : Census scenario.people)
    (underway : Underway scenario s) (punctual : Punctual scenario s)
    (registered : Registered scenario s.cycle s) (first : s.cycle = 0)
    (empty : s.books.journal.signups = []) {count : Nat}
    (succeeded : s.publishScheduled.1 = .ok count) : Founded scenario s.billed := by
  obtain ⟨-, -, ready⟩ := running.ready_scheduled valid succeeded
  have placed := running.signups_placed valid census first empty succeeded
  have passage := running.passage valid census succeeded
  obtain ⟨added, signups, -⟩ := (passage.marking_billed census).signups
  have published : s.billed.published = s.scheduled.published :=
    underway.billed.2.trans underway.scheduled.2.2.symm
  have distinct : s.scheduled.keys.Nodup := by
    rw [keys, underway.scheduled.2.2]
    exact punctual.nodup_keys underway valid succeeded
  have served := running.served_scheduled valid (fun begun => absurd first begun.ne') succeeded
  intro customer listed
  have agree := (registered.scheduled punctual underway valid succeeded).rel_defaultFor valid served
    (fun plan _ _ id entered => (tariffId?_eq_some_iff distinct).2 entered) customer.powerType
  obtain ⟨default, found⟩ := Option.isSome_iff_exists.1 (ready.served customer listed)
  rw [found] at agree
  cases planned : scenario.defaultFor customer.powerType with
  | none =>
      rw [planned] at agree
      cases agree
  | some plan =>
      rw [planned] at agree
      cases agree with
      | some inForce =>
          refine ⟨plan, default.id, rfl, ?_, ?_⟩
          · rw [tariffId?, published]
            exact inForce.published
          · rw [signups, placed, List.find?_append, find?_entries census listed found,
              Option.some_or]

theorem founded_afterCalls (valid : scenario.problems = []) (census : Census scenario.people)
    (calls : Nat) (begun : 0 < ((fresh (G := G) scenario).afterCalls calls).cycle) :
    Founded scenario ((fresh (G := G) scenario).afterCalls calls) := by
  induction calls with
  | zero => exact absurd begun (lt_irrefl 0)
  | succ calls ih =>
      have running := running_afterCalls (G := G) valid census calls
      have underway := underway_afterCalls (G := G) scenario calls
      have ends := endsBefore_afterCalls (G := G) valid census calls
      obtain ⟨entered, published⟩ := underway.exists_published_step
      have registered := registered_afterCalls (G := G) valid calls
      have punctual := punctual_afterCalls (G := G) scenario calls
      rw [afterCalls] at begun ⊢
      generalize (fresh (G := G) scenario).afterCalls calls = s at *
      cases outcome : s.publishScheduled.1 with
      | error error =>
          obtain ⟨-, kept⟩ := running.published
          rw [step_of_error outcome] at begun published ⊢
          have same : s.publishScheduled.2.books.journal.signups = s.books.journal.signups ++ [] := by
            rw [kept.journal, List.append_nil]
            rfl
          exact (ih (kept.cycle ▸ begun)).later published same
      | ok count =>
          obtain ⟨added, signups, -⟩ := (running.marking valid census outcome).signups
          obtain ⟨-, rescheduled, -⟩ := running.ready_scheduled valid outcome
          have same : s.scheduled.books.journal.signups = s.books.journal.signups := by
            rw [rescheduled.journal]
            rfl
          rw [same] at signups
          rw [step_of_ok outcome] at published ⊢
          rcases Nat.eq_zero_or_pos s.cycle with first | later
          · have empty : s.books.journal.transactions.toList = [] := by
              refine List.eq_nil_iff_forall_not_mem.2 fun transaction listed => ?_
              have early := ends transaction listed
              rw [first, Nat.zero_mul] at early
              exact absurd early (Nat.not_lt_zero _)
            refine running.founded_billed valid census underway punctual registered first ?_ outcome
            rw [Journal.signups, Journal.ofKind, empty]
            rfl
          · exact (ih later).later published signups

/-! ## Agreement -/

/-- From the first cycle on, the market's default for a power type is in force for the plan that the
scenario finds for it, and neither finds one without the other.  The first signup of every population
is for the default of its own power type, with all its members. -/
theorem defaults_agree (scenario : Scenario R) (valid : scenario.problems = [])
    (small : (scenario.customers.map (·.population)).sum < 2 ^ 63) (calls : Nat)
    (s : Simulation G R) (reached : s = (fresh scenario).afterCalls calls) (begun : 0 < s.cycle) :
    (∀ powerType, Option.Rel s.InForce (scenario.defaultFor powerType)
      (s.books.market.defaultFor powerType)) ∧
    ∀ (number : Nat) (plan : CustomerPlan R), scenario.customers[number]? = some plan →
      ∃ default signup, s.books.market.defaultFor plan.powerType = some default ∧
        (s.books.journal.ofKind .signup).find? (fun t => t.customer == ⟨number⟩) = some signup ∧
        signup.tariff = default.id ∧ signup.count = plan.population := by
  have census := Scenario.census_of_valid valid small
  have punctual : Punctual scenario s := reached ▸ punctual_afterCalls scenario calls
  have registered : Registered scenario s.cycle s := reached ▸ registered_afterCalls valid calls
  have served : Served scenario s := by
    subst reached
    exact served_afterCalls valid census calls begun
  have founded : Founded scenario s := by
    subst reached
    exact founded_afterCalls valid census calls begun
  have agree := registered.rel_defaultFor valid served fun plan planned isDefault id entered => by
    have early : plan.publishCycle < s.cycle := by
      rw [Scenario.publishCycle_of_valid valid planned isDefault]
      exact begun
    obtain ⟨own, found, unique⟩ := punctual.exists_tariffId? valid planned early
    rw [found, unique id entered]
  refine ⟨agree, fun number plan found => ?_⟩
  obtain ⟨tariff, id, planned, known, first⟩ :=
    founded _ (Scenario.mem_people.2 ⟨number, plan, found, rfl⟩)
  have agrees := agree plan.powerType
  rw [show scenario.defaultFor plan.powerType = some tariff from planned] at agrees
  cases default : s.books.market.defaultFor plan.powerType with
  | none =>
      rw [default] at agrees
      cases agrees
  | some default' =>
      rw [default] at agrees
      cases agrees with
      | some inForce =>
          rw [Journal.signups, List.find?_map, Option.map_eq_some_iff] at first
          obtain ⟨signup, foundFirst, same⟩ := first
          have ids : some id = some default'.id := known.symm.trans inForce.published
          have key := congrArg Prod.fst same
          refine ⟨default', signup, rfl, foundFirst, ?_, congrArg Prod.snd same⟩
          rw [← Option.some.inj ids]
          exact congrArg SubscriptionKey.tariff key

/-- The solar park of the baseline has no default of its own type: it is first signed up to that of
production, and its forty members together. -/
theorem defaults_agree_baseline :
    ∃ default signup,
      ((fresh .baseline : Simulation ChaChaStream Float).afterCalls 3).books.market.defaultFor
        .solarProduction = some default ∧
      ((fresh .baseline : Simulation ChaChaStream Float).afterCalls 3).tariffId?
        "default-production" = some default.id ∧
      (((fresh .baseline : Simulation ChaChaStream Float).afterCalls 3).books.journal.ofKind
        .signup).find? (fun t => t.customer == ⟨1⟩) = some signup ∧
      signup.tariff = default.id ∧ signup.count = 40 := by
  have valid : (Scenario.baseline : Scenario Float).problems = [] := by decide +kernel
  have small : (Scenario.baseline.customers.map
      fun plan : CustomerPlan Float => plan.population).sum < 2 ^ 63 := by decide
  have cycle := cycle_afterCalls (G := ChaChaStream) valid
    (Scenario.census_of_valid valid small) (by decide) 3
  have begun :
      0 < ((fresh Scenario.baseline : Simulation ChaChaStream Float).afterCalls 3).cycle := by
    rw [cycle]
    decide
  obtain ⟨agree, signups⟩ :=
    defaults_agree (G := ChaChaStream) .baseline valid small 3 _ rfl begun
  obtain ⟨plan, planned, key⟩ : ∃ plan : TariffPlan Float,
      Scenario.baseline.defaultFor .solarProduction = some plan ∧
        plan.key = "default-production" := ⟨_, rfl, rfl⟩
  obtain ⟨default, signup, found, first, onto, all⟩ := signups 1 Scenario.solarPark rfl
  have inForce := agree .solarProduction
  rw [show Scenario.solarPark.powerType = .solarProduction from rfl] at found
  rw [planned, found] at inForce
  cases inForce with
  | some inForce =>
      rw [← key]
      exact ⟨default, signup, found, inForce.published, first, onto, all⟩

end Simulation

end RetailMarket
