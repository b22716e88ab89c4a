import RetailMarket.Proofs.Orders
import RetailMarket.Simulation.State

/-!
# Placements and evaluations of all populations

Populations queue their directives one after the other, each for itself, so that no two directives
share a subscription and the sum for each population is its own: its size when it is placed, and
zero when it evaluates.  Either queue can be executed.
-/

namespace RetailMarket

variable {R : Type} {populations : List Customer}

/-! ## A round of orders -/

/-- The orders of several customers, each customer's after those of the customers before it. -/
inductive Round (books : Books R) : List Customer → List (Directive R) → Prop where
  | nil : Round books [] []
  | cons {customer : Customer} {rest : List Customer} {first later : List (Directive R)} :
      Evaluator.Orders books customer first → Round books rest later →
        Round books (customer :: rest) (first ++ later)

namespace Evaluator

theorem Orders.of_queued {before after : Books R} {queue orders : List (Directive R)}
    {customer : Customer} (queued : Books.Queued queue before after)
    (ordered : Orders after customer orders) : Orders before customer orders := by
  refine ⟨ordered.own, ordered.distinct, ordered.moving, ?_, ?_, ordered.balanced⟩
  · intro directive listed positive
    rw [← queued.catalogue]
    exact ordered.offered directive listed positive
  · intro directive listed negative
    rw [Roster.holds_congr queued.commitments.symm]
    exact ordered.covered directive listed negative

theorem Orders.keys_customer {books : Books R} {customer : Customer}
    {orders : List (Directive R)} (ordered : Orders books customer orders)
    {key : SubscriptionKey} (listed : key ∈ orders.map Directive.key) :
    key.customer = customer.id := by
  obtain ⟨directive, member, rfl⟩ := List.mem_map.1 listed
  exact ordered.own directive member

theorem Orders.sum_eq_zero {books : Books R} {customer : Customer}
    {orders : List (Directive R)} (ordered : Orders books customer orders) (id : CustomerId) :
    ((orders.filter fun directive => directive.key.customer == id).map (·.count)).sum = 0 := by
  by_cases same : customer.id = id
  · have all : orders.filter (fun directive => directive.key.customer == id) = orders :=
      List.filter_eq_self.2 fun directive listed => by
        rw [ordered.own directive listed, same, beq_self_eq_true]
    rw [all, ordered.balanced]
  · have none : orders.filter (fun directive => directive.key.customer == id) = [] :=
      List.filter_eq_nil_iff.2 fun directive listed found => by
        rw [ordered.own directive listed] at found
        exact same (by simpa using found)
    rw [none]
    rfl

end Evaluator

namespace Round

variable {books : Books R} {customers : List Customer} {orders : List (Directive R)}

theorem of_queued {before after : Books R} {queue : List (Directive R)}
    (queued : Books.Queued queue before after) (round : Round after customers orders) :
    Round before customers orders := by
  induction round with
  | nil => exact .nil
  | cons ordered _ ih => exact .cons (ordered.of_queued queued) ih

theorem exists_orders (round : Round books customers orders) {directive : Directive R}
    (listed : directive ∈ orders) :
    ∃ customer ∈ customers, ∃ own, Evaluator.Orders books customer own ∧ directive ∈ own := by
  induction round with
  | nil => cases listed
  | @cons customer _ own _ ordered _ ih =>
      rcases List.mem_append.1 listed with first | later
      · exact ⟨customer, List.mem_cons_self, own, ordered, first⟩
      · obtain ⟨other, member, found⟩ := ih later
        exact ⟨other, List.mem_cons_of_mem _ member, found⟩

theorem nodup_keys (round : Round books customers orders)
    (distinct : (customers.map Customer.id).Nodup) : (orders.map Directive.key).Nodup := by
  induction round with
  | nil => exact List.nodup_nil
  | cons ordered rest ih =>
      obtain ⟨fresh, distinctRest⟩ := List.nodup_cons.1 distinct
      rw [List.map_append]
      refine ordered.distinct.append (ih distinctRest) ?_
      -- A key that comes again later would be that of another customer's order.
      intro key first later
      obtain ⟨directive, listed, same⟩ := List.mem_map.1 later
      obtain ⟨other, member, own, orderedOther, found⟩ := rest.exists_orders listed
      have whose := orderedOther.own directive found
      rw [same, ordered.keys_customer first] at whose
      exact fresh (whose ▸ List.mem_map_of_mem member)

theorem sum_eq_zero (round : Round books customers orders) (id : CustomerId) :
    ((orders.filter fun directive => directive.key.customer == id).map (·.count)).sum = 0 := by
  induction round with
  | nil => rfl
  | cons ordered _ ih =>
      rw [List.filter_append, List.map_append, List.sum_append, ih, ordered.sum_eq_zero]
      rfl

theorem executable {before after : Books R} (queued : Books.Queued orders before after)
    (idle : before.market.pending = []) (round : Round before customers orders)
    (distinct : (customers.map Customer.id).Nodup)
    (known : ∀ customer ∈ customers, customer ∈ populations) :
    after.Executable populations := by
  have pending : after.market.pending = orders := queued.pending idle
  refine ⟨?_, ?_, ?_, ?_⟩
  · intro directive listed
    rw [pending] at listed
    obtain ⟨_, -, _, ordered, found⟩ := round.exists_orders listed
    exact ordered.moving directive found
  · intro directive listed
    obtain ⟨member, positive⟩ := Books.mem_signups.1 listed
    rw [pending] at member
    obtain ⟨customer, who, _, ordered, found⟩ := round.exists_orders member
    obtain ⟨offered, same⟩ := ordered.offered directive found positive
    rw [queued.catalogue, same]
    exact ⟨offered, known customer who⟩
  · intro directive listed
    obtain ⟨member, negative⟩ := Books.mem_withdrawals.1 listed
    rw [pending] at member
    obtain ⟨_, -, _, ordered, found⟩ := round.exists_orders member
    rw [Roster.holds_congr queued.commitments]
    exact ordered.covered directive found negative
  · have sub := (List.filter_sublist
      (p := fun directive : Directive R => decide (directive.count < 0))
      (l := orders)).map Directive.key
    rw [Market.withdrawals, pending]
    exact (round.nodup_keys distinct).sublist sub

end Round

/-! ## Evaluations -/

namespace Evaluator

variable {M : Type} [Quantity R] [CustomerModel M R]

theorem customers_evaluateEach (now : Instant) (books : Books R) (es : List (Evaluator M R)) :
    (evaluateEach now books es).1.map Evaluator.customer = es.map Evaluator.customer := by
  induction es generalizing books with
  | nil => rfl
  | cons e rest ih =>
      simp only [evaluateEach, List.map_cons, customer_evaluate, ih]

theorem exists_round_evaluateEach {books : Books R} (sound : books.Sound populations)
    (small : ∀ subscription ∈ books.roster.toList, subscription.committed < 2 ^ 63)
    (es : List (Evaluator M R)) (now : Instant) :
    ∃ orders, Books.Queued orders books (evaluateEach now books es).2 ∧
      Round books (es.map Evaluator.customer) orders ∧
      ∀ e ∈ (evaluateEach now books es).1, e.allocationBalance = 0 := by
  induction es generalizing books with
  | nil => exact ⟨[], Books.Queued.refl books, .nil, by simp [evaluateEach]⟩
  | cons e rest ih =>
      obtain ⟨first, queuedFirst, ordered, balanced⟩ := exists_orders_evaluate sound small e now
      obtain ⟨later, queuedLater, round, balancedLater⟩ :=
        ih (queuedFirst.sound sound) (queuedFirst.small small)
      refine ⟨first ++ later, queuedFirst.trans queuedLater,
        .cons ordered (round.of_queued queuedFirst), ?_⟩
      intro other listed
      rcases List.mem_cons.1 listed with rfl | listedLater
      · exact balanced
      · exact balancedLater other listedLater

end Evaluator

/-! ## Placements -/

structure Places (books : Books R) (customer : Customer) (directive : Directive R) : Prop where
  owner : directive.customer = customer
  count : directive.count = customer.population
  offered : books.catalogue.Offers directive.tariff

namespace Simulation

variable {G : Type} [Quantity R]

omit [Quantity R] in
theorem exists_queued_place {books : Books R} (sound : books.Sound populations)
    (e : Evaluator (SampledCustomer G R) R) (positive : 0 < e.customer.population)
    (small : e.customer.population < 2 ^ 63)
    (served : (books.market.defaultFor e.customer.powerType).isSome) :
    ∃ directive, Books.Queued [directive] books (place books e) ∧
      Places books e.customer directive := by
  obtain ⟨default, found⟩ := Option.isSome_iff_exists.1 served
  refine ⟨⟨e.customer, default, e.customer.population⟩, ?_, rfl, rfl,
    sound.defaults.defaultFor found⟩
  simp only [place, found, signed_of_lt small]
  exact Books.queued_direct books default e.customer (by omega)

theorem exists_queued_placeEach {books : Books R} (sound : books.Sound populations)
    (es : List (Evaluator (SampledCustomer G R) R))
    (sized : ∀ e ∈ es, 0 < e.customer.population ∧ e.customer.population < 2 ^ 63)
    (served : ∀ e ∈ es, (books.market.defaultFor e.customer.powerType).isSome) :
    ∃ orders, Books.Queued orders books (es.foldl place books) ∧
      List.Forall₂ (Places books) (es.map Evaluator.customer) orders := by
  induction es generalizing books with
  | nil => exact ⟨[], Books.Queued.refl books, .nil⟩
  | cons e rest ih =>
      obtain ⟨positive, small⟩ := sized e List.mem_cons_self
      obtain ⟨directive, queued, places⟩ :=
        exists_queued_place sound e positive small (served e List.mem_cons_self)
      obtain ⟨later, queuedLater, placesLater⟩ := ih (queued.sound sound)
        (fun other listed => sized other (List.mem_cons_of_mem _ listed))
        (fun other listed => by
          rw [queued.defaultFor]
          exact served other (List.mem_cons_of_mem _ listed))
      refine ⟨directive :: later, queued.trans queuedLater, .cons places ?_⟩
      refine placesLater.imp fun _ _ placed => ⟨placed.owner, placed.count, ?_⟩
      rw [← queued.catalogue]
      exact placed.offered

end Simulation

section Placements

variable {books : Books R} {customers : List Customer} {orders : List (Directive R)}

theorem exists_of_placed (placed : List.Forall₂ (Places books) customers orders)
    {directive : Directive R} (listed : directive ∈ orders) :
    ∃ customer ∈ customers, Places books customer directive := by
  induction placed with
  | nil => cases listed
  | @cons customer _ _ _ places _ ih =>
      rcases List.mem_cons.1 listed with rfl | later
      · exact ⟨customer, List.mem_cons_self, places⟩
      · obtain ⟨other, member, found⟩ := ih later
        exact ⟨other, List.mem_cons_of_mem _ member, found⟩

theorem sum_of_placed (placed : List.Forall₂ (Places books) customers orders)
    (distinct : (customers.map Customer.id).Nodup) {customer : Customer}
    (listed : customer ∈ customers) :
    ((orders.filter fun directive => directive.key.customer == customer.id).map
      (·.count)).sum = customer.population := by
  induction placed with
  | nil => cases listed
  | @cons first directive rest orders places placedRest ih =>
      obtain ⟨fresh, distinctRest⟩ := List.nodup_cons.1 distinct
      have key : directive.key.customer = first.id := congrArg Customer.id places.owner
      rcases List.mem_cons.1 listed with rfl | later
      · have others :
            orders.filter (fun other => other.key.customer == customer.id) = [] := by
          rw [List.filter_eq_nil_iff]
          intro other member same
          obtain ⟨owner, who, placesOther⟩ := exists_of_placed placedRest member
          have whose : other.key.customer = owner.id := congrArg Customer.id placesOther.owner
          rw [whose, beq_iff_eq] at same
          exact fresh (same ▸ List.mem_map_of_mem who)
        rw [List.filter_cons_of_pos (by rw [key, beq_self_eq_true]), others]
        simp [places.count]
      · have different : first.id ≠ customer.id := by
          intro same
          exact fresh (same ▸ List.mem_map_of_mem later)
        rw [List.filter_cons_of_neg (by rw [key, beq_iff_eq]; exact different)]
        exact ih distinctRest later

theorem executable_of_placed {before after : Books R}
    (queued : Books.Queued orders before after) (idle : before.market.pending = [])
    (placed : List.Forall₂ (Places before) customers orders)
    (populated : ∀ customer ∈ customers, 0 < customer.population)
    (known : ∀ customer ∈ customers, customer ∈ populations) :
    after.Executable populations := by
  have pending : after.market.pending = orders := queued.pending idle
  have positive (directive : Directive R) (listed : directive ∈ orders) : 0 < directive.count := by
    obtain ⟨customer, who, places⟩ := exists_of_placed placed listed
    rw [places.count]
    exact_mod_cast populated customer who
  have staying : after.market.withdrawals = [] := by
    rw [Market.withdrawals, pending, List.filter_eq_nil_iff]
    intro directive listed leaving
    exact absurd (of_decide_eq_true leaving) (Int.not_lt.2 (positive directive listed).le)
  refine ⟨?_, ?_, ?_, ?_⟩
  · intro directive listed
    rw [pending] at listed
    exact (positive directive listed).ne'
  · intro directive listed
    have member := (Books.mem_signups.1 listed).1
    rw [pending] at member
    obtain ⟨customer, who, places⟩ := exists_of_placed placed member
    rw [queued.catalogue, places.owner]
    exact ⟨places.offered, known customer who⟩
  · intro directive listed
    rw [staying] at listed
    cases listed
  · rw [staying]
    exact List.nodup_nil

end Placements

end RetailMarket
