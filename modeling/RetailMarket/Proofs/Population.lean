import RetailMarket.Proofs.Migration
import RetailMarket.Proofs.Round

/-!
# Populations through a settlement

Books are `Complete` when the subscriptions of every customer add up to its population, nothing is
left in the queue and every customer has a default tariff.  Placements make them so; evaluations and
migrations, once settled, keep them so.
-/

namespace RetailMarket

/-! ## Counting members -/

theorem sum_ite_eq {α : Type} [DecidableEq α] {labels : List α} (distinct : labels.Nodup) {x : α}
    (listed : x ∈ labels) (count : Nat) :
    (labels.map fun label => if x = label then count else 0).sum = count := by
  induction labels with
  | nil => cases listed
  | cons label rest ih =>
      obtain ⟨fresh, distinctRest⟩ := List.nodup_cons.1 distinct
      by_cases same : x = label
      · subst same
        have others : (rest.map fun label => if x = label then count else 0) =
            rest.map fun _ => 0 := by
          refine List.map_congr_left fun label member => if_neg ?_
          rintro rfl
          exact fresh member
        simp [others]
      · have later : x ∈ rest := (List.mem_cons.1 listed).resolve_left same
        simp [same, ih distinctRest later]

theorem Roster.sum_members {R α : Type} [DecidableEq α] (roster : Roster R)
    (view : SubscriptionKey → α) {labels : List α} (distinct : labels.Nodup)
    (labelled : ∀ subscription ∈ roster.toList, view subscription.key ∈ labels) :
    (labels.map fun label => roster.members fun key => view key == label).sum =
      roster.members fun _ => true := by
  unfold members
  generalize roster.toList = subscriptions at labelled ⊢
  induction subscriptions with
  | nil => simp
  | cons subscription rest ih =>
      have later := ih fun other listed => labelled other (List.mem_cons_of_mem _ listed)
      have own := sum_ite_eq distinct (labelled subscription List.mem_cons_self)
        subscription.committed
      have split (label : α) :
          (((subscription :: rest).filter fun s => view s.key == label).map (·.committed)).sum =
            (if view subscription.key = label then subscription.committed else 0) +
              ((rest.filter fun s => view s.key == label).map (·.committed)).sum := by
        rw [List.filter_cons]
        by_cases same : view subscription.key = label <;> simp [same]
      simp only [split, List.sum_map_add, own, later]
      simp

/-! ## Complete books -/

/-- Customers that differ, each with members and all together few enough to be counted with a
sign. -/
structure Census (people : List Customer) : Prop where
  distinct : (people.map Customer.id).Nodup
  populated : ∀ customer ∈ people, 0 < customer.population
  small : (people.map Customer.population).sum < 2 ^ 63

theorem Census.population_lt {people : List Customer} (census : Census people)
    {customer : Customer} (listed : customer ∈ people) : customer.population < 2 ^ 63 :=
  lt_of_le_of_lt
    (List.single_le_sum (fun _ _ => Nat.zero_le _) _ (List.mem_map_of_mem listed)) census.small

theorem Census.eq_of_id_eq {people : List Customer} (census : Census people)
    {first second : Customer} (listed : first ∈ people) (listed' : second ∈ people)
    (same : first.id = second.id) : first = second :=
  List.inj_on_of_nodup_map census.distinct listed listed' same

namespace Books

variable {R : Type}

/-- Sound books with an empty queue and a default tariff for every customer. -/
structure Ready (people : List Customer) (books : Books R) : Prop where
  sound : books.Sound people
  idle : books.market.pending = []
  served : ∀ customer ∈ people, (books.market.defaultFor customer.powerType).isSome

structure Complete (people : List Customer) (books : Books R) : Prop extends
    Ready people books where
  conserved : ∀ customer ∈ people, books.roster.committedFor customer.id = customer.population

variable {people : List Customer} {books after : Books R}

theorem Complete.small (complete : books.Complete people) (census : Census people) :
    ∀ subscription ∈ books.roster.toList, subscription.committed < 2 ^ 63 := by
  intro subscription listed
  have owner := complete.sound.placed subscription listed
  have most : subscription.committed ≤
      books.roster.members fun key => key.customer == subscription.customer.id :=
    Roster.committed_le_members listed (beq_self_eq_true subscription.customer.id)
  rw [← Roster.committedFor_eq, complete.conserved _ owner] at most
  exact lt_of_le_of_lt most (census.population_lt owner)

theorem Complete.members_eq (complete : books.Complete people) (census : Census people) :
    (books.roster.members fun _ => true) = (people.map Customer.population).sum := by
  have labelled (subscription : Subscription R) (listed : subscription ∈ books.roster.toList) :
      subscription.key.customer ∈ people.map Customer.id :=
    List.mem_map_of_mem (complete.sound.placed subscription listed)
  rw [← books.roster.sum_members SubscriptionKey.customer census.distinct labelled, List.map_map]
  congr 1
  exact List.map_congr_left fun customer listed => complete.conserved customer listed

variable [Quantity R]

theorem Ready.settle (ready : books.Ready people) {orders : List (Directive R)}
    (queued : Queued orders books after) (executable : after.Executable people)
    (sums : ∀ customer ∈ people,
      (books.roster.committedFor customer.id : Int) +
        ((orders.filter fun directive => directive.key.customer == customer.id).map
          (·.count)).sum = customer.population) (now : Instant) :
    (after.settle now).1.Complete people := by
  have soundAfter := queued.sound ready.sound
  have pending : after.market.pending = orders := queued.pending ready.idle
  refine ⟨⟨soundAfter.settle executable now, ?_, ?_⟩, ?_⟩
  · rw [market_settle]
    rfl
  · intro customer listed
    rw [market_settle]
    have kept := queued.defaultFor customer.powerType
    exact kept ▸ ready.served customer listed
  · intro customer listed
    have moves := (executable.carriesOut soundAfter.roster now).moves
      fun key => key.customer == customer.id
    have total := sums customer listed
    rw [pending, Roster.members_congr queued.commitments, ← Roster.committedFor_eq,
      ← Roster.committedFor_eq, total] at moves
    exact_mod_cast moves

theorem Complete.settle_evaluations {M : Type} [CustomerModel M R] (complete : books.Complete people)
    (census : Census people) {es : List (Evaluator M R)}
    (all : es.map Evaluator.customer = people) (now : Instant) :
    (∃ orders, Queued orders books (Evaluator.evaluateEach now books es).2) ∧
      (Evaluator.evaluateEach now books es).2.Executable people ∧
      ((Evaluator.evaluateEach now books es).2.settle now).1.Complete people ∧
      (Evaluator.evaluateEach now books es).1.map Evaluator.customer = people ∧
      ∀ e ∈ (Evaluator.evaluateEach now books es).1, e.allocationBalance = 0 := by
  obtain ⟨orders, queued, round, balanced⟩ :=
    Evaluator.exists_round_evaluateEach complete.sound (complete.small census) es now
  rw [all] at round
  have executable := round.executable queued complete.idle census.distinct fun _ listed => listed
  refine ⟨⟨orders, queued⟩, executable, ?_, (Evaluator.customers_evaluateEach now books es).trans all,
    balanced⟩
  refine complete.toReady.settle queued executable (fun customer listed => ?_) now
  rw [round.sum_eq_zero, complete.conserved customer listed, add_zero]

theorem Complete.settle_migrations (complete : books.Complete people) (census : Census people)
    (now : Instant) :
    (∃ orders, Queued orders books (migrateEach now books books.roster.toList).2) ∧
      (migrateEach now books books.roster.toList).2.Executable people ∧
      ((migrateEach now books books.roster.toList).2.settle now).1.Complete people ∧
      ((migrateEach now books books.roster.toList).2.settle now).1.Vacated ∧
      ∀ outcome ∈ (migrateEach now books books.roster.toList).1, outcome ≠ .noReplacement := by
  have queued : Queued (books.roster.toList.flatMap (books.relocation now)) books
      (migrateEach now books books.roster.toList).2 :=
    queued_migrateEach now (complete.small census)
  have executable := executable_of_migrated complete.sound complete.idle queued
  refine ⟨⟨_, queued⟩, executable, ?_,
    vacated_of_migrated complete.sound complete.idle complete.served queued, ?_⟩
  · refine complete.toReady.settle queued executable (fun customer listed => ?_) now
    rw [sum_relocation_customer, complete.conserved customer listed, add_zero]
  · intro outcome listed
    exact ne_noReplacement_of_mem_migrateEach (complete.small census)
      (fun subscription member => complete.served _ (complete.sound.placed _ member)) listed

theorem Ready.settle_placements {G : Type} (ready : books.Ready people)
    (census : Census people) (vacant : books.roster.toList = [])
    {es : List (Evaluator (SampledCustomer G R) R)}
    (all : es.map Evaluator.customer = people) (now : Instant) :
    (∃ orders, Queued orders books (es.foldl Simulation.place books)) ∧
      (es.foldl Simulation.place books).Executable people ∧
      ((es.foldl Simulation.place books).settle now).1.Complete people := by
  have listed (e : Evaluator (SampledCustomer G R) R) (member : e ∈ es) : e.customer ∈ people :=
    all ▸ List.mem_map_of_mem member
  obtain ⟨orders, queued, placed⟩ := Simulation.exists_queued_placeEach ready.sound es
    (fun e member => ⟨census.populated _ (listed e member), census.population_lt (listed e member)⟩)
    (fun e member => ready.served _ (listed e member))
  rw [all] at placed
  have executable := executable_of_placed queued ready.idle placed census.populated
    fun _ listed => listed
  refine ⟨⟨orders, queued⟩, executable, ?_⟩
  refine ready.settle queued executable (fun customer listed => ?_) now
  have nobody : books.roster.committedFor customer.id = 0 := by
    rw [Roster.committedFor, vacant]
    rfl
  rw [sum_of_placed placed census.distinct listed, nobody]
  exact zero_add _

end Books

end RetailMarket
