import RetailMarket.Proofs.Departures
import RetailMarket.Proofs.Queue

/-!
# The orders of an evaluation

An evaluation queues one directive for each net change that is not zero.  Its `Orders` concern one
customer and each tariff once, add up to zero, sign members up to tariffs on offer only, and take
from no subscription more members than it has.
-/

namespace RetailMarket

namespace Evaluator

variable {M R : Type} [Quantity R]

/-! ## Issuing net changes -/

structure Issues (customer : Customer) (allocation : Tariff R × Int)
    (directive : Directive R) : Prop where
  key : directive.key = ⟨customer.id, allocation.1.id⟩
  count : directive.count = allocation.2
  signup : 0 < allocation.2 → directive.tariff = allocation.1 ∧ directive.customer = customer

def IsCovered (books : Books R) (customer : Customer) (allocation : Tariff R × Int) : Prop :=
  allocation.2 < 0 → allocation.2.natAbs < 2 ^ 63 ∧
    books.roster.Holds ⟨customer.id, allocation.1.id⟩ allocation.2.natAbs

omit [Quantity R] in
theorem exists_queued_issue {books : Books R} (faithful : books.roster.Faithful)
    {customer : Customer} {allocation : Tariff R × Int}
    (covered : IsCovered books customer allocation) :
    ∃ orders, Books.Queued orders books (issue customer books allocation) ∧
      List.Forall₂ (Issues customer) ([allocation].filter fun a => decide (a.2 ≠ 0)) orders := by
  obtain ⟨tariff, change⟩ := allocation
  rcases lt_trichotomy change 0 with negative | zero | positive
  · obtain ⟨small, holds⟩ := covered negative
    obtain ⟨subscription, found, -⟩ := holds.exists_find? faithful
    have key : subscription.key = ⟨customer.id, tariff.id⟩ :=
      ((Roster.find?_eq_some_iff faithful).1 found).2
    have size : -(change.natAbs : Int) = change := by omega
    have queued := Books.queued_unsubscribe faithful found (by omega) small
    rw [size] at queued
    refine ⟨[⟨subscription.customer, subscription.tariff, change⟩], ?_, ?_⟩
    · rw [issue, if_pos negative]
      exact queued
    · rw [List.filter_cons_of_pos (by simp; omega), List.filter_nil]
      refine List.Forall₂.cons ⟨key, rfl, ?_⟩ List.Forall₂.nil
      intro positive
      exact absurd negative (Int.not_lt.2 positive.le)
  · subst zero
    exact ⟨[], by simpa [issue, Books.direct, Market.direct] using Books.Queued.refl books,
      by simp⟩
  · refine ⟨[⟨customer, tariff, change⟩], ?_, ?_⟩
    · rw [issue, if_neg (Int.not_lt.2 positive.le)]
      exact Books.queued_direct books tariff customer positive.ne'
    · rw [List.filter_cons_of_pos (by simp; omega), List.filter_nil]
      exact List.Forall₂.cons ⟨rfl, rfl, fun _ => ⟨rfl, rfl⟩⟩ List.Forall₂.nil

omit [Quantity R] in
theorem exists_queued_issueAll {books : Books R} (faithful : books.roster.Faithful)
    {customer : Customer} {allocations : List (Tariff R × Int)}
    (covered : ∀ allocation ∈ allocations, IsCovered books customer allocation) :
    ∃ orders, Books.Queued orders books (allocations.foldl (issue customer) books) ∧
      List.Forall₂ (Issues customer) (allocations.filter fun a => decide (a.2 ≠ 0)) orders := by
  induction allocations generalizing books with
  | nil => exact ⟨[], Books.Queued.refl books, List.Forall₂.nil⟩
  | cons allocation rest ih =>
      obtain ⟨first, queuedFirst, issuesFirst⟩ :=
        exists_queued_issue faithful (covered allocation List.mem_cons_self)
      obtain ⟨later, queuedLater, issuesLater⟩ := ih (queuedFirst.faithful faithful) (by
        intro other listed negative
        have holds := covered other (List.mem_cons_of_mem _ listed) negative
        rw [Roster.holds_congr queuedFirst.commitments]
        exact holds)
      refine ⟨first ++ later, queuedFirst.trans queuedLater, ?_⟩
      have split : (allocation :: rest).filter (fun a => decide (a.2 ≠ 0)) =
          [allocation].filter (fun a => decide (a.2 ≠ 0)) ++
            rest.filter fun a => decide (a.2 ≠ 0) := by
        rw [← List.filter_append, List.singleton_append]
      rw [split]
      exact List.rel_append issuesFirst issuesLater

omit [Quantity R] in
theorem keys_of_issued {customer : Customer} {allocations : List (Tariff R × Int)}
    {orders : List (Directive R)} (issued : List.Forall₂ (Issues customer) allocations orders) :
    orders.map Directive.key =
      allocations.map fun allocation => ⟨customer.id, allocation.1.id⟩ := by
  induction issued with
  | nil => rfl
  | cons issues _ ih => rw [List.map_cons, List.map_cons, ih, issues.key]

omit [Quantity R] in
theorem counts_of_issued {customer : Customer} {allocations : List (Tariff R × Int)}
    {orders : List (Directive R)} (issued : List.Forall₂ (Issues customer) allocations orders) :
    orders.map (·.count) = allocations.map Prod.snd := by
  induction issued with
  | nil => rfl
  | cons issues _ ih => rw [List.map_cons, List.map_cons, ih, issues.count]

omit [Quantity R] in
theorem exists_of_issued {customer : Customer} {allocations : List (Tariff R × Int)}
    {orders : List (Directive R)} (issued : List.Forall₂ (Issues customer) allocations orders)
    {directive : Directive R} (listed : directive ∈ orders) :
    ∃ allocation ∈ allocations, Issues customer allocation directive := by
  induction issued with
  | nil => cases listed
  | @cons allocation _ _ _ issues _ ih =>
      rcases List.mem_cons.1 listed with rfl | later
      · exact ⟨allocation, List.mem_cons_self, issues⟩
      · obtain ⟨other, member, issuesOther⟩ := ih later
        exact ⟨other, List.mem_cons_of_mem _ member, issuesOther⟩

/-! ## Orders -/

structure Orders (books : Books R) (customer : Customer) (orders : List (Directive R)) :
    Prop where
  own : ∀ directive ∈ orders, directive.key.customer = customer.id
  distinct : (orders.map Directive.key).Nodup
  moving : ∀ directive ∈ orders, directive.count ≠ 0
  offered : ∀ directive ∈ orders, 0 < directive.count →
    books.catalogue.Offers directive.tariff ∧ directive.customer = customer
  covered : ∀ directive ∈ orders, directive.count < 0 →
    books.roster.Holds directive.key directive.count.natAbs
  balanced : (orders.map (·.count)).sum = 0

/-- The net changes of an evaluation: each tariff once, in balance, and of each tariff no more
members leaving than there are, nor any joining unless it is on offer. -/
structure Allotted (books : Books R) (customer : Customer)
    (allocations : List (Tariff R × Int)) : Prop where
  distinct : (allocations.map fun allocation => allocation.1.id).Nodup
  balanced : (allocations.map Prod.snd).sum = 0
  covered : ∀ allocation ∈ allocations, IsCovered books customer allocation
  offered : ∀ allocation ∈ allocations, 0 < allocation.2 → books.catalogue.Offers allocation.1

omit [Quantity R] in
theorem sum_filter_ne_zero (allocations : List (Tariff R × Int)) :
    ((allocations.filter fun a => decide (a.2 ≠ 0)).map Prod.snd).sum =
      (allocations.map Prod.snd).sum := by
  induction allocations with
  | nil => rfl
  | cons allocation rest ih =>
      by_cases zero : allocation.2 = 0 <;> simp [zero, ← ih]

omit [Quantity R] in
theorem Allotted.orders {books : Books R} {customer : Customer}
    {allocations : List (Tariff R × Int)} (allotted : Allotted books customer allocations)
    {orders : List (Directive R)}
    (issued : List.Forall₂ (Issues customer)
      (allocations.filter fun a => decide (a.2 ≠ 0)) orders) :
    Orders books customer orders := by
  have source (directive : Directive R) (listed : directive ∈ orders) :
      ∃ allocation ∈ allocations, allocation.2 ≠ 0 ∧ Issues customer allocation directive := by
    obtain ⟨allocation, member, issues⟩ := exists_of_issued issued listed
    simp only [List.mem_filter, decide_eq_true_eq] at member
    exact ⟨allocation, member.1, member.2, issues⟩
  refine ⟨?_, ?_, ?_, ?_, ?_, ?_⟩
  · intro directive listed
    obtain ⟨allocation, -, -, issues⟩ := source directive listed
    rw [issues.key]
  · rw [keys_of_issued issued]
    have distinct : ((allocations.filter fun a => decide (a.2 ≠ 0)).map
        fun allocation => allocation.1.id).Nodup :=
      allotted.distinct.sublist (List.filter_sublist.map _)
    have inject : Function.Injective fun id : TariffId =>
        (⟨customer.id, id⟩ : SubscriptionKey) := fun _ _ same => by simpa using same
    simpa [List.map_map, Function.comp_def] using distinct.map inject
  · intro directive listed
    obtain ⟨allocation, -, moves, issues⟩ := source directive listed
    rw [issues.count]
    exact moves
  · intro directive listed positive
    obtain ⟨allocation, member, -, issues⟩ := source directive listed
    rw [issues.count] at positive
    obtain ⟨tariff, who⟩ := issues.signup positive
    rw [tariff, who]
    exact ⟨allotted.offered allocation member positive, rfl⟩
  · intro directive listed negative
    obtain ⟨allocation, member, -, issues⟩ := source directive listed
    rw [issues.count] at negative ⊢
    rw [issues.key]
    exact (allotted.covered allocation member negative).2
  · rw [counts_of_issued issued, sum_filter_ne_zero]
    exact allotted.balanced

/-! ## The orders of one evaluation -/

variable {populations : List Customer}

omit [Quantity R] in
theorem leaving_le_members (roster : Roster R) (customer : CustomerId) (id : TariffId) :
    (((roster.activeOf customer).filter fun s => s.tariff.id == id).map (·.committed)).sum ≤
      roster.members fun key => key == ⟨customer, id⟩ := by
  rw [Roster.activeOf, List.filter_filter]
  refine List.Sublist.sum_le_sum (List.Sublist.map _ (List.monotone_filter_right _ ?_))
    fun _ _ => Nat.zero_le _
  intro subscription kept
  simp only [Bool.and_eq_true, beq_iff_eq] at kept
  simp [Subscription.key, kept.1, kept.2.1]

omit [Quantity R] in
theorem covered_of_moves {books : Books R} (faithful : books.roster.Faithful)
    {customer : Customer} {kind : Tariff R → Prop} {moves : List (List (Move R))}
    (off : MovesOffEach kind (books.roster.activeOf customer.id) moves)
    (small : ∀ subscription ∈ books.roster.activeOf customer.id, subscription.committed < 2 ^ 63)
    {allocation : Tariff R × Int} (entered : allocation ∈ moves.flatten.foldl enter []) :
    IsCovered books customer allocation := by
  intro negative
  have size : ∀ move ∈ moves.flatten, signed move.count = move.count := by
    intro move member
    obtain ⟨subscription, active, -, -, sized⟩ := off.mem member
    exact sized (small _ active)
  have leaving := off.departures_le small allocation.1.id
  have most := leaving_le_members books.roster customer.id allocation.1.id
  have change := change_of_entered entered
  have arriving : 0 ≤ arrivals allocation.1.id moves.flatten := sum_counts_nonneg size _
  have holds : books.roster.Holds ⟨customer.id, allocation.1.id⟩ allocation.2.natAbs :=
    Roster.holds_of_le_members faithful (by omega) (by omega)
  obtain ⟨subscription, found, enough⟩ := holds.exists_find? faithful
  obtain ⟨listed, key⟩ := (Roster.find?_eq_some_iff faithful).1 found
  have active : subscription ∈ books.roster.activeOf customer.id :=
    Roster.mem_activeOf.2 ⟨listed, congrArg SubscriptionKey.customer key, by omega⟩
  have bound := small subscription active
  exact ⟨by omega, holds⟩

omit [Quantity R] in
theorem allotted_of_moves {books : Books R} (sound : books.Sound populations)
    (small : ∀ subscription ∈ books.roster.toList, subscription.committed < 2 ^ 63)
    {customer : Customer} {moves : List (List (Move R))}
    (off : MovesOffEach books.catalogue.Offers (books.roster.activeOf customer.id) moves) :
    Allotted books customer (moves.flatten.foldl enter []) := by
  have listed (subscription : Subscription R)
      (active : subscription ∈ books.roster.activeOf customer.id) :
      subscription ∈ books.roster.toList := (Roster.mem_activeOf.1 active).1
  have size : ∀ move ∈ moves.flatten, signed move.count = move.count := by
    intro move member
    obtain ⟨subscription, active, -, -, sized⟩ := off.mem member
    exact sized (small _ (listed _ active))
  refine ⟨nodup_enter_all _ List.nodup_nil, ?_, ?_, ?_⟩
  · rw [sum_enter_all]
    rfl
  · intro allocation entered
    exact covered_of_moves sound.roster off (fun s active => small s (listed s active)) entered
  · intro allocation entered positive
    have change := change_of_entered entered
    have leaving : 0 ≤ departures allocation.1.id moves.flatten := sum_counts_nonneg size _
    obtain ⟨move, member, here⟩ :=
      exists_of_arrivals_pos (show 0 < arrivals allocation.1.id moves.flatten by omega)
    obtain ⟨-, -, -, offered, -⟩ := off.mem member
    have published : allocation.1.contract = none := by
      rcases mem_enter_all entered with none | ⟨other, touching, origin | destination⟩
      · cases none
      · obtain ⟨subscription, active, left, -, -⟩ := off.mem touching
        rw [origin, left]
        exact (sound.known _ (listed _ active)).1
      · obtain ⟨-, -, -, offeredOther, -⟩ := off.mem touching
        rw [destination]
        exact offeredOther.1
    exact ⟨published, here ▸ offered.2⟩

variable [CustomerModel M R]

omit [Quantity R] [CustomerModel M R] in
theorem choosable_of_sound {books : Books R} (sound : books.Sound populations)
    {e : Evaluator M R} {comparison : Comparison R}
    (compared : comparison.candidates = e.candidates books comparison.now) {powerType : PowerType}
    (found : books.market.defaultFor powerType = some comparison.default)
    {subscription : Subscription R} (listed : subscription ∈ books.roster.toList) :
    Choosable books.catalogue.Offers powerType books comparison subscription.tariff := by
  refine ⟨?_, sound.defaults.defaultFor found, ?_, ?_⟩
  · intro tariff candidate
    rw [compared] at candidate
    rcases mem_pushUnique_all candidate with recent | superseding
    · exact Catalogue.offers_of_mem_recentOffers sound.catalogue recent
    · obtain ⟨revoked, -, found⟩ := List.mem_filterMap.1 superseding
      exact Market.offers_of_superseding? sound.catalogue found
  · intro successor found
    exact sound.defaults.successor? sound.catalogue found
  · intro alive
    exact (sound.known _ listed).offers_iff.2 alive

theorem exists_offers_evaluate {books : Books R} (sound : books.Sound populations)
    (e : Evaluator M R) (now : Instant) :
    ∃ moves, MovesOffEach books.catalogue.Offers (books.roster.activeOf e.customer.id) moves ∧
      Moved moves.flatten { e with allocations := [] } (evaluate e books now).1 := by
  refine exists_moves_evaluate e now ?_ ?_
  · intro subscription active
    exact (sound.recorded _ (Roster.mem_activeOf.1 active).1).expiredCount_le now
  · intro comparison compared timed found subscription active
    exact choosable_of_sound sound (timed ▸ compared) found (Roster.mem_activeOf.1 active).1

theorem issued_evaluate (e : Evaluator M R) (books : Books R) (now : Instant) :
    (evaluate e books now).2 =
      (evaluate e books now).1.allocations.foldl (issue e.customer) books := by
  have issued : (evaluate e books now).2 =
      (evaluate e books now).1.allocations.foldl
        (issue (evaluate e books now).1.customer) books := by
    simp only [evaluate]
    cases books.market.defaultFor e.customer.powerType <;> rfl
  rw [customer_evaluate] at issued
  exact issued

theorem exists_issued_evaluate {books : Books R} (sound : books.Sound populations)
    (small : ∀ subscription ∈ books.roster.toList, subscription.committed < 2 ^ 63)
    (e : Evaluator M R) (now : Instant) :
    Allotted books e.customer (evaluate e books now).1.allocations ∧
      ∃ orders, Books.Queued orders books (evaluate e books now).2 ∧
        List.Forall₂ (Issues e.customer)
          ((evaluate e books now).1.allocations.filter fun a => decide (a.2 ≠ 0)) orders := by
  obtain ⟨moves, off, moved⟩ := exists_offers_evaluate sound e now
  have allotted := allotted_of_moves sound small off
  have allocations : (evaluate e books now).1.allocations = moves.flatten.foldl enter [] :=
    moved.allocations
  rw [issued_evaluate, allocations]
  exact ⟨allotted, exists_queued_issueAll sound.roster allotted.covered⟩

theorem exists_orders_evaluate {books : Books R} (sound : books.Sound populations)
    (small : ∀ subscription ∈ books.roster.toList, subscription.committed < 2 ^ 63)
    (e : Evaluator M R) (now : Instant) :
    ∃ orders, Books.Queued orders books (evaluate e books now).2 ∧
      Orders books e.customer orders ∧
      (evaluate e books now).1.allocationBalance = 0 := by
  obtain ⟨allotted, orders, queued, issues⟩ := exists_issued_evaluate sound small e now
  exact ⟨orders, queued, allotted.orders issues, allotted.balanced⟩

end Evaluator

end RetailMarket
