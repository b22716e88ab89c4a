import RetailMarket.Proofs.View.Books

/-!
# Evaluations in the view of a customer

An evaluation reads nothing but the view of its customer, and its directives stay with the customer.
-/

namespace RetailMarket

variable {R : Type} {id : CustomerId} {first second : Books R}

/-! ## Evaluations -/

theorem Books.activeOf_congr (same : first.view id = second.view id) :
    first.roster.activeOf id = second.roster.activeOf id := by
  have subscriptions := congrArg View.subscriptions same
  simp only [Books.view] at subscriptions
  have viewed (roster : Roster R) : roster.activeOf id =
      (roster.toList.filter fun s => s.customer.id == id).filter fun s => !s.isEmpty := by
    rw [Roster.activeOf, List.filter_filter]
    simp only [Bool.and_comm]
  rw [viewed, viewed, subscriptions]

namespace Evaluator

variable {M : Type} [Quantity R]

/-! ### Orders -/

omit [Quantity R] in
theorem faithful_unsubscribe {books : Books R} (faithful : books.roster.Faithful)
    (key : SubscriptionKey) (count : Nat) : (books.unsubscribe key count).roster.Faithful := by
  unfold Books.unsubscribe
  split
  · exact faithful
  · rename_i subscription found
    exact faithful.modify found rfl

omit [Quantity R] in
theorem faithful_issue {customer : Customer} {books : Books R} (faithful : books.roster.Faithful)
    (allocation : Tariff R × Int) : (issue customer books allocation).roster.Faithful := by
  simp only [issue]
  split
  · exact faithful_unsubscribe faithful _ _
  · exact faithful

omit [Quantity R] in
theorem view_modify {books : Books R} (faithful : books.roster.Faithful) {key : SubscriptionKey}
    {mark : Subscription R → Subscription R} (kept : ∀ s, s.key = key → (mark s).key = key) :
    ({ books with roster := books.roster.modify key mark } : Books R).view id =
      { books.view id with
        subscriptions := (books.view id).subscriptions.map fun s =>
          if s.key = key then mark s else s } := by
  simp only [Books.view, Books.filter_modify faithful key kept]

omit [Quantity R] in
theorem unsubscribe_of_find? {books : Books R} {key : SubscriptionKey}
    {subscription : Subscription R} (found : books.roster.find? key = some subscription)
    (count : Nat) :
    books.unsubscribe key count =
      { books with
        market := books.market.direct subscription.tariff subscription.customer (-signed count)
        roster := books.roster.modify key fun s =>
          { s with pendingUnsubscribe := s.pendingUnsubscribe + count } } := by
  simp only [Books.unsubscribe, found]

omit [Quantity R] in
theorem view_mark {books : Books R} (faithful : books.roster.Faithful) (key : SubscriptionKey)
    (tariff : Tariff R) (customer : Customer) (leaving : Int) (count : Nat) :
    ({ books with
        market := books.market.direct tariff customer leaving
        roster := books.roster.modify key fun s =>
          { s with pendingUnsubscribe := s.pendingUnsubscribe + count } } : Books R).view id =
      { (books.direct tariff customer leaving).view id with
        subscriptions := (books.view id).subscriptions.map fun s =>
          if s.key = key then { s with pendingUnsubscribe := s.pendingUnsubscribe + count }
          else s } := by
  have holds : (books.direct tariff customer leaving).roster.Faithful := faithful
  exact view_modify holds fun _ same => same

omit [Quantity R] in
theorem view_unsubscribe_of_ne {books : Books R} (faithful : books.roster.Faithful)
    {key : SubscriptionKey} (other : key.customer ≠ id) (count : Nat) :
    (books.unsubscribe key count).view id = books.view id := by
  cases found : books.roster.find? key with
  | none => simp only [Books.unsubscribe, found]
  | some subscription =>
      have same : subscription.key = key := ((Roster.find?_eq_some_iff faithful).1 found).2
      have stranger : subscription.customer.id ≠ id := by
        rw [← same] at other
        exact other
      have unchanged : ((books.view id).subscriptions.map fun s =>
          if s.key = key then { s with pendingUnsubscribe := s.pendingUnsubscribe + count }
          else s) = (books.view id).subscriptions := by
        conv_rhs => rw [← List.map_id (books.view id).subscriptions]
        refine List.map_congr_left fun s listed => if_neg fun sameKey => other ?_
        rw [← sameKey]
        exact eq_of_beq (List.mem_filter.1 listed).2
      rw [unsubscribe_of_find? found, view_mark faithful, unchanged, Books.view_direct,
        if_neg fun both => stranger both.2, List.append_nil]

omit [Quantity R] in
theorem view_unsubscribe_congr (faithful : first.roster.Faithful)
    (faithful' : second.roster.Faithful) (same : first.view id = second.view id)
    {key : SubscriptionKey} (own : key.customer = id) (count : Nat) :
    (first.unsubscribe key count).view id = (second.unsubscribe key count).view id := by
  have equal := Books.find?_congr faithful faithful' same own
  cases found : second.roster.find? key with
  | none =>
      rw [found] at equal
      simp only [Books.unsubscribe, found, equal]
      exact same
  | some subscription =>
      rw [found] at equal
      rw [unsubscribe_of_find? equal, unsubscribe_of_find? found, view_mark faithful,
        view_mark faithful', Books.view_direct, Books.view_direct, same]

omit [Quantity R] in
theorem view_issue_of_ne {customer : Customer} {books : Books R}
    (faithful : books.roster.Faithful) (other : customer.id ≠ id) (allocation : Tariff R × Int) :
    (issue customer books allocation).view id = books.view id := by
  simp only [issue]
  split
  · exact view_unsubscribe_of_ne faithful other _
  · rw [Books.view_direct, if_neg fun both => other both.2, List.append_nil]

omit [Quantity R] in
theorem view_issue_congr {customer : Customer} (faithful : first.roster.Faithful)
    (faithful' : second.roster.Faithful) (same : first.view id = second.view id)
    (own : customer.id = id) (allocation : Tariff R × Int) :
    (issue customer first allocation).view id = (issue customer second allocation).view id := by
  simp only [issue]
  split
  · exact view_unsubscribe_congr faithful faithful' same own _
  · rw [Books.view_direct, Books.view_direct, same]

/-! ### One evaluation -/

variable [CustomerModel M R]

theorem allocateSubscription_congr
    (revoked : ∀ tariff, first.isRevoked tariff = second.isRevoked tariff)
    (successor : ∀ tariff powerType now,
      first.market.successor? first.catalogue tariff powerType now =
        second.market.successor? second.catalogue tariff powerType now)
    (comparison : Comparison R) :
    allocateSubscription (M := M) first comparison = allocateSubscription second comparison := by
  have allocated (current : Tariff R) (leaving : R) (population : Nat) (e : Evaluator M R) :
      allocate first comparison current leaving population e =
        allocate second comparison current leaving population e := by
    simp only [allocate, revoked, successor]
  funext e subscription
  simp only [allocateSubscription, allocated]

theorem evaluate_congr {e : Evaluator M R} (same : first.view e.customer.id =
      second.view e.customer.id) (now : Instant) :
    (evaluate e first now).1 = (evaluate e second now).1 := by
  have candidates : e.candidates first now = e.candidates second now := by
    simp only [Evaluator.candidates, Books.activeOf_congr same, Books.isRevoked_congr same,
      Market.superseding?_congr (Books.unmarked_congr same),
      Catalogue.recentOffers_congr (Books.unmarked_congr same)]
  have allocated := allocateSubscription_congr (M := M) (Books.isRevoked_congr same)
    (Books.successor?_congr same)
  have defaults := Books.defaultFor_congr same e.customer.powerType
  cases found : first.market.defaultFor e.customer.powerType with
  | none => rw [evaluate_of_missing found, evaluate_of_missing (defaults.symm.trans found)]
  | some default =>
      have prepared : e.prepare first default now = e.prepare second default now := by
        simp only [prepare, candidates]
      have customer : (e.prepare second default now).2.customer = e.customer :=
        (decided_prepare e second default now).moved.customer
      rw [evaluate_of_default found, evaluate_of_default (defaults.symm.trans found), prepared,
        customer, Books.activeOf_congr same]
      simp only [allocated]

theorem faithful_evaluate {books : Books R} (faithful : books.roster.Faithful)
    (e : Evaluator M R) (now : Instant) : (evaluate e books now).2.roster.Faithful := by
  have each (allocations : List (Tariff R × Int)) (books : Books R)
      (holds : books.roster.Faithful) :
      (allocations.foldl (issue e.customer) books).roster.Faithful := by
    induction allocations generalizing books with
    | nil => exact holds
    | cons allocation rest ih => exact ih _ (faithful_issue holds allocation)
  rw [issued_evaluate]
  exact each _ _ faithful

theorem view_evaluate_of_ne {books : Books R} (faithful : books.roster.Faithful)
    {e : Evaluator M R} (other : e.customer.id ≠ id) (now : Instant) :
    (evaluate e books now).2.view id = books.view id := by
  have none : (evaluate e books now).1.allocations.filter (fun _ => false) =
      ([] : List (Tariff R × Int)).filter fun _ => false := List.filter_false _
  rw [issued_evaluate]
  exact foldl_view (Books.view id) (fun books => books.roster.Faithful) (issue e.customer)
    (fun _ => false) (fun _ allocation holds => faithful_issue holds allocation)
    (fun _ allocation holds _ => view_issue_of_ne holds other allocation)
    (fun _ _ _ _ _ _ own => absurd own Bool.false_ne_true) faithful faithful rfl none

theorem view_evaluate_congr (faithful : first.roster.Faithful)
    (faithful' : second.roster.Faithful) (same : first.view id = second.view id)
    {e : Evaluator M R} (own : e.customer.id = id) (now : Instant) :
    (evaluate e first now).2.view id = (evaluate e second now).2.view id := by
  have evaluated : (evaluate e first now).1 = (evaluate e second now).1 :=
    evaluate_congr (own ▸ same) now
  rw [issued_evaluate, issued_evaluate, evaluated]
  exact foldl_view (Books.view id) (fun books => books.roster.Faithful) (issue e.customer)
    (fun _ => true) (fun _ allocation holds => faithful_issue holds allocation)
    (fun _ _ _ other => absurd other.symm Bool.false_ne_true)
    (fun _ _ allocation holds holds' equal _ =>
      view_issue_congr holds holds' equal own allocation) faithful faithful' same rfl

/-! ### All evaluations -/

theorem evaluateEach_eq_threadMap (now : Instant) (books : Books R) (es : List (Evaluator M R)) :
    evaluateEach now books es =
      (threadMap (fun books e => (evaluate e books now).swap) books es).swap := by
  induction es generalizing books with
  | nil => rfl
  | cons e rest ih =>
      simp only [evaluateEach, threadMap]
      rw [ih]
      rfl

theorem view_evaluateEach_congr (faithful : first.roster.Faithful)
    (faithful' : second.roster.Faithful) (same : first.view id = second.view id)
    {es es' : List (Evaluator M R)}
    (agree : (es.filter fun e => e.customer.id == id) = es'.filter fun e => e.customer.id == id)
    (now : Instant) :
    (evaluateEach now first es).2.view id = (evaluateEach now second es').2.view id ∧
      ((evaluateEach now first es).1.filter fun e => e.customer.id == id) =
        (evaluateEach now second es').1.filter fun e => e.customer.id == id := by
  let step (books : Books R) (e : Evaluator M R) : Books R × Evaluator M R :=
    (evaluate e books now).swap
  have kept (books : Books R) (e : Evaluator M R) :
      ((step books e).2.customer.id == id) = (e.customer.id == id) := by
    simp only [step, Prod.snd_swap, customer_evaluate]
  have foreign (books : Books R) (e : Evaluator M R) (holds : books.roster.Faithful)
      (other : (e.customer.id == id) = false) : (step books e).1.view id = books.view id :=
    view_evaluate_of_ne holds (by simpa using other) now
  rw [evaluateEach_eq_threadMap, evaluateEach_eq_threadMap]
  refine threadMap_views (Books.view id) (fun books => books.roster.Faithful) step step
    (fun e => e.customer.id == id) kept kept (fun _ e holds => faithful_evaluate holds e now)
    (fun _ e holds => faithful_evaluate holds e now) foreign foreign ?_ faithful faithful' same agree
  intro left right e holds holds' equal own
  have mine : e.customer.id = id := by simpa using own
  exact ⟨view_evaluate_congr holds holds' equal mine now, evaluate_congr (mine ▸ equal) now⟩

theorem faithful_evaluateEach {books : Books R} (faithful : books.roster.Faithful)
    (es : List (Evaluator M R)) (now : Instant) :
    (evaluateEach now books es).2.roster.Faithful := by
  induction es generalizing books with
  | nil => exact faithful
  | cons e rest ih => exact ih (faithful_evaluate faithful e now)

end Evaluator

end RetailMarket
