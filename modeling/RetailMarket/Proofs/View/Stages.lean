import RetailMarket.Proofs.Round
import RetailMarket.Proofs.View.Billing
import RetailMarket.Proofs.View.Evaluations

/-!
# The parts of a cycle in the view of a customer

Two runs are alike to a customer when their scenarios differ in other customers only and they agree
on what has been published, on the customer's population and on its view of the books.  Every part
of a cycle keeps them alike.
-/

namespace RetailMarket

variable {G R : Type} {id : CustomerId}

/-! ## Placements and migrations -/

namespace Books

variable {first second : Books R}

theorem view_place_of_ne (books : Books R) {e : Evaluator (SampledCustomer G R) R}
    (other : e.customer.id ≠ id) : (Simulation.place books e).view id = books.view id := by
  simp only [Simulation.place]
  split
  · rfl
  · rw [view_direct, if_neg fun both => other both.2, List.append_nil]

theorem view_place_congr (same : first.view id = second.view id)
    (e : Evaluator (SampledCustomer G R) R) :
    (Simulation.place first e).view id = (Simulation.place second e).view id := by
  simp only [Simulation.place, defaultFor_congr same]
  split
  · exact same
  · rw [view_direct, view_direct, same]

theorem roster_place (books : Books R) (e : Evaluator (SampledCustomer G R) R) :
    (Simulation.place books e).roster = books.roster := by
  simp only [Simulation.place]
  split
  · rfl
  · rw [roster_direct]

theorem view_placeEach_congr (same : first.view id = second.view id)
    {es es' : List (Evaluator (SampledCustomer G R) R)}
    (agree : (es.filter fun e => e.customer.id == id) = es'.filter fun e => e.customer.id == id) :
    (es.foldl Simulation.place first).view id = (es'.foldl Simulation.place second).view id :=
  foldl_view (view id) (fun _ => True) Simulation.place (fun e => e.customer.id == id)
    (fun _ _ _ => trivial) (fun books _ _ other => view_place_of_ne books (by simpa using other))
    (fun _ _ e _ _ equal _ => view_place_congr equal e) trivial trivial same agree

theorem view_migrate_of_ne (books : Books R) {subscription : Subscription R}
    (other : subscription.customer.id ≠ id) (now : Instant) :
    (migrate books subscription now).2.view id = books.view id := by
  cases leaving : books.destination? now subscription with
  | none => rw [(migrate_of_none leaving).1]
  | some destination =>
      rw [migrate_of_some leaving, view_direct, view_direct, if_neg fun both => other both.2,
        if_neg fun both => other both.2, List.append_nil, List.append_nil]

theorem destination?_congr (same : first.view id = second.view id) (now : Instant)
    (subscription : Subscription R) :
    first.destination? now subscription = second.destination? now subscription := by
  rw [destination?, destination?, isRevoked_congr same, successor?_congr same]

theorem view_migrate_congr (same : first.view id = second.view id) (subscription : Subscription R)
    (now : Instant) :
    (migrate first subscription now).2.view id = (migrate second subscription now).2.view id := by
  have equal := destination?_congr same now subscription
  cases leaving : second.destination? now subscription with
  | none =>
      rw [leaving] at equal
      rw [(migrate_of_none leaving).1, (migrate_of_none equal).1, same]
  | some destination =>
      rw [leaving] at equal
      rw [migrate_of_some leaving, migrate_of_some equal, view_direct, view_direct, view_direct,
        view_direct, same]

theorem migrateEach_eq_foldl (now : Instant) (books : Books R)
    (subscriptions : List (Subscription R)) :
    (migrateEach now books subscriptions).2 =
      subscriptions.foldl (fun books s => (migrate books s now).2) books := by
  induction subscriptions generalizing books with
  | nil => rfl
  | cons subscription rest ih => exact ih _

theorem view_migrateEach_congr (same : first.view id = second.view id)
    {subscriptions subscriptions' : List (Subscription R)}
    (agree : (subscriptions.filter fun s => s.customer.id == id) =
      subscriptions'.filter fun s => s.customer.id == id) (now : Instant) :
    (migrateEach now first subscriptions).2.view id =
      (migrateEach now second subscriptions').2.view id := by
  rw [migrateEach_eq_foldl, migrateEach_eq_foldl]
  exact foldl_view (view id) (fun _ => True) (fun books s => (migrate books s now).2)
    (fun s => s.customer.id == id) (fun _ _ _ => trivial)
    (fun books _ _ other => view_migrate_of_ne books (by simpa using other) now)
    (fun _ _ s _ _ equal _ => view_migrate_congr equal s now) trivial trivial same agree

theorem roster_migrateEach (now : Instant) (books : Books R)
    (subscriptions : List (Subscription R)) :
    (migrateEach now books subscriptions).2.roster = books.roster := by
  induction subscriptions generalizing books with
  | nil => rfl
  | cons subscription rest ih => exact (ih _).trans (roster_migrate books subscription now)

theorem view_schedule_congr (same : first.view id = second.view id) {catalogue entered : Catalogue R}
    {market served : Market R} (listed : catalogue.unmarked = entered.unmarked)
    (defaults : market.defaults = served.defaults)
    (pending : market.pending = first.market.pending)
    (pending' : served.pending = second.market.pending) :
    ({ first with catalogue, market } : Books R).view id =
      ({ second with catalogue := entered, market := served } : Books R).view id := by
  simp only [view, View.mk.injEq] at same ⊢
  obtain ⟨-, -, queued, unchanged⟩ := same
  exact ⟨listed, defaults, by rw [pending, pending', queued], unchanged⟩

theorem view_publish_congr (same : first.view id = second.view id) {catalogue entered : Catalogue R}
    (listed : catalogue.unmarked = entered.unmarked) (isDefault : Bool) (tariff : Tariff R) :
    ({ first with
        catalogue
        market := if isDefault then first.market.setDefault tariff else first.market } :
      Books R).view id =
    ({ second with
        catalogue := entered
        market := if isDefault then second.market.setDefault tariff else second.market } :
      Books R).view id := by
  have defaults : first.market.defaults = second.market.defaults := congrArg View.defaults same
  cases isDefault with
  | false => exact view_schedule_congr same listed defaults rfl rfl
  | true =>
      refine view_schedule_congr same listed ?_ rfl rfl
      simp only [if_true, Market.setDefault, defaults]

end Books

namespace Catalogue

variable {first second : Catalogue R}

theorem unmarked_nextId_congr (same : first.unmarked = second.unmarked) :
    first.nextId.1 = second.nextId.1 ∧ first.nextId.2.unmarked = second.nextId.2.unmarked := by
  have lastId : first.unmarked.lastId = second.unmarked.lastId := congrArg Catalogue.lastId same
  change first.lastId = second.lastId at lastId
  refine ⟨by simp only [nextId, lastId], ?_⟩
  exact congrArg (fun catalogue => catalogue.nextId.2) same

theorem enter_congr (same : first.unmarked = second.unmarked) (tariff : Tariff R) :
    (first.enter tariff).1 = (second.enter tariff).1 ∧
      (first.enter tariff).2.unmarked = (second.enter tariff).2.unmarked := by
  have own := enter_unmarked first tariff
  have other := enter_unmarked second tariff
  rw [same] at own
  exact ⟨own.1.symm.trans other.1, own.2.symm.trans other.2⟩

theorem revoke_congr (same : first.unmarked = second.unmarked) (id : TariffId) :
    (first.revoke id).1 = (second.revoke id).1 ∧
      (first.revoke id).2.unmarked = (second.revoke id).2.unmarked := by
  have revoked := revoke_unmarked first id
  rw [same, revoke_unmarked] at revoked
  obtain ⟨succeeded, catalogue⟩ := Prod.mk.inj revoked
  exact ⟨succeeded.symm, catalogue.symm⟩

end Catalogue

theorem Market.revoke_congr {first second : Market R} {catalogue entered : Catalogue R}
    (defaults : first.defaults = second.defaults) (same : catalogue.unmarked = entered.unmarked)
    (id : TariffId) :
    (first.revoke catalogue id).1 = (second.revoke entered id).1 ∧
      (first.revoke catalogue id).2.unmarked = (second.revoke entered id).2.unmarked := by
  have default : first.isDefault id = second.isDefault id := by simp only [isDefault, defaults]
  simp only [revoke, default]
  split
  · exact ⟨rfl, same⟩
  · exact Catalogue.revoke_congr same id

/-! ## Runs that are alike to a customer -/

theorem CustomerId.eq_iff_number {first second : CustomerId} :
    first = second ↔ first.number = second.number := by
  cases first
  cases second
  rw [CustomerId.mk.injEq]

def Numbered {M : Type} (es : List (Evaluator M R)) : Prop :=
  ∀ (number : Nat) (e : Evaluator M R), es[number]? = some e → e.customer.id.number = number

theorem Numbered.congr {M : Type} {es es' : List (Evaluator M R)} (numbered : Numbered es)
    (same : es'.map Evaluator.customer = es.map Evaluator.customer) : Numbered es' := by
  intro number e found
  have customer := congrArg (fun people : List Customer => people[number]?) same
  simp only [List.getElem?_map, found, Option.map_some] at customer
  obtain ⟨other, position, equal⟩ := Option.map_eq_some_iff.1 customer.symm
  rw [← equal]
  exact numbered number other position

theorem filter_customer_eq {M : Type} {es : List (Evaluator M R)} (start : Nat)
    (shifted : ∀ (number : Nat) (e : Evaluator M R),
      es[number]? = some e → e.customer.id.number = start + number) (id : CustomerId) :
    (es.filter fun e => e.customer.id == id) =
      if start ≤ id.number then es[id.number - start]?.toList else [] := by
  induction es generalizing start with
  | nil => simp
  | cons e rest ih =>
      have here : e.customer.id.number = start := shifted 0 e rfl
      have later := ih (start + 1) fun number other found => by
        rw [shifted (number + 1) other found]
        omega
      have own : (e.customer.id == id) = true ↔ start = id.number := by
        rw [beq_iff_eq, ← here]
        exact CustomerId.eq_iff_number
      rw [List.filter_cons, later]
      rcases Nat.lt_trichotomy start id.number with before | same | after
      · have position : id.number - start = id.number - (start + 1) + 1 := by omega
        rw [if_neg fun mine => absurd (own.1 mine) (Nat.ne_of_lt before),
          if_pos (Nat.succ_le_of_lt before), if_pos (Nat.le_of_lt before), position,
          List.getElem?_cons_succ]
      · rw [if_pos (own.2 same), if_neg (by omega), if_pos (Nat.le_of_eq same), same, Nat.sub_self]
        rfl
      · rw [if_neg fun mine => absurd (own.1 mine) (Nat.ne_of_gt after), if_neg (by omega),
          if_neg (by omega)]

theorem Numbered.filter_eq {M : Type} {es : List (Evaluator M R)} (numbered : Numbered es)
    (id : CustomerId) : (es.filter fun e => e.customer.id == id) = es[id.number]?.toList := by
  have shifted (number : Nat) (e : Evaluator M R) (found : es[number]? = some e) :
      e.customer.id.number = 0 + number := by rw [numbered number e found, Nat.zero_add]
  rw [filter_customer_eq 0 shifted, if_pos (Nat.zero_le _), Nat.sub_zero]

namespace Simulation

variable [Quantity R] {first second : Simulation G R}

/-- Two runs that differ in other customers only. -/
structure Alike (id : CustomerId) (first second : Simulation G R) : Prop where
  run : first.scenario.run = second.scenario.run
  tariffs : first.scenario.tariffs = second.scenario.tariffs
  control : first.scenario.control = second.scenario.control
  timetable : first.timetable = second.timetable
  published : first.published = second.published
  cycle : first.cycle = second.cycle
  numbered : Numbered first.customers.toList
  numbered' : Numbered second.customers.toList
  hosted : first.customers[id.number]? = second.customers[id.number]?
  faithful : first.books.roster.Faithful
  faithful' : second.books.roster.Faithful
  view : first.books.view id = second.books.view id

namespace Alike

omit [Quantity R] in
theorem books (alike : Alike id first second) {books books' : Books R}
    (view : books.view id = books'.view id) (faithful : books.roster.Faithful)
    (faithful' : books'.roster.Faithful) :
    Alike id { first with books } { second with books := books' } :=
  ⟨alike.run, alike.tariffs, alike.control, alike.timetable, alike.published, alike.cycle,
    alike.numbered, alike.numbered', alike.hosted, faithful, faithful', view⟩

omit [Quantity R] in
theorem own (alike : Alike id first second) :
    (first.customers.toList.filter fun e => e.customer.id == id) =
      second.customers.toList.filter fun e => e.customer.id == id := by
  rw [alike.numbered.filter_eq, alike.numbered'.filter_eq, Array.getElem?_toList,
    Array.getElem?_toList, alike.hosted]

/-! ### The schedule -/

theorem publish (alike : Alike id first second) (plan : TariffPlan R) :
    (∃ error, first.publish plan = .error error ∧ second.publish plan = .error error) ∨
      ∃ next next' count, first.publish plan = .ok (next, count) ∧
        second.publish plan = .ok (next', count) ∧ Alike id next next' := by
  have unmarked := Books.unmarked_congr alike.view
  obtain ⟨number, entered⟩ := Catalogue.unmarked_nextId_congr unmarked
  have defaults : first.books.market.defaults = second.books.market.defaults :=
    congrArg View.defaults alike.view
  simp only [Simulation.publish, tariffId?, alike.published]
  split
  · exact .inl ⟨_, rfl, rfl⟩
  · rename_i supersedes _
    -- Whether an id is taken shows in the unmarked catalogue, so both publications succeed or none.
    obtain ⟨accepted, listed⟩ := Catalogue.enter_congr entered
      (plan.tariff second.books.catalogue.nextId.1 supersedes)
    rw [number]
    cases outcome : first.books.catalogue.nextId.2.enter
        (plan.tariff second.books.catalogue.nextId.1 supersedes) with
    | mk known catalogue =>
        cases outcome' : second.books.catalogue.nextId.2.enter
            (plan.tariff second.books.catalogue.nextId.1 supersedes) with
        | mk known' catalogue' =>
            rw [outcome, outcome'] at accepted listed
            subst accepted
            cases known with
            | false =>
                have view : ({ first.books with catalogue } : Books R).view id =
                    ({ second.books with catalogue := catalogue' } : Books R).view id :=
                  Books.view_schedule_congr alike.view listed defaults rfl rfl
                have next := alike.books view alike.faithful alike.faithful'
                exact .inr ⟨_, _, _, rfl, rfl, { next with published := rfl }⟩
            | true =>
                have next := alike.books (Books.view_publish_congr alike.view listed
                  plan.isDefault (plan.tariff second.books.catalogue.nextId.1 supersedes))
                  alike.faithful alike.faithful'
                exact .inr ⟨_, _, _, rfl, rfl, { next with published := rfl }⟩

theorem publishAll (alike : Alike id first second) (plans : List (TariffPlan R)) :
    (first.publishAll plans).1 = (second.publishAll plans).1 ∧
      Alike id (first.publishAll plans).2 (second.publishAll plans).2 := by
  induction plans generalizing first second with
  | nil => exact ⟨rfl, alike⟩
  | cons plan rest ih =>
      rcases alike.publish plan with ⟨error, failed, failed'⟩ |
        ⟨next, next', count, published, published', alikeNext⟩
      · simp only [Simulation.publishAll, failed, failed']
        exact ⟨trivial, alike⟩
      · obtain ⟨result, last⟩ := ih alikeNext
        simp only [Simulation.publishAll, published, published', result]
        exact ⟨trivial, last⟩

omit [Quantity R] in
theorem revoke (alike : Alike id first second) (plan : TariffPlan R) :
    (first.revoke plan).2 = (second.revoke plan).2 ∧
      Alike id (first.revoke plan).1 (second.revoke plan).1 := by
  have defaults : first.books.market.defaults = second.books.market.defaults :=
    congrArg View.defaults alike.view
  simp only [Simulation.revoke, tariffId?, alike.published]
  split
  · exact ⟨rfl, alike⟩
  · rename_i id' _
    obtain ⟨revoked, listed⟩ :=
      Market.revoke_congr defaults (Books.unmarked_congr alike.view) id'
    have view : ({ first.books with
        catalogue := (first.books.market.revoke first.books.catalogue id').2 } :
          Books R).view id =
        ({ second.books with
          catalogue := (second.books.market.revoke second.books.catalogue id').2 } :
            Books R).view id :=
      Books.view_schedule_congr alike.view listed defaults rfl rfl
    have next := alike.books view alike.faithful alike.faithful'
    exact ⟨by rw [revoked], { next with published := rfl }⟩

omit [Quantity R] in
theorem revokeAll (alike : Alike id first second) (plans : List (TariffPlan R)) :
    Alike id (first.revokeAll plans).1 (second.revokeAll plans).1 := by
  induction plans generalizing first second with
  | nil => exact alike
  | cons plan rest ih => exact ih (alike.revoke plan).2

/-! ### Members -/

omit [Quantity R] in
theorem placeAll (alike : Alike id first second) : Alike id first.placeAll second.placeAll := by
  have roster (es : List (Evaluator (SampledCustomer G R) R)) (books : Books R) :
      (es.foldl place books).roster = books.roster := by
    induction es generalizing books with
    | nil => rfl
    | cons e rest ih => exact (ih _).trans (Books.roster_place books e)
  refine alike.books (Books.view_placeEach_congr alike.view alike.own) ?_ ?_
  · rw [roster]
    exact alike.faithful
  · rw [roster]
    exact alike.faithful'

theorem settle (alike : Alike id first second) (now : Instant) :
    Alike id (first.settle now).1 (second.settle now).1 :=
  alike.books (Books.view_settle_congr alike.faithful alike.faithful' alike.view now)
    (Books.faithful_settle alike.faithful now) (Books.faithful_settle alike.faithful' now)

omit [Quantity R] in
theorem migrateAll (alike : Alike id first second) (now : Instant) :
    Alike id (first.migrateAll now).1 (second.migrateAll now).1 := by
  have subscriptions := congrArg View.subscriptions alike.view
  refine alike.books (Books.view_migrateEach_congr alike.view subscriptions now) ?_ ?_
  · rw [Books.roster_migrateEach]
    exact alike.faithful
  · rw [Books.roster_migrateEach]
    exact alike.faithful'

theorem evaluateAll [SampleSource G R] (alike : Alike id first second) (now : Instant) :
    Alike id (first.evaluateAll now).1 (second.evaluateAll now).1 := by
  obtain ⟨view, own⟩ := Evaluator.view_evaluateEach_congr alike.faithful alike.faithful' alike.view
    alike.own now
  have numbered := alike.numbered.congr
    (Evaluator.customers_evaluateEach now first.books first.customers.toList)
  have numbered' := alike.numbered'.congr
    (Evaluator.customers_evaluateEach now second.books second.customers.toList)
  have next := alike.books view (Evaluator.faithful_evaluateEach alike.faithful _ now)
    (Evaluator.faithful_evaluateEach alike.faithful' _ now)
  refine { next with numbered, numbered', hosted := ?_ }
  rw [numbered.filter_eq, numbered'.filter_eq] at own
  simp only [Simulation.evaluateAll, List.getElem?_toArray]
  simpa using congrArg List.head? own

theorem billCycle (alike : Alike id first second) :
    Alike id first.billCycle.2 second.billCycle.2 := by
  have bills : BillsAlike id first second := ⟨alike.control, alike.timetable, alike.hosted⟩
  obtain ⟨view, timetable⟩ := view_billCycle_congr bills (congrArg _ alike.run) alike.view
  have billed := billed_billCycle first
  have billed' := billed_billCycle second
  refine ⟨?_, ?_, ?_, timetable, ?_, ?_, ?_, ?_, ?_, billed.faithful alike.faithful,
    billed'.faithful alike.faithful', view⟩
  · rw [billed.scenario, billed'.scenario, alike.run]
  · rw [billed.scenario, billed'.scenario, alike.tariffs]
  · rw [billed.scenario, billed'.scenario, alike.control]
  · rw [billed.published, billed'.published, alike.published]
  · rw [billed.cycle, billed'.cycle, alike.cycle]
  · rw [billed.customers]
    exact alike.numbered
  · rw [billed'.customers]
    exact alike.numbered'
  · rw [billed.customers, billed'.customers, alike.hosted]

end Alike

end Simulation

end RetailMarket
