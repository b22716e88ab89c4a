import RetailMarket.Proofs.Run

/-!
# Invariants through the stages of a cycle

Placements, evaluations and migrations queue directives, and settlements carry them out.  What all
of these keep holds when a cycle comes to its billing, however large the populations are.  Which
customers and tariffs a directive can be for is followed through the queues by a relation.
-/

namespace RetailMarket

/-! ## Queues for related customers and tariffs -/

namespace Evaluator

variable {M R : Type} [Quantity R] {P : Customer → Tariff R → Prop}

omit [Quantity R] in
theorem queues_issueAll {books : Books R} (faithful : books.roster.Faithful)
    (members : ∀ subscription ∈ books.roster.toList, P subscription.customer subscription.tariff)
    {customer : Customer} {allocations : List (Tariff R × Int)}
    (related : ∀ allocation ∈ allocations, P customer allocation.1) :
    Books.Queues P books (allocations.foldl (issue customer) books) := by
  induction allocations generalizing books with
  | nil => exact Books.Queues.refl books
  | cons allocation rest ih =>
      obtain ⟨here, later⟩ := List.forall_mem_cons.1 related
      have first : Books.Queues P books (issue customer books allocation) := by
        simp only [issue]
        split
        · exact Books.queues_unsubscribe faithful members _ _
        · exact Books.queues_direct here books _
      exact first.trans (ih (first.faithful faithful) (first.members members) later)

variable [CustomerModel M R]

theorem queues_evaluate {books : Books R} (faithful : books.roster.Faithful)
    (members : ∀ subscription ∈ books.roster.toList, P subscription.customer subscription.tariff)
    (e : Evaluator M R) (now : Instant)
    (related : ∀ allocation ∈ (e.evaluate books now).1.allocations, P e.customer allocation.1) :
    Books.Queues P books (e.evaluate books now).2 := by
  rw [issued_evaluate]
  exact queues_issueAll faithful members related

theorem queues_evaluateEach {books : Books R} {es : List (Evaluator M R)} {now : Instant}
    (each : ∀ e ∈ es, ∀ current, Books.Queues P books current →
      Books.Queues P current (e.evaluate current now).2) :
    Books.Queues P books (evaluateEach now books es).2 := by
  induction es generalizing books with
  | nil => exact Books.Queues.refl books
  | cons e rest ih =>
      have first := each e List.mem_cons_self books (Books.Queues.refl books)
      exact first.trans (ih fun other listed current queues =>
        each other (List.mem_cons_of_mem _ listed) current (first.trans queues))

end Evaluator

namespace Simulation

variable {G R : Type} {P : Customer → Tariff R → Prop}

theorem queues_placeEach {books : Books R} {es : List (Evaluator (SampledCustomer G R) R)}
    (related : ∀ e ∈ es, ∀ default, books.market.defaultFor e.customer.powerType = some default →
      P e.customer default) : Books.Queues P books (es.foldl place books) := by
  induction es generalizing books with
  | nil => exact Books.Queues.refl books
  | cons e rest ih =>
      obtain ⟨here, later⟩ := List.forall_mem_cons.1 related
      have first : Books.Queues P books (place books e) := by
        simp only [place]
        split
        · exact Books.Queues.refl books
        · rename_i default found
          exact Books.queues_direct (here default found) books _
      refine first.trans (ih fun other listed default found => ?_)
      obtain ⟨_, queued, -⟩ := first
      rw [queued.defaultFor] at found
      exact later other listed default found

end Simulation

namespace Books

variable {R : Type} {P : Customer → Tariff R → Prop}

theorem queues_migrateEach {books : Books R} {subscriptions : List (Subscription R)}
    {now : Instant}
    (own : ∀ subscription ∈ subscriptions, P subscription.customer subscription.tariff)
    (succeeds : ∀ subscription ∈ subscriptions, ∀ destination,
      books.destination? now subscription = some destination →
        P subscription.customer destination) :
    Queues P books (migrateEach now books subscriptions).2 := by
  induction subscriptions generalizing books with
  | nil => exact Queues.refl books
  | cons subscription rest ih =>
      obtain ⟨here, later⟩ := List.forall_mem_cons.1 own
      obtain ⟨succeedsHere, succeedsLater⟩ := List.forall_mem_cons.1 succeeds
      have first : Queues P books (migrate books subscription now).2 :=
        queues_migrate here succeedsHere
      refine first.trans (ih later fun other listed destination found => ?_)
      obtain ⟨_, queued, -⟩ := first
      rw [queued.destination?] at found
      exact succeedsLater other listed destination found

end Books

/-! ## What holds of every subscription -/

namespace Subscription

/-- What a new subscription has, and what members that ask to leave, leave or join do not change. -/
structure Lasting {R : Type} [Quantity R] (P : Subscription R → Prop) : Prop where
  opened : ∀ customer tariff, P (opened customer tariff)
  marked : ∀ subscription count, P subscription →
    P { subscription with pendingUnsubscribe := count }
  release : ∀ subscription revoked count now, P subscription →
    P (subscription.release revoked count now).1
  subscribe : ∀ subscription count now, P subscription → P (subscription.subscribe count now).1

end Subscription

namespace Books

variable {R : Type} {P : Subscription R → Prop}

def Every (P : Subscription R → Prop) (books : Books R) : Prop :=
  ∀ subscription ∈ books.roster.toList, P subscription

theorem forall_modify {roster : Roster R} {change : Subscription R → Subscription R}
    (each : ∀ subscription ∈ roster.toList, P subscription)
    (changed : ∀ subscription ∈ roster.toList, P (change subscription)) (key : SubscriptionKey) :
    ∀ subscription ∈ (roster.modify key change).toList, P subscription := by
  unfold Roster.modify
  split
  · exact each
  next position _ =>
    intro subscription listed
    obtain ⟨place, inside, rfl⟩ := List.mem_iff_getElem.1 listed
    simp only [Roster.toList, Array.toList_modify, List.length_modify] at inside
    simp only [Roster.toList, Array.toList_modify, List.getElem_modify]
    split
    · exact changed _ (List.getElem_mem inside)
    · exact each _ (List.getElem_mem inside)

theorem Every.operate {books : Books R} (every : books.Every P)
    {operation : Subscription R → Subscription R × List (Posting R)}
    (kept : ∀ subscription, P subscription → P (operation subscription).1)
    (key : SubscriptionKey) : (books.operate key operation).Every P := by
  unfold Books.operate
  split
  · exact every
  next subscription found =>
    obtain ⟨position, -, placed⟩ := Option.bind_eq_some_iff.1 found
    have listed : subscription ∈ books.roster.toList :=
      Array.mem_toList_iff.2 (Array.mem_of_getElem? placed)
    exact forall_modify every (fun _ _ => kept _ (every _ listed)) key

variable [Quantity R]

theorem Every.unsubscribe {books : Books R} (every : books.Every P)
    (lasting : Subscription.Lasting P) (key : SubscriptionKey) (count : Nat) :
    (books.unsubscribe key count).Every P := by
  unfold Books.unsubscribe
  split
  · exact every
  · exact forall_modify every (fun _ listed => lasting.marked _ _ (every _ listed)) key

theorem Every.settle {books : Books R} (every : books.Every P)
    (lasting : Subscription.Lasting P) (now : Instant) : (books.settle now).1.Every P := by
  refine settle_induction (P := Every P) every (fun current directive _ holds => ?_)
    (fun current directive _ holds => ?_)
  · unfold settleWithdrawal
    split
    · exact holds
    · exact holds.operate (fun _ => lasting.release _ _ _ _) _
  · have opened : ({ current with
        roster := current.roster.ensure directive.customer directive.tariff } : Books R).Every P := by
      intro subscription listed
      simp only [Roster.toList_ensure] at listed
      split at listed
      · exact holds subscription listed
      · rcases List.mem_append.1 listed with old | new
        · exact holds subscription old
        · rw [List.mem_singleton.1 new]
          exact lasting.opened _ _
    exact opened.operate (fun _ => lasting.subscribe _ _ _) directive.key

omit [Quantity R] in
theorem Every.migrateEach {books : Books R} (every : books.Every P) (now : Instant)
    (subscriptions : List (Subscription R)) :
    (migrateEach now books subscriptions).2.Every P := by
  induction subscriptions generalizing books with
  | nil => exact every
  | cons subscription rest ih =>
      have first : (migrate books subscription now).2.Every P := by
        rw [Every, roster_migrate]
        exact every
      exact ih first

theorem Every.evaluateEach {M : Type} [CustomerModel M R] {books : Books R}
    (every : books.Every P) (lasting : Subscription.Lasting P) (now : Instant)
    (es : List (Evaluator M R)) : (Evaluator.evaluateEach now books es).2.Every P := by
  have issued (customer : Customer) (allocations : List (Tariff R × Int)) {books : Books R}
      (every : books.Every P) :
      (allocations.foldl (Evaluator.issue customer) books).Every P := by
    induction allocations generalizing books with
    | nil => exact every
    | cons allocation rest ih =>
        refine ih ?_
        simp only [Evaluator.issue]
        split
        · exact every.unsubscribe lasting _ _
        · exact every
  induction es generalizing books with
  | nil => exact every
  | cons e rest ih =>
      have first : (e.evaluate books now).2.Every P := by
        rw [Evaluator.issued_evaluate]
        exact issued _ _ every
      exact ih first

end Books

namespace Simulation

end Simulation

/-! ## From the schedule to the billing -/

namespace Simulation

variable {G R : Type} [Quantity R] [SampleSource G R] {s : Simulation G R}

theorem rehomed_induction {I : Simulation G R → Prop} (scheduled : I s.scheduled)
    (place : ∀ current, I current → I current.placeAll)
    (settle : ∀ current now, I current → I (current.settle now).1)
    (evaluate : ∀ current now, I current → I (current.evaluateAll now).1)
    (migrate : ∀ current now, I current → I (current.migrateAll now).1) : I s.rehomed := by
  have placed : I s.placed := by
    rw [Simulation.placed, settlePlacements]
    split
    · exact settle _ _ (place _ scheduled)
    · exact scheduled
  have evaluated : I s.evaluated := by
    rw [Simulation.evaluated]
    exact evaluate _ _ placed
  have settled : I s.settled := by
    rw [Simulation.settled]
    exact settle _ _ evaluated
  have migrated : I s.migrated := by
    rw [Simulation.migrated]
    exact migrate _ _ settled
  rw [rehomed_eq]
  exact settle _ _ migrated

/-- Placements, evaluations and migrations only queue directives: to hold in all stages of a cycle up
to its billing, an invariant has to be kept by queues and by settlements. -/
theorem queued_induction {I : Simulation G R → Prop}
    (faithful : s.scheduled.books.roster.Faithful) (scheduled : I s.scheduled)
    (queued : ∀ current orders books customers, Books.Queued orders current.books books →
      I current → I { current with books, customers })
    (settle : ∀ current now, I current → I (current.settle now).1) : I s.rehomed := by
  have queuing {current next : Simulation G R} {books : Books R}
      (holds : I current ∧ current.books.roster.Faithful)
      (queues : Books.Queues (fun _ _ => True) current.books books)
      (same : next = { current with books, customers := next.customers }) :
      I next ∧ next.books.roster.Faithful := by
    obtain ⟨orders, joined, -⟩ := queues
    rw [same]
    exact ⟨queued current orders books next.customers joined holds.1, joined.faithful holds.2⟩
  refine (rehomed_induction (I := fun current => I current ∧ current.books.roster.Faithful)
    ⟨scheduled, faithful⟩ ?_ ?_ ?_ ?_).1
  · intro current holds
    exact queuing holds (queues_placeEach fun _ _ _ _ => trivial) rfl
  · intro current now holds
    exact ⟨settle current now holds.1, Books.faithful_settle holds.2 now⟩
  · intro current now holds
    refine queuing holds (Evaluator.queues_evaluateEach fun e _ current queues => ?_) rfl
    exact Evaluator.queues_evaluate (queues.faithful holds.2) (fun _ _ => trivial) e now
      fun _ _ => trivial
  · intro current now holds
    exact queuing holds (Books.queues_migrateEach (fun _ _ => trivial) fun _ _ _ _ => trivial) rfl

theorem trading_rehomed (faithful : s.scheduled.books.roster.Faithful) :
    Trading s.scheduled s.rehomed ∧ s.rehomed.books.roster.Faithful :=
  queued_induction (I := fun current => Trading s.scheduled current ∧
      current.books.roster.Faithful) faithful ⟨.refl _, faithful⟩
    (fun _ _ _ customers queued holds =>
      ⟨holds.1.trans (trading_of_queued queued customers), queued.faithful holds.2⟩)
    (fun current now holds =>
      ⟨holds.1.trans (trading_settle current now), Books.faithful_settle holds.2 now⟩)

/-! ## Whole runs -/

structure Kept (scenario : Scenario R) (I : Simulation G R → Prop) : Prop where
  scenario_eq : ∀ {s}, I s → s.scenario = scenario
  stamped : ∀ {s}, I s → I s.stamped
  publish : ∀ {s next plan count}, I s → plan ∈ scenario.tariffs →
    s.publish plan = .ok (next, count) → I next
  revoke : ∀ {s}, I s → ∀ plan, I (s.revoke plan).1
  placeAll : ∀ {s}, I s → I s.placeAll
  settle : ∀ {s}, I s → ∀ now, I (s.settle now).1
  evaluateAll : ∀ {s}, I s → ∀ now, I (s.evaluateAll now).1
  migrateAll : ∀ {s}, I s → ∀ now, I (s.migrateAll now).1
  billCycle : ∀ {s}, I s → I s.billCycle.2
  onward : ∀ {s}, I s → ∀ cycle, I { s with cycle }

namespace Kept

variable {scenario : Scenario R} {I : Simulation G R → Prop}

theorem publishScheduled (kept : Kept scenario I) (holds : I s) : I s.publishScheduled.2 := by
  have publications (plans : List (TariffPlan R)) {s : Simulation G R} (holds : I s)
      (planned : ∀ plan ∈ plans, plan ∈ scenario.tariffs) : I (s.publishAll plans).2 := by
    induction plans generalizing s with
    | nil => exact holds
    | cons plan rest ih =>
        obtain ⟨here, later⟩ := List.forall_mem_cons.1 planned
        simp only [Simulation.publishAll]
        split
        · exact holds
        · rename_i next _ published
          exact ih (kept.publish holds here published) later
  rw [publishScheduled_eq]
  refine publications _ (kept.stamped holds) fun plan listed => ?_
  rw [kept.scenario_eq holds] at listed
  exact (List.mem_filter.1 listed).1

theorem rehomed (kept : Kept scenario I) (holds : I s) : I s.rehomed := by
  have revocations (plans : List (TariffPlan R)) {s : Simulation G R} (holds : I s) :
      I (s.revokeAll plans).1 := by
    induction plans generalizing s with
    | nil => exact holds
    | cons plan rest ih => exact ih (kept.revoke holds plan)
  refine rehomed_induction ?_ (fun _ => kept.placeAll) (fun _ now holds => kept.settle holds now)
    (fun _ now holds => kept.evaluateAll holds now) (fun _ now holds => kept.migrateAll holds now)
  rw [Simulation.scheduled]
  exact revocations _ (kept.publishScheduled holds)

theorem step (kept : Kept scenario I) (holds : I s) : I s.step.2 := by
  cases outcome : s.publishScheduled.1 with
  | error error =>
      rw [step_of_error outcome]
      exact kept.publishScheduled holds
  | ok count =>
      rw [step_of_ok outcome, Simulation.billed]
      exact kept.onward (kept.billCycle (kept.rehomed holds)) _

theorem afterCalls (kept : Kept scenario I) (holds : I s) (calls : Nat) :
    I (s.afterCalls calls) := by
  induction calls with
  | zero => exact holds
  | succ calls ih => exact kept.step ih

end Kept

end Simulation

end RetailMarket
