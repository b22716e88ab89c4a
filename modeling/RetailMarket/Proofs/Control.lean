import RetailMarket.Proofs.Curtailment
import RetailMarket.Proofs.Planned

/-!
# Control over a run

What a cycle curtails and takes for balancing is booked in accounts, one for each of its timeslots
and each subscription.  No account exceeds the curtailable share of its usage.  Balancing energy is
taken inside the control window only, at most once a timeslot from a subscription, and only where
the tariff has agreed to it.
-/

namespace RetailMarket

/-! ## Accounts -/

namespace Simulation

def Tally.blank {R : Type} [Quantity R] (slot : Nat) : Tally R :=
  { journal := { timeslot := slot }, curtailed := 0, balancing := 0 }

/-- The bill of one subscription for one timeslot: the energy that all its members use, and what
billing it alone comes to. -/
structure Account (R : Type) where
  slot : Nat
  subscription : Subscription R
  usage : R
  tally : Tally R

namespace Account

variable {R : Type}

def curtailed (account : Account R) : R := account.tally.curtailed

def taken [Neg R] (account : Account R) : R := -account.tally.balancing

def regulation (account : Account R) : List (Transaction R) :=
  account.tally.journal.ofKind .regulation

def place (account : Account R) : Nat × SubscriptionKey :=
  (account.slot, account.subscription.key)

end Account

section

variable {G R : Type} [Quantity R]

def account (s : Simulation G R) (slot : Nat) (time : Instant) (subscription : Subscription R) :
    Account R :=
  { slot, subscription
    usage :=
      match s.customers[subscription.customer.id.number]? with
      | none => 0
      | some e => e.model.usageAt time * (subscription.committed : R)
    tally := (s.billMembers (s.isControlled time) time (.blank slot) subscription).1 }

/-- The accounts of the next timeslots, as many as are left. -/
def accounts : Nat → Simulation G R → List (Account R)
  | 0, _ => []
  | count + 1, s =>
    if s.timetable.next < s.timetable.slots then
      let slot := s.timetable.next
      let time := s.timetable.slotStart slot
      s.ticked.books.roster.toList.map (s.ticked.account slot time) ++
        accounts count (billSlot s.ticked slot time (.blank slot)).2
    else []

end

/-- What has been added to a tally is booked in these accounts. -/
structure Tally.Adds (accounts : List (Account ℝ)) (before after : Tally ℝ) : Prop where
  curtailed : after.curtailed = before.curtailed + (accounts.map Account.curtailed).sum
  balancing : after.balancing = before.balancing - (accounts.map Account.taken).sum
  regulation : after.journal.ofKind .regulation =
    before.journal.ofKind .regulation ++ accounts.flatMap Account.regulation

theorem Tally.Adds.refl (tally : Tally ℝ) : Tally.Adds [] tally tally := by
  refine ⟨?_, ?_, ?_⟩ <;> simp

theorem Tally.Adds.trans {first second third : Tally ℝ} {early late : List (Account ℝ)}
    (adds : Tally.Adds early first second) (more : Tally.Adds late second third) :
    Tally.Adds (early ++ late) first third := by
  refine ⟨?_, ?_, ?_⟩
  · rw [more.curtailed, adds.curtailed, List.map_append, List.sum_append, add_assoc]
  · rw [more.balancing, adds.balancing, List.map_append, List.sum_append, sub_sub]
  · rw [more.regulation, adds.regulation, List.flatMap_append, List.append_assoc]

variable {G : Type} {s : Simulation G ℝ} {time : Instant} {slot : Nat}

/-! ### Bills of members -/

noncomputable def membersBill (s : Simulation G ℝ) (time : Instant)
    (subscription : Subscription ℝ) : Bill ℝ :=
  if subscription.isEmpty then .nothing subscription
  else
    match s.customers[subscription.customer.id.number]? with
    | none => .nothing subscription
    | some e =>
      subscription.bill s.scenario.control (s.isControlled time) time (e.model.usageAt time)

theorem billMembers_eq (s : Simulation G ℝ) (time : Instant) (tally : Tally ℝ)
    (subscription : Subscription ℝ) :
    s.billMembers (s.isControlled time) time tally subscription =
      ((s.membersBill time subscription).addTo tally, (s.membersBill time subscription).last) := by
  unfold billMembers membersBill
  by_cases empty : subscription.isEmpty = true
  · rw [if_pos empty, if_pos empty, Bill.addTo_nothing]
    rfl
  · rw [if_neg empty, if_neg empty]
    cases s.customers[subscription.customer.id.number]? with
    | none => rw [Bill.addTo_nothing]; rfl
    | some e => exact Subscription.billSubscription_eq _ _ _ _ _ _

theorem curtailed_account (s : Simulation G ℝ) (slot : Nat) (time : Instant)
    (subscription : Subscription ℝ) :
    (s.account slot time subscription).curtailed = (s.membersBill time subscription).curtailed := by
  simp only [Account.curtailed, account, billMembers_eq, Bill.addTo, Tally.blank, zero_add]

theorem taken_account (s : Simulation G ℝ) (slot : Nat) (time : Instant)
    (subscription : Subscription ℝ) :
    (s.account slot time subscription).taken = (s.membersBill time subscription).taken := by
  simp only [Account.taken, account, billMembers_eq, Bill.addTo, Tally.blank, zero_sub, neg_neg]

theorem regulation_account (s : Simulation G ℝ) (slot : Nat) (time : Instant)
    (subscription : Subscription ℝ) :
    (s.account slot time subscription).regulation =
      (s.membersBill time subscription).regulation.map
        (Tally.blank (R := ℝ) slot).journal.stamp := by
  simp only [Account.regulation, account, billMembers_eq, Bill.addTo, Journal.ofKind_postAll,
    Bill.regulation]
  rfl

/-! ### Billing -/

theorem adds_account (s : Simulation G ℝ) (time : Instant) (subscription : Subscription ℝ)
    {tally : Tally ℝ} (stamped : tally.journal.timeslot = slot) :
    Tally.Adds [s.account slot time subscription] tally
      ((s.membersBill time subscription).addTo tally) := by
  refine ⟨?_, ?_, ?_⟩
  · simp only [List.map_singleton, List.sum_singleton, curtailed_account]
    rfl
  · simp only [List.map_singleton, List.sum_singleton, taken_account]
    rfl
  · have same : tally.journal.stamp = (Tally.blank (R := ℝ) slot).journal.stamp := by
      funext posting
      simp only [Journal.stamp, stamped, Tally.blank]
    simp only [List.flatMap_singleton, regulation_account, Bill.addTo, Journal.ofKind_postAll, same]
    rfl

theorem threadMap_billMembers (s : Simulation G ℝ) (time : Instant) (tally : Tally ℝ)
    (subscriptions : List (Subscription ℝ)) :
    threadMap (s.billMembers (s.isControlled time) time) tally subscriptions =
      (subscriptions.foldl (fun tally subscription =>
          (s.membersBill time subscription).addTo tally) tally,
        subscriptions.map fun subscription => (s.membersBill time subscription).last) := by
  induction subscriptions generalizing tally with
  | nil => rfl
  | cons subscription rest ih => simp only [threadMap, billMembers_eq, ih, List.foldl_cons,
      List.map_cons]

theorem adds_members (s : Simulation G ℝ) (time : Instant)
    (subscriptions : List (Subscription ℝ)) {tally : Tally ℝ}
    (stamped : tally.journal.timeslot = slot) :
    Tally.Adds (subscriptions.map (s.account slot time)) tally
      (subscriptions.foldl (fun tally subscription =>
        (s.membersBill time subscription).addTo tally) tally) := by
  induction subscriptions generalizing tally with
  | nil => exact .refl tally
  | cons subscription rest ih =>
      have still : ((s.membersBill time subscription).addTo tally).journal.timeslot = slot :=
        (Journal.timeslot_postAll _ _).trans stamped
      exact (adds_account s time subscription stamped).trans (ih still)

theorem adds_billSlot (s : Simulation G ℝ) (slot : Nat) (time : Instant) (tally : Tally ℝ) :
    Tally.Adds (s.books.roster.toList.map (s.account slot time)) tally
        (billSlot s slot time tally).1 := by
  let stamped : Tally ℝ := { tally with journal := { tally.journal with timeslot := slot } }
  have current : stamped.journal.timeslot = slot := rfl
  have adds := adds_members s time s.books.roster.toList current
  simp only [billSlot, Roster.mapAccum_eq, threadMap_billMembers]
  exact ⟨adds.curtailed, adds.balancing, adds.regulation⟩

theorem billSlot_blank (s : Simulation G ℝ) (slot : Nat) (time : Instant) (tally : Tally ℝ) :
    (billSlot s slot time tally).2 = (billSlot s slot time (.blank slot)).2 := by
  simp only [billSlot, Roster.mapAccum_eq, threadMap_billMembers]

theorem adds_billSlots (count : Nat) (s : Simulation G ℝ) (tally : Tally ℝ) :
    Tally.Adds (accounts count s) tally (billSlots count s tally).1 := by
  induction count generalizing s tally with
  | zero => exact .refl tally
  | succ count ih =>
      rw [billSlots_succ, accounts]
      split
      · refine (adds_billSlot _ _ _ tally).trans ?_
        rw [← billSlot_blank _ _ _ tally]
        exact ih _ _
      · exact .refl tally

theorem adds_billCycle (s : Simulation G ℝ) :
    Tally.Adds (accounts s.scenario.run.timeslotsPerCycle s)
      { journal := s.books.journal, curtailed := 0, balancing := 0 } s.billCycle.1 :=
  adds_billSlots _ s _

/-! ### Bounds -/

/-- An account that keeps to what control may do.  Balancing energy is posted at most once, inside
the control window and where the tariff has agreed to it, and with what is curtailed it stays
within the curtailable share of the energy used. -/
structure Account.Confined (scenario : Scenario ℝ) (clock : Nat → Instant)
    (account : Account ℝ) : Prop where
  curtailed : 0 ≤ account.curtailed
  taken : 0 ≤ account.taken
  regulation : account.regulation = [] ∨
    scenario.control.window.contains (clock account.slot).hourOfDay = true ∧
      account.subscription.tariff.isInterruptible = true ∧
      account.subscription.tariff.hasRegulation = true ∧
      ∃ transaction, account.regulation = [transaction] ∧
        (transaction.timeslot, transaction.key) = account.place
  share : ∀ plan ∈ scenario.tariffs, ∀ id supersedes,
    account.subscription.tariff = plan.tariff id supersedes →
      account.subscription.customer.powerType.canUse plan.powerType = true →
        account.curtailed + account.taken ≤ plan.curtailable * max account.usage 0

theorem membersBill_cases (s : Simulation G ℝ) (time : Instant) (subscription : Subscription ℝ) :
    s.membersBill time subscription = .nothing subscription ∨
      ∃ e, s.customers[subscription.customer.id.number]? = some e ∧
        s.membersBill time subscription = subscription.bill s.scenario.control
          (s.isControlled time) time (e.model.usageAt time) := by
  unfold membersBill
  split
  · exact .inl rfl
  · cases s.customers[subscription.customer.id.number]? with
    | none => exact .inl rfl
    | some e => exact .inr ⟨e, rfl, rfl⟩

theorem contains_of_isControlled (controlled : s.isControlled time = true) :
    s.scenario.control.window.contains time.hourOfDay = true :=
  (Bool.and_eq_true_iff.1 controlled).2

variable [SampleSource G ℝ] {scenario : Scenario ℝ}

theorem Planned.usageAt_nonneg_of_canUse (planned : Planned scenario s) {customer : Customer}
    (member : customer ∈ scenario.people) {e : Evaluator (SampledCustomer G ℝ) ℝ}
    (found : s.customers[customer.id.number]? = some e) {powerType : PowerType}
    (usable : customer.powerType.canUse powerType = true)
    (interruptible : powerType.isInterruptible = true) (time : Instant) :
    0 ≤ e.model.usageAt time := by
  have consumes : customer.powerType.isProduction = false := by
    revert usable interruptible
    generalize customer.powerType = own
    cases powerType <;> cases own <;> decide
  refine planned.usageAt_nonneg (Array.mem_toList_iff.2 (Array.mem_of_getElem? found)) ?_ time
  rw [planned.customer_of_found member found]
  exact consumes

theorem share_bill (planned : Planned scenario s) (valid : scenario.problems = [])
    {subscription : Subscription ℝ} (listed : subscription ∈ s.books.roster.toList)
    (uncontrolled : subscription.Uncontrolled) {plan : TariffPlan ℝ}
    (scheduled : plan ∈ scenario.tariffs) {id : TariffId} {supersedes : Option TariffId}
    (terms : subscription.tariff = plan.tariff id supersedes)
    (usable : subscription.customer.powerType.canUse plan.powerType = true)
    {e : Evaluator (SampledCustomer G ℝ) ℝ}
    (found : s.customers[subscription.customer.id.number]? = some e) (controlled : Bool)
    (time : Instant) :
    let bill := subscription.bill s.scenario.control controlled time (e.model.usageAt time)
    bill.curtailed + bill.taken ≤
      plan.curtailable * max (e.model.usageAt time * subscription.committed) 0 := by
  obtain ⟨positive, part⟩ := Scenario.curtailable_of_valid valid scheduled
  refine Subscription.bill_le uncontrolled (fun rate rated => ?_) positive part ?_
    fun interruptible => ?_
  · rw [terms] at rated
    rw [plan.curtailable_of_mem_rates id supersedes rated]
    exact ⟨positive, le_rfl⟩
  · rw [planned.scenario_eq]
    exact (Scenario.balancingShare_of_valid valid).2
  · rw [terms, TariffPlan.isInterruptible_tariff, Bool.and_eq_true] at interruptible
    exact planned.usageAt_nonneg_of_canUse (planned.books.relates.of_mem listed).1.1 found usable
      interruptible.1 time

theorem confined_account (planned : Planned scenario s) (valid : scenario.problems = [])
    {subscription : Subscription ℝ} (listed : subscription ∈ s.books.roster.toList)
    (uncontrolled : subscription.Uncontrolled) (slot : Nat) :
    (s.account slot (s.timetable.slotStart slot) subscription).Confined scenario
      s.timetable.slotStart := by
  rcases membersBill_cases s (s.timetable.slotStart slot) subscription with
    skipped | ⟨e, found, billed⟩
  · have curtailed := curtailed_account s slot (s.timetable.slotStart slot) subscription
    have taken := taken_account s slot (s.timetable.slotStart slot) subscription
    rw [skipped] at curtailed taken
    refine ⟨curtailed.ge, taken.ge, .inl ?_, fun plan scheduled id supersedes _ _ => ?_⟩
    · rw [regulation_account, skipped]
      rfl
    · rw [curtailed, taken]
      exact (add_zero (0 : ℝ)).trans_le
        (mul_nonneg (Scenario.curtailable_of_valid valid scheduled).1 (le_max_right _ _))
  · refine ⟨?_, ?_, ?_, fun plan scheduled id supersedes terms usable => ?_⟩
    · rw [curtailed_account, billed]
      exact Subscription.curtailed_bill_nonneg uncontrolled
    · rw [taken_account, billed]
      exact Subscription.taken_bill_nonneg uncontrolled
    · rw [regulation_account, billed]
      rcases @Subscription.regulation_bill subscription s.scenario.control
          (s.isControlled (s.timetable.slotStart slot)) (s.timetable.slotStart slot)
          (e.model.usageAt (s.timetable.slotStart slot)) uncontrolled with
        ⟨-, nothing⟩ | ⟨-, controlled, interruptible, regulation, charge, posted⟩
      · refine .inl ?_
        rw [nothing]
        rfl
      · refine .inr ⟨?_, interruptible, regulation, _, by rw [posted]; rfl, rfl⟩
        rw [← planned.scenario_eq]
        exact contains_of_isControlled controlled
    · have usage : (s.account slot (s.timetable.slotStart slot) subscription).usage =
          e.model.usageAt (s.timetable.slotStart slot) * subscription.committed := by
        simp only [account, found]
      rw [curtailed_account, taken_account, billed, usage]
      exact share_bill planned valid listed uncontrolled scheduled terms usable found _ _

/-! ### Accounts of several timeslots -/

omit [SampleSource G ℝ] in
theorem uncontrolled_billSlot (uncontrolled : s.books.Every Subscription.Uncontrolled)
    (slot : Nat) (time : Instant) (tally : Tally ℝ) :
    (billSlot s slot time tally).2.books.Every Subscription.Uncontrolled := by
  simp only [billSlot, Roster.mapAccum_eq, threadMap_billMembers]
  intro last listed
  obtain ⟨subscription, member, rfl⟩ := List.mem_map.1 listed
  have before := uncontrolled subscription member
  rcases membersBill_cases s time subscription with skipped | ⟨e, -, billed⟩
  · rw [skipped]
    exact before
  · rw [billed]
    exact before.bill

omit [SampleSource G ℝ] in
theorem uncontrolled_billSlots (uncontrolled : s.books.Every Subscription.Uncontrolled)
    (count : Nat) (tally : Tally ℝ) :
    (billSlots count s tally).2.books.Every Subscription.Uncontrolled :=
  slots_induction (I := fun current _ => current.books.Every Subscription.Uncontrolled)
    (fun current _ holds => uncontrolled_billSlot (s := current.ticked) holds _ _ _) count
    uncontrolled

omit [SampleSource G ℝ] in
theorem places_accounts (count : Nat) (s : Simulation G ℝ) :
    (accounts count s).map Account.place =
      List.range' s.timetable.next (min count (s.timetable.slots - s.timetable.next)) ×ˢ
        s.books.roster.toList.map Subscription.key := by
  induction count generalizing s with
  | zero => rw [Nat.zero_min]; rfl
  | succ count ih =>
      rw [accounts]
      split
      next left =>
        have billed := billed_billSlot s.ticked s.timetable.next
          (s.timetable.slotStart s.timetable.next) (.blank s.timetable.next)
        have here : (s.ticked.books.roster.toList.map (s.ticked.account s.timetable.next
            (s.timetable.slotStart s.timetable.next))).map Account.place =
              (s.books.roster.toList.map Subscription.key).map (Prod.mk s.timetable.next) := by
          rw [List.map_map, List.map_map]
          rfl
        have length : min (count + 1) (s.timetable.slots - s.timetable.next) =
            min count (s.timetable.slots - (s.timetable.next + 1)) + 1 := by omega
        rw [List.map_append, here, ih, Roster.keys_congr billed.commitments, length,
          List.range'_succ, List.product_cons]
        rfl
      next finished =>
        have none : s.timetable.slots - s.timetable.next = 0 := by omega
        rw [none, Nat.min_zero]
        rfl

omit [SampleSource G ℝ] in
theorem slot_accounts (count : Nat) (s : Simulation G ℝ) {account : Account ℝ}
    (booked : account ∈ accounts count s) :
    s.timetable.next ≤ account.slot ∧
      account.slot < min (s.timetable.next + count) s.timetable.slots := by
  have placed : account.place ∈ (accounts count s).map Account.place := List.mem_map_of_mem booked
  rw [places_accounts] at placed
  obtain ⟨first, last⟩ := List.mem_range'_1.1 (List.mem_product.1 placed).1
  omega

theorem confined_accounts (planned : Planned scenario s) (valid : scenario.problems = [])
    (uncontrolled : s.books.Every Subscription.Uncontrolled) (count : Nat) {account : Account ℝ}
    (booked : account ∈ accounts count s) :
    account.Confined scenario s.timetable.slotStart ∧
      account.subscription.commitment ∈ s.books.roster.commitments := by
  induction count generalizing s with
  | zero => cases booked
  | succ count ih =>
      rw [accounts] at booked
      split at booked
      · have plannedTicked := planned.billed (billed_ticked s)
        rcases List.mem_append.1 booked with here | later
        · obtain ⟨subscription, listed, rfl⟩ := List.mem_map.1 here
          exact ⟨confined_account plannedTicked valid listed (uncontrolled _ listed) _,
            List.mem_map_of_mem listed⟩
        · have billed := billed_billSlot s.ticked s.timetable.next
            (s.timetable.slotStart s.timetable.next) (.blank s.timetable.next)
          obtain ⟨confined, member⟩ := ih (plannedTicked.billed billed)
            (uncontrolled_billSlot (s := s.ticked) uncontrolled _ _ _) later
          rw [billed.commitments] at member
          exact ⟨confined, member⟩
      · cases booked

omit [SampleSource G ℝ] in
theorem nodup_places (faithful : s.books.roster.Faithful) (count : Nat) :
    ((accounts count s).map Account.place).Nodup := by
  rw [places_accounts]
  exact (List.nodup_range' 1 Nat.one_pos).product faithful.nodup

omit [SampleSource G ℝ] in
theorem sublist_places {clock : Nat → Instant} {accounts : List (Account ℝ)}
    (confined : ∀ account ∈ accounts, account.Confined scenario clock) :
    ((accounts.flatMap Account.regulation).map fun t => (t.timeslot, t.key)).Sublist
      (accounts.map Account.place) := by
  induction accounts with
  | nil => exact .slnil
  | cons account rest ih =>
      obtain ⟨here, later⟩ := List.forall_mem_cons.1 confined
      rw [List.flatMap_cons, List.map_append, List.map_cons]
      rcases here.regulation with none | ⟨-, -, -, transaction, posted, place⟩
      · rw [none]
        exact .cons _ (ih later)
      · rw [posted, List.map_singleton, List.singleton_append, place]
        exact .cons_cons _ (ih later)

end Simulation

/-! ## Between billings -/

/-- Members stand, or have stood, under the key on these terms. -/
def Roster.Binds {R : Type} (roster : Roster R) (key : SubscriptionKey) (tariff : Tariff R) :
    Prop :=
  ∃ commitment ∈ roster.commitments, commitment.key = key ∧ commitment.tariff = tariff

theorem Roster.binds_congr {R : Type} {first second : Roster R}
    (same : first.commitments = second.commitments) (key : SubscriptionKey) (tariff : Tariff R) :
    first.Binds key tariff ↔ second.Binds key tariff := by
  rw [Binds, same, ← Binds]

namespace Books

variable {R : Type} [Quantity R]

end Books

/-! ## Runs -/

namespace Simulation

variable {G : Type} [SampleSource G ℝ] {scenario : Scenario ℝ} {s : Simulation G ℝ}

/-- Control has kept to what it may do: what has been posted for balancing belongs to past timeslots
inside the control window and to subscriptions that have agreed to it, once each. -/
structure Confined (scenario : Scenario ℝ) (s : Simulation G ℝ) : Prop where
  planned : Planned scenario s
  uncontrolled : s.books.Every Subscription.Uncontrolled
  within : s.timetable.next ≤ s.timetable.slots
  posted : ∀ t ∈ s.books.journal.ofKind .regulation, t.timeslot < s.timetable.next ∧
    scenario.control.window.contains (s.timetable.slotStart t.timeslot).hourOfDay = true ∧
    ∃ tariff, s.books.roster.Binds t.key tariff ∧ tariff.isInterruptible = true ∧
      tariff.hasRegulation = true
  once : ((s.books.journal.ofKind .regulation).map fun t => (t.timeslot, t.key)).Nodup

theorem Confined.replace {before after : Simulation G ℝ} (confined : Confined scenario before)
    (planned : Planned scenario after)
    (uncontrolled : after.books.Every Subscription.Uncontrolled)
    (timetable : after.timetable = before.timetable)
    (posted : after.books.journal.ofKind .regulation = before.books.journal.ofKind .regulation)
    (binds : ∀ key tariff, before.books.roster.Binds key tariff →
      after.books.roster.Binds key tariff) : Confined scenario after := by
  refine ⟨planned, uncontrolled, timetable ▸ confined.within, fun t listed => ?_,
    posted ▸ confined.once⟩
  rw [posted] at listed
  rw [timetable]
  obtain ⟨past, inside, tariff, bound, agreed⟩ := confined.posted t listed
  exact ⟨past, inside, tariff, binds _ _ bound, agreed⟩

theorem Confined.queues {before after : Simulation G ℝ} (confined : Confined scenario before)
    (planned : Planned scenario after)
    (uncontrolled : after.books.Every Subscription.Uncontrolled)
    (timetable : after.timetable = before.timetable)
    {P : Customer → Tariff ℝ → Prop} (queues : Books.Queues P before.books after.books) :
    Confined scenario after := by
  obtain ⟨_, queued, -⟩ := queues
  exact confined.replace planned uncontrolled timetable (by rw [queued.journal]) fun _ _ =>
    (Roster.binds_congr queued.commitments _ _).2

theorem Confined.billCycle (confined : Confined scenario s) (valid : scenario.problems = []) :
    Confined scenario s.billCycle.2 := by
  have planned := confined.planned
  have billed := billed_billCycle s
  have clock := timetable_billCycle s confined.within
  have limit := confined.within
  let count := s.scenario.run.timeslotsPerCycle
  have added : s.billCycle.2.books.journal.ofKind .regulation =
      s.books.journal.ofKind .regulation ++ (accounts count s).flatMap Account.regulation :=
    (adds_billCycle s).regulation
  have booked {account : Account ℝ} (listed : account ∈ accounts count s) :=
    confined_accounts planned valid confined.uncontrolled count listed
  have sublist := sublist_places fun account listed => (booked listed).1
  have uncontrolled : s.billCycle.2.books.Every Subscription.Uncontrolled :=
    uncontrolled_billSlots confined.uncontrolled count _
  refine ⟨planned.billed billed, uncontrolled, ?_, fun t listed => ?_, ?_⟩
  · rw [clock]
    exact min_le_right _ _
  · rw [added] at listed
    simp only [clock, Roster.binds_congr billed.commitments]
    rcases List.mem_append.1 listed with old | new
    · obtain ⟨past, inside, tariff, bound, agreed⟩ := confined.posted t old
      exact ⟨by omega, inside, tariff, bound, agreed⟩
    · obtain ⟨account, entered, mine⟩ := List.mem_flatMap.1 new
      obtain ⟨keeps, member⟩ := booked entered
      have range := slot_accounts count s entered
      rcases keeps.regulation with none | ⟨inside, interruptible, regulation, posting, only, place⟩
      · rw [none] at mine
        cases mine
      · rw [only] at mine
        rw [List.mem_singleton.1 mine]
        obtain ⟨slot, key⟩ := Prod.mk.inj place
        refine ⟨by rw [slot]; exact range.2, ?_, account.subscription.tariff,
          ⟨_, member, key.symm, rfl⟩, interruptible, regulation⟩
        rw [slot]
        exact inside
  · rw [added, List.map_append, List.nodup_append]
    refine ⟨confined.once, sublist.nodup (nodup_places planned.books.relates.roster count),
      fun first before second after same => ?_⟩
    obtain ⟨old, earlier, rfl⟩ := List.mem_map.1 before
    obtain ⟨account, entered, rfl⟩ := List.mem_map.1 (sublist.subset after)
    have past := (confined.posted old earlier).1
    have range := slot_accounts count s entered
    have slot : old.timeslot = account.slot := congrArg Prod.fst same
    omega

theorem Confined.agreed (confined : Confined scenario s) (valid : scenario.problems = [])
    {t : Transaction ℝ} (posted : t ∈ s.books.journal.ofKind .regulation) :
    scenario.control.window.contains (s.timetable.slotStart t.timeslot).hourOfDay = true ∧
      ∃ subscription ∈ s.books.roster.toList, subscription.key = t.key ∧
        ∃ plan ∈ scenario.tariffs, ∃ id supersedes,
          subscription.tariff = plan.tariff id supersedes ∧
            plan.powerType.isInterruptible = true ∧ 0 < plan.curtailable ∧
            plan.regulation.isSome = true := by
  obtain ⟨-, inside, tariff, ⟨commitment, member, key, rfl⟩, interruptible, regulation⟩ :=
    confined.posted t posted
  obtain ⟨-, plan, scheduled, id, supersedes, terms⟩ :=
    (confined.planned.books.relates.members _ member).1
  obtain ⟨subscription, listed, rfl⟩ := List.mem_map.1 member
  have own : subscription.tariff = plan.tariff id supersedes := terms
  refine ⟨inside, subscription, listed, key, plan, scheduled, id, supersedes, own, ?_⟩
  rw [terms] at interruptible regulation
  rw [TariffPlan.isInterruptible_tariff, Bool.and_eq_true, Bool.not_eq_true',
    beq_eq_false_iff_ne] at interruptible
  exact ⟨interruptible.1, (Scenario.curtailable_of_valid valid scheduled).1.lt_of_ne'
    interruptible.2, regulation⟩

end Simulation

end RetailMarket
