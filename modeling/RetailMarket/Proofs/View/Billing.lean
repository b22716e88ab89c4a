import RetailMarket.Proofs.Billing
import RetailMarket.Proofs.View.Books

/-!
# Billing in the view of a customer

A subscription is billed in the name of its customer, and by what the customer's population uses.
What the tally adds up over all customers decides nothing.
-/

namespace RetailMarket

variable {G R : Type} {id : CustomerId}

def Journal.seen (id : CustomerId) (journal : Journal R) : Nat × List (Transaction R) :=
  (journal.timeslot, journal.transactions.toList.filter fun t => t.customer == id)

theorem Journal.seen_postAll (journal : Journal R) {postings : List (Posting R)}
    {customer : CustomerId} (own : ∀ posting ∈ postings, posting.customer = customer) :
    (journal.postAll postings).seen id =
      (journal.timeslot, (journal.seen id).2 ++
        if customer = id then
          postings.map fun posting => { toPosting := posting, timeslot := journal.timeslot }
        else []) := by
  simp only [seen, timeslot_postAll, toList_postAll, List.filter_append, journal.filter_stamp own]
  rfl

def Simulation.Tally.onto (books : Books R) (tally : Simulation.Tally R) : Books R :=
  { books with journal := tally.journal }

namespace Simulation

variable [Quantity R] {first second : Simulation G R}

theorem exists_own_billMembers (simulation : Simulation G R) (controlled : Bool) (time : Instant)
    (subscription : Subscription R) :
    ∃ postings last, (∀ posting ∈ postings, posting.customer = subscription.customer.id) ∧
      ∀ tally : Tally R,
        (simulation.billMembers controlled time tally subscription).1.journal =
          tally.journal.postAll postings ∧
        (simulation.billMembers controlled time tally subscription).2 = last := by
  have unbilled : ∃ postings last,
      (∀ posting ∈ postings, posting.customer = subscription.customer.id) ∧
        ∀ tally : Tally R, (tally, subscription).1.journal = tally.journal.postAll postings ∧
          (tally, subscription).2 = last :=
    ⟨[], subscription, by simp, fun _ => ⟨rfl, rfl⟩⟩
  simp only [billMembers]
  split
  · exact unbilled
  · split
    · exact unbilled
    · rename_i e _
      obtain ⟨postings, last, bills, -, billed⟩ := Subscription.exists_bills_billSubscription
        simulation.scenario.control controlled time (e.model.usageAt time) subscription
      exact ⟨postings, last, fun posting listed =>
        congrArg SubscriptionKey.customer (bills.own posting listed).1, billed⟩

theorem customer_billMembers (simulation : Simulation G R) (controlled : Bool) (time : Instant)
    (tally : Tally R) (subscription : Subscription R) :
    (simulation.billMembers controlled time tally subscription).2.customer =
      subscription.customer :=
  congrArg Commitment.customer (commitment_billMembers simulation controlled time tally subscription)

theorem seen_billMembers_of_ne (simulation : Simulation G R) (controlled : Bool) (time : Instant)
    (tally : Tally R) {subscription : Subscription R} (other : subscription.customer.id ≠ id) :
    (simulation.billMembers controlled time tally subscription).1.journal.seen id =
      tally.journal.seen id := by
  obtain ⟨postings, _, own, billed⟩ :=
    exists_own_billMembers simulation controlled time subscription
  rw [(billed tally).1, Journal.seen_postAll _ own, if_neg other, List.append_nil]
  rfl

theorem seen_billMembers_congr (hosted : first.customers[id.number]? = second.customers[id.number]?)
    (control : first.scenario.control = second.scenario.control) (controlled : Bool)
    (time : Instant) {left right : Tally R} (same : left.journal.seen id = right.journal.seen id)
    {subscription : Subscription R} (own : subscription.customer.id = id) :
    (first.billMembers controlled time left subscription).1.journal.seen id =
        (second.billMembers controlled time right subscription).1.journal.seen id ∧
      (first.billMembers controlled time left subscription).2 =
        (second.billMembers controlled time right subscription).2 := by
  have alike : first.billMembers controlled time right subscription =
      second.billMembers controlled time right subscription := by
    simp only [billMembers, own, hosted, control]
  obtain ⟨postings, last, mine, billed⟩ :=
    exists_own_billMembers first controlled time subscription
  obtain ⟨timeslot, transactions⟩ := Prod.mk.inj same
  rw [← alike, (billed left).1, (billed left).2, (billed right).1, (billed right).2,
    Journal.seen_postAll _ mine, Journal.seen_postAll _ mine, same, timeslot]
  exact ⟨rfl, rfl⟩

/-! ## Timeslots and cycles -/

structure BillsAlike (id : CustomerId) (first second : Simulation G R) : Prop where
  control : first.scenario.control = second.scenario.control
  timetable : first.timetable = second.timetable
  hosted : first.customers[id.number]? = second.customers[id.number]?

theorem view_billSlot_congr (alike : BillsAlike id first second) {left right : Tally R}
    (same : (left.onto first.books).view id = (right.onto second.books).view id) (slot : Nat)
    (time : Instant) :
    ((first.billSlot slot time left).1.onto (first.billSlot slot time left).2.books).view id =
      ((second.billSlot slot time right).1.onto
        (second.billSlot slot time right).2.books).view id := by
  simp only [Books.view, Tally.onto, View.mk.injEq] at same
  obtain ⟨catalogue, defaults, pending, subscriptions, -, transactions⟩ := same
  -- Stamping the timeslot makes the journals agree on it, whatever they were stamped with before.
  let stamp (tally : Tally R) : Tally R :=
    { tally with journal := { tally.journal with timeslot := slot } }
  have controlled : first.isControlled time = second.isControlled time := by
    simp only [isControlled, alike.control]
  have stamped : (stamp left).journal.seen id = (stamp right).journal.seen id :=
    Prod.ext rfl transactions
  have kept (simulation : Simulation G R) (tally : Tally R) (s : Subscription R) :
      ((simulation.billMembers (second.isControlled time) time tally s).2.customer.id == id) =
        (s.customer.id == id) := by
    rw [customer_billMembers]
  have foreign (simulation : Simulation G R) (tally : Tally R) (s : Subscription R)
      (other : (s.customer.id == id) = false) :
      (simulation.billMembers (second.isControlled time) time tally s).1.journal.seen id =
        tally.journal.seen id :=
    seen_billMembers_of_ne simulation _ time tally (by simpa using other)
  obtain ⟨journal, billed⟩ := threadMap_views (fun tally : Tally R => tally.journal.seen id)
    (fun _ => True) (first.billMembers (second.isControlled time) time)
    (second.billMembers (second.isControlled time) time) (fun s => s.customer.id == id)
    (kept first) (kept second) (fun _ _ _ => trivial) (fun _ _ _ => trivial)
    (fun tally s _ => foreign first tally s) (fun tally s _ => foreign second tally s)
    (fun _ _ s _ _ equal own =>
      seen_billMembers_congr alike.hosted alike.control _ time equal (by simpa using own))
    trivial trivial stamped subscriptions
  obtain ⟨timeslot, posted⟩ := Prod.mk.inj journal
  simp only [billSlot, Roster.mapAccum_eq, controlled, Books.view, Tally.onto, View.mk.injEq]
  exact ⟨catalogue, defaults, pending, billed, timeslot, posted⟩

theorem BillsAlike.billSlot (alike : BillsAlike id first second) (slot : Nat) (time : Instant)
    (left right : Tally R) :
    BillsAlike id (first.billSlot slot time left).2 (second.billSlot slot time right).2 := by
  have billed := billed_billSlot first slot time left
  have billed' := billed_billSlot second slot time right
  refine ⟨?_, alike.timetable, ?_⟩
  · rw [billed.scenario, billed'.scenario, alike.control]
  · rw [billed.customers, billed'.customers, alike.hosted]

omit [Quantity R] in
theorem BillsAlike.ticked (alike : BillsAlike id first second) :
    BillsAlike id first.ticked second.ticked :=
  ⟨alike.control, by rw [Simulation.ticked, Simulation.ticked, alike.timetable], alike.hosted⟩

theorem view_billSlots_congr (count : Nat) (alike : BillsAlike id first second)
    {left right : Tally R}
    (same : (left.onto first.books).view id = (right.onto second.books).view id) :
    ((billSlots count first left).1.onto (billSlots count first left).2.books).view id =
        ((billSlots count second right).1.onto (billSlots count second right).2.books).view id ∧
      (billSlots count first left).2.timetable = (billSlots count second right).2.timetable := by
  induction count generalizing first second left right with
  | zero => exact ⟨same, alike.timetable⟩
  | succ count ih =>
      rw [billSlots_succ, billSlots_succ, alike.timetable]
      split
      · exact ih (alike.ticked.billSlot _ _ left right) (view_billSlot_congr alike.ticked same _ _)
      · exact ⟨same, alike.timetable⟩

theorem view_billCycle_congr (alike : BillsAlike id first second)
    (length : first.scenario.run.timeslotsPerCycle = second.scenario.run.timeslotsPerCycle)
    (same : first.books.view id = second.books.view id) :
    first.billCycle.2.books.view id = second.billCycle.2.books.view id ∧
      first.billCycle.2.timetable = second.billCycle.2.timetable := by
  let opened (books : Books R) : Tally R :=
    { journal := books.journal, curtailed := 0, balancing := 0 }
  have begun : ((opened first.books).onto first.books).view id =
      ((opened second.books).onto second.books).view id := same
  have billed := view_billSlots_congr second.scenario.run.timeslotsPerCycle alike begun
  simp only [billCycle, length]
  exact billed

end Simulation

end RetailMarket
