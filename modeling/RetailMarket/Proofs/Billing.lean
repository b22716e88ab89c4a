import RetailMarket.Proofs.Commitment
import RetailMarket.Simulation.Billing

/-!
# What a timeslot is billed

Billing posts for every subscription with members one usage, the periodic payment if there is one,
and balancing energy.  It moves nobody.  What a timeslot is billed is read off the journal by its
`counts`, and what it owes off the commitments of the roster; the two agree slot by slot.
-/

namespace RetailMarket

namespace TransactionKind

def isUsage : TransactionKind → Bool
  | consume | produce => true
  | _ => false

def isSettlement : TransactionKind → Bool
  | signup | withdraw | refund => true
  | _ => false

end TransactionKind

def Posting.key {R : Type} (posting : Posting R) : SubscriptionKey :=
  ⟨posting.customer, posting.tariff⟩

/-! ## Counts in the journal -/

namespace Journal

variable {R : Type}

/-- The counts posted in a timeslot, for some kinds and some keys. -/
def counts (journal : Journal R) (slot : Nat) (kinds : TransactionKind → Bool)
    (keys : SubscriptionKey → Bool) : List Nat :=
  (journal.transactions.toList.filter fun t =>
    t.timeslot == slot && (kinds t.kind && keys t.key)).map (·.count)

theorem postAll_append (journal : Journal R) (first later : List (Posting R)) :
    journal.postAll (first ++ later) = (journal.postAll first).postAll later :=
  List.foldl_append

theorem ofKind_postAll (journal : Journal R) (postings : List (Posting R))
    (kind : TransactionKind) :
    (journal.postAll postings).ofKind kind =
      journal.ofKind kind ++ (postings.filter fun p => p.kind == kind).map journal.stamp := by
  rw [ofKind, toList_postAll, List.filter_append, ← ofKind, List.filter_map]
  rfl

theorem counts_postAll (journal : Journal R) (postings : List (Posting R)) (slot : Nat)
    (kinds : TransactionKind → Bool) (keys : SubscriptionKey → Bool) :
    (journal.postAll postings).counts slot kinds keys =
      journal.counts slot kinds keys ++
        if journal.timeslot = slot then
          (postings.filter fun p => kinds p.kind && keys p.key).map (·.count)
        else [] := by
  rw [counts, toList_postAll, List.filter_append, List.map_append, ← counts]
  congr 1
  rw [List.filter_map, List.map_map]
  by_cases current : journal.timeslot = slot
  · rw [if_pos current]
    simp only [Function.comp_def, stamp, current, beq_self_eq_true, Bool.true_and]
  · have none : postings.filter ((fun t : Transaction R =>
        t.timeslot == slot && (kinds t.kind && keys t.key)) ∘ journal.stamp) = [] := by
      rw [List.filter_eq_nil_iff]
      intro posting _ found
      simp only [Function.comp_apply, stamp, Bool.and_eq_true, beq_iff_eq] at found
      exact current found.1
    rw [if_neg current, none]
    rfl

theorem counts_postAll_of_apart {kinds : TransactionKind → Bool} (journal : Journal R)
    {postings : List (Posting R)} (apart : ∀ posting ∈ postings, kinds posting.kind = false)
    (slot : Nat) (keys : SubscriptionKey → Bool) :
    (journal.postAll postings).counts slot kinds keys = journal.counts slot kinds keys := by
  have none : postings.filter (fun p => kinds p.kind && keys p.key) = [] := by
    refine List.filter_eq_nil_iff.2 fun posting listed => ?_
    rw [apart posting listed]
    exact Bool.false_ne_true
  rw [counts_postAll, none]
  split <;> exact List.append_nil _

end Journal

/-! ## One subscription -/

/-- The postings of a timeslot: each for all members, one of them for the usage, one for the
periodic payment if that is not zero, the others for balancing energy. -/
structure Bills {R : Type} [Quantity R] (subscription : Subscription R)
    (postings : List (Posting R)) : Prop where
  own : ∀ posting ∈ postings,
    posting.key = subscription.key ∧ posting.count = subscription.committed
  kinds : ∃ usage control, usage.isUsage = true ∧ (∀ kind ∈ control, kind = .regulation) ∧
    postings.map (·.kind) =
      usage :: ((if subscription.tariff.periodicPayment == 0 then [] else [.periodic]) ++ control)

namespace Subscription

variable {R : Type} [Quantity R]

omit [Quantity R] in
theorem key_of_commitment {first second : Subscription R}
    (same : first.commitment = second.commitment) : first.key = second.key :=
  congrArg Commitment.key same

theorem bills_usePower (subscription : Subscription R) (kwh : R) (now : Instant) :
    Bills subscription (subscription.usePower kwh now).2 := by
  constructor
  · intro posting listed
    simp only [usePower] at listed
    rcases List.mem_cons.1 listed with rfl | periodic
    · exact ⟨rfl, rfl⟩
    · split at periodic
      · cases periodic
      · rw [List.mem_singleton.1 periodic]
        exact ⟨rfl, rfl⟩
  · refine ⟨if kwh - (subscription.economicRegulation kwh now).1 < 0 then .produce else .consume,
      [], ?_, by simp, ?_⟩
    · split <;> rfl
    · simp only [usePower, List.map_cons, posting, List.append_nil]
      congr 1
      split <;> rfl

theorem bills_balance {subscription metered : Subscription R} {postings : List (Posting R)}
    (bills : Bills subscription postings) (same : metered.commitment = subscription.commitment)
    (kwh : R) (now : Instant) :
    Bills subscription (postings ++ (metered.balance kwh now).2) := by
  constructor
  · intro posting listed
    rcases List.mem_append.1 listed with earlier | control
    · exact bills.own posting earlier
    · rw [List.mem_singleton.1 control]
      exact ⟨key_of_commitment same, congrArg Commitment.committed same⟩
  · obtain ⟨usage, control, metering, regulation, kinds⟩ := bills.kinds
    refine ⟨usage, control ++ [.regulation], metering, ?_, ?_⟩
    · intro kind listed
      rcases List.mem_append.1 listed with earlier | last
      · exact regulation kind earlier
      · exact List.mem_singleton.1 last
    · have last : (metered.balance kwh now).2.map (·.kind) = [.regulation] := rfl
      rw [List.map_append, kinds, last, List.cons_append, List.append_assoc]

theorem bills_congr {first second : Subscription R} (same : first.commitment = second.commitment)
    {postings : List (Posting R)} (bills : Bills first postings) : Bills second postings := by
  have tariff : first.tariff = second.tariff := congrArg Commitment.tariff same
  have committed : first.committed = second.committed := congrArg Commitment.committed same
  exact ⟨key_of_commitment same ▸ committed ▸ bills.own, tariff ▸ bills.kinds⟩

theorem exists_bills_billSubscription (control : ControlSettings R) (controlled : Bool)
    (time : Instant) (usage : R) (subscription : Subscription R) :
    ∃ postings last, Bills subscription postings ∧ last.commitment = subscription.commitment ∧
      ∀ tally : Simulation.Tally R,
        (Simulation.billSubscription control controlled time usage tally
          subscription).1.journal = tally.journal.postAll postings ∧
        (Simulation.billSubscription control controlled time usage tally subscription).2 = last := by
  let prepared : Subscription R :=
    if subscription.tariff.isInterruptible then
      let up := Quantity.larger (subscription.tariff.maxUpRegulation time usage) 0
      let capable := subscription.setCapacity (.clamped up 0)
      if controlled then capable.postRatio control.ratio else capable
    else subscription
  have same : prepared.commitment = subscription.commitment := by
    simp only [prepared]
    split
    · split <;> rfl
    · rfl
  let kwh := usage * (subscription.committed : R)
  let metered := (prepared.usePower kwh time).1.takeCurtailment.2
  have sameMetered : metered.commitment = subscription.commitment := same
  have bills := bills_congr same (bills_usePower prepared kwh time)
  by_cases balancing : (controlled && decide (0 < control.balancingShare) &&
      subscription.tariff.hasRegulation && decide (0 < metered.remainingCapacity.up)) = true
  · let balanced := metered.balance (-control.balancingShare * metered.remainingCapacity.up) time
    refine ⟨(prepared.usePower kwh time).2 ++ balanced.2, balanced.1.takeRegulation.2,
      bills_balance bills sameMetered _ time, sameMetered, fun tally => ?_⟩
    rw [Journal.postAll_append]
    simp only [Simulation.billSubscription]
    rw [if_pos balancing]
    exact ⟨rfl, rfl⟩
  · refine ⟨(prepared.usePower kwh time).2, metered, bills, sameMetered, fun tally => ?_⟩
    simp only [Simulation.billSubscription]
    rw [if_neg balancing]
    exact ⟨rfl, rfl⟩

end Subscription

/-! ## What is due -/

namespace Bills

variable {R : Type} [Quantity R]

/-- Kinds of which a subscription is billed one where its tariff owes it and none elsewhere, and
that no settlement posts. -/
structure Charges (kinds : TransactionKind → Bool) (due : Tariff R → Bool) : Prop where
  once : ∀ subscription postings, Bills subscription postings →
    ((postings.map (·.kind)).filter kinds).length = if due subscription.tariff then 1 else 0
  apart : ∀ kind : TransactionKind, kind.isSettlement = true → kinds kind = false

theorem charges_usage : Charges (R := R) TransactionKind.isUsage fun _ => true := by
  refine ⟨?_, by intro kind settles; cases kind <;> first | rfl | cases settles⟩
  intro subscription postings bills
  obtain ⟨usage, control, metering, regulation, kinds⟩ := bills.kinds
  have others : control.filter TransactionKind.isUsage = [] :=
    List.filter_eq_nil_iff.2 fun kind listed found => by
      rw [regulation kind listed] at found
      cases found
  rw [kinds, List.filter_cons_of_pos metering, List.filter_append, others]
  split <;> rfl

theorem charges_periodic :
    Charges (R := R) (· == .periodic) fun tariff => !(tariff.periodicPayment == 0) := by
  refine ⟨?_, by intro kind settles; cases kind <;> first | rfl | cases settles⟩
  intro subscription postings bills
  obtain ⟨usage, control, metering, regulation, kinds⟩ := bills.kinds
  have others : control.filter (· == .periodic) = [] :=
    List.filter_eq_nil_iff.2 fun kind listed found => by
      rw [regulation kind listed] at found
      cases found
  have different : ¬ (usage == .periodic) = true := by
    intro same
    rw [eq_of_beq same] at metering
    cases metering
  rw [kinds, List.filter_cons_of_neg (p := (· == TransactionKind.periodic)) different,
    List.filter_append, others]
  cases subscription.tariff.periodicPayment == 0 <;> simp

theorem counts_eq {kinds : TransactionKind → Bool} {due : Tariff R → Bool}
    (charges : Charges kinds due) {subscription : Subscription R} {postings : List (Posting R)}
    (bills : Bills subscription postings) (keys : SubscriptionKey → Bool) :
    (postings.filter fun p => kinds p.kind && keys p.key).map (·.count) =
      if due subscription.tariff && keys subscription.key then [subscription.committed]
      else [] := by
  have length := charges.once subscription postings bills
  have counts : (postings.filter fun p => kinds p.kind && keys p.key).map (·.count) =
      (postings.filter fun p => kinds p.kind && keys subscription.key).map
        fun _ => subscription.committed := by
    rw [List.filter_congr fun posting listed => by rw [(bills.own posting listed).1]]
    exact List.map_congr_left fun posting listed =>
      (bills.own posting (List.mem_filter.1 listed).1).2
  rw [counts]
  cases keys subscription.key with
  | false => simp
  | true =>
      simp only [Bool.and_true, List.map_const']
      rw [List.filter_map, List.length_map] at length
      simp only [Function.comp_def] at length
      rw [length]
      cases due subscription.tariff <;> rfl

end Bills

namespace Roster

variable {R : Type}

/-- The counts that a timeslot owes for some tariffs and some keys. -/
def due (roster : Roster R) (tariffs : Tariff R → Bool) (keys : SubscriptionKey → Bool) :
    List Nat :=
  (roster.toList.filter fun s => !s.isEmpty && (tariffs s.tariff && keys s.key)).map (·.committed)

theorem due_congr {first second : Roster R} (same : first.commitments = second.commitments)
    (tariffs : Tariff R → Bool) (keys : SubscriptionKey → Bool) :
    first.due tariffs keys = second.due tariffs keys := by
  have viewed (roster : Roster R) : roster.due tariffs keys =
      (roster.commitments.filter fun c =>
        !(c.committed == 0) && (tariffs c.tariff && keys c.key)).map (·.committed) := by
    simp only [due, commitments, List.filter_map, List.map_map]
    rfl
  rw [viewed, viewed, same]

theorem due_key {roster : Roster R} (faithful : roster.Faithful) {subscription : Subscription R}
    (listed : subscription ∈ roster.toList) (tariffs : Tariff R → Bool) :
    roster.due tariffs (· == subscription.key) =
      if !subscription.isEmpty && tariffs subscription.tariff then [subscription.committed]
      else [] := by
  have found : roster.find? subscription.key = some subscription :=
    (find?_eq_some_iff faithful).2 ⟨listed, rfl⟩
  obtain ⟨before, after, list, different, -⟩ := exists_split faithful found
  have others (part : List (Subscription R)) (within : ∀ other ∈ part, other ∈ before ++ after) :
      part.filter (fun s => !s.isEmpty && (tariffs s.tariff && s.key == subscription.key)) =
        [] := by
    refine List.filter_eq_nil_iff.2 fun other member found => ?_
    simp only [Bool.and_eq_true, beq_iff_eq] at found
    exact different other (within other member) found.2.2
  rw [due, list, List.filter_append, List.filter_cons,
    others before fun _ => List.mem_append_left _, others after fun _ => List.mem_append_right _]
  simp only [beq_self_eq_true, Bool.and_true, List.nil_append]
  split <;> rfl

theorem sum_due (roster : Roster R) (keys : SubscriptionKey → Bool) :
    (roster.due (fun _ => true) keys).sum = roster.members keys := by
  simp only [due, members, Bool.true_and]
  induction roster.toList with
  | nil => rfl
  | cons subscription rest ih =>
      simp only [List.filter_cons]
      cases keys subscription.key with
      | false => simpa using ih
      | true =>
          by_cases empty : subscription.committed = 0
          · simpa [Subscription.isEmpty, empty] using ih
          · simpa [Subscription.isEmpty, empty] using ih

end Roster

/-! ## One timeslot -/

namespace Simulation

variable {G R : Type} [Quantity R]

/-- Every subscription with members belongs to a population of the run. -/
def Hosts (simulation : Simulation G R) : Prop :=
  ∀ subscription ∈ simulation.books.roster.toList,
    ∃ e, simulation.customers[subscription.customer.id.number]? = some e

def BillsOrSkips (subscription : Subscription R) (postings : List (Posting R)) : Prop :=
  if subscription.isEmpty then postings = [] else Bills subscription postings

theorem commitment_billMembers (simulation : Simulation G R) (controlled : Bool) (time : Instant)
    (tally : Tally R) (subscription : Subscription R) :
    (simulation.billMembers controlled time tally subscription).2.commitment =
      subscription.commitment := by
  simp only [billMembers]
  split
  · rfl
  · split
    · rfl
    · rename_i e _
      obtain ⟨_, _, -, same, billed⟩ := Subscription.exists_bills_billSubscription
        simulation.scenario.control controlled time (e.model.usageAt time) subscription
      rw [(billed tally).2]
      exact same

theorem exists_postings_billMembers {simulation : Simulation G R} {subscription : Subscription R}
    {e : Evaluator (SampledCustomer G R) R}
    (hosted : simulation.customers[subscription.customer.id.number]? = some e)
    (controlled : Bool) (time : Instant) (tally : Tally R) :
    ∃ postings, BillsOrSkips subscription postings ∧
      (simulation.billMembers controlled time tally subscription).1.journal =
        tally.journal.postAll postings := by
  simp only [billMembers, BillsOrSkips, hosted]
  split
  · exact ⟨[], rfl, rfl⟩
  · obtain ⟨postings, _, bills, -, billed⟩ := Subscription.exists_bills_billSubscription
      simulation.scenario.control controlled time (e.model.usageAt time) subscription
    exact ⟨postings, bills, (billed tally).1⟩

theorem exists_postings_threadMap {simulation : Simulation G R}
    {subscriptions : List (Subscription R)}
    (hosts : ∀ subscription ∈ subscriptions,
      ∃ e, simulation.customers[subscription.customer.id.number]? = some e)
    (controlled : Bool) (time : Instant) (tally : Tally R) :
    ∃ pages, List.Forall₂ BillsOrSkips subscriptions pages ∧
      (threadMap (simulation.billMembers controlled time) tally subscriptions).1.journal =
        tally.journal.postAll pages.flatten := by
  induction subscriptions generalizing tally with
  | nil => exact ⟨[], .nil, rfl⟩
  | cons subscription rest ih =>
      obtain ⟨e, hosted⟩ := hosts subscription List.mem_cons_self
      obtain ⟨first, bills, posted⟩ :=
        exists_postings_billMembers hosted controlled time tally
      obtain ⟨later, billsLater, postedLater⟩ :=
        ih (fun other listed => hosts other (List.mem_cons_of_mem _ listed))
          (simulation.billMembers controlled time tally subscription).1
      refine ⟨first :: later, .cons bills billsLater, ?_⟩
      rw [List.flatten_cons, Journal.postAll_append, ← posted]
      exact postedLater

theorem counts_pages {kinds : TransactionKind → Bool} {tariffs : Tariff R → Bool}
    (charges : Bills.Charges kinds tariffs) {subscriptions : List (Subscription R)}
    {pages : List (List (Posting R))} (billed : List.Forall₂ BillsOrSkips subscriptions pages)
    (keys : SubscriptionKey → Bool) :
    (pages.flatten.filter fun p => kinds p.kind && keys p.key).map (·.count) =
      (subscriptions.filter fun s => !s.isEmpty && (tariffs s.tariff && keys s.key)).map
        (·.committed) := by
  induction billed with
  | nil => rfl
  | @cons subscription page _ _ bills _ ih =>
      rw [List.flatten_cons, List.filter_append, List.map_append, ih, List.filter_cons]
      unfold BillsOrSkips at bills
      split at bills
      · rename_i empty
        simp [bills, empty]
      · rename_i peopled
        rw [bills.counts_eq charges]
        simp only [peopled, Bool.not_false, Bool.true_and]
        split <;> rfl

/-- What billing leaves alone: all but the timetable, and subscriptions but for their commitment. -/
structure Billed (before after : Simulation G R) : Prop where
  scenario : after.scenario = before.scenario
  customers : after.customers = before.customers
  published : after.published = before.published
  cycle : after.cycle = before.cycle
  catalogue : after.books.catalogue = before.books.catalogue
  market : after.books.market = before.books.market
  commitments : after.books.roster.commitments = before.books.roster.commitments
  index : after.books.roster.index = before.books.roster.index

omit [Quantity R] in
theorem Billed.refl (simulation : Simulation G R) : Billed simulation simulation :=
  ⟨rfl, rfl, rfl, rfl, rfl, rfl, rfl, rfl⟩

omit [Quantity R] in
theorem Billed.trans {first second third : Simulation G R} (start : Billed first second)
    (rest : Billed second third) : Billed first third :=
  ⟨rest.scenario.trans start.scenario, rest.customers.trans start.customers,
    rest.published.trans start.published, rest.cycle.trans start.cycle,
    rest.catalogue.trans start.catalogue, rest.market.trans start.market,
    rest.commitments.trans start.commitments, rest.index.trans start.index⟩

omit [Quantity R] in
theorem Billed.faithful {before after : Simulation G R} (billed : Billed before after)
    (faithful : before.books.roster.Faithful) : after.books.roster.Faithful :=
  faithful.of_keys billed.index (Roster.keys_congr billed.commitments)

omit [Quantity R] in
theorem Billed.hosts {before after : Simulation G R} (billed : Billed before after)
    (hosts : before.Hosts) : after.Hosts := by
  intro subscription listed
  obtain ⟨other, member, same⟩ := Roster.exists_of_commitments billed.commitments listed
  have customer : other.customer = subscription.customer := congrArg Commitment.customer same
  rw [billed.customers, ← customer]
  exact hosts other member

theorem billed_billSlot (simulation : Simulation G R) (slot : Nat) (time : Instant)
    (tally : Tally R) : Billed simulation (billSlot simulation slot time tally).2 := by
  simp only [billSlot, Roster.mapAccum_eq]
  refine ⟨rfl, rfl, rfl, rfl, rfl, rfl, ?_, rfl⟩
  exact map_threadMap (fun _ _ => commitment_billMembers _ _ _ _ _) _ _

theorem exists_pages_billSlot {simulation : Simulation G R} (hosts : simulation.Hosts)
    (slot : Nat) (time : Instant) (tally : Tally R) :
    ∃ pages, List.Forall₂ BillsOrSkips simulation.books.roster.toList pages ∧
      (billSlot simulation slot time tally).1.journal =
        ({ tally.journal with timeslot := slot } : Journal R).postAll pages.flatten := by
  simp only [billSlot, Roster.mapAccum_eq]
  exact exists_postings_threadMap hosts (simulation.isControlled time) time
    { tally with journal := { tally.journal with timeslot := slot } }

theorem counts_billSlot {simulation : Simulation G R} (hosts : simulation.Hosts)
    {kinds : TransactionKind → Bool} {tariffs : Tariff R → Bool}
    (charges : Bills.Charges kinds tariffs) (slot : Nat) (time : Instant) (tally : Tally R)
    (other : Nat) (keys : SubscriptionKey → Bool) :
    (billSlot simulation slot time tally).1.journal.counts other kinds keys =
      tally.journal.counts other kinds keys ++
        if slot = other then simulation.books.roster.due tariffs keys else [] := by
  obtain ⟨pages, billed, posted⟩ := exists_pages_billSlot hosts slot time tally
  rw [posted, Journal.counts_postAll, counts_pages charges billed]
  rfl

/-! ## A cycle's timeslots -/

def ticked (simulation : Simulation G R) : Simulation G R :=
  let table := simulation.timetable
  { simulation with timetable := { table with next := table.next + 1 } }

omit [Quantity R] in
theorem billed_ticked (simulation : Simulation G R) : Billed simulation simulation.ticked :=
  ⟨rfl, rfl, rfl, rfl, rfl, rfl, rfl, rfl⟩

theorem billSlots_succ (count : Nat) (simulation : Simulation G R) (tally : Tally R) :
    billSlots (count + 1) simulation tally =
      if simulation.timetable.next < simulation.timetable.slots then
        let table := simulation.timetable
        let billed := billSlot simulation.ticked table.next (table.slotStart table.next) tally
        billSlots count billed.2 billed.1
      else (tally, simulation) := by
  simp only [billSlots, Timetable.tick]
  split
  · rename_i stopped
    split at stopped
    · cases stopped
    · rw [if_neg (by assumption)]
  · rename_i given
    split at given
    · cases given
      rw [if_pos (by assumption)]
      rfl
    · cases given

theorem slots_induction {I : Simulation G R → Tally R → Prop}
    (slot : ∀ simulation tally, I simulation tally →
      let table := simulation.timetable
      let billed := billSlot simulation.ticked table.next (table.slotStart table.next) tally
      I billed.2 billed.1)
    (count : Nat) {simulation : Simulation G R} {tally : Tally R} (holds : I simulation tally) :
    I (billSlots count simulation tally).2 (billSlots count simulation tally).1 := by
  induction count generalizing simulation tally with
  | zero => exact holds
  | succ count ih =>
      rw [billSlots_succ]
      split
      · exact ih (slot simulation tally holds)
      · exact holds

theorem billed_billSlots (count : Nat) (simulation : Simulation G R) (tally : Tally R) :
    Billed simulation (billSlots count simulation tally).2 :=
  slots_induction (I := fun current _ => Billed simulation current)
    (fun current _ billed =>
      (billed.trans (billed_ticked current)).trans (billed_billSlot current.ticked _ _ _))
    count (.refl simulation)

theorem timetable_billSlots (count : Nat) (simulation : Simulation G R) (tally : Tally R)
    (running : simulation.timetable.next ≤ simulation.timetable.slots) :
    (billSlots count simulation tally).2.timetable =
      { simulation.timetable with
        next := min (simulation.timetable.next + count) simulation.timetable.slots } := by
  induction count generalizing simulation tally with
  | zero =>
      rw [Nat.add_zero, Nat.min_eq_left running]
      rfl
  | succ count ih =>
      rw [billSlots_succ]
      split
      · rename_i left
        rw [ih _ _ (show simulation.timetable.next + 1 ≤ simulation.timetable.slots from left)]
        simp only [billSlot, ticked, Timetable.mk.injEq, true_and]
        omega
      · have finished : min (simulation.timetable.next + (count + 1)) simulation.timetable.slots =
            simulation.timetable.next := by omega
        rw [finished]

theorem counts_billSlots {kinds : TransactionKind → Bool} {tariffs : Tariff R → Bool}
    (charges : Bills.Charges kinds tariffs) (count : Nat) {simulation : Simulation G R}
    (hosts : simulation.Hosts) (tally : Tally R) (slot : Nat) (keys : SubscriptionKey → Bool) :
    (billSlots count simulation tally).1.journal.counts slot kinds keys =
      tally.journal.counts slot kinds keys ++
        if simulation.timetable.next ≤ slot ∧
            slot < min (simulation.timetable.next + count) simulation.timetable.slots then
          simulation.books.roster.due tariffs keys
        else [] := by
  induction count generalizing simulation tally with
  | zero =>
      have never : ¬ (simulation.timetable.next ≤ slot ∧
          slot < min (simulation.timetable.next + 0) simulation.timetable.slots) := by omega
      rw [if_neg never, List.append_nil]
      rfl
  | succ count ih =>
      let table := simulation.timetable
      rw [billSlots_succ]
      split
      · rename_i left
        have begun := billed_ticked simulation
        have billed := begun.trans
          (billed_billSlot simulation.ticked table.next (table.slotStart table.next) tally)
        have first := counts_billSlot (begun.hosts hosts) charges table.next
          (table.slotStart table.next) tally slot keys
        rw [Roster.due_congr begun.commitments] at first
        rw [ih (billed.hosts hosts), first, Roster.due_congr billed.commitments, List.append_assoc]
        congr 1
        have next : (billSlot simulation.ticked table.next (table.slotStart table.next)
            tally).2.timetable = { table with next := table.next + 1 } := rfl
        rw [next]
        change table.next < table.slots at left
        -- The slot is billed now, or among the later ones, or never.
        by_cases here : table.next = slot
        · have later : ¬ (table.next + 1 ≤ slot ∧ slot < min (table.next + 1 + count) table.slots) :=
            by omega
          have now : table.next ≤ slot ∧ slot < min (table.next + (count + 1)) table.slots := by omega
          rw [if_pos here, if_neg later, if_pos now, List.append_nil]
        · have shift : (table.next + 1 ≤ slot ∧ slot < min (table.next + 1 + count) table.slots) ↔
              (table.next ≤ slot ∧ slot < min (table.next + (count + 1)) table.slots) := by omega
          rw [if_neg here, List.nil_append, if_congr shift rfl rfl]
      · rename_i finished
        have never : ¬ (table.next ≤ slot ∧ slot < min (table.next + (count + 1)) table.slots) := by
          rintro ⟨low, high⟩
          exact finished (lt_of_le_of_lt low (lt_of_lt_of_le high (min_le_right _ _)))
        rw [if_neg never, List.append_nil]

theorem billed_billCycle (s : Simulation G R) : Billed s s.billCycle.2 := by
  have billed := billed_billSlots s.scenario.run.timeslotsPerCycle s
    { journal := s.books.journal, curtailed := 0, balancing := 0 }
  exact ⟨billed.scenario, billed.customers, billed.published, billed.cycle, billed.catalogue,
    billed.market, billed.commitments, billed.index⟩

theorem timetable_billCycle (s : Simulation G R)
    (running : s.timetable.next ≤ s.timetable.slots) :
    s.billCycle.2.timetable =
      { s.timetable with
        next := min (s.timetable.next + s.scenario.run.timeslotsPerCycle) s.timetable.slots } :=
  timetable_billSlots s.scenario.run.timeslotsPerCycle s _ running

theorem counts_billCycle {s : Simulation G R} (hosts : s.Hosts)
    {kinds : TransactionKind → Bool} {tariffs : Tariff R → Bool}
    (charges : Bills.Charges kinds tariffs) (slot : Nat) (keys : SubscriptionKey → Bool) :
    s.billCycle.2.books.journal.counts slot kinds keys =
      s.books.journal.counts slot kinds keys ++
        if s.timetable.next ≤ slot ∧
            slot < min (s.timetable.next + s.scenario.run.timeslotsPerCycle) s.timetable.slots then
          s.books.roster.due tariffs keys
        else [] :=
  counts_billSlots charges s.scenario.run.timeslotsPerCycle hosts
    { journal := s.books.journal, curtailed := 0, balancing := 0 } slot keys

end Simulation

end RetailMarket
