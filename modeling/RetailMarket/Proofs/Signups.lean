import RetailMarket.Proofs.Holding
import RetailMarket.Proofs.Stages

/-!
# Signups

A settlement posts one signup for each directive onto a tariff, and nothing else posts any.  The
state of a tariff that has not been revoked is decided by them: it is active once there has been a
signup for it, and offered before.  In a cycle that can be carried out nobody is signed up to a
revoked tariff.
-/

namespace RetailMarket

/-! ## Signups in the journal -/

namespace Journal

variable {R : Type}

def signups (journal : Journal R) : List (SubscriptionKey × Nat) :=
  (journal.ofKind .signup).map fun t => (t.key, t.count)

def hasSignup (journal : Journal R) (id : TariffId) : Bool :=
  journal.signups.any fun entry => entry.1.tariff == id

theorem signups_postAll (journal : Journal R) (postings : List (Posting R)) :
    (journal.postAll postings).signups =
      journal.signups ++
        (postings.filter fun p => p.kind == .signup).map fun p => (p.key, p.count) := by
  rw [signups, ofKind_postAll, List.map_append, ← signups, List.map_map]
  rfl

theorem signups_postAll_of_apart (journal : Journal R) {postings : List (Posting R)}
    (apart : ∀ posting ∈ postings, posting.kind ≠ .signup) :
    (journal.postAll postings).signups = journal.signups := by
  have none : postings.filter (fun p => p.kind == .signup) = [] :=
    List.filter_eq_nil_iff.2 fun posting listed found => apart posting listed (eq_of_beq found)
  rw [signups_postAll, none, List.map_nil, List.append_nil]

theorem hasSignup_eq_true {journal : Journal R} {id : TariffId} :
    journal.hasSignup id = true ↔
      ∃ transaction ∈ journal.ofKind .signup, transaction.tariff = id := by
  simp only [hasSignup, signups, List.any_map, List.any_eq_true, Function.comp_apply, beq_iff_eq]
  rfl

end Journal

namespace Books

variable {R : Type} [Quantity R]

theorem signups_settleWithdrawal (books : Books R) (directive : Directive R) (now : Instant) :
    (settleWithdrawal books directive now).1.journal.signups = books.journal.signups := by
  cases found : books.roster.find? directive.key with
  | none => rw [settleWithdrawal_of_none found]
  | some subscription =>
      rw [settleWithdrawal_of_find? found, operate_of_find? found]
      refine Journal.signups_postAll_of_apart _ fun posting listed => ?_
      simp only [Subscription.release] at listed
      rcases List.mem_cons.1 listed with rfl | refund
      · exact fun same => by cases same
      · split at refund
        · rw [List.mem_singleton.1 refund]
          exact fun same => by cases same
        · cases refund

theorem signups_settleSignup {books : Books R} (faithful : books.roster.Faithful)
    (directive : Directive R) (now : Instant) :
    (settleSignup books directive now).journal.signups =
      books.journal.signups ++ [(directive.key, directive.count.natAbs)] := by
  have found : (books.roster.ensure directive.customer directive.tariff).find? directive.key =
      some (books.subscriptionFor directive) := Roster.find?_ensure faithful _ _
  have own := ((Roster.find?_eq_some_iff (faithful.ensure _ _)).1 found).2
  rw [settleSignup_eq faithful, ← own]
  exact Journal.signups_postAll _ _

theorem signups_settleWithdrawals (now : Instant) (books : Books R)
    (directives : List (Directive R)) :
    (settleWithdrawals now books directives).1.journal.signups = books.journal.signups := by
  induction directives generalizing books with
  | nil => rfl
  | cons directive rest ih =>
      exact (ih _).trans (signups_settleWithdrawal books directive now)

theorem signups_settleSignups {books : Books R} (faithful : books.roster.Faithful)
    (now : Instant) (directives : List (Directive R)) :
    (settleSignups now books directives).journal.signups =
      books.journal.signups ++ directives.map fun d => (d.key, d.count.natAbs) := by
  induction directives generalizing books with
  | nil => exact (List.append_nil _).symm
  | cons directive rest ih =>
      rw [settleSignups, List.foldl_cons, ← settleSignups,
        ih (faithful_settleSignup faithful directive now), signups_settleSignup faithful,
        List.append_assoc]
      rfl

theorem signups_settle {books : Books R} (faithful : books.roster.Faithful) (now : Instant) :
    (books.settle now).1.journal.signups =
      books.journal.signups ++ books.market.signups.map fun d => (d.key, d.count.natAbs) := by
  have start : ({ books with market := books.market.cleared } : Books R).roster.Faithful := faithful
  have released := signups_settleWithdrawals now
    { books with market := books.market.cleared } books.market.withdrawals
  refine (signups_settleSignups (faithful_settleWithdrawals start _ now) now _).trans ?_
  rw [released]

end Books

/-! ## The state of tariffs -/

namespace Catalogue

variable {R : Type}

def IsLive (catalogue : Catalogue R) (id : TariffId) : Prop :=
  ∃ listing, catalogue.find? id = some listing ∧ listing.isRevoked = false

theorem isLive_congr {first second : Catalogue R} (same : first.unmarked = second.unmarked)
    (id : TariffId) : first.IsLive id ↔ second.IsLive id := by
  have viewed (catalogue : Catalogue R) : catalogue.IsLive id ↔ catalogue.unmarked.IsLive id := by
    simp [IsLive, find?_unmarked]
  rw [viewed first, viewed second, same]

end Catalogue

namespace Books

variable {R : Type}

/-- Every signup is for a known tariff, and of those that have not been revoked just the tariffs
with a signup are active. -/
structure Marked (books : Books R) : Prop where
  known : ∀ entry ∈ books.journal.signups,
    ∃ listing, books.catalogue.find? entry.1.tariff = some listing
  state : ∀ id listing, books.catalogue.find? id = some listing → listing.isRevoked = false →
    listing.state = if books.journal.hasSignup id then .active else .offered

theorem Marked.of_eq {before after : Books R} (marked : before.Marked)
    (catalogue : after.catalogue = before.catalogue)
    (signups : after.journal.signups = before.journal.signups) : after.Marked := by
  constructor
  · rw [signups, catalogue]
    exact marked.known
  · simp only [Journal.hasSignup, signups, catalogue]
    exact marked.state

theorem Marked.publish {books : Books R} (marked : books.Marked) {tariff : Tariff R}
    {entered : Catalogue R} (published : books.catalogue.enter tariff = (true, entered))
    (opening : tariff.opening = .offered) (market : Market R) :
    ({ books with catalogue := entered, market } : Books R).Marked := by
  constructor
  · intro entry listed
    obtain ⟨listing, found⟩ := marked.known entry listed
    exact ⟨_, Catalogue.find?_enter_of_find? published found⟩
  · intro id listing found alive
    rw [Catalogue.find?_enter published] at found
    cases old : books.catalogue.find? id with
    | some other =>
        rw [old, Option.map_some, Option.some_or, Option.some.injEq] at found
        rw [← found, Catalogue.isRevoked_succeeded] at alive
        rw [← found, Catalogue.state_succeeded]
        exact marked.state id other old alive
    | none =>
        rw [old, Option.map_none, Option.none_or] at found
        split at found
        · cases found
          have unsigned : books.journal.hasSignup id = false := by
            refine Bool.eq_false_iff.2 fun signed => ?_
            obtain ⟨entry, listed, same⟩ := List.any_eq_true.1 signed
            obtain ⟨listing, found⟩ := marked.known entry listed
            rw [eq_of_beq same, old] at found
            cases found
          rw [if_neg (by rw [unsigned]; exact Bool.false_ne_true)]
          exact opening
        · cases found

theorem Marked.revoke {books : Books R} (marked : books.Marked) (id : TariffId) :
    ({ books with catalogue := (books.market.revoke books.catalogue id).2 } : Books R).Marked := by
  simp only [Market.revoke]
  split
  · exact marked
  · rcases books.catalogue.revoke_cases id with same | changed
    · rw [same]
      exact marked
    · rw [changed]
      constructor
      · intro entry listed
        obtain ⟨listing, found⟩ := marked.known entry listed
        exact ⟨_, by rw [Catalogue.find?_update_revoke, found]; rfl⟩
      · intro other listing found alive
        rw [Catalogue.find?_update_revoke, Option.map_eq_some_iff] at found
        obtain ⟨before, found, rfl⟩ := found
        split at alive
        · cases alive
        · rename_i different
          rw [if_neg different]
          exact marked.state other before found alive

variable [Quantity R]

theorem Marked.settleSignup {books : Books R} (marked : books.Marked)
    (faithful : books.roster.Faithful) {directive : Directive R}
    (offered : books.catalogue.Offers directive.tariff) (now : Instant) :
    (settleSignup books directive now).Marked := by
  obtain ⟨shared, target, found, live⟩ := offered
  have signups := signups_settleSignup faithful directive now
  have catalogue : (books.settleSignup directive now).catalogue =
      books.catalogue.update directive.tariff.id Listing.markSubscribed := by
    rw [settleSignup_eq faithful]
    simp only [Catalogue.change, shared]
  have look (id : TariffId) := books.catalogue.find?_update directive.tariff.id id
    fun listing => show listing.markSubscribed.id = listing.id by
      unfold Listing.markSubscribed
      split <;> rfl
  have signed (id : TariffId) : (books.settleSignup directive now).journal.hasSignup id =
      (books.journal.hasSignup id || directive.tariff.id == id) := by
    rw [Journal.hasSignup, signups, List.any_append, ← Journal.hasSignup]
    simp [Directive.key]
  constructor
  · intro entry listed
    rw [signups] at listed
    rw [catalogue, look]
    rcases List.mem_append.1 listed with old | new
    · obtain ⟨listing, known⟩ := marked.known entry old
      exact ⟨_, by rw [known]; rfl⟩
    · rw [List.mem_singleton.1 new]
      exact ⟨_, by rw [show directive.key.tariff = directive.tariff.id from rfl, found]; rfl⟩
  · intro id listing after alive
    rw [catalogue, look, Option.map_eq_some_iff] at after
    obtain ⟨before, known, rfl⟩ := after
    rw [signed, ← (Catalogue.mem_of_find? known).2]
    by_cases own : before.id = directive.tariff.id
    · have alive' : before.isRevoked = false := by
        rw [← (Catalogue.mem_of_find? known).2, own, found] at known
        cases known
        exact live
      have state := marked.state id before known alive'
      rw [if_pos own, own, beq_self_eq_true, Bool.or_true, if_pos rfl, Listing.markSubscribed]
      split at state
      · rw [if_neg (by rw [state]; decide)]
        exact state
      · rw [if_pos state]
    · rw [if_neg own] at alive ⊢
      have state := marked.state id before known alive
      rw [← (Catalogue.mem_of_find? known).2] at state
      have other : (directive.tariff.id == before.id) = false :=
        beq_eq_false_iff_ne.2 (Ne.symm own)
      rw [other, Bool.or_false]
      exact state

/-! ### Settlements -/

/-- Signups have been added for live tariffs only, and the tariffs marked by them. -/
structure Marking (before after : Books R) : Prop where
  unmarked : after.catalogue.unmarked = before.catalogue.unmarked
  signups : ∃ added, after.journal.signups = before.journal.signups ++ added ∧
    ∀ entry ∈ added, before.catalogue.IsLive entry.1.tariff
  marked : before.Marked → after.Marked

omit [Quantity R] in
theorem marking_of_eq {before after : Books R} (catalogue : after.catalogue = before.catalogue)
    (signups : after.journal.signups = before.journal.signups) : Marking before after :=
  ⟨congrArg Catalogue.unmarked catalogue, ⟨[], by rw [signups, List.append_nil], by simp⟩,
    fun marked => marked.of_eq catalogue signups⟩

omit [Quantity R] in
theorem Marking.trans {first second third : Books R} (start : Marking first second)
    (rest : Marking second third) : Marking first third := by
  obtain ⟨added, signups, live⟩ := start.signups
  obtain ⟨more, signupsMore, liveMore⟩ := rest.signups
  refine ⟨rest.unmarked.trans start.unmarked, ⟨added ++ more, ?_, ?_⟩,
    fun marked => rest.marked (start.marked marked)⟩
  · rw [signupsMore, signups, List.append_assoc]
  · intro entry listed
    rcases List.mem_append.1 listed with early | late
    · exact live entry early
    · exact (Catalogue.isLive_congr start.unmarked _).1 (liveMore entry late)

theorem marking_settle {books : Books R} (faithful : books.roster.Faithful)
    (offered : ∀ directive ∈ books.market.signups, books.catalogue.Offers directive.tariff)
    (now : Instant) : Marking books (books.settle now).1 := by
  refine ⟨unmarked_settle books now, ⟨_, signups_settle faithful now, ?_⟩, fun marked => ?_⟩
  · intro entry listed
    obtain ⟨directive, queued, rfl⟩ := List.mem_map.1 listed
    exact (offered directive queued).2
  · have general : (books.settle now).1.roster.Faithful ∧
        (books.settle now).1.catalogue.unmarked = books.catalogue.unmarked ∧
        (books.settle now).1.Marked := by
      apply settle_induction (P := fun current => current.roster.Faithful ∧
        current.catalogue.unmarked = books.catalogue.unmarked ∧ current.Marked)
      · exact ⟨faithful, rfl, marked.of_eq rfl rfl⟩
      · rintro current directive - ⟨holds, same, marked⟩
        have frame := (settleWithdrawal_frame current directive now).1
        exact ⟨faithful_settleWithdrawal holds directive now, by rw [frame]; exact same,
          marked.of_eq frame (signups_settleWithdrawal current directive now)⟩
      · rintro current directive queued ⟨holds, same, marked⟩
        have offeredNow := (Catalogue.offers_congr same _).2 (offered directive queued)
        refine ⟨faithful_settleSignup holds directive now, ?_,
          marked.settleSignup holds offeredNow now⟩
        rw [settleSignup_eq holds]
        exact (Catalogue.unmarked_change_markSubscribed _ _).trans same
    exact general.2.2

theorem Queued.marking {people : List Customer} {orders : List (Directive R)}
    {before queued : Books R} (queues : Queued orders before queued)
    (faithful : before.roster.Faithful) (executable : queued.Executable people) (now : Instant) :
    Marking before (queued.settle now).1 :=
  (marking_of_eq queues.catalogue (congrArg Journal.signups queues.journal)).trans
    (marking_settle (queues.faithful faithful)
      (fun directive listed => (executable.offered directive listed).1) now)

end Books

/-! ## Billing -/

theorem Bills.isSettlement_eq_false {R : Type} [Quantity R] {subscription : Subscription R}
    {postings : List (Posting R)} (bills : Bills subscription postings) {posting : Posting R}
    (listed : posting ∈ postings) : posting.kind.isSettlement = false := by
  obtain ⟨usage, control, metering, regulation, kinds⟩ := bills.kinds
  have kind : posting.kind ∈ postings.map (·.kind) := List.mem_map_of_mem listed
  rw [kinds] at kind
  rcases List.mem_cons.1 kind with same | rest
  · rw [same]
    cases usage <;> first | rfl | cases metering
  · rcases List.mem_append.1 rest with periodic | controlled
    · split at periodic
      · cases periodic
      · rw [List.mem_singleton.1 periodic]
        rfl
    · rw [regulation _ controlled]
      rfl

namespace Simulation

variable {G R : Type} [Quantity R]

theorem isSettlement_pages {subscriptions : List (Subscription R)}
    {pages : List (List (Posting R))} (billed : List.Forall₂ BillsOrSkips subscriptions pages) :
    ∀ posting ∈ pages.flatten, posting.kind.isSettlement = false := by
  induction billed with
  | nil => simp
  | cons bills _ ih =>
      intro posting listed
      rw [List.flatten_cons] at listed
      rcases List.mem_append.1 listed with own | later
      · unfold BillsOrSkips at bills
        split at bills
        · rw [bills] at own
          cases own
        · exact bills.isSettlement_eq_false own
      · exact ih posting later

theorem billSlots_induction {P : Journal R → Prop}
    (stamp : ∀ journal slot, P journal → P { journal with timeslot := slot })
    (post : ∀ journal postings,
      (∀ posting ∈ postings, posting.kind.isSettlement = false) → P journal →
        P (journal.postAll postings))
    (count : Nat) {s : Simulation G R} (hosts : s.Hosts) (tally : Tally R)
    (holds : P tally.journal) : P (billSlots count s tally).1.journal := by
  refine (slots_induction (I := fun current tally => current.Hosts ∧ P tally.journal)
    (fun current tally holds => ?_) count ⟨hosts, holds⟩).2
  have hosted := (billed_ticked current).hosts holds.1
  obtain ⟨pages, bills, posted⟩ := exists_pages_billSlot hosted current.timetable.next
    (current.timetable.slotStart current.timetable.next) tally
  refine ⟨(billed_billSlot current.ticked _ _ tally).hosts hosted, ?_⟩
  rw [posted]
  exact post _ _ (isSettlement_pages bills) (stamp _ _ holds.2)

theorem signups_billCycle {s : Simulation G R} (hosts : s.Hosts) :
    s.billCycle.2.books.journal.signups = s.books.journal.signups := by
  refine billSlots_induction (P := fun journal => journal.signups = s.books.journal.signups)
    (fun _ _ same => same) (fun journal postings apart same => ?_) _ hosts
    { journal := s.books.journal, curtailed := 0, balancing := 0 } rfl
  refine (Journal.signups_postAll_of_apart _ fun posting listed signup => ?_).trans same
  have settles := apart posting listed
  rw [signup] at settles
  cases settles

/-! ## Cycles -/

theorem marked_publishAll {s : Simulation G R} (listed : s.Listed) (marked : s.books.Marked)
    (plans : List (TariffPlan R)) : (s.publishAll plans).2.books.Marked := by
  induction plans generalizing s with
  | nil => exact marked
  | cons plan rest ih =>
      simp only [Simulation.publishAll]
      split
      · exact marked
      · rename_i next _ published
        refine ih (listed.publish published).1 ?_
        obtain ⟨id, supersedes, entered, -, -, found, -, rfl⟩ := publish_ok listed.catalogue published
        have reserved : ({ s.books with catalogue := s.books.catalogue.nextId.2 } :
            Books R).Marked := ⟨marked.known, marked.state⟩
        exact reserved.publish found rfl _

omit [Quantity R] in
theorem marked_revokeAll {s : Simulation G R} (marked : s.books.Marked)
    (plans : List (TariffPlan R)) : (s.revokeAll plans).1.books.Marked := by
  induction plans generalizing s with
  | nil => exact marked
  | cons plan rest ih =>
      refine ih (s := (s.revoke plan).1) ?_
      simp only [revoke]
      split
      · exact marked
      · exact marked.revoke _

variable [SampleSource G R] {scenario : Scenario R}

omit [SampleSource G R] in
theorem Running.marking_placed {s : Simulation G R} (running : Running scenario s)
    (valid : scenario.problems = []) (census : Census scenario.people) {count : Nat}
    (succeeded : s.publishScheduled.1 = .ok count) :
    Books.Marking s.scheduled.books s.placed.books := by
  obtain ⟨orderly, rescheduled, ready⟩ := running.ready_scheduled valid succeeded
  have customers : s.scheduled.customers.toList.map Evaluator.customer = scenario.people := by
    rw [rescheduled.customers]
    exact running.customers
  rw [placed_eq ready.idle]
  unfold directed
  split
  · rename_i first
    have vacant : s.scheduled.books.roster.toList = [] := by
      rw [rescheduled.roster]
      exact running.vacant (rescheduled.cycle ▸ first)
    obtain ⟨⟨_, queued⟩, executable, -⟩ :=
      ready.settle_placements census vacant customers s.cycleStart
    exact queued.marking orderly.sound.roster executable s.cycleStart
  · rw [settle_idle ready.idle]
    exact Books.marking_of_eq rfl rfl

theorem Passage.marking_billed {s : Simulation G R} (passage : Passage scenario s)
    (census : Census scenario.people) : Books.Marking s.placed.books s.billed.books := by
  have evaluating : Books.Marking s.placed.books s.settled.books := by
    obtain ⟨⟨_, queued⟩, executable, -⟩ :=
      passage.placed.settle_evaluations census passage.evaluators s.cycleStart
    have marking := queued.marking passage.placed.sound.roster executable s.cycleStart
    rw [Simulation.settled, Simulation.evaluated]
    exact marking
  have migrating : Books.Marking s.settled.books s.rehomed.books := by
    obtain ⟨⟨_, queued⟩, executable, -⟩ :=
      passage.settled.settle_migrations census s.cycleStart
    have marking := queued.marking passage.settled.sound.roster executable s.cycleStart
    rw [rehomed_eq, Simulation.migrated]
    exact marking
  have billing : Books.Marking s.rehomed.books s.billed.books := by
    rw [Simulation.billed]
    exact Books.marking_of_eq (billed_billCycle s.rehomed).catalogue
      (signups_billCycle (hosts_of_placed passage.customers passage.rehomed.sound.placed))
  exact (evaluating.trans migrating).trans billing

theorem Running.marking {s : Simulation G R} (running : Running scenario s)
    (valid : scenario.problems = []) (census : Census scenario.people) {count : Nat}
    (succeeded : s.publishScheduled.1 = .ok count) :
    Books.Marking s.scheduled.books s.billed.books :=
  (running.marking_placed valid census succeeded).trans
    ((running.passage valid census succeeded).marking_billed census)

theorem Running.marked_step {s : Simulation G R} (running : Running scenario s)
    (valid : scenario.problems = []) (census : Census scenario.people)
    (marked : s.books.Marked) : s.step.2.books.Marked := by
  have stamped : s.stamped.books.Marked := marked.of_eq rfl rfl
  have published : s.publishScheduled.2.books.Marked :=
    marked_publishAll running.orderly.stamped.listed stamped _
  cases outcome : s.publishScheduled.1 with
  | error error =>
      rw [step_of_error outcome]
      exact published
  | ok count =>
      have marking := running.marking valid census outcome
      rw [step_of_ok outcome]
      refine marking.marked ?_
      rw [Simulation.scheduled]
      exact marked_revokeAll published _

theorem marked_afterCalls (valid : scenario.problems = []) (census : Census scenario.people)
    (calls : Nat) : ((fresh (G := G) scenario).afterCalls calls).books.Marked := by
  induction calls with
  | zero =>
      constructor
      · intro entry listed
        cases listed
      · intro id listing found
        cases found
  | succ calls ih => exact (running_afterCalls valid census calls).marked_step valid census ih

end Simulation

end RetailMarket
