import RetailMarket.Proofs.Cycle

/-!
# The invariant of a run

Every state that a run of a valid scenario reaches is `Running`: its books are sound and idle, once
a cycle has been run they are complete, and the timetable and the journal are where the number of
cycles says.  A cycle that fails changes only what is published.
-/

namespace RetailMarket

namespace Simulation

variable {G R : Type} [Quantity R] {scenario : Scenario R}

/-! ## What directives and settlements leave alone -/

structure Trading (before after : Simulation G R) : Prop where
  scenario : after.scenario = before.scenario
  timetable : after.timetable = before.timetable
  published : after.published = before.published
  cycle : after.cycle = before.cycle
  unmarked : after.books.catalogue.unmarked = before.books.catalogue.unmarked
  counts : ∀ {kinds : TransactionKind → Bool} {tariffs : Tariff R → Bool},
    Bills.Charges kinds tariffs → ∀ slot keys,
      after.books.journal.counts slot kinds keys = before.books.journal.counts slot kinds keys

theorem Trading.refl (s : Simulation G R) : Trading s s :=
  ⟨rfl, rfl, rfl, rfl, rfl, fun _ _ _ => rfl⟩

theorem Trading.trans {first second third : Simulation G R} (start : Trading first second)
    (rest : Trading second third) : Trading first third :=
  ⟨rest.scenario.trans start.scenario, rest.timetable.trans start.timetable,
    rest.published.trans start.published, rest.cycle.trans start.cycle,
    rest.unmarked.trans start.unmarked,
    fun charges slot keys => (rest.counts charges slot keys).trans (start.counts charges slot keys)⟩

theorem trading_of_queued {s : Simulation G R} {books : Books R} {orders : List (Directive R)}
    (queued : Books.Queued orders s.books books)
    (customers : Array (Evaluator (SampledCustomer G R) R)) :
    Trading s { s with books, customers } := by
  refine ⟨rfl, rfl, rfl, rfl, ?_, fun _ _ _ => ?_⟩
  · rw [queued.catalogue]
  · rw [queued.journal]

theorem trading_settle (s : Simulation G R) (now : Instant) : Trading s (s.settle now).1 :=
  ⟨rfl, rfl, rfl, rfl, Books.unmarked_settle s.books now,
    fun charges slot keys => Books.counts_settle s.books now charges slot keys⟩

/-! ## Settlements of an empty queue -/

theorem settle_idle {s : Simulation G R} (idle : s.books.market.pending = []) (now : Instant) :
    s.settle now = (s, 0) := by
  simp only [settle, Books.settle_idle idle]

theorem settlePlacements_eq {s : Simulation G R} (idle : s.scheduled.books.market.pending = []) :
    s.scheduled.settlePlacements s.cycleStart = s.directed.settle s.cycleStart := by
  unfold settlePlacements directed
  split
  · rfl
  · exact (settle_idle idle _).symm

theorem settleMigrations_eq {s : Simulation G R} (idle : s.books.market.pending = [])
    (now : Instant) :
    (s.migrateAll now).1.settleMigrations (s.migrateAll now).2 now =
      (s.migrateAll now).1.settle now := by
  unfold settleMigrations
  split
  · rfl
  · rename_i unmoved
    have none : (Books.migrateEach now s.books s.books.roster.toList).1.filter Migration.isMoved =
        [] := List.length_eq_zero_iff.1 (Nat.eq_zero_of_not_pos unmoved)
    have same : (s.migrateAll now).1 = s := by
      simp only [migrateAll, Books.migrateEach_of_no_moves none]
    rw [same, settle_idle idle]

theorem placed_eq {s : Simulation G R} (idle : s.scheduled.books.market.pending = []) :
    s.placed = (s.directed.settle s.cycleStart).1 := by
  rw [placed, settlePlacements_eq idle]

theorem idle_settled [SampleSource G R] (s : Simulation G R) :
    s.settled.books.market.pending = [] := by
  rw [settled]
  exact congrArg Market.pending (Books.market_settle s.evaluated.books s.cycleStart)

theorem rehomed_eq [SampleSource G R] (s : Simulation G R) :
    s.rehomed = (s.migrated.settle s.cycleStart).1 := by
  rw [rehomed, migrated, settleMigrations_eq s.idle_settled]

/-! ## One queue -/

/-- A queue that is carried out in full and leaves complete books when it is settled. -/
structure Settles (people : List Customer) (now : Instant) (before queued : Simulation G R) :
    Prop where
  carried : queued.books.CarriesOut now
  complete : (queued.settle now).1.books.Complete people
  trading : Trading before (queued.settle now).1
  customers : (queued.settle now).1.customers.toList.map Evaluator.customer = people

section Queues

variable {people : List Customer} {s : Simulation G R}

theorem settles_idle (complete : s.books.Complete people)
    (customers : s.customers.toList.map Evaluator.customer = people) (now : Instant) :
    Settles people now s s := by
  have executable : s.books.Executable people := by
    refine ⟨?_, ?_, ?_, ?_⟩ <;>
      simp [Market.withdrawals, Market.signups, complete.idle]
  have same : (s.settle now).1 = s := congrArg Prod.fst (settle_idle complete.idle now)
  refine ⟨executable.carriesOut complete.sound.roster now, ?_, ?_, ?_⟩ <;> rw [same]
  · exact complete
  · exact .refl s
  · exact customers

theorem settles_placeAll (ready : s.books.Ready people) (census : Census people)
    (vacant : s.books.roster.toList = [])
    (customers : s.customers.toList.map Evaluator.customer = people) (now : Instant) :
    Settles people now s s.placeAll := by
  obtain ⟨⟨_, queued⟩, executable, complete⟩ :=
    ready.settle_placements census vacant customers now
  exact ⟨executable.carriesOut (queued.faithful ready.sound.roster) now, complete,
    (trading_of_queued queued s.customers).trans (trading_settle _ now), customers⟩

theorem settles_migrateAll (complete : s.books.Complete people) (census : Census people)
    (customers : s.customers.toList.map Evaluator.customer = people) (now : Instant) :
    Settles people now s (s.migrateAll now).1 ∧
      ((s.migrateAll now).1.settle now).1.books.Vacated ∧
      ∀ outcome ∈ (Books.migrateEach now s.books s.books.roster.toList).1,
        outcome ≠ .noReplacement := by
  obtain ⟨⟨_, queued⟩, executable, completed, vacated, replaced⟩ :=
    complete.settle_migrations census now
  exact ⟨⟨executable.carriesOut (queued.faithful complete.sound.roster) now, completed,
    (trading_of_queued queued s.customers).trans (trading_settle _ now), customers⟩,
    vacated, replaced⟩

theorem settles_evaluateAll [SampleSource G R] (complete : s.books.Complete people)
    (census : Census people) (customers : s.customers.toList.map Evaluator.customer = people)
    (now : Instant) :
    Settles people now s (s.evaluateAll now).1 ∧
      ∀ e ∈ (s.evaluateAll now).1.customers.toList, e.allocationBalance = 0 := by
  obtain ⟨⟨_, queued⟩, executable, completed, customersLast, balanced⟩ :=
    complete.settle_evaluations census customers now
  exact ⟨⟨executable.carriesOut (queued.faithful complete.sound.roster) now, completed,
    (trading_of_queued queued _).trans (trading_settle _ now), customersLast⟩, balanced⟩

end Queues

/-! ## The invariant -/

/-- What holds of a run between two cycles. -/
structure Running (scenario : Scenario R) (s : Simulation G R) : Prop where
  scenario_eq : s.scenario = scenario
  customers : s.customers.toList.map Evaluator.customer = scenario.people
  orderly : s.Orderly scenario.people
  idle : s.books.market.pending = []
  vacant : s.cycle = 0 → s.books.roster.toList = []
  complete : 0 < s.cycle → s.books.Complete scenario.people
  slots : s.timetable.slots = scenario.run.cycles * scenario.run.timeslotsPerCycle
  next : s.timetable.next =
    min (s.cycle * scenario.run.timeslotsPerCycle) s.timetable.slots
  unbilled : ∀ {kinds : TransactionKind → Bool} {tariffs : Tariff R → Bool},
    Bills.Charges kinds tariffs → ∀ slot, s.cycle * scenario.run.timeslotsPerCycle ≤ slot →
      ∀ keys, s.books.journal.counts slot kinds keys = []

/-! ### Beginning -/

section Beginning

variable [SampleSource G R]

theorem configure_frame {M : Type} (scenario : Scenario R) (e : Evaluator M R) :
    ∃ settings weights forecaster cache,
      configure scenario e = { e with settings, weights, forecaster, cache } := by
  have chunk (e : Evaluator M R) (size : Nat) :
      ∃ settings, e.setChunkSize size = { e with settings } := by
    unfold Evaluator.setChunkSize
    split <;> exact ⟨_, rfl⟩
  have most (e : Evaluator M R) (count : Nat) :
      ∃ settings, e.setMaxChunkCount count = { e with settings } := by
    unfold Evaluator.setMaxChunkCount
    split <;> exact ⟨_, rfl⟩
  have rational (e : Evaluator M R) (x : R) :
      ∃ settings, e.setRationality x = { e with settings } := by
    unfold Evaluator.setRationality
    split <;> exact ⟨_, rfl⟩
  have preferred (e : Evaluator M R) (x : R) :
      ∃ settings, e.setPreferredDays x = { e with settings } := by
    unfold Evaluator.setPreferredDays
    split <;> exact ⟨_, rfl⟩
  have choice : ∃ settings cache, e.setChoice scenario.choice = { e with settings, cache } := by
    unfold Evaluator.setChoice
    obtain ⟨_, first⟩ := chunk e scenario.choice.chunkSize
    rw [first]
    obtain ⟨_, second⟩ := most _ scenario.choice.maxChunkCount
    rw [second]
    simp only [Evaluator.setDepth, Evaluator.setInertia, Evaluator.setSignupBonusFactor]
    obtain ⟨_, third⟩ := rational _ scenario.choice.rationality
    rw [third]
    simp only [Evaluator.setInconvenienceWeight, Evaluator.setSwitchFactor]
    obtain ⟨_, fourth⟩ := preferred _ scenario.choice.preferredDays
    rw [fourth]
    exact ⟨_, _, rfl⟩
  obtain ⟨_, _, chosen⟩ := choice
  rw [configure, chosen]
  exact ⟨_, _, _, _, rfl⟩

theorem customer_configure {M : Type} (scenario : Scenario R) (e : Evaluator M R) :
    (configure scenario e).customer = e.customer := by
  obtain ⟨_, _, _, _, configured⟩ := configure_frame scenario e
  rw [configured]

theorem customers_fresh (scenario : Scenario R) :
    (fresh (G := G) scenario).customers.toList.map Evaluator.customer = scenario.people := by
  simp only [fresh, List.map_map, Scenario.people]
  exact List.map_congr_left fun entry _ => customer_configure scenario _

theorem running_fresh (scenario : Scenario R) : Running scenario (fresh (G := G) scenario) := by
  refine ⟨rfl, customers_fresh scenario, ⟨⟨Catalogue.wellFormed_empty, ?_, Roster.faithful_empty,
    ?_, ?_, ?_⟩, rfl⟩, rfl, fun _ => rfl, fun later => absurd later (lt_irrefl 0), rfl, ?_,
    fun _ _ _ _ => rfl⟩
  · intro powerType tariff default
    cases default
  · intro subscription listed
    cases listed
  · intro subscription listed
    cases listed
  · intro subscription listed
    cases listed
  · simp [fresh]

end Beginning

/-! ### Publications -/

omit [Quantity R] in
theorem defaultFor_mono {first second : Market R}
    (served : ∀ powerType, (first.defaults powerType).isSome → (second.defaults powerType).isSome)
    {powerType : PowerType} (found : (first.defaultFor powerType).isSome) :
    (second.defaultFor powerType).isSome := by
  simp only [Market.defaultFor, Option.isSome_or, Bool.or_eq_true] at found ⊢
  exact found.imp (served _) (served _)

def stamped (s : Simulation G R) : Simulation G R :=
  { s with
    books := { s.books with journal := { s.books.journal with timeslot := s.firstSlot } } }

theorem publishScheduled_eq (s : Simulation G R) :
    s.publishScheduled = s.stamped.publishAll
      (s.scenario.tariffs.filter fun plan => plan.publishCycle == s.cycle) := rfl

omit [Quantity R] in
theorem Orderly.stamped {s : Simulation G R} {populations : List Customer}
    (orderly : s.Orderly populations) : s.stamped.Orderly populations :=
  ⟨orderly.sound.journal _, orderly.published⟩

theorem Running.published {s : Simulation G R} (running : Running scenario s) :
    s.publishScheduled.2.Orderly scenario.people ∧
      Rescheduled s.stamped s.publishScheduled.2 :=
  running.orderly.stamped.publishAll _

theorem Running.ready_scheduled {s : Simulation G R} (running : Running scenario s)
    (valid : scenario.problems = []) {count : Nat}
    (succeeded : s.publishScheduled.1 = .ok count) :
    s.scheduled.Orderly scenario.people ∧ Rescheduled s.stamped s.scheduled ∧
      s.scheduled.books.Ready scenario.people := by
  obtain ⟨orderly, kept⟩ := running.published
  obtain ⟨orderlyLast, keptLast⟩ := orderly.revokeAll
    (s.publishScheduled.2.scenario.tariffs.filter
      fun plan => plan.revokeCycle == some s.publishScheduled.2.cycle)
  have last : (s.publishScheduled.2.revokeAll (s.publishScheduled.2.scenario.tariffs.filter
      fun plan => plan.revokeCycle == some s.publishScheduled.2.cycle)).1 = s.scheduled := by
    rw [scheduled]
    rfl
  rw [last] at orderlyLast keptLast
  have rescheduled : Rescheduled s.stamped s.scheduled := kept.trans keptLast
  refine ⟨orderlyLast, rescheduled, orderlyLast.sound, rescheduled.pending.trans running.idle, ?_⟩
  intro customer listed
  -- The first cycle publishes the defaults; later ones only have to keep them.
  rcases Nat.eq_zero_or_pos s.cycle with first | later
  · obtain ⟨number, plan, found, rfl⟩ := Scenario.mem_people.1 listed
    obtain ⟨tariff, member, default, initial, same⟩ :=
      Scenario.exists_default_of_valid valid (List.mem_of_getElem? found)
    have planned : tariff ∈ s.scenario.tariffs.filter
        fun plan => plan.publishCycle == s.cycle := by
      rw [running.scenario_eq, first]
      exact List.mem_filter.2 ⟨member, by simpa using initial⟩
    have served := keptLast.served _
      (running.orderly.stamped.served_publishAll succeeded planned default)
    simp only [Market.defaultFor, Option.isSome_or, Bool.or_eq_true]
    rcases same with own | generic
    · rw [own] at served
      exact .inl served
    · rw [generic] at served
      exact .inr served
  · exact defaultFor_mono rescheduled.served ((running.complete later).served customer listed)

/-! ### Billing -/

omit [Quantity R] in
theorem hosts_of_placed {s : Simulation G R}
    (customers : s.customers.toList.map Evaluator.customer = scenario.people)
    (placed : ∀ subscription ∈ s.books.roster.toList, subscription.customer ∈ scenario.people) :
    s.Hosts := by
  intro subscription listed
  obtain ⟨number, plan, found, same⟩ := Scenario.mem_people.1 (placed subscription listed)
  have entry :
      (s.customers.toList.map Evaluator.customer)[number]? = some (plan.customer number) := by
    rw [customers, Scenario.people, List.getElem?_map, List.getElem?_zipIdx, found]
    simp
  rw [List.getElem?_map, Option.map_eq_some_iff] at entry
  obtain ⟨e, position, -⟩ := entry
  refine ⟨e, ?_⟩
  rw [same]
  simpa [CustomerPlan.customer] using position

theorem Billed.complete {before after : Simulation G R} {people : List Customer}
    (billed : Billed before after) (complete : before.books.Complete people) :
    after.books.Complete people := by
  have queued : Books.Queued [] ({ before.books with journal := after.books.journal } : Books R)
      after.books :=
    ⟨billed.catalogue, rfl, by rw [List.append_nil]; exact billed.market, billed.commitments,
      billed.index⟩
  refine ⟨⟨queued.sound (complete.sound.journal _), ?_, ?_⟩, ?_⟩
  · rw [billed.market]
    exact complete.idle
  · rw [billed.market]
    exact complete.served
  · intro customer listed
    rw [Roster.committedFor_eq, Roster.members_congr billed.commitments,
      ← Roster.committedFor_eq]
    exact complete.conserved customer listed

/-! ### The stages of the next cycle -/

variable [SampleSource G R]

/-- The stages of a cycle: every queue is carried out in full, and the books are complete after
every settlement. -/
structure Passage (scenario : Scenario R) (s : Simulation G R) : Prop where
  ready : s.scheduled.books.Ready scenario.people
  placements : s.directed.books.CarriesOut s.cycleStart
  placed : s.placed.books.Complete scenario.people
  evaluators : s.placed.customers.toList.map Evaluator.customer = scenario.people
  balanced : ∀ e ∈ s.evaluated.customers.toList, e.allocationBalance = 0
  evaluations : s.evaluated.books.CarriesOut s.cycleStart
  settled : s.settled.books.Complete scenario.people
  replaced : ∀ outcome ∈ (Books.migrateEach s.cycleStart s.settled.books
    s.settled.books.roster.toList).1, outcome ≠ .noReplacement
  migrations : s.migrated.books.CarriesOut s.cycleStart
  rehomed : s.rehomed.books.Complete scenario.people
  vacated : s.rehomed.books.Vacated
  trading : Trading s.scheduled s.rehomed
  customers : s.rehomed.customers.toList.map Evaluator.customer = scenario.people

theorem Running.passage {s : Simulation G R} (running : Running scenario s)
    (valid : scenario.problems = []) (census : Census scenario.people) {count : Nat}
    (succeeded : s.publishScheduled.1 = .ok count) : Passage scenario s := by
  obtain ⟨-, rescheduled, ready⟩ := running.ready_scheduled valid succeeded
  have customers : s.scheduled.customers.toList.map Evaluator.customer = scenario.people := by
    rw [rescheduled.customers]
    exact running.customers
  -- Placements complete the books in the first cycle; in later ones they are complete already.
  have placing : Settles scenario.people s.cycleStart s.scheduled s.directed := by
    unfold directed
    split
    · rename_i first
      refine settles_placeAll ready census ?_ customers _
      have vacant := running.vacant (rescheduled.cycle ▸ first)
      rw [rescheduled.roster]
      exact vacant
    · rename_i later
      refine settles_idle ⟨ready, fun customer listed => ?_⟩ customers _
      rw [rescheduled.roster]
      have begun : 0 < s.cycle :=
        Nat.pos_of_ne_zero fun first => later (rescheduled.cycle.trans first)
      exact (running.complete begun).conserved customer listed
  have placed := placed_eq ready.idle
  have complete : s.placed.books.Complete scenario.people := by
    rw [placed]
    exact placing.complete
  have customersPlaced : s.placed.customers.toList.map Evaluator.customer = scenario.people := by
    rw [placed]
    exact placing.customers
  have trading : Trading s.scheduled s.placed := by
    rw [placed]
    exact placing.trading
  obtain ⟨evaluating, balanced⟩ := settles_evaluateAll complete census customersPlaced s.cycleStart
  rw [← evaluated] at evaluating balanced
  have settled : (s.evaluated.settle s.cycleStart).1 = s.settled := by rw [Simulation.settled]
  have completeSettled := evaluating.complete
  have customersSettled := evaluating.customers
  have tradingSettled := evaluating.trading
  rw [settled] at completeSettled customersSettled tradingSettled
  obtain ⟨migrating, vacated, replaced⟩ :=
    settles_migrateAll completeSettled census customersSettled s.cycleStart
  rw [← migrated] at migrating vacated
  have rehomed := s.rehomed_eq.symm
  have completeRehomed := migrating.complete
  have customersRehomed := migrating.customers
  have tradingRehomed := migrating.trading
  rw [rehomed] at completeRehomed customersRehomed tradingRehomed vacated
  exact ⟨ready, placing.carried, complete, customersPlaced, balanced, evaluating.carried,
    completeSettled, replaced, migrating.carried, completeRehomed, vacated,
    (trading.trans tradingSettled).trans tradingRehomed, customersRehomed⟩

/-! ### The next state -/

omit [Quantity R] [SampleSource G R] in
theorem ids_unmarked (catalogue : Catalogue R) :
    catalogue.unmarked.listed.map Listing.id = catalogue.listed.map Listing.id := by
  simp [Catalogue.unmarked]

structure Reaches (scenario : Scenario R) (s reached : Simulation G R) : Prop where
  scenario_eq : reached.scenario = scenario
  customers : reached.customers.toList.map Evaluator.customer = scenario.people
  complete : reached.books.Complete scenario.people
  published : reached.published.map Prod.snd =
    reached.books.catalogue.listed.map Listing.id
  timetable : reached.timetable = s.timetable
  counts : ∀ {kinds : TransactionKind → Bool} {tariffs : Tariff R → Bool},
    Bills.Charges kinds tariffs → ∀ slot keys,
      reached.books.journal.counts slot kinds keys = s.books.journal.counts slot kinds keys

theorem Running.reaches {s : Simulation G R} (running : Running scenario s)
    (valid : scenario.problems = []) (census : Census scenario.people) {count : Nat}
    (succeeded : s.publishScheduled.1 = .ok count) : Reaches scenario s s.rehomed := by
  obtain ⟨orderly, rescheduled, -⟩ := running.ready_scheduled valid succeeded
  have passage := running.passage valid census succeeded
  have trading := passage.trading
  refine ⟨(trading.scenario.trans rescheduled.scenario).trans running.scenario_eq,
    passage.customers, passage.rehomed, ?_, trading.timetable.trans rescheduled.timetable, ?_⟩
  · rw [← ids_unmarked, trading.unmarked, ids_unmarked, trading.published]
    exact orderly.published
  · intro kinds tariffs charges slot keys
    rw [trading.counts charges, rescheduled.journal]
    rfl

omit [SampleSource G R] in
theorem Reaches.counts_billCycle {s reached : Simulation G R} (reaches : Reaches scenario s reached)
    (running : Running scenario s) {kinds : TransactionKind → Bool} {tariffs : Tariff R → Bool}
    (charges : Bills.Charges kinds tariffs) (slot : Nat) (keys : SubscriptionKey → Bool) :
    reached.billCycle.2.books.journal.counts slot kinds keys =
      s.books.journal.counts slot kinds keys ++
        if s.cycle * scenario.run.timeslotsPerCycle ≤ slot ∧
            slot < min ((s.cycle + 1) * scenario.run.timeslotsPerCycle) s.timetable.slots then
          reached.books.roster.due tariffs keys
        else [] := by
  have hosts := hosts_of_placed reaches.customers reaches.complete.sound.placed
  rw [Simulation.counts_billCycle hosts charges, reaches.counts charges, reaches.timetable,
    reaches.scenario_eq]
  congr 1
  -- The timetable stands at the first timeslot of the cycle, or at its end.
  have next := running.next
  rw [Nat.succ_mul]
  refine if_congr ?_ rfl rfl
  omega

omit [SampleSource G R] in
theorem Reaches.billed {s reached : Simulation G R} (reaches : Reaches scenario s reached) :
    reached.billCycle.2.books.Complete scenario.people ∧
      reached.billCycle.2.Orderly scenario.people ∧
      reached.billCycle.2.customers.toList.map Evaluator.customer = scenario.people := by
  have billed := billed_billCycle reached
  have complete := billed.complete reaches.complete
  refine ⟨complete, ⟨complete.sound, ?_⟩, ?_⟩
  · rw [billed.published, billed.catalogue]
    exact reaches.published
  · rw [billed.customers]
    exact reaches.customers

omit [SampleSource G R] in
theorem Reaches.running {s reached : Simulation G R} (reaches : Reaches scenario s reached)
    (running : Running scenario s) :
    Running scenario { reached.billCycle.2 with cycle := s.cycle + 1 } := by
  obtain ⟨complete, orderly, customers⟩ := reaches.billed
  have clock := timetable_billCycle reached (by
    rw [reaches.timetable, running.next]
    exact min_le_right _ _)
  rw [reaches.timetable, reaches.scenario_eq, running.next] at clock
  refine ⟨(billed_billCycle reached).scenario.trans reaches.scenario_eq, customers,
    ⟨orderly.sound, orderly.published⟩, complete.idle,
    fun first => absurd first (Nat.succ_ne_zero _), fun _ => complete, ?_, ?_, ?_⟩
  · rw [clock]
    exact running.slots
  · rw [clock, Nat.succ_mul]
    simp only
    omega
  · intro kinds tariffs charges slot late keys
    have never : ¬ (s.cycle * scenario.run.timeslotsPerCycle ≤ slot ∧
        slot < min ((s.cycle + 1) * scenario.run.timeslotsPerCycle) s.timetable.slots) := by
      rintro ⟨-, soon⟩
      exact absurd (lt_of_lt_of_le soon (min_le_left _ _)) (Nat.not_lt.2 late)
    rw [reaches.counts_billCycle running charges, if_neg never, List.append_nil]
    exact running.unbilled charges slot
      ((Nat.mul_le_mul_right _ (Nat.le_succ _)).trans late) keys

omit [SampleSource G R] in
theorem Running.failed {s : Simulation G R} (running : Running scenario s) :
    Running scenario s.publishScheduled.2 := by
  obtain ⟨orderly, kept⟩ := running.published
  refine ⟨kept.scenario.trans running.scenario_eq, ?_, orderly, kept.pending.trans running.idle, ?_,
    ?_, ?_, ?_, ?_⟩
  · rw [kept.customers]
    exact running.customers
  · intro first
    rw [kept.roster]
    exact running.vacant (kept.cycle ▸ first)
  · intro later
    have complete := running.complete (kept.cycle ▸ later)
    refine ⟨⟨orderly.sound, kept.pending.trans running.idle, fun customer listed =>
      defaultFor_mono kept.served (complete.served customer listed)⟩, fun customer listed => ?_⟩
    rw [kept.roster]
    exact complete.conserved customer listed
  · rw [kept.timetable]
    exact running.slots
  · rw [kept.timetable, kept.cycle]
    exact running.next
  · intro kinds tariffs charges slot late keys
    rw [kept.cycle] at late
    rw [kept.journal]
    exact running.unbilled charges slot late keys

theorem Running.step {s : Simulation G R} (running : Running scenario s)
    (valid : scenario.problems = []) (census : Census scenario.people) :
    Running scenario s.step.2 := by
  cases outcome : s.publishScheduled.1 with
  | error error =>
      rw [step_of_error outcome]
      exact running.failed
  | ok count =>
      rw [step_of_ok outcome]
      have next := (running.reaches valid census outcome).running running
      rw [← billed] at next
      exact next

/-- The state after a number of calls, of which some may have failed. -/
def afterCalls (s : Simulation G R) : Nat → Simulation G R
  | 0 => s
  | calls + 1 => (afterCalls s calls).step.2

theorem Running.afterCalls {s : Simulation G R} (running : Running scenario s)
    (valid : scenario.problems = []) (census : Census scenario.people) (calls : Nat) :
    Running scenario (s.afterCalls calls) := by
  induction calls with
  | zero => exact running
  | succ calls ih => exact ih.step valid census

theorem running_afterCalls (valid : scenario.problems = []) (census : Census scenario.people)
    (calls : Nat) : Running scenario ((fresh (G := G) scenario).afterCalls calls) :=
  (running_fresh scenario).afterCalls valid census calls

theorem exists_step_ok (valid : scenario.problems = []) (census : Census scenario.people)
    (independent : ∀ plan ∈ scenario.tariffs, plan.supersedes = none) (calls : Nat) :
    ∃ summary next, ((fresh (G := G) scenario).afterCalls calls).step = (.ok summary, next) := by
  have running := running_afterCalls (G := G) valid census calls
  obtain ⟨count, published⟩ : ∃ count,
      ((fresh (G := G) scenario).afterCalls calls).publishScheduled.1 = .ok count := by
    refine exists_publishAll_ok _ fun plan listed => independent plan ?_
    rw [running.scenario_eq] at listed
    exact (List.mem_filter.1 listed).1
  exact ⟨_, _, step_of_ok published⟩

end Simulation

end RetailMarket
