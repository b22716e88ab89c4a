import RetailMarket.Proofs.Settlement
import RetailMarket.Simulation.State

/-!
# Publications and revocations

A publication gives a tariff a fresh id and puts it on offer; what was known or on offer before
stays so.  A revocation withdraws a tariff that is no default.  Both keep the books sound, and touch
nothing of a run but its catalogue, its defaults and the list of what has been published.
-/

namespace RetailMarket

namespace Catalogue

variable {R : Type}

/-! ## Publications -/

def succeeded (tariff : Tariff R) (listing : Listing R) : Listing R :=
  if tariff.supersedes = some listing.id then listing.supersede tariff.id else listing

theorem id_succeeded (tariff : Tariff R) (listing : Listing R) :
    (succeeded tariff listing).id = listing.id := by
  unfold succeeded
  split <;> rfl

theorem tariff_succeeded (tariff : Tariff R) (listing : Listing R) :
    (succeeded tariff listing).tariff = listing.tariff := by
  unfold succeeded
  split <;> rfl

theorem state_succeeded (tariff : Tariff R) (listing : Listing R) :
    (succeeded tariff listing).state = listing.state := by
  unfold succeeded
  split <;> rfl

theorem isRevoked_succeeded (tariff : Tariff R) (listing : Listing R) :
    (succeeded tariff listing).isRevoked = listing.isRevoked := by
  rw [Listing.isRevoked, state_succeeded, ← Listing.isRevoked]

theorem enter_eq_false {catalogue : Catalogue R} {tariff : Tariff R}
    (refused : (catalogue.enter tariff).1 = false) :
    catalogue.enter tariff = (false, catalogue) := by
  unfold enter at refused ⊢
  split at refused
  · rename_i taken
    rw [if_pos taken]
  · cases refused

theorem enter_eq_true {catalogue entered : Catalogue R} {tariff : Tariff R}
    (published : catalogue.enter tariff = (true, entered)) :
    catalogue.find? tariff.id = none ∧
      entered.listed = catalogue.listed.map (succeeded tariff) ++
        [Listing.ofTariff { tariff with contract := none }] ∧
      entered.lastId = max catalogue.lastId tariff.id.number := by
  simp only [enter] at published
  split at published
  · cases published
  · rename_i fresh
    simp only [Option.not_isSome_iff_eq_none] at fresh
    cases published
    refine ⟨fresh, ?_, ?_⟩
    · cases old : tariff.supersedes with
      | none =>
          have unchanged : succeeded tariff = id := by
            funext listing
            simp [succeeded, old]
          simp only [unchanged, List.map_id]
      | some id =>
          have linked : succeeded tariff = fun listing =>
              if listing.id = id then listing.supersede tariff.id else listing := by
            funext listing
            simp only [succeeded, old, Option.some.injEq, eq_comm]
          rw [linked]
          simp only [update, updateIn]
    · cases tariff.supersedes <;> rfl

section

variable {catalogue entered : Catalogue R} {tariff : Tariff R}
  (published : catalogue.enter tariff = (true, entered))

include published

theorem find?_enter (id : TariffId) :
    entered.find? id = ((catalogue.find? id).map (succeeded tariff)).or
      (if tariff.id = id then some (Listing.ofTariff { tariff with contract := none })
        else none) := by
  obtain ⟨-, listed, -⟩ := enter_eq_true published
  rw [find?, findIn, listed, List.find?_append, List.find?_singleton]
  congr 1
  · exact findIn_map _ _ (id_succeeded tariff)
  · simp [Listing.ofTariff, Listing.id]

theorem find?_enter_of_find? {id : TariffId} {listing : Listing R}
    (found : catalogue.find? id = some listing) :
    entered.find? id = some (succeeded tariff listing) := by
  rw [find?_enter published, found]
  rfl

theorem find?_enter_self :
    entered.find? tariff.id = some (Listing.ofTariff { tariff with contract := none }) := by
  rw [find?_enter published, (enter_eq_true published).1, if_pos rfl]
  rfl

theorem ids_enter :
    entered.listed.map Listing.id = catalogue.listed.map Listing.id ++ [tariff.id] := by
  obtain ⟨-, listed, -⟩ := enter_eq_true published
  rw [listed, List.map_append, List.map_map]
  congr 1
  exact List.map_congr_left fun listing _ => id_succeeded tariff listing

theorem WellFormed.enter (wellFormed : catalogue.WellFormed) : entered.WellFormed := by
  obtain ⟨fresh, listed, lastId⟩ := enter_eq_true published
  refine ⟨?_, ?_, ?_⟩
  · rw [ids_enter published]
    refine wellFormed.nodup.append (List.nodup_singleton _) ?_
    intro id known own
    obtain ⟨listing, member, same⟩ := List.mem_map.1 known
    rw [List.mem_singleton.1 own] at same
    exact List.find?_eq_none.1 fresh listing member (by simpa using same)
  all_goals
    intro listing member
    rw [listed] at member
    rcases List.mem_append.1 member with old | new
  · obtain ⟨other, memberOther, rfl⟩ := List.mem_map.1 old
    rw [id_succeeded, lastId]
    exact (wellFormed.bounded other memberOther).trans (le_max_left _ _)
  · rw [List.mem_singleton.1 new, lastId]
    exact le_max_right _ _
  · obtain ⟨other, memberOther, rfl⟩ := List.mem_map.1 old
    rw [tariff_succeeded]
    exact wellFormed.published other memberOther
  · rw [List.mem_singleton.1 new]
    rfl

theorem Knows.enter {other : Tariff R} (known : catalogue.Knows other) :
    entered.Knows other := by
  obtain ⟨shared, listing, found⟩ := known
  exact ⟨shared, _, find?_enter_of_find? published found⟩

theorem Offers.enter {other : Tariff R} (offered : catalogue.Offers other) :
    entered.Offers other := by
  obtain ⟨shared, listing, found, alive⟩ := offered
  refine ⟨shared, _, find?_enter_of_find? published found, ?_⟩
  rw [isRevoked_succeeded]
  exact alive

theorem offers_enter (shared : tariff.contract = none) (opening : tariff.opening = .offered) :
    entered.Offers tariff := by
  refine ⟨shared, _, find?_enter_self published, ?_⟩
  simp [Listing.isRevoked, Listing.ofTariff, opening]

end

theorem exists_enter_nextId {catalogue : Catalogue R} (wellFormed : catalogue.WellFormed)
    {tariff : Tariff R} (next : tariff.id = catalogue.nextId.1) :
    ∃ entered, catalogue.nextId.2.enter tariff = (true, entered) := by
  have fresh : catalogue.nextId.2.find? tariff.id = none := by
    refine List.find?_eq_none.2 fun listing member same => ?_
    have bound := wellFormed.bounded listing member
    rw [beq_iff_eq] at same
    rw [same, next] at bound
    exact absurd bound (by simp [nextId])
  rw [enter, fresh]
  exact ⟨_, rfl⟩

theorem WellFormed.nextId {catalogue : Catalogue R} (wellFormed : catalogue.WellFormed) :
    catalogue.nextId.2.WellFormed :=
  ⟨wellFormed.nodup, fun listing member =>
    (wellFormed.bounded listing member).trans (Nat.le_succ _), wellFormed.published⟩

/-! ## Revocations -/

theorem revoke_cases (catalogue : Catalogue R) (id : TariffId) :
    catalogue.revoke id = (false, catalogue) ∨
      catalogue.revoke id = (true, catalogue.update id Listing.revoke) := by
  unfold revoke
  split
  · exact .inl rfl
  · split
    · exact .inl rfl
    · exact .inr rfl

theorem find?_update_revoke (catalogue : Catalogue R) (id other : TariffId) :
    (catalogue.update id Listing.revoke).find? other =
      (catalogue.find? other).map fun listing =>
        if listing.id = id then listing.revoke else listing :=
  find?_update catalogue id other fun _ => rfl

theorem WellFormed.update_revoke {catalogue : Catalogue R} (wellFormed : catalogue.WellFormed)
    (id : TariffId) : (catalogue.update id Listing.revoke).WellFormed := by
  have source (listing : Listing R)
      (member : listing ∈ (catalogue.update id Listing.revoke).listed) :
      ∃ other ∈ catalogue.listed, listing.tariff = other.tariff := by
    obtain ⟨other, memberOther, rfl⟩ := List.mem_map.1 member
    refine ⟨other, memberOther, ?_⟩
    split <;> rfl
  refine ⟨?_, ?_, ?_⟩
  · rw [catalogue.ids_update id fun listing => show listing.revoke.id = listing.id from rfl]
    exact wellFormed.nodup
  all_goals
    intro listing member
    obtain ⟨other, memberOther, same⟩ := source listing member
  · rw [Listing.id, same]
    exact wellFormed.bounded other memberOther
  · rw [same]
    exact wellFormed.published other memberOther

theorem Knows.update_revoke {catalogue : Catalogue R} {tariff : Tariff R}
    (known : catalogue.Knows tariff) (id : TariffId) :
    (catalogue.update id Listing.revoke).Knows tariff := by
  obtain ⟨shared, listing, found⟩ := known
  refine ⟨shared, if listing.id = id then listing.revoke else listing, ?_⟩
  rw [find?_update_revoke, found]
  rfl

theorem Offers.update_revoke {catalogue : Catalogue R} {tariff : Tariff R}
    (offered : catalogue.Offers tariff) {id : TariffId} (different : tariff.id ≠ id) :
    (catalogue.update id Listing.revoke).Offers tariff := by
  obtain ⟨shared, listing, found, alive⟩ := offered
  have other : listing.id ≠ id := (mem_of_find? found).2 ▸ different
  refine ⟨shared, listing, ?_, alive⟩
  rw [find?_update_revoke, found, Option.map_some, if_neg other]

end Catalogue

/-! ## The books under revocations -/

namespace Books

variable {R : Type} {populations : List Customer}

theorem Sound.revoke {books : Books R} (sound : books.Sound populations) (id : TariffId) :
    ({ books with catalogue := (books.market.revoke books.catalogue id).2 } :
      Books R).Sound populations := by
  simp only [Market.revoke]
  split
  · exact sound
  · rename_i free
    rcases books.catalogue.revoke_cases id with same | changed
    · rw [same]
      exact sound
    · rw [changed]
      refine ⟨sound.catalogue.update_revoke id, ?_, sound.roster, sound.recorded,
        fun subscription listed => (sound.known subscription listed).update_revoke id,
        sound.placed⟩
      intro powerType tariff default
      refine (sound.defaults powerType tariff default).update_revoke ?_
      rintro rfl
      exact free (Market.isDefault_of_defaults default)

end Books

/-! ## The schedule of a run -/

namespace Simulation

variable {G R : Type} [Quantity R]

/-- What the schedule leaves alone, and that it only adds defaults. -/
structure Rescheduled (before after : Simulation G R) : Prop where
  scenario : after.scenario = before.scenario
  timetable : after.timetable = before.timetable
  customers : after.customers = before.customers
  cycle : after.cycle = before.cycle
  roster : after.books.roster = before.books.roster
  journal : after.books.journal = before.books.journal
  pending : after.books.market.pending = before.books.market.pending
  served : ∀ powerType, (before.books.market.defaults powerType).isSome →
    (after.books.market.defaults powerType).isSome

omit [Quantity R] in
theorem Rescheduled.refl (simulation : Simulation G R) : Rescheduled simulation simulation :=
  ⟨rfl, rfl, rfl, rfl, rfl, rfl, rfl, fun _ served => served⟩

omit [Quantity R] in
theorem Rescheduled.trans {first second third : Simulation G R}
    (start : Rescheduled first second) (rest : Rescheduled second third) :
    Rescheduled first third :=
  ⟨rest.scenario.trans start.scenario, rest.timetable.trans start.timetable,
    rest.customers.trans start.customers, rest.cycle.trans start.cycle,
    rest.roster.trans start.roster, rest.journal.trans start.journal,
    rest.pending.trans start.pending,
    fun powerType served => rest.served powerType (start.served powerType served)⟩

/-- The list of what has been published is the catalogue's. -/
structure Listed (simulation : Simulation G R) : Prop where
  catalogue : simulation.books.catalogue.WellFormed
  published : simulation.published.map Prod.snd =
    simulation.books.catalogue.listed.map Listing.id

structure Orderly (populations : List Customer) (simulation : Simulation G R) : Prop where
  sound : simulation.books.Sound populations
  published : simulation.published.map Prod.snd =
    simulation.books.catalogue.listed.map Listing.id

variable {populations : List Customer}

omit [Quantity R] in
theorem Orderly.listed {simulation : Simulation G R} (orderly : simulation.Orderly populations) :
    simulation.Listed := ⟨orderly.sound.catalogue, orderly.published⟩

theorem publish_error {simulation : Simulation G R} {plan : TariffPlan R} {error : CycleError}
    (failed : simulation.publish plan = .error error) :
    ∃ key, plan.supersedes = some key ∧ simulation.tariffId? key = none ∧
      error = .unknownTariff key := by
  simp only [publish] at failed
  split at failed
  · rename_i unknown
    cases failed
    split at unknown
    · cases unknown
    · rename_i key named
      split at unknown
      · rename_i missing
        cases unknown
        exact ⟨key, named, missing, rfl⟩
      · cases unknown
  · split at failed <;> cases failed

theorem publish_ok {simulation next : Simulation G R} {plan : TariffPlan R} {count : Nat}
    (wellFormed : simulation.books.catalogue.WellFormed)
    (published : simulation.publish plan = .ok (next, count)) :
    ∃ id supersedes entered,
      id = simulation.books.catalogue.nextId.1 ∧
      plan.supersedes.map simulation.tariffId? = supersedes.map some ∧
      simulation.books.catalogue.nextId.2.enter (plan.tariff id supersedes) = (true, entered) ∧
      count = 1 ∧
      next = { simulation with
        books := { simulation.books with
          catalogue := entered
          market :=
            if plan.isDefault then
              simulation.books.market.setDefault (plan.tariff id supersedes)
            else simulation.books.market }
        published := simulation.published ++ [(plan.key, id)] } := by
  simp only [publish] at published
  split at published
  · cases published
  · rename_i supersedes known
    have resolved : plan.supersedes.map simulation.tariffId? = supersedes.map some := by
      split at known
      · rename_i independent
        cases known
        rw [independent]
        rfl
      · rename_i key named
        split at known
        · cases known
        · rename_i id found
          cases known
          rw [named, Option.map_some, found]
          rfl
    obtain ⟨entered, found⟩ := Catalogue.exists_enter_nextId wellFormed
      (show (plan.tariff simulation.books.catalogue.nextId.1 supersedes).id =
        simulation.books.catalogue.nextId.1 from rfl)
    rw [found] at published
    cases published
    exact ⟨_, supersedes, entered, rfl, resolved, found, rfl, rfl⟩

theorem Listed.publish {simulation next : Simulation G R} {plan : TariffPlan R} {count : Nat}
    (listed : simulation.Listed) (published : simulation.publish plan = .ok (next, count)) :
    next.Listed ∧ Rescheduled simulation next := by
  obtain ⟨id, supersedes, entered, -, -, found, -, rfl⟩ := publish_ok listed.catalogue published
  refine ⟨⟨listed.catalogue.nextId.enter found, ?_⟩, ⟨rfl, rfl, rfl, rfl, rfl, rfl, ?_, ?_⟩⟩
  · rw [List.map_append, listed.published, Catalogue.ids_enter found]
    rfl
  · simp only
    split <;> rfl
  · intro powerType served
    simp only
    split
    · simp only [Market.setDefault]
      split
      · rfl
      · exact served
    · exact served

theorem Listed.publishAll {simulation : Simulation G R} (listed : simulation.Listed)
    (plans : List (TariffPlan R)) :
    (simulation.publishAll plans).2.Listed ∧
      Rescheduled simulation (simulation.publishAll plans).2 := by
  induction plans generalizing simulation with
  | nil => exact ⟨listed, .refl simulation⟩
  | cons plan rest ih =>
      simp only [Simulation.publishAll]
      split
      · exact ⟨listed, .refl simulation⟩
      · rename_i next _ published
        obtain ⟨listedNext, kept⟩ := listed.publish published
        obtain ⟨listedLast, keptLast⟩ := ih listedNext
        exact ⟨listedLast, kept.trans keptLast⟩

theorem Orderly.publish {simulation next : Simulation G R} {plan : TariffPlan R} {count : Nat}
    (orderly : simulation.Orderly populations)
    (published : simulation.publish plan = .ok (next, count)) :
    next.Orderly populations ∧ Rescheduled simulation next ∧
      (plan.isDefault = true → (next.books.market.defaults plan.powerType).isSome) := by
  obtain ⟨listed, kept⟩ := orderly.listed.publish published
  obtain ⟨id, supersedes, entered, -, -, found, -, rfl⟩ :=
    publish_ok orderly.sound.catalogue published
  have sound := orderly.sound
  have offered : entered.Offers (plan.tariff id supersedes) :=
    Catalogue.offers_enter found rfl rfl
  refine ⟨⟨⟨listed.catalogue, ?_, sound.roster, sound.recorded, ?_, sound.placed⟩,
    listed.published⟩, kept, ?_⟩
  · intro powerType tariff default
    simp only at default
    split at default
    · simp only [Market.setDefault] at default
      split at default
      · cases default
        exact offered
      · exact Catalogue.Offers.enter found (sound.defaults powerType tariff default)
    · exact Catalogue.Offers.enter found (sound.defaults powerType tariff default)
  · intro subscription listed
    exact Catalogue.Knows.enter found (sound.known subscription listed)
  · intro default
    have own : (plan.tariff id supersedes).powerType = plan.powerType := rfl
    simp only [default, if_true, Market.setDefault, own]
    rfl

theorem Orderly.publishAll {simulation : Simulation G R} (orderly : simulation.Orderly populations)
    (plans : List (TariffPlan R)) :
    (simulation.publishAll plans).2.Orderly populations ∧
      Rescheduled simulation (simulation.publishAll plans).2 := by
  refine ⟨?_, (orderly.listed.publishAll plans).2⟩
  induction plans generalizing simulation with
  | nil => exact orderly
  | cons plan rest ih =>
      simp only [Simulation.publishAll]
      split
      · exact orderly
      · rename_i next _ published
        exact ih (orderly.publish published).1

theorem Orderly.served_publishAll {simulation : Simulation G R}
    (orderly : simulation.Orderly populations) {plans : List (TariffPlan R)} {count : Nat}
    (published : (simulation.publishAll plans).1 = .ok count) {plan : TariffPlan R}
    (listed : plan ∈ plans) (default : plan.isDefault = true) :
    ((simulation.publishAll plans).2.books.market.defaults plan.powerType).isSome := by
  induction plans generalizing simulation count with
  | nil => cases listed
  | cons first rest ih =>
      simp only [Simulation.publishAll] at published ⊢
      split at published
      · cases published
      · rename_i next _ publishedFirst
        obtain ⟨orderlyNext, -, servedFirst⟩ := orderly.publish publishedFirst
        rcases List.mem_cons.1 listed with rfl | later
        · exact (orderlyNext.publishAll rest).2.served _ (servedFirst default)
        · cases result : (next.publishAll rest).1 with
          | error error =>
              rw [result] at published
              cases published
          | ok more => exact ih orderlyNext result later

theorem exists_publishAll_ok (simulation : Simulation G R) {plans : List (TariffPlan R)}
    (independent : ∀ plan ∈ plans, plan.supersedes = none) :
    ∃ count, (simulation.publishAll plans).1 = .ok count := by
  induction plans generalizing simulation with
  | nil => exact ⟨0, rfl⟩
  | cons plan rest ih =>
      obtain ⟨next, first, published⟩ :
          ∃ next first, simulation.publish plan = .ok (next, first) := by
        simp only [publish, independent plan List.mem_cons_self]
        split <;> exact ⟨_, _, rfl⟩
      obtain ⟨later, publishedLater⟩ :=
        ih next fun other listed => independent other (List.mem_cons_of_mem _ listed)
      refine ⟨first + later, ?_⟩
      simp only [publishAll, published, publishedLater]
      rfl

omit [Quantity R] in
theorem Listed.revoke {simulation : Simulation G R} (listed : simulation.Listed)
    (plan : TariffPlan R) :
    (simulation.revoke plan).1.Listed ∧ Rescheduled simulation (simulation.revoke plan).1 := by
  simp only [Simulation.revoke]
  split
  · exact ⟨listed, .refl simulation⟩
  · rename_i id _
    refine ⟨?_, rfl, rfl, rfl, rfl, rfl, rfl, rfl, fun _ served => served⟩
    have kept : (simulation.books.market.revoke simulation.books.catalogue id).2.WellFormed ∧
        (simulation.books.market.revoke simulation.books.catalogue id).2.listed.map Listing.id =
          simulation.books.catalogue.listed.map Listing.id := by
      simp only [Market.revoke]
      split
      · exact ⟨listed.catalogue, rfl⟩
      · rcases simulation.books.catalogue.revoke_cases id with same | changed
        · rw [same]
          exact ⟨listed.catalogue, rfl⟩
        · rw [changed]
          exact ⟨listed.catalogue.update_revoke id, Catalogue.ids_update _ _ fun _ => rfl⟩
    exact ⟨kept.1, listed.published.trans kept.2.symm⟩

omit [Quantity R] in
theorem Listed.revokeAll {simulation : Simulation G R} (listed : simulation.Listed)
    (plans : List (TariffPlan R)) :
    (simulation.revokeAll plans).1.Listed ∧
      Rescheduled simulation (simulation.revokeAll plans).1 := by
  induction plans generalizing simulation with
  | nil => exact ⟨listed, .refl simulation⟩
  | cons plan rest ih =>
      obtain ⟨listedNext, kept⟩ := listed.revoke plan
      obtain ⟨listedLast, keptLast⟩ := ih listedNext
      exact ⟨listedLast, kept.trans keptLast⟩

omit [Quantity R] in
theorem Orderly.revoke {simulation : Simulation G R} (orderly : simulation.Orderly populations)
    (plan : TariffPlan R) : (simulation.revoke plan).1.Orderly populations := by
  refine ⟨?_, (orderly.listed.revoke plan).1.published⟩
  simp only [Simulation.revoke]
  split
  · exact orderly.sound
  · exact orderly.sound.revoke _

omit [Quantity R] in
theorem Orderly.revokeAll {simulation : Simulation G R} (orderly : simulation.Orderly populations)
    (plans : List (TariffPlan R)) :
    (simulation.revokeAll plans).1.Orderly populations ∧
      Rescheduled simulation (simulation.revokeAll plans).1 := by
  refine ⟨?_, (orderly.listed.revokeAll plans).2⟩
  induction plans generalizing simulation with
  | nil => exact orderly
  | cons plan rest ih => exact ih (orderly.revoke plan)

end Simulation

end RetailMarket
