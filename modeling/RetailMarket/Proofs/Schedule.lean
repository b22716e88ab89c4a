import RetailMarket.Proofs.Stages

/-!
# The schedule of a run

Whether a cycle fails is decided by what it has to publish, whatever the populations do and however
large they are.  Publications go on up to the first plan that supersedes a key which is not yet
published; those before it are entered, and nothing but the catalogue, the defaults and the list of
what has been published changes.  The timeslots of a run start hour by hour, at instants that 64 bits
hold unless the scenario is too long for them.
-/

namespace RetailMarket

/-! ## Publications in order -/

namespace Scenario

variable {R : Type}

def due (scenario : Scenario R) (cycle : Nat) : List (TariffPlan R) :=
  scenario.tariffs.filter fun plan => plan.publishCycle == cycle

def hours (scenario : Scenario R) : Nat := scenario.run.cycles * scenario.run.timeslotsPerCycle

/-- 64 bits hold every instant of a run, and the end of every contract that can be made in it. -/
structure Fits [Quantity R] (scenario : Scenario R) : Prop where
  hours : (Instant.ofHours scenario.hours).Fits
  contracts : ∀ plan ∈ scenario.tariffs,
    ((Instant.ofHours scenario.hours).plus (Tariff.durationOfDays plan.minDurationDays)).Fits

instance [Quantity R] (scenario : Scenario R) : Decidable scenario.Fits :=
  decidable_of_iff ((Instant.ofHours scenario.hours).Fits ∧ ∀ plan ∈ scenario.tariffs,
      ((Instant.ofHours scenario.hours).plus (Tariff.durationOfDays plan.minDurationDays)).Fits)
    ⟨fun fits => ⟨fits.1, fits.2⟩, fun fits => ⟨fits.hours, fits.contracts⟩⟩

end Scenario

namespace Instant

theorem Fits.of_le {first last : Instant} (fits : last.Fits) (le : first ≤ last)
    (started : epoch ≤ first) : first.Fits := by
  obtain ⟨-, bound⟩ := fits
  change first.millis ≤ last.millis at le
  change 0 ≤ first.millis at started
  constructor <;> simp only [UInt64.size] at bound ⊢ <;> omega

theorem epoch_le_ofHours (hours : Nat) : epoch ≤ ofHours hours := by
  change 0 ≤ hours * hourLength
  rw [hourLength]
  omega

theorem ofHours_le {first last : Nat} (le : first ≤ last) : ofHours first ≤ ofHours last := by
  change first * hourLength ≤ last * hourLength
  rw [hourLength]
  omega

end Instant

namespace Scenario

variable {R : Type} [Quantity R] {scenario : Scenario R}

theorem Fits.ofHours (fits : scenario.Fits) {hour : Nat} (within : hour ≤ scenario.hours) :
    (Instant.ofHours hour).Fits :=
  fits.hours.of_le (Instant.ofHours_le within) (Instant.epoch_le_ofHours hour)

theorem Fits.signed_eq (fits : scenario.Fits) {hour : Nat} (within : hour ≤ scenario.hours) :
    signed hour = hour := by
  have bound := (fits.ofHours within).2
  simp only [Instant.ofHours, hourLength, UInt64.size] at bound
  exact signed_of_lt (by omega)

theorem Fits.contractEnd_eq (fits : scenario.Fits) {plan : TariffPlan R}
    (listed : plan ∈ scenario.tariffs) {hour : Nat} (within : hour ≤ scenario.hours)
    (id : TariffId) (supersedes : Option TariffId) :
    (plan.tariff id supersedes).contractEnd (.ofHours hour) =
      (Instant.ofHours hour).plus (plan.tariff id supersedes).minDuration := by
  refine Tariff.contractEnd_of_fits ((fits.contracts plan listed).of_le ?_ ?_)
  · exact Int.add_le_add_right (Instant.ofHours_le within) _
  · exact Int.add_nonneg (Instant.epoch_le_ofHours hour) (Int.natCast_nonneg _)

end Scenario

namespace TariffPlan

variable {R : Type}

def missing? (known : List String) (plan : TariffPlan R) : Option String :=
  plan.supersedes.filter fun key => decide (key ∉ known)

/-- The first key that plans supersede before it is known. -/
def unknown? : (known : List String) → List (TariffPlan R) → Option String
  | _, [] => none
  | known, plan :: rest => (plan.missing? known).or (unknown? (known ++ [plan.key]) rest)

theorem missing?_eq_some {known : List String} {plan : TariffPlan R} {key : String} :
    plan.missing? known = some key ↔ plan.supersedes = some key ∧ key ∉ known := by
  rw [missing?, Option.filter_eq_some_iff, decide_eq_true_eq]

theorem unknown?_append (known : List String) (first second : List (TariffPlan R)) :
    unknown? known (first ++ second) =
      (unknown? known first).or (unknown? (known ++ first.map key) second) := by
  induction first generalizing known with
  | nil => simp [unknown?]
  | cons plan rest ih => simp [unknown?, ih, Option.or_assoc]

end TariffPlan

namespace Simulation

variable {G R : Type} [Quantity R]

def keys (s : Simulation G R) : List String := s.published.map Prod.fst

omit [Quantity R] in
theorem tariffId?_eq_none {s : Simulation G R} {key : String} :
    s.tariffId? key = none ↔ key ∉ s.keys := by
  rw [tariffId?, List.lookup_eq_none_iff, keys, List.mem_map]
  constructor
  · rintro missing ⟨entry, listed, rfl⟩
    exact absurd (missing entry listed) (by simp)
  · intro missing entry listed
    rw [bne_iff_ne]
    exact fun same => missing ⟨entry, listed, same.symm⟩

theorem missing?_of_error {s : Simulation G R} {plan : TariffPlan R} {error : CycleError}
    (failed : s.publish plan = .error error) :
    ∃ key, plan.missing? s.keys = some key ∧ error = .unknownTariff key := by
  obtain ⟨key, named, missing, same⟩ := publish_error failed
  exact ⟨key, TariffPlan.missing?_eq_some.2 ⟨named, tariffId?_eq_none.1 missing⟩, same⟩

theorem keys_publish {s next : Simulation G R} {plan : TariffPlan R} {count : Nat}
    (listed : s.Listed) (published : s.publish plan = .ok (next, count)) :
    plan.missing? s.keys = none ∧ count = 1 ∧ next.keys = s.keys ++ [plan.key] := by
  obtain ⟨id, supersedes, entered, -, resolved, -, one, rfl⟩ :=
    publish_ok listed.catalogue published
  refine ⟨?_, one, List.map_append⟩
  rw [Option.eq_none_iff_forall_ne_some]
  intro key missing
  obtain ⟨named, unknown⟩ := TariffPlan.missing?_eq_some.1 missing
  rw [named, Option.map_some, tariffId?_eq_none.2 unknown] at resolved
  obtain ⟨old, -, found⟩ := Option.map_eq_some_iff.1 resolved.symm
  cases found

theorem result_publishAll {s : Simulation G R} (listed : s.Listed) (plans : List (TariffPlan R)) :
    (s.publishAll plans).1 = (TariffPlan.unknown? s.keys plans).elim (.ok plans.length)
      fun key => .error (.unknownTariff key) := by
  induction plans generalizing s with
  | nil => rfl
  | cons plan rest ih =>
      cases outcome : s.publish plan with
      | error error =>
          obtain ⟨key, missing, rfl⟩ := missing?_of_error outcome
          simp only [publishAll, outcome, TariffPlan.unknown?, missing]
          rfl
      | ok result =>
          obtain ⟨next, count⟩ := result
          obtain ⟨known, rfl, keys⟩ := keys_publish listed outcome
          simp only [publishAll, outcome, TariffPlan.unknown?, known, Option.none_or, ← keys,
            ih (listed.publish outcome).1]
          cases TariffPlan.unknown? next.keys rest with
          | none => exact congrArg Except.ok (Nat.add_comm _ _)
          | some key => rfl

theorem keys_publishAll {s : Simulation G R} (listed : s.Listed) {plans : List (TariffPlan R)}
    (known : TariffPlan.unknown? s.keys plans = none) :
    (s.publishAll plans).2.keys = s.keys ++ plans.map TariffPlan.key := by
  induction plans generalizing s with
  | nil => exact (List.append_nil _).symm
  | cons plan rest ih =>
      obtain ⟨here, later⟩ := Option.or_eq_none_iff.1 known
      cases outcome : s.publish plan with
      | error error =>
          obtain ⟨key, missing, -⟩ := missing?_of_error outcome
          rw [missing] at here
          cases here
      | ok result =>
          obtain ⟨next, count⟩ := result
          obtain ⟨-, -, keys⟩ := keys_publish listed outcome
          rw [← keys] at later
          simp only [publishAll, outcome, ih (listed.publish outcome).1 later, keys]
          rw [List.append_assoc, List.map_cons, List.singleton_append]

/-! ## Any state of a run -/

/-- What holds of a run between two cycles, whatever its populations are. -/
structure Underway (scenario : Scenario R) (s : Simulation G R) : Prop where
  scenario_eq : s.scenario = scenario
  listed : s.Listed
  faithful : s.books.roster.Faithful
  epoch : s.timetable.start = .epoch
  hourly : s.timetable.slotLength = hourLength
  within : s.timetable.next ≤ s.timetable.slots

variable {scenario : Scenario R}

theorem underway_fresh [SampleSource G R] (scenario : Scenario R) :
    Underway scenario (fresh (G := G) scenario) :=
  ⟨rfl, ⟨Catalogue.wellFormed_empty, rfl⟩, Roster.faithful_empty, rfl, rfl, Nat.zero_le _⟩

omit [Quantity R] in
theorem Underway.stamped {s : Simulation G R} (underway : Underway scenario s) :
    s.stamped.Listed := ⟨underway.listed.catalogue, underway.listed.published⟩

theorem Underway.published {s : Simulation G R} (underway : Underway scenario s) :
    s.publishScheduled.2.Listed ∧ Rescheduled s.stamped s.publishScheduled.2 :=
  underway.stamped.publishAll _

theorem Underway.failed {s : Simulation G R} (underway : Underway scenario s) :
    Underway scenario s.publishScheduled.2 := by
  obtain ⟨listed, kept⟩ := underway.published
  refine ⟨kept.scenario.trans underway.scenario_eq, listed, ?_, ?_, ?_, ?_⟩
  · rw [kept.roster]
    exact underway.faithful
  all_goals rw [kept.timetable]
  · exact underway.epoch
  · exact underway.hourly
  · exact underway.within

omit [Quantity R] in
theorem published_revokeAll (s : Simulation G R) (plans : List (TariffPlan R)) :
    (s.revokeAll plans).1.published = s.published := by
  induction plans generalizing s with
  | nil => rfl
  | cons plan rest ih =>
      have first : (s.revoke plan).1.published = s.published := by
        simp only [revoke]
        split <;> rfl
      exact (ih _).trans first

theorem Underway.scheduled {s : Simulation G R} (underway : Underway scenario s) :
    s.scheduled.Listed ∧ Rescheduled s.stamped s.scheduled ∧
      s.scheduled.published = s.publishScheduled.2.published := by
  obtain ⟨listed, kept⟩ := underway.published
  obtain ⟨listedLast, keptLast⟩ := listed.revokeAll
    (s.publishScheduled.2.scenario.tariffs.filter
      fun plan => plan.revokeCycle == some s.publishScheduled.2.cycle)
  rw [Simulation.scheduled]
  exact ⟨listedLast, kept.trans keptLast, published_revokeAll _ _⟩

variable [SampleSource G R]

theorem Underway.billed {s : Simulation G R} (underway : Underway scenario s) :
    Underway scenario s.billed ∧ s.billed.published = s.publishScheduled.2.published := by
  obtain ⟨listed, kept, published⟩ := underway.scheduled
  have roster : s.scheduled.books.roster.Faithful := by
    rw [kept.roster]
    exact underway.faithful
  obtain ⟨trading, faithful⟩ := trading_rehomed roster
  have timetable : s.rehomed.timetable = s.timetable := trading.timetable.trans kept.timetable
  have billed := billed_billCycle s.rehomed
  have clock := timetable_billCycle s.rehomed (by rw [timetable]; exact underway.within)
  rw [← Simulation.billed] at billed clock
  rw [timetable] at clock
  refine ⟨⟨?_, ⟨?_, ?_⟩, billed.faithful faithful, ?_, ?_, ?_⟩, ?_⟩
  · exact ((billed.scenario.trans trading.scenario).trans kept.scenario).trans
      underway.scenario_eq
  · rw [billed.catalogue]
    exact (Catalogue.wellFormed_congr trading.unmarked).2 listed.catalogue
  · rw [billed.published, trading.published, billed.catalogue, ← ids_unmarked, trading.unmarked,
      ids_unmarked]
    exact listed.published
  · rw [clock]
    exact underway.epoch
  · rw [clock]
    exact underway.hourly
  · rw [clock]
    exact min_le_right _ _
  · exact (billed.published.trans trading.published).trans published

theorem Underway.step {s : Simulation G R} (underway : Underway scenario s) :
    Underway scenario s.step.2 := by
  cases outcome : s.publishScheduled.1 with
  | error error =>
      rw [step_of_error outcome]
      exact underway.failed
  | ok count =>
      rw [step_of_ok outcome]
      obtain ⟨billed, -⟩ := underway.billed
      exact ⟨billed.scenario_eq, ⟨billed.listed.catalogue, billed.listed.published⟩,
        billed.faithful, billed.epoch, billed.hourly, billed.within⟩

theorem underway_afterCalls (scenario : Scenario R) (calls : Nat) :
    Underway scenario ((fresh (G := G) scenario).afterCalls calls) := by
  induction calls with
  | zero => exact underway_fresh scenario
  | succ calls ih => exact ih.step

/-! ## Cycles and runs by their plans -/

omit [Quantity R] [SampleSource G R] in
theorem Underway.slotStart_eq {s : Simulation G R} (underway : Underway scenario s) (slot : Nat) :
    s.timetable.slotStart slot = .ofHours (signed slot) := by
  rw [Timetable.slotStart, underway.epoch, underway.hourly, Instant.ofHours, mul_comm hourLength]
  exact congrArg Instant.mk (zero_add _)

omit [SampleSource G R] in
theorem Underway.slotStart_of_fits {s : Simulation G R} (underway : Underway scenario s)
    (fits : scenario.Fits) {slot : Nat} (within : slot ≤ scenario.hours) :
    s.timetable.slotStart slot = .ofHours slot ∧ (s.timetable.slotStart slot).Fits := by
  rw [underway.slotStart_eq, fits.signed_eq within]
  exact ⟨rfl, fits.ofHours within⟩

omit [Quantity R] [SampleSource G R] in
theorem Underway.cycleStart_eq {s : Simulation G R} (underway : Underway scenario s) :
    s.cycleStart = .ofHours (signed (s.cycle * scenario.run.timeslotsPerCycle)) := by
  rw [cycleStart, underway.slotStart_eq, firstSlot, underway.scenario_eq]

omit [SampleSource G R] in
theorem Underway.publishScheduled_eq {s : Simulation G R} (underway : Underway scenario s) :
    s.publishScheduled = s.stamped.publishAll (scenario.due s.cycle) := by
  rw [Simulation.publishScheduled_eq, underway.scenario_eq]
  rfl

theorem Underway.step_of_known {s : Simulation G R} (underway : Underway scenario s)
    (known : TariffPlan.unknown? s.keys (scenario.due s.cycle) = none) :
    s.step.1 = .ok (s.summarize (scenario.due s.cycle).length) ∧
      s.step.2.cycle = s.cycle + 1 ∧
      s.step.2.keys = s.keys ++ (scenario.due s.cycle).map TariffPlan.key := by
  have known' : TariffPlan.unknown? s.stamped.keys (scenario.due s.cycle) = none := known
  have succeeded : s.publishScheduled.1 = .ok (scenario.due s.cycle).length := by
    rw [underway.publishScheduled_eq, result_publishAll underway.stamped, known']
    rfl
  have keys := keys_publishAll underway.stamped known'
  rw [← underway.publishScheduled_eq] at keys
  rw [step_of_ok succeeded]
  refine ⟨rfl, rfl, ?_⟩
  rw [Simulation.keys, underway.billed.2]
  exact keys

theorem runCycles_succ_of_ok {s : Simulation G R} {summary : CycleSummary R}
    (succeeded : s.step.1 = .ok summary) (count : Nat) :
    (runCycles (count + 1) s).1 = (runCycles count s.step.2).1.map (summary :: ·) := by
  have split : s.step = (.ok summary, s.step.2) := by rw [← succeeded]
  rw [runCycles, split]

theorem Underway.runCycles_of_known {s : Simulation G R} (underway : Underway scenario s)
    {count : Nat}
    (known : TariffPlan.unknown? s.keys
      ((List.range' s.cycle count).flatMap scenario.due) = none) :
    ∃ summaries, (runCycles count s).1 = .ok summaries ∧ summaries.length = count ∧
      ∀ number summary, summaries[number]? = some summary →
        summary.cycle = s.cycle + number ∧
        summary.start =
          Instant.ofHours (signed ((s.cycle + number) * scenario.run.timeslotsPerCycle)) := by
  induction count generalizing s with
  | zero => exact ⟨[], rfl, rfl, fun number summary found => by cases found⟩
  | succ count ih =>
      rw [List.range'_succ, List.flatMap_cons, TariffPlan.unknown?_append] at known
      obtain ⟨here, later⟩ := Option.or_eq_none_iff.1 known
      obtain ⟨succeeded, cycle, keys⟩ := underway.step_of_known here
      rw [← keys, ← cycle] at later
      obtain ⟨summaries, ran, length, numbered⟩ := ih underway.step later
      refine ⟨s.summarize (scenario.due s.cycle).length :: summaries, ?_, congrArg _ length, ?_⟩
      · rw [runCycles_succ_of_ok succeeded, ran]
        rfl
      · intro number summary found
        cases number with
        | zero =>
            cases found
            exact ⟨rfl, underway.cycleStart_eq⟩
        | succ number =>
            have next := numbered number summary found
            rw [cycle, Nat.add_right_comm, Nat.add_assoc] at next
            exact next

end Simulation

end RetailMarket
