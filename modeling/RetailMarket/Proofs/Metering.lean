import RetailMarket.Proofs.Run
import RetailMarket.Scenario.Presets

/-!
# Metering

In every timeslot of a cycle that does not fail each member of each population is billed once: the
journal has one usage for every subscription with members, with its count, beside it one periodic
payment where the tariff asks for one, and keeps them through all later cycles.
-/

namespace RetailMarket

namespace Simulation

variable {G R : Type} [Quantity R] [SampleSource G R] {scenario : Scenario R}

/-! ## Timeslots of earlier cycles -/

theorem Running.counts_step {s : Simulation G R} (running : Running scenario s)
    (valid : scenario.problems = []) (census : Census scenario.people)
    {kinds : TransactionKind → Bool} {tariffs : Tariff R → Bool}
    (charges : Bills.Charges kinds tariffs) {slot : Nat}
    (early : slot < s.cycle * scenario.run.timeslotsPerCycle) (keys : SubscriptionKey → Bool) :
    s.step.2.books.journal.counts slot kinds keys = s.books.journal.counts slot kinds keys ∧
      s.cycle ≤ s.step.2.cycle := by
  cases outcome : s.publishScheduled.1 with
  | error error =>
      obtain ⟨-, kept⟩ := running.published
      rw [step_of_error outcome]
      refine ⟨?_, kept.cycle.ge⟩
      rw [kept.journal]
      rfl
  | ok count =>
      have counted := (running.reaches valid census outcome).counts_billCycle running charges slot
        keys
      rw [← billed, if_neg fun own => absurd early (Nat.not_lt.2 own.1), List.append_nil] at counted
      rw [step_of_ok outcome]
      exact ⟨counted, Nat.le_succ _⟩

theorem Running.counts_afterCalls {s : Simulation G R} (running : Running scenario s)
    (valid : scenario.problems = []) (census : Census scenario.people)
    {kinds : TransactionKind → Bool} {tariffs : Tariff R → Bool}
    (charges : Bills.Charges kinds tariffs) {slot : Nat}
    (early : slot < s.cycle * scenario.run.timeslotsPerCycle) (keys : SubscriptionKey → Bool)
    (calls : Nat) :
    s.cycle ≤ (s.afterCalls calls).cycle ∧
      (s.afterCalls calls).books.journal.counts slot kinds keys =
        s.books.journal.counts slot kinds keys := by
  induction calls with
  | zero => exact ⟨le_rfl, rfl⟩
  | succ calls ih =>
      obtain ⟨later, same⟩ := ih
      obtain ⟨kept, onward⟩ := (running.afterCalls valid census calls).counts_step valid census
        charges (lt_of_lt_of_le early (Nat.mul_le_mul_right _ later)) keys
      exact ⟨later.trans onward, kept.trans same⟩

/-! ## Timeslots of a cycle -/

theorem Running.counts_slot {s next : Simulation G R} (running : Running scenario s)
    (valid : scenario.problems = []) (census : Census scenario.people) {summary : CycleSummary R}
    (stepped : s.step = (.ok summary, next)) (left : s.cycle < scenario.run.cycles) {slot : Nat}
    (first : s.cycle * scenario.run.timeslotsPerCycle ≤ slot)
    (last : slot < (s.cycle + 1) * scenario.run.timeslotsPerCycle)
    {kinds : TransactionKind → Bool} {tariffs : Tariff R → Bool}
    (charges : Bills.Charges kinds tariffs) (keys : SubscriptionKey → Bool) (later : Nat) :
    (next.afterCalls later).books.journal.counts slot kinds keys =
      next.books.roster.due tariffs keys := by
  obtain ⟨published, succeeded, rfl, rfl⟩ := step_eq_ok stepped
  have reaches := running.reaches valid census succeeded
  have runningNext := reaches.running running
  have counted := reaches.counts_billCycle running charges slot keys
  have commitments := (billed_billCycle s.rehomed).commitments
  have within : s.cycle * scenario.run.timeslotsPerCycle ≤ slot ∧
      slot < min ((s.cycle + 1) * scenario.run.timeslotsPerCycle) s.timetable.slots := by
    refine ⟨first, lt_min last ?_⟩
    rw [running.slots]
    exact lt_of_lt_of_le last (Nat.mul_le_mul_right _ left)
  rw [← billed] at runningNext counted commitments
  rw [if_pos within, running.unbilled charges slot first keys, List.nil_append,
    ← Roster.due_congr commitments] at counted
  obtain ⟨-, kept⟩ := runningNext.counts_afterCalls valid census charges last keys later
  exact kept.trans counted

/-- Every member is billed exactly once in each timeslot: in the journal of all later states there
is one usage for each subscription with members, with its count, and one periodic payment where the
tariff has any; the counts of a customer's usages add up to its population.  Timeslots are numbers
here; where the scenario fits, 64 bits hold the instants at which they start. -/
theorem slot_billed_once (scenario : Scenario R) (valid : scenario.problems = [])
    (small : (scenario.customers.map (·.population)).sum < 2 ^ 63) (calls : Nat)
    (s : Simulation G R) (reached : s = (fresh scenario).afterCalls calls)
    {summary : CycleSummary R} {next : Simulation G R} (stepped : s.step = (.ok summary, next))
    (left : s.cycle < scenario.run.cycles) (slot : Nat)
    (first : s.cycle * scenario.run.timeslotsPerCycle ≤ slot)
    (last : slot < (s.cycle + 1) * scenario.run.timeslotsPerCycle) (later : Nat) :
    (∀ subscription ∈ next.books.roster.toList,
      (next.afterCalls later).books.journal.counts slot TransactionKind.isUsage
          (· == subscription.key) =
        (if subscription.isEmpty then [] else [subscription.committed]) ∧
      (next.afterCalls later).books.journal.counts slot (· == .periodic)
          (· == subscription.key) =
        if subscription.isEmpty || subscription.tariff.periodicPayment == 0 then []
        else [subscription.committed]) ∧
    ∀ (number : Nat) (plan : CustomerPlan R), scenario.customers[number]? = some plan →
      ((next.afterCalls later).books.journal.counts slot TransactionKind.isUsage
        (·.customer == ⟨number⟩)).sum = plan.population := by
  have census := Scenario.census_of_valid valid small
  have running : Running scenario s := reached ▸ running_afterCalls valid census calls
  have runningNext : Running scenario next := by
    have step := running.step valid census
    rw [stepped] at step
    exact step
  have begun : 0 < next.cycle := by
    obtain ⟨_, -, -, rfl⟩ := step_eq_ok stepped
    exact Nat.succ_pos s.cycle
  have complete := runningNext.complete begun
  constructor
  · intro subscription listed
    rw [running.counts_slot valid census stepped left first last Bills.charges_usage,
      running.counts_slot valid census stepped left first last Bills.charges_periodic,
      Roster.due_key complete.sound.roster listed, Roster.due_key complete.sound.roster listed]
    cases subscription.isEmpty <;> cases subscription.tariff.periodicPayment == 0 <;>
      exact ⟨rfl, rfl⟩
  · intro number plan found
    rw [running.counts_slot valid census stepped left first last Bills.charges_usage,
      Roster.sum_due]
    exact complete.conserved (plan.customer number)
      (Scenario.mem_people.2 ⟨number, plan, found, rfl⟩)

theorem slot_billed_once_baseline :
    ∃ summary next,
      (fresh Scenario.baseline : Simulation ChaChaStream Float).step = (.ok summary, next) ∧
      ((next.afterCalls 2).books.journal.counts 23 TransactionKind.isUsage
        (·.customer == ⟨0⟩)).sum = 1000 := by
  have valid : (Scenario.baseline : Scenario Float).problems = [] := by decide +kernel
  have small : (Scenario.baseline.customers.map
      fun plan : CustomerPlan Float => plan.population).sum < 2 ^ 63 := by decide
  obtain ⟨summary, next, stepped⟩ := exists_step_ok (G := ChaChaStream) valid
    (Scenario.census_of_valid valid small) (by decide) 0
  obtain ⟨-, sums⟩ := slot_billed_once _ valid small 0 _ rfl stepped (by decide) 23 (by decide)
    (by decide) 2
  exact ⟨summary, next, stepped, sums 0 .village rfl⟩

end Simulation

end RetailMarket
