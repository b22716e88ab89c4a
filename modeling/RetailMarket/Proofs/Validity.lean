import Mathlib
import RetailMarket.Scenario.Validation

/-!
# What a valid scenario provides

A scenario without problems has only populations with members, each of which is served by a default
tariff.  No power type has two defaults; they are published in the first cycle and never revoked, and
no tariff is revoked before it is published.
-/

namespace RetailMarket

namespace Scenario

theorem reject_eq_nil {broken : Prop} [Decidable broken] {field : String} {cause : ProblemCause} :
    reject broken field cause = [] ↔ ¬ broken := by
  unfold reject
  split <;> simp_all

theorem exists_of_checkEach_append_eq_nil {α : Type} {name : String}
    {check : List α → String → α → List Problem} {earlier before after : List α} {x : α}
    (clean : checkEach name check earlier (before ++ x :: after) = []) :
    ∃ path, check (earlier ++ before) path x = [] := by
  induction before generalizing earlier with
  | nil =>
      simp only [List.nil_append, checkEach, List.append_eq_nil_iff] at clean
      rw [List.append_nil]
      exact ⟨_, clean.1⟩
  | cons first rest ih =>
      simp only [List.cons_append, checkEach, List.append_eq_nil_iff] at clean
      obtain ⟨path, passed⟩ := ih clean.2
      rw [List.append_assoc, List.singleton_append] at passed
      exact ⟨path, passed⟩

theorem exists_of_checkEach_eq_nil {α : Type} {name : String}
    {check : List α → String → α → List Problem} {earlier xs : List α}
    (clean : checkEach name check earlier xs = []) {x : α} (listed : x ∈ xs) :
    ∃ before path, check before path x = [] := by
  obtain ⟨before, after, rfl⟩ := List.append_of_mem listed
  exact ⟨_, exists_of_checkEach_append_eq_nil clean⟩

theorem pairwise_of_checkEach {α : Type} {name : String}
    {check : List α → String → α → List Problem} {apart : α → α → Prop} {xs : List α}
    (refuses : ∀ before path x, check before path x = [] → ∀ other ∈ before, apart other x)
    (clean : checkEach name check [] xs = []) : xs.Pairwise apart := by
  rw [List.pairwise_iff_getElem]
  intro first second inside inside' earlier
  have split : xs = xs.take second ++ xs[second] :: xs.drop (second + 1) := by
    rw [List.getElem_cons_drop, List.take_append_drop]
  rw [split] at clean
  obtain ⟨path, passed⟩ := exists_of_checkEach_append_eq_nil clean
  refine refuses _ path _ passed _ ?_
  exact List.mem_take_iff_getElem.2 ⟨first, by omega, rfl⟩

variable {R : Type} [Quantity R] {scenario : Scenario R}

theorem sectionProblems_of_valid (valid : scenario.problems = []) :
    scenario.sectionProblems = [] := by
  simp only [problems, List.append_eq_nil_iff] at valid
  exact valid.1.1.1

theorem exists_customerProblems_of_valid (valid : scenario.problems = []) {plan : CustomerPlan R}
    (listed : plan ∈ scenario.customers) :
    ∃ before path, scenario.customerProblems before path plan = [] := by
  simp only [problems, List.append_eq_nil_iff] at valid
  exact exists_of_checkEach_eq_nil valid.1.2 listed

theorem exists_tariffProblems_of_valid (valid : scenario.problems = []) {plan : TariffPlan R}
    (listed : plan ∈ scenario.tariffs) :
    ∃ before path, scenario.tariffProblems before path plan = [] := by
  simp only [problems, List.append_eq_nil_iff] at valid
  exact exists_of_checkEach_eq_nil valid.2 listed

theorem timeslotsPerCycle_of_valid (valid : scenario.problems = []) :
    0 < scenario.run.timeslotsPerCycle := by
  have sections := sectionProblems_of_valid valid
  simp only [sectionProblems, List.append_eq_nil_iff, reject_eq_nil] at sections
  exact Nat.pos_of_ne_zero fun none => by simp only [none, not_true, false_and, and_false] at sections

theorem customer_of_valid (valid : scenario.problems = []) {plan : CustomerPlan R}
    (listed : plan ∈ scenario.customers) :
    0 < plan.population ∧ (scenario.defaultFor plan.powerType).isSome := by
  obtain ⟨before, path, clean⟩ := exists_customerProblems_of_valid valid listed
  simp only [customerProblems, List.append_eq_nil_iff, reject_eq_nil] at clean
  obtain ⟨⟨⟨-, populated⟩, -⟩, served⟩ := clean
  refine ⟨Nat.pos_of_ne_zero populated, ?_⟩
  simpa [Option.isSome_iff_ne_none] using served

theorem publishCycle_of_valid (valid : scenario.problems = []) {plan : TariffPlan R}
    (listed : plan ∈ scenario.tariffs) (default : plan.isDefault = true) :
    plan.publishCycle = 0 := by
  obtain ⟨before, path, clean⟩ := exists_tariffProblems_of_valid valid listed
  simp only [tariffProblems, List.append_eq_nil_iff, default, if_true, reject_eq_nil] at clean
  exact not_not.1 clean.2.1.1

theorem revokeCycle_of_valid (valid : scenario.problems = []) {plan : TariffPlan R}
    (listed : plan ∈ scenario.tariffs) {cycle : Nat} (revoked : plan.revokeCycle = some cycle) :
    plan.publishCycle ≤ cycle ∧ plan.isDefault = false := by
  obtain ⟨before, path, clean⟩ := exists_tariffProblems_of_valid valid listed
  simp only [tariffProblems, List.append_eq_nil_iff, revoked, Option.any_some, reject_eq_nil,
    decide_eq_true_eq, not_lt] at clean
  refine ⟨clean.1.1.2, ?_⟩
  have withdrawn := clean.2
  split at withdrawn
  · simp [reject] at withdrawn
  · rename_i offered
    exact Bool.eq_false_iff.2 offered

theorem exists_default_of_valid (valid : scenario.problems = []) {plan : CustomerPlan R}
    (listed : plan ∈ scenario.customers) :
    ∃ tariff ∈ scenario.tariffs, tariff.isDefault = true ∧ tariff.publishCycle = 0 ∧
      (tariff.powerType = plan.powerType ∨ tariff.powerType = plan.powerType.generic) := by
  obtain ⟨tariff, found⟩ := Option.isSome_iff_exists.1 (customer_of_valid valid listed).2
  have source (powerType : PowerType)
      (hit : scenario.tariffs.find? (fun t => t.isDefault && t.powerType == powerType) =
        some tariff) :
      tariff ∈ scenario.tariffs ∧ tariff.isDefault = true ∧ tariff.powerType = powerType := by
    have eligible := List.find?_some hit
    simp only [Bool.and_eq_true, beq_iff_eq] at eligible
    exact ⟨List.mem_of_find?_eq_some hit, eligible⟩
  rw [defaultFor, Option.or_eq_some_iff] at found
  rcases found with own | ⟨-, generic⟩
  · obtain ⟨member, default, same⟩ := source _ own
    exact ⟨tariff, member, default, publishCycle_of_valid valid member default, .inl same⟩
  · obtain ⟨member, default, same⟩ := source _ generic
    exact ⟨tariff, member, default, publishCycle_of_valid valid member default, .inr same⟩

theorem pairwise_defaults_of_valid (valid : scenario.problems = []) :
    scenario.tariffs.Pairwise fun first second =>
      first.isDefault = true → second.isDefault = true → first.powerType ≠ second.powerType := by
  simp only [problems, List.append_eq_nil_iff] at valid
  refine pairwise_of_checkEach (fun before path plan clean other earlier default own same => ?_)
    valid.2
  simp only [tariffProblems, List.append_eq_nil_iff, own, if_true, reject_eq_nil] at clean
  refine clean.2.2 (List.any_eq_true.2 ⟨other, earlier, ?_⟩)
  simp [default, same]

theorem eq_of_defaults (valid : scenario.problems = []) {first second : TariffPlan R}
    (listed : first ∈ scenario.tariffs) (listed' : second ∈ scenario.tariffs)
    (default : first.isDefault = true) (default' : second.isDefault = true)
    (same : first.powerType = second.powerType) : first = second := by
  by_contra different
  let Apart (first second : TariffPlan R) : Prop :=
    first.isDefault = true → second.isDefault = true → first.powerType ≠ second.powerType
  have symmetric : Std.Symm Apart :=
    ⟨fun _ _ apart default default' => (apart default' default).symm⟩
  have apart : scenario.tariffs.Pairwise Apart := pairwise_defaults_of_valid valid
  exact apart.forall listed listed' different default default' same

/-! ## Control -/

theorem balancingShare_of_valid (valid : scenario.problems = []) :
    0 ≤ scenario.control.balancingShare ∧ scenario.control.balancingShare ≤ 1 := by
  have sections := sectionProblems_of_valid valid
  simp only [sectionProblems, List.append_eq_nil_iff, reject_eq_nil, outside,
    Bool.not_eq_true', Bool.not_eq_false, Quantity.within, Bool.and_eq_true,
    decide_eq_true_eq] at sections
  exact sections.1.1.2

theorem curtailable_of_valid (valid : scenario.problems = []) {plan : TariffPlan R}
    (listed : plan ∈ scenario.tariffs) : 0 ≤ plan.curtailable ∧ plan.curtailable ≤ 1 := by
  obtain ⟨before, path, clean⟩ := exists_tariffProblems_of_valid valid listed
  simp only [tariffProblems, rateProblems, List.append_eq_nil_iff, reject_eq_nil, outside,
    Bool.not_eq_true', Bool.not_eq_false, Quantity.within, Bool.and_eq_true,
    decide_eq_true_eq] at clean
  exact clean.1.1.1.2.1.2

/-! ## Rates -/

theorem peak_of_valid (valid : scenario.problems = []) {plan : TariffPlan R}
    (listed : plan ∈ scenario.tariffs) {peak : PeakRate R} (set : plan.peak = some peak) :
    peak.window.first < 24 ∧ peak.window.last < 24 := by
  obtain ⟨before, path, clean⟩ := exists_tariffProblems_of_valid valid listed
  simp only [tariffProblems, rateProblems, List.append_eq_nil_iff, reject_eq_nil, set,
    Option.any_some, hoursBroken, Bool.or_eq_true, decide_eq_true_eq, not_or, not_lt] at clean
  obtain ⟨first, last⟩ := clean.1.1.1.2.1.1.1
  exact ⟨Nat.lt_succ_of_le first, Nat.lt_succ_of_le last⟩

theorem threshold_of_valid (valid : scenario.problems = []) {plan : TariffPlan R}
    (listed : plan ∈ scenario.tariffs) {tier : TierRate R} (set : plan.tier = some tier) :
    ¬ tier.threshold ≤ 0 := by
  obtain ⟨before, path, clean⟩ := exists_tariffProblems_of_valid valid listed
  simp only [tariffProblems, rateProblems, List.append_eq_nil_iff, reject_eq_nil, set,
    Option.any_some, decide_eq_true_eq] at clean
  exact clean.1.1.1.2.1.1.2

/-! ## Keys -/

theorem nodup_keys_of_valid (valid : scenario.problems = []) :
    (scenario.tariffs.map TariffPlan.key).Nodup := by
  simp only [problems, List.append_eq_nil_iff] at valid
  rw [List.Nodup, List.pairwise_map]
  refine pairwise_of_checkEach (fun before path plan clean other earlier same => ?_) valid.2
  simp only [tariffProblems, List.append_eq_nil_iff, reject_eq_nil] at clean
  obtain ⟨named, unique⟩ := clean.1.1.1.1
  exact unique ⟨named, List.any_eq_true.2 ⟨other, earlier, by simpa using same⟩⟩

end Scenario

end RetailMarket
