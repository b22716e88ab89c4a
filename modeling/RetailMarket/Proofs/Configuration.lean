import RetailMarket.Customer.Scripted
import RetailMarket.Proofs.MeasuredQuantity
import RetailMarket.Proofs.Validity
import RetailMarket.Scenario.Presets
import RetailMarket.Simulation.State

/-!
# The settings in use

A scenario is checked before it is run, and an evaluator checks each of its settings when it is
made.  The two checks of a setting refuse the same numbers, so that a valid scenario is run with its
own settings.  They differ on what is not a number: it is no problem of a scenario to have it for the
preferred duration or for the weight of a price, but the evaluator refuses it and keeps its standard
value.
-/

namespace RetailMarket

/-! ## What a valid scenario sets -/

namespace Scenario

variable {R : Type} [Quantity R] {scenario : Scenario R}

theorem choice_of_valid (valid : scenario.problems = []) :
    0 < scenario.choice.chunkSize ∧ 0 < scenario.choice.maxChunkCount ∧
      Quantity.within 0 1 scenario.choice.rationality = true ∧
      ¬ scenario.choice.preferredDays ≤ 0 := by
  have sections := sectionProblems_of_valid valid
  simp only [sectionProblems, List.append_eq_nil_iff, reject_eq_nil, outside, Bool.not_eq_true',
    Bool.not_eq_false, and_assoc] at sections
  obtain ⟨-, -, -, size, most, rational, -, days, -⟩ := sections
  exact ⟨Nat.pos_of_ne_zero size, Nat.pos_of_ne_zero most, rational, days⟩

theorem regulation_of_valid (valid : scenario.problems = []) :
    ¬ 0 < scenario.regulation.curtailment ∧ ¬ 0 < scenario.regulation.discharge ∧
      ¬ scenario.regulation.absorption < 0 := by
  have sections := sectionProblems_of_valid valid
  simp only [sectionProblems, List.append_eq_nil_iff, reject_eq_nil, and_assoc] at sections
  obtain ⟨-, -, -, -, -, -, -, -, curtailment, discharge, absorption, -⟩ := sections
  exact ⟨curtailment, discharge, absorption⟩

theorem prices_of_valid (valid : scenario.problems = []) :
    ¬ scenario.prices.mean < 0 ∧ ¬ scenario.prices.worst < 0 ∧
      ¬ scenario.prices.mean + scenario.prices.worst ≤ 0 := by
  have sections := sectionProblems_of_valid valid
  simp only [sectionProblems, List.append_eq_nil_iff, reject_eq_nil, not_or] at sections
  exact sections.2

end Scenario

/-! ## What the setters make of it -/

namespace Forecaster

variable {R : Type} [Quantity R] [NonnegativeSums R]

theorem setWeights_eq (forecaster : Forecaster R) {mean worst : R} (first : ¬ mean < 0)
    (second : ¬ worst < 0) (sum : ¬ mean + worst ≤ 0) :
    forecaster.setWeights mean worst =
      if Quantity.isNaN mean || Quantity.isNaN worst then forecaster
      else forecaster.withShares mean worst := by
  have numbers := NonnegativeSums.isNaN_add first second
  unfold setWeights
  cases unsound : Quantity.isNaN mean || Quantity.isNaN worst with
  | true =>
      rw [unsound] at numbers
      refine if_neg fun usable => ?_
      rw [NonnegativeSums.isNaN_of_pos usable.1] at numbers
      cases numbers
  | false =>
      rw [unsound] at numbers
      exact if_pos ⟨NonnegativeSums.pos_of_not_nonpos numbers sum, first, second⟩

end Forecaster

namespace Evaluator

variable {M R : Type} [Quantity R]

section

variable [NonnegativeSums R]

theorem setPreferredDays_eq (e : Evaluator M R) {days : R} (above : ¬ days ≤ 0) :
    e.setPreferredDays days =
      { e with
        settings := { e.settings with
          preferredDays := if Quantity.isNaN days then e.settings.preferredDays else days } } := by
  unfold setPreferredDays
  cases number : Quantity.isNaN days with
  | true =>
      refine if_neg fun positive => ?_
      rw [NonnegativeSums.isNaN_of_pos positive] at number
      cases number
  | false => exact if_pos (NonnegativeSums.pos_of_not_nonpos number above)

theorem setChoice_eq (e : Evaluator M R) {choice : ChoiceSettings R} (size : 0 < choice.chunkSize)
    (most : 0 < choice.maxChunkCount) (rational : Quantity.within 0 1 choice.rationality = true)
    (above : ¬ choice.preferredDays ≤ 0) :
    e.setChoice choice =
      { e with
        settings := { choice with
          preferredDays :=
            if Quantity.isNaN choice.preferredDays then e.settings.preferredDays
            else choice.preferredDays }
        cache := e.cache.setBypass choice.evaluateAll } := by
  rw [setChoice, setChunkSize, if_pos size, setMaxChunkCount, if_pos most]
  dsimp only [setDepth, setInertia, setSignupBonusFactor]
  rw [setRationality, if_pos rational]
  dsimp only [setInconvenienceWeight, setSwitchFactor]
  rw [setPreferredDays_eq _ above]
  rfl

end

theorem setRegulation_eq (e : Evaluator M R) {curtailment discharge absorption : R}
    (first : ¬ 0 < curtailment) (second : ¬ 0 < discharge) (third : ¬ absorption < 0) :
    e.setRegulation curtailment discharge absorption =
      { e with forecaster := e.forecaster.setRegulation curtailment discharge absorption } := by
  rw [setRegulation, if_neg first, if_neg second, if_neg third]

end Evaluator

/-! ## The configured evaluator -/

namespace Simulation

variable {M R : Type} [Quantity R] [NonnegativeSums R]

theorem configure_of_valid {scenario : Scenario R} (valid : scenario.problems = [])
    (customer : Customer) (model : M) :
    configure scenario (Evaluator.standard customer model) =
      let days := scenario.choice.preferredDays
      let prices := scenario.prices
      let expected := scenario.regulation
      let regulated := Forecaster.standard.setRegulation expected.curtailment expected.discharge
        expected.absorption
      { customer, model
        settings := { scenario.choice with
          preferredDays := if Quantity.isNaN days then 6.0 else days }
        weights := { scenario.weights with
          timeOfUse := Quantity.smaller scenario.weights.timeOfUse 0 }
        forecaster :=
          if Quantity.isNaN prices.mean || Quantity.isNaN prices.worst then regulated
          else regulated.withShares prices.mean prices.worst
        cache := ({} : AppraisalCache R).setBypass scenario.choice.evaluateAll } := by
  obtain ⟨size, most, rational, above⟩ := Scenario.choice_of_valid valid
  obtain ⟨curtailment, discharge, absorption⟩ := Scenario.regulation_of_valid valid
  obtain ⟨mean, worst, sum⟩ := Scenario.prices_of_valid valid
  rw [configure, Evaluator.setChoice_eq _ size most rational above, Evaluator.setFeatureWeights,
    Evaluator.setRegulation_eq _ curtailment discharge absorption, Evaluator.setPriceWeights,
    Forecaster.setWeights_eq _ mean worst sum]
  rfl

/-- The settings in use are those of the scenario, except that a preferred duration which is not a
number leaves the standard duration in use, and a weight of a price which is not one the standard
weights.  Weights are used as shares of their sum. -/
theorem validated_settings_used (scenario : Scenario R) (valid : scenario.problems = [])
    (customer : Customer) (model : M) :
    let e := configure scenario (Evaluator.standard customer model)
    let days := scenario.choice.preferredDays
    let prices := scenario.prices
    e.settings =
        { scenario.choice with preferredDays := if Quantity.isNaN days then 6.0 else days } ∧
      e.forecaster.curtailment = scenario.regulation.curtailment ∧
      e.forecaster.discharge = scenario.regulation.discharge ∧
      e.forecaster.absorption = scenario.regulation.absorption ∧
      (e.forecaster.mean, e.forecaster.worst) =
        if Quantity.isNaN prices.mean || Quantity.isNaN prices.worst then
          (0.6 / (0.6 + 0.4), 0.4 / (0.6 + 0.4))
        else (prices.mean / (prices.mean + prices.worst),
          prices.worst / (prices.mean + prices.worst)) := by
  intro e days prices
  have configured : e = _ := configure_of_valid valid customer model
  rw [configured]
  refine ⟨rfl, ?_⟩
  dsimp only
  split <;> exact ⟨rfl, rfl, rfl, rfl⟩

/-- The baseline in smaller chunks, with what is not a number for the preferred duration and for the
weight of the expected price. -/
def undecided : Scenario Float :=
  { (Scenario.baseline : Scenario Float) with
    choice := { (ChoiceSettings.standard : ChoiceSettings Float) with
      chunkSize := 5
      preferredDays := 0.0 / 0.0 }
    prices := { mean := 0.0 / 0.0, worst := 1.0 } }

theorem validated_settings_used_undecided :
    let e := configure undecided
      (Evaluator.standard ((CustomerPlan.village : CustomerPlan Float).customer 0)
        (ScriptedCustomer.standard : ScriptedCustomer Float))
    undecided.problems = [] ∧ e.settings.chunkSize = 5 ∧ e.settings.preferredDays = 6.0 ∧
      e.forecaster.worst = 0.4 / (0.6 + 0.4) := by
  have valid : undecided.problems = [] := by decide +kernel
  have noDays : Quantity.isNaN undecided.choice.preferredDays = true := by decide
  have noWeight : Quantity.isNaN undecided.prices.mean = true := by decide
  obtain ⟨settings, -, -, -, shares⟩ := validated_settings_used undecided valid
    ((CustomerPlan.village : CustomerPlan Float).customer 0)
    (ScriptedCustomer.standard : ScriptedCustomer Float)
  rw [if_pos noDays] at settings
  rw [noWeight, Bool.true_or, if_pos rfl] at shares
  exact ⟨valid, congrArg ChoiceSettings.chunkSize settings,
    congrArg ChoiceSettings.preferredDays settings, congrArg Prod.snd shares⟩

end Simulation

end RetailMarket
