import RetailMarket.Scenario.Plan
import RetailMarket.Scenario.Problem

/-!
# Validation of scenarios

The rules a scenario has to meet before it is run. Every broken rule is reported, in a fixed order:
the sections first, then the customers, then the tariffs, each list in its own order.
-/

namespace RetailMarket

namespace Scenario

variable {R : Type} [Quantity R]

def reject (broken : Prop) [Decidable broken] (field : String) (cause : ProblemCause) :
    List Problem :=
  if broken then [⟨field, cause⟩] else []

def outside (low high x : R) : Bool := !Quantity.within low high x

def hoursBroken (window : DailyWindow) : Bool :=
  decide (23 < window.first) || decide (23 < window.last)

def sectionProblems (scenario : Scenario R) : List Problem :=
  let run := scenario.run
  let choice := scenario.choice
  let expected := scenario.regulation
  let control := scenario.control
  let prices := scenario.prices
  reject (run.cycles = 0) "simulation.cycles" .notPositive
    ++ reject (run.timeslotsPerCycle = 0) "simulation.timeslots_per_cycle" .notPositive
    ++ reject (run.profileHours = 0) "simulation.profile_hours" .notPositive
    ++ reject (choice.chunkSize = 0) "evaluator.chunk_size" .notPositive
    ++ reject (choice.maxChunkCount = 0) "evaluator.max_chunk_count" .notPositive
    ++ reject (outside 0 1 choice.rationality) "evaluator.rationality" .outsideUnit
    ++ reject (outside 0 1 choice.inertia) "evaluator.inertia" .outsideUnit
    ++ reject (choice.preferredDays ≤ 0) "evaluator.preferred_contract_duration_days" .notPositive
    ++ reject (0 < expected.curtailment) "regulation.expected_curtailment" .positive
    ++ reject (0 < expected.discharge) "regulation.expected_discharge" .positive
    ++ reject (expected.absorption < 0) "regulation.expected_down_regulation" .negative
    ++ reject (outside (-1) 2.0 control.ratio) "control.ratio" .outsideControlRange
    ++ reject (outside 0 1 control.balancingShare) "control.balancing_share" .outsideUnit
    ++ reject (hoursBroken control.window) "control" .hoursOutOfRange
    ++ reject (prices.mean < 0 ∨ prices.worst < 0 ∨ prices.mean + prices.worst ≤ 0) "cost"
      .unusableWeights

def customerProblems (scenario : Scenario R) (earlier : List (CustomerPlan R)) (path : String)
    (customer : CustomerPlan R) : List Problem :=
  reject (earlier.any fun c => c.name == customer.name) (path ++ ".name")
      (.duplicateName customer.name)
    ++ reject (customer.population = 0) (path ++ ".population") .notPositive
    ++ reject (customer.shape.noise < 0) (path ++ ".noise_std") .negative
    ++ reject (scenario.defaultFor customer.powerType).isNone (path ++ ".power_type")
      (.noDefault customer.powerType)

def rateProblems (path : String) (plan : TariffPlan R) : List Problem :=
  reject (plan.peak.any fun peak => hoursBroken peak.window) (path ++ ".peak") .hoursOutOfRange
    ++ reject (plan.tier.any fun tier => decide (tier.threshold ≤ 0)) (path ++ ".tier.threshold")
      .notPositive
    ++ reject (outside 0 1 plan.curtailable) (path ++ ".max_curtailment") .outsideUnit
    ++ reject (plan.minDurationDays < 0) (path ++ ".min_duration_days") .negative

def tariffProblems (scenario : Scenario R) (earlier : List (TariffPlan R)) (path : String)
    (plan : TariffPlan R) : List Problem :=
  let named (key : String) : Bool := scenario.tariffs.any fun t => t.key == key
  let defaultProblems : List Problem :=
    reject (plan.publishCycle ≠ 0) (path ++ ".publish_cycle") .lateDefault
      ++ reject plan.revokeCycle.isSome (path ++ ".revoke_cycle") .revokedDefault
      ++ reject (earlier.any fun t => t.isDefault && t.powerType == plan.powerType)
        (path ++ ".default") (.secondDefault plan.powerType)
  reject (plan.key = "") (path ++ ".key") .emptyKey
    ++ reject (plan.key ≠ "" ∧ (earlier.any fun t => t.key == plan.key) = true) (path ++ ".key")
      (.duplicateKey plan.key)
    ++ rateProblems path plan
    ++ reject (plan.revokeCycle.any fun cycle => decide (cycle < plan.publishCycle))
      (path ++ ".revoke_cycle") .revokedBeforePublication
    ++ (match plan.supersedes with
      | none => []
      | some key =>
        reject (key = plan.key ∨ named key = false) (path ++ ".supersedes") (.noPredecessor key))
    ++ (if plan.isDefault then defaultProblems else [])

/-- Runs a check over a list, with the elements before each and its path. -/
def checkEach {α : Type} (name : String) (check : List α → String → α → List Problem) :
    (earlier : List α) → List α → List Problem
  | _, [] => []
  | earlier, x :: rest =>
    check earlier (name ++ "[" ++ toString earlier.length ++ "]") x
      ++ checkEach name check (earlier ++ [x]) rest

/-- All problems of a scenario; a valid one has none. -/
def problems (scenario : Scenario R) : List Problem :=
  scenario.sectionProblems
    ++ reject (scenario.customers = []) "customers" .noCustomers
    ++ checkEach "customers" scenario.customerProblems [] scenario.customers
    ++ checkEach "tariffs" scenario.tariffProblems [] scenario.tariffs

end Scenario

end RetailMarket
