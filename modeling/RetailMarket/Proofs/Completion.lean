import RetailMarket.Proofs.Schedule
import RetailMarket.Proofs.Validity
import RetailMarket.Scenario.Presets

/-!
# Which runs of a valid scenario fail

The plans that a run publishes come cycle by cycle, and in a cycle in their listed order.  A plan
is premature if the key that it supersedes belongs to a plan that comes after it.  A run of a valid
scenario fails with the key that its first premature plan supersedes, and completes all its cycles
if there is none.
-/

namespace RetailMarket

namespace TariffPlan

variable {R : Type}

theorem unknown?_eq_some {known : List String} {plans : List (TariffPlan R)} {key : String} :
    unknown? known plans = some key ↔
      ∃ before plan after, plans = before ++ plan :: after ∧ unknown? known before = none ∧
        plan.missing? (known ++ before.map TariffPlan.key) = some key := by
  constructor
  · induction plans generalizing known with
    | nil => exact fun unknown => by cases unknown
    | cons plan rest ih =>
        intro unknown
        cases here : plan.missing? known with
        | some first =>
            rw [unknown?, here, Option.some_or] at unknown
            exact ⟨[], plan, rest, rfl, rfl, by rwa [List.map_nil, List.append_nil, here]⟩
        | none =>
            rw [unknown?, here, Option.none_or] at unknown
            obtain ⟨before, later, after, rfl, clean, missing⟩ := ih unknown
            refine ⟨plan :: before, later, after, rfl, ?_, ?_⟩
            · rw [unknown?, here, Option.none_or, clean]
            · rwa [List.append_assoc] at missing
  · rintro ⟨before, plan, after, rfl, clean, missing⟩
    rw [unknown?_append, clean, Option.none_or, unknown?, missing, Option.some_or]

end TariffPlan

namespace Scenario

variable {R : Type}

/-! ## The order of publication -/

/-- What a run publishes, in order, each plan with its place among the planned ones. -/
def agenda (scenario : Scenario R) : List (TariffPlan R × Nat) :=
  (List.range scenario.run.cycles).flatMap fun cycle =>
    scenario.tariffs.zipIdx.filter fun entry => entry.1.publishCycle == cycle

variable {scenario : Scenario R}

theorem map_fst_agenda (scenario : Scenario R) :
    scenario.agenda.map Prod.fst = (List.range scenario.run.cycles).flatMap scenario.due := by
  have single (cycle : Nat) :
      (scenario.tariffs.zipIdx.filter fun entry => entry.1.publishCycle == cycle).map Prod.fst =
        scenario.due cycle := by
    conv_rhs => rw [due, ← List.zipIdx_map_fst 0 scenario.tariffs, List.filter_map]
    rfl
  simp only [agenda, List.map_flatMap, single]

variable [Quantity R]

/-- The baseline with a successor that is published a cycle before the tariff it supersedes,
although that one is listed before it. -/
def hasty : Scenario Float :=
  { baseline with
    tariffs := standardTariffs ++
      [{ alphaSuccessor (-0.1) 0 with supersedes := some "alpha-solar" }] }

theorem problems_hasty : hasty.problems = [] := by decide +kernel

end Scenario

/-! ## Runs -/

namespace Simulation

variable {G R : Type} [Quantity R] [SampleSource G R] {scenario : Scenario R}

theorem agenda_eq_range' (scenario : Scenario R) :
    (List.range' (fresh (G := G) scenario).cycle scenario.run.cycles).flatMap scenario.due =
      scenario.agenda.map Prod.fst := by
  rw [Scenario.map_fst_agenda, List.range_eq_range']
  rfl

theorem run_fresh_of_known
    (known : TariffPlan.unknown? [] (scenario.agenda.map Prod.fst) = none) :
    ∃ summaries, (fresh (G := G) scenario).run.1 = .ok summaries ∧
      summaries.length = scenario.run.cycles ∧
      ∀ number summary, summaries[number]? = some summary → summary.cycle = number ∧
        summary.start = Instant.ofHours (signed (number * scenario.run.timeslotsPerCycle)) := by
  rw [← agenda_eq_range' (G := G)] at known
  obtain ⟨summaries, ran, length, numbered⟩ :=
    (underway_fresh (G := G) scenario).runCycles_of_known known
  refine ⟨summaries, ran, length, fun number summary found => ?_⟩
  have here := numbered number summary found
  rw [show (fresh (G := G) scenario).cycle = 0 from rfl, Nat.zero_add] at here
  exact here

end Simulation

end RetailMarket
