import RetailMarket.Customer.Sampled
import RetailMarket.Evaluation.Allocation
import RetailMarket.Scenario.Validation

/-!
# The state of a run

A run holds the books, the populations with their evaluators, and what has been published. Here are
its beginning and the parts of a cycle that move members: the schedule of tariffs, the placement on
default tariffs, the evaluations, the settlements and the moves off revoked tariffs.
-/

namespace RetailMarket

/-- Why a cycle cannot be run: a tariff supersedes one that has not been published. -/
inductive CycleError where
  | unknownTariff (key : String)
  deriving DecidableEq, Repr

def CycleError.text : CycleError → String
  | unknownTariff key => "unknown tariff key \x60" ++ key ++ "\x60"

/-- `published` holds the tariffs published so far by key, in order of publication, and `cycle` the
number of cycles run. -/
structure Simulation (G R : Type) where
  scenario : Scenario R
  timetable : Timetable
  books : Books R := {}
  customers : Array (Evaluator (SampledCustomer G R) R)
  published : List (String × TariffId) := []
  cycle : Nat := 0

namespace Simulation

variable {G R : Type} [Quantity R]

/-! ## Setting up -/

def seedStride : UInt64 := 7919

def configure {M : Type} (scenario : Scenario R) (evaluator : Evaluator M R) : Evaluator M R :=
  let expected := scenario.regulation
  ((evaluator.setChoice scenario.choice).setFeatureWeights scenario.weights
    |>.setRegulation expected.curtailment expected.discharge expected.absorption)
    |>.setPriceWeights scenario.prices.mean scenario.prices.worst

def evaluatorOf [SampleSource G R] (scenario : Scenario R) (number : Nat)
    (plan : CustomerPlan R) : Evaluator (SampledCustomer G R) R :=
  let run := scenario.run
  let seed := run.seed + UInt64.ofNat number * seedStride
  configure scenario <| Evaluator.standard (plan.customer number) <|
    SampledCustomer.drawn plan.powerType plan.shape run.profileHours run.brokerSwitchFactor seed

def fresh [SampleSource G R] (scenario : Scenario R) : Simulation G R :=
  { scenario
    timetable :=
      { start := .epoch, slotLength := hourLength,
        slots := scenario.run.cycles * scenario.run.timeslotsPerCycle }
    customers :=
      (scenario.customers.zipIdx.map fun entry => evaluatorOf scenario entry.2 entry.1).toArray }

/-- A run of a valid scenario; of an invalid one the first problem. -/
def start [SampleSource G R] (scenario : Scenario R) : Except Problem (Simulation G R) :=
  match scenario.problems with
  | [] => .ok (fresh scenario)
  | problem :: _ => .error problem

def tariffId? (simulation : Simulation G R) (key : String) : Option TariffId :=
  simulation.published.lookup key

def isFinished (simulation : Simulation G R) : Bool :=
  decide (simulation.scenario.run.cycles ≤ simulation.cycle)

/-! ## Schedule -/

/-- Publishes a planned tariff; it has to be known what it supersedes. -/
def publish (simulation : Simulation G R) (plan : TariffPlan R) :
    Except CycleError (Simulation G R × Nat) :=
  let known : Except CycleError (Option TariffId) :=
    match plan.supersedes with
    | none => .ok none
    | some key =>
      match simulation.tariffId? key with
      | none => .error (.unknownTariff key)
      | some id => .ok (some id)
  match known with
  | .error error => .error error
  | .ok supersedes =>
    let books := simulation.books
    let (id, catalogue) := books.catalogue.nextId
    let tariff := plan.tariff id supersedes
    match catalogue.enter tariff with
    | (false, catalogue) => .ok ({ simulation with books := { books with catalogue } }, 0)
    | (true, catalogue) =>
      let market := if plan.isDefault then books.market.setDefault tariff else books.market
      .ok ({ simulation with
              books := { books with catalogue, market }
              published := simulation.published ++ [(plan.key, id)] }, 1)

/-- Publishes planned tariffs in order up to the first that cannot be; those before it stay. -/
def publishAll (simulation : Simulation G R) :
    List (TariffPlan R) → Except CycleError Nat × Simulation G R
  | [] => (.ok 0, simulation)
  | plan :: rest =>
    match simulation.publish plan with
    | .error error => (.error error, simulation)
    | .ok (next, count) =>
      let (result, last) := publishAll next rest
      (result.map (count + ·), last)

/-- Revokes the published tariff of a plan; how many were revoked. -/
def revoke (simulation : Simulation G R) (plan : TariffPlan R) : Simulation G R × Nat :=
  match simulation.tariffId? plan.key with
  | none => (simulation, 0)
  | some id =>
    let books := simulation.books
    let (revoked, catalogue) := books.market.revoke books.catalogue id
    ({ simulation with books := { books with catalogue } }, if revoked then 1 else 0)

def revokeAll (simulation : Simulation G R) : List (TariffPlan R) → Simulation G R × Nat
  | [] => (simulation, 0)
  | plan :: rest =>
    let (next, count) := simulation.revoke plan
    let (last, more) := revokeAll next rest
    (last, count + more)

/-! ## Members -/

def place (books : Books R) (e : Evaluator (SampledCustomer G R) R) : Books R :=
  match books.market.defaultFor e.customer.powerType with
  | none => books
  | some default => books.direct default e.customer (signed e.customer.population)

def placeAll (simulation : Simulation G R) : Simulation G R :=
  { simulation with books := simulation.customers.toList.foldl place simulation.books }

def settle (simulation : Simulation G R) (now : Instant) : Simulation G R × Nat :=
  let (books, applied) := simulation.books.settle now
  ({ simulation with books }, applied)

def evaluateAll [SampleSource G R] (simulation : Simulation G R) (now : Instant) :
    Simulation G R × Int :=
  let (customers, books) :=
    Evaluator.evaluateEach now simulation.books simulation.customers.toList
  ({ simulation with books, customers := customers.toArray },
    (customers.map Evaluator.allocationBalance).foldr (· + ·) 0)

/-- Directs members off revoked tariffs; how many subscriptions were moved. -/
def migrateAll (simulation : Simulation G R) (now : Instant) : Simulation G R × Nat :=
  let (outcomes, books) :=
    Books.migrateEach now simulation.books simulation.books.roster.toList
  ({ simulation with books }, (outcomes.filter Migration.isMoved).length)

end Simulation

end RetailMarket
