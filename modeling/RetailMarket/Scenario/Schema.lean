import RetailMarket.Document.Toml.Reader
import RetailMarket.Scenario.Presets

/-!
# Scenarios as documents

A scenario is written as a table of sections, with lists of customers and tariffs. Whatever is left
out has the value of the baseline; what the schema does not know is refused. A record may also be
written as the list of its values in order. The formats of documents differ in a few points, which
make up a dialect.
-/

namespace RetailMarket

namespace Document

/-! ## Values -/

def natural? (bound : Nat) : Document → Option Nat
  | integer n => if 0 ≤ n ∧ n < (bound : Int) then some n.toNat else none
  | _ => none

def word? (document : Document) : Option Nat := document.natural? UInt64.size

def hour? (document : Document) : Option Nat := document.natural? UInt32.size

def number? : Document → Option Float
  | number x => some x
  | integer n => some (Float.ofInt n)
  | _ => none

def boolean? : Document → Option Bool
  | boolean b => some b
  | _ => none

def text? : Document → Option String
  | text s => some s
  | _ => none

def listOf? {α : Type} (element? : Document → Option α) : Document → Option (List α)
  | list elements => elements.mapM element?
  | _ => none

def optional? {α : Type} (value? : Document → Option α) : Document → Option (Option α)
  | null => some none
  | document => (value? document).map some

/-! ## Fields of a record -/

def field? {α : Type} (record : List (String × Document)) (name : String)
    (value? : Document → Option α) (default : α) : Option α :=
  match record.lookup name with
  | none => some default
  | some document => value? document

def required? {α : Type} (record : List (String × Document)) (name : String)
    (value? : Document → Option α) : Option α :=
  (record.lookup name).bind value?

end Document

/-- What the formats of documents disagree on: whether the list of a record's values may go on
beyond its fields, and what stands under a label that is written as a key. -/
structure Dialect where
  allowsSurplus : Bool
  isNothing : Document → Bool

namespace Dialect

open Document

def json : Dialect where
  allowsSurplus := false
  isNothing
    | null => true
    | _ => false

def toml : Dialect where
  allowsSurplus := true
  isNothing
    | list [] | table [] => true
    | _ => false

/-- A label, or a table with the label as its one key and nothing under it. -/
def powerType? (dialect : Dialect) : Document → Option PowerType
  | text label => PowerType.ofLabel? label
  | table [(label, document)] =>
    if dialect.isNothing document then PowerType.ofLabel? label else none
  | _ => none

def record? (dialect : Dialect) (names : List String) : Document → Option (List (String × Document))
  | table entries =>
    if entries.all fun entry => names.contains entry.1 then some entries else none
  | list elements =>
    if dialect.allowsSurplus || decide (elements.length ≤ names.length) then
      some (names.zip elements)
    else none
  | _ => none

end Dialect

namespace Scenario

open Document

variable (dialect : Dialect)

/-! ## Sections -/

def run? (document : Document) : Option (RunSettings Float) := do
  let record ← dialect.record?
    ["seed", "cycles", "timeslots_per_cycle", "profile_hours", "broker_switch_factor"] document
  let standard : RunSettings Float := .standard
  return {
    seed := UInt64.ofNat (← field? record "seed" word? standard.seed.toNat)
    cycles := ← field? record "cycles" word? standard.cycles
    timeslotsPerCycle := ← field? record "timeslots_per_cycle" word? standard.timeslotsPerCycle
    profileHours := ← field? record "profile_hours" word? standard.profileHours
    brokerSwitchFactor :=
      ← field? record "broker_switch_factor" number? standard.brokerSwitchFactor }

def choice? (document : Document) : Option (ChoiceSettings Float) := do
  let record ← dialect.record?
    ["chunk_size", "max_chunk_count", "tariff_eval_depth", "inertia", "signup_bonus_factor",
      "rationality", "inconvenience_weight", "tariff_switch_factor",
      "preferred_contract_duration_days", "evaluate_all_tariffs"] document
  let standard : ChoiceSettings Float := .standard
  return {
    chunkSize := ← field? record "chunk_size" word? standard.chunkSize
    maxChunkCount := ← field? record "max_chunk_count" word? standard.maxChunkCount
    depth := ← field? record "tariff_eval_depth" word? standard.depth
    inertia := ← field? record "inertia" number? standard.inertia
    signupBonusFactor := ← field? record "signup_bonus_factor" number? standard.signupBonusFactor
    rationality := ← field? record "rationality" number? standard.rationality
    inconvenienceWeight :=
      ← field? record "inconvenience_weight" number? standard.inconvenienceWeight
    switchFactor := ← field? record "tariff_switch_factor" number? standard.switchFactor
    preferredDays :=
      ← field? record "preferred_contract_duration_days" number? standard.preferredDays
    evaluateAll := ← field? record "evaluate_all_tariffs" boolean? standard.evaluateAll }

def weights? (document : Document) : Option (FeatureWeights Float) := do
  let record ← dialect.record? ["tou", "tiered", "variable", "interruptible"] document
  let standard : FeatureWeights Float := .standard
  return {
    timeOfUse := ← field? record "tou" number? standard.timeOfUse
    tiered := ← field? record "tiered" number? standard.tiered
    ranging := ← field? record "variable" number? standard.ranging
    interruptible := ← field? record "interruptible" number? standard.interruptible }

def expected? (document : Document) : Option (ExpectedRegulation Float) := do
  let record ← dialect.record?
    ["expected_curtailment", "expected_discharge", "expected_down_regulation"] document
  return {
    curtailment := ← field? record "expected_curtailment" number? 0
    discharge := ← field? record "expected_discharge" number? 0
    absorption := ← field? record "expected_down_regulation" number? 0 }

def control? (document : Document) : Option (ControlSettings Float) := do
  let record ← dialect.record? ["ratio", "balancing_share", "begin", "end"] document
  let standard : ControlSettings Float := .none
  let ratio ← field? record "ratio" number? standard.ratio
  let balancingShare ← field? record "balancing_share" number? standard.balancingShare
  let first ← field? record "begin" hour? standard.window.first
  let last ← field? record "end" hour? standard.window.last
  return { ratio, balancingShare, window := ⟨first, last⟩ }

def prices? (document : Document) : Option (PriceWeights Float) := do
  let record ← dialect.record? ["wt_expected", "wt_max"] document
  let standard : PriceWeights Float := .standard
  return {
    mean := ← field? record "wt_expected" number? standard.mean
    worst := ← field? record "wt_max" number? standard.worst }

/-! ## Customers and tariffs -/

def customer? (document : Document) : Option (CustomerPlan Float) := do
  let record ← dialect.record?
    ["name", "population", "power_type", "multi_contracting", "base_kwh", "amplitude_kwh",
      "noise_std"] document
  let standard : CustomerPlan Float := .village
  let base ← field? record "base_kwh" number? standard.shape.base
  let amplitude ← field? record "amplitude_kwh" number? standard.shape.amplitude
  let noise ← field? record "noise_std" number? standard.shape.noise
  return {
    name := ← field? record "name" text? standard.name
    population := ← field? record "population" word? standard.population
    powerType := ← field? record "power_type" dialect.powerType? standard.powerType
    multiContracting := ← field? record "multi_contracting" boolean? standard.multiContracting
    shape := { base, amplitude, noise } }

def priceRange? (document : Document) : Option (PriceRange Float) := do
  let record ← dialect.record? ["expected_mean", "max_value"] document
  return {
    mean := ← required? record "expected_mean" number?
    worst := ← required? record "max_value" number? }

def peak? (document : Document) : Option (PeakRate Float) := do
  let record ← dialect.record? ["begin", "end", "rate"] document
  let first ← required? record "begin" hour?
  let last ← required? record "end" hour?
  return { window := ⟨first, last⟩, price := ← required? record "rate" number? }

def tier? (document : Document) : Option (TierRate Float) := do
  let record ← dialect.record? ["threshold", "rate"] document
  return {
    threshold := ← required? record "threshold" number?
    price := ← required? record "rate" number? }

def regulationRate? (document : Document) : Option (RegulationRate Float) := do
  let record ← dialect.record? ["up", "down"] document
  return {
    up := ← required? record "up" number?
    down := ← required? record "down" number? }

def tariff? (document : Document) : Option (TariffPlan Float) := do
  let record ← dialect.record?
    ["key", "broker", "power_type", "rate", "variable", "peak", "tier", "max_curtailment",
      "regulation", "signup_payment", "early_withdraw_payment", "periodic_payment",
      "min_duration_days", "publish_cycle", "revoke_cycle", "supersedes", "default"] document
  let standard : TariffPlan Float := .standard
  return {
    key := ← field? record "key" text? standard.key
    broker := ← field? record "broker" text? standard.broker
    powerType := ← field? record "power_type" dialect.powerType? standard.powerType
    price := ← field? record "rate" number? standard.price
    range := ← field? record "variable" (optional? (priceRange? dialect)) none
    peak := ← field? record "peak" (optional? (peak? dialect)) none
    tier := ← field? record "tier" (optional? (tier? dialect)) none
    curtailable := ← field? record "max_curtailment" number? standard.curtailable
    regulation := ← field? record "regulation" (optional? (regulationRate? dialect)) none
    signupPayment := ← field? record "signup_payment" number? standard.signupPayment
    earlyWithdrawPayment :=
      ← field? record "early_withdraw_payment" number? standard.earlyWithdrawPayment
    periodicPayment := ← field? record "periodic_payment" number? standard.periodicPayment
    minDurationDays := ← field? record "min_duration_days" number? standard.minDurationDays
    publishCycle := ← field? record "publish_cycle" word? standard.publishCycle
    revokeCycle := ← field? record "revoke_cycle" (optional? word?) none
    supersedes := ← field? record "supersedes" (optional? text?) none
    isDefault := ← field? record "default" boolean? standard.isDefault }

/-! ## Scenarios -/

def ofDocument? (document : Document) : Option (Scenario Float) := do
  let record ← dialect.record?
    ["simulation", "evaluator", "inconvenience", "regulation", "control", "cost", "customers",
      "tariffs"] document
  let standard : Scenario Float := baseline
  return {
    run := ← field? record "simulation" (run? dialect) standard.run
    choice := ← field? record "evaluator" (choice? dialect) standard.choice
    weights := ← field? record "inconvenience" (weights? dialect) standard.weights
    regulation := ← field? record "regulation" (expected? dialect) standard.regulation
    control := ← field? record "control" (control? dialect) standard.control
    prices := ← field? record "cost" (prices? dialect) standard.prices
    customers := ← field? record "customers" (listOf? (customer? dialect)) standard.customers
    tariffs := ← field? record "tariffs" (listOf? (tariff? dialect)) standard.tariffs }

def ofToml (text : String) : Except Problem (Scenario Float) :=
  match (Toml.read text).bind (ofDocument? .toml) with
  | some scenario => .ok scenario
  | none => .error ⟨"toml", .malformed⟩

end Scenario

end RetailMarket
