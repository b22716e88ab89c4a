import RetailMarket.Proofs.Charges
import RetailMarket.Proofs.Hours
import RetailMarket.Proofs.MeasuredQuantity
import RetailMarket.Proofs.Planned

/-!
# Precedence of rates

The tariff of a plan lists the base rate first, then the peak rate, then the tier rate.  Of the
rates that cover a usage the last one of the highest tier is in effect.  So a tier that is reached
goes before the peak rate, and that one goes before the base rate in the hours of its window.
-/

namespace RetailMarket

/-! ## Hours of a window -/

namespace DailyWindow

def span (window : DailyWindow) : Nat :=
  if window.first = window.last then 24 else (window.last + 24 - window.first) % 24

/-- The hours of a window one after another, past midnight if need be. -/
def hours (window : DailyWindow) : List Nat :=
  (List.range window.span).map fun passed => (window.first + passed) % 24

variable {window : DailyWindow} {hour : Nat}

theorem mem_hours_iff (first : window.first < 24) (ofDay : hour < 24) :
    hour ∈ window.hours ↔ (hour + 24 - window.first) % 24 < window.span := by
  have day : window.span ≤ 24 := by
    unfold span
    split <;> omega
  simp only [hours, List.mem_map, List.mem_range]
  constructor
  · rintro ⟨passed, inside, rfl⟩
    omega
  · exact fun inside => ⟨_, inside, by omega⟩

theorem contains_iff (first : window.first < 24) (last : window.last < 24) (ofDay : hour < 24) :
    window.contains hour = true ↔ hour ∈ window.hours := by
  rw [mem_hours_iff first ofDay]
  unfold contains span
  split
  · simp only [true_iff]
    omega
  · split
    · simp only [Bool.and_eq_true, decide_eq_true_eq]
      omega
    · simp only [Bool.or_eq_true, decide_eq_true_eq]
      omega

end DailyWindow

/-! ## The rates of a plan -/

theorem lastGreatest?_append_toList {α : Type} {atMost : α → α → Bool} {xs : List α} {best : α}
    (found : lastGreatest? atMost xs = some best) {later : Option α}
    (above : ∀ x ∈ later, atMost best x = true) :
    lastGreatest? atMost (xs ++ later.toList) = some (later.getD best) := by
  cases later with
  | none => rw [Option.toList_none, List.append_nil, found, Option.getD_none]
  | some x =>
      unfold lastGreatest? at found ⊢
      rw [List.foldl_append, found]
      exact if_pos (above x rfl)

namespace TariffPlan

variable {R : Type} [Quantity R] (plan : TariffPlan R)

def baseRate : Rate R :=
  { Rate.fixed plan.price with range := plan.range, curtailable := plan.curtailable }

def peakRate? : Option (Rate R) :=
  plan.peak.map fun peak =>
    { Rate.fixed peak.price with window := some peak.window, curtailable := plan.curtailable }

def tierRate? : Option (Rate R) :=
  plan.tier.map fun tier =>
    { Rate.fixed tier.price with threshold := tier.threshold, curtailable := plan.curtailable }

theorem rates_tariff (id : TariffId) (supersedes : Option TariffId) :
    (plan.tariff id supersedes).rates =
      [plan.baseRate] ++ plan.peakRate?.toList ++ plan.tierRate?.toList := by
  unfold tariff baseRate peakRate? tierRate?
  cases plan.peak <;> cases plan.tier <;> rfl

def basePrice : R := plan.range.elim plan.price PriceRange.mean

/-- What a plan promises for an hour of the day and a usage: the price of the tier if the usage
reaches it, else the price of the peak if the hour is in its window, else the base price. -/
def promised (hour : Nat) (kwh : R) : R :=
  let tier := plan.tier.filter fun tier => decide (tier.threshold ≤ Quantity.magnitude kwh)
  let peak := plan.peak.filter fun peak => decide (hour ∈ peak.window.hours)
  (tier.map TierRate.price).getD ((peak.map PeakRate.price).getD plan.basePrice)

def selected (hour : Nat) (kwh : R) : Rate R :=
  let covered := Tariff.covers hour kwh
  (plan.tierRate?.filter covered).getD ((plan.peakRate?.filter covered).getD plan.baseRate)

variable {plan}

theorem rateAt_tariff [SidesOfZero R] (id : TariffId) (supersedes : Option TariffId)
    (positive : ∀ tier, plan.tier = some tier → ¬ tier.threshold ≤ 0) (time : Instant) {kwh : R}
    (number : Quantity.isNaN kwh = false) :
    (plan.tariff id supersedes).rateAt time kwh = some (plan.selected time.hourOfDay kwh) := by
  let covered : Rate R → Bool := Tariff.covers time.hourOfDay kwh
  have all : covered plan.baseRate = true := decide_eq_true (Quantity.magnitude_nonneg number)
  have untiered : ∀ rate ∈ plan.peakRate?.filter covered, rate.threshold = 0 := by
    intro rate member
    obtain ⟨peak, -, rfl⟩ := Option.map_eq_some_iff.1 (Option.mem_filter_iff.1 member).1
    rfl
  have lowest : ((plan.peakRate?.filter covered).getD plan.baseRate).threshold = 0 := by
    cases peak : plan.peakRate?.filter covered with
    | none => rfl
    | some rate => exact untiered rate peak
  unfold Tariff.rateAt
  rw [rates_tariff, List.filter_append, List.filter_append, List.filter_cons_of_pos all,
    List.filter_nil, ← Option.toList_filter, ← Option.toList_filter]
  refine lastGreatest?_append_toList (lastGreatest?_append_toList rfl ?_) ?_
  · intro rate member
    rw [untiered rate member]
    exact SidesOfZero.ranks_zero
  · intro rate member
    obtain ⟨listed, reached⟩ := Option.mem_filter_iff.1 member
    obtain ⟨tier, set, rfl⟩ := Option.map_eq_some_iff.1 listed
    rw [lowest]
    exact SidesOfZero.ranks_positive (of_decide_eq_true reached) (positive tier set)

omit [Quantity R] in
theorem settled_getD {α : Type} {set : Option α} {rate : α → Rate R} {price : α → R}
    {covered : Rate R → Bool} {holds : α → Bool} {other : Rate R} {rest : R}
    (same : ∀ x ∈ set, covered (rate x) = holds x) (priced : ∀ x, (rate x).settled = price x)
    (settled : other.settled = rest) :
    (((set.map rate).filter covered).getD other).settled =
      ((set.filter holds).map price).getD rest := by
  cases set with
  | none => exact settled
  | some x =>
      rw [Option.map_some, Option.filter_some, Option.filter_some, same x rfl]
      split
      · exact priced x
      · exact settled

theorem settled_selected [SidesOfZero R]
    (windows : ∀ peak, plan.peak = some peak → peak.window.first < 24 ∧ peak.window.last < 24)
    {hour : Nat} (ofDay : hour < 24) {kwh : R} (number : Quantity.isNaN kwh = false) :
    (plan.selected hour kwh).settled = plan.promised hour kwh := by
  have base : plan.baseRate.settled = plan.basePrice := by
    unfold Rate.settled basePrice
    cases range : plan.range <;> simp [baseRate, range, Rate.fixed]
  refine settled_getD (fun tier _ => rfl) (fun tier => rfl)
    (settled_getD (fun peak set => ?_) (fun peak => rfl) base)
  obtain ⟨first, last⟩ := windows peak set
  have untiered : decide ((0 : R) ≤ Quantity.magnitude kwh) = true :=
    decide_eq_true (Quantity.magnitude_nonneg number)
  have covers : Tariff.covers hour kwh
      { Rate.fixed peak.price with window := some peak.window, curtailable := plan.curtailable } =
        (peak.window.contains hour && decide ((0 : R) ≤ Quantity.magnitude kwh)) := rfl
  rw [covers, untiered, Bool.and_true, Bool.eq_iff_iff, decide_eq_true_eq]
  exact DailyWindow.contains_iff first last ofDay

/-- Whatever is planned for tiers and peaks, some rate is in effect for every usage that is a
number.  It is charged at the price that is promised, and with any of them the same share may be
curtailed. -/
theorem charges_as_promised [SidesOfZero R] {scenario : Scenario R}
    (valid : scenario.problems = []) (listed : plan ∈ scenario.tariffs) (id : TariffId)
    (supersedes : Option TariffId) (time : Instant) {kwh : R}
    (number : Quantity.isNaN kwh = false) :
    let tariff := plan.tariff id supersedes
    let price := plan.promised time.hourOfDay kwh
    ∃ rate, tariff.rateAt time kwh = some rate ∧ rate.settled = price ∧
      tariff.usageCharge time kwh = Tariff.usageSign plan.powerType * kwh * price ∧
      tariff.maxUpRegulation time kwh =
        if plan.powerType.isInterruptible then kwh * plan.curtailable else 0 := by
  intro tariff price
  have found : tariff.rateAt time kwh = some (plan.selected time.hourOfDay kwh) :=
    rateAt_tariff id supersedes (fun _ => Scenario.threshold_of_valid valid listed) time number
  have settled : (plan.selected time.hourOfDay kwh).settled = price :=
    settled_selected (fun _ => Scenario.peak_of_valid valid listed) time.hourOfDay_lt number
  refine ⟨_, found, settled, ?_, ?_⟩
  · simp only [Tariff.usageCharge, Tariff.usageChargeBy, found, settled]
    rfl
  · have share := plan.curtailable_of_mem_rates id supersedes (Tariff.mem_of_rateAt found)
    simp only [Tariff.maxUpRegulation, found, share]
    rfl

def nightPeak : TariffPlan Float :=
  { (Scenario.gammaFlex : TariffPlan Float) with
    range := some { mean := -0.12, worst := -0.3 }
    peak := some { window := ⟨22, 6⟩, price := -0.2 }
    tier := some { threshold := 100, price := -0.08 } }

/-- An hour before the epoch the peak goes before the base rate, and for much energy the tier goes
before the peak. -/
theorem charges_as_promised_nightPeak :
    let scenario : Scenario Float :=
      { Scenario.revocation with tariffs := Scenario.standardTariffs ++ [nightPeak] }
    let tariff := nightPeak.tariff ⟨4⟩ none
    let night : Instant := ⟨-3599999⟩
    scenario.problems = [] ∧ nightPeak ∈ scenario.tariffs ∧
      Quantity.isNaN (40 : Float) = false ∧ Quantity.isNaN (-140 : Float) = false ∧
      tariff.usageCharge night 40 = 1 * 40 * -0.2 ∧
      tariff.maxUpRegulation night 40 = 40 * 0.3 ∧
      tariff.usageCharge night (-140) = 1 * -140 * -0.08 ∧
      tariff.usageCharge (night.plusHours 12) 40 = 1 * 40 * -0.12 := by
  intro scenario tariff night
  have valid : scenario.problems = [] := by decide +kernel
  have listed : nightPeak ∈ scenario.tariffs := List.mem_append_right _ (List.mem_singleton_self _)
  have few : Quantity.isNaN (40 : Float) = false := by decide
  have many : Quantity.isNaN (-140 : Float) = false := by decide
  obtain ⟨-, -, -, peak, share⟩ := charges_as_promised valid listed ⟨4⟩ none night few
  obtain ⟨-, -, -, tier, -⟩ := charges_as_promised valid listed ⟨4⟩ none night many
  obtain ⟨-, -, -, base, -⟩ :=
    charges_as_promised valid listed ⟨4⟩ none (night.plusHours 12) few
  refine ⟨valid, listed, few, many, ?_, share, ?_, ?_⟩
  · rw [show nightPeak.promised night.hourOfDay 40 = -0.2 by rfl] at peak
    exact peak
  · rw [show nightPeak.promised night.hourOfDay (-140) = -0.08 by rfl] at tier
    exact tier
  · rw [show nightPeak.promised (night.plusHours 12).hourOfDay 40 = -0.12 by rfl] at base
    exact base

end TariffPlan

end RetailMarket
