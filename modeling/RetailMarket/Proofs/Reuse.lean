import RetailMarket.Customer.Sampled
import RetailMarket.Proofs.Recorder

/-!
# Reuse of appraisals

If what a model expects of a tariff does not change, then an evaluator that keeps its appraisals
decides as one that appraises every tariff anew in every evaluation.  Whatever either has in its
cache is what it would find again, and the length of the last profile is the same for all.
-/

namespace RetailMarket

variable {M R : Type}

/-! ## Steady models -/

section

variable [CustomerModel M R]

/-- The states to which samples and transfers can bring a model. -/
inductive Reachable (start : M) : M → Prop where
  | start : Reachable start start
  | choiceSample {model : M} :
      Reachable start model → Reachable start (CustomerModel.choiceSample model).2
  | inertiaSample {model : M} :
      Reachable start model → Reachable start (CustomerModel.inertiaSample model).2
  | notify {model : M} (transfer : Transfer) :
      Reachable start model → Reachable start (CustomerModel.notify model transfer)

end

/-- What a model expects of tariffs: profiles of one length, with a cost that they are estimated to
have and the inconvenience of shifting usage. -/
structure Outlook (R : Type) where
  length : Nat
  cost : Tariff R → R
  shifting : Tariff R → R

def Outlook.forecast [Quantity R] (outlook : Outlook R) (tariff : Tariff R) : R :=
  (Quantity.replaceNaN (outlook.cost tariff) + outlook.shifting tariff) *
    (standardHours / (outlook.length : R))

section

variable [Quantity R] [CustomerModel M R]

/-- A model whose outlook on some tariffs is the same in all of its states and at all times, so that
its profiles need not be marked as state-dependent.  Giving a profile does not change the state. -/
structure Steady (start : M) (forecaster : Forecaster R) (outlook : Outlook R)
    (known : Tariff R → Prop) : Prop where
  positive : outlook.length ≠ 0
  unchanged : ∀ {model tariff}, Reachable start model → known tariff → ∀ now,
    (CustomerModel.profile model tariff now).2 = model
  length : ∀ {model tariff}, Reachable start model → known tariff → ∀ now,
    (CustomerModel.profile model tariff now).1.usage.length = outlook.length
  cost : ∀ {model tariff}, Reachable start model → known tariff → ∀ now,
    forecaster.cost tariff (CustomerModel.profile model tariff now).1.usage
      (CustomerModel.profile model tariff now).1.start true = outlook.cost tariff
  shifting : ∀ {model tariff}, Reachable start model → known tariff →
    CustomerModel.shiftingInconvenience model tariff = outlook.shifting tariff

theorem Steady.mono {start : M} {forecaster : Forecaster R} {outlook : Outlook R}
    {known fewer : Tariff R → Prop} (steady : Steady start forecaster outlook known)
    (among : ∀ {tariff}, fewer tariff → known tariff) :
    Steady start forecaster outlook fewer where
  positive := steady.positive
  unchanged reached here := steady.unchanged reached (among here)
  length reached here := steady.length reached (among here)
  cost reached here := steady.cost reached (among here)
  shifting reached here := steady.shifting reached (among here)

end

/-! ## Flat curves -/

section

variable {G : Type} [Quantity R]

theorem Tariff.rateAt_eq {tariff : Tariff R} (uniform : tariff.isTimeOfUse = false)
    (time other : Instant) (kwh : R) : tariff.rateAt time kwh = tariff.rateAt other kwh := by
  have always (rate : Rate R) (listed : rate ∈ tariff.rates) :
      Tariff.covers time.hourOfDay kwh rate = Tariff.covers other.hourOfDay kwh rate := by
    have hours : rate.window = none := by
      simpa [Rate.isTimeOfUse] using List.any_eq_false.1 uniform rate listed
    simp only [Tariff.covers, Rate.appliesAt, hours, Option.all_none]
  simp only [Tariff.rateAt, List.filter_congr always]

theorem Tariff.usageChargeBy_eq {tariff : Tariff R} (uniform : tariff.isTimeOfUse = false)
    (value : Rate R → R) (time other : Instant) (kwh : R) :
    tariff.usageChargeBy value time kwh = tariff.usageChargeBy value other kwh := by
  simp only [Tariff.usageChargeBy, Tariff.rateAt_eq uniform time other]

theorem Tariff.regulationCharge_eq {tariff : Tariff R} (uniform : tariff.isTimeOfUse = false)
    (time other : Instant) (kwh : R) :
    tariff.regulationCharge time kwh = tariff.regulationCharge other kwh := by
  simp only [Tariff.regulationCharge, Tariff.usageCharge,
    Tariff.usageChargeBy_eq uniform _ time other]

theorem Forecaster.cost_eq {tariff : Tariff R} (uniform : tariff.isTimeOfUse = false)
    (forecaster : Forecaster R) (usage : List R) (start other : Instant) (withPeriodic : Bool) :
    forecaster.cost tariff usage start withPeriodic =
      forecaster.cost tariff usage other withPeriodic := by
  have hours (usage : List R) (start other : Instant) (sum : R) :
      (usage.foldl (forecaster.addHour tariff withPeriodic) (start, sum)).2 =
        (usage.foldl (forecaster.addHour tariff withPeriodic) (other, sum)).2 := by
    induction usage generalizing start other sum with
    | nil => rfl
    | cons kwh rest ih =>
        simp only [List.foldl_cons, addHour]
        rw [Tariff.usageChargeBy_eq uniform _ (start.plus hourLength) (other.plus hourLength)]
        exact ih _ _ _
  unfold cost
  simp only [hours usage start other]
  split
  · rw [Tariff.regulationCharge_eq uniform _
      (usage.foldl (forecaster.addHour tariff withPeriodic) (other, 0)).1 (_ + _),
      Tariff.regulationCharge_eq uniform _
      (usage.foldl (forecaster.addHour tariff withPeriodic) (other, 0)).1 forecaster.absorption]
  · rfl

variable [SampleSource G R]

theorem curve_of_reachable {model later : SampledCustomer G R} (reached : Reachable model later) :
    later.curve = model.curve := by
  induction reached with
  | start => rfl
  | choiceSample _ ih => exact ih
  | inertiaSample _ ih => exact ih
  | notify _ _ ih => exact ih

omit [SampleSource G R] in
theorem usageFrom_of_flat {model : SampledCustomer G R} {hours : Nat} {kwh : R}
    (flat : model.curve = Array.replicate hours kwh) (now : Instant) :
    model.usageFrom now = List.replicate hours kwh := by
  have size : model.curve.size = hours := by rw [flat, Array.size_replicate]
  refine List.eq_replicate_iff.2 ⟨by simp [SampledCustomer.usageFrom, size], ?_⟩
  intro usage listed
  obtain ⟨hour, inside, rfl⟩ := List.mem_map.1 listed
  have positive : (0 : Int) < hours := by
    have := List.mem_range.1 inside
    omega
  have position (time : Int) : (Int.fmod time hours).toNat < hours := by
    have := Int.fmod_nonneg_of_pos time positive
    have := Int.fmod_lt_of_pos time positive
    omega
  rw [SampledCustomer.usageAt, size, flat, Array.getD_eq_getD_getElem?,
    Array.getElem?_replicate, if_pos (position _)]
  rfl

theorem steady_of_flat {model : SampledCustomer G R} {hours : Nat} {kwh : R} (positive : hours ≠ 0)
    (flat : model.curve = Array.replicate hours kwh) (forecaster : Forecaster R) :
    Steady model forecaster
      { length := hours
        cost := fun tariff => forecaster.cost tariff (List.replicate hours kwh) .epoch true
        shifting := fun _ => 0 }
      fun tariff => tariff.isTimeOfUse = false where
  positive := positive
  unchanged _ _ _ := rfl
  length := by
    intro later _ reached _ now
    change (later.usageFrom now).length = hours
    rw [usageFrom_of_flat ((curve_of_reachable reached).trans flat), List.length_replicate]
  cost := by
    intro later tariff reached uniform now
    change forecaster.cost tariff (later.usageFrom now) now true = _
    rw [usageFrom_of_flat ((curve_of_reachable reached).trans flat)]
    exact forecaster.cost_eq uniform _ now .epoch true
  shifting _ _ := rfl

end

/-! ## What lasts -/

def Unambiguous (known : Tariff R → Prop) : Prop :=
  ∀ ⦃tariff other⦄, known tariff → known other → tariff.id = other.id → tariff = other

variable [Quantity R] [CustomerModel M R]

namespace Evaluator

/-- The appraisal that a tariff always gets; the default's is without inconvenience. -/
def lasting (start : Evaluator M R) (outlook : Outlook R) (default : Option (Tariff R))
    (tariff : Tariff R) : Appraisal R where
  cost := outlook.forecast tariff
  inconvenience := if default.map Tariff.id = some tariff.id then 0 else start.inconvenience tariff

/-- An evaluator, some time after it was as `start`, with nothing in its cache that it would not
find again. -/
structure Consistent (start : Evaluator M R) (outlook : Outlook R) (default : Option (Tariff R))
    (known : Tariff R → Prop) (e : Evaluator M R) : Prop where
  customer : e.customer = start.customer
  forecaster : e.forecaster = start.forecaster
  weights : e.weights = start.weights
  model : Reachable start.model e.model
  cached : ∀ {tariff appraisal}, known tariff → e.cache.get? tariff.id = some appraisal →
    appraisal = start.lasting outlook default tariff
  length : ∀ {tariff}, default = some tariff → e.cache.get? tariff.id ≠ none →
    e.profileLength = outlook.length

section

variable {start e : Evaluator M R} {outlook : Outlook R} {default : Option (Tariff R)}
  {known : Tariff R → Prop}

theorem Consistent.forecastCost (consistent : Consistent start outlook default known e)
    (steady : Steady start.model start.forecaster outlook known) {tariff : Tariff R}
    (here : known tariff) (now : Instant) :
    ∃ cache : AppraisalCache R, (∀ id, cache.get? id = e.cache.get? id) ∧
      e.forecastCost tariff now =
        (outlook.forecast tariff, { e with cache, profileLength := outlook.length }) := by
  have reached := consistent.model
  have length := steady.length reached here now
  have used : (CustomerModel.profile e.model tariff now).1.usage.isEmpty = false := by
    rw [List.isEmpty_eq_false_iff, ← List.length_pos_iff, length]
    exact Nat.pos_of_ne_zero steady.positive
  let bypassed := e.cache.isBypassed || (CustomerModel.profile e.model tariff now).1.stateDependent
  refine ⟨e.cache.setBypass bypassed, fun _ => rfl, ?_⟩
  rw [forecastCost_eq]
  simp only [Forecaster.forecast, Outlook.forecast, used, length, consistent.forecaster,
    steady.unchanged reached here now, steady.cost reached here now, steady.shifting reached here,
    Bool.false_eq_true, if_false]
  rfl

end

section

variable {start : Evaluator M R} {outlook : Outlook R} {known : Tariff R → Prop}
  (steady : Steady start.model start.forecaster outlook known)
  (unique : Unambiguous known)

/-- An appraisal that lasts, and the evaluator that has made it. The default is in the cache. -/
structure Finds (start : Evaluator M R) (outlook : Outlook R) (default : Tariff R)
    (known : Tariff R → Prop) (tariff : Tariff R) (e : Evaluator M R)
    (appraised : Appraisal R × Evaluator M R) : Prop where
  appraisal : appraised.1 = start.lasting outlook (some default) tariff
  apart : ∃ cache profileLength, appraised.2 = { e with cache, profileLength }
  consistent : Consistent start outlook (some default) known appraised.2
  cached : appraised.2.cache.get? default.id ≠ none

include steady unique

theorem Consistent.appraiseWith {default tariff : Tariff R} {e : Evaluator M R}
    (consistent : Consistent start outlook (some default) known e) (here : known tariff)
    {inconvenience : R} (now : Instant)
    (lasts : e.cache.get? tariff.id = none →
      inconvenience = (start.lasting outlook (some default) tariff).inconvenience)
    (cached : e.cache.get? default.id = none → tariff = default) :
    Finds start outlook default known tariff e (e.appraiseWith tariff inconvenience now) := by
  cases found : e.cache.get? tariff.id with
  | some appraisal =>
      rw [appraiseWith_of_get? found]
      refine ⟨consistent.cached here found, ⟨e.cache, e.profileLength, rfl⟩, consistent, ?_⟩
      intro missing
      rw [cached missing, missing] at found
      cases found
  | none =>
      obtain ⟨cache, as, forecast⟩ := consistent.forecastCost steady here now
      have appraisal : (⟨outlook.forecast tariff, inconvenience⟩ : Appraisal R) =
          start.lasting outlook (some default) tariff := by
        rw [lasts found]
        rfl
      rw [appraiseWith_of_missing found, forecast]
      refine ⟨appraisal, ⟨_, _, rfl⟩,
        { consistent with cached := ?_, length := fun _ _ => rfl }, ?_⟩
      · intro other known' there cached
        rw [AppraisalCache.get?_insert, as] at cached
        split at cached
        · rename_i same
          cases cached
          cases unique here there same
          exact appraisal
        · exact consistent.cached there cached
      · change (cache.insert tariff.id _).get? default.id ≠ none
        rw [AppraisalCache.get?_insert, as]
        split
        · exact Option.some_ne_none _
        · rename_i different
          exact fun missing => different (congrArg Tariff.id (cached missing))

theorem Consistent.appraiseDefault {default : Tariff R} {e : Evaluator M R}
    (consistent : Consistent start outlook (some default) known e) (here : known default)
    (now : Instant) :
    Finds start outlook default known default e (e.appraiseDefault default now) := by
  refine consistent.appraiseWith steady unique here now (fun _ => ?_) fun _ => rfl
  simp only [lasting, Option.map_some, if_true]

theorem Consistent.appraise {default tariff : Tariff R} {e : Evaluator M R}
    (consistent : Consistent start outlook (some default) known e) (here : known tariff)
    (cached : e.cache.get? default.id ≠ none) (now : Instant) :
    Finds start outlook default known tariff e (e.appraise tariff now) := by
  refine consistent.appraiseWith steady unique here now (fun missing => ?_)
    fun missing => absurd missing cached
  -- A tariff with the default's id would have been found in the cache.
  have other : some default.id ≠ some tariff.id := by
    intro same
    rw [Option.some.inj same] at cached
    exact cached missing
  simp only [lasting, Option.map_some, if_neg other, inconvenience, consistent.weights]

end

/-! ## Agreement -/

/-- Consistent evaluators that differ at most in what they have in their caches and in whether they
appraise every tariff anew. -/
structure Agreeing (start : Evaluator M R) (outlook : Outlook R) (default : Option (Tariff R))
    (known : Tariff R → Prop) (e f : Evaluator M R) : Prop where
  left : Consistent start outlook default known e
  right : Consistent start outlook default known f
  settings : ∃ evaluateAll, f.settings = { e.settings with evaluateAll }
  model : f.model = e.model
  allocations : f.allocations = e.allocations
  evaluations : f.evaluations = e.evaluations
  profileLength : f.profileLength = e.profileLength

section

variable {start e f : Evaluator M R} {outlook : Outlook R} {known : Tariff R → Prop}

theorem Consistent.begun {default : Option (Tariff R)}
    (consistent : Consistent start outlook default known e) :
    Consistent start outlook default known e.begun := by
  refine { consistent with cached := ?_, length := ?_ }
  · intro tariff appraisal here found
    exact consistent.cached here (AppraisalCache.get?_of_get?_beginCycle found)
  · intro tariff standard cached
    obtain ⟨appraisal, found⟩ := Option.ne_none_iff_exists'.1 cached
    refine consistent.length standard ?_
    rw [AppraisalCache.get?_of_get?_beginCycle found]
    exact Option.some_ne_none appraisal

theorem Agreeing.begun {default : Option (Tariff R)}
    (agreeing : Agreeing start outlook default known e f) :
    Agreeing start outlook default known e.begun f.begun :=
  { agreeing with
    left := agreeing.left.begun
    right := agreeing.right.begun
    allocations := rfl
    evaluations := congrArg (· + 1) agreeing.evaluations }

variable {default : Tariff R}

structure Prepared (start : Evaluator M R) (outlook : Outlook R) (default : Tariff R)
    (known : Tariff R → Prop) (e f : Evaluator M R) : Prop extends
    Agreeing start outlook (some default) known e f where
  cachedLeft : e.cache.get? default.id ≠ none
  cachedRight : f.cache.get? default.id ≠ none

theorem Agreeing.prepared (agreeing : Agreeing start outlook (some default) known e f)
    {tariff : Tariff R} {first second : Appraisal R × Evaluator M R}
    (finds : Finds start outlook default known tariff e first)
    (findsToo : Finds start outlook default known tariff f second) :
    second.1 = first.1 ∧ Prepared start outlook default known first.2 second.2 := by
  obtain ⟨cache, length, apart⟩ := finds.apart
  obtain ⟨cache', length', apart'⟩ := findsToo.apart
  have profileLength : second.2.profileLength = first.2.profileLength :=
    (findsToo.consistent.length rfl findsToo.cached).trans
      (finds.consistent.length rfl finds.cached).symm
  refine ⟨findsToo.appraisal.trans finds.appraisal.symm,
    ⟨finds.consistent, findsToo.consistent, ?_, ?_, ?_, ?_, profileLength⟩,
    finds.cached, findsToo.cached⟩ <;> rw [apart, apart']
  · exact agreeing.settings
  · exact agreeing.model
  · exact agreeing.allocations
  · exact agreeing.evaluations

theorem parallel_prepared (steady : Steady start.model start.forecaster outlook known)
    (unique : Unambiguous known)
    {books : Books R} (mentioned : ∀ {tariff}, books.Mentions start.customer.powerType tariff →
      known tariff) (now : Instant) :
    Parallel start.customer books now fun _ => Prepared start outlook default known where
  own prepared := ⟨prepared.left.customer, prepared.right.customer⟩
  settings prepared := prepared.settings
  allocations prepared := prepared.allocations
  profileLength prepared := prepared.profileLength
  switchFactor prepared isRevoked := by rw [prepared.model]
  appraise prepared tariff here :=
    prepared.toAgreeing.prepared
      (prepared.left.appraise steady unique (mentioned here) prepared.cachedLeft now)
      (prepared.right.appraise steady unique (mentioned here) prepared.cachedRight now)
  inertiaSample prepared := by
    refine ⟨by rw [prepared.model], { prepared with
      left := { prepared.left with model := .inertiaSample prepared.left.model }
      right := { prepared.right with model := .inertiaSample prepared.right.model }
      model := ?_ }⟩
    simp only [inertiaSampled, prepared.model]
  choiceSample prepared := by
    refine ⟨by rw [prepared.model], { prepared with
      left := { prepared.left with model := .choiceSample prepared.left.model }
      right := { prepared.right with model := .choiceSample prepared.right.model }
      model := ?_ }⟩
    simp only [choiceSampled, prepared.model]
  transfer := by
    intro _ e f prepared origin destination count
    unfold transfer
    split
    · exact prepared
    · refine { prepared with
        left := { prepared.left with model := .notify _ prepared.left.model }
        right := { prepared.right with model := .notify _ prepared.right.model }
        model := ?_
        allocations := ?_ }
      · simp only [prepared.model, prepared.left.customer, prepared.right.customer]
      · simp only [prepared.allocations]

theorem Agreeing.evaluate {default : Option (Tariff R)}
    (agreeing : Agreeing start outlook default known e f)
    (steady : Steady start.model start.forecaster outlook known)
    (unique : Unambiguous known)
    {books : Books R} (mentioned : ∀ {tariff}, books.Mentions start.customer.powerType tariff →
      known tariff)
    (standard : books.market.defaultFor start.customer.powerType = default) (now : Instant) :
    Agreeing start outlook default known (e.evaluate books now).1 (f.evaluate books now).1 ∧
      f.notified books now = e.notified books now ∧
      (f.evaluate books now).2 = (e.evaluate books now).2 := by
  cases default with
  | none =>
      have missing : books.market.defaultFor e.customer.powerType = none :=
        agreeing.left.customer ▸ standard
      have missing' : books.market.defaultFor f.customer.powerType = none :=
        agreeing.right.customer ▸ standard
      rw [evaluate_of_missing missing, evaluate_of_missing missing', notified_of_missing missing,
        notified_of_missing missing']
      exact ⟨{ agreeing with
        left := { agreeing.left with }
        right := { agreeing.right with }
        allocations := rfl }, rfl, rfl⟩
  | some default =>
      have parallel : Parallel start.customer books now
          fun _ => Prepared start outlook default known :=
        parallel_prepared steady unique mentioned now
      have here : known default := mentioned (.inr (.inr standard))
      obtain ⟨same, prepared⟩ := agreeing.begun.prepared
        (agreeing.left.begun.appraiseDefault steady unique here now)
        (agreeing.right.begun.appraiseDefault steady unique here now)
      have abreast : Abreast start.customer default now
          (fun _ => Prepared start outlook default known) e f :=
        ⟨agreeing.left.customer, agreeing.right.customer, agreeing.settings, agreeing.evaluations,
          same, prepared⟩
      obtain ⟨evaluated, -, issued⟩ := parallel.alike_evaluate standard abreast
      exact ⟨evaluated.toAgreeing, parallel.same_notified standard abreast, issued⟩

end

/-! ## Runs -/

def MentionedIn (calls : List (Books R × Instant)) (powerType : PowerType) (tariff : Tariff R) :
    Prop :=
  ∃ call ∈ calls, call.1.Mentions powerType tariff

theorem Agreeing.afterEvaluations {start e f : Evaluator M R} {outlook : Outlook R}
    {default : Option (Tariff R)} {known : Tariff R → Prop}
    (agreeing : Agreeing start outlook default known e f)
    (steady : Steady start.model start.forecaster outlook known)
    (unique : Unambiguous known)
    {calls : List (Books R × Instant)}
    (mentioned : ∀ {tariff}, MentionedIn calls start.customer.powerType tariff → known tariff)
    (standard : ∀ call ∈ calls, call.1.market.defaultFor start.customer.powerType = default) :
    Agreeing start outlook default known (e.afterEvaluations calls) (f.afterEvaluations calls) := by
  induction calls generalizing e f with
  | nil => exact agreeing
  | cons call rest ih =>
      have evaluated := (agreeing.evaluate steady unique
        (fun mention => mentioned ⟨call, List.mem_cons_self, mention⟩)
        (standard call List.mem_cons_self) call.2).1
      refine ih evaluated ?_ fun later listed => standard later (List.mem_cons_of_mem _ listed)
      rintro tariff ⟨later, listed, mention⟩
      exact mentioned ⟨later, List.mem_cons_of_mem _ listed, mention⟩

/-- An evaluator that is new, in that its cache is empty, makes the same decisions in every one of
its evaluations whether or not it appraises every tariff anew.  Its model is steady, every id means
one tariff, and the default stays the same; tariffs come and go. -/
theorem decides_as_afresh {e : Evaluator M R} {outlook : Outlook R} {default : Option (Tariff R)}
    {calls : List (Books R × Instant)} (new : ∀ id, e.cache.get? id = none)
    (steady : Steady e.model e.forecaster outlook (MentionedIn calls e.customer.powerType))
    (unique : Unambiguous (MentionedIn calls e.customer.powerType))
    (standard : ∀ call ∈ calls, call.1.market.defaultFor e.customer.powerType = default)
    {earlier later : List (Books R × Instant)} {books : Books R} {now : Instant}
    (split : calls = earlier ++ (books, now) :: later) :
    let reusing := (e.setEvaluateAll false).afterEvaluations earlier
    let afresh := (e.setEvaluateAll true).afterEvaluations earlier
    afresh.notified books now = reusing.notified books now ∧
      (afresh.evaluate books now).1.allocations = (reusing.evaluate books now).1.allocations ∧
      (afresh.evaluate books now).2 = (reusing.evaluate books now).2 := by
  intro reusing afresh
  have consistent (evaluateAll : Bool) :
      Consistent e outlook default (MentionedIn calls e.customer.powerType)
        (e.setEvaluateAll evaluateAll) := by
    refine ⟨rfl, rfl, rfl, .start, ?_, ?_⟩
    · intro tariff appraisal _ found
      cases (new tariff.id).symm.trans found
    · intro tariff _ cached
      exact absurd (new tariff.id) cached
  have agreeing : Agreeing e outlook default (MentionedIn calls e.customer.powerType)
      (e.setEvaluateAll false) (e.setEvaluateAll true) :=
    ⟨consistent false, consistent true, ⟨true, rfl⟩, rfl, rfl, rfl, rfl⟩
  subst split
  have before : Agreeing e outlook default _ reusing afresh :=
    agreeing.afterEvaluations steady unique
      (fun ⟨call, listed, mention⟩ => ⟨call, List.mem_append_left _ listed, mention⟩)
      fun call listed => standard call (List.mem_append_left _ listed)
  have last : (books, now) ∈ earlier ++ (books, now) :: later :=
    List.mem_append_right _ List.mem_cons_self
  obtain ⟨evaluated, told, issued⟩ := before.evaluate steady unique
    (fun mention => ⟨_, last, mention⟩) (standard _ last) now
  exact ⟨told, evaluated.allocations, issued⟩

/-! ### A bakery -/

namespace Bakery

def customer : Customer :=
  { id := ⟨1⟩, name := "bakery", population := 10, powerType := .consumption }

def standard : Tariff Float :=
  { Tariff.free ⟨1⟩ "local" .consumption with rates := [.fixed (-1.0)] }

def offer : Tariff Float :=
  { Tariff.free ⟨2⟩ "bob" .consumption with rates := [.fixed (-0.5)] }

def model : SampledCustomer ChaChaStream Float :=
  { curve := Array.replicate 24 1.0, switchFactor := 0, source := .ofSeed 1 }

def evaluator : Evaluator (SampledCustomer ChaChaStream Float) Float :=
  .standard customer model

def books (listed : List (Listing Float)) (queues : List BrokerQueue) : Books Float where
  catalogue := { listed, queues, lastId := 2 }
  market := Market.empty.setDefault standard
  roster :=
    { subscriptions := #[{ Subscription.opened customer standard with committed := 10 }]
      index := Std.HashMap.ofList [(⟨⟨1⟩, ⟨1⟩⟩, 0)] }

def opening : Books Float × Instant :=
  (books [.ofTariff standard] [⟨"local", [⟨1⟩]⟩], .ofHours 0)

def offering : Books Float × Instant :=
  (books [.ofTariff standard, .ofTariff offer] [⟨"bob", [⟨2⟩]⟩, ⟨"local", [⟨1⟩]⟩], .ofHours 24)

def withdrawal : Books Float × Instant :=
  (books [.ofTariff standard, (Listing.ofTariff offer).revoke]
    [⟨"bob", [⟨2⟩]⟩, ⟨"local", [⟨1⟩]⟩], .ofHours 48)

def calls : List (Books Float × Instant) := [opening, offering, withdrawal]

theorem mentions_books {listed : List (Listing Float)} {queues : List BrokerQueue}
    {tariff : Tariff Float} (mention : (books listed queues).Mentions .consumption tariff) :
    tariff ∈ listed.map Listing.tariff ∨ tariff = standard := by
  rcases mention with entered | ⟨subscription, held, rfl⟩ | default
  · exact .inl (List.mem_map.2 entered)
  · rw [List.mem_singleton.1 held]
    exact .inr rfl
  · exact .inr (Option.some.inj default).symm

theorem mentioned {tariff : Tariff Float}
    (mention : MentionedIn calls evaluator.customer.powerType tariff) :
    tariff = standard ∨ tariff = offer := by
  obtain ⟨call, listed, mention⟩ := mention
  simp only [calls, List.mem_cons, List.not_mem_nil, or_false] at listed
  rcases listed with rfl | rfl | rfl <;> rcases mentions_books mention with entered | default
  case inl.inl => exact .inl (List.mem_singleton.1 entered)
  case inr.inl.inl => exact (List.mem_cons.1 entered).imp_right List.mem_singleton.1
  case inr.inr.inl => exact (List.mem_cons.1 entered).imp_right List.mem_singleton.1
  all_goals exact .inl default

end Bakery

theorem decides_as_afresh_bakery :
    let reusing := (Bakery.evaluator.setEvaluateAll false).afterEvaluations
      [Bakery.opening, Bakery.offering]
    let afresh := (Bakery.evaluator.setEvaluateAll true).afterEvaluations
      [Bakery.opening, Bakery.offering]
    afresh.notified Bakery.withdrawal.1 Bakery.withdrawal.2 =
        reusing.notified Bakery.withdrawal.1 Bakery.withdrawal.2 ∧
      (afresh.evaluate Bakery.withdrawal.1 Bakery.withdrawal.2).1.allocations =
        (reusing.evaluate Bakery.withdrawal.1 Bakery.withdrawal.2).1.allocations ∧
      (afresh.evaluate Bakery.withdrawal.1 Bakery.withdrawal.2).2 =
        (reusing.evaluate Bakery.withdrawal.1 Bakery.withdrawal.2).2 := by
  have uniform {tariff : Tariff Float} (mention : MentionedIn Bakery.calls
      Bakery.evaluator.customer.powerType tariff) : tariff.isTimeOfUse = false := by
    rcases Bakery.mentioned mention with rfl | rfl <;> rfl
  have flat : Bakery.evaluator.model.curve = Array.replicate 24 1.0 := rfl
  have steady := (steady_of_flat (by decide) flat Bakery.evaluator.forecaster).mono uniform
  have last : Bakery.calls =
      [Bakery.opening, Bakery.offering] ++ (Bakery.withdrawal.1, Bakery.withdrawal.2) :: [] := rfl
  have standard : ∀ call ∈ Bakery.calls,
      call.1.market.defaultFor Bakery.evaluator.customer.powerType = some Bakery.standard := by
    intro call listed
    simp only [Bakery.calls, List.mem_cons, List.not_mem_nil, or_false] at listed
    rcases listed with rfl | rfl | rfl <;> rfl
  refine decides_as_afresh ?_ steady ?_ standard last
  · intro id
    exact Std.HashMap.getElem?_empty
  · intro tariff other mention mention' same
    rcases Bakery.mentioned mention with rfl | rfl <;>
      rcases Bakery.mentioned mention' with rfl | rfl <;>
      first | rfl | cases same

end Evaluator

end RetailMarket
