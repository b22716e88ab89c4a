import RetailMarket.Proofs.Appraisal
import RetailMarket.Proofs.Commitment
import RetailMarket.Proofs.NetChange
import RetailMarket.Proofs.Catalogue

/-!
# The steps of an evaluation

An evaluation appraises the default and the candidates, scores the options of the members of each
subscription, and decides chunk by chunk.  Appraisals and scores move no one.  What members have to
choose from are the candidates, the default, and their tariff or what takes its place.
-/

namespace RetailMarket

namespace Evaluator

variable {M R : Type} [Quantity R]

/-! ## Appraisals and scores -/

def Move.transfer (customer : CustomerId) (move : Move R) : Transfer :=
  { customer, origin := move.origin.id, destination := move.destination.id, count := move.count }

section Memory

variable [CustomerModel M R]

/-- A record, kept by a model, of the transfers it has been told of. -/
structure Remembers (told : M → List Transfer) : Prop where
  profile : ∀ (model : M) (tariff : Tariff R) (now : Instant),
    told (CustomerModel.profile model tariff now).2 = told model
  choiceSample : ∀ model, told (CustomerModel.choiceSample model).2 = told model
  inertiaSample : ∀ model, told (CustomerModel.inertiaSample model).2 = told model
  notify : ∀ model transfer,
    told (CustomerModel.notify model transfer) = told model ++ [transfer]

/-- An evaluator before and after some moves, which are all that it has entered and all that it has
told its model of. -/
structure Moved (moves : List (Move R)) (before after : Evaluator M R) : Prop where
  customer : after.customer = before.customer
  settings : after.settings = before.settings
  allocations : after.allocations = moves.foldl enter before.allocations
  told : ∀ told : M → List Transfer, Remembers told →
    told after.model = told before.model ++ moves.map (Move.transfer before.customer.id)

omit [Quantity R] in
theorem Moved.quiet {before after : Evaluator M R} (customer : after.customer = before.customer)
    (settings : after.settings = before.settings)
    (allocations : after.allocations = before.allocations)
    (told : ∀ told : M → List Transfer, Remembers told → told after.model = told before.model) :
    Moved [] before after :=
  ⟨customer, settings, allocations, fun record remembers => by
    rw [told record remembers, List.map_nil, List.append_nil]⟩

omit [Quantity R] in
theorem Moved.refl (e : Evaluator M R) : Moved [] e e := Moved.quiet rfl rfl rfl fun _ _ => rfl

omit [Quantity R] in
theorem Moved.trans {earlier later : List (Move R)} {first second third : Evaluator M R}
    (start : Moved earlier first second) (rest : Moved later second third) :
    Moved (earlier ++ later) first third := by
  refine ⟨rest.customer.trans start.customer, rest.settings.trans start.settings, ?_, ?_⟩
  · rw [rest.allocations, start.allocations, List.foldl_append]
  · intro told remembers
    rw [rest.told told remembers, start.told told remembers, start.customer, List.map_append,
      List.append_assoc]

end Memory

variable [CustomerModel M R]

theorem moved_forecastCost (e : Evaluator M R) (tariff : Tariff R) (now : Instant) :
    Moved [] e (e.forecastCost tariff now).2 := by
  rw [forecastCost_eq]
  exact Moved.quiet rfl rfl rfl fun _ remembers => remembers.profile e.model tariff now

theorem moved_appraiseWith (e : Evaluator M R) (tariff : Tariff R) (inconvenience : R)
    (now : Instant) : Moved [] e (e.appraiseWith tariff inconvenience now).2 := by
  cases cached : e.cache.get? tariff.id with
  | some appraisal =>
      rw [appraiseWith_of_get? cached]
      exact Moved.refl e
  | none =>
      rw [appraiseWith_of_missing cached]
      have forecast := moved_forecastCost e tariff now
      exact ⟨forecast.customer, forecast.settings, forecast.allocations, forecast.told⟩

def appraiseAll (now : Instant) (e : Evaluator M R) (tariffs : List (Tariff R)) :
    Evaluator M R :=
  tariffs.foldl (fun e tariff => (e.appraise tariff now).2) e

theorem score_appraises (comparison : Comparison R) (position : Position R) (e : Evaluator M R)
    (tariff : Tariff R) :
    (e.score comparison position tariff).2.2 = (e.appraise tariff comparison.now).2 := by
  unfold score
  by_cases stays : tariff.id = position.current.id ∨ some tariff.id = position.replacement
  · simp only [stays, if_true]
  · simp only [stays, if_false]

theorem moved_score (e : Evaluator M R) (comparison : Comparison R) (position : Position R)
    (tariff : Tariff R) : Moved [] e (e.score comparison position tariff).2.2 := by
  rw [score_appraises]
  exact moved_appraiseWith e tariff _ comparison.now

theorem tariff_score (e : Evaluator M R) (comparison : Comparison R) (position : Position R)
    (tariff : Tariff R) : (e.score comparison position tariff).1.tariff = tariff := by
  unfold score
  by_cases stays : tariff.id = position.current.id ∨ some tariff.id = position.replacement
  · simp only [stays, if_true]
    rfl
  · simp only [stays, if_false]
    rfl

theorem scoreAll_appraises (comparison : Comparison R) (position : Position R)
    (e : Evaluator M R) (bonus : R) (tariffs : List (Tariff R)) :
    (scoreAll comparison position e bonus tariffs).2.2 =
      appraiseAll comparison.now e tariffs := by
  induction tariffs generalizing e bonus with
  | nil => rfl
  | cons tariff rest ih =>
      simp only [scoreAll, score_appraises, ih]
      rfl

theorem tariffs_scoreAll (comparison : Comparison R) (position : Position R)
    (e : Evaluator M R) (bonus : R) (tariffs : List (Tariff R)) :
    (scoreAll comparison position e bonus tariffs).1.map Alternative.tariff = tariffs := by
  induction tariffs generalizing e bonus with
  | nil => rfl
  | cons tariff rest ih => simp only [scoreAll, List.map_cons, tariff_score, ih]

omit [Quantity R] [CustomerModel M R] in
theorem mem_pushUnique {tariffs : List (Tariff R)} {pushed tariff : Tariff R}
    (listed : tariff ∈ pushUnique tariffs pushed) : tariff ∈ tariffs ∨ tariff = pushed := by
  unfold pushUnique at listed
  split at listed
  · exact .inl listed
  · simpa using listed

omit [Quantity R] [CustomerModel M R] in
theorem mem_pushUnique_all {pushed tariffs : List (Tariff R)} {tariff : Tariff R}
    (listed : tariff ∈ pushed.foldl pushUnique tariffs) : tariff ∈ tariffs ∨ tariff ∈ pushed := by
  induction pushed generalizing tariffs with
  | nil => exact .inl listed
  | cons first rest ih =>
      rcases ih listed with earlier | later
      · rcases mem_pushUnique earlier with start | rfl
        · exact .inl start
        · exact .inr List.mem_cons_self
      · exact .inr (List.mem_cons_of_mem _ later)

end Evaluator

namespace Alternative

variable {R : Type} [Quantity R]

theorem mem_of_choose? {sample : R} {alternatives : List (Alternative R)} {tariff : Tariff R}
    (chosen : choose? sample alternatives = some tariff) :
    tariff ∈ alternatives.map Alternative.tariff := by
  induction alternatives generalizing sample with
  | nil => cases chosen
  | cons alternative rest ih =>
      simp only [choose?] at chosen
      split at chosen
      · cases chosen
        exact List.mem_cons_self
      · exact List.mem_cons_of_mem _ (ih chosen)

theorem tariffs_assignProbabilities (sharpness : R) (alternatives : List (Alternative R)) :
    (assignProbabilities sharpness alternatives).map Alternative.tariff =
      alternatives.map Alternative.tariff := by
  simp [assignProbabilities, Function.comp_def]

theorem perm_ranked (alternatives : List (Alternative R)) :
    (ranked alternatives).Perm alternatives :=
  List.mergeSort_perm _ _

end Alternative

namespace Evaluator

variable {M R : Type} [Quantity R] [CustomerModel M R]

/-! ## Decisions -/

theorem sum_decisionSizes_le (chunk population : Nat) :
    (decisionSizes chunk population).sum ≤ population := by
  fun_induction decisionSizes chunk population with
  | case1 population _ ih =>
      rw [List.sum_cons]
      omega
  | case2 => simp

theorem decisionSizes_self {population : Nat} (positive : 0 < population) :
    decisionSizes population population = [population] := by
  rw [decisionSizes, dif_pos ⟨positive, positive⟩, min_self, Nat.sub_self, decisionSizes,
    dif_neg fun both => absurd both.2 (lt_irrefl 0)]

def inertiaSampled (e : Evaluator M R) : Evaluator M R :=
  { e with model := (CustomerModel.inertiaSample e.model).2 }

def choiceSampled (e : Evaluator M R) : Evaluator M R :=
  { e with model := (CustomerModel.choiceSample e.model).2 }

theorem decideChunk_eq (comparison : Comparison R) (position : Position R)
    (alternatives : List (Alternative R)) (bonus : R) (e : Evaluator M R) (count : Nat) :
    decideChunk comparison position alternatives bonus e count =
      if e.inertiaSampled.staysPut comparison position bonus
          (CustomerModel.inertiaSample e.model).1 = true then e.inertiaSampled
      else (Alternative.choose? (CustomerModel.choiceSample e.inertiaSampled.model).1
          alternatives).elim e.inertiaSampled.choiceSampled
        fun destination =>
          e.inertiaSampled.choiceSampled.transfer position.current destination count := by
  simp only [decideChunk, inertiaSampled]
  cases Alternative.choose? (CustomerModel.choiceSample (CustomerModel.inertiaSample e.model).2).1
    alternatives <;> rfl

/-! ## Allocations -/

/-- Whatever a customer of a power type may choose from is of a kind: the candidates, the default,
the successor of a revoked tariff, and a tariff that is not revoked itself. -/
structure Choosable (kind : Tariff R → Prop) (powerType : PowerType) (books : Books R)
    (comparison : Comparison R) (current : Tariff R) : Prop where
  candidates : ∀ tariff ∈ comparison.candidates, kind tariff
  default : kind comparison.default
  successor : ∀ successor, books.market.successor? books.catalogue current powerType
    comparison.now = some successor → kind successor
  current : books.isRevoked current = false → kind current

omit [Quantity R] [CustomerModel M R] in
theorem Choosable.anything (powerType : PowerType) (books : Books R)
    (comparison : Comparison R) (current : Tariff R) :
    Choosable (fun _ => True) powerType books comparison current :=
  ⟨fun _ _ => trivial, trivial, fun _ _ => trivial, fun _ => trivial⟩

def options (books : Books R) (comparison : Comparison R) (powerType : PowerType)
    (current : Tariff R) (leaving : R) : Position R × List (Tariff R) :=
  let offered := pushUnique (comparison.candidates.foldl pushUnique []) comparison.default
  if books.isRevoked current then
    let successor := (books.market.successor? books.catalogue current powerType
      comparison.now).getD comparison.default
    ({ current, isRevoked := true, replacement := some successor.id, leaving := 0 },
      pushUnique offered successor)
  else
    ({ current, isRevoked := false, replacement := none, leaving }, pushUnique offered current)

omit [CustomerModel M R] in
theorem current_options (books : Books R) (comparison : Comparison R) (powerType : PowerType)
    (current : Tariff R) (leaving : R) :
    (options books comparison powerType current leaving).1.current = current := by
  unfold options
  split <;> rfl

omit [CustomerModel M R] in
theorem Choosable.options {kind : Tariff R → Prop} {powerType : PowerType} {books : Books R}
    {comparison : Comparison R} {current : Tariff R}
    (choosable : Choosable kind powerType books comparison current) (leaving : R) :
    ∀ tariff ∈ (options books comparison powerType current leaving).2, kind tariff := by
  have offered (tariff : Tariff R)
      (listed : tariff ∈ pushUnique (comparison.candidates.foldl pushUnique [])
        comparison.default) : kind tariff := by
    rcases mem_pushUnique listed with earlier | rfl
    · rcases mem_pushUnique_all earlier with none | candidate
      · cases none
      · exact choosable.candidates tariff candidate
    · exact choosable.default
  intro tariff listed
  unfold Evaluator.options at listed
  cases revoked : books.isRevoked current with
  | true =>
      simp only [revoked, if_true] at listed
      rcases mem_pushUnique listed with earlier | rfl
      · exact offered tariff earlier
      · cases found : books.market.successor? books.catalogue current powerType
          comparison.now with
        | none => exact choosable.default
        | some successor => exact choosable.successor successor found
  | false =>
      simp only [revoked, Bool.false_eq_true, if_false] at listed
      rcases mem_pushUnique listed with earlier | rfl
      · exact offered tariff earlier
      · exact choosable.current revoked

def decideMembers (comparison : Comparison R) (position : Position R) (population : Nat)
    (scored : List (Alternative R) × R × Evaluator M R) : Evaluator M R :=
  let alternatives := Alternative.assignProbabilities
    (Utility.sharpness greatestSharpness scored.2.2.settings.rationality)
    (Alternative.ranked scored.1)
  (decisionSizes (scored.2.2.decisionChunk population) population).foldl
    (decideChunk comparison position alternatives scored.2.1) scored.2.2

theorem allocate_eq (books : Books R) (comparison : Comparison R) (current : Tariff R)
    (leaving : R) {population : Nat} (positive : population ≠ 0) (e : Evaluator M R) :
    allocate books comparison current leaving population e =
      let chosen := options books comparison e.customer.powerType current leaving
      decideMembers comparison chosen.1 population (scoreAll comparison chosen.1 e 0 chosen.2) := by
  unfold allocate options
  rw [if_neg positive]
  cases books.isRevoked current <;> rfl

/-! ## Preparation -/

def begun (e : Evaluator M R) : Evaluator M R :=
  { e with allocations := [], evaluations := e.evaluations + 1, cache := e.cache.beginCycle }

def prepare (e : Evaluator M R) (books : Books R) (default : Tariff R) (now : Instant) :
    Comparison R × Evaluator M R :=
  let counted : Evaluator M R :=
    { e with allocations := [], evaluations := e.evaluations + 1, cache := e.cache.beginCycle }
  let candidates := e.candidates books now
  let appraised := counted.appraiseDefault default now
  ({ candidates, default, defaultAppraisal := appraised.1, inertia := e.effectiveInertia, now },
    candidates.foldl (fun e tariff => (e.appraise tariff now).2) appraised.2)

theorem evaluate_of_default {e : Evaluator M R} {books : Books R} {default : Tariff R}
    (found : books.market.defaultFor e.customer.powerType = some default) (now : Instant) :
    (e.evaluate books now).1 =
      (books.roster.activeOf (e.prepare books default now).2.customer.id).foldl
        (allocateSubscription books (e.prepare books default now).1)
        (e.prepare books default now).2 := by
  simp only [evaluate, found]
  rfl

theorem evaluate_of_missing {e : Evaluator M R} {books : Books R}
    (missing : books.market.defaultFor e.customer.powerType = none) (now : Instant) :
    e.evaluate books now = ({ e with allocations := [] }, books) := by
  simp only [evaluate, missing]

end Evaluator

end RetailMarket
