import Mathlib.Algebra.Order.Floor.Div
import RetailMarket.Customer.Scripted
import RetailMarket.Proofs.Evacuation

/-!
# How a population is divided

Whatever settings have been made of an evaluator, or refused, the chunk for a population has at
least one member and at most all.  So the decisions on a population come to an end: each is on a
whole chunk but the last, which is on what is left.  Truncating division can make them more than the
number aimed at, but fewer than twice as many.
-/

namespace RetailMarket

/-! ## Settings -/

inductive Setting (R : Type) where
  | chunkSize (size : Nat)
  | maxChunkCount (count : Nat)
  | depth (depth : Nat)
  | inertia (inertia : R)
  | signupBonusFactor (factor : R)
  | rationality (rationality : R)
  | inconvenienceWeight (weight : R)
  | switchFactor (factor : R)
  | preferredDays (days : R)
  | evaluateAll (evaluateAll : Bool)
  | featureWeights (weights : FeatureWeights R)
  | regulation (curtailment discharge absorption : R)
  | priceWeights (mean worst : R)
  deriving Repr

namespace Evaluator

section Settings

variable {M R : Type} [Quantity R]

def set (e : Evaluator M R) : Setting R → Evaluator M R
  | .chunkSize size => e.setChunkSize size
  | .maxChunkCount count => e.setMaxChunkCount count
  | .depth depth => e.setDepth depth
  | .inertia inertia => e.setInertia inertia
  | .signupBonusFactor factor => e.setSignupBonusFactor factor
  | .rationality rationality => e.setRationality rationality
  | .inconvenienceWeight weight => e.setInconvenienceWeight weight
  | .switchFactor factor => e.setSwitchFactor factor
  | .preferredDays days => e.setPreferredDays days
  | .evaluateAll evaluateAll => e.setEvaluateAll evaluateAll
  | .featureWeights weights => e.setFeatureWeights weights
  | .regulation curtailment discharge absorption => e.setRegulation curtailment discharge absorption
  | .priceWeights mean worst => e.setPriceWeights mean worst

def setAll (e : Evaluator M R) (settings : List (Setting R)) : Evaluator M R :=
  settings.foldl set e

def configured (customer : Customer) (model : M) (settings : List (Setting R)) : Evaluator M R :=
  (standard customer model).setAll settings

theorem configured_induction {P : Evaluator M R → Prop} {customer : Customer} {model : M}
    (start : P (standard customer model)) (step : ∀ e setting, P e → P (e.set setting))
    (settings : List (Setting R)) : P (configured customer model settings) := by
  have onward (e : Evaluator M R) (holds : P e) : P (e.setAll settings) := by
    induction settings generalizing e with
    | nil => exact holds
    | cons setting rest ih => exact ih (e.set setting) (step e setting holds)
  exact onward _ start

theorem exists_set_eq (e : Evaluator M R) (setting : Setting R) :
    ∃ settings weights forecaster isBypassed, e.set setting =
      { e with settings, weights, forecaster, cache := e.cache.setBypass isBypassed } := by
  cases setting with
  | chunkSize size =>
      simp only [set, setChunkSize]
      split <;> exact ⟨_, _, _, _, rfl⟩
  | maxChunkCount count =>
      simp only [set, setMaxChunkCount]
      split <;> exact ⟨_, _, _, _, rfl⟩
  | rationality rationality =>
      simp only [set, setRationality]
      split <;> exact ⟨_, _, _, _, rfl⟩
  | preferredDays days =>
      simp only [set, setPreferredDays]
      split <;> exact ⟨_, _, _, _, rfl⟩
  | _ => exact ⟨_, _, _, _, rfl⟩

theorem customer_configured (customer : Customer) (model : M) (settings : List (Setting R)) :
    (configured customer model settings).customer = customer := by
  refine configured_induction (P := fun e => e.customer = customer) rfl ?_ settings
  intro e setting same
  obtain ⟨_, _, _, _, changed⟩ := exists_set_eq e setting
  rw [changed]
  exact same

theorem get?_cache_configured (customer : Customer) (model : M) (settings : List (Setting R))
    (id : TariffId) : (configured customer model settings).cache.get? id = none := by
  refine configured_induction (P := fun e => e.cache.get? id = none) ?_ ?_ settings
  · exact Std.HashMap.getElem?_empty
  · intro e setting empty
    obtain ⟨_, _, _, _, changed⟩ := exists_set_eq e setting
    rw [changed]
    exact empty

/-- Chunks of no members, or as none at all, are never aimed at. -/
structure Chunking (e : Evaluator M R) : Prop where
  size : 0 < e.settings.chunkSize
  most : 0 < e.settings.maxChunkCount

theorem Chunking.set {e : Evaluator M R} (chunking : e.Chunking) (setting : Setting R) :
    (e.set setting).Chunking := by
  cases setting with
  | chunkSize size =>
      simp only [Evaluator.set, setChunkSize]
      split
      next positive => exact ⟨positive, chunking.most⟩
      next => exact chunking
  | maxChunkCount count =>
      simp only [Evaluator.set, setMaxChunkCount]
      split
      next positive => exact ⟨chunking.size, positive⟩
      next => exact chunking
  | rationality rationality =>
      simp only [Evaluator.set, setRationality]
      split <;> exact ⟨chunking.size, chunking.most⟩
  | preferredDays days =>
      simp only [Evaluator.set, setPreferredDays]
      split <;> exact ⟨chunking.size, chunking.most⟩
  | _ => exact ⟨chunking.size, chunking.most⟩

theorem chunking_configured (customer : Customer) (model : M) (settings : List (Setting R)) :
    (configured customer model settings).Chunking :=
  configured_induction ⟨Nat.one_pos, Nat.succ_pos _⟩
    (fun _ setting chunking => chunking.set setting) settings

end Settings

/-! ## Chunks -/

section Chunk

variable {M R : Type} {e : Evaluator M R} {population : Nat}

theorem decisionChunk_le (e : Evaluator M R) (population : Nat) :
    e.decisionChunk population ≤ population := by
  unfold decisionChunk chunkFor
  split
  · split
    · exact le_rfl
    · rename_i large
      exact max_le (Nat.div_le_self _ _) (not_le.1 large).le
  · exact le_rfl

/-- As many chunks as are aimed at leave less than one for each of them: truncation takes less than
a member off each chunk, and a chunk has at least one. -/
theorem le_decisionChunk_mul (positive : 0 < population) (chunking : e.Chunking)
    (multi : e.customer.multiContracting = true) :
    population ≤ e.decisionChunk population * (2 * e.settings.maxChunkCount - 1) := by
  have most := chunking.most
  have least : 1 ≤ e.decisionChunk population := decisionChunk_pos chunking.size positive
  have quotient : population / e.settings.maxChunkCount ≤ e.decisionChunk population := by
    rw [decisionChunk, if_pos multi, chunkFor]
    split
    · exact Nat.div_le_self _ _
    · exact le_max_left _ _
  calc
    population ≤ population / e.settings.maxChunkCount * e.settings.maxChunkCount +
        (e.settings.maxChunkCount - 1) := by
      have division := Nat.div_add_mod' population e.settings.maxChunkCount
      have remainder := Nat.mod_lt population most
      omega
    _ ≤ e.decisionChunk population * e.settings.maxChunkCount +
        e.decisionChunk population * (e.settings.maxChunkCount - 1) :=
      Nat.add_le_add (Nat.mul_le_mul_right _ quotient) (Nat.le_mul_of_pos_left _ least)
    _ = e.decisionChunk population * (2 * e.settings.maxChunkCount - 1) := by
      rw [← Nat.mul_add]
      congr 1
      omega

end Chunk

/-! ## The loop -/

theorem exists_decisionSizes_eq {chunk population : Nat} (chunked : 0 < chunk)
    (positive : 0 < population) :
    ∃ whole last, 0 < last ∧ last ≤ chunk ∧
      decisionSizes chunk population = List.replicate whole chunk ++ [last] := by
  fun_induction decisionSizes chunk population with
  | case1 population _ ih =>
      rcases le_or_gt population chunk with rest | more
      · have none : population - min population chunk = 0 := by omega
        rw [none, decisionSizes, dif_neg fun both => lt_irrefl 0 both.2, min_eq_left rest]
        exact ⟨0, population, positive, rest, rfl⟩
      · rw [min_eq_right more.le] at ih ⊢
        obtain ⟨whole, last, some, most, sizes⟩ := ih (Nat.sub_pos_of_lt more)
        exact ⟨whole + 1, last, some, most, by rw [sizes, List.replicate_succ, List.cons_append]⟩
  | case2 population idle => exact absurd ⟨chunked, positive⟩ idle

theorem decisionSizes_eq {chunk population : Nat} (chunked : 0 < chunk)
    (positive : 0 < population) :
    ∃ last, 0 < last ∧ last ≤ chunk ∧
      decisionSizes chunk population =
        List.replicate (population ⌈/⌉ chunk - 1) chunk ++ [last] ∧
      (decisionSizes chunk population).length = population ⌈/⌉ chunk := by
  obtain ⟨whole, last, some, most, sizes⟩ := exists_decisionSizes_eq chunked positive
  have sum := sum_decisionSizes chunked population
  rw [sizes, List.sum_append, List.sum_replicate, List.sum_singleton, smul_eq_mul] at sum
  have count : population ⌈/⌉ chunk = whole + 1 := by
    have rest : last + chunk - 1 = (last - 1) + chunk := by omega
    rw [Nat.ceilDiv_eq_add_pred_div, ← sum, Nat.add_assoc, Nat.add_sub_assoc (by omega), rest,
      Nat.mul_comm, Nat.mul_add_div chunked, Nat.add_div_right _ chunked,
      Nat.div_eq_of_lt (by omega)]
  refine ⟨last, some, most, by rw [count, Nat.add_sub_cancel, sizes], ?_⟩
  rw [count, sizes, List.length_append, List.length_replicate, List.length_singleton]

variable {M R : Type} [Quantity R] [CustomerModel M R]

/-- After any settings, refused ones included, a population with members is divided by a number that
is not zero into chunks of at least one member.  The decisions on it are as many as there are
chunks, counted up; each is on a whole chunk except perhaps the last, and together they are on all
members.  A population that may split makes fewer than twice the decisions aimed at. -/
theorem decisions_divide_population (customer : Customer) (model : M) (settings : List (Setting R))
    {population : Nat} (positive : 0 < population) :
    let e := configured customer model settings
    let chunk := e.decisionChunk population
    let sizes := decisionSizes chunk population
    e.settings.maxChunkCount ≠ 0 ∧ 1 ≤ chunk ∧ chunk ≤ population ∧
      sizes.length = population ⌈/⌉ chunk ∧ sizes.sum = population ∧
      (∃ last, 0 < last ∧ last ≤ chunk ∧
        sizes = List.replicate (population ⌈/⌉ chunk - 1) chunk ++ [last]) ∧
      (customer.multiContracting = true → sizes.length ≤ 2 * e.settings.maxChunkCount - 1) ∧
      ∀ f : Evaluator M R, f.customer = customer → f.settings = e.settings →
        ∀ (books : Books R) (comparison : Comparison R) (current : Tariff R) (leaving : R),
          ∃ decisions, decisions.map Decision.count = sizes ∧
            Decided decisions f (allocate books comparison current leaving population f) := by
  intro e chunk sizes
  have own : e.customer = customer := customer_configured customer model settings
  have chunking : e.Chunking := chunking_configured customer model settings
  have least : 0 < chunk := decisionChunk_pos chunking.size positive
  obtain ⟨last, some, most, parts, count⟩ := decisionSizes_eq least positive
  refine ⟨chunking.most.ne', least, decisionChunk_le e population, count,
    sum_decisionSizes least population, ⟨last, some, most, parts⟩, fun multi => ?_, ?_⟩
  · rw [count]
    apply (ceilDiv_le_iff_le_mul least).2
    exact le_decisionChunk_mul positive chunking (own ▸ multi)
  · intro f same kept books comparison current leaving
    obtain ⟨decisions, cut, -, decided⟩ :=
      exists_decisions_allocate books comparison current leaving population f
    have divided : f.decisionChunk population = chunk := by
      simp only [chunk, decisionChunk, chunkFor, same, kept, own]
    rw [divided] at cut
    exact ⟨decisions, cut, decided⟩

namespace Trio

def customer : Customer :=
  { id := ⟨1⟩, name := "trio", population := 3, powerType := .consumption,
    multiContracting := true }

def settings : List (Setting Float) := [.maxChunkCount 2, .maxChunkCount 0, .chunkSize 0]

def evaluator : Evaluator (ScriptedCustomer Float) Float :=
  configured customer .standard settings

def comparison : Comparison Float :=
  { candidates := [], default := Tariff.free ⟨1⟩ "local" .consumption,
    defaultAppraisal := ⟨0, 0⟩, inertia := 0, now := ⟨0⟩ }

end Trio

theorem decisions_divide_population_trio :
    Trio.evaluator.settings.maxChunkCount = 2 ∧
      decisionSizes (Trio.evaluator.decisionChunk 3) 3 = [1, 1, 1] ∧
      (decisionSizes (Trio.evaluator.decisionChunk 3) 3).length ≤ 3 ∧
      ∃ decisions, decisions.map Decision.count = [1, 1, 1] ∧
        Decided decisions Trio.evaluator
          (allocate {} Trio.comparison Trio.comparison.default 0 3 Trio.evaluator) := by
  obtain ⟨-, -, -, -, -, ⟨last, some, most, parts⟩, bound, loop⟩ := decisions_divide_population
    Trio.customer (ScriptedCustomer.standard (R := Float)) Trio.settings (Nat.succ_pos 2)
  have chunk : Trio.evaluator.decisionChunk 3 = 1 := rfl
  have sizes : decisionSizes (Trio.evaluator.decisionChunk 3) 3 = [1, 1, 1] := by
    have single : last = 1 := Nat.le_antisymm most some
    exact parts.trans (by rw [single]; rfl)
  obtain ⟨decisions, cut, decided⟩ :=
    loop Trio.evaluator rfl rfl {} Trio.comparison Trio.comparison.default 0
  exact ⟨rfl, sizes, bound rfl, decisions, cut.trans sizes, decided⟩

end Evaluator

end RetailMarket
