import RetailMarket.Books
import RetailMarket.Evaluation.Scoring

/-!
# Allocation

Once a cycle a population compares the tariffs it could move to with the default tariff, and moves
its members chunk by chunk as the samples of its model decide. The moves are issued as directives;
they take effect when the market settles.
-/

namespace RetailMarket

namespace Evaluator

variable {M R : Type} [Quantity R] [CustomerModel M R]

/-! ## Moves -/

def adjust (tariff : Tariff R) (change : Int) :
    List (Tariff R × Int) → List (Tariff R × Int)
  | [] => [(tariff, change)]
  | (t, n) :: rest =>
    if t.id = tariff.id then (t, n + change) :: rest else (t, n) :: adjust tariff change rest

/-- Moves members and tells the model; a move to where they are is none. -/
def transfer (e : Evaluator M R) (origin destination : Tariff R) (count : Nat) : Evaluator M R :=
  if origin.id = destination.id then e
  else
    let moved : Transfer :=
      { customer := e.customer.id, origin := origin.id, destination := destination.id, count }
    { e with
      allocations := adjust destination (signed count) (adjust origin (-signed count) e.allocations)
      model := CustomerModel.notify e.model moved }

/-- The sizes of the decisions on a population: chunks, and what is left at the end. -/
def decisionSizes (chunk population : Nat) : List Nat :=
  if _h : 0 < chunk ∧ 0 < population then
    min population chunk :: decisionSizes chunk (population - min population chunk)
  else []
termination_by population
decreasing_by omega

def staysPut (e : Evaluator M R) (comparison : Comparison R) (position : Position R)
    (bonus sample : R) : Bool :=
  (!position.isRevoked && decide (position.leaving ≤ 0) && decide (bonus ≤ 0)
      && decide (sample < comparison.inertia))
    || (decide (0 < bonus) && decide (sample < comparison.inertia * e.settings.signupBonusFactor))

def decideChunk (comparison : Comparison R) (position : Position R)
    (alternatives : List (Alternative R)) (bonus : R) (e : Evaluator M R) (count : Nat) :
    Evaluator M R :=
  let (inertiaSample, model) := CustomerModel.inertiaSample e.model
  let e := { e with model }
  if e.staysPut comparison position bonus inertiaSample then e
  else
    let (sample, model) := CustomerModel.choiceSample e.model
    let e := { e with model }
    match Alternative.choose? sample alternatives with
    | none => e
    | some destination => e.transfer position.current destination count

def allocate (books : Books R) (comparison : Comparison R) (current : Tariff R) (leaving : R)
    (population : Nat) (e : Evaluator M R) : Evaluator M R :=
  if population = 0 then e
  else
    let offered := pushUnique (comparison.candidates.foldl pushUnique []) comparison.default
    let (position, tariffs) : Position R × List (Tariff R) :=
      if books.isRevoked current then
        let successor := (books.market.successor? books.catalogue current e.customer.powerType
          comparison.now).getD comparison.default
        ({ current, isRevoked := true, replacement := some successor.id, leaving := 0 },
          pushUnique offered successor)
      else
        ({ current, isRevoked := false, replacement := none, leaving }, pushUnique offered current)
    let (alternatives, bonus, e) := scoreAll comparison position e 0 tariffs
    let alternatives := Alternative.assignProbabilities
      (Utility.sharpness greatestSharpness e.settings.rationality)
      (Alternative.ranked alternatives)
    (decisionSizes (e.decisionChunk population) population).foldl
      (decideChunk comparison position alternatives bonus) e

/-- Allocates a subscription. Members under contract are decided on apart from those who are free
to leave, unless leaving costs nothing or all are free. -/
def allocateSubscription (books : Books R) (comparison : Comparison R) (e : Evaluator M R)
    (subscription : Subscription R) : Evaluator M R :=
  let tariff := subscription.tariff
  let leaving := tariff.earlyWithdrawPayment
  let committed := subscription.committed
  let expired := subscription.expiredCount comparison.now
  if (leaving == 0) = true ∨ (0 < expired ∧ expired = committed) then
    allocate books comparison tariff 0 committed e
  else
    allocate books comparison tariff leaving (committed - expired)
      (allocate books comparison tariff 0 expired e)

def issue (customer : Customer) (books : Books R) (allocation : Tariff R × Int) : Books R :=
  let (tariff, change) := allocation
  if change < 0 then books.unsubscribe ⟨customer.id, tariff.id⟩ change.natAbs
  else books.direct tariff customer change

/-- The tariffs compared: recent offers, and those that superseded a revoked tariff on which the
customer still has members. -/
def candidates (e : Evaluator M R) (books : Books R) (now : Instant) : List (Tariff R) :=
  let revoked := (books.roster.activeOf e.customer.id).filter fun s => books.isRevoked s.tariff
  (revoked.filterMap fun s => Market.superseding? books.catalogue s.tariff now).foldl pushUnique
    (books.catalogue.recentOffers e.settings.depth e.customer.powerType now)

/-- Runs one evaluation and issues its directives. Without a default tariff there is none. -/
def evaluate (e : Evaluator M R) (books : Books R) (now : Instant) : Evaluator M R × Books R :=
  let e := { e with allocations := [] }
  match books.market.defaultFor e.customer.powerType with
  | none => (e, books)
  | some default =>
    let candidates := e.candidates books now
    let inertia := e.effectiveInertia
    let e := { e with evaluations := e.evaluations + 1, cache := e.cache.beginCycle }
    let (defaultAppraisal, e) := e.appraiseDefault default now
    let e := candidates.foldl (fun e tariff => (e.appraise tariff now).2) e
    let comparison : Comparison R := { candidates, default, defaultAppraisal, inertia, now }
    let e := (books.roster.activeOf e.customer.id).foldl (allocateSubscription books comparison) e
    (e, e.allocations.foldl (issue e.customer) books)

def evaluateEach (now : Instant) :
    Books R → List (Evaluator M R) → List (Evaluator M R) × Books R
  | books, [] => ([], books)
  | books, e :: rest =>
    let (e, next) := evaluate e books now
    let (others, last) := evaluateEach now next rest
    (e :: others, last)

end Evaluator

end RetailMarket
