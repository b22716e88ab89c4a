import RetailMarket.Proofs.Evaluation

/-!
# The decisions of an evaluation

An evaluation decides on one group of members after another.  It draws an inertia sample for each,
which may keep the group where it is, and takes the group to the tariff that a choice sample picks
otherwise.  Whatever rule holds of all decisions that follow this course, the decisions of an
evaluation obey.
-/

namespace RetailMarket

theorem exists_of_mem_flatten {α β : Type} {holds : α → β → Prop} {xs : List α}
    {groups : List (List β)} (each : List.Forall₂ (fun x ys => ∀ y ∈ ys, holds x y) xs groups)
    {y : β} (listed : y ∈ groups.flatten) : ∃ x ∈ xs, holds x y := by
  induction each with
  | nil => cases listed
  | @cons x ys _ _ own _ ih =>
      rcases List.mem_append.1 (List.flatten_cons ▸ listed) with here | there
      · exact ⟨x, List.mem_cons_self, own y here⟩
      · obtain ⟨other, member, held⟩ := ih there
        exact ⟨other, List.mem_cons_of_mem _ member, held⟩

namespace Evaluator

variable {M R : Type}

/-! ## Decisions in order -/

/-- What was decided on a group of members: the inertia sample drawn for them and the tariff picked
for them, if any was. -/
structure Decision (R : Type) where
  origin : Tariff R
  count : Nat
  sample : R
  destination : Option (Tariff R)

/-- The move that a decision makes; to stay on a tariff, whether or not it was picked, is none. -/
def Decision.move? (decision : Decision R) : Option (Move R) :=
  (decision.destination.filter fun tariff => decision.origin.id != tariff.id).map fun tariff =>
    { origin := decision.origin, destination := tariff, count := decision.count }

def movesOf (decisions : List (Decision R)) : List (Move R) :=
  decisions.filterMap Decision.move?

theorem Decision.eq_of_move? {decision : Decision R} {move : Move R}
    (moves : decision.move? = some move) :
    decision.destination = some move.destination ∧ move.origin = decision.origin ∧
      move.count = decision.count ∧ move.origin.id ≠ move.destination.id := by
  obtain ⟨tariff, picked, rfl⟩ := Option.map_eq_some_iff.1 moves
  obtain ⟨destination, elsewhere⟩ := Option.filter_eq_some_iff.1 picked
  exact ⟨destination, rfl, rfl, by simpa using elsewhere⟩

theorem movesOf_append (earlier later : List (Decision R)) :
    movesOf (earlier ++ later) = movesOf earlier ++ movesOf later :=
  List.filterMap_append

variable [CustomerModel M R]

/-- A list, kept by a model, of the inertia samples drawn from it. -/
structure Logs (drawn : M → List R) : Prop where
  profile : ∀ (model : M) (tariff : Tariff R) (now : Instant),
    drawn (CustomerModel.profile model tariff now).2 = drawn model
  choiceSample : ∀ model, drawn (CustomerModel.choiceSample model).2 = drawn model
  inertiaSample : ∀ model, drawn (CustomerModel.inertiaSample model).2 =
    drawn model ++ [(CustomerModel.inertiaSample model).1]
  notify : ∀ model transfer, drawn (CustomerModel.notify model transfer) = drawn model

variable [Quantity R]

/-- An evaluator before and after some decisions, for which all inertia samples were drawn and
which have made all moves. -/
structure Decided (decisions : List (Decision R)) (before after : Evaluator M R) : Prop where
  moved : Moved (movesOf decisions) before after
  drawn : ∀ drawn : M → List R, Logs drawn →
    drawn after.model = drawn before.model ++ decisions.map Decision.sample
  profiled : 0 < before.profileLength → 0 < after.profileLength

omit [Quantity R] in
theorem Decided.quiet {before after : Evaluator M R} (moved : Moved [] before after)
    (drawn : ∀ drawn : M → List R, Logs drawn → drawn after.model = drawn before.model)
    (profiled : 0 < before.profileLength → 0 < after.profileLength) : Decided [] before after :=
  ⟨moved, fun record logs => by rw [drawn record logs, List.map_nil, List.append_nil], profiled⟩

omit [Quantity R] in
theorem Decided.refl (e : Evaluator M R) : Decided [] e e :=
  Decided.quiet (Moved.refl e) (fun _ _ => rfl) id

omit [Quantity R] in
theorem Decided.trans {earlier later : List (Decision R)} {first second third : Evaluator M R}
    (start : Decided earlier first second) (rest : Decided later second third) :
    Decided (earlier ++ later) first third := by
  refine ⟨?_, ?_, rest.profiled ∘ start.profiled⟩
  · rw [movesOf_append]
    exact start.moved.trans rest.moved
  · intro drawn logs
    rw [rest.drawn drawn logs, start.drawn drawn logs, List.map_append, List.append_assoc]

theorem decided_forecastCost (e : Evaluator M R) (tariff : Tariff R) (now : Instant) :
    Decided [] e (e.forecastCost tariff now).2 := by
  refine Decided.quiet (moved_forecastCost e tariff now) ?_ ?_ <;> rw [forecastCost_eq]
  · exact fun _ logs => logs.profile e.model tariff now
  · intro positive
    dsimp only
    split
    · exact positive
    · rename_i usage
      exact List.length_pos_iff.2 (by simpa using usage)

theorem decided_appraiseWith (e : Evaluator M R) (tariff : Tariff R) (inconvenience : R)
    (now : Instant) : Decided [] e (e.appraiseWith tariff inconvenience now).2 := by
  cases cached : e.cache.get? tariff.id with
  | some appraisal =>
      rw [appraiseWith_of_get? cached]
      exact Decided.refl e
  | none =>
      have moved := moved_appraiseWith e tariff inconvenience now
      rw [appraiseWith_of_missing cached] at moved ⊢
      have forecast := decided_forecastCost e tariff now
      exact ⟨moved, forecast.drawn, forecast.profiled⟩

theorem decided_appraiseAll (e : Evaluator M R) (now : Instant) (tariffs : List (Tariff R)) :
    Decided [] e (appraiseAll now e tariffs) := by
  induction tariffs generalizing e with
  | nil => exact Decided.refl e
  | cons tariff rest ih => exact (decided_appraiseWith e tariff _ now).trans (ih _)

theorem decided_scoreAll (comparison : Comparison R) (position : Position R) (e : Evaluator M R)
    (bonus : R) (tariffs : List (Tariff R)) :
    Decided [] e (scoreAll comparison position e bonus tariffs).2.2 := by
  rw [scoreAll_appraises]
  exact decided_appraiseAll e comparison.now tariffs

theorem decided_prepare (e : Evaluator M R) (books : Books R) (default : Tariff R)
    (now : Instant) :
    Decided [] { e with allocations := [] } (e.prepare books default now).2 := by
  have begun : Decided [] { e with allocations := [] } e.begun :=
    Decided.quiet (Moved.quiet rfl rfl rfl fun _ _ => rfl) (fun _ _ => rfl) id
  exact (begun.trans (decided_appraiseWith e.begun default 0 now)).trans
    (decided_appraiseAll _ now _)

/-! ## What a decision follows -/

/-- The alternatives that members of a tariff are offered, with their probabilities, and the
largest signup bonus among them. -/
def offer (books : Books R) (comparison : Comparison R) (current : Tariff R) (leaving : R)
    (e : Evaluator M R) : List (Alternative R) × R :=
  let chosen := options books comparison e.customer.powerType current leaving
  let scored := scoreAll comparison chosen.1 e 0 chosen.2
  (Alternative.assignProbabilities
    (Utility.sharpness greatestSharpness e.settings.rationality) (Alternative.ranked scored.1),
    scored.2.1)

theorem perm_offer (books : Books R) (comparison : Comparison R) (current : Tariff R)
    (leaving : R) (e : Evaluator M R) :
    ((offer books comparison current leaving e).1.map Alternative.tariff).Perm
      (options books comparison e.customer.powerType current leaving).2 := by
  rw [offer, Alternative.tariffs_assignProbabilities]
  refine ((Alternative.perm_ranked _).map _).trans (List.Perm.of_eq ?_)
  exact tariffs_scoreAll ..

def isKept (books : Books R) (comparison : Comparison R) (current : Tariff R) (leaving : R)
    (e : Evaluator M R) (sample : R) : Bool :=
  e.staysPut comparison (options books comparison e.customer.powerType current leaving).1
    (offer books comparison current leaving e).2 sample

/-- A decision on members of a tariff: the sample drawn keeps them there, or else they are taken to
what a choice sample picks from the offer. -/
structure Decision.Follows (decision : Decision R) (books : Books R) (comparison : Comparison R)
    (current : Tariff R) (leaving : R) (e : Evaluator M R) : Prop where
  origin : decision.origin = current
  sampled : ∃ model : M, decision.sample = (CustomerModel.inertiaSample model).1
  stays : isKept books comparison current leaving e decision.sample = true →
    decision.destination = none
  goes : isKept books comparison current leaving e decision.sample = false →
    ∃ model : M, decision.destination =
      Alternative.choose? (CustomerModel.choiceSample model).1
        (offer books comparison current leaving e).1

theorem Decision.Follows.destination_mem {decision : Decision R} {books : Books R}
    {comparison : Comparison R} {current : Tariff R} {leaving : R} {e : Evaluator M R}
    (follows : decision.Follows books comparison current leaving e) {tariff : Tariff R}
    (picked : decision.destination = some tariff) :
    tariff ∈ (options books comparison e.customer.powerType current leaving).2 := by
  cases kept : isKept books comparison current leaving e decision.sample with
  | true =>
      rw [follows.stays kept] at picked
      cases picked
  | false =>
      obtain ⟨model, chosen⟩ := follows.goes kept
      rw [picked] at chosen
      exact (perm_offer books comparison current leaving e).mem_iff.1
        (Alternative.mem_of_choose? chosen.symm)

/-! ## One decision -/

omit [Quantity R] in
theorem decided_inertiaSampled (e : Evaluator M R) {decision : Decision R}
    (sampled : decision.sample = (CustomerModel.inertiaSample e.model).1)
    (nowhere : decision.move? = none) : Decided [decision] e e.inertiaSampled := by
  have quiet : movesOf [decision] = [] := by simp [movesOf, nowhere]
  refine ⟨quiet ▸ Moved.quiet rfl rfl rfl fun _ remembers => remembers.inertiaSample e.model,
    fun drawn logs => ?_, id⟩
  rw [List.map_singleton, sampled]
  exact logs.inertiaSample e.model

omit [Quantity R] in
theorem moved_transfer (e : Evaluator M R) (decision : Decision R) {destination : Tariff R}
    (picked : decision.destination = some destination) :
    Moved (movesOf [decision]) e (e.transfer decision.origin destination decision.count) := by
  unfold transfer
  split
  · rename_i same
    have nowhere : movesOf [decision] = [] := by
      simp [movesOf, Decision.move?, picked, Option.filter, same]
    exact nowhere ▸ Moved.refl e
  · rename_i different
    have elsewhere : movesOf [decision] = [⟨decision.origin, destination, decision.count⟩] := by
      simp [movesOf, Decision.move?, picked, Option.filter, different]
    rw [elsewhere]
    exact ⟨rfl, rfl, rfl, fun _ remembers => remembers.notify _ _⟩

omit [Quantity R] in
theorem drawn_transfer (e : Evaluator M R) (origin destination : Tariff R) (count : Nat)
    {drawn : M → List R} (logs : Logs drawn) :
    drawn (e.transfer origin destination count).model = drawn e.model := by
  unfold transfer
  split
  · rfl
  · exact logs.notify _ _

omit [Quantity R] in
theorem profileLength_transfer (e : Evaluator M R) (origin destination : Tariff R)
    (count : Nat) : (e.transfer origin destination count).profileLength = e.profileLength := by
  unfold transfer
  split <;> rfl

def decisionOn (comparison : Comparison R) (position : Position R)
    (alternatives : List (Alternative R)) (bonus : R) (e : Evaluator M R) (count : Nat) :
    Decision R :=
  let sample := (CustomerModel.inertiaSample e.model).1
  { origin := position.current, count, sample
    destination := if e.staysPut comparison position bonus sample then none
      else Alternative.choose? (CustomerModel.choiceSample e.inertiaSampled.model).1
        alternatives }

theorem decisionOn_follows (books : Books R) (comparison : Comparison R) (current : Tariff R)
    (leaving : R) {e f : Evaluator M R} (settings : f.settings = e.settings) (count : Nat) :
    (decisionOn comparison (options books comparison e.customer.powerType current leaving).1
      (offer books comparison current leaving e).1 (offer books comparison current leaving e).2
      f count).Follows books comparison current leaving e := by
  have same (sample : R) : f.staysPut comparison
      (options books comparison e.customer.powerType current leaving).1
      (offer books comparison current leaving e).2 sample =
        isKept books comparison current leaving e sample := by
    simp only [isKept, staysPut, settings]
  refine ⟨current_options books comparison e.customer.powerType current leaving,
    ⟨f.model, rfl⟩, fun kept => ?_, fun away => ?_⟩
  · exact if_pos ((same _).trans kept)
  · exact ⟨_, if_neg (Bool.eq_false_iff.1 ((same _).trans away))⟩

theorem decided_decideChunk (comparison : Comparison R) (position : Position R)
    (alternatives : List (Alternative R)) (bonus : R) (e : Evaluator M R) (count : Nat) :
    Decided [decisionOn comparison position alternatives bonus e count] e
      (decideChunk comparison position alternatives bonus e count) := by
  let decision := decisionOn comparison position alternatives bonus e count
  have same (sample : R) : e.inertiaSampled.staysPut comparison position bonus sample =
      e.staysPut comparison position bonus sample := rfl
  rw [decideChunk_eq, same]
  split
  · rename_i put
    exact decided_inertiaSampled e rfl (by simp [decisionOn, put, Decision.move?])
  · rename_i away
    have goes : decision.destination = Alternative.choose?
        (CustomerModel.choiceSample e.inertiaSampled.model).1 alternatives := if_neg away
    have chosen : Decided [] e.inertiaSampled e.inertiaSampled.choiceSampled :=
      Decided.quiet
        (Moved.quiet rfl rfl rfl fun _ remembers => remembers.choiceSample _)
        (fun _ logs => logs.choiceSample _) id
    have sampled (drawn : M → List R) (logs : Logs drawn) :
        drawn e.inertiaSampled.choiceSampled.model = drawn e.model ++ [decision.sample] := by
      rw [chosen.drawn drawn logs]
      exact (List.append_nil _).trans (logs.inertiaSample e.model)
    cases picked : Alternative.choose? (CustomerModel.choiceSample e.inertiaSampled.model).1
        alternatives with
    | none =>
        have nowhere : decision.move? = none := by simp [Decision.move?, goes, picked]
        exact (decided_inertiaSampled e rfl nowhere).trans chosen
    | some destination =>
        have quiet : Moved [] e e.inertiaSampled.choiceSampled :=
          Moved.quiet rfl rfl rfl fun _ remembers =>
            (remembers.choiceSample _).trans (remembers.inertiaSample e.model)
        refine ⟨?_, ?_, ?_⟩
        · exact quiet.trans (moved_transfer _ decision (goes.trans picked))
        · intro drawn logs
          exact (drawn_transfer _ _ _ _ logs).trans (sampled drawn logs)
        · intro positive
          have kept := profileLength_transfer e.inertiaSampled.choiceSampled decision.origin
            destination decision.count
          exact kept.symm ▸ positive

/-! ## All decisions -/

theorem exists_decisions_decideAll (rule : Decision R → Prop) (comparison : Comparison R)
    (position : Position R) (alternatives : List (Alternative R)) (bonus : R) (e : Evaluator M R)
    (sizes : List Nat) (obeyed : ∀ (f : Evaluator M R) count, f.settings = e.settings →
      rule (decisionOn comparison position alternatives bonus f count)) :
    ∃ decisions, decisions.map Decision.count = sizes ∧ (∀ decision ∈ decisions, rule decision) ∧
      Decided decisions e
        (sizes.foldl (decideChunk comparison position alternatives bonus) e) := by
  induction sizes generalizing e with
  | nil => exact ⟨[], rfl, by simp, Decided.refl e⟩
  | cons size rest ih =>
      have first := decided_decideChunk comparison position alternatives bonus e size
      obtain ⟨later, sizes, obey, decided⟩ :=
        ih (decideChunk comparison position alternatives bonus e size) fun f count kept =>
          obeyed f count (kept.trans first.moved.settings)
      refine ⟨_ :: later, ?_, List.forall_mem_cons.2 ⟨obeyed e size rfl, obey⟩,
        first.trans decided⟩
      rw [List.map_cons, sizes]
      rfl

theorem exists_decisions_allocate (books : Books R) (comparison : Comparison R)
    (current : Tariff R) (leaving : R) (population : Nat) (e : Evaluator M R) :
    ∃ decisions, decisions.map Decision.count =
        decisionSizes (e.decisionChunk population) population ∧
      (∀ decision ∈ decisions, decision.Follows books comparison current leaving e) ∧
      Decided decisions e (allocate books comparison current leaving population e) := by
  by_cases nobody : population = 0
  · have none : decisionSizes (e.decisionChunk population) population = [] := by
      rw [decisionSizes, dif_neg fun both => absurd nobody both.2.ne']
    rw [none, allocate, if_pos nobody]
    exact ⟨[], rfl, by simp, Decided.refl e⟩
  · let chosen := options books comparison e.customer.powerType current leaving
    let scored := scoreAll comparison chosen.1 e 0 chosen.2
    have scores : Decided [] e scored.2.2 := decided_scoreAll comparison chosen.1 e 0 chosen.2
    have settings : scored.2.2.settings = e.settings := scores.moved.settings
    have chunk : scored.2.2.decisionChunk population = e.decisionChunk population := by
      simp only [decisionChunk, chunkFor, settings, scores.moved.customer]
    let offered := offer books comparison current leaving e
    have decides : decideMembers comparison chosen.1 population scored =
        (decisionSizes (e.decisionChunk population) population).foldl
          (decideChunk comparison chosen.1 offered.1 offered.2) scored.2.2 := by
      rw [decideMembers, settings, chunk]
      rfl
    rw [allocate_eq _ _ _ _ nobody]
    change ∃ decisions, _ ∧ _ ∧ Decided decisions e
      (decideMembers comparison chosen.1 population scored)
    rw [decides]
    obtain ⟨decisions, sizes, follow, decided⟩ := exists_decisions_decideAll
      (fun decision => decision.Follows books comparison current leaving e) comparison chosen.1
      offered.1 offered.2 scored.2.2 (decisionSizes (e.decisionChunk population) population)
      fun f count kept =>
        decisionOn_follows books comparison current leaving (kept.trans settings) count
    exact ⟨decisions, sizes, follow, scores.trans decided⟩

def groupSizes (e : Evaluator M R) (now : Instant) (subscription : Subscription R) : List Nat :=
  let sizes (population : Nat) := decisionSizes (e.decisionChunk population) population
  let committed := subscription.committed
  let expired := subscription.expiredCount now
  if (subscription.tariff.earlyWithdrawPayment == 0) = true ∨ (0 < expired ∧ expired = committed)
  then sizes committed
  else sizes expired ++ sizes (committed - expired)

omit [CustomerModel M R] in
theorem groupSizes_congr {e f : Evaluator M R} (customer : f.customer = e.customer)
    (settings : f.settings = e.settings) : f.groupSizes = e.groupSizes := by
  funext now subscription
  simp only [groupSizes, decisionChunk, chunkFor, customer, settings]

/-- A rule for the decisions on members of a tariff, from some point of an evaluation on. -/
def Governs (rule : Decision R → Prop) (books : Books R) (comparison : Comparison R)
    (current : Tariff R) (e : Evaluator M R) : Prop :=
  ∀ f : Evaluator M R, (∃ earlier, Decided earlier e f) → ∀ leaving decision,
    Decision.Follows decision books comparison current leaving f → rule decision

theorem Governs.anything (books : Books R) (comparison : Comparison R) (current : Tariff R)
    (e : Evaluator M R) : Governs (fun _ => True) books comparison current e :=
  fun _ _ _ _ _ => trivial

theorem Governs.later {rule : Decision R → Prop} {books : Books R} {comparison : Comparison R}
    {current : Tariff R} {e f : Evaluator M R} (governs : Governs rule books comparison current e)
    {decisions : List (Decision R)} (decided : Decided decisions e f) :
    Governs rule books comparison current f :=
  fun last ⟨_, later⟩ => governs last ⟨_, decided.trans later⟩

structure Obeys (rule : Decision R → Prop) (sizes : List Nat) (decisions : List (Decision R)) :
    Prop where
  sizes : decisions.map Decision.count = sizes
  rule : ∀ decision ∈ decisions, rule decision

theorem exists_obeys_allocate {rule : Decision R → Prop} {books : Books R}
    {comparison : Comparison R} {current : Tariff R} {e : Evaluator M R}
    (governs : Governs rule books comparison current e) (leaving : R) (population : Nat) :
    ∃ decisions,
      Obeys rule (decisionSizes (e.decisionChunk population) population) decisions ∧
        Decided decisions e (allocate books comparison current leaving population e) := by
  obtain ⟨decisions, sizes, follow, decided⟩ :=
    exists_decisions_allocate books comparison current leaving population e
  exact ⟨decisions, ⟨sizes, fun decision listed =>
    governs e ⟨[], Decided.refl e⟩ leaving decision (follow decision listed)⟩, decided⟩

theorem exists_obeys_allocateSubscription {rule : Decision R → Prop} {books : Books R}
    {comparison : Comparison R} {subscription : Subscription R} {e : Evaluator M R}
    (governs : Governs rule books comparison subscription.tariff e) :
    ∃ decisions, Obeys rule (e.groupSizes comparison.now subscription) decisions ∧
      Decided decisions e (allocateSubscription books comparison e subscription) := by
  simp only [allocateSubscription, groupSizes]
  split
  · exact exists_obeys_allocate governs 0 subscription.committed
  · obtain ⟨free, obeyFree, decidedFree⟩ := exists_obeys_allocate governs 0
      (subscription.expiredCount comparison.now)
    obtain ⟨bound, obeyBound, decidedBound⟩ := exists_obeys_allocate
      (governs.later decidedFree) subscription.tariff.earlyWithdrawPayment
      (subscription.committed - subscription.expiredCount comparison.now)
    refine ⟨free ++ bound, ⟨?_, ?_⟩, decidedFree.trans decidedBound⟩
    · rw [List.map_append, obeyFree.sizes, obeyBound.sizes]
      simp only [decisionChunk, chunkFor, decidedFree.moved.customer, decidedFree.moved.settings]
    · exact List.forall_mem_append.2 ⟨obeyFree.rule, obeyBound.rule⟩

theorem exists_obeys_allocateEach {rule : Subscription R → Decision R → Prop} {books : Books R}
    {comparison : Comparison R} {subscriptions : List (Subscription R)} {e : Evaluator M R}
    (governs : ∀ subscription ∈ subscriptions,
      Governs (rule subscription) books comparison subscription.tariff e) :
    ∃ decisions, List.Forall₂ (fun subscription decisions =>
        Obeys (rule subscription) (e.groupSizes comparison.now subscription) decisions)
        subscriptions decisions ∧
      Decided decisions.flatten e
        (subscriptions.foldl (allocateSubscription books comparison) e) := by
  induction subscriptions generalizing e with
  | nil => exact ⟨[], List.Forall₂.nil, Decided.refl e⟩
  | cons subscription rest ih =>
      obtain ⟨here, there⟩ := List.forall_mem_cons.1 governs
      obtain ⟨first, obeyFirst, decidedFirst⟩ := exists_obeys_allocateSubscription here
      obtain ⟨later, obeyLater, decidedLater⟩ :=
        ih fun other listed => (there other listed).later decidedFirst
      rw [groupSizes_congr decidedFirst.moved.customer decidedFirst.moved.settings] at obeyLater
      exact ⟨first :: later, List.Forall₂.cons obeyFirst obeyLater,
        decidedFirst.trans decidedLater⟩

theorem exists_obeys_evaluate {rule : Subscription R → Decision R → Prop} {books : Books R}
    {e : Evaluator M R} {default : Tariff R} {now : Instant}
    (found : books.market.defaultFor e.customer.powerType = some default)
    (governs : ∀ subscription ∈ books.roster.activeOf e.customer.id,
      Governs (rule subscription) books (e.prepare books default now).1 subscription.tariff
        { e with allocations := [] }) :
    ∃ decisions, List.Forall₂ (fun subscription decisions =>
        Obeys (rule subscription) (e.groupSizes now subscription) decisions)
        (books.roster.activeOf e.customer.id) decisions ∧
      Decided decisions.flatten { e with allocations := [] } (e.evaluate books now).1 := by
  have prepared := decided_prepare e books default now
  have customer : (e.prepare books default now).2.customer = e.customer := prepared.moved.customer
  obtain ⟨decisions, obey, decided⟩ := exists_obeys_allocateEach
    fun subscription active => (governs subscription active).later prepared
  rw [groupSizes_congr customer prepared.moved.settings] at obey
  rw [evaluate_of_default found, customer]
  exact ⟨decisions, obey, prepared.trans decided⟩

theorem exists_decided_evaluate (e : Evaluator M R) (books : Books R) (now : Instant) :
    ∃ decisions, Decided decisions { e with allocations := [] } (e.evaluate books now).1 := by
  cases found : books.market.defaultFor e.customer.powerType with
  | none =>
      rw [evaluate_of_missing found]
      exact ⟨[], Decided.refl _⟩
  | some default =>
      obtain ⟨decisions, -, decided⟩ := exists_obeys_evaluate found
        fun subscription _ => Governs.anything books _ subscription.tariff _
      exact ⟨decisions.flatten, decided⟩

theorem customer_evaluate (e : Evaluator M R) (books : Books R) (now : Instant) :
    (evaluate e books now).1.customer = e.customer := by
  obtain ⟨_, decided⟩ := exists_decided_evaluate e books now
  exact decided.moved.customer

end Evaluator

end RetailMarket
