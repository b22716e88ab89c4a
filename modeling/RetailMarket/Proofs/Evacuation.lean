import RetailMarket.Proofs.Choice
import RetailMarket.Proofs.Destinations

/-!
# Leaving revoked tariffs

Over exact numbers a decision on members of a revoked tariff takes them to another tariff, unless a
signup bonus is on offer and their inertia sample is below the share of inertia that a bonus leaves.
So an evaluation empties a revoked tariff but for the groups that such samples keep there.
-/

namespace RetailMarket

theorem Quantity.ofInt_real (n : Int) : (Quantity.ofInt n : ℝ) = n := by
  unfold Quantity.ofInt
  split
  · rename_i negative
    have size : (n.natAbs : ℝ) = -n := by
      rw [Nat.cast_natAbs, abs_of_neg negative, Int.cast_neg]
    exact (congrArg Neg.neg size).trans (neg_neg _)
  · rename_i positive
    exact (Nat.cast_natAbs n).trans (congrArg Int.cast (abs_of_nonneg (not_lt.1 positive)))

/-! ## The inertia samples of an evaluation -/

structure SampleLog (M R : Type) where
  model : M
  samples : List R := []

instance {M R : Type} [CustomerModel M R] : CustomerModel (SampleLog M R) R where
  profile log tariff now :=
    let (profile, model) := CustomerModel.profile log.model tariff now
    (profile, { log with model })
  switchFactor log isSuperseding := CustomerModel.switchFactor log.model isSuperseding
  choiceSample log :=
    let (sample, model) := CustomerModel.choiceSample log.model
    (sample, { log with model })
  inertiaSample log :=
    let (sample, model) := CustomerModel.inertiaSample log.model
    (sample, { model, samples := log.samples ++ [sample] })
  shiftingInconvenience log tariff := CustomerModel.shiftingInconvenience log.model tariff
  notify log transfer := { log with model := CustomerModel.notify log.model transfer }

namespace Evaluator

section Samples

variable {M R : Type}

def logging (e : Evaluator M R) : Evaluator (SampleLog M R) R :=
  { e with model := { model := e.model } }

variable [CustomerModel M R]

theorem answers_sampleLog : Answers (SampleLog.model : SampleLog M R → M) :=
  ⟨fun _ _ _ => rfl, fun _ _ => rfl, fun _ => rfl, fun _ => rfl, fun _ _ => rfl, fun _ _ => rfl⟩

theorem logs_samples : Logs (SampleLog.samples : SampleLog M R → List R) :=
  ⟨fun _ _ _ => rfl, fun _ => rfl, fun _ => rfl, fun _ _ => rfl⟩

variable [Quantity R]

/-- The inertia samples that an evaluation draws, in order. -/
def inertiaSamples (e : Evaluator M R) (books : Books R) (now : Instant) : List R :=
  (e.logging.evaluate books now).1.model.samples

theorem allocations_logging (e : Evaluator M R) (books : Books R) (now : Instant) :
    (e.logging.evaluate books now).1.allocations = (e.evaluate books now).1.allocations :=
  congrArg (fun evaluated => evaluated.1.allocations)
    (evaluate_seen answers_sampleLog e.logging books now).symm

end Samples

/-! ## Bonuses -/

section Bonus

variable {M : Type} [CustomerModel M ℝ]

/-- Some option of a position, neither its tariff nor what takes the place of that, pays those who
sign up. -/
def IsRewarded (position : Position ℝ) (tariffs : List (Tariff ℝ)) : Prop :=
  ∃ tariff ∈ tariffs, ¬ (tariff.id = position.current.id ∨ some tariff.id = position.replacement) ∧
    0 < tariff.signupPayment

omit [CustomerModel M ℝ] in
theorem signupCost_pos_iff {e : Evaluator M ℝ} (preferred : 0 < e.settings.preferredDays)
    (profiled : 0 < e.profileLength) (tariff : Tariff ℝ) :
    0 < e.signupCost tariff ↔ 0 < tariff.signupPayment := by
  have scale : 0 < e.scale := by
    have length : (0 : ℝ) < e.profileLength := by exact_mod_cast profiled
    have hours : (0 : ℝ) < standardHours := by norm_num [standardHours]
    exact div_pos length hours
  unfold signupCost
  dsimp only
  split
  · rename_i fee
    have weight : 0 < e.settings.preferredDays * Quantity.ofInt dayLength /
        Quantity.ofInt signupFeePeriod := by
      simp only [Quantity.ofInt_real]
      have day : (0 : ℝ) < (dayLength : ℝ) := by norm_num [dayLength, hourLength]
      have period : (0 : ℝ) < (signupFeePeriod : ℝ) := by norm_num [signupFeePeriod, hourLength]
      positivity
    rw [mul_assoc, mul_div_assoc, mul_pos_iff_of_pos_right weight]
  · exact mul_pos_iff_of_pos_right scale

theorem signup_score (e : Evaluator M ℝ) (comparison : Comparison ℝ) (position : Position ℝ)
    (tariff : Tariff ℝ) :
    (e.score comparison position tariff).2.1 =
      if tariff.id = position.current.id ∨ some tariff.id = position.replacement then none
      else some ((e.appraise tariff comparison.now).2.signupCost tariff) := by
  unfold score
  by_cases stays : tariff.id = position.current.id ∨ some tariff.id = position.replacement
  · simp only [stays, if_true]
  · simp only [stays, if_false]

omit [CustomerModel M ℝ] in
theorem isRewarded_cons (position : Position ℝ) (tariff : Tariff ℝ) (rest : List (Tariff ℝ)) :
    IsRewarded position (tariff :: rest) ↔
      ¬ (tariff.id = position.current.id ∨ some tariff.id = position.replacement) ∧
          0 < tariff.signupPayment ∨
        IsRewarded position rest :=
  List.exists_mem_cons_iff ..

theorem bonus_pos_iff (comparison : Comparison ℝ) (position : Position ℝ) {e : Evaluator M ℝ}
    (preferred : 0 < e.settings.preferredDays) (profiled : 0 < e.profileLength) (bonus : ℝ)
    (tariffs : List (Tariff ℝ)) :
    0 < (scoreAll comparison position e bonus tariffs).2.1 ↔
      0 < bonus ∨ IsRewarded position tariffs := by
  induction tariffs generalizing e bonus with
  | nil => simp [scoreAll, IsRewarded]
  | cons tariff rest ih =>
      have appraised := decided_appraiseWith e tariff (e.inconvenience tariff) comparison.now
      have preferred' : 0 < (e.appraise tariff comparison.now).2.settings.preferredDays := by
        rw [appraise, appraised.moved.settings]
        exact preferred
      have profiled' : 0 < (e.appraise tariff comparison.now).2.profileLength :=
        appraised.profiled profiled
      simp only [scoreAll, score_appraises, signup_score]
      rw [ih preferred' profiled', isRewarded_cons]
      by_cases stays : tariff.id = position.current.id ∨ some tariff.id = position.replacement
      · simp [stays]
      · simp only [stays, if_false, Option.elim_some, Quantity.larger_real, lt_max_iff,
          signupCost_pos_iff preferred' profiled', not_false_eq_true, true_and, or_assoc]

end Bonus

/-! ## Decisions on members of a revoked tariff -/

section Revoked

variable {M : Type} {books : Books ℝ} {comparison : Comparison ℝ} {current default : Tariff ℝ}
  {now : Instant}

theorem options_ne_nil (books : Books ℝ) (comparison : Comparison ℝ) (powerType : PowerType)
    (current : Tariff ℝ) (leaving : ℝ) :
    (options books comparison powerType current leaving).2 ≠ [] := by
  have pushed (tariffs : List (Tariff ℝ)) (tariff : Tariff ℝ) :
      pushUnique tariffs tariff ≠ [] := by
    unfold pushUnique
    split
    · rename_i known
      rintro rfl
      cases known
    · simp
  unfold options
  split
  · exact pushed _ _
  · exact pushed _ _

theorem options_of_revoked (revoked : books.isRevoked current = true) (powerType : PowerType)
    (leaving : ℝ) :
    options books comparison powerType current leaving =
      options books comparison powerType current 0 := by
  simp only [options, revoked, if_true]

theorem isRevoked_options (revoked : books.isRevoked current = true) (powerType : PowerType)
    (leaving : ℝ) : (options books comparison powerType current leaving).1.isRevoked = true := by
  simp only [options, revoked, if_true]

variable [CustomerModel M ℝ]

theorem exists_choice (books : Books ℝ) (comparison : Comparison ℝ) (current : Tariff ℝ)
    (leaving : ℝ) (e : Evaluator M ℝ) {sample : ℝ} (below : sample < 1) :
    ∃ tariff, Alternative.choose? sample (offer books comparison current leaving e).1 =
      some tariff := by
  let chosen := options books comparison e.customer.powerType current leaving
  let scored := (scoreAll comparison chosen.1 e 0 chosen.2).1
  have tariffs : scored.map Alternative.tariff = chosen.2 := tariffs_scoreAll ..
  have nonempty : Alternative.ranked scored ≠ [] := fun none => by
    have empty : scored = [] := List.Perm.nil_eq (none ▸ Alternative.perm_ranked scored) |>.symm
    rw [empty] at tariffs
    exact options_ne_nil books comparison e.customer.powerType current leaving tariffs.symm
  obtain ⟨place, reaches⟩ := Alternative.exists_reaches_assignProbabilities
    (Utility.sharpness greatestSharpness e.settings.rationality) nonempty below
  obtain ⟨alternative, -, chosen⟩ := Alternative.choose?_of_reaches reaches
  exact ⟨alternative.tariff, chosen⟩

/-- The inertia samples that keep members on a revoked tariff, where a bonus is on offer. -/
def keepers (e : Evaluator M ℝ) (books : Books ℝ) (default : Tariff ℝ) (now : Instant)
    (current : Tariff ℝ) : Set ℝ :=
  let chosen := options books (e.prepare books default now).1 e.customer.powerType current 0
  { sample | IsRewarded chosen.1 chosen.2 ∧
    sample < e.effectiveInertia * e.settings.signupBonusFactor }

theorem isKept_iff {e : Evaluator M ℝ} (preferred : 0 < e.settings.preferredDays)
    (profiled : 0 < e.profileLength) (revoked : books.isRevoked current = true)
    (comparison : Comparison ℝ) (leaving sample : ℝ) :
    isKept books comparison current leaving e sample = true ↔
      IsRewarded (options books comparison e.customer.powerType current 0).1
          (options books comparison e.customer.powerType current 0).2 ∧
        sample < comparison.inertia * e.settings.signupBonusFactor := by
  have bonus := bonus_pos_iff comparison
    (options books comparison e.customer.powerType current leaving).1 preferred profiled 0
    (options books comparison e.customer.powerType current leaving).2
  rw [or_iff_right (lt_irrefl _), options_of_revoked revoked] at bonus
  rw [← bonus]
  simp only [isKept, staysPut, isRevoked_options revoked, Bool.not_true, Bool.false_and,
    Bool.false_or, Bool.and_eq_true, decide_eq_true_eq, offer, options_of_revoked revoked _ leaving]

/-- Where a decision on members of a tariff takes them, which is nowhere exactly if the sample
drawn keeps them on a revoked tariff. -/
structure Decision.Departs (decision : Decision ℝ) (e : Evaluator M ℝ) (books : Books ℝ)
    (default : Tariff ℝ) (now : Instant) (current : Tariff ℝ) : Prop where
  picks : decision.Picks (CanLead books e.customer.powerType now current) current
  sampled : ∃ model : M, decision.sample = (CustomerModel.inertiaSample model).1
  stays : books.isRevoked current = true →
    (decision.destination = none ↔ decision.sample ∈ e.keepers books default now current)

theorem governs_departs {e : Evaluator M ℝ}
    (found : books.market.defaultFor e.customer.powerType = some default)
    (below : ∀ model : M, (CustomerModel.choiceSample model).1 < 1)
    (preferred : 0 < e.settings.preferredDays) (profiled : 0 < e.profileLength)
    (current : Tariff ℝ) :
    Governs (fun decision => decision.Departs e books default now current) books
      (e.prepare books default now).1 current { e with allocations := [] } := by
  rintro f ⟨earlier, reached⟩ leaving decision follows
  have customer : f.customer = e.customer := reached.moved.customer
  have settings : f.settings = e.settings := reached.moved.settings
  refine ⟨?_, follows.sampled, fun revoked => ?_⟩
  · rw [← customer] at found ⊢
    exact follows.picks (choosable_canLead (e.prepare books default now).1 rfl found current)
  · have keeps := isKept_iff (settings ▸ preferred) (reached.profiled profiled) revoked
      (e.prepare books default now).1 leaving decision.sample
    rw [customer, settings] at keeps
    cases kept : isKept books (e.prepare books default now).1 current leaving f
        decision.sample with
    | true => exact iff_of_true (follows.stays kept) (keeps.1 kept)
    | false =>
        obtain ⟨model, chosen⟩ := follows.goes kept
        obtain ⟨tariff, picked⟩ := exists_choice books (e.prepare books default now).1 current
          leaving f (below model)
        refine iff_of_false (by rw [chosen, picked]; exact Option.some_ne_none tariff) ?_
        exact fun low => absurd (keeps.2 low) (Bool.eq_false_iff.1 kept)

end Revoked

/-! ## Counting those who leave -/

section Counting

variable {books : Books ℝ} {powerType : PowerType} {now : Instant} {id : TariffId}
  {kept : Set ℝ} {decisions : List (Decision ℝ)}

noncomputable def released (kept : Set ℝ) (sizes : List Nat) (samples : List ℝ) : Nat :=
  open Classical in
  (((sizes.zip samples).filter fun group => decide (group.2 ∉ kept)).map Prod.fst).sum

theorem released_eq_sum {sizes : List Nat} {samples : List ℝ}
    (groups : samples.length = sizes.length) (free : ∀ sample ∈ samples, sample ∉ kept) :
    released kept sizes samples = sizes.sum := by
  have all : (sizes.zip samples).filter (fun group => open Classical in decide (group.2 ∉ kept)) =
      sizes.zip samples :=
    List.filter_eq_self.2 fun group listed => by
      simpa using free group.2 (List.of_mem_zip listed).2
  rw [released, all, List.map_fst_zip groups.ge]

structure Decision.Frees (decision : Decision ℝ) (id : TariffId) (kept : Set ℝ) : Prop where
  origin : decision.origin.id = id
  stays : decision.destination = none ↔ decision.sample ∈ kept
  elsewhere : ∀ tariff, decision.destination = some tariff → tariff.id ≠ id
  sized : signed decision.count = decision.count

theorem departures_of_frees (free : ∀ decision ∈ decisions, decision.Frees id kept) :
    departures id (movesOf decisions) =
      (released kept (decisions.map Decision.count) (decisions.map Decision.sample) : Int) := by
  induction decisions with
  | nil => rfl
  | cons decision rest ih =>
      obtain ⟨here, there⟩ := List.forall_mem_cons.1 free
      have rest' := ih there
      by_cases keeps : decision.sample ∈ kept
      · have nowhere : decision.move? = none := by
          rw [Decision.move?, here.stays.2 keeps]
          rfl
        rw [movesOf, List.filterMap_cons_none nowhere, ← movesOf, rest']
        simp [released, keeps]
      · obtain ⟨tariff, picked⟩ := Option.ne_none_iff_exists'.1 fun none =>
          keeps (here.stays.1 none)
        have move : decision.move? = some ⟨decision.origin, tariff, decision.count⟩ := by
          have different : decision.origin.id ≠ tariff.id := by
            rw [here.origin]
            exact (here.elsewhere tariff picked).symm
          simp [Decision.move?, picked, Option.filter, different]
        rw [movesOf, List.filterMap_cons_some move, ← movesOf, departures_cons, rest',
          if_pos here.origin, here.sized]
        simp [released, keeps]

theorem departures_of_others (others : ∀ decision ∈ decisions, decision.origin.id ≠ id) :
    departures id (movesOf decisions) = 0 := by
  have nobody : (movesOf decisions).filter (fun move => move.origin.id == id) = [] := by
    refine List.filter_eq_nil_iff.2 fun move listed left => ?_
    obtain ⟨decision, member, moves⟩ := List.mem_filterMap.1 listed
    rw [(Decision.eq_of_move? moves).2.1] at left
    exact others decision member (by simpa using left)
  rw [departures, nobody]
  rfl

theorem arrivals_of_others
    (others : ∀ move ∈ movesOf decisions, move.destination.id ≠ id) :
    arrivals id (movesOf decisions) = 0 := by
  have nobody : (movesOf decisions).filter (fun move => move.destination.id == id) = [] :=
    List.filter_eq_nil_iff.2 fun move listed here => others move listed (by simpa using here)
  rw [arrivals, nobody]
  rfl

theorem departures_flatten {subscriptions : List (Subscription ℝ)}
    {groups : List (List (Decision ℝ))}
    (own : List.Forall₂ (fun subscription decisions =>
      ∀ decision ∈ decisions, decision.origin = subscription.tariff) subscriptions groups)
    (distinct : (subscriptions.map fun subscription => subscription.tariff.id).Nodup)
    (earlier : List (Decision ℝ))
    (apart : ∀ decision ∈ earlier, ∀ subscription ∈ subscriptions,
      decision.origin.id ≠ subscription.tariff.id) :
    List.Forall₂ (fun subscription decisions =>
      departures subscription.tariff.id (movesOf (earlier ++ groups.flatten)) =
        departures subscription.tariff.id (movesOf decisions)) subscriptions groups := by
  induction own generalizing earlier with
  | nil => exact List.Forall₂.nil
  | @cons subscription decisions rest later ownHere ownLater ih =>
      obtain ⟨fresh, distinctRest⟩ := List.nodup_cons.1 distinct
      have different : ∀ other ∈ rest, other.tariff.id ≠ subscription.tariff.id :=
        fun other listed same => fresh (List.mem_map.2 ⟨other, listed, same⟩)
      have before := departures_of_others fun decision listed =>
        apart decision listed subscription List.mem_cons_self
      have after : departures subscription.tariff.id (movesOf later.flatten) = 0 := by
        refine departures_of_others fun decision listed => ?_
        obtain ⟨other, member, origin⟩ := exists_of_mem_flatten ownLater listed
        rw [origin]
        exact different other member
      refine List.Forall₂.cons ?_ ?_
      · rw [List.flatten_cons, movesOf_append, movesOf_append, departures_append,
          departures_append, before, after, zero_add, add_zero]
      · rw [List.flatten_cons, ← List.append_assoc]
        refine ih distinctRest (earlier ++ decisions) fun decision listed other member => ?_
        rcases List.mem_append.1 listed with left | here
        · exact apart decision left other (List.mem_cons_of_mem _ member)
        · rw [ownHere decision here]
          exact (different other member).symm

theorem IsDestination.ne_revoked {default tariff : Tariff ℝ}
    (reaches : IsDestination books powerType now id) (wellFormed : books.catalogue.WellFormed)
    (found : books.market.defaultFor powerType = some default)
    (live : books.isRevoked default = false)
    (revoked : ∀ other, books.Mentions powerType other → other.id = tariff.id →
      books.isRevoked other = true) : id ≠ tariff.id := by
  rintro rfl
  rcases reaches with ⟨listing, listed, subscribable⟩ | ⟨fallback, found', same⟩
  · obtain ⟨member, same⟩ := Catalogue.mem_of_find? listed
    have dead := revoked listing.tariff (mentions_of_find? listed) same
    rw [Books.isRevoked, Catalogue.standing_of_find? (wellFormed.published listing member)
      (same.symm ▸ listed), Listing.isRevoked_eq_false_of_isSubscribable subscribable] at dead
    cases dead
  · rw [found] at found'
    cases found'
    rw [revoked default (.inr (.inr found)) same] at live
    cases live

end Counting

/-! ## The groups of a subscription -/

section Groups

variable {M R : Type}

theorem sum_decisionSizes {chunk : Nat} (positive : 0 < chunk) (population : Nat) :
    (decisionSizes chunk population).sum = population := by
  fun_induction decisionSizes chunk population with
  | case1 population _ ih =>
      rw [List.sum_cons, ih]
      omega
  | case2 population nobody =>
      rw [List.sum_nil]
      omega

theorem decisionChunk_pos {e : Evaluator M R} (chunked : 0 < e.settings.chunkSize)
    {population : Nat} (positive : 0 < population) : 0 < e.decisionChunk population := by
  unfold decisionChunk chunkFor
  split
  · split
    · exact positive
    · exact chunked.trans_le (le_max_right _ _)
  · exact positive

theorem sum_groupSizes [Quantity R] {e : Evaluator M R} (chunked : 0 < e.settings.chunkSize)
    {now : Instant} {subscription : Subscription R}
    (expired : subscription.expiredCount now ≤ subscription.committed) :
    (e.groupSizes now subscription).sum = subscription.committed := by
  have whole (population : Nat) :
      (decisionSizes (e.decisionChunk population) population).sum = population := by
    rcases Nat.eq_zero_or_pos population with rfl | positive
    · exact Nat.le_zero.1 (sum_decisionSizes_le _ _)
    · exact sum_decisionSizes (decisionChunk_pos chunked positive) population
  unfold groupSizes
  dsimp only
  split
  · exact whole _
  · rw [List.sum_append, whole, whole]
    omega

theorem nodup_tariffs_activeOf {roster : Roster R} (faithful : roster.Faithful)
    (customer : CustomerId) :
    ((roster.activeOf customer).map fun subscription => subscription.tariff.id).Nodup := by
  have keys : ((roster.activeOf customer).map Subscription.key).Nodup :=
    faithful.nodup.sublist (List.filter_sublist.map _)
  have own : (roster.activeOf customer).map Subscription.key =
      ((roster.activeOf customer).map fun subscription => subscription.tariff.id).map
        (SubscriptionKey.mk customer) := by
    rw [List.map_map]
    refine List.map_congr_left fun subscription active => ?_
    exact congrArg (SubscriptionKey.mk · _) (Roster.mem_activeOf.1 active).2.1
  exact List.Nodup.of_map _ (own ▸ keys)

end Groups

/-! ## Evacuation -/

section Evacuation

variable {M : Type} [CustomerModel M ℝ] {e : Evaluator M ℝ} {books : Books ℝ}
  {default : Tariff ℝ} {now : Instant}

theorem net_of_departs (faithful : books.roster.Faithful)
    (wellFormed : books.catalogue.WellFormed)
    (found : books.market.defaultFor e.customer.powerType = some default)
    (live : books.isRevoked default = false)
    (identified : ∀ subscription ∈ books.roster.activeOf e.customer.id,
      books.isRevoked subscription.tariff = true →
      ∀ other, books.Mentions e.customer.powerType other → other.id = subscription.tariff.id →
        books.isRevoked other = true)
    (expired : ∀ subscription ∈ books.roster.activeOf e.customer.id,
      subscription.expiredCount now ≤ subscription.committed)
    (small : books.roster.committedFor e.customer.id < 2 ^ 63)
    (chunked : 0 < e.settings.chunkSize) {groups : List (List (Decision ℝ))}
    (departs : List.Forall₂ (fun subscription decisions =>
      Obeys (fun decision => decision.Departs e books default now subscription.tariff)
        (e.groupSizes now subscription) decisions)
      (books.roster.activeOf e.customer.id) groups) :
    List.Forall₂ (fun subscription decisions => books.isRevoked subscription.tariff = true →
      net subscription.tariff.id ((movesOf groups.flatten).foldl enter []) =
        -(released (e.keepers books default now subscription.tariff)
          (e.groupSizes now subscription) (decisions.map Decision.sample) : Int))
      (books.roster.activeOf e.customer.id) groups := by
  have apart := departures_flatten
    (departs.imp fun _ _ obeys decision listed => (obeys.rule decision listed).picks.origin)
    (nodup_tariffs_activeOf faithful e.customer.id) [] (by simp)
  refine List.Forall₂.mp ?_ ((List.forall₂_and_left _ _).2 ⟨fun _ active => active, departs⟩) apart
  rintro subscription decisions ⟨active, obeys⟩ own revoked
  obtain ⟨listed, mine, -⟩ := Roster.mem_activeOf.1 active
  have away (id : TariffId) (reaches : IsDestination books e.customer.powerType now id) :
      id ≠ subscription.tariff.id :=
    reaches.ne_revoked wellFormed found live (identified subscription active revoked)
  have bound : subscription.committed ≤
      books.roster.members fun key => key.customer == e.customer.id :=
    Roster.committed_le_members listed (beq_iff_eq.2 mine)
  have free : ∀ decision ∈ decisions, decision.Frees subscription.tariff.id
      (e.keepers books default now subscription.tariff) := by
    intro decision member
    have departs := obeys.rule decision member
    refine ⟨congrArg Tariff.id departs.picks.origin, departs.stays revoked, ?_, ?_⟩
    · intro tariff picked
      rcases departs.picks.reaches tariff picked with reaches | ⟨alive, -⟩
      · exact away tariff.id reaches
      · rw [alive] at revoked
        cases revoked
    · have part : decision.count ≤ (decisions.map Decision.count).sum :=
        List.single_le_sum (fun _ _ => Nat.zero_le _) _ (List.mem_map_of_mem member)
      rw [obeys.sizes, sum_groupSizes chunked (expired subscription active)] at part
      exact signed_of_lt (part.trans_lt (bound.trans_lt small))
  have nobody : arrivals subscription.tariff.id (movesOf groups.flatten) = 0 := by
    refine arrivals_of_others fun move made => ?_
    obtain ⟨decision, member, moves⟩ := List.mem_filterMap.1 made
    obtain ⟨other, -, departs⟩ :=
      exists_of_mem_flatten (departs.imp fun _ _ obeys => obeys.rule) member
    obtain ⟨-, leads, elsewhere⟩ := departs.picks.of_move? moves
    exact away _ (leads.isDestination elsewhere)
  have left : departures subscription.tariff.id (movesOf groups.flatten) =
      (released (e.keepers books default now subscription.tariff) (e.groupSizes now subscription)
        (decisions.map Decision.sample) : Int) := by
    rw [← obeys.sizes, ← departures_of_frees free]
    exact own
  rw [net_enter_all, nobody, left]
  simp [net]

/-- The samples drawn for the groups of a subscription.  On balance its tariff, if revoked, loses
the members of all groups but those whose samples keep them; if there are none of these, it loses
every member. -/
structure Evacuated (e : Evaluator M ℝ) (books : Books ℝ) (default : Tariff ℝ) (now : Instant)
    (subscription : Subscription ℝ) (samples : List ℝ) : Prop where
  groups : samples.length = (e.groupSizes now subscription).length
  whole : (e.groupSizes now subscription).sum = subscription.committed
  drawn : ∀ sample ∈ samples, ∃ model : M, sample = (CustomerModel.inertiaSample model).1
  loss : books.isRevoked subscription.tariff = true →
    net subscription.tariff.id (e.evaluate books now).1.allocations =
      -(released (e.keepers books default now subscription.tariff)
        (e.groupSizes now subscription) samples : Int)
  emptied : books.isRevoked subscription.tariff = true →
    (∀ sample ∈ samples, sample ∉ e.keepers books default now subscription.tariff) →
    net subscription.tariff.id (e.evaluate books now).1.allocations =
      -(subscription.committed : Int)

/-- Where the default is live and choice samples are below one, an evaluation takes everyone off a
revoked tariff but for the groups that a bonus and their inertia samples keep there. -/
theorem revoked_evacuated (e : Evaluator M ℝ) (faithful : books.roster.Faithful)
    (wellFormed : books.catalogue.WellFormed)
    (found : books.market.defaultFor e.customer.powerType = some default)
    (live : books.isRevoked default = false)
    (identified : ∀ subscription ∈ books.roster.activeOf e.customer.id,
      books.isRevoked subscription.tariff = true →
      ∀ other, books.Mentions e.customer.powerType other → other.id = subscription.tariff.id →
        books.isRevoked other = true)
    (expired : ∀ subscription ∈ books.roster.activeOf e.customer.id,
      subscription.expiredCount now ≤ subscription.committed)
    (small : books.roster.committedFor e.customer.id < 2 ^ 63)
    (below : ∀ model : M, (CustomerModel.choiceSample model).1 < 1)
    (chunked : 0 < e.settings.chunkSize) (preferred : 0 < e.settings.preferredDays)
    (profiled : 0 < e.profileLength) :
    ∃ samples : List (List ℝ), samples.flatten = e.inertiaSamples books now ∧
      List.Forall₂ (Evacuated e books default now) (books.roster.activeOf e.customer.id)
        samples := by
  obtain ⟨groups, departs, decided⟩ := exists_obeys_evaluate (e := e.logging) found
    fun subscription _ => governs_departs (e := e.logging) found (fun log => below log.model)
      preferred profiled subscription.tariff
  have allocations : (e.evaluate books now).1.allocations =
      (movesOf groups.flatten).foldl enter [] :=
    (allocations_logging e books now).symm.trans decided.moved.allocations
  have losses := net_of_departs (e := e.logging) faithful wellFormed found live identified expired
    small chunked departs
  refine ⟨groups.map (·.map Decision.sample), ?_, ?_⟩
  · rw [← List.map_flatten]
    exact (decided.drawn SampleLog.samples logs_samples).symm
  · rw [List.forall₂_map_right_iff]
    refine List.Forall₂.mp ?_
      ((List.forall₂_and_left _ _).2 ⟨fun _ active => active, departs⟩) losses
    rintro subscription decisions ⟨active, obeys⟩ loss
    rw [← allocations] at loss
    have length : (decisions.map Decision.sample).length =
        (e.groupSizes now subscription).length := by
      rw [List.length_map, ← List.length_map Decision.count, obeys.sizes]
      rfl
    have whole := sum_groupSizes chunked (expired subscription active)
    refine ⟨length, whole, ?_, loss, fun revoked free => ?_⟩
    · intro sample listed
      obtain ⟨decision, member, rfl⟩ := List.mem_map.1 listed
      obtain ⟨log, drawn⟩ := (obeys.rule decision member).sampled
      exact ⟨log.model, drawn⟩
    · rw [← whole, ← released_eq_sum length free]
      exact loss revoked

end Evacuation

/-! ### Members lured by a bonus -/

/-- Draws one inertia sample for every group and takes the best alternative. -/
structure Inert (sample : ℝ) where

instance (sample : ℝ) : CustomerModel (Inert sample) ℝ where
  profile model _ now := ({ usage := [], start := now }, model)
  switchFactor _ _ := 0
  choiceSample model := (0, model)
  inertiaSample model := (sample, model)
  shiftingInconvenience _ _ := 0
  notify model _ := model

namespace Lured

def customer : Customer :=
  { id := ⟨1⟩, name := "lured", population := 10, powerType := .consumption }

noncomputable def closed : Tariff ℝ := Tariff.free ⟨1⟩ "first" .consumption

noncomputable def default : Tariff ℝ := Tariff.free ⟨2⟩ "second" .consumption

noncomputable def lure : Tariff ℝ :=
  { Tariff.free ⟨3⟩ "third" .consumption with signupPayment := 200 }

noncomputable def subscription : Subscription ℝ :=
  ((Subscription.opened customer closed).subscribe 10 ⟨0⟩).1

/-- Everyone is on a revoked tariff, and a third tariff pays a signup bonus. -/
noncomputable def books : Books ℝ where
  catalogue :=
    { listed := [{ Listing.ofTariff closed with state := .killed }, Listing.ofTariff default,
        Listing.ofTariff lure]
      queues := [⟨"first", [⟨1⟩]⟩, ⟨"second", [⟨2⟩]⟩, ⟨"third", [⟨3⟩]⟩]
      lastId := 3 }
  market := Market.empty.setDefault default
  roster :=
    { subscriptions := #[subscription]
      index := ({} : Std.HashMap _ _).insert ⟨⟨1⟩, ⟨1⟩⟩ 0 }

noncomputable def evaluator (sample : ℝ) : Evaluator (Inert sample) ℝ :=
  { Evaluator.standard customer ⟨⟩ with evaluations := 2 }

theorem faithful_books : books.roster.Faithful := by
  intro key position
  have keys : (books.roster.toList.map Subscription.key)[position]? = some key ↔
      position = 0 ∧ ⟨⟨1⟩, ⟨1⟩⟩ = key := by
    cases position with
    | zero =>
        change some (⟨⟨1⟩, ⟨1⟩⟩ : SubscriptionKey) = some key ↔ _
        simp
    | succ position =>
        change none = some key ↔ _
        simp
  rw [keys]
  simp only [books, Std.HashMap.getElem?_insert, beq_iff_eq]
  split <;> simp_all [eq_comm]

theorem listed_books {listing : Listing ℝ} (listed : listing ∈ books.catalogue.listed) :
    listing = { Listing.ofTariff closed with state := .killed } ∨
      listing = Listing.ofTariff default ∨ listing = Listing.ofTariff lure := by
  simpa [books] using listed

theorem wellFormed_books : books.catalogue.WellFormed := by
  refine ⟨?_, ?_, ?_⟩
  · change [(⟨1⟩ : TariffId), ⟨2⟩, ⟨3⟩].Nodup
    decide
  · intro listing listed
    change listing.id.number ≤ 3
    rcases listed_books listed with rfl | rfl | rfl <;> decide
  · intro listing listed
    rcases listed_books listed with rfl | rfl | rfl <;> rfl

theorem identified_books {tariff : Tariff ℝ} (mentioned : books.Mentions .consumption tariff)
    (same : tariff.id = closed.id) : books.isRevoked tariff = true := by
  rcases mentioned with ⟨listing, listed, rfl⟩ | ⟨subscription, listed, rfl⟩ | found
  · rcases listed_books listed with rfl | rfl | rfl
    · rfl
    · cases same
    · cases same
  · obtain rfl := List.mem_singleton.1 listed
    rfl
  · obtain rfl : default = tariff := Option.some.inj found
    cases same

theorem expired_books : subscription.expiredCount ⟨0⟩ ≤ subscription.committed :=
  ((Subscription.isRecorded_opened _ _).subscribe _ _).expiredCount_le ⟨0⟩

theorem preferredDays_evaluator (sample : ℝ) : 0 < (evaluator sample).settings.preferredDays := by
  change (0 : ℝ) < 6.0
  norm_num

theorem profileLength_evaluator (sample : ℝ) : 0 < (evaluator sample).profileLength := by
  change 0 < 168
  decide

theorem mem_keepers_books (drawn sample : ℝ) :
    sample ∈ (evaluator drawn).keepers books default ⟨0⟩ closed ↔ sample < 1 / 25 := by
  have rewarded : IsRewarded
      (options books ((evaluator drawn).prepare books default ⟨0⟩).1 .consumption closed 0).1
      (options books ((evaluator drawn).prepare books default ⟨0⟩).1 .consumption closed 0).2 := by
    refine ⟨lure, ?_, ?_, ?_⟩
    · change lure ∈ [default, lure]
      simp
    · change ¬ (lure.id = closed.id ∨ some lure.id = some default.id)
      decide
    · change (0 : ℝ) < 200
      norm_num
  have share : (evaluator drawn).effectiveInertia * (evaluator drawn).settings.signupBonusFactor =
      1 / 25 := by
    have inertia : (evaluator drawn).effectiveInertia = 2 / 5 := by
      change Quantity.larger ((1 - 2.0 / powerOfTwo 2) * (0.8 : ℝ)) 0 = 2 / 5
      rw [Quantity.larger_real]
      norm_num [powerOfTwo]
    rw [inertia]
    change (2 / 5 : ℝ) * 0.1 = 1 / 25
    norm_num
  rw [← share]
  exact and_iff_right rewarded

end Lured

/-- A sample of one half takes everyone off the revoked tariff. -/
theorem revoked_evacuated_lured :
    (Lured.books.roster.Faithful ∧ Lured.books.catalogue.WellFormed ∧
      Lured.books.market.defaultFor .consumption = some Lured.default ∧
      Lured.books.isRevoked Lured.default = false ∧
      (∀ subscription ∈ Lured.books.roster.activeOf ⟨1⟩,
        Lured.books.isRevoked subscription.tariff = true →
        ∀ other, Lured.books.Mentions .consumption other → other.id = subscription.tariff.id →
          Lured.books.isRevoked other = true) ∧
      (∀ subscription ∈ Lured.books.roster.activeOf ⟨1⟩,
        subscription.expiredCount ⟨0⟩ ≤ subscription.committed) ∧
      Lured.books.roster.committedFor ⟨1⟩ < 2 ^ 63 ∧
      (∀ model : Inert (1 / 2), (CustomerModel.choiceSample model).1 < 1) ∧
      0 < (Lured.evaluator (1 / 2)).settings.chunkSize ∧
      0 < (Lured.evaluator (1 / 2)).settings.preferredDays ∧
      0 < (Lured.evaluator (1 / 2)).profileLength) ∧
    net Lured.closed.id
      ((Lured.evaluator (1 / 2)).evaluate Lured.books ⟨0⟩).1.allocations = -10 := by
  have found : Lured.books.market.defaultFor .consumption = some Lured.default := rfl
  have live : Lured.books.isRevoked Lured.default = false := rfl
  have identified : ∀ subscription ∈ Lured.books.roster.activeOf ⟨1⟩,
      Lured.books.isRevoked subscription.tariff = true →
      ∀ other, Lured.books.Mentions .consumption other → other.id = subscription.tariff.id →
        Lured.books.isRevoked other = true := by
    intro subscription active _ other mentioned same
    obtain rfl := List.mem_singleton.1 active
    exact Lured.identified_books mentioned same
  have expired : ∀ subscription ∈ Lured.books.roster.activeOf ⟨1⟩,
      subscription.expiredCount ⟨0⟩ ≤ subscription.committed := by
    intro subscription active
    obtain rfl := List.mem_singleton.1 active
    exact Lured.expired_books
  have small : Lured.books.roster.committedFor ⟨1⟩ < 2 ^ 63 := by
    change 10 < 2 ^ 63
    decide
  have below (model : Inert (1 / 2)) : (CustomerModel.choiceSample model).1 < 1 := zero_lt_one
  have chunked : 0 < (Lured.evaluator (1 / 2)).settings.chunkSize := Nat.one_pos
  have preferred := Lured.preferredDays_evaluator (1 / 2)
  have profiled := Lured.profileLength_evaluator (1 / 2)
  refine ⟨⟨Lured.faithful_books, Lured.wellFormed_books, found, live, identified, expired, small,
    below, chunked, preferred, profiled⟩, ?_⟩
  obtain ⟨samples, -, evacuated⟩ := revoked_evacuated (Lured.evaluator (1 / 2))
    Lured.faithful_books Lured.wellFormed_books found live identified expired small below chunked
    preferred profiled
  change List.Forall₂ _ [Lured.subscription] samples at evacuated
  cases evacuated with
  | cons evacuated _ =>
      refine evacuated.emptied rfl fun sample listed kept => ?_
      obtain ⟨model, rfl⟩ := evacuated.drawn sample listed
      have low : (1 / 2 : ℝ) < 1 / 25 := (Lured.mem_keepers_books _ _).1 kept
      norm_num at low

/-- A sample of zero keeps everyone on the revoked tariff, although the default is live. -/
theorem revoked_not_evacuated_lured :
    (Lured.books.roster.Faithful ∧ Lured.books.catalogue.WellFormed ∧
      Lured.books.market.defaultFor .consumption = some Lured.default ∧
      Lured.books.isRevoked Lured.default = false ∧
      (∀ model : Inert 0, 0 ≤ (CustomerModel.choiceSample model).1 ∧
        (CustomerModel.choiceSample model).1 < 1 ∧
        0 ≤ (CustomerModel.inertiaSample model).1 ∧ (CustomerModel.inertiaSample model).1 < 1)) ∧
    Lured.subscription ∈ Lured.books.roster.activeOf ⟨1⟩ ∧
    Lured.books.isRevoked Lured.subscription.tariff = true ∧
    Lured.subscription.committed = 10 ∧
    net Lured.subscription.tariff.id
      ((Lured.evaluator 0).evaluate Lured.books ⟨0⟩).1.allocations ≠ -10 := by
  have found : Lured.books.market.defaultFor .consumption = some Lured.default := rfl
  have below (model : Inert 0) : (CustomerModel.choiceSample model).1 < 1 := zero_lt_one
  refine ⟨⟨Lured.faithful_books, Lured.wellFormed_books, found, rfl, fun _ =>
    ⟨le_rfl, zero_lt_one, le_rfl, zero_lt_one⟩⟩, List.mem_singleton_self _, rfl, rfl, ?_⟩
  obtain ⟨groups, departs, decided⟩ := exists_obeys_evaluate (e := Lured.evaluator 0) found
    fun subscription _ => governs_departs found below (Lured.preferredDays_evaluator 0)
      (Lured.profileLength_evaluator 0) subscription.tariff
  change List.Forall₂ _ [Lured.subscription] groups at departs
  have nobody : movesOf groups.flatten = [] := by
    refine List.filterMap_eq_nil_iff.2 fun decision listed => ?_
    obtain ⟨subscription, active, departs⟩ :=
      exists_of_mem_flatten (departs.imp fun _ _ obeys => obeys.rule) listed
    obtain rfl := List.mem_singleton.1 active
    obtain ⟨model, drawn⟩ := departs.sampled
    have low : decision.sample < 1 / 25 := by
      rw [drawn]
      change (0 : ℝ) < 1 / 25
      norm_num
    have stays := (departs.stays rfl).2 ((Lured.mem_keepers_books 0 _).2 low)
    rw [Decision.move?, stays]
    rfl
  rw [decided.moved.allocations, nobody]
  change (0 : Int) ≠ -10
  decide

end Evaluator

end RetailMarket
