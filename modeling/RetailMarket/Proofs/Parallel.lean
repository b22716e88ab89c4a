import RetailMarket.Proofs.Orders

/-!
# Evaluations side by side

Two evaluators, perhaps with different models, evaluate alike if they are related in a way that
every appraisal, every sample and every move keeps.  The relation may take note of the appraisals
that an evaluation consults: the default's, the candidates', and those of all alternatives that it
scores.
-/

namespace RetailMarket

structure Note (R : Type) where
  tariff : Tariff R
  appraisal : Appraisal R

/-- The tariffs that a customer of a power type can come across in the books. -/
def Books.Mentions {R : Type} (books : Books R) (powerType : PowerType) (tariff : Tariff R) :
    Prop :=
  (∃ listing ∈ books.catalogue.listed, listing.tariff = tariff) ∨
    (∃ subscription ∈ books.roster.toList, subscription.tariff = tariff) ∨
    books.market.defaultFor powerType = some tariff

namespace Evaluator

variable {M N R : Type} [Quantity R] [CustomerModel M R] [CustomerModel N R]

/-! ## What an evaluation consults -/

def notesOn (now : Instant) : Evaluator M R → List (Tariff R) → List (Note R)
  | _, [] => []
  | e, tariff :: rest =>
    let appraised := e.appraise tariff now
    ⟨tariff, appraised.1⟩ :: notesOn now appraised.2 rest

def notesOnMembers (books : Books R) (comparison : Comparison R) (current : Tariff R)
    (leaving : R) (population : Nat) (e : Evaluator M R) : List (Note R) :=
  if population = 0 then []
  else notesOn comparison.now e
    (options books comparison e.customer.powerType current leaving).2

def notesOnSubscription (books : Books R) (comparison : Comparison R) (e : Evaluator M R)
    (subscription : Subscription R) : List (Note R) :=
  let tariff := subscription.tariff
  let leaving := tariff.earlyWithdrawPayment
  let committed := subscription.committed
  let expired := subscription.expiredCount comparison.now
  if (leaving == 0) = true ∨ (0 < expired ∧ expired = committed) then
    notesOnMembers books comparison tariff 0 committed e
  else
    notesOnMembers books comparison tariff 0 expired e ++
      notesOnMembers books comparison tariff leaving (committed - expired)
        (allocate books comparison tariff 0 expired e)

def notesOnEach (books : Books R) (comparison : Comparison R) :
    Evaluator M R → List (Subscription R) → List (Note R)
  | _, [] => []
  | e, subscription :: rest =>
    notesOnSubscription books comparison e subscription ++
      notesOnEach books comparison (allocateSubscription books comparison e subscription) rest

/-- The appraisals that an evaluation consults, in order. -/
def consulted (e : Evaluator M R) (books : Books R) (now : Instant) : List (Note R) :=
  match books.market.defaultFor e.customer.powerType with
  | none => []
  | some default =>
    let appraised := e.begun.appraiseDefault default now
    let prepared := e.prepare books default now
    ⟨default, appraised.1⟩ ::
      (notesOn now appraised.2 (e.candidates books now) ++
        notesOnEach books prepared.1 prepared.2 (books.roster.activeOf e.customer.id))

theorem consulted_of_missing {e : Evaluator M R} {books : Books R}
    (missing : books.market.defaultFor e.customer.powerType = none) (now : Instant) :
    e.consulted books now = [] := by
  simp only [consulted, missing]

theorem consulted_of_default {e : Evaluator M R} {books : Books R} {default : Tariff R}
    (found : books.market.defaultFor e.customer.powerType = some default) (now : Instant) :
    e.consulted books now =
      [⟨default, (e.begun.appraiseDefault default now).1⟩] ++
        notesOn now (e.begun.appraiseDefault default now).2 (e.candidates books now) ++
        notesOnEach books (e.prepare books default now).1 (e.prepare books default now).2
          (books.roster.activeOf e.customer.id) := by
  simp only [consulted, found]
  rfl

/-! ## The relation -/

/-- A relation that every step of an evaluation keeps, and under which whatever a step reads of the
evaluators is the same. -/
structure Parallel (customer : Customer) (books : Books R) (now : Instant)
    (Alike : List (Note R) → Evaluator M R → Evaluator N R → Prop) : Prop where
  own : ∀ {notes e f}, Alike notes e f → e.customer = customer ∧ f.customer = customer
  settings : ∀ {notes e f}, Alike notes e f →
    ∃ evaluateAll, f.settings = { e.settings with evaluateAll }
  allocations : ∀ {notes e f}, Alike notes e f → f.allocations = e.allocations
  profileLength : ∀ {notes e f}, Alike notes e f → f.profileLength = e.profileLength
  switchFactor : ∀ {notes e f}, Alike notes e f → ∀ isRevoked,
    CustomerModel.switchFactor f.model isRevoked = CustomerModel.switchFactor e.model isRevoked
  appraise : ∀ {notes e f}, Alike notes e f → ∀ tariff,
    books.Mentions customer.powerType tariff →
      (f.appraise tariff now).1 = (e.appraise tariff now).1 ∧
        Alike (notes ++ [⟨tariff, (e.appraise tariff now).1⟩])
          (e.appraise tariff now).2 (f.appraise tariff now).2
  inertiaSample : ∀ {notes e f}, Alike notes e f →
    (CustomerModel.inertiaSample f.model).1 = (CustomerModel.inertiaSample e.model).1 ∧
      Alike notes e.inertiaSampled f.inertiaSampled
  choiceSample : ∀ {notes e f}, Alike notes e f →
    (CustomerModel.choiceSample f.model).1 = (CustomerModel.choiceSample e.model).1 ∧
      Alike notes e.choiceSampled f.choiceSampled
  transfer : ∀ {notes e f}, Alike notes e f → ∀ origin destination count,
    Alike notes (e.transfer origin destination count) (f.transfer origin destination count)

section

variable {customer : Customer} {books : Books R} {now : Instant}
  {Alike : List (Note R) → Evaluator M R → Evaluator N R → Prop}
  {notes : List (Note R)} {e : Evaluator M R} {f : Evaluator N R}

theorem Parallel.alike_appraiseAll (parallel : Parallel customer books now Alike)
    (alike : Alike notes e f) {tariffs : List (Tariff R)}
    (mentioned : ∀ tariff ∈ tariffs, books.Mentions customer.powerType tariff) :
    Alike (notes ++ notesOn now e tariffs) (appraiseAll now e tariffs)
      (appraiseAll now f tariffs) := by
  induction tariffs generalizing notes e f with
  | nil => exact (List.append_nil notes).symm ▸ alike
  | cons tariff rest ih =>
      obtain ⟨here, later⟩ := List.forall_mem_cons.1 mentioned
      obtain ⟨-, next⟩ := parallel.appraise alike tariff here
      have last := ih next later
      rwa [List.append_assoc] at last

theorem Parallel.same_notesOn (parallel : Parallel customer books now Alike)
    (alike : Alike notes e f) {tariffs : List (Tariff R)}
    (mentioned : ∀ tariff ∈ tariffs, books.Mentions customer.powerType tariff) :
    notesOn now f tariffs = notesOn now e tariffs := by
  induction tariffs generalizing notes e f with
  | nil => rfl
  | cons tariff rest ih =>
      obtain ⟨here, later⟩ := List.forall_mem_cons.1 mentioned
      obtain ⟨same, next⟩ := parallel.appraise alike tariff here
      simp only [notesOn, same, ih next later]

theorem Parallel.same_score (parallel : Parallel customer books now Alike)
    (alike : Alike notes e f) {comparison : Comparison R} (timed : comparison.now = now)
    (position : Position R) {tariff : Tariff R}
    (mentioned : books.Mentions customer.powerType tariff) :
    (f.score comparison position tariff).1 = (e.score comparison position tariff).1 ∧
      (f.score comparison position tariff).2.1 = (e.score comparison position tariff).2.1 := by
  subst timed
  obtain ⟨same, next⟩ := parallel.appraise alike tariff mentioned
  obtain ⟨evaluateAll, settings⟩ := parallel.settings next
  have length := parallel.profileLength next
  have factor := parallel.switchFactor next
  unfold score
  by_cases stays : tariff.id = position.current.id ∨ some tariff.id = position.replacement
  · simp only [stays, if_true, same, settings, and_self]
  · simp only [stays, if_false, same, settings, signupCost, withdrawCost, scale, length, factor,
      and_self]

theorem Parallel.same_scoreAll (parallel : Parallel customer books now Alike)
    (alike : Alike notes e f) {comparison : Comparison R} (timed : comparison.now = now)
    (position : Position R) (bonus : R) {tariffs : List (Tariff R)}
    (mentioned : ∀ tariff ∈ tariffs, books.Mentions customer.powerType tariff) :
    (scoreAll comparison position f bonus tariffs).1 =
        (scoreAll comparison position e bonus tariffs).1 ∧
      (scoreAll comparison position f bonus tariffs).2.1 =
        (scoreAll comparison position e bonus tariffs).2.1 := by
  induction tariffs generalizing notes e f bonus with
  | nil => exact ⟨rfl, rfl⟩
  | cons tariff rest ih =>
      obtain ⟨here, later⟩ := List.forall_mem_cons.1 mentioned
      obtain ⟨alternative, signup⟩ := parallel.same_score alike timed position here
      obtain ⟨-, next⟩ := parallel.appraise alike tariff here
      rw [← timed, ← score_appraises comparison position,
        ← score_appraises comparison position] at next
      obtain ⟨alternatives, greatest⟩ := ih next
        ((e.score comparison position tariff).2.1.elim bonus (Quantity.larger bonus)) later
      simp only [scoreAll, alternative, signup, alternatives, greatest, and_self]

theorem Parallel.alike_decideChunk (parallel : Parallel customer books now Alike)
    (alike : Alike notes e f) (comparison : Comparison R) (position : Position R)
    (alternatives : List (Alternative R)) (bonus : R) (count : Nat) :
    Alike notes (decideChunk comparison position alternatives bonus e count)
      (decideChunk comparison position alternatives bonus f count) := by
  obtain ⟨inertia, sampled⟩ := parallel.inertiaSample alike
  obtain ⟨choice, chosen⟩ := parallel.choiceSample sampled
  obtain ⟨evaluateAll, settings⟩ := parallel.settings sampled
  have stays (sample : R) : f.inertiaSampled.staysPut comparison position bonus sample =
      e.inertiaSampled.staysPut comparison position bonus sample := by
    simp only [staysPut, settings]
  rw [decideChunk_eq, decideChunk_eq, stays, inertia, choice]
  split
  · exact sampled
  · cases Alternative.choose? (CustomerModel.choiceSample e.inertiaSampled.model).1
        alternatives with
    | none => exact chosen
    | some destination => exact parallel.transfer chosen position.current destination count

theorem Parallel.alike_decideMembers (parallel : Parallel customer books now Alike)
    (comparison : Comparison R) (position : Position R) (population : Nat)
    {scored : List (Alternative R) × R × Evaluator M R}
    {scored' : List (Alternative R) × R × Evaluator N R} (alternatives : scored'.1 = scored.1)
    (bonus : scored'.2.1 = scored.2.1) (alike : Alike notes scored.2.2 scored'.2.2) :
    Alike notes (decideMembers comparison position population scored)
      (decideMembers comparison position population scored') := by
  have each (alternatives : List (Alternative R)) (bonus : R) (sizes : List Nat)
      {e : Evaluator M R} {f : Evaluator N R} (alike : Alike notes e f) :
      Alike notes (sizes.foldl (decideChunk comparison position alternatives bonus) e)
        (sizes.foldl (decideChunk comparison position alternatives bonus) f) := by
    induction sizes generalizing e f with
    | nil => exact alike
    | cons size rest ih =>
        exact ih (parallel.alike_decideChunk alike comparison position alternatives bonus size)
  obtain ⟨evaluateAll, settings⟩ := parallel.settings alike
  obtain ⟨own, own'⟩ := parallel.own alike
  have sizes : scored'.2.2.decisionChunk population = scored.2.2.decisionChunk population := by
    simp only [decisionChunk, chunkFor, settings, own, own']
  have rationality : scored'.2.2.settings.rationality = scored.2.2.settings.rationality := by
    rw [settings]
  simp only [decideMembers, alternatives, bonus, sizes, rationality]
  exact each _ _ _ alike

end

/-! ## What an evaluation comes across -/

omit [Quantity R] [CustomerModel M R] [CustomerModel N R] in
theorem mentions_of_find? {books : Books R} {powerType : PowerType} {id : TariffId}
    {listing : Listing R} (found : books.catalogue.find? id = some listing) :
    books.Mentions powerType listing.tariff :=
  .inl ⟨listing, (Catalogue.mem_of_find? found).1, rfl⟩

omit [Quantity R] [CustomerModel M R] [CustomerModel N R] in
theorem mentions_of_superseding? {books : Books R} {powerType : PowerType}
    {tariff successor : Tariff R} {now : Instant}
    (superseding : Market.superseding? books.catalogue tariff now = some successor) :
    books.Mentions powerType successor := by
  obtain ⟨id, listing, -, found, -, rfl⟩ := Market.exists_of_superseding? superseding
  exact mentions_of_find? found

omit [Quantity R] [CustomerModel M R] [CustomerModel N R] in
theorem mentions_candidates (e : Evaluator M R) (books : Books R) (now : Instant)
    (powerType : PowerType) :
    ∀ tariff ∈ e.candidates books now, books.Mentions powerType tariff := by
  intro tariff candidate
  rcases mem_pushUnique_all candidate with recent | superseding
  · obtain ⟨id, listing, found, -, -, rfl⟩ := Catalogue.exists_of_mem_recentOffers recent
    exact mentions_of_find? found
  · obtain ⟨revoked, -, found⟩ := List.mem_filterMap.1 superseding
    exact mentions_of_superseding? found

structure DrawnFrom (books : Books R) (powerType : PowerType) (now : Instant)
    (comparison : Comparison R) : Prop where
  now : comparison.now = now
  candidates : ∀ tariff ∈ comparison.candidates, books.Mentions powerType tariff
  default : books.market.defaultFor powerType = some comparison.default

omit [CustomerModel M R] [CustomerModel N R] in
theorem DrawnFrom.options {books : Books R} {powerType : PowerType} {now : Instant}
    {comparison : Comparison R} (drawn : DrawnFrom books powerType now comparison)
    {current : Tariff R} (held : books.Mentions powerType current) (leaving : R) :
    ∀ tariff ∈ (options books comparison powerType current leaving).2,
      books.Mentions powerType tariff := by
  refine Choosable.options ⟨drawn.candidates, .inr (.inr drawn.default), ?_, fun _ => held⟩ leaving
  intro successor found
  rcases Option.or_eq_some_iff.1 found with superseding | ⟨-, fallback⟩
  · exact mentions_of_superseding? superseding
  · exact .inr (.inr fallback)

/-! ## Evaluations of related evaluators -/

section

variable {customer : Customer} {books : Books R} {now : Instant}
  {Alike : List (Note R) → Evaluator M R → Evaluator N R → Prop}
  {notes : List (Note R)} {e : Evaluator M R} {f : Evaluator N R} {comparison : Comparison R}

theorem Parallel.alike_allocate (parallel : Parallel customer books now Alike)
    (alike : Alike notes e f) (drawn : DrawnFrom books customer.powerType now comparison)
    {current : Tariff R} (held : books.Mentions customer.powerType current) (leaving : R)
    (population : Nat) :
    Alike (notes ++ notesOnMembers books comparison current leaving population e)
      (allocate books comparison current leaving population e)
      (allocate books comparison current leaving population f) := by
  by_cases nobody : population = 0
  · simp only [notesOnMembers, allocate, if_pos nobody, List.append_nil]
    exact alike
  · obtain ⟨own, own'⟩ := parallel.own alike
    have mentioned := drawn.options held leaving
    let chosen := options books comparison customer.powerType current leaving
    obtain ⟨alternatives, bonus⟩ := parallel.same_scoreAll alike drawn.now chosen.1 0 mentioned
    have scored := parallel.alike_appraiseAll alike mentioned
    rw [← drawn.now, ← scoreAll_appraises comparison chosen.1 _ 0,
      ← scoreAll_appraises comparison chosen.1 _ 0] at scored
    rw [allocate_eq _ _ _ _ nobody, allocate_eq _ _ _ _ nobody, notesOnMembers, if_neg nobody,
      own, own']
    exact parallel.alike_decideMembers comparison chosen.1 population alternatives bonus scored

theorem Parallel.same_notesOnMembers (parallel : Parallel customer books now Alike)
    (alike : Alike notes e f) (drawn : DrawnFrom books customer.powerType now comparison)
    {current : Tariff R} (held : books.Mentions customer.powerType current) (leaving : R)
    (population : Nat) :
    notesOnMembers books comparison current leaving population f =
      notesOnMembers books comparison current leaving population e := by
  obtain ⟨own, own'⟩ := parallel.own alike
  have mentioned := drawn.options held leaving
  simp only [notesOnMembers, own, own', drawn.now, parallel.same_notesOn alike mentioned]

theorem Parallel.alike_allocateSubscription (parallel : Parallel customer books now Alike)
    (alike : Alike notes e f) (drawn : DrawnFrom books customer.powerType now comparison)
    {subscription : Subscription R} (listed : subscription ∈ books.roster.toList) :
    Alike (notes ++ notesOnSubscription books comparison e subscription)
      (allocateSubscription books comparison e subscription)
      (allocateSubscription books comparison f subscription) := by
  have held : books.Mentions customer.powerType subscription.tariff :=
    .inr (.inl ⟨subscription, listed, rfl⟩)
  simp only [notesOnSubscription, allocateSubscription]
  split
  · exact parallel.alike_allocate alike drawn held 0 subscription.committed
  · rw [← List.append_assoc]
    exact parallel.alike_allocate (parallel.alike_allocate alike drawn held 0 _) drawn held _ _

theorem Parallel.same_notesOnSubscription (parallel : Parallel customer books now Alike)
    (alike : Alike notes e f) (drawn : DrawnFrom books customer.powerType now comparison)
    {subscription : Subscription R} (listed : subscription ∈ books.roster.toList) :
    notesOnSubscription books comparison f subscription =
      notesOnSubscription books comparison e subscription := by
  have held : books.Mentions customer.powerType subscription.tariff :=
    .inr (.inl ⟨subscription, listed, rfl⟩)
  simp only [notesOnSubscription]
  split
  · exact parallel.same_notesOnMembers alike drawn held 0 subscription.committed
  · rw [parallel.same_notesOnMembers alike drawn held,
      parallel.same_notesOnMembers (parallel.alike_allocate alike drawn held 0 _) drawn held]

theorem Parallel.alike_allocateEach (parallel : Parallel customer books now Alike)
    (alike : Alike notes e f) (drawn : DrawnFrom books customer.powerType now comparison)
    {subscriptions : List (Subscription R)}
    (listed : ∀ subscription ∈ subscriptions, subscription ∈ books.roster.toList) :
    Alike (notes ++ notesOnEach books comparison e subscriptions)
      (subscriptions.foldl (allocateSubscription books comparison) e)
      (subscriptions.foldl (allocateSubscription books comparison) f) := by
  induction subscriptions generalizing notes e f with
  | nil => exact (List.append_nil notes).symm ▸ alike
  | cons subscription rest ih =>
      obtain ⟨here, later⟩ := List.forall_mem_cons.1 listed
      have last := ih (parallel.alike_allocateSubscription alike drawn here) later
      rwa [List.append_assoc] at last

theorem Parallel.same_notesOnEach (parallel : Parallel customer books now Alike)
    (alike : Alike notes e f) (drawn : DrawnFrom books customer.powerType now comparison)
    {subscriptions : List (Subscription R)}
    (listed : ∀ subscription ∈ subscriptions, subscription ∈ books.roster.toList) :
    notesOnEach books comparison f subscriptions =
      notesOnEach books comparison e subscriptions := by
  induction subscriptions generalizing notes e f with
  | nil => rfl
  | cons subscription rest ih =>
      obtain ⟨here, later⟩ := List.forall_mem_cons.1 listed
      have next := parallel.alike_allocateSubscription alike drawn here
      simp only [notesOnEach, parallel.same_notesOnSubscription alike drawn here, ih next later]

/-- Evaluators of a customer, as far with their evaluations, that appraise the default alike. -/
structure Abreast (customer : Customer) (default : Tariff R) (now : Instant)
    (Alike : List (Note R) → Evaluator M R → Evaluator N R → Prop) (e : Evaluator M R)
    (f : Evaluator N R) : Prop where
  own : e.customer = customer
  own' : f.customer = customer
  settings : ∃ evaluateAll, f.settings = { e.settings with evaluateAll }
  evaluations : f.evaluations = e.evaluations
  appraised : (f.begun.appraiseDefault default now).1 = (e.begun.appraiseDefault default now).1
  alike : Alike [⟨default, (e.begun.appraiseDefault default now).1⟩]
    (e.begun.appraiseDefault default now).2 (f.begun.appraiseDefault default now).2

/-- Evaluators that appraise the default alike evaluate alike, consult the same appraisals and issue
the same directives. -/
theorem Parallel.alike_evaluate (parallel : Parallel customer books now Alike)
    {default : Tariff R} (found : books.market.defaultFor customer.powerType = some default)
    (abreast : Abreast customer default now Alike e f) :
    Alike (e.consulted books now) (e.evaluate books now).1 (f.evaluate books now).1 ∧
      f.consulted books now = e.consulted books now ∧
      (f.evaluate books now).2 = (e.evaluate books now).2 := by
  obtain ⟨own, own', settings, evaluations, appraised, alike⟩ := abreast
  subst own
  obtain ⟨evaluateAll, settings⟩ := settings
  -- Beside the appraisal of the default, a comparison depends on no model and on no cache.
  have candidates : f.candidates books now = e.candidates books now := by
    simp only [Evaluator.candidates, own', settings]
  have inertia : f.effectiveInertia = e.effectiveInertia := by
    simp only [effectiveInertia, evaluations, settings]
  have comparison : (f.prepare books default now).1 = (e.prepare books default now).1 := by
    simp only [prepare, candidates, inertia, Comparison.mk.injEq, true_and, and_true]
    exact appraised
  have mentioned := mentions_candidates e books now e.customer.powerType
  have drawn : DrawnFrom books e.customer.powerType now (e.prepare books default now).1 :=
    ⟨rfl, mentioned, found⟩
  have prepared := parallel.alike_appraiseAll alike mentioned
  have moved : (e.prepare books default now).2.customer = e.customer :=
    (decided_prepare e books default now).moved.customer
  have moved' : (f.prepare books default now).2.customer = e.customer :=
    (decided_prepare f books default now).moved.customer.trans own'
  have active : ∀ subscription ∈ books.roster.activeOf e.customer.id,
      subscription ∈ books.roster.toList := fun subscription listed =>
    (Roster.mem_activeOf.1 listed).1
  have prepared' : (f.prepare books default now).2 =
      appraiseAll now (f.begun.appraiseDefault default now).2 (e.candidates books now) := by
    rw [← candidates]
    rfl
  have evaluated : Alike (e.consulted books now) (e.evaluate books now).1
      (f.evaluate books now).1 := by
    rw [evaluate_of_default found, evaluate_of_default (own'.symm ▸ found), comparison, moved,
      moved', consulted_of_default found, prepared']
    exact parallel.alike_allocateEach prepared drawn active
  have consulted : f.consulted books now = e.consulted books now := by
    rw [consulted_of_default found, consulted_of_default (own'.symm ▸ found), appraised, candidates,
      parallel.same_notesOn alike mentioned, comparison, prepared', own',
      parallel.same_notesOnEach prepared drawn active]
    rfl
  refine ⟨evaluated, consulted, ?_⟩
  rw [issued_evaluate, issued_evaluate, parallel.allocations evaluated, own']

end

/-! ## What an evaluation keeps -/

/-- A property of an evaluator, and of the appraisals that it has consulted, that every step of an
evaluation keeps. -/
structure Invariant (customer : Customer) (now : Instant)
    (Holds : List (Note R) → Evaluator M R → Prop) : Prop where
  own : ∀ {notes e}, Holds notes e → e.customer = customer
  appraise : ∀ {notes e}, Holds notes e → ∀ tariff,
    Holds (notes ++ [⟨tariff, (e.appraise tariff now).1⟩]) (e.appraise tariff now).2
  inertiaSample : ∀ {notes e}, Holds notes e → Holds notes e.inertiaSampled
  choiceSample : ∀ {notes e}, Holds notes e → Holds notes e.choiceSampled
  transfer : ∀ {notes e}, Holds notes e → ∀ origin destination count,
    Holds notes (e.transfer origin destination count)

section

variable {customer : Customer} {now : Instant} {Holds : List (Note R) → Evaluator M R → Prop}

theorem Invariant.parallel (kept : Invariant customer now Holds) (books : Books R) :
    Parallel customer books now fun notes (e f : Evaluator M R) => f = e ∧ Holds notes e where
  own := by
    rintro notes e _ ⟨rfl, holds⟩
    exact ⟨kept.own holds, kept.own holds⟩
  settings := by
    rintro notes e _ ⟨rfl, -⟩
    exact ⟨_, rfl⟩
  allocations := fun ⟨same, _⟩ => congrArg Evaluator.allocations same
  profileLength := fun ⟨same, _⟩ => congrArg Evaluator.profileLength same
  switchFactor := by
    rintro notes e _ ⟨rfl, -⟩ isRevoked
    rfl
  appraise := by
    rintro notes e _ ⟨rfl, holds⟩ tariff -
    exact ⟨rfl, rfl, kept.appraise holds tariff⟩
  inertiaSample := by
    rintro notes e _ ⟨rfl, holds⟩
    exact ⟨rfl, rfl, kept.inertiaSample holds⟩
  choiceSample := by
    rintro notes e _ ⟨rfl, holds⟩
    exact ⟨rfl, rfl, kept.choiceSample holds⟩
  transfer := by
    rintro notes e _ ⟨rfl, holds⟩ origin destination count
    exact ⟨rfl, kept.transfer holds origin destination count⟩

theorem Invariant.evaluate {e : Evaluator M R} (kept : Invariant e.customer now Holds)
    {books : Books R} {default : Tariff R}
    (found : books.market.defaultFor e.customer.powerType = some default)
    (begun : Holds [⟨default, (e.begun.appraiseDefault default now).1⟩]
      (e.begun.appraiseDefault default now).2) :
    Holds (e.consulted books now) (e.evaluate books now).1 :=
  ((kept.parallel books).alike_evaluate found
    ⟨rfl, rfl, ⟨_, rfl⟩, rfl, rfl, rfl, begun⟩).1.2

end

end Evaluator

/-! ## One evaluation after another -/

def Evaluator.afterEvaluations {M R : Type} [Quantity R] [CustomerModel M R] (e : Evaluator M R)
    (calls : List (Books R × Instant)) : Evaluator M R :=
  calls.foldl (fun e call => (e.evaluate call.1 call.2).1) e

/-! ## Models in the view of others -/

section View

variable {M N R : Type} [CustomerModel M R] [CustomerModel N R]

/-- What a model answers is what another answers in its view. -/
structure Answers (view : N → M) : Prop where
  profile : ∀ (model : N) (tariff : Tariff R) (now : Instant),
    CustomerModel.profile (view model) tariff now =
      ((CustomerModel.profile model tariff now).1, view (CustomerModel.profile model tariff now).2)
  switchFactor : ∀ model isRevoked,
    CustomerModel.switchFactor (view model) isRevoked = CustomerModel.switchFactor model isRevoked
  choiceSample : ∀ model, CustomerModel.choiceSample (view model) =
    ((CustomerModel.choiceSample model).1, view (CustomerModel.choiceSample model).2)
  inertiaSample : ∀ model, CustomerModel.inertiaSample (view model) =
    ((CustomerModel.inertiaSample model).1, view (CustomerModel.inertiaSample model).2)
  shiftingInconvenience : ∀ (model : N) (tariff : Tariff R),
    CustomerModel.shiftingInconvenience (view model) tariff =
      CustomerModel.shiftingInconvenience model tariff
  notify : ∀ model transfer,
    CustomerModel.notify (view model) transfer = view (CustomerModel.notify model transfer)

namespace Evaluator

def seen (view : N → M) (e : Evaluator N R) : Evaluator M R := { e with model := view e.model }

variable [Quantity R] {view : N → M}

theorem forecastCost_seen (answers : Answers view) (e : Evaluator N R) (tariff : Tariff R)
    (now : Instant) :
    (e.seen view).forecastCost tariff now =
      ((e.forecastCost tariff now).1, (e.forecastCost tariff now).2.seen view) := by
  have asked : CustomerModel.profile (e.seen view).model tariff now =
      ((CustomerModel.profile e.model tariff now).1,
        view (CustomerModel.profile e.model tariff now).2) := answers.profile e.model tariff now
  simp only [forecastCost_eq, asked, answers.shiftingInconvenience]
  rfl

theorem appraiseWith_seen (answers : Answers view) (e : Evaluator N R) (tariff : Tariff R)
    (inconvenience : R) (now : Instant) :
    (e.seen view).appraiseWith tariff inconvenience now =
      ((e.appraiseWith tariff inconvenience now).1,
        (e.appraiseWith tariff inconvenience now).2.seen view) := by
  have cache : (e.seen view).cache = e.cache := rfl
  unfold appraiseWith
  rw [cache, forecastCost_seen answers]
  cases e.cache.get? tariff.id <;> rfl

theorem parallel_seen (answers : Answers view) (customer : Customer) (books : Books R)
    (now : Instant) :
    Parallel customer books now fun _ (e : Evaluator N R) f =>
      e.customer = customer ∧ f = e.seen view where
  own := by
    rintro notes e _ ⟨own, rfl⟩
    exact ⟨own, own⟩
  settings := by
    rintro notes e _ ⟨-, rfl⟩
    exact ⟨e.settings.evaluateAll, rfl⟩
  allocations := by
    rintro notes e _ ⟨-, rfl⟩
    rfl
  profileLength := by
    rintro notes e _ ⟨-, rfl⟩
    rfl
  switchFactor := by
    rintro notes e _ ⟨-, rfl⟩
    exact answers.switchFactor e.model
  appraise := by
    rintro notes e _ ⟨own, rfl⟩ tariff -
    have seen := appraiseWith_seen answers e tariff (e.inconvenience tariff) now
    exact ⟨congrArg Prod.fst seen, (moved_appraiseWith e tariff _ now).customer.trans own,
      congrArg Prod.snd seen⟩
  inertiaSample := by
    rintro notes e _ ⟨own, rfl⟩
    have sampled := answers.inertiaSample e.model
    refine ⟨congrArg Prod.fst sampled, own, ?_⟩
    simp only [inertiaSampled, seen, sampled]
  choiceSample := by
    rintro notes e _ ⟨own, rfl⟩
    have sampled := answers.choiceSample e.model
    refine ⟨congrArg Prod.fst sampled, own, ?_⟩
    simp only [choiceSampled, seen, sampled]
  transfer := by
    rintro notes e _ ⟨own, rfl⟩ origin destination count
    unfold transfer
    split
    · exact ⟨own, rfl⟩
    · refine ⟨own, ?_⟩
      simp only [seen, answers.notify]

theorem consulted_and_evaluate_seen (answers : Answers view) (e : Evaluator N R)
    (books : Books R) (now : Instant) :
    (e.seen view).consulted books now = e.consulted books now ∧
      (e.seen view).evaluate books now =
        ((e.evaluate books now).1.seen view, (e.evaluate books now).2) := by
  cases found : books.market.defaultFor e.customer.powerType with
  | none =>
      have found' : books.market.defaultFor (e.seen view).customer.powerType = none := found
      rw [consulted_of_missing found, consulted_of_missing found', evaluate_of_missing found,
        evaluate_of_missing found']
      exact ⟨rfl, rfl⟩
  | some default =>
      have seen := appraiseWith_seen answers e.begun default 0 now
      have customer := (moved_appraiseWith e.begun default 0 now).customer
      obtain ⟨⟨-, evaluated⟩, consulted, issued⟩ :=
        (parallel_seen answers e.customer books now).alike_evaluate (e := e) (f := e.seen view)
          found ⟨rfl, rfl, ⟨e.settings.evaluateAll, rfl⟩, rfl, congrArg Prod.fst seen,
            customer, congrArg Prod.snd seen⟩
      exact ⟨consulted, Prod.ext evaluated issued⟩

theorem consulted_seen (answers : Answers view) (e : Evaluator N R) (books : Books R)
    (now : Instant) : (e.seen view).consulted books now = e.consulted books now :=
  (consulted_and_evaluate_seen answers e books now).1

theorem evaluate_seen (answers : Answers view) (e : Evaluator N R) (books : Books R)
    (now : Instant) :
    (e.seen view).evaluate books now =
      ((e.evaluate books now).1.seen view, (e.evaluate books now).2) :=
  (consulted_and_evaluate_seen answers e books now).2

end Evaluator

end View

end RetailMarket
