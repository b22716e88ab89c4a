import RetailMarket.Proofs.Balance

/-!
# Where an evaluation leads

Whatever a customer is offered, no member is taken anywhere but to an offer that is open to
subscription or to the default tariff.  So every transfer that an evaluation tells of is orderly.
-/

namespace RetailMarket

namespace Evaluator

variable {M R : Type} [Quantity R] [CustomerModel M R]

/-! ## Where members can be taken -/

/-- A tariff with this id can be subscribed to, or it is the default tariff. -/
def IsDestination (books : Books R) (powerType : PowerType) (now : Instant) (id : TariffId) :
    Prop :=
  (∃ listing, books.catalogue.find? id = some listing ∧ listing.isSubscribable now = true) ∨
    ∃ default, books.market.defaultFor powerType = some default ∧ default.id = id

omit [Quantity R] [CustomerModel M R] in
theorem isDestination_of_find? {books : Books R} {powerType : PowerType} {now : Instant}
    {id : TariffId} {listing : Listing R} (found : books.catalogue.find? id = some listing)
    (subscribable : listing.isSubscribable now = true) :
    IsDestination books powerType now listing.tariff.id := by
  obtain rfl : listing.tariff.id = id := (Catalogue.mem_of_find? found).2
  exact .inl ⟨listing, found, subscribable⟩

omit [Quantity R] [CustomerModel M R] in
theorem isDestination_of_superseding? {books : Books R} (powerType : PowerType) {now : Instant}
    {tariff successor : Tariff R}
    (superseding : Market.superseding? books.catalogue tariff now = some successor) :
    IsDestination books powerType now successor.id := by
  obtain ⟨id, listing, -, found, subscribable, rfl⟩ :=
    Market.exists_of_superseding? superseding
  exact isDestination_of_find? found subscribable

omit [Quantity R] [CustomerModel M R] in
theorem isDestination_of_candidate {e : Evaluator M R} {books : Books R} {now : Instant}
    {tariff : Tariff R} (candidate : tariff ∈ e.candidates books now) (powerType : PowerType) :
    IsDestination books powerType now tariff.id := by
  rcases mem_pushUnique_all candidate with recent | superseding
  · obtain ⟨id, listing, found, subscribable, -, rfl⟩ :=
      Catalogue.exists_of_mem_recentOffers recent
    exact isDestination_of_find? found subscribable
  · obtain ⟨revoked, -, found⟩ := List.mem_filterMap.1 superseding
    exact isDestination_of_superseding? powerType found

/-- Where decisions on members of a tariff can lead: to destinations and, unless it is revoked, back
to the tariff. -/
def CanLead (books : Books R) (powerType : PowerType) (now : Instant) (current tariff : Tariff R) :
    Prop :=
  IsDestination books powerType now tariff.id ∨ books.isRevoked current = false ∧ tariff = current

omit [Quantity R] [CustomerModel M R] in
theorem CanLead.isDestination {books : Books R} {powerType : PowerType} {now : Instant}
    {current tariff : Tariff R} (leads : CanLead books powerType now current tariff)
    (elsewhere : tariff.id ≠ current.id) : IsDestination books powerType now tariff.id := by
  refine leads.resolve_right ?_
  rintro ⟨-, rfl⟩
  exact elsewhere rfl

omit [Quantity R] [CustomerModel M R] in
theorem choosable_canLead {e : Evaluator M R} {books : Books R} (comparison : Comparison R)
    (compared : comparison.candidates = e.candidates books comparison.now)
    {powerType : PowerType} (found : books.market.defaultFor powerType = some comparison.default)
    (current : Tariff R) :
    Choosable (CanLead books powerType comparison.now current) powerType books comparison
      current := by
  have default : IsDestination books powerType comparison.now comparison.default.id :=
    .inr ⟨comparison.default, found, rfl⟩
  refine ⟨?_, .inl default, ?_, fun alive => .inr ⟨alive, rfl⟩⟩
  · intro tariff candidate
    exact .inl (isDestination_of_candidate (compared ▸ candidate) powerType)
  · intro successor replaced
    rcases Option.or_eq_some_iff.1 replaced with superseding | ⟨-, fallback⟩
    · exact .inl (isDestination_of_superseding? powerType superseding)
    · exact .inl (.inr ⟨successor, fallback, rfl⟩)

/-- A transfer of members of a customer from a tariff that they are on to another, which is open to
subscription or the default; so a tariff that is not is the default. -/
structure IsOrderly (books : Books R) (customer : Customer) (now : Instant)
    (transfer : Transfer) : Prop where
  own : transfer.customer = customer.id
  held : ∃ subscription ∈ books.roster.activeOf customer.id,
    subscription.tariff.id = transfer.origin
  elsewhere : transfer.destination ≠ transfer.origin
  reaches : IsDestination books customer.powerType now transfer.destination
  closed : ∀ listing, books.catalogue.find? transfer.destination = some listing →
    listing.isRevoked = true ∨ listing.isExpired now = true ∨ listing.state = .pending →
    ∃ default, books.market.defaultFor customer.powerType = some default ∧
      default.id = transfer.destination

omit [Quantity R] [CustomerModel M R] in
theorem IsDestination.of_closed {books : Books R} {powerType : PowerType} {now : Instant}
    {id : TariffId} (reaches : IsDestination books powerType now id) {listing : Listing R}
    (found : books.catalogue.find? id = some listing)
    (closed : listing.isRevoked = true ∨ listing.isExpired now = true ∨
      listing.state = .pending) :
    ∃ default, books.market.defaultFor powerType = some default ∧ default.id = id := by
  rcases reaches with ⟨other, foundOther, subscribable⟩ | fallback
  · rw [found] at foundOther
    cases foundOther
    rcases closed with revoked | expired | pending
    · simp [Listing.isSubscribable, revoked] at subscribable
    · simp [Listing.isSubscribable, expired] at subscribable
    · simp [Listing.isSubscribable, Listing.isActive, pending] at subscribable
  · exact fallback

/-- Whatever the model, the books and the time, every transfer that an evaluation tells of is
orderly. -/
theorem transfers_orderly (e : Evaluator M R) (books : Books R) (now : Instant) :
    ∀ transfer ∈ e.notified books now, IsOrderly books e.customer now transfer := by
  cases found : books.market.defaultFor e.customer.powerType with
  | none =>
      rw [notified_of_missing found]
      exact fun _ none => absurd none List.not_mem_nil
  | some default =>
      have choosable (current : Tariff R) :
          Choosable (CanLead books e.customer.powerType now current) e.customer.powerType books
            (e.recording.prepare books default now).1 current :=
        choosable_canLead (e := e.recording) (e.recording.prepare books default now).1 rfl found
          current
      obtain ⟨decisions, obey, decided⟩ := exists_obeys_evaluate (e := e.recording) found
        fun subscription _ => Choosable.governs (e := { e.recording with allocations := [] })
          (choosable subscription.tariff)
      have told : e.notified books now =
          (movesOf decisions.flatten).map (Move.transfer e.customer.id) :=
        decided.moved.told Recorder.transfers remembers_transfers
      rw [told]
      intro transfer listed
      obtain ⟨move, made, rfl⟩ := List.mem_map.1 listed
      obtain ⟨decision, member, moves⟩ := List.mem_filterMap.1 made
      obtain ⟨subscription, active, picks⟩ :=
        exists_of_mem_flatten (obey.imp fun _ _ obeys => obeys.rule) member
      obtain ⟨origin, leads, elsewhere⟩ := picks.of_move? moves
      have reaches := leads.isDestination elsewhere
      exact ⟨rfl, ⟨subscription, active, congrArg Tariff.id origin.symm⟩,
        fun same => elsewhere (same.trans (congrArg Tariff.id origin)), reaches,
        fun _ => reaches.of_closed⟩

theorem transfers_orderly_stranded :
    let moved : Transfer := { customer := ⟨1⟩, origin := ⟨1⟩, destination := ⟨2⟩, count := 1000 }
    moved ∈ (Stranded.evaluator 1000).notified (Stranded.books 1000) ⟨0⟩ ∧
      IsOrderly (Stranded.books 1000) (Stranded.customer 1000) ⟨0⟩ moved := by
  intro moved
  have told : moved ∈ (Stranded.evaluator 1000).notified (Stranded.books 1000) ⟨0⟩ := by
    rw [notified, Stranded.told_evaluate (by decide)]
    exact List.mem_singleton_self moved
  exact ⟨told, transfers_orderly (Stranded.evaluator 1000) (Stranded.books 1000) ⟨0⟩ moved told⟩

end Evaluator

end RetailMarket
