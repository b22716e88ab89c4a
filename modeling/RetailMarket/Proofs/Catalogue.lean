import Mathlib
import RetailMarket.Market

/-!
# The catalogue over its changes

The first subscription to a tariff turns it from offered to active, which no rule of the market
tells apart: what a search, a succession or a revocation finds depends only on the `unmarked`
catalogue.  The other changes are described by what a look-up finds after them.  A tariff is known
when it has been published, and on offer when it is known and has not been revoked.
-/

namespace RetailMarket

/-! ## Listings without their first subscription -/

namespace Listing

variable {R : Type}

def unmarked (listing : Listing R) : Listing R :=
  if listing.state = .active then { listing with state := .offered } else listing

@[simp] theorem unmarked_markSubscribed (listing : Listing R) :
    listing.markSubscribed.unmarked = listing.unmarked := by
  unfold markSubscribed unmarked
  by_cases offered : listing.state = .offered
  · cases listing
    simp_all
  · simp [offered]

@[simp] theorem unmarked_unmarked (listing : Listing R) :
    listing.unmarked.unmarked = listing.unmarked := by
  unfold unmarked
  by_cases active : listing.state = .active <;> simp [active]

@[simp] theorem tariff_unmarked (listing : Listing R) :
    listing.unmarked.tariff = listing.tariff := by
  unfold unmarked
  split <;> rfl

@[simp] theorem id_unmarked (listing : Listing R) : listing.unmarked.id = listing.id :=
  congrArg Tariff.id listing.tariff_unmarked

@[simp] theorem supersededBy_unmarked (listing : Listing R) :
    listing.unmarked.supersededBy = listing.supersededBy := by
  unfold unmarked
  split <;> rfl

@[simp] theorem isRevoked_unmarked (listing : Listing R) :
    listing.unmarked.isRevoked = listing.isRevoked := by
  unfold unmarked isRevoked
  by_cases active : listing.state = .active <;> simp [active]

@[simp] theorem isSubscribable_unmarked (listing : Listing R) (now : Instant) :
    listing.unmarked.isSubscribable now = listing.isSubscribable now := by
  have active : listing.unmarked.isActive = listing.isActive := by
    unfold unmarked isActive
    by_cases active : listing.state = .active <;> simp [active]
  simp [isSubscribable, isExpired, active]

theorem revoke_unmarked (listing : Listing R) :
    listing.unmarked.revoke = listing.revoke.unmarked := by
  cases listing
  rename_i tariff state supersededBy
  cases state <;> rfl

theorem supersede_unmarked (id : TariffId) (listing : Listing R) :
    listing.unmarked.supersede id = (listing.supersede id).unmarked := by
  cases listing
  rename_i tariff state supersededBy
  cases state <;> rfl

theorem isRevoked_iff {listing : Listing R} :
    listing.isRevoked = true ↔ listing.state = .killed := beq_iff_eq

theorem revoke_of_isRevoked {listing : Listing R} (revoked : listing.isRevoked = true) :
    listing.revoke = listing := by
  rw [revoke, ← isRevoked_iff.1 revoked]

theorem isRevoked_eq_false_of_isSubscribable {listing : Listing R} {now : Instant}
    (subscribable : listing.isSubscribable now = true) : listing.isRevoked = false := by
  simp only [isSubscribable, Bool.and_eq_true, Bool.not_eq_true'] at subscribable
  exact subscribable.2

end Listing

namespace Catalogue

variable {R : Type}

/-! ## Look-ups after a change -/

theorem findIn_map (listings : List (Listing R)) (id : TariffId)
    {change : Listing R → Listing R} (kept : ∀ listing, (change listing).id = listing.id) :
    findIn (listings.map change) id = (findIn listings id).map change := by
  unfold findIn
  rw [List.find?_map]
  simp only [Function.comp_def, kept]

theorem find?_update (catalogue : Catalogue R) (id other : TariffId)
    {change : Listing R → Listing R} (kept : ∀ listing, (change listing).id = listing.id) :
    (catalogue.update id change).find? other =
      (catalogue.find? other).map fun listing =>
        if listing.id = id then change listing else listing := by
  apply findIn_map
  intro listing
  split
  · exact kept listing
  · rfl

theorem ids_update (catalogue : Catalogue R) (id : TariffId) {change : Listing R → Listing R}
    (kept : ∀ listing, (change listing).id = listing.id) :
    (catalogue.update id change).listed.map Listing.id = catalogue.listed.map Listing.id := by
  simp only [update, updateIn, List.map_map]
  apply List.map_congr_left
  intro listing _
  simp only [Function.comp_apply]
  split
  · exact kept listing
  · rfl

theorem mem_of_find? {catalogue : Catalogue R} {id : TariffId} {listing : Listing R}
    (found : catalogue.find? id = some listing) :
    listing ∈ catalogue.listed ∧ listing.id = id :=
  ⟨List.mem_of_find?_eq_some found, by simpa using List.find?_some found⟩

/-! ## The unmarked catalogue -/

def unmarked (catalogue : Catalogue R) : Catalogue R :=
  { catalogue with
    listed := catalogue.listed.map Listing.unmarked
    contracts := catalogue.contracts.map Listing.unmarked }

theorem find?_unmarked (catalogue : Catalogue R) (id : TariffId) :
    catalogue.unmarked.find? id = (catalogue.find? id).map Listing.unmarked :=
  findIn_map _ _ Listing.id_unmarked

theorem isRevoked_standing_unmarked (catalogue : Catalogue R) (tariff : Tariff R) :
    (catalogue.unmarked.standing tariff).isRevoked =
      (catalogue.standing tariff).isRevoked := by
  unfold standing
  cases tariff.contract with
  | none =>
      simp only [find?_unmarked]
      cases catalogue.find? tariff.id <;> simp
  | some number =>
      simp only [unmarked, List.getElem?_map]
      cases catalogue.contracts[number]? <;> simp

theorem supersededBy_standing_unmarked (catalogue : Catalogue R) (tariff : Tariff R) :
    (catalogue.unmarked.standing tariff).supersededBy =
      (catalogue.standing tariff).supersededBy := by
  unfold standing
  cases tariff.contract with
  | none =>
      simp only [find?_unmarked]
      cases catalogue.find? tariff.id <;> simp
  | some number =>
      simp only [unmarked, List.getElem?_map]
      cases catalogue.contracts[number]? <;> simp

theorem takeRecent_unmarked (catalogue : Catalogue R) (depth : Nat) (customer : PowerType)
    (now : Instant) (taken : PowerType → Nat) (ids : List TariffId) :
    catalogue.unmarked.takeRecent depth customer now taken ids =
      catalogue.takeRecent depth customer now taken ids := by
  induction ids generalizing taken with
  | nil => rfl
  | cons id rest ih =>
      simp only [takeRecent, find?_unmarked]
      cases catalogue.find? id with
      | none => exact ih taken
      | some listing => simp [ih]

theorem recentOffers_unmarked (catalogue : Catalogue R) (depth : Nat) (customer : PowerType)
    (now : Instant) :
    catalogue.unmarked.recentOffers depth customer now =
      catalogue.recentOffers depth customer now := by
  simp only [recentOffers, takeRecent_unmarked]
  rfl

theorem unmarked_update (catalogue : Catalogue R) (id : TariffId)
    {change : Listing R → Listing R}
    (commutes : ∀ listing, change listing.unmarked = (change listing).unmarked) :
    (catalogue.update id change).unmarked = catalogue.unmarked.update id change := by
  simp only [unmarked, update, updateIn, List.map_map]
  congr 1
  apply List.map_congr_left
  intro listing _
  by_cases same : listing.id = id <;> simp [same, commutes]

theorem unmarked_change_markSubscribed (catalogue : Catalogue R) (tariff : Tariff R) :
    (catalogue.change tariff Listing.markSubscribed).unmarked = catalogue.unmarked := by
  unfold change
  cases tariff.contract with
  | none =>
      simp only [unmarked, update, updateIn, List.map_map]
      congr 1
      apply List.map_congr_left
      intro listing _
      by_cases same : listing.id = tariff.id <;> simp [same]
  | some number =>
      simp only [unmarked]
      congr 1
      apply List.ext_getElem?
      intro place
      simp only [List.getElem?_map, List.getElem?_modify]
      split <;> cases catalogue.contracts[place]? <;> simp

theorem revoke_unmarked (catalogue : Catalogue R) (id : TariffId) :
    catalogue.unmarked.revoke id =
      ((catalogue.revoke id).1, (catalogue.revoke id).2.unmarked) := by
  simp only [revoke, find?_unmarked]
  cases catalogue.find? id with
  | none => rfl
  | some listing =>
      simp only [Option.map_some, Listing.isRevoked_unmarked]
      cases listing.isRevoked with
      | true => rfl
      | false => simp [unmarked_update, Listing.revoke_unmarked]

theorem enter_unmarked (catalogue : Catalogue R) (tariff : Tariff R) :
    (catalogue.unmarked.enter tariff).1 = (catalogue.enter tariff).1 ∧
      (catalogue.unmarked.enter tariff).2.unmarked = (catalogue.enter tariff).2.unmarked := by
  have twice : catalogue.unmarked.unmarked = catalogue.unmarked := by simp [unmarked]
  simp only [enter, find?_unmarked, Option.isSome_map]
  cases (catalogue.find? tariff.id).isSome with
  | true => exact ⟨rfl, twice⟩
  | false =>
      refine ⟨rfl, ?_⟩
      cases tariff.supersedes with
      | none => simp [unmarked]
      | some old =>
          have linked := catalogue.unmarked_update old
            (fun listing => Listing.supersede_unmarked tariff.id listing)
          simp only [Bool.false_eq_true, if_false, ← linked]
          simp [unmarked, update]

/-! ## Tariffs on offer -/

/-- The ids of published tariffs differ and have been handed out, and none is a private contract. -/
structure WellFormed (catalogue : Catalogue R) : Prop where
  nodup : (catalogue.listed.map Listing.id).Nodup
  bounded : ∀ listing ∈ catalogue.listed, listing.id.number ≤ catalogue.lastId
  published : ∀ listing ∈ catalogue.listed, listing.tariff.contract = none

def Knows (catalogue : Catalogue R) (tariff : Tariff R) : Prop :=
  tariff.contract = none ∧ ∃ listing, catalogue.find? tariff.id = some listing

def Offers (catalogue : Catalogue R) (tariff : Tariff R) : Prop :=
  tariff.contract = none ∧
    ∃ listing, catalogue.find? tariff.id = some listing ∧ listing.isRevoked = false

theorem wellFormed_empty : ({} : Catalogue R).WellFormed :=
  ⟨List.nodup_nil, by simp, by simp⟩

theorem WellFormed.find?_of_mem {catalogue : Catalogue R} (wellFormed : catalogue.WellFormed)
    {listing : Listing R} (listed : listing ∈ catalogue.listed) :
    catalogue.find? listing.id = some listing := by
  have known : (catalogue.find? listing.id).isSome := by
    rw [find?, findIn, List.find?_isSome]
    exact ⟨listing, listed, beq_self_eq_true listing.id⟩
  obtain ⟨other, found⟩ := Option.isSome_iff_exists.1 known
  obtain ⟨member, same⟩ := mem_of_find? found
  obtain rfl := List.inj_on_of_nodup_map wellFormed.nodup member listed same
  exact found

theorem Offers.knows {catalogue : Catalogue R} {tariff : Tariff R}
    (offered : catalogue.Offers tariff) : catalogue.Knows tariff :=
  ⟨offered.1, offered.2.imp fun _ found => found.1⟩

theorem standing_of_find? {catalogue : Catalogue R} {tariff : Tariff R} {listing : Listing R}
    (published : tariff.contract = none) (found : catalogue.find? tariff.id = some listing) :
    catalogue.standing tariff = listing := by
  simp [standing, published, found]

theorem Knows.offers_iff {catalogue : Catalogue R} {tariff : Tariff R}
    (known : catalogue.Knows tariff) :
    catalogue.Offers tariff ↔ (catalogue.standing tariff).isRevoked = false := by
  obtain ⟨published, listing, found⟩ := known
  rw [standing_of_find? published found]
  constructor
  · rintro ⟨-, other, foundOther, alive⟩
    rw [found] at foundOther
    cases foundOther
    exact alive
  · intro alive
    exact ⟨published, listing, found, alive⟩

theorem Offers.not_revoked {catalogue : Catalogue R} {tariff : Tariff R}
    (offered : catalogue.Offers tariff) : (catalogue.standing tariff).isRevoked = false :=
  offered.knows.offers_iff.1 offered

theorem offers_of_subscribable {catalogue : Catalogue R} (wellFormed : catalogue.WellFormed)
    {id : TariffId} {listing : Listing R} {now : Instant}
    (found : catalogue.find? id = some listing)
    (subscribable : listing.isSubscribable now = true) : catalogue.Offers listing.tariff := by
  obtain ⟨listed, same⟩ := mem_of_find? found
  refine ⟨wellFormed.published _ listed, listing, ?_,
    Listing.isRevoked_eq_false_of_isSubscribable subscribable⟩
  rw [← found, ← same]
  rfl

theorem exists_of_mem_takeRecent {catalogue : Catalogue R} {depth : Nat} {customer : PowerType}
    {now : Instant} {taken : PowerType → Nat} {ids : List TariffId} {tariff : Tariff R}
    (recent : tariff ∈ catalogue.takeRecent depth customer now taken ids) :
    ∃ id listing, catalogue.find? id = some listing ∧ listing.isSubscribable now = true ∧
      customer.canUse listing.tariff.powerType = true ∧ tariff = listing.tariff := by
  induction ids generalizing taken with
  | nil => cases recent
  | cons id rest ih =>
      simp only [takeRecent] at recent
      split at recent
      · exact ih recent
      · rename_i listing found
        split at recent
        · rename_i eligible
          simp only [Bool.and_eq_true] at eligible
          rcases List.mem_cons.1 recent with rfl | later
          · exact ⟨id, listing, found, eligible.1.1, eligible.1.2, rfl⟩
          · exact ih later
        · exact ih recent

theorem exists_of_mem_recentOffers {catalogue : Catalogue R} {depth : Nat} {customer : PowerType}
    {now : Instant} {tariff : Tariff R}
    (recent : tariff ∈ catalogue.recentOffers depth customer now) :
    ∃ id listing, catalogue.find? id = some listing ∧ listing.isSubscribable now = true ∧
      customer.canUse listing.tariff.powerType = true ∧ tariff = listing.tariff := by
  obtain ⟨queue, -, taken⟩ := List.mem_flatMap.1 recent
  exact exists_of_mem_takeRecent taken

theorem offers_of_mem_recentOffers {catalogue : Catalogue R} (wellFormed : catalogue.WellFormed)
    {depth : Nat} {customer : PowerType} {now : Instant} {tariff : Tariff R}
    (recent : tariff ∈ catalogue.recentOffers depth customer now) : catalogue.Offers tariff := by
  obtain ⟨id, listing, found, subscribable, -, rfl⟩ := exists_of_mem_recentOffers recent
  exact offers_of_subscribable wellFormed found subscribable

/-! ### What keeps a tariff known or on offer -/

theorem knows_congr {first second : Catalogue R} (same : first.unmarked = second.unmarked)
    (tariff : Tariff R) : first.Knows tariff ↔ second.Knows tariff := by
  have viewed (catalogue : Catalogue R) : catalogue.Knows tariff ↔
      catalogue.unmarked.Knows tariff := by
    simp [Knows, find?_unmarked]
  rw [viewed first, viewed second, same]

theorem offers_congr {first second : Catalogue R} (same : first.unmarked = second.unmarked)
    (tariff : Tariff R) : first.Offers tariff ↔ second.Offers tariff := by
  have viewed (catalogue : Catalogue R) : catalogue.Offers tariff ↔
      catalogue.unmarked.Offers tariff := by
    simp [Offers, find?_unmarked]
  rw [viewed first, viewed second, same]

theorem wellFormed_congr {first second : Catalogue R} (same : first.unmarked = second.unmarked) :
    first.WellFormed ↔ second.WellFormed := by
  have ids (catalogue : Catalogue R) :
      catalogue.unmarked.listed.map Listing.id = catalogue.listed.map Listing.id := by
    simp [unmarked]
  have viewed (catalogue : Catalogue R) : catalogue.WellFormed ↔
      catalogue.unmarked.WellFormed := by
    constructor <;> intro wellFormed
    · exact ⟨ids catalogue ▸ wellFormed.nodup,
        by simpa [unmarked] using wellFormed.bounded,
        by simpa [unmarked] using wellFormed.published⟩
    · exact ⟨ids catalogue ▸ wellFormed.nodup,
        by simpa [unmarked] using wellFormed.bounded,
        by simpa [unmarked] using wellFormed.published⟩
  rw [viewed first, viewed second, same]

theorem isRevoked_standing_congr {first second : Catalogue R}
    (same : first.unmarked = second.unmarked) (tariff : Tariff R) :
    (first.standing tariff).isRevoked = (second.standing tariff).isRevoked := by
  rw [← isRevoked_standing_unmarked, same, isRevoked_standing_unmarked]

theorem recentOffers_congr {first second : Catalogue R}
    (same : first.unmarked = second.unmarked) (depth : Nat) (customer : PowerType)
    (now : Instant) :
    first.recentOffers depth customer now = second.recentOffers depth customer now := by
  rw [← recentOffers_unmarked, same, recentOffers_unmarked]

end Catalogue

/-! ## Successors and defaults -/

namespace Market

variable {R : Type}

theorem superseding?_unmarked (catalogue : Catalogue R) (tariff : Tariff R) (now : Instant) :
    superseding? catalogue.unmarked tariff now = superseding? catalogue tariff now := by
  unfold superseding?
  rw [Catalogue.supersededBy_standing_unmarked]
  cases (catalogue.standing tariff).supersededBy with
  | none => rfl
  | some id =>
      simp only [Catalogue.find?_unmarked]
      cases catalogue.find? id <;> simp

theorem superseding?_congr {first second : Catalogue R}
    (same : first.unmarked = second.unmarked) (tariff : Tariff R) (now : Instant) :
    superseding? first tariff now = superseding? second tariff now := by
  rw [← superseding?_unmarked, same, superseding?_unmarked]

theorem exists_of_superseding? {catalogue : Catalogue R} {tariff successor : Tariff R}
    {now : Instant} (superseding : superseding? catalogue tariff now = some successor) :
    ∃ id listing, (catalogue.standing tariff).supersededBy = some id ∧
      catalogue.find? id = some listing ∧ listing.isSubscribable now = true ∧
      successor = listing.tariff := by
  simp only [superseding?] at superseding
  split at superseding
  · cases superseding
  · rename_i id linked
    split at superseding
    · cases superseding
    · rename_i listing found
      split at superseding
      · rename_i subscribable
        cases superseding
        exact ⟨id, listing, linked, found, subscribable, rfl⟩
      · cases superseding

theorem offers_of_superseding? {catalogue : Catalogue R} (wellFormed : catalogue.WellFormed)
    {tariff successor : Tariff R} {now : Instant}
    (superseding : superseding? catalogue tariff now = some successor) :
    catalogue.Offers successor := by
  obtain ⟨id, listing, -, found, subscribable, rfl⟩ := exists_of_superseding? superseding
  exact Catalogue.offers_of_subscribable wellFormed found subscribable

def OffersDefaults (market : Market R) (catalogue : Catalogue R) : Prop :=
  ∀ powerType tariff, market.defaults powerType = some tariff → catalogue.Offers tariff

theorem OffersDefaults.defaultFor {market : Market R} {catalogue : Catalogue R}
    (offered : market.OffersDefaults catalogue) {powerType : PowerType} {tariff : Tariff R}
    (found : market.defaultFor powerType = some tariff) : catalogue.Offers tariff := by
  rw [Market.defaultFor, Option.or_eq_some_iff] at found
  rcases found with own | ⟨-, generic⟩
  · exact offered _ _ own
  · exact offered _ _ generic

theorem OffersDefaults.successor? {market : Market R} {catalogue : Catalogue R}
    (wellFormed : catalogue.WellFormed) (offered : market.OffersDefaults catalogue)
    {tariff successor : Tariff R} {powerType : PowerType} {now : Instant}
    (found : market.successor? catalogue tariff powerType now = some successor) :
    catalogue.Offers successor := by
  rw [Market.successor?, Option.or_eq_some_iff] at found
  rcases found with superseding | ⟨-, fallback⟩
  · exact offers_of_superseding? wellFormed superseding
  · exact offered.defaultFor fallback

theorem isDefault_of_defaults {market : Market R} {powerType : PowerType} {tariff : Tariff R}
    (found : market.defaults powerType = some tariff) : market.isDefault tariff.id = true := by
  simp only [isDefault, List.any_eq_true]
  exact ⟨powerType, powerType.mem_all, by simp [found]⟩

end Market

end RetailMarket
