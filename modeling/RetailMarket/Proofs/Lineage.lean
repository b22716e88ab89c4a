import RetailMarket.Proofs.Publication

/-!
# Power types in the catalogue

The power type under which a tariff is listed never changes.  A link to a superseding tariff leads
to a listed one; where every link passes a relation of power types, a tariff and the one that takes
its place are related.  Defaults are listed under the power type for which they stand.
-/

namespace RetailMarket

namespace Catalogue

variable {R : Type}

def kind? (catalogue : Catalogue R) (id : TariffId) : Option PowerType :=
  (catalogue.find? id).map fun listing => listing.tariff.powerType

def Lists (catalogue : Catalogue R) (tariff : Tariff R) : Prop :=
  tariff.contract = none ∧ catalogue.kind? tariff.id = some tariff.powerType

def Extends (first second : Catalogue R) : Prop :=
  ∀ id kind, first.kind? id = some kind → second.kind? id = some kind

/-- Every link to a superseding tariff leads to a listed one, and between related power types. -/
def Links (related : PowerType → PowerType → Prop) (catalogue : Catalogue R) : Prop :=
  ∀ listing ∈ catalogue.listed, ∀ next, listing.supersededBy = some next →
    ∃ kind, catalogue.kind? next = some kind ∧ related listing.tariff.powerType kind

theorem Lists.mono {first second : Catalogue R} (more : first.Extends second)
    {tariff : Tariff R} (lists : first.Lists tariff) : second.Lists tariff :=
  ⟨lists.1, more _ _ lists.2⟩

theorem kind?_of_mem {catalogue : Catalogue R} (wellFormed : catalogue.WellFormed)
    {listing : Listing R} (listed : listing ∈ catalogue.listed) :
    catalogue.kind? listing.id = some listing.tariff.powerType := by
  rw [kind?, wellFormed.find?_of_mem listed]
  rfl

theorem lists_of_find? {catalogue : Catalogue R} (wellFormed : catalogue.WellFormed)
    {id : TariffId} {listing : Listing R} (found : catalogue.find? id = some listing) :
    catalogue.Lists listing.tariff := by
  obtain ⟨listed, same⟩ := mem_of_find? found
  refine ⟨wellFormed.published listing listed, ?_⟩
  rw [kind?, show listing.tariff.id = id from same, found]
  rfl

/-! ### First subscriptions -/

theorem kind?_unmarked (catalogue : Catalogue R) (id : TariffId) :
    catalogue.unmarked.kind? id = catalogue.kind? id := by
  rw [kind?, find?_unmarked, Option.map_map, kind?]
  congr 1
  funext listing
  exact congrArg Tariff.powerType listing.tariff_unmarked

theorem kind?_congr {first second : Catalogue R} (same : first.unmarked = second.unmarked)
    (id : TariffId) : first.kind? id = second.kind? id := by
  rw [← kind?_unmarked, same, kind?_unmarked]

theorem extends_of_unmarked {first second : Catalogue R}
    (same : second.unmarked = first.unmarked) : first.Extends second := fun id kind found => by
  rw [kind?_congr same, found]

theorem links_congr {related : PowerType → PowerType → Prop} {first second : Catalogue R}
    (same : first.unmarked = second.unmarked) (links : first.Links related) :
    second.Links related := by
  intro listing listed next superseded
  have viewed : listing.unmarked ∈ first.unmarked.listed := by
    rw [same]
    exact List.mem_map_of_mem listed
  obtain ⟨other, member, view⟩ := List.mem_map.1 viewed
  have link : other.supersededBy = some next := by
    rw [← Listing.supersededBy_unmarked, view, Listing.supersededBy_unmarked, superseded]
  obtain ⟨kind, found, fits⟩ := links other member next link
  have tariff : other.tariff = listing.tariff := by
    rw [← Listing.tariff_unmarked, view, Listing.tariff_unmarked]
  exact ⟨kind, (kind?_congr same next).symm.trans found, tariff ▸ fits⟩

/-! ### Publications and revocations -/

section Publication

variable {catalogue entered : Catalogue R} {tariff : Tariff R}
  (published : catalogue.enter tariff = (true, entered))

include published

theorem kind?_enter (id : TariffId) :
    entered.kind? id = (catalogue.kind? id).or
      (if tariff.id = id then some tariff.powerType else none) := by
  rw [kind?, find?_enter published, kind?, Option.map_or, Option.map_map]
  congr 1
  · congr 1
    funext listing
    exact congrArg Tariff.powerType (tariff_succeeded tariff listing)
  · split <;> rfl

theorem Extends.enter : catalogue.Extends entered := fun id kind found => by
  rw [kind?_enter published, found, Option.some_or]

theorem lists_enter (shared : tariff.contract = none) : entered.Lists tariff := by
  obtain ⟨fresh, -, -⟩ := enter_eq_true published
  refine ⟨shared, ?_⟩
  rw [kind?_enter published, kind?, fresh, if_pos rfl]
  rfl

theorem Links.enter {related : PowerType → PowerType → Prop}
    (wellFormed : catalogue.WellFormed) (links : catalogue.Links related)
    (succeeds : ∀ old, tariff.supersedes = some old → ∀ kind, catalogue.kind? old = some kind →
      related kind tariff.powerType) : entered.Links related := by
  obtain ⟨fresh, listed, -⟩ := enter_eq_true published
  have own : entered.kind? tariff.id = some tariff.powerType := by
    rw [kind?_enter published, kind?, fresh, if_pos rfl]
    rfl
  intro listing member next superseded
  rw [listed] at member
  rcases List.mem_append.1 member with old | new
  · obtain ⟨other, memberOther, rfl⟩ := List.mem_map.1 old
    rw [tariff_succeeded]
    unfold succeeded at superseded
    split at superseded
    · rename_i names
      cases superseded
      exact ⟨_, own, succeeds _ names _ (kind?_of_mem wellFormed memberOther)⟩
    · obtain ⟨kind, found, fits⟩ := links other memberOther next superseded
      exact ⟨kind, Extends.enter published _ _ found, fits⟩
  · rw [List.mem_singleton.1 new] at superseded
    cases superseded

end Publication

theorem kind?_update_revoke (catalogue : Catalogue R) (id other : TariffId) :
    (catalogue.update id Listing.revoke).kind? other = catalogue.kind? other := by
  rw [kind?, find?_update_revoke, Option.map_map, kind?]
  congr 1
  funext listing
  simp only [Function.comp_apply]
  split <;> rfl

theorem Links.update_revoke {related : PowerType → PowerType → Prop} {catalogue : Catalogue R}
    (links : catalogue.Links related) (id : TariffId) :
    (catalogue.update id Listing.revoke).Links related := by
  intro listing member next superseded
  obtain ⟨other, memberOther, rfl⟩ := List.mem_map.1 member
  have tariff : (if other.id = id then other.revoke else other).tariff = other.tariff := by
    split <;> rfl
  have link : other.supersededBy = some next := by
    rw [← superseded]
    split <;> rfl
  rw [tariff]
  obtain ⟨kind, found, fits⟩ := links other memberOther next link
  exact ⟨kind, (kind?_update_revoke catalogue id next).trans found, fits⟩

end Catalogue

/-! ## Successors and defaults -/

namespace Market

variable {R : Type} {catalogue : Catalogue R} {market : Market R}

theorem related_of_superseding? {related : PowerType → PowerType → Prop}
    (wellFormed : catalogue.WellFormed) (links : catalogue.Links related)
    {tariff successor : Tariff R} {now : Instant} (lists : catalogue.Lists tariff)
    (superseding : superseding? catalogue tariff now = some successor) :
    catalogue.Lists successor ∧ related tariff.powerType successor.powerType := by
  obtain ⟨id, listing, linked, found, -, rfl⟩ := exists_of_superseding? superseding
  obtain ⟨shared, kind⟩ := lists
  obtain ⟨old, foundOld, same⟩ := Option.map_eq_some_iff.1 kind
  rw [Catalogue.standing_of_find? shared foundOld] at linked
  obtain ⟨next, foundNext, fits⟩ := links old (Catalogue.mem_of_find? foundOld).1 id linked
  rw [Catalogue.kind?, found] at foundNext
  cases foundNext
  exact ⟨Catalogue.lists_of_find? wellFormed found, same ▸ fits⟩

def ListsDefaults (market : Market R) (catalogue : Catalogue R) : Prop :=
  ∀ powerType tariff, market.defaults powerType = some tariff →
    tariff.powerType = powerType ∧ catalogue.Lists tariff

theorem ListsDefaults.mono {more : Catalogue R} (lists : market.ListsDefaults catalogue)
    (extended : catalogue.Extends more) : market.ListsDefaults more :=
  fun powerType tariff default => (lists powerType tariff default).imp_right (·.mono extended)

theorem ListsDefaults.defaultFor (lists : market.ListsDefaults catalogue) {powerType : PowerType}
    {tariff : Tariff R} (found : market.defaultFor powerType = some tariff) :
    catalogue.Lists tariff ∧ powerType.canUse tariff.powerType = true := by
  rw [Market.defaultFor, Option.or_eq_some_iff] at found
  rcases found with own | ⟨-, generic⟩
  · obtain ⟨rfl, listed⟩ := lists _ _ own
    exact ⟨listed, PowerType.canUse_self _⟩
  · obtain ⟨same, listed⟩ := lists _ _ generic
    exact ⟨listed, same ▸ PowerType.canUse_generic powerType⟩

theorem ListsDefaults.setDefault (lists : market.ListsDefaults catalogue) {tariff : Tariff R}
    (listed : catalogue.Lists tariff) : (market.setDefault tariff).ListsDefaults catalogue := by
  intro powerType default found
  simp only [Market.setDefault] at found
  split at found
  · rename_i same
    cases found
    exact ⟨same.symm, listed⟩
  · exact lists powerType default found

end Market

end RetailMarket
