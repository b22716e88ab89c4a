import RetailMarket.Proofs.Clearing
import RetailMarket.Proofs.Lineage
import RetailMarket.Proofs.Stages
import RetailMarket.Scenario.Presets

/-!
# Compatible power types

A population comes to a tariff in four ways: as its default, by its choice among the recent offers,
and to the successor of a revoked tariff by choice or by migration.  Defaults and recent offers are
for power types that it can use.  The successor of a revoked tariff is taken as it is linked, so
that populations stay on tariffs they can use where every planned successor is for a power type
that serves all users of its predecessor.
-/

namespace RetailMarket

/-! ## Related customers and tariffs -/

namespace Books

variable {R : Type} {P : Customer → Tariff R → Prop}

/-- Contract records add up, and all members and directives are of customers and tariffs that stand
in a relation. -/
structure Relates (P : Customer → Tariff R → Prop) (books : Books R) : Prop where
  roster : books.roster.Faithful
  members : ∀ commitment ∈ books.roster.commitments, P commitment.customer commitment.tariff ∧
    ExpirationRecord.total commitment.expirations = commitment.committed
  pending : ∀ directive ∈ books.market.pending, P directive.customer directive.tariff

theorem Relates.mono {Q : Customer → Tariff R → Prop} {books : Books R}
    (relates : books.Relates P) (imp : ∀ customer tariff, P customer tariff → Q customer tariff) :
    books.Relates Q :=
  ⟨relates.roster, fun commitment listed => (relates.members commitment listed).imp_left (imp _ _),
    fun directive queued => imp _ _ (relates.pending directive queued)⟩

theorem Relates.of_mem {books : Books R} (relates : books.Relates P)
    {subscription : Subscription R} (listed : subscription ∈ books.roster.toList) :
    P subscription.customer subscription.tariff ∧ subscription.IsRecorded :=
  relates.members _ (List.mem_map_of_mem listed)

theorem Relates.queues {before after : Books R} (relates : before.Relates P)
    (queues : Queues P before after) : after.Relates P := by
  obtain ⟨orders, queued, related⟩ := queues
  refine ⟨queued.faithful relates.roster, queued.commitments ▸ relates.members, ?_⟩
  rw [queued.market]
  intro directive listed
  exact (List.mem_append.1 listed).elim (relates.pending directive) (related directive)

theorem Relates.settle [Quantity R] {books : Books R} (relates : books.Relates P)
    (now : Instant) : (books.settle now).1.Relates P := by
  refine ⟨faithful_settle relates.roster now, ?_, ?_⟩
  · refine forall_commitments_settle relates.roster (fun before member => ?_)
      (fun directive queued => ⟨relates.pending directive (mem_signups.1 queued).1, rfl⟩)
      (fun before directive _ _ holds => ⟨holds.1, ?_⟩)
    · obtain ⟨related, recorded⟩ := relates.members before member
      refine ⟨related, ?_⟩
      simp only [Commitment.release, ExpirationRecord.total_release, recorded]
      omega
    · simp only [Commitment.join, ExpirationRecord.total_enroll, holds.2]
  · rw [market_settle]
    intro directive listed
    cases listed

/-- From wherever the members of a people are, they are led to related tariffs only: by defaults, by
recent offers, and to the successors of revoked tariffs. -/
structure Leads (P : Customer → Tariff R → Prop) (people : List Customer) (books : Books R) :
    Prop where
  relates : books.Relates P
  own : ∀ customer ∈ people, ∀ subscription ∈ books.roster.activeOf customer.id,
    P customer subscription.tariff
  default : ∀ customer ∈ people, ∀ tariff,
    books.market.defaultFor customer.powerType = some tariff → P customer tariff
  recent : ∀ customer ∈ people, ∀ depth now,
    ∀ tariff ∈ books.catalogue.recentOffers depth customer.powerType now, P customer tariff
  successor : ∀ customer tariff successor now, P customer tariff →
    books.market.successor? books.catalogue tariff customer.powerType now = some successor →
      P customer successor

namespace Leads

variable {books : Books R} {people : List Customer}

theorem queues_placeEach {G : Type} (leads : books.Leads P people)
    {es : List (Evaluator (SampledCustomer G R) R)} (members : ∀ e ∈ es, e.customer ∈ people) :
    Queues P books (es.foldl Simulation.place books) :=
  Simulation.queues_placeEach fun e listed => leads.default _ (members e listed)

theorem queues_migrateEach (leads : books.Leads P people) (now : Instant) :
    Queues P books (migrateEach now books books.roster.toList).2 := by
  have own (subscription : Subscription R) (listed : subscription ∈ books.roster.toList) :=
    (leads.relates.of_mem listed).1
  refine Books.queues_migrateEach own fun subscription listed destination leaving => ?_
  obtain ⟨-, -, found⟩ := destination?_eq_some.1 leaving
  exact leads.successor _ _ _ _ (own subscription listed) found

variable {M : Type} [Quantity R] [CustomerModel M R] {e : Evaluator M R}

omit [Quantity R] [CustomerModel M R] in
theorem choosable (leads : books.Leads P people) (member : e.customer ∈ people)
    {comparison : Evaluator.Comparison R}
    (compared : comparison.candidates = e.candidates books comparison.now)
    (found : books.market.defaultFor e.customer.powerType = some comparison.default)
    {subscription : Subscription R} (active : subscription ∈ books.roster.activeOf e.customer.id) :
    Evaluator.Choosable (P e.customer) e.customer.powerType books comparison
      subscription.tariff := by
  have own := leads.own _ member
  refine ⟨fun tariff candidate => ?_, leads.default _ member _ found,
    fun successor found => leads.successor _ _ _ _ (own _ active) found, fun _ => own _ active⟩
  rw [compared] at candidate
  rcases Evaluator.mem_pushUnique_all candidate with recent | superseding
  · exact leads.recent _ member _ _ tariff recent
  · obtain ⟨revoked, leaving, found⟩ := List.mem_filterMap.1 superseding
    have succeeds : books.market.successor? books.catalogue revoked.tariff e.customer.powerType
        comparison.now = some tariff := by rw [Market.successor?, found, Option.some_or]
    exact leads.successor _ _ _ _ (own _ (List.mem_filter.1 leaving).1) succeeds

theorem exists_moves_evaluate (leads : books.Leads P people) (member : e.customer ∈ people)
    (now : Instant) :
    ∃ moves, Evaluator.MovesOffEach (P e.customer) (books.roster.activeOf e.customer.id) moves ∧
      Evaluator.Moved moves.flatten { e with allocations := [] } (e.evaluate books now).1 :=
  Evaluator.exists_moves_evaluate e now
    (fun _ active => (leads.relates.of_mem (Roster.mem_activeOf.1 active).1).2.expiredCount_le now)
    fun _ compared timed found _ active => leads.choosable member (timed ▸ compared) found active

theorem queues_evaluate (leads : books.Leads P people) (member : e.customer ∈ people)
    (now : Instant) : Queues P books (e.evaluate books now).2 := by
  refine Evaluator.queues_evaluate leads.relates.roster
    (fun subscription listed => (leads.relates.of_mem listed).1) e now ?_
  obtain ⟨moves, off, moved⟩ := leads.exists_moves_evaluate member now
  intro allocation entered
  rw [moved.allocations] at entered
  rcases Evaluator.mem_enter_all entered with none | ⟨move, moving, origin | destination⟩
  · cases none
  · obtain ⟨subscription, active, left, -, -⟩ := off.mem moving
    rw [origin, left]
    exact leads.own _ member _ active
  · obtain ⟨-, -, -, related, -⟩ := off.mem moving
    rw [destination]
    exact related

end Leads

end Books

/-! ## Books that suit a people -/

/-- Whoever of a people can use the first power type can use the second. -/
def Follows (people : List Customer) (old new : PowerType) : Prop :=
  ∀ customer ∈ people, customer.powerType.canUse old = true → customer.powerType.canUse new = true

/-- Someone of a people and a listed tariff that it can use. -/
def Fits {R : Type} (people : List Customer) (catalogue : Catalogue R) (customer : Customer)
    (tariff : Tariff R) : Prop :=
  customer ∈ people ∧ customer.powerType.canUse tariff.powerType = true ∧ catalogue.Lists tariff

namespace Books

variable {R : Type} {people : List Customer}

structure Suited (people : List Customer) (books : Books R) : Prop where
  catalogue : books.catalogue.WellFormed
  links : books.catalogue.Links (Follows people)
  defaults : books.market.ListsDefaults books.catalogue
  relates : books.Relates (Fits people books.catalogue)

theorem Relates.extend {books : Books R} {first second : Catalogue R}
    (relates : books.Relates (Fits people first)) (extended : first.Extends second) :
    books.Relates (Fits people second) :=
  relates.mono fun _ _ fits => ⟨fits.1, fits.2.1, fits.2.2.mono extended⟩

theorem Suited.relist {before after : Books R} (suited : before.Suited people)
    (catalogue : after.catalogue.WellFormed) (links : after.catalogue.Links (Follows people))
    (extended : before.catalogue.Extends after.catalogue)
    (defaults : after.market.ListsDefaults after.catalogue)
    (roster : after.roster = before.roster)
    (pending : after.market.pending = before.market.pending) : after.Suited people := by
  obtain ⟨faithful, members, queue⟩ := suited.relates.extend extended
  exact ⟨catalogue, links, defaults, roster ▸ faithful, roster ▸ members, pending ▸ queue⟩

theorem Suited.queues {before after : Books R} (suited : before.Suited people)
    (queues : Queues (Fits people before.catalogue) before after) :
    after.Suited people ∧ after.catalogue = before.catalogue := by
  have relates := suited.relates.queues queues
  obtain ⟨orders, queued, -⟩ := queues
  have same := queued.catalogue
  refine ⟨⟨same ▸ suited.catalogue, same ▸ suited.links, ?_, same ▸ relates⟩, same⟩
  rw [queued.market, same]
  exact suited.defaults

theorem Suited.settle [Quantity R] {books : Books R} (suited : books.Suited people)
    (now : Instant) : (books.settle now).1.Suited people := by
  have same := unmarked_settle books now
  have extended := Catalogue.extends_of_unmarked same
  refine ⟨(Catalogue.wellFormed_congr same).2 suited.catalogue,
    Catalogue.links_congr same.symm suited.links, ?_, ?_⟩
  · rw [market_settle]
    exact suited.defaults.mono extended
  · exact (suited.relates.extend extended).settle now

theorem Suited.fits_successor? {books : Books R} (suited : books.Suited people)
    {customer : Customer} {tariff successor : Tariff R} {now : Instant}
    (fits : Fits people books.catalogue customer tariff)
    (found : books.market.successor? books.catalogue tariff customer.powerType now =
      some successor) : Fits people books.catalogue customer successor := by
  rw [Market.successor?, Option.or_eq_some_iff] at found
  rcases found with superseding | ⟨-, fallback⟩
  · obtain ⟨lists, follows⟩ :=
      Market.related_of_superseding? suited.catalogue suited.links fits.2.2 superseding
    exact ⟨fits.1, follows customer fits.1 fits.2.1, lists⟩
  · obtain ⟨lists, usable⟩ := suited.defaults.defaultFor fallback
    exact ⟨fits.1, usable, lists⟩

theorem Suited.leads {books : Books R} (suited : books.Suited people)
    (distinct : (people.map Customer.id).Nodup) :
    books.Leads (Fits people books.catalogue) people where
  relates := suited.relates
  own customer member subscription active := by
    obtain ⟨listed, same, -⟩ := Roster.mem_activeOf.1 active
    obtain ⟨fits, -⟩ := suited.relates.of_mem listed
    rwa [List.inj_on_of_nodup_map distinct fits.1 member same] at fits
  default customer member tariff found := by
    obtain ⟨lists, usable⟩ := suited.defaults.defaultFor found
    exact ⟨member, usable, lists⟩
  recent customer member depth now tariff offered := by
    obtain ⟨id, listing, found, -, usable, rfl⟩ := Catalogue.exists_of_mem_recentOffers offered
    exact ⟨member, usable, Catalogue.lists_of_find? suited.catalogue found⟩
  successor customer tariff successor now fits found := suited.fits_successor? fits found

end Books

/-! ## Runs -/

/-- Every customer that can use a tariff can use what is planned to supersede it. -/
def Scenario.SuccessorsServe {R : Type} (scenario : Scenario R) : Prop :=
  ∀ plan ∈ scenario.tariffs, ∀ old ∈ scenario.tariffs, plan.supersedes = some old.key →
    ∀ customer ∈ scenario.customers, customer.powerType.canUse old.powerType = true →
      customer.powerType.canUse plan.powerType = true

theorem Scenario.SuccessorsServe.follows {R : Type} {scenario : Scenario R}
    (serve : scenario.SuccessorsServe) {plan old : TariffPlan R} (planned : plan ∈ scenario.tariffs)
    (before : old ∈ scenario.tariffs) (supersedes : plan.supersedes = some old.key) :
    Follows scenario.people old.powerType plan.powerType := by
  intro customer member
  obtain ⟨number, person, found, rfl⟩ := Scenario.mem_people.1 member
  exact serve plan planned old before supersedes person (List.mem_of_getElem? found)

namespace Simulation

variable {G R : Type} {scenario : Scenario R}

/-- Books that suit the customers of a scenario, and a list of what has been published under the
power types of its plans. -/
structure Compatible (scenario : Scenario R) (s : Simulation G R) : Prop where
  scenario_eq : s.scenario = scenario
  customers : s.customers.toList.map Evaluator.customer = scenario.people
  suited : s.books.Suited scenario.people
  published : ∀ entry ∈ s.published, ∃ plan ∈ scenario.tariffs, plan.key = entry.1 ∧
    s.books.catalogue.kind? entry.2 = some plan.powerType

theorem compatible_fresh [Quantity R] [SampleSource G R] (scenario : Scenario R) :
    Compatible scenario (fresh (G := G) scenario) := by
  refine ⟨rfl, customers_fresh scenario, ⟨Catalogue.wellFormed_empty, ?_, ?_,
    ⟨Roster.faithful_empty, ?_, ?_⟩⟩, ?_⟩
  · intro listing listed
    cases listed
  · intro powerType tariff default
    cases default
  · intro commitment listed
    cases listed
  · intro directive queued
    cases queued
  · intro entry listed
    cases listed

/-! ### The schedule -/

theorem Compatible.publish [Quantity R] {s next : Simulation G R} (compatible : Compatible scenario s)
    (serve : scenario.SuccessorsServe) {plan : TariffPlan R} (planned : plan ∈ scenario.tariffs)
    {count : Nat} (published : s.publish plan = .ok (next, count)) : Compatible scenario next := by
  have suited := compatible.suited
  obtain ⟨id, supersedes, entered, fresh, resolved, found, -, rfl⟩ :=
    publish_ok suited.catalogue published
  have wellFormed := suited.catalogue.nextId
  have more : s.books.catalogue.nextId.2.Extends entered := Catalogue.Extends.enter found
  have extended : s.books.catalogue.Extends entered := more
  have lists : entered.Lists (plan.tariff id supersedes) := Catalogue.lists_enter found rfl
  have links : entered.Links (Follows scenario.people) := by
    refine Catalogue.Links.enter found wellFormed suited.links fun old link kind listed => ?_
    rw [show supersedes = some old from link] at resolved
    obtain ⟨key, named, known⟩ := Option.map_eq_some_iff.1 resolved
    obtain ⟨earlier, later, split, -⟩ := List.lookup_eq_some_iff.1 known
    obtain ⟨predecessor, before, rfl, same⟩ :=
      compatible.published (key, old) (by rw [split]; simp)
    rw [show s.books.catalogue.kind? old = some kind from listed] at same
    cases same
    exact serve.follows planned before named
  refine ⟨compatible.scenario_eq, compatible.customers,
    suited.relist (wellFormed.enter found) links extended ?_ rfl ?_, ?_⟩
  · have defaults := suited.defaults.mono extended
    simp only
    split
    · exact defaults.setDefault lists
    · exact defaults
  · simp only
    split <;> rfl
  · intro entry listed
    rcases List.mem_append.1 listed with old | new
    · obtain ⟨predecessor, before, key, kind⟩ := compatible.published entry old
      exact ⟨predecessor, before, key, extended _ _ kind⟩
    · rw [List.mem_singleton.1 new]
      exact ⟨plan, planned, rfl, lists.2⟩

theorem Compatible.revoke {s : Simulation G R} (compatible : Compatible scenario s)
    (plan : TariffPlan R) : Compatible scenario (s.revoke plan).1 := by
  simp only [Simulation.revoke]
  split
  · exact compatible
  · rename_i id _
    simp only [Market.revoke]
    split
    · exact compatible
    · rcases s.books.catalogue.revoke_cases id with same | changed
      · rw [same]
        exact compatible
      · rw [changed]
        have suited := compatible.suited
        have extended : s.books.catalogue.Extends
            (s.books.catalogue.update id Listing.revoke) := fun other kind listed => by
          rw [Catalogue.kind?_update_revoke, listed]
        refine ⟨compatible.scenario_eq, compatible.customers,
          suited.relist (suited.catalogue.update_revoke id) (suited.links.update_revoke id)
            extended (suited.defaults.mono extended) rfl rfl, ?_⟩
        intro entry listed
        obtain ⟨predecessor, before, key, kind⟩ := compatible.published entry listed
        exact ⟨predecessor, before, key, extended _ _ kind⟩

/-! ### The stages of a cycle -/

theorem Compatible.replace {before after : Simulation G R} (compatible : Compatible scenario before)
    (scenario_eq : after.scenario = before.scenario)
    (customers : after.customers.toList.map Evaluator.customer =
      before.customers.toList.map Evaluator.customer)
    (published : after.published = before.published)
    (extended : before.books.catalogue.Extends after.books.catalogue)
    (suited : after.books.Suited scenario.people) : Compatible scenario after := by
  refine ⟨scenario_eq.trans compatible.scenario_eq, customers.trans compatible.customers, suited,
    fun entry listed => ?_⟩
  rw [published] at listed
  obtain ⟨plan, planned, key, kind⟩ := compatible.published entry listed
  exact ⟨plan, planned, key, extended _ _ kind⟩

theorem Compatible.queues {s : Simulation G R} (compatible : Compatible scenario s)
    {books : Books R} {customers : Array (Evaluator (SampledCustomer G R) R)}
    (same : customers.toList.map Evaluator.customer = s.customers.toList.map Evaluator.customer)
    (queues : Books.Queues (Fits scenario.people s.books.catalogue) s.books books) :
    Compatible scenario { s with books, customers } := by
  obtain ⟨suited, catalogue⟩ := compatible.suited.queues queues
  refine compatible.replace rfl same rfl (fun id kind found => ?_) suited
  rw [catalogue, found]

theorem Billed.suited {before after : Simulation G R} {people : List Customer}
    (billed : Billed before after) (suited : before.books.Suited people) :
    after.books.Suited people := by
  obtain ⟨wellFormed, links, defaults, ⟨roster, members, pending⟩⟩ := suited
  refine ⟨billed.catalogue ▸ wellFormed, billed.catalogue ▸ links, ?_,
    ⟨billed.faithful roster, ?_, ?_⟩⟩
  · rw [billed.market, billed.catalogue]
    exact defaults
  · rw [billed.commitments, billed.catalogue]
    exact members
  · rw [billed.market, billed.catalogue]
    exact pending

theorem kept_compatible [Quantity R] [SampleSource G R] (serve : scenario.SuccessorsServe) :
    Kept scenario (Compatible (G := G) scenario) := by
  have distinct := scenario.nodup_ids_people
  have hosted {s : Simulation G R} (compatible : Compatible scenario s)
      {e : Evaluator (SampledCustomer G R) R} (listed : e ∈ s.customers.toList) :
      e.customer ∈ scenario.people := compatible.customers ▸ List.mem_map_of_mem listed
  refine ⟨fun compatible => compatible.scenario_eq, fun {s} compatible => ?_,
    fun compatible planned published => compatible.publish serve planned published,
    fun compatible plan => compatible.revoke plan, fun {s} compatible => ?_,
    fun {s} compatible now => ?_, fun {s} compatible now => ?_, fun {s} compatible now => ?_,
    fun {s} compatible => ?_, fun {s} compatible cycle => ?_⟩
  · obtain ⟨wellFormed, links, defaults, ⟨roster, members, pending⟩⟩ := compatible.suited
    exact compatible.replace rfl rfl rfl (fun _ _ found => found)
      ⟨wellFormed, links, defaults, ⟨roster, members, pending⟩⟩
  · have leads := compatible.suited.leads distinct
    exact compatible.queues rfl (leads.queues_placeEach fun e => hosted compatible)
  · exact compatible.replace rfl rfl rfl
      (Catalogue.extends_of_unmarked (Books.unmarked_settle s.books now))
      (compatible.suited.settle now)
  · refine compatible.queues (Evaluator.customers_evaluateEach now s.books _)
      (Evaluator.queues_evaluateEach fun e listed later queues => ?_)
    obtain ⟨suitedLater, same⟩ := compatible.suited.queues queues
    rw [← same]
    exact (suitedLater.leads distinct).queues_evaluate (hosted compatible listed) now
  · exact compatible.queues rfl ((compatible.suited.leads distinct).queues_migrateEach now)
  · have billed := billed_billCycle s
    refine compatible.replace billed.scenario (by rw [billed.customers]) billed.published ?_
      (billed.suited compatible.suited)
    rw [billed.catalogue]
    exact fun _ _ found => found
  · exact compatible.replace rfl rfl rfl (fun _ _ found => found) compatible.suited

variable [Quantity R] [SampleSource G R]

theorem compatible_afterCalls (serve : scenario.SuccessorsServe) (calls : Nat) :
    Compatible scenario ((fresh (G := G) scenario).afterCalls calls) :=
  (kept_compatible serve).afterCalls (compatible_fresh scenario) calls

/-- Where every planned successor serves the users of its predecessor, each population is on tariffs
that it can use after any number of calls, and no directive waits that would take it elsewhere. -/
theorem members_compatible (scenario : Scenario R) (serve : scenario.SuccessorsServe)
    (calls : Nat) (s : Simulation G R) (reached : s = (fresh scenario).afterCalls calls) :
    (∀ subscription ∈ s.books.roster.toList,
      subscription.customer.powerType.canUse subscription.tariff.powerType = true) ∧
    ∀ directive ∈ s.books.market.pending,
      directive.customer.powerType.canUse directive.tariff.powerType = true := by
  have compatible : Compatible scenario s := reached ▸ compatible_afterCalls serve calls
  have relates := compatible.suited.relates
  exact ⟨fun subscription listed => (relates.of_mem listed).1.2.1,
    fun directive queued => (relates.pending directive queued).2.1⟩

theorem members_compatible_priceWar :
    Scenario.priceWar.SuccessorsServe (R := Float) ∧
      ∀ subscription ∈ ((fresh .priceWar : Simulation ChaChaStream Float).afterCalls
          10).books.roster.toList,
        subscription.customer.powerType.canUse subscription.tariff.powerType = true := by
  have serve : Scenario.SuccessorsServe (Scenario.priceWar : Scenario Float) := by
    unfold Scenario.SuccessorsServe
    decide
  exact ⟨serve, (members_compatible _ serve 10 _ rfl).1⟩

end Simulation

end RetailMarket
