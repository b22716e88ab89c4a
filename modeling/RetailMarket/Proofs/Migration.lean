import RetailMarket.Proofs.Queue

/-!
# Moves off revoked tariffs

A migration queues two directives for every subscription with members on a revoked tariff: one takes
all of them off, the other signs them up to the successor.  Where every population has a default
tariff nobody lacks a successor, and once the queue is settled the revoked tariffs are vacated.
-/

namespace RetailMarket

namespace Books

variable {R : Type}

def Vacated (books : Books R) : Prop :=
  ∀ subscription ∈ books.roster.toList,
    books.isRevoked subscription.tariff = true → subscription.committed = 0

def destination? (books : Books R) (now : Instant) (subscription : Subscription R) :
    Option (Tariff R) :=
  if books.isRevoked subscription.tariff = true ∧ subscription.committed ≠ 0 then
    books.market.successor? books.catalogue subscription.tariff subscription.customer.powerType now
  else none

def relocation (books : Books R) (now : Instant) (subscription : Subscription R) :
    List (Directive R) :=
  match books.destination? now subscription with
  | none => []
  | some destination =>
    [⟨subscription.customer, subscription.tariff, -subscription.committed⟩,
      ⟨subscription.customer, destination, subscription.committed⟩]

theorem relocation_of_none {books : Books R} {now : Instant} {subscription : Subscription R}
    (staying : books.destination? now subscription = none) :
    books.relocation now subscription = [] := by
  rw [relocation, staying]

theorem relocation_of_some {books : Books R} {now : Instant} {subscription : Subscription R}
    {destination : Tariff R} (leaving : books.destination? now subscription = some destination) :
    books.relocation now subscription =
      [⟨subscription.customer, subscription.tariff, -subscription.committed⟩,
        ⟨subscription.customer, destination, subscription.committed⟩] := by
  rw [relocation, leaving]

theorem destination?_eq_some {books : Books R} {now : Instant} {subscription : Subscription R}
    {destination : Tariff R} :
    books.destination? now subscription = some destination ↔
      books.isRevoked subscription.tariff = true ∧ subscription.committed ≠ 0 ∧
        books.market.successor? books.catalogue subscription.tariff
          subscription.customer.powerType now = some destination := by
  rw [destination?]
  split
  · rename_i leaving
    simp [leaving]
  · rename_i staying
    simp only [reduceCtorEq, false_iff, not_and]
    intro revoked peopled
    exact absurd ⟨revoked, peopled⟩ staying

theorem destination?_eq_none {books : Books R} {now : Instant} {subscription : Subscription R}
    (served : (books.market.defaultFor subscription.customer.powerType).isSome) :
    books.destination? now subscription = none ↔
      (books.isRevoked subscription.tariff = true → subscription.committed = 0) := by
  rw [destination?]
  split
  · rename_i leaving
    simp only [Market.successor?, Option.or_eq_none_iff]
    constructor
    · rintro ⟨-, missing⟩
      rw [missing] at served
      cases served
    · intro empty
      exact absurd (empty leaving.1) leaving.2
  · rename_i staying
    simp only [true_iff]
    intro revoked
    by_contra peopled
    exact staying ⟨revoked, peopled⟩

/-! ## One subscription -/

theorem migrate_of_some {books : Books R} {now : Instant} {subscription : Subscription R}
    {destination : Tariff R} (leaving : books.destination? now subscription = some destination) :
    migrate books subscription now =
      (.moved destination,
        (books.direct subscription.tariff subscription.customer
          (-signed subscription.committed)).direct destination subscription.customer
            (signed subscription.committed)) := by
  obtain ⟨revoked, peopled, found⟩ := destination?_eq_some.1 leaving
  simp only [migrate, revoked, Bool.not_true, Bool.false_eq_true, if_false, if_neg peopled, found]

theorem migrate_of_none {books : Books R} {now : Instant} {subscription : Subscription R}
    (staying : books.destination? now subscription = none) :
    (migrate books subscription now).2 = books ∧
      (migrate books subscription now).1.isMoved = false := by
  simp only [migrate]
  split
  · exact ⟨rfl, rfl⟩
  · split
    · exact ⟨rfl, rfl⟩
    · rename_i revoked peopled
      rw [destination?, if_pos ⟨by simpa using revoked, peopled⟩] at staying
      rw [staying]
      exact ⟨rfl, rfl⟩

theorem isMoved_migrate (books : Books R) (now : Instant) (subscription : Subscription R) :
    (migrate books subscription now).1.isMoved = (books.destination? now subscription).isSome := by
  cases leaving : books.destination? now subscription with
  | none => exact (migrate_of_none leaving).2
  | some destination =>
      rw [migrate_of_some leaving]
      rfl

theorem roster_migrate (books : Books R) (subscription : Subscription R) (now : Instant) :
    (migrate books subscription now).2.roster = books.roster := by
  cases leaving : books.destination? now subscription with
  | none => rw [(migrate_of_none leaving).1]
  | some destination => rw [migrate_of_some leaving, roster_direct, roster_direct]

theorem migrate_ne_noReplacement {books : Books R} {now : Instant}
    {subscription : Subscription R}
    (served : (books.market.defaultFor subscription.customer.powerType).isSome) :
    (migrate books subscription now).1 ≠ .noReplacement := by
  obtain ⟨default, found⟩ := Option.isSome_iff_exists.1 served
  obtain ⟨successor, succeeds⟩ : ∃ successor, books.market.successor? books.catalogue
      subscription.tariff subscription.customer.powerType now = some successor := by
    rw [← Option.isSome_iff_exists, Market.successor?, found]
    simp
  simp only [migrate, succeeds]
  split
  · simp
  · split <;> simp

theorem queued_migrate {books : Books R} {now : Instant} {subscription : Subscription R}
    (small : subscription.committed < 2 ^ 63) :
    Queued (books.relocation now subscription) books (migrate books subscription now).2 := by
  cases leaving : books.destination? now subscription with
  | none =>
      rw [relocation_of_none leaving, (migrate_of_none leaving).1]
      exact Queued.refl books
  | some destination =>
      obtain ⟨-, peopled, -⟩ := destination?_eq_some.1 leaving
      rw [relocation_of_some leaving, migrate_of_some leaving, signed_of_lt small]
      exact (queued_direct books subscription.tariff subscription.customer (by omega)).trans
        (queued_direct _ destination subscription.customer (by omega))

theorem queues_migrate {P : Customer → Tariff R → Prop} {books : Books R}
    {subscription : Subscription R} {now : Instant}
    (own : P subscription.customer subscription.tariff)
    (succeeds : ∀ destination, books.destination? now subscription = some destination →
      P subscription.customer destination) :
    Queues P books (books.migrate subscription now).2 := by
  cases leaving : books.destination? now subscription with
  | none =>
      rw [(migrate_of_none leaving).1]
      exact Queues.refl books
  | some destination =>
      rw [migrate_of_some leaving]
      exact (queues_direct own books _).trans (queues_direct (succeeds destination leaving) _ _)

theorem Queued.destination? {before after : Books R} {orders : List (Directive R)}
    (queued : Queued orders before after) (now : Instant) (subscription : Subscription R) :
    after.destination? now subscription = before.destination? now subscription := by
  have successor : after.market.successor? after.catalogue subscription.tariff
      subscription.customer.powerType now = before.market.successor? before.catalogue
        subscription.tariff subscription.customer.powerType now := by
    rw [Market.successor?, Market.successor?, queued.defaultFor, queued.catalogue]
  rw [Books.destination?, Books.destination?, queued.isRevoked, successor]

theorem Queued.relocation {before after : Books R} {orders : List (Directive R)}
    (queued : Queued orders before after) (now : Instant) :
    after.relocation now = before.relocation now := by
  funext subscription
  rw [Books.relocation, Books.relocation, queued.destination?]

/-! ## All subscriptions -/

theorem queued_migrateEach {books : Books R} (now : Instant) {subscriptions : List (Subscription R)}
    (small : ∀ subscription ∈ subscriptions, subscription.committed < 2 ^ 63) :
    Queued (subscriptions.flatMap (books.relocation now)) books
      (migrateEach now books subscriptions).2 := by
  induction subscriptions generalizing books with
  | nil => exact Queued.refl books
  | cons subscription rest ih =>
      have first : Queued (books.relocation now subscription) books
          (migrate books subscription now).2 := queued_migrate (small _ List.mem_cons_self)
      have later : Queued (rest.flatMap ((migrate books subscription now).2.relocation now))
          (migrate books subscription now).2
          (migrateEach now (migrate books subscription now).2 rest).2 :=
        ih fun other listed => small other (List.mem_cons_of_mem _ listed)
      rw [first.relocation] at later
      exact first.trans later

theorem ne_noReplacement_of_mem_migrateEach {books : Books R} {now : Instant}
    {subscriptions : List (Subscription R)}
    (small : ∀ subscription ∈ subscriptions, subscription.committed < 2 ^ 63)
    (served : ∀ subscription ∈ subscriptions,
      (books.market.defaultFor subscription.customer.powerType).isSome)
    {outcome : Migration R} (listed : outcome ∈ (migrateEach now books subscriptions).1) :
    outcome ≠ .noReplacement := by
  induction subscriptions generalizing books with
  | nil => cases listed
  | cons subscription rest ih =>
      have first : Queued (books.relocation now subscription) books
          (migrate books subscription now).2 := queued_migrate (small _ List.mem_cons_self)
      have servedRest : ∀ other ∈ rest, ((migrate books subscription now).2.market.defaultFor
          other.customer.powerType).isSome := by
        intro other member
        rw [first.defaultFor]
        exact served other (List.mem_cons_of_mem _ member)
      rcases List.mem_cons.1 listed with rfl | later
      · exact migrate_ne_noReplacement (served subscription List.mem_cons_self)
      · exact ih (fun other member => small other (List.mem_cons_of_mem _ member)) servedRest later

theorem migrateEach_of_no_moves {books : Books R} {now : Instant}
    {subscriptions : List (Subscription R)}
    (unmoved : (migrateEach now books subscriptions).1.filter Migration.isMoved = []) :
    (migrateEach now books subscriptions).2 = books := by
  induction subscriptions generalizing books with
  | nil => rfl
  | cons subscription rest ih =>
      have same : (migrate books subscription now).2 = books := by
        cases leaving : books.destination? now subscription with
        | none => exact (migrate_of_none leaving).1
        | some destination =>
            have moved := isMoved_migrate books now subscription
            rw [leaving] at moved
            exact absurd moved (List.filter_eq_nil_iff.1 unmoved _ List.mem_cons_self)
      simp only [migrateEach, same] at unmoved ⊢
      rw [List.filter_eq_nil_iff] at unmoved
      exact ih (List.filter_eq_nil_iff.2 fun outcome listed =>
        unmoved outcome (List.mem_cons_of_mem _ listed))

/-! ## The directives of a migration -/

theorem mem_relocation {books : Books R} {now : Instant} {subscription : Subscription R}
    {directive : Directive R} (listed : directive ∈ books.relocation now subscription) :
    ∃ destination, books.destination? now subscription = some destination ∧
      (directive = ⟨subscription.customer, subscription.tariff, -subscription.committed⟩ ∨
        directive = ⟨subscription.customer, destination, subscription.committed⟩) := by
  cases leaving : books.destination? now subscription with
  | none =>
      rw [relocation_of_none leaving] at listed
      cases listed
  | some destination =>
      rw [relocation_of_some leaving] at listed
      exact ⟨destination, rfl, by simpa using listed⟩

theorem withdrawals_relocation (books : Books R) (now : Instant)
    (subscriptions : List (Subscription R)) :
    (subscriptions.flatMap (books.relocation now)).filter
        (fun directive => decide (directive.count < 0)) =
      (subscriptions.filter fun s => (books.destination? now s).isSome).map
        fun s => ⟨s.customer, s.tariff, -s.committed⟩ := by
  induction subscriptions with
  | nil => rfl
  | cons subscription rest ih =>
      rw [List.flatMap_cons, List.filter_append, ih]
      cases leaving : books.destination? now subscription with
      | none =>
          rw [relocation_of_none leaving, List.filter_cons_of_neg (by simp [leaving])]
          rfl
      | some destination =>
          obtain ⟨-, peopled, -⟩ := destination?_eq_some.1 leaving
          have negative : -(subscription.committed : Int) < 0 := by omega
          have positive : ¬ (subscription.committed : Int) < 0 := by omega
          simp only [relocation_of_some leaving, leaving, negative, positive, List.filter_cons,
            List.filter_nil, decide_true, decide_false, Option.isSome_some, if_true,
            Bool.false_eq_true, if_false, List.map_cons, List.singleton_append]

theorem sum_relocation_customer (books : Books R) (now : Instant)
    (subscriptions : List (Subscription R)) (id : CustomerId) :
    (((subscriptions.flatMap (books.relocation now)).filter fun directive =>
      directive.key.customer == id).map (·.count)).sum = 0 := by
  induction subscriptions with
  | nil => rfl
  | cons subscription rest ih =>
      rw [List.flatMap_cons, List.filter_append, List.map_append, List.sum_append, ih]
      cases leaving : books.destination? now subscription with
      | none => simp [relocation_of_none leaving]
      | some destination =>
          rw [relocation_of_some leaving]
          by_cases same : subscription.customer.id = id <;> simp [Directive.key, same]

def revokes (books : Books R) (key : SubscriptionKey) : Bool :=
  (books.catalogue.find? key.tariff).any Listing.isRevoked

theorem revokes_of_known {books : Books R} {tariff : Tariff R}
    (known : books.catalogue.Knows tariff) (customer : CustomerId) :
    books.revokes ⟨customer, tariff.id⟩ = books.isRevoked tariff := by
  obtain ⟨published, listing, found⟩ := known
  rw [revokes, isRevoked, Catalogue.standing_of_find? published found, found]
  rfl

theorem revokes_of_offered {books : Books R} {tariff : Tariff R}
    (offered : books.catalogue.Offers tariff) (customer : CustomerId) :
    books.revokes ⟨customer, tariff.id⟩ = false := by
  rw [revokes_of_known offered.knows]
  exact offered.not_revoked

theorem sum_relocation_revoked {books : Books R} (wellFormed : books.catalogue.WellFormed)
    (defaults : books.market.OffersDefaults books.catalogue) (now : Instant)
    {subscriptions : List (Subscription R)}
    (known : ∀ subscription ∈ subscriptions, books.catalogue.Knows subscription.tariff)
    (served : ∀ subscription ∈ subscriptions,
      (books.market.defaultFor subscription.customer.powerType).isSome) :
    (((subscriptions.flatMap (books.relocation now)).filter fun directive =>
      books.revokes directive.key).map (·.count)).sum =
        -((((subscriptions.filter fun s => books.revokes s.key).map (·.committed)).sum : Nat) :
          Int) := by
  induction subscriptions with
  | nil => rfl
  | cons subscription rest ih =>
      have later := ih (fun other listed => known other (List.mem_cons_of_mem _ listed))
        fun other listed => served other (List.mem_cons_of_mem _ listed)
      have revoked : books.revokes subscription.key = books.isRevoked subscription.tariff :=
        revokes_of_known (known _ List.mem_cons_self) _
      rw [List.flatMap_cons, List.filter_append, List.map_append, List.sum_append, later,
        List.filter_cons, revoked]
      cases leaving : books.destination? now subscription with
      | none =>
          have empty := (destination?_eq_none (served _ List.mem_cons_self)).1 leaving
          rw [relocation_of_none leaving]
          cases dead : books.isRevoked subscription.tariff with
          | false => simp
          | true => simp [empty dead]
      | some destination =>
          obtain ⟨dead, -, succeeds⟩ := destination?_eq_some.1 leaving
          have off : books.revokes ⟨subscription.customer.id, subscription.tariff.id⟩ = true :=
            revoked.trans dead
          have on : books.revokes ⟨subscription.customer.id, destination.id⟩ = false :=
            revokes_of_offered (defaults.successor? wellFormed succeeds) _
          rw [relocation_of_some leaving, dead]
          simp only [List.filter_cons, List.filter_nil, Directive.key, off, on, if_true,
            Bool.false_eq_true, if_false, List.map_cons, List.map_nil, List.sum_cons, List.sum_nil,
            Nat.cast_add]
          omega

/-! ## Settling a migration -/

variable [Quantity R] {populations : List Customer}

theorem settle_idle {books : Books R} (idle : books.market.pending = []) (now : Instant) :
    books.settle now = (books, 0) := by
  have cleared : books.market.cleared = books.market := by rw [Market.cleared, ← idle]
  simp only [settle, Market.withdrawals, Market.signups, idle, List.filter_nil, settleWithdrawals,
    settleSignups, List.foldl_nil, cleared, List.length_nil]

variable {books after : Books R} {now : Instant}

omit [Quantity R] in
theorem executable_of_migrated (sound : books.Sound populations)
    (idle : books.market.pending = [])
    (queued : Queued (books.roster.toList.flatMap (books.relocation now)) books after) :
    after.Executable populations := by
  have pending : after.market.pending =
      books.roster.toList.flatMap (books.relocation now) := queued.pending idle
  have source (directive : Directive R) (listed : directive ∈ after.market.pending) :
      ∃ subscription ∈ books.roster.toList,
        directive ∈ books.relocation now subscription := by
    rw [pending] at listed
    exact List.mem_flatMap.1 listed
  refine ⟨?_, ?_, ?_, ?_⟩
  · intro directive listed
    obtain ⟨subscription, -, member⟩ := source directive listed
    obtain ⟨destination, leaving, rfl | rfl⟩ := mem_relocation member
    all_goals
      obtain ⟨-, peopled, -⟩ := destination?_eq_some.1 leaving
      simpa using peopled
  · intro directive listed
    obtain ⟨waiting, positive⟩ := mem_signups.1 listed
    obtain ⟨subscription, owner, member⟩ := source directive waiting
    obtain ⟨destination, leaving, rfl | rfl⟩ := mem_relocation member
    · simp only at positive
      omega
    · obtain ⟨-, -, succeeds⟩ := destination?_eq_some.1 leaving
      rw [queued.catalogue]
      exact ⟨sound.defaults.successor? sound.catalogue succeeds, sound.placed _ owner⟩
  · intro directive listed
    obtain ⟨waiting, negative⟩ := mem_withdrawals.1 listed
    obtain ⟨subscription, owner, member⟩ := source directive waiting
    obtain ⟨destination, leaving, rfl | rfl⟩ := mem_relocation member
    · rw [Roster.holds_congr queued.commitments]
      exact Roster.holds_of_mem owner (by simp)
    · simp only at negative
      omega
  · rw [Market.withdrawals, pending, withdrawals_relocation, List.map_map]
    exact sound.roster.nodup.sublist (List.filter_sublist.map Subscription.key)

theorem vacated_of_migrated (sound : books.Sound populations)
    (idle : books.market.pending = [])
    (served : ∀ customer ∈ populations, (books.market.defaultFor customer.powerType).isSome)
    (queued : Queued (books.roster.toList.flatMap (books.relocation now)) books after) :
    (after.settle now).1.Vacated := by
  have executable := executable_of_migrated sound idle queued
  have soundAfter := queued.sound sound
  have settled := soundAfter.settle executable now
  have unmarked : (after.settle now).1.catalogue.unmarked = books.catalogue.unmarked := by
    rw [unmarked_settle, queued.catalogue]
  have pending : after.market.pending =
      books.roster.toList.flatMap (books.relocation now) := queued.pending idle
  -- The members of revoked tariffs change by minus their number.
  have nobody : (after.settle now).1.roster.members books.revokes = 0 := by
    have moves := (executable.carriesOut soundAfter.roster now).moves books.revokes
    have leaving := sum_relocation_revoked sound.catalogue sound.defaults now sound.known
      fun subscription listed => served _ (sound.placed subscription listed)
    rw [pending, leaving, Roster.members_congr queued.commitments] at moves
    have counted : books.roster.members books.revokes =
      ((books.roster.toList.filter fun s => books.revokes s.key).map (·.committed)).sum := rfl
    omega
  intro subscription listed revoked
  have dead : books.revokes subscription.key = true := by
    have known := (Catalogue.knows_congr unmarked _).1 (settled.known subscription listed)
    have same := revokes_of_known known subscription.customer.id
    rw [Subscription.key, same, isRevoked, ← Catalogue.isRevoked_standing_congr unmarked]
    exact revoked
  have most := Roster.committed_le_members listed dead
  omega

end Books

end RetailMarket
