import RetailMarket.Books
import RetailMarket.Proofs.Catalogue
import RetailMarket.Proofs.Commitment

/-!
# Settlements

A settlement carries out a queue of directives.  Books are `Sound` when their parts fit together;
settling keeps them so.  A queue is `Executable` when every withdrawal has the members it takes and
no two withdrawals share a subscription.  Such a queue is carried out in full: nothing is dropped
or cut short, and the members change by exactly the sum of the directives.
-/

namespace RetailMarket

namespace Books

variable {R : Type} [Quantity R]

/-! ## One directive -/

omit [Quantity R] in
theorem operate_of_find? {books : Books R} {key : SubscriptionKey}
    {subscription : Subscription R} (found : books.roster.find? key = some subscription)
    (operation : Subscription R → Subscription R × List (Posting R)) :
    books.operate key operation =
      { books with
        roster := books.roster.modify key fun _ => (operation subscription).1
        journal := books.journal.postAll (operation subscription).2 } := by
  simp only [operate, found]

theorem settleWithdrawal_of_find? {books : Books R} {directive : Directive R}
    {subscription : Subscription R}
    (found : books.roster.find? directive.key = some subscription) (now : Instant) :
    settleWithdrawal books directive now =
      (books.operate directive.key fun s =>
        s.release (books.isRevoked subscription.tariff) directive.count.natAbs now, true) := by
  simp only [settleWithdrawal, found]

theorem settleWithdrawal_of_none {books : Books R} {directive : Directive R}
    (missing : books.roster.find? directive.key = none) (now : Instant) :
    settleWithdrawal books directive now = (books, false) := by
  simp only [settleWithdrawal, missing]

def subscriptionFor (books : Books R) (directive : Directive R) : Subscription R :=
  (books.roster.find? directive.key).getD
    (Subscription.opened directive.customer directive.tariff)

theorem settleSignup_eq {books : Books R} (faithful : books.roster.Faithful)
    (directive : Directive R) (now : Instant) :
    settleSignup books directive now =
      { books with
        catalogue := books.catalogue.change directive.tariff Listing.markSubscribed
        roster := (books.roster.ensure directive.customer directive.tariff).modify directive.key
          fun _ => ((books.subscriptionFor directive).subscribe directive.count.natAbs now).1
        journal := books.journal.postAll
          ((books.subscriptionFor directive).subscribe directive.count.natAbs now).2 } := by
  have found : (books.roster.ensure directive.customer directive.tariff).find? directive.key =
      some (books.subscriptionFor directive) :=
    Roster.find?_ensure faithful directive.customer directive.tariff
  simp only [settleSignup, operate, found]

theorem settleWithdrawal_frame (books : Books R) (directive : Directive R) (now : Instant) :
    (settleWithdrawal books directive now).1.catalogue = books.catalogue ∧
      (settleWithdrawal books directive now).1.market = books.market := by
  cases found : books.roster.find? directive.key with
  | none =>
      rw [settleWithdrawal_of_none found]
      exact ⟨rfl, rfl⟩
  | some subscription =>
      rw [settleWithdrawal_of_find? found, operate_of_find? found]
      exact ⟨rfl, rfl⟩

theorem faithful_settleWithdrawal {books : Books R} (faithful : books.roster.Faithful)
    (directive : Directive R) (now : Instant) :
    (settleWithdrawal books directive now).1.roster.Faithful := by
  cases found : books.roster.find? directive.key with
  | none =>
      rw [settleWithdrawal_of_none found]
      exact faithful
  | some subscription =>
      rw [settleWithdrawal_of_find? found, operate_of_find? found]
      exact faithful.modify found (Subscription.key_release _ _ _ _)

theorem faithful_settleSignup {books : Books R} (faithful : books.roster.Faithful)
    (directive : Directive R) (now : Instant) :
    (settleSignup books directive now).roster.Faithful := by
  rw [settleSignup_eq faithful]
  exact (faithful.ensure _ _).modify (Roster.find?_ensure faithful _ _) rfl

/-! ## A whole settlement -/

theorem faithful_settleWithdrawals {books : Books R} (faithful : books.roster.Faithful)
    (directives : List (Directive R)) (now : Instant) :
    (settleWithdrawals now books directives).1.roster.Faithful := by
  induction directives generalizing books with
  | nil => exact faithful
  | cons directive rest ih => exact ih (faithful_settleWithdrawal faithful directive now)

omit [Quantity R] in
theorem mem_withdrawals {market : Market R} {directive : Directive R} :
    directive ∈ market.withdrawals ↔ directive ∈ market.pending ∧ directive.count < 0 := by
  simp [Market.withdrawals]

omit [Quantity R] in
theorem mem_signups {market : Market R} {directive : Directive R} :
    directive ∈ market.signups ↔ directive ∈ market.pending ∧ 0 < directive.count := by
  simp [Market.signups]

theorem settle_induction {books : Books R} {now : Instant} {P : Books R → Prop}
    (cleared : P { books with market := books.market.cleared })
    (withdrawal : ∀ current, ∀ directive ∈ books.market.withdrawals,
      P current → P (settleWithdrawal current directive now).1)
    (signup : ∀ current, ∀ directive ∈ books.market.signups,
      P current → P (settleSignup current directive now)) : P (books.settle now).1 := by
  have withdrawals (directives : List (Directive R)) (current : Books R)
      (queued : ∀ directive ∈ directives, directive ∈ books.market.withdrawals)
      (holds : P current) : P (settleWithdrawals now current directives).1 := by
    induction directives generalizing current with
    | nil => exact holds
    | cons directive rest ih =>
        exact ih _ (fun other later => queued other (List.mem_cons_of_mem _ later))
          (withdrawal current directive (queued directive List.mem_cons_self) holds)
  have signups (directives : List (Directive R)) (current : Books R)
      (queued : ∀ directive ∈ directives, directive ∈ books.market.signups)
      (holds : P current) : P (settleSignups now current directives) := by
    induction directives generalizing current with
    | nil => exact holds
    | cons directive rest ih =>
        exact ih _ (fun other later => queued other (List.mem_cons_of_mem _ later))
          (signup current directive (queued directive List.mem_cons_self) holds)
  exact signups _ _ (fun _ queued => queued)
    (withdrawals _ _ (fun _ queued => queued) cleared)

theorem faithful_settle {books : Books R} (faithful : books.roster.Faithful) (now : Instant) :
    (books.settle now).1.roster.Faithful :=
  settle_induction (P := fun current => current.roster.Faithful) faithful
    (fun _ directive _ holds => faithful_settleWithdrawal holds directive now)
    (fun _ directive _ holds => faithful_settleSignup holds directive now)

theorem market_settle (books : Books R) (now : Instant) :
    (books.settle now).1.market = books.market.cleared := by
  apply settle_induction (P := fun current => current.market = books.market.cleared)
  · rfl
  · intro current directive _ same
    exact (settleWithdrawal_frame current directive now).2.trans same
  · intro current directive _ same
    simp only [settleSignup, operate]
    split <;> exact same

theorem unmarked_settle (books : Books R) (now : Instant) :
    (books.settle now).1.catalogue.unmarked = books.catalogue.unmarked := by
  apply settle_induction (P := fun current =>
    current.catalogue.unmarked = books.catalogue.unmarked)
  · rfl
  · intro current directive _ same
    rw [(settleWithdrawal_frame current directive now).1]
    exact same
  · intro current directive _ same
    simp only [settleSignup, operate]
    split <;> exact (Catalogue.unmarked_change_markSubscribed _ _).trans same

/-! ## Sound books -/

/-- The index of the roster is right, contract records add up, and whatever the books refer to is
known: tariffs in the catalogue, customers among the populations, defaults that are on offer. -/
structure Sound (populations : List Customer) (books : Books R) : Prop where
  catalogue : books.catalogue.WellFormed
  defaults : books.market.OffersDefaults books.catalogue
  roster : books.roster.Faithful
  recorded : ∀ subscription ∈ books.roster.toList, subscription.IsRecorded
  known : ∀ subscription ∈ books.roster.toList, books.catalogue.Knows subscription.tariff
  placed : ∀ subscription ∈ books.roster.toList, subscription.customer ∈ populations

variable {populations : List Customer}

omit [Quantity R] in
theorem Sound.journal {books : Books R} (sound : books.Sound populations) (journal : Journal R) :
    ({ books with journal } : Books R).Sound populations :=
  ⟨sound.catalogue, sound.defaults, sound.roster, sound.recorded, sound.known, sound.placed⟩

theorem Sound.settleWithdrawal {books : Books R} (sound : books.Sound populations)
    (directive : Directive R) (now : Instant) :
    (books.settleWithdrawal directive now).1.Sound populations := by
  have faithful := faithful_settleWithdrawal sound.roster directive now
  cases found : books.roster.find? directive.key with
  | none =>
      rw [settleWithdrawal_of_none found]
      exact sound
  | some subscription =>
      rw [settleWithdrawal_of_find? found, operate_of_find? found] at faithful ⊢
      have listed := ((Roster.find?_eq_some_iff sound.roster).1 found).1
      refine ⟨sound.catalogue, sound.defaults, faithful, ?_, ?_, ?_⟩
      all_goals
        intro other member
        rcases (Roster.mem_modify sound.roster found).1 member with rfl | ⟨kept, -⟩
      · exact (sound.recorded _ listed).release _ _ _
      · exact sound.recorded _ kept
      · rw [Subscription.tariff_release]
        exact sound.known _ listed
      · exact sound.known _ kept
      · rw [Subscription.customer_release]
        exact sound.placed _ listed
      · exact sound.placed _ kept

theorem Sound.settleSignup {books : Books R} (sound : books.Sound populations)
    {directive : Directive R} (offered : books.catalogue.Offers directive.tariff)
    (placed : directive.customer ∈ populations) (now : Instant) :
    (books.settleSignup directive now).Sound populations := by
  have faithful := sound.roster.ensure directive.customer directive.tariff
  have found : (books.roster.ensure directive.customer directive.tariff).find? directive.key =
      some (books.subscriptionFor directive) :=
    Roster.find?_ensure sound.roster directive.customer directive.tariff
  have same := books.catalogue.unmarked_change_markSubscribed directive.tariff
  -- A subscription of the enlarged roster is an old one or has just been opened.
  have known (subscription : Subscription R)
      (listed : subscription ∈ (books.roster.ensure directive.customer directive.tariff).toList) :
      subscription.IsRecorded ∧ books.catalogue.Knows subscription.tariff ∧
        subscription.customer ∈ populations := by
    rw [Roster.toList_ensure] at listed
    split at listed
    · exact ⟨sound.recorded _ listed, sound.known _ listed, sound.placed _ listed⟩
    · rcases List.mem_append.1 listed with old | new
      · exact ⟨sound.recorded _ old, sound.known _ old, sound.placed _ old⟩
      · rw [List.mem_singleton.1 new]
        exact ⟨Subscription.isRecorded_opened _ _, offered.knows, placed⟩
  have target := known _ ((Roster.find?_eq_some_iff faithful).1 found).1
  rw [settleSignup_eq sound.roster]
  refine ⟨(Catalogue.wellFormed_congr same).2 sound.catalogue, ?_,
    faithful.modify found rfl, ?_, ?_, ?_⟩
  · intro powerType tariff default
    exact (Catalogue.offers_congr same tariff).2 (sound.defaults powerType tariff default)
  all_goals
    intro other member
    rcases (Roster.mem_modify faithful found).1 member with rfl | ⟨kept, -⟩
  · exact target.1.subscribe _ _
  · exact (known _ kept).1
  · exact (Catalogue.knows_congr same _).2 target.2.1
  · exact (Catalogue.knows_congr same _).2 (known _ kept).2.1
  · exact target.2.2
  · exact (known _ kept).2.2

/-! ## Queues that are carried out in full -/

/-- Every withdrawal finds its subscription, with at least the members that it takes. -/
def Covers (now : Instant) : Books R → List (Directive R) → Prop
  | _, [] => True
  | books, directive :: rest =>
      (∃ subscription, books.roster.find? directive.key = some subscription ∧
        directive.count.natAbs ≤ subscription.committed) ∧
      Covers now (settleWithdrawal books directive now).1 rest

/-- No withdrawal is dropped or cut short, every directive is counted, and the members of whatever
keys change by the sum of their directives. -/
structure CarriesOut (books : Books R) (now : Instant) : Prop where
  covers : Covers now { books with market := books.market.cleared } books.market.withdrawals
  counts : (books.settle now).2 = books.market.pending.length
  moves : ∀ keys : SubscriptionKey → Bool,
    ((books.settle now).1.roster.members keys : Int) = books.roster.members keys +
      ((books.market.pending.filter fun directive => keys directive.key).map (·.count)).sum

/-- Every directive moves members, a signup onto a tariff on offer; every withdrawal has the members
it takes, and no two share a subscription. -/
structure Executable (populations : List Customer) (books : Books R) : Prop where
  moving : ∀ directive ∈ books.market.pending, directive.count ≠ 0
  offered : ∀ directive ∈ books.market.signups,
    books.catalogue.Offers directive.tariff ∧ directive.customer ∈ populations
  covered : ∀ directive ∈ books.market.withdrawals,
    books.roster.Holds directive.key directive.count.natAbs
  separate : (books.market.withdrawals.map Directive.key).Nodup

theorem Sound.settle {books : Books R} (sound : books.Sound populations)
    (executable : books.Executable populations) (now : Instant) :
    (books.settle now).1.Sound populations := by
  have general : (books.settle now).1.Sound populations ∧
      (books.settle now).1.catalogue.unmarked = books.catalogue.unmarked := by
    apply settle_induction (P := fun current => current.Sound populations ∧
      current.catalogue.unmarked = books.catalogue.unmarked)
    · exact ⟨⟨sound.catalogue, sound.defaults, sound.roster, sound.recorded, sound.known,
        sound.placed⟩, rfl⟩
    · rintro current directive - ⟨holds, same⟩
      refine ⟨holds.settleWithdrawal directive now, ?_⟩
      rw [(settleWithdrawal_frame current directive now).1]
      exact same
    · rintro current directive queued ⟨holds, same⟩
      obtain ⟨offered, placed⟩ := executable.offered directive queued
      have offeredNow := (Catalogue.offers_congr same directive.tariff).2 offered
      refine ⟨holds.settleSignup offeredNow placed now, ?_⟩
      rw [settleSignup_eq holds.roster]
      exact (Catalogue.unmarked_change_markSubscribed _ _).trans same
  exact general.1

theorem covers_of_separate {books : Books R} (faithful : books.roster.Faithful) {now : Instant}
    {directives : List (Directive R)} (separate : (directives.map Directive.key).Nodup)
    (covered : ∀ directive ∈ directives,
      ∃ subscription, books.roster.find? directive.key = some subscription ∧
        directive.count.natAbs ≤ subscription.committed) :
    Covers now books directives := by
  induction directives generalizing books with
  | nil => trivial
  | cons directive rest ih =>
      obtain ⟨fresh, separateRest⟩ := List.nodup_cons.1 separate
      obtain ⟨subscription, found, enough⟩ := covered directive List.mem_cons_self
      refine ⟨⟨subscription, found, enough⟩,
        ih (faithful_settleWithdrawal faithful directive now) separateRest ?_⟩
      intro other later
      obtain ⟨subscription', found', enough'⟩ := covered other (List.mem_cons_of_mem _ later)
      have different : other.key ≠ directive.key := by
        intro same
        exact fresh (same ▸ List.mem_map_of_mem later)
      refine ⟨subscription', ?_, enough'⟩
      rw [settleWithdrawal_of_find? found, operate_of_find? found]
      exact (Roster.find?_modify_of_ne faithful found (Subscription.key_release _ _ _ _)
        different).trans found'

theorem length_of_covers {books : Books R} {now : Instant} {directives : List (Directive R)}
    (covers : Covers now books directives) :
    (settleWithdrawals now books directives).2 = directives.length := by
  induction directives generalizing books with
  | nil => rfl
  | cons directive rest ih =>
      obtain ⟨⟨subscription, found, -⟩, coversRest⟩ := covers
      have applied : (settleWithdrawal books directive now).2 = true := by
        rw [settleWithdrawal_of_find? found]
      simp only [settleWithdrawals, ih coversRest, applied, if_true, List.length_cons]

theorem members_settleWithdrawal {books : Books R} (faithful : books.roster.Faithful)
    {directive : Directive R} {subscription : Subscription R}
    (found : books.roster.find? directive.key = some subscription)
    (enough : directive.count.natAbs ≤ subscription.committed) (negative : directive.count < 0)
    (now : Instant) (keys : SubscriptionKey → Bool) :
    ((settleWithdrawal books directive now).1.roster.members keys : Int) =
      books.roster.members keys + if keys directive.key then directive.count else 0 := by
  have changed := Roster.members_modify faithful found
    (fun _ => (subscription.release (books.isRevoked subscription.tariff)
      directive.count.natAbs now).1) (Subscription.key_release _ _ _ _) keys
  rw [Subscription.committed_release, Nat.min_eq_left enough] at changed
  rw [settleWithdrawal_of_find? found, operate_of_find? found]
  cases counted : keys directive.key with
  | false =>
      simp only [counted, Bool.false_eq_true, if_false] at changed ⊢
      omega
  | true =>
      simp only [counted, if_true] at changed ⊢
      omega

theorem members_settleWithdrawals {books : Books R} (faithful : books.roster.Faithful)
    {now : Instant} {directives : List (Directive R)} (covers : Covers now books directives)
    (negative : ∀ directive ∈ directives, directive.count < 0) (keys : SubscriptionKey → Bool) :
    ((settleWithdrawals now books directives).1.roster.members keys : Int) =
      books.roster.members keys +
        ((directives.filter fun directive => keys directive.key).map (·.count)).sum := by
  induction directives generalizing books with
  | nil => simp [settleWithdrawals]
  | cons directive rest ih =>
      obtain ⟨⟨subscription, found, enough⟩, coversRest⟩ := covers
      have first := members_settleWithdrawal faithful found enough
        (negative directive List.mem_cons_self) now keys
      have later := ih (faithful_settleWithdrawal faithful directive now) coversRest
        (fun other listed => negative other (List.mem_cons_of_mem _ listed))
      simp only [settleWithdrawals, later, first, List.filter_cons]
      cases keys directive.key with
      | false => simp
      | true =>
          simp only [if_true, List.map_cons, List.sum_cons]
          omega

theorem members_settleSignup {books : Books R} (faithful : books.roster.Faithful)
    {directive : Directive R} (positive : 0 < directive.count) (now : Instant)
    (keys : SubscriptionKey → Bool) :
    ((settleSignup books directive now).roster.members keys : Int) =
      books.roster.members keys + if keys directive.key then directive.count else 0 := by
  have found : (books.roster.ensure directive.customer directive.tariff).find? directive.key =
      some (books.subscriptionFor directive) :=
    Roster.find?_ensure faithful directive.customer directive.tariff
  have changed := Roster.members_modify (faithful.ensure _ _) found
    (fun _ => ((books.subscriptionFor directive).subscribe directive.count.natAbs now).1) rfl keys
  rw [Roster.members_ensure] at changed
  have joined : ((books.subscriptionFor directive).subscribe directive.count.natAbs now).1.committed
      = (books.subscriptionFor directive).committed + directive.count.natAbs := rfl
  rw [joined] at changed
  rw [settleSignup_eq faithful]
  cases counted : keys directive.key with
  | false =>
      simp only [counted, Bool.false_eq_true, if_false] at changed ⊢
      omega
  | true =>
      simp only [counted, if_true] at changed ⊢
      omega

theorem members_settleSignups {books : Books R} (faithful : books.roster.Faithful)
    {directives : List (Directive R)} (positive : ∀ directive ∈ directives, 0 < directive.count)
    (now : Instant) (keys : SubscriptionKey → Bool) :
    ((settleSignups now books directives).roster.members keys : Int) =
      books.roster.members keys +
        ((directives.filter fun directive => keys directive.key).map (·.count)).sum := by
  induction directives generalizing books with
  | nil => simp [settleSignups]
  | cons directive rest ih =>
      have first := members_settleSignup faithful (positive directive List.mem_cons_self) now keys
      have later := ih (faithful_settleSignup faithful directive now)
        (fun other listed => positive other (List.mem_cons_of_mem _ listed))
      rw [settleSignups, List.foldl_cons, ← settleSignups, later, first, List.filter_cons]
      cases keys directive.key with
      | false => simp
      | true =>
          simp only [if_true, List.map_cons, List.sum_cons]
          omega

omit [Quantity R] in
theorem withdrawals_signups {market : Market R}
    (moving : ∀ directive ∈ market.pending, directive.count ≠ 0) :
    (market.withdrawals ++ market.signups).Perm market.pending := by
  have signups : market.signups =
      market.pending.filter fun directive => !decide (directive.count < 0) := by
    apply List.filter_congr
    intro directive queued
    have moves := moving directive queued
    rw [← decide_not, decide_eq_decide]
    omega
  rw [signups]
  exact List.filter_append_perm _ _

theorem Executable.carriesOut {books : Books R} (executable : books.Executable populations)
    (faithful : books.roster.Faithful) (now : Instant) : books.CarriesOut now := by
  let start : Books R := { books with market := books.market.cleared }
  have faithfulStart : start.roster.Faithful := faithful
  have covers : Covers now start books.market.withdrawals :=
    covers_of_separate faithfulStart executable.separate
      fun directive queued => (executable.covered directive queued).exists_find? faithful
  have parts := withdrawals_signups executable.moving
  refine ⟨covers, ?_, ?_⟩
  · have length := parts.length_eq
    rw [List.length_append] at length
    have counted : (books.settle now).2 =
        (settleWithdrawals now start books.market.withdrawals).2 + books.market.signups.length :=
      rfl
    rw [counted, length_of_covers covers, length]
  · intro keys
    have released := members_settleWithdrawals faithfulStart covers
      (fun directive queued => (mem_withdrawals.1 queued).2) keys
    have faithfulReleased := faithful_settleWithdrawals faithfulStart books.market.withdrawals now
    have positive : ∀ directive ∈ books.market.signups, 0 < directive.count :=
      fun directive queued => (mem_signups.1 queued).2
    have joined := members_settleSignups faithfulReleased positive now keys
    have sums := ((parts.filter fun directive => keys directive.key).map Directive.count).sum_eq
    rw [List.filter_append, List.map_append, List.sum_append] at sums
    have settled : (books.settle now).1 = settleSignups now
        (settleWithdrawals now start books.market.withdrawals).1 books.market.signups := rfl
    have same : start.roster = books.roster := rfl
    rw [settled, joined, released, ← sums, same]
    exact add_assoc _ _ _

end Books

end RetailMarket
