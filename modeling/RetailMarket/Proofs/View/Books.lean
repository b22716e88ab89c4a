import RetailMarket.Proofs.Migration
import RetailMarket.Proofs.Orders
import RetailMarket.Proofs.View.Folds

/-!
# What a customer sees of the books

The view of a customer holds what the market's rules read of the books on its behalf: the catalogue
up to first subscriptions, the defaults, and of queue, roster and journal its own part.  Whatever is
done for another customer leaves the view as it is, and what is done for the customer itself depends
on nothing but the view.
-/

namespace RetailMarket

structure View (R : Type) where
  catalogue : Catalogue R
  defaults : PowerType → Option (Tariff R)
  pending : List (Directive R)
  subscriptions : List (Subscription R)
  timeslot : Nat
  transactions : List (Transaction R)

theorem Journal.filter_stamp {R : Type} {id customer : CustomerId} (journal : Journal R)
    {postings : List (Posting R)} (own : ∀ posting ∈ postings, posting.customer = customer) :
    ((postings.map journal.stamp).filter fun t => t.customer == id) =
      if customer = id then postings.map journal.stamp else [] := by
  have stamped (t : Transaction R) (listed : t ∈ postings.map journal.stamp) :
      t.customer = customer := by
    obtain ⟨posting, member, rfl⟩ := List.mem_map.1 listed
    exact own posting member
  split
  · rename_i mine
    exact List.filter_eq_self.2 fun t listed => by simp [stamped t listed, mine]
  · rename_i other
    exact List.filter_eq_nil_iff.2 fun t listed => by simp [stamped t listed, other]

namespace Books

variable {R : Type}

def view (id : CustomerId) (books : Books R) : View R :=
  { catalogue := books.catalogue.unmarked
    defaults := books.market.defaults
    pending := books.market.pending.filter fun directive => directive.customer.id == id
    subscriptions := books.roster.toList.filter fun s => s.customer.id == id
    timeslot := books.journal.timeslot
    transactions := books.journal.transactions.toList.filter fun t => t.customer == id }

end Books

/-! ## Look-ups in a view -/

namespace Roster

variable {R : Type}

theorem find?_eq_find?_filter {roster : Roster R} (faithful : roster.Faithful)
    (key : SubscriptionKey) :
    roster.find? key =
      (roster.toList.filter fun s => s.customer.id == key.customer).find?
        fun s => s.key == key := by
  rw [find?_eq_find? faithful, List.find?_filter]
  congr 1
  funext subscription
  by_cases same : subscription.key = key
  · simp [← same, Subscription.key]
  · simp [same]

end Roster

namespace Books

variable {R : Type} {id : CustomerId} {books first second : Books R}

theorem find?_congr (faithful : first.roster.Faithful) (faithful' : second.roster.Faithful)
    (same : first.view id = second.view id) {key : SubscriptionKey} (own : key.customer = id) :
    first.roster.find? key = second.roster.find? key := by
  have subscriptions := congrArg View.subscriptions same
  simp only [view] at subscriptions
  rw [Roster.find?_eq_find?_filter faithful, Roster.find?_eq_find?_filter faithful', own,
    subscriptions]

theorem unmarked_congr (same : first.view id = second.view id) :
    first.catalogue.unmarked = second.catalogue.unmarked := congrArg View.catalogue same

theorem isRevoked_congr (same : first.view id = second.view id) (tariff : Tariff R) :
    first.isRevoked tariff = second.isRevoked tariff :=
  Catalogue.isRevoked_standing_congr (unmarked_congr same) tariff

theorem defaultFor_congr (same : first.view id = second.view id) (powerType : PowerType) :
    first.market.defaultFor powerType = second.market.defaultFor powerType := by
  have defaults : first.market.defaults = second.market.defaults := congrArg View.defaults same
  rw [Market.defaultFor, defaults, ← Market.defaultFor]

theorem successor?_congr (same : first.view id = second.view id) (tariff : Tariff R)
    (powerType : PowerType) (now : Instant) :
    first.market.successor? first.catalogue tariff powerType now =
      second.market.successor? second.catalogue tariff powerType now := by
  rw [Market.successor?, Market.successor?, defaultFor_congr same,
    Market.superseding?_congr (unmarked_congr same)]

/-! ## Single changes -/

theorem view_direct (books : Books R) (tariff : Tariff R) (customer : Customer) (count : Int) :
    (books.direct tariff customer count).view id =
      { books.view id with
        pending := (books.view id).pending ++
          if count ≠ 0 ∧ customer.id = id then [⟨customer, tariff, count⟩] else [] } := by
  by_cases moving : count = 0
  · simp [view, direct, Market.direct, moving]
  · by_cases own : customer.id = id <;> simp [view, direct, Market.direct, moving, own]

/-- An operation that stays with its subscription: it keeps the key and posts for the customer. -/
structure KeepsTo (operation : Subscription R → Subscription R × List (Posting R)) : Prop where
  key : ∀ subscription, (operation subscription).1.key = subscription.key
  posts : ∀ subscription, ∀ posting ∈ (operation subscription).2,
    posting.customer = subscription.customer.id

theorem filter_modify {roster : Roster R} (faithful : roster.Faithful) (key : SubscriptionKey)
    {change : Subscription R → Subscription R} (kept : ∀ s, s.key = key → (change s).key = key)
    (id : CustomerId) :
    ((roster.modify key change).toList.filter fun s => s.customer.id == id) =
      (roster.toList.filter fun s => s.customer.id == id).map
        fun s => if s.key = key then change s else s := by
  rw [Roster.toList_modify faithful, List.filter_map]
  congr 1
  refine List.filter_congr fun subscription _ => ?_
  simp only [Function.comp_apply]
  split
  · rename_i same
    have owner := congrArg SubscriptionKey.customer ((kept subscription same).trans same.symm)
    change (change subscription).customer.id = subscription.customer.id at owner
    rw [owner]
  · rfl

theorem filter_modify_of_ne {roster : Roster R} (faithful : roster.Faithful)
    {key : SubscriptionKey} {change : Subscription R → Subscription R}
    (kept : ∀ s, s.key = key → (change s).key = key) (other : key.customer ≠ id) :
    ((roster.modify key change).toList.filter fun s => s.customer.id == id) =
      roster.toList.filter fun s => s.customer.id == id := by
  rw [filter_modify faithful key kept]
  conv_rhs => rw [← List.map_id (roster.toList.filter fun s => s.customer.id == id)]
  refine List.map_congr_left fun subscription listed => if_neg fun same => other ?_
  rw [← same]
  exact eq_of_beq (List.mem_filter.1 listed).2

theorem view_operate {operation : Subscription R → Subscription R × List (Posting R)}
    (keeps : KeepsTo operation) (faithful : books.roster.Faithful) {key : SubscriptionKey}
    {subscription : Subscription R} (found : books.roster.find? key = some subscription) :
    (books.operate key operation).view id =
      { books.view id with
        subscriptions := (books.view id).subscriptions.map
          fun s => if s.key = key then (operation subscription).1 else s
        transactions := (books.view id).transactions ++
          if key.customer = id then
            (operation subscription).2.map fun posting =>
              { toPosting := posting, timeslot := (books.view id).timeslot }
          else [] } := by
  have same : subscription.key = key := ((Roster.find?_eq_some_iff faithful).1 found).2
  have owned (posting : Posting R) (listed : posting ∈ (operation subscription).2) :
      posting.customer = key.customer :=
    (keeps.posts subscription posting listed).trans (congrArg SubscriptionKey.customer same)
  rw [operate_of_find? found]
  simp only [view, Journal.timeslot_postAll, Journal.toList_postAll, List.filter_append,
    books.journal.filter_stamp owned]
  rw [filter_modify faithful key fun s sameKey => (keeps.key subscription).trans same]
  rfl

theorem view_operate_of_ne {operation : Subscription R → Subscription R × List (Posting R)}
    (keeps : KeepsTo operation) (faithful : books.roster.Faithful) {key : SubscriptionKey}
    (other : key.customer ≠ id) : (books.operate key operation).view id = books.view id := by
  cases found : books.roster.find? key with
  | none => simp only [operate, found]
  | some subscription =>
      have same : subscription.key = key := ((Roster.find?_eq_some_iff faithful).1 found).2
      have kept : ∀ s : Subscription R, s.key = key → (operation subscription).1.key = key :=
        fun _ _ => (keeps.key subscription).trans same
      have unchanged := filter_modify_of_ne faithful kept other
      rw [filter_modify faithful key kept] at unchanged
      rw [view_operate keeps faithful found, if_neg other, List.append_nil]
      simp only [view, unchanged]

theorem view_operate_congr {operation : Subscription R → Subscription R × List (Posting R)}
    (keeps : KeepsTo operation) (faithful : first.roster.Faithful)
    (faithful' : second.roster.Faithful) (same : first.view id = second.view id)
    {key : SubscriptionKey} (own : key.customer = id) :
    (first.operate key operation).view id = (second.operate key operation).view id := by
  have equal := find?_congr faithful faithful' same own
  cases found : second.roster.find? key with
  | none =>
      rw [found] at equal
      simp only [operate, found, equal]
      exact same
  | some subscription =>
      rw [found] at equal
      rw [view_operate keeps faithful equal, view_operate keeps faithful' found, same]

/-! ## Settlements -/

variable [Quantity R]

theorem keepsTo_release (revoked : Bool) (count : Nat) (now : Instant) :
    KeepsTo fun s : Subscription R => s.release revoked count now := by
  refine ⟨fun s => Subscription.key_release s revoked count now, ?_⟩
  intro subscription posting listed
  simp only [Subscription.release] at listed
  rcases List.mem_cons.1 listed with rfl | refund
  · rfl
  · split at refund
    · rw [List.mem_singleton.1 refund]
      rfl
    · cases refund

theorem keepsTo_subscribe (count : Nat) (now : Instant) :
    KeepsTo fun s : Subscription R => s.subscribe count now := by
  refine ⟨fun _ => rfl, ?_⟩
  intro subscription posting listed
  rw [List.mem_singleton.1 listed]
  rfl

theorem view_settleWithdrawal_of_ne (faithful : books.roster.Faithful) {directive : Directive R}
    (other : directive.customer.id ≠ id) (now : Instant) :
    (settleWithdrawal books directive now).1.view id = books.view id := by
  cases found : books.roster.find? directive.key with
  | none => rw [settleWithdrawal_of_none found]
  | some subscription =>
      rw [settleWithdrawal_of_find? found]
      exact view_operate_of_ne (keepsTo_release _ _ now) faithful other

theorem view_settleWithdrawal_congr (faithful : first.roster.Faithful)
    (faithful' : second.roster.Faithful) (same : first.view id = second.view id)
    {directive : Directive R} (own : directive.customer.id = id) (now : Instant) :
    (settleWithdrawal first directive now).1.view id =
      (settleWithdrawal second directive now).1.view id := by
  have equal : first.roster.find? directive.key = second.roster.find? directive.key :=
    find?_congr faithful faithful' same own
  cases found : second.roster.find? directive.key with
  | none =>
      rw [found] at equal
      rw [settleWithdrawal_of_none found, settleWithdrawal_of_none equal, same]
  | some subscription =>
      rw [found] at equal
      rw [settleWithdrawal_of_find? found, settleWithdrawal_of_find? equal,
        isRevoked_congr same]
      exact view_operate_congr (keepsTo_release _ _ now) faithful faithful' same own

theorem view_ensure (faithful : books.roster.Faithful) (customer : Customer) (tariff : Tariff R) :
    ({ books with roster := books.roster.ensure customer tariff } : Books R).view id =
      if customer.id = id ∧ books.roster.find? ⟨customer.id, tariff.id⟩ = none then
        { books.view id with
          subscriptions := (books.view id).subscriptions ++ [Subscription.opened customer tariff] }
      else books.view id := by
  have owner : (Subscription.opened customer tariff : Subscription R).customer = customer := rfl
  by_cases missing : books.roster.find? ⟨customer.id, tariff.id⟩ = none
  · have fresh : ¬ books.roster.index.contains ⟨customer.id, tariff.id⟩ = true := by
      rw [Roster.contains_iff faithful, missing]
      rintro ⟨_, impossible⟩
      cases impossible
    simp only [view, Roster.toList_ensure, if_neg fresh, List.filter_append, missing, and_true]
    by_cases own : customer.id = id
    · simp [own, owner]
    · simp [own, owner]
  · have known : books.roster.index.contains ⟨customer.id, tariff.id⟩ = true :=
      (Roster.contains_iff faithful).2 (Option.ne_none_iff_exists'.1 missing)
    simp only [view, Roster.toList_ensure, if_pos known, missing, and_false, if_false]

theorem view_settleSignup (books : Books R) (directive : Directive R) (now : Instant) :
    (settleSignup books directive now).view id =
      (({ books with roster := books.roster.ensure directive.customer directive.tariff } :
        Books R).operate directive.key fun s => s.subscribe directive.count.natAbs now).view id := by
  simp only [settleSignup, view, Catalogue.unmarked_change_markSubscribed]

theorem view_settleSignup_of_ne (faithful : books.roster.Faithful) {directive : Directive R}
    (other : directive.customer.id ≠ id) (now : Instant) :
    (settleSignup books directive now).view id = books.view id := by
  rw [view_settleSignup, view_operate_of_ne (keepsTo_subscribe _ now) (faithful.ensure _ _) other,
    view_ensure faithful, if_neg fun both => other both.1]

theorem view_settleSignup_congr (faithful : first.roster.Faithful)
    (faithful' : second.roster.Faithful) (same : first.view id = second.view id)
    {directive : Directive R} (own : directive.customer.id = id) (now : Instant) :
    (settleSignup first directive now).view id = (settleSignup second directive now).view id := by
  have equal : first.roster.find? directive.key = second.roster.find? directive.key :=
    find?_congr faithful faithful' same own
  rw [view_settleSignup, view_settleSignup]
  refine view_operate_congr (keepsTo_subscribe _ now) (faithful.ensure _ _) (faithful'.ensure _ _)
    ?_ own
  rw [view_ensure faithful, view_ensure faithful', same]
  rw [Directive.key] at equal
  rw [equal]

theorem settleWithdrawals_eq_foldl (now : Instant) (books : Books R)
    (directives : List (Directive R)) :
    (settleWithdrawals now books directives).1 =
      directives.foldl (fun books directive => (settleWithdrawal books directive now).1) books := by
  induction directives generalizing books with
  | nil => rfl
  | cons directive rest ih => exact ih _

theorem view_settleWithdrawals_congr (faithful : first.roster.Faithful)
    (faithful' : second.roster.Faithful) (same : first.view id = second.view id)
    {directives directives' : List (Directive R)}
    (agree : (directives.filter fun d => d.customer.id == id) =
      directives'.filter fun d => d.customer.id == id) (now : Instant) :
    (settleWithdrawals now first directives).1.view id =
      (settleWithdrawals now second directives').1.view id := by
  rw [settleWithdrawals_eq_foldl, settleWithdrawals_eq_foldl]
  exact foldl_view (view id) (fun books => books.roster.Faithful)
    (fun books directive => (settleWithdrawal books directive now).1)
    (fun directive => directive.customer.id == id)
    (fun _ directive holds => faithful_settleWithdrawal holds directive now)
    (fun _ _ holds other => view_settleWithdrawal_of_ne holds (by simpa using other) now)
    (fun _ _ _ holds holds' equal own =>
      view_settleWithdrawal_congr holds holds' equal (by simpa using own) now)
    faithful faithful' same agree

theorem view_settleSignups_congr (faithful : first.roster.Faithful)
    (faithful' : second.roster.Faithful) (same : first.view id = second.view id)
    {directives directives' : List (Directive R)}
    (agree : (directives.filter fun d => d.customer.id == id) =
      directives'.filter fun d => d.customer.id == id) (now : Instant) :
    (settleSignups now first directives).view id =
      (settleSignups now second directives').view id :=
  foldl_view (view id) (fun books => books.roster.Faithful)
    (fun books directive => settleSignup books directive now)
    (fun directive => directive.customer.id == id)
    (fun _ directive holds => faithful_settleSignup holds directive now)
    (fun _ _ holds other => view_settleSignup_of_ne holds (by simpa using other) now)
    (fun _ _ _ holds holds' equal own =>
      view_settleSignup_congr holds holds' equal (by simpa using own) now)
    faithful faithful' same agree

theorem view_settle_congr (faithful : first.roster.Faithful) (faithful' : second.roster.Faithful)
    (same : first.view id = second.view id) (now : Instant) :
    (first.settle now).1.view id = (second.settle now).1.view id := by
  have queued (part : Directive R → Bool) :
      (first.market.pending.filter part).filter (fun d => d.customer.id == id) =
        (second.market.pending.filter part).filter fun d => d.customer.id == id := by
    have pending := congrArg View.pending same
    simp only [view] at pending
    rw [List.filter_filter, List.filter_filter]
    simp only [Bool.and_comm]
    rw [← List.filter_filter, ← List.filter_filter, pending]
  let start (books : Books R) : Books R := { books with market := books.market.cleared }
  have cleared : (start first).view id = (start second).view id :=
    congrArg (fun view : View R => { view with pending := [] }) same
  have faithfulStart : (start first).roster.Faithful := faithful
  have faithfulStart' : (start second).roster.Faithful := faithful'
  have released := view_settleWithdrawals_congr faithfulStart faithfulStart' cleared
    (queued fun d => decide (d.count < 0)) now
  exact view_settleSignups_congr (faithful_settleWithdrawals faithfulStart _ now)
    (faithful_settleWithdrawals faithfulStart' _ now) released
    (queued fun d => decide (0 < d.count)) now

end Books

end RetailMarket
