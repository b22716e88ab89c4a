import RetailMarket.Proofs.Clearing
import RetailMarket.Proofs.Reconciliation

/-!
# Requests to leave

A subscription counts the members that have asked to leave it and are still there. Only a request
to leave raises the count, together with the withdrawals that the queue holds for the subscription;
only a settlement that finds such a withdrawal sets it back. So the count is what has been asked for
since the last settlement, and every settlement leaves it at nothing.
-/

namespace RetailMarket

/-- What can happen to the books, with the capacity of a subscription set as well. -/
inductive Request (R : Type) where
  | act (action : Action R)
  | setCapacity (key : SubscriptionKey) (perMember : RegulationCapacity R)

namespace Request

variable {R : Type}

def isSettlement : Request R → Bool
  | .act .settle => true
  | _ => false

/-- The members of a key that a request asks off it. Directives alone do not ask. -/
def asks (key : SubscriptionKey) : Request R → Nat
  | .act (.unsubscribe other count) => if other = key then count else 0
  | _ => 0

def sinceSettlement (history : List (Instant × Request R)) : List (Instant × Request R) :=
  (history.reverse.takeWhile fun request => !request.2.isSettlement).reverse

def asked (history : List (Instant × Request R)) (key : SubscriptionKey) : Nat :=
  ((sinceSettlement history).map fun request => request.2.asks key).sum

theorem asked_append (history : List (Instant × Request R)) (request : Instant × Request R)
    (key : SubscriptionKey) :
    asked (history ++ [request]) key =
      if request.2.isSettlement then 0 else asked history key + request.2.asks key := by
  cases settles : request.2.isSettlement <;> simp [asked, sinceSettlement, settles]

end Request

/-! ## Longer queues -/

namespace Market

variable {R : Type}

theorem leaving_append (market : Market R) (orders : List (Directive R)) (key : SubscriptionKey) :
    ({ market with pending := market.pending ++ orders } : Market R).leaving key =
      market.leaving key +
        Directive.volume key (orders.filter fun directive => decide (directive.count < 0)) := by
  simp [leaving, withdrawals, Directive.volume, List.filter_append]

theorem leaving_le_direct (market : Market R) (tariff : Tariff R) (customer : Customer)
    (count : Int) (key : SubscriptionKey) :
    market.leaving key ≤ (market.direct tariff customer count).leaving key := by
  unfold direct
  split
  · exact le_rfl
  · rw [leaving_append]
    exact Nat.le_add_right _ _

theorem leaving_direct_withdrawal (market : Market R) (tariff : Tariff R) (customer : Customer)
    (count : Nat) :
    (market.direct tariff customer (-count)).leaving ⟨customer.id, tariff.id⟩ =
      market.leaving ⟨customer.id, tariff.id⟩ + count := by
  unfold direct
  split
  case isTrue nobody =>
    have none : count = 0 := by omega
    rw [none, Nat.add_zero]
  case isFalse someone =>
    have negative : (-count : Int) < 0 := by omega
    rw [leaving_append, List.filter_cons_of_pos (by simpa using negative), List.filter_nil,
      Directive.volume_cons]
    simp [Directive.volume, Directive.key]

end Market

/-! ## Requests that await their settlement -/

namespace Subscription

variable {R : Type} [Quantity R]

@[simp]
theorem pendingUnsubscribe_release (subscription : Subscription R) (revoked : Bool) (count : Nat)
    (now : Instant) : (subscription.release revoked count now).1.pendingUnsubscribe = 0 := by
  simp only [release]
  split <;> rfl

theorem pendingUnsubscribe_perform (handling : Handling R) (now : Instant)
    (subscription : Subscription R) :
    (handling.perform now subscription).1.pendingUnsubscribe =
      subscription.pendingUnsubscribe := by
  cases handling <;> rfl

end Subscription

namespace Books

variable {R : Type}

/-- Every subscription counts as leaving who has asked to leave it, and the queue holds withdrawals
for at least as many. -/
structure Awaits (asked : SubscriptionKey → Nat) (books : Books R) : Prop where
  faithful : books.roster.Faithful
  counted : ∀ subscription ∈ books.roster.toList,
    subscription.pendingUnsubscribe = asked subscription.key
  queued : ∀ subscription ∈ books.roster.toList,
    asked subscription.key ≤ books.market.leaving subscription.key

theorem awaits_empty (asked : SubscriptionKey → Nat) : ({} : Books R).Awaits asked :=
  ⟨Roster.faithful_empty, fun _ listed => absurd listed List.not_mem_nil,
    fun _ listed => absurd listed List.not_mem_nil⟩

variable {asked : SubscriptionKey → Nat}

theorem Awaits.direct {books : Books R} (awaits : books.Awaits asked) (tariff : Tariff R)
    (customer : Customer) (count : Int) : (books.direct tariff customer count).Awaits asked :=
  ⟨awaits.faithful, awaits.counted, fun subscription listed =>
    (awaits.queued subscription listed).trans
      (Market.leaving_le_direct _ _ _ _ _)⟩

theorem Awaits.migrate {books : Books R} (awaits : books.Awaits asked)
    (subscription : Subscription R) (now : Instant) :
    (books.migrate subscription now).2.Awaits asked := by
  cases leaving : books.destination? now subscription with
  | none =>
      rw [(migrate_of_none leaving).1]
      exact awaits
  | some destination =>
      rw [migrate_of_some leaving]
      exact (awaits.direct _ _ _).direct _ _ _

theorem Awaits.unsubscribe {books : Books R} (awaits : books.Awaits asked)
    (key : SubscriptionKey) {count : Nat} (small : count < 2 ^ 63) :
    (books.unsubscribe key count).Awaits
      fun other => asked other + if key = other then count else 0 := by
  cases found : books.roster.find? key with
  | none =>
      have others := (Roster.find?_eq_none_iff awaits.faithful).1 found
      simp only [Books.unsubscribe, found]
      refine ⟨awaits.faithful, fun subscription listed => ?_, fun subscription listed => ?_⟩
      · rw [if_neg (others subscription listed).symm]
        exact awaits.counted subscription listed
      · rw [if_neg (others subscription listed).symm]
        exact awaits.queued subscription listed
  | some target =>
      obtain ⟨present, own⟩ := (Roster.find?_eq_some_iff awaits.faithful).1 found
      have ordered := Market.leaving_direct_withdrawal books.market target.tariff target.customer
        count
      have grown := Market.leaving_le_direct books.market target.tariff target.customer (-count)
      rw [show (⟨target.customer.id, target.tariff.id⟩ : SubscriptionKey) = key from own] at ordered
      simp only [Books.unsubscribe, found, signed_of_lt small]
      refine ⟨awaits.faithful.modify found rfl, fun subscription listed => ?_,
        fun subscription listed => ?_⟩
      all_goals obtain rfl | ⟨kept, apart⟩ := (Roster.mem_modify awaits.faithful found).1 listed
      · rw [if_pos (by exact own.symm)]
        exact congrArg (· + count) (awaits.counted target present)
      · rw [if_neg apart.symm]
        exact awaits.counted subscription kept
      · have waiting := awaits.queued target present
        rw [own] at waiting
        rw [show ({ target with
            pendingUnsubscribe := target.pendingUnsubscribe + count } : Subscription R).key = key
          from own, if_pos rfl, ordered]
        omega
      · rw [if_neg apart.symm]
        exact (awaits.queued subscription kept).trans (grown subscription.key)

theorem Awaits.operate {books : Books R} (awaits : books.Awaits asked) (key : SubscriptionKey)
    {operation : Subscription R → Subscription R × List (Posting R)}
    (kept : ∀ subscription, (operation subscription).1.key = subscription.key)
    (unasked : ∀ subscription,
      (operation subscription).1.pendingUnsubscribe = subscription.pendingUnsubscribe) :
    (books.operate key operation).Awaits asked := by
  cases found : books.roster.find? key with
  | none =>
      simp only [Books.operate, found]
      exact awaits
  | some target =>
      have present := ((Roster.find?_eq_some_iff awaits.faithful).1 found).1
      simp only [Books.operate, found]
      refine ⟨awaits.faithful.modify found (kept target), fun subscription listed => ?_,
        fun subscription listed => ?_⟩
      all_goals obtain rfl | ⟨old, -⟩ := (Roster.mem_modify awaits.faithful found).1 listed
      · rw [unasked, kept]
        exact awaits.counted target present
      · exact awaits.counted subscription old
      · rw [kept]
        exact awaits.queued target present
      · exact awaits.queued subscription old

end Books

/-! ## Settlements -/

namespace Books

variable {R : Type} [Quantity R]

theorem Awaits.handle {books : Books R} {asked : SubscriptionKey → Nat}
    (awaits : books.Awaits asked) (key : SubscriptionKey) (handling : Handling R)
    (now : Instant) : (books.operate key (handling.perform now)).Awaits asked :=
  awaits.operate key
    (fun subscription =>
      Subscription.key_of_commitment (handling.commitment_perform now subscription))
    (Subscription.pendingUnsubscribe_perform handling now)

theorem Awaits.setCapacity {books : Books R} {asked : SubscriptionKey → Nat}
    (awaits : books.Awaits asked) (key : SubscriptionKey) (perMember : RegulationCapacity R) :
    (books.operate key fun s => (s.setCapacity perMember, [])).Awaits asked := by
  apply awaits.operate key
  all_goals
    intro subscription
    rfl

def Settled (books : Books R) : Prop :=
  ∀ subscription ∈ books.roster.toList, subscription.pendingUnsubscribe = 0

def Ordered (books : Books R) (directives : List (Directive R)) : Prop :=
  ∀ subscription ∈ books.roster.toList, subscription.pendingUnsubscribe ≠ 0 →
    ∃ directive ∈ directives, directive.key = subscription.key

theorem Ordered.settleWithdrawal {books : Books R} {directive : Directive R}
    {rest : List (Directive R)} (ordered : books.Ordered (directive :: rest))
    (faithful : books.roster.Faithful) (now : Instant) :
    (books.settleWithdrawal directive now).1.Ordered rest := by
  have later (subscription : Subscription R) (listed : subscription ∈ books.roster.toList)
      (apart : subscription.key ≠ directive.key) (leaving : subscription.pendingUnsubscribe ≠ 0) :
      ∃ other ∈ rest, other.key = subscription.key := by
    obtain ⟨own, queued, same⟩ := ordered subscription listed leaving
    obtain rfl | later := List.mem_cons.1 queued
    · exact absurd same.symm apart
    · exact ⟨own, later, same⟩
  intro subscription listed leaving
  cases found : books.roster.find? directive.key with
  | none =>
      rw [settleWithdrawal_of_none found] at listed
      exact later subscription listed ((Roster.find?_eq_none_iff faithful).1 found _ listed) leaving
  | some target =>
      rw [settleWithdrawal_of_find? found, operate_of_find? found] at listed
      obtain rfl | ⟨kept, apart⟩ := (Roster.mem_modify faithful found).1 listed
      · exact absurd (Subscription.pendingUnsubscribe_release _ _ _ _) leaving
      · exact later subscription kept apart leaving

theorem Ordered.settled {books : Books R} {directives : List (Directive R)}
    (ordered : books.Ordered directives) (faithful : books.roster.Faithful) (now : Instant) :
    (settleWithdrawals now books directives).1.Settled := by
  induction directives generalizing books with
  | nil =>
      intro subscription listed
      by_contra leaving
      obtain ⟨_, impossible, -⟩ := ordered subscription listed leaving
      cases impossible
  | cons directive rest ih =>
      exact ih (ordered.settleWithdrawal faithful now)
        (faithful_settleWithdrawal faithful directive now)

theorem Settled.settleSignup {books : Books R} (settled : books.Settled)
    (faithful : books.roster.Faithful) (directive : Directive R) (now : Instant) :
    (books.settleSignup directive now).Settled := by
  have opened : ∀ subscription ∈ (books.roster.ensure directive.customer directive.tariff).toList,
      subscription.pendingUnsubscribe = 0 := by
    intro subscription listed
    rw [Roster.toList_ensure] at listed
    split at listed
    · exact settled subscription listed
    · obtain old | new := List.mem_append.1 listed
      · exact settled subscription old
      · rw [List.mem_singleton.1 new]
        rfl
  have found : (books.roster.ensure directive.customer directive.tariff).find? directive.key =
      some (books.subscriptionFor directive) := Roster.find?_ensure faithful _ _
  have enlarged := faithful.ensure directive.customer directive.tariff
  intro subscription listed
  rw [settleSignup_eq faithful] at listed
  obtain rfl | ⟨kept, -⟩ := (Roster.mem_modify enlarged found).1 listed
  · have unasked : (books.subscriptionFor directive).pendingUnsubscribe = 0 :=
      opened _ ((Roster.find?_eq_some_iff enlarged).1 found).1
    exact unasked
  · exact opened subscription kept

theorem settled_settleSignups {books : Books R} (settled : books.Settled)
    (faithful : books.roster.Faithful) (directives : List (Directive R)) (now : Instant) :
    (settleSignups now books directives).Settled := by
  induction directives generalizing books with
  | nil => exact settled
  | cons directive rest ih =>
      exact ih (settled.settleSignup faithful directive now)
        (faithful_settleSignup faithful directive now)

omit [Quantity R] in
theorem Awaits.ordered {books : Books R} {asked : SubscriptionKey → Nat}
    (awaits : books.Awaits asked) : books.Ordered books.market.withdrawals := by
  intro subscription listed leaving
  have waiting := awaits.queued subscription listed
  rw [← awaits.counted subscription listed] at waiting
  cases found : books.market.withdrawals.find? (fun directive =>
      directive.key == subscription.key) with
  | none =>
      have none : books.market.leaving subscription.key = 0 := Directive.volume_eq_zero found
      omega
  | some directive =>
      exact ⟨directive, List.mem_of_find?_eq_some found, by simpa using List.find?_some found⟩

theorem Awaits.settled {books : Books R} {asked : SubscriptionKey → Nat}
    (awaits : books.Awaits asked) (now : Instant) : (books.settle now).1.Settled := by
  let start : Books R := { books with market := books.market.cleared }
  have faithful : start.roster.Faithful := awaits.faithful
  have ordered : start.Ordered books.market.withdrawals := awaits.ordered
  exact settled_settleSignups (ordered.settled faithful now)
    (faithful_settleWithdrawals faithful _ now) books.market.signups now

omit [Quantity R] in
theorem Settled.awaits {books : Books R} (settled : books.Settled)
    (faithful : books.roster.Faithful) : books.Awaits fun _ => 0 :=
  ⟨faithful, settled, fun _ _ => Nat.zero_le _⟩

/-! ## Histories -/

def serve (books : Books R) : Instant × Request R → Books R
  | (now, .act action) => books.act (now, action)
  | (_, .setCapacity key perMember) => books.operate key fun s => (s.setCapacity perMember, [])

def afterRequests (books : Books R) (history : List (Instant × Request R)) : Books R :=
  history.foldl serve books

theorem Awaits.serve {books : Books R} {history : List (Instant × Request R)}
    (awaits : books.Awaits (Request.asked history)) {request : Instant × Request R}
    (small : ∀ key, request.2.asks key < 2 ^ 63) :
    (books.serve request).Awaits (Request.asked (history ++ [request])) := by
  have asked (key : SubscriptionKey) := Request.asked_append history request key
  have unasked (settles : request.2.isSettlement = false)
      (silent : ∀ key, request.2.asks key = 0) :
      Request.asked (history ++ [request]) = Request.asked history := by
    funext key
    rw [asked, settles, silent]
    rfl
  obtain ⟨now, action | ⟨key, perMember⟩⟩ := request
  · cases action with
    | direct tariff customer count =>
        rw [unasked rfl fun _ => rfl]
        exact awaits.direct tariff customer count
    | unsubscribe key count =>
        have bounded : count < 2 ^ 63 := by simpa [Request.asks] using small key
        have raised : Request.asked (history ++ [(now, .act (.unsubscribe key count))]) =
            fun other => Request.asked history other + if key = other then count else 0 :=
          funext asked
        rw [raised]
        exact awaits.unsubscribe key bounded
    | migrate key =>
        rw [unasked rfl fun _ => rfl]
        simp only [Books.serve, Books.act]
        split
        · exact awaits
        · exact awaits.migrate _ now
    | handle key handling =>
        rw [unasked rfl fun _ => rfl]
        exact awaits.handle key handling now
    | settle =>
        have nothing : Request.asked (history ++ [(now, .act .settle)]) = fun _ => 0 :=
          funext asked
        rw [nothing]
        exact (awaits.settled now).awaits (faithful_settle awaits.faithful now)
    | arrange catalogue defaults timeslot =>
        rw [unasked rfl fun _ => rfl]
        exact ⟨awaits.faithful, awaits.counted, awaits.queued⟩
  · rw [unasked rfl fun _ => rfl]
    exact awaits.setCapacity key perMember

theorem awaits_afterRequests {history : List (Instant × Request R)}
    (small : ∀ request ∈ history, ∀ key, request.2.asks key < 2 ^ 63) :
    (({} : Books R).afterRequests history).Awaits (Request.asked history) := by
  induction history using List.reverseRecOn with
  | nil => exact awaits_empty _
  | append_singleton history request ih =>
      rw [afterRequests, List.foldl_append]
      exact (ih fun earlier listed => small earlier (List.mem_append_left _ listed)).serve
        (small request (List.mem_append_right _ List.mem_cons_self))

omit [Quantity R] in
theorem exists_unsubscribe {books : Books R} (faithful : books.roster.Faithful)
    {commitment : Commitment R} (held : commitment ∈ books.roster.commitments)
    (key : SubscriptionKey) (count : Nat) :
    (books.unsubscribe key count).roster.Faithful ∧
      commitment ∈ (books.unsubscribe key count).roster.commitments := by
  obtain ⟨orders, queued, -⟩ :=
    queues_unsubscribe faithful (P := fun _ (_ : Tariff R) => True) (fun _ _ => trivial) key count
  exact ⟨queued.faithful faithful, queued.commitments ▸ held⟩

/-- From empty books on, whatever happens: the members counted as leaving a subscription are those
asked off it since the last settlement, of whom the queue withdraws at least as many. After a
settlement nobody is counted as leaving and no capacity is discounted. -/
theorem leaving_counts_requests {history : List (Instant × Request R)}
    (small : ∀ request ∈ history, ∀ key, request.2.asks key < 2 ^ 63) :
    let books := ({} : Books R).afterRequests history
    (∀ subscription ∈ books.roster.toList,
        subscription.pendingUnsubscribe = Request.asked history subscription.key ∧
          subscription.pendingUnsubscribe ≤ books.market.leaving subscription.key) ∧
      ∀ now, ∀ subscription ∈ (books.settle now).1.roster.toList,
        subscription.pendingUnsubscribe = 0 ∧
          subscription.remainingCapacity =
            if subscription.committed = 0 then .zero else subscription.capacity := by
  intro books
  have awaits : books.Awaits (Request.asked history) := awaits_afterRequests small
  refine ⟨fun subscription listed => ?_, fun now subscription listed => ?_⟩
  · have counted := awaits.counted subscription listed
    exact ⟨counted, counted ▸ awaits.queued subscription listed⟩
  · have nobody := awaits.settled now subscription listed
    refine ⟨nobody, ?_⟩
    rw [Subscription.remainingCapacity, if_pos nobody]

theorem leaving_counts_requests_town :
    ∃ (history : List (Instant × Request Float)) (key : SubscriptionKey),
      (∃ subscription ∈ (({} : Books Float).afterRequests history).roster.toList,
        subscription.key = key ∧ subscription.committed = 10 ∧
          subscription.pendingUnsubscribe = 7 ∧
          7 ≤ (({} : Books Float).afterRequests history).market.leaving key) ∧
      ∀ subscription ∈ ((({} : Books Float).afterRequests history).settle ⟨2⟩).1.roster.toList,
        subscription.pendingUnsubscribe = 0 := by
  let tariff : Tariff Float := Tariff.free ⟨10⟩ "bob" .consumption
  let town : Customer := { id := ⟨1⟩, name := "town", population := 100, powerType := .consumption }
  let key : SubscriptionKey := ⟨⟨1⟩, ⟨10⟩⟩
  let history : List (Instant × Request Float) :=
    [(⟨0⟩, .act (.direct tariff town 10)), (⟨0⟩, .act .settle),
      (⟨1⟩, .act (.unsubscribe key 4)), (⟨1⟩, .act (.unsubscribe key 3))]
  have small : ∀ request ∈ history, ∀ key, request.2.asks key < 2 ^ 63 := by
    intro request listed other
    simp only [history, List.mem_cons, List.not_mem_nil, or_false] at listed
    obtain rfl | rfl | rfl | rfl := listed <;> simp only [Request.asks]
    · omega
    · omega
    · split <;> omega
    · split <;> omega
  obtain ⟨counts, settled⟩ := leaving_counts_requests small
  have seven : Request.asked history key = 7 := rfl
  -- The settlement opens the subscription, and its members stay for as long as they only ask.
  let opening : Books Float := ({} : Books Float).direct tariff town 10
  have faithful : opening.roster.Faithful := Roster.faithful_empty
  have missing : opening.roster.commitment? key = none := by
    simp [opening, direct, Roster.commitment?, Roster.find?]
  have joining : opening.market.joining key = 10 := rfl
  have entered := members_settle_of_none faithful missing ⟨0⟩
  rw [joining, if_neg (by decide)] at entered
  obtain ⟨commitment, held, members⟩ := Option.map_eq_some_iff.1 entered
  obtain ⟨listed, own⟩ :=
    (Roster.commitment?_eq_some_iff (faithful_settle faithful ⟨0⟩)).1 held
  obtain ⟨asking, stays⟩ := exists_unsubscribe (faithful_settle faithful ⟨0⟩) listed key 4
  obtain ⟨-, kept⟩ := exists_unsubscribe asking stays key 3
  have after : ({} : Books Float).afterRequests history =
      ((opening.settle ⟨0⟩).1.unsubscribe key 4).unsubscribe key 3 := by
    simp only [history, afterRequests, List.foldl_cons, List.foldl_nil, serve, act, opening]
  rw [← after] at kept
  obtain ⟨subscription, present, same⟩ := List.mem_map.1 kept
  obtain ⟨counted, waiting⟩ := counts subscription present
  have ownKey : subscription.key = key := (congrArg Commitment.key same).trans own
  have committed : subscription.committed = 10 :=
    (congrArg Commitment.committed same).trans members
  rw [ownKey] at counted waiting
  rw [seven] at counted
  rw [counted] at waiting
  exact ⟨history, key, ⟨subscription, present, ownKey, committed, counted, waiting⟩,
    fun other listed => (settled ⟨2⟩ other listed).1⟩

end Books

end RetailMarket
