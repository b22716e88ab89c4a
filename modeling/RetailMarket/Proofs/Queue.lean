import RetailMarket.Proofs.Settlement

/-!
# Filling the queue

Placements, evaluations and migrations only queue directives.  They change the books by appending to
the queue, and by noting in a subscription how many of its members have asked to leave.
-/

namespace RetailMarket

namespace Books

variable {R : Type}

structure Queued (orders : List (Directive R)) (before after : Books R) : Prop where
  catalogue : after.catalogue = before.catalogue
  journal : after.journal = before.journal
  market : after.market = { before.market with pending := before.market.pending ++ orders }
  commitments : after.roster.commitments = before.roster.commitments
  index : after.roster.index = before.roster.index

theorem Queued.refl (books : Books R) : Queued [] books books :=
  ⟨rfl, rfl, by rw [List.append_nil], rfl, rfl⟩

theorem Queued.trans {earlier later : List (Directive R)} {first second third : Books R}
    (start : Queued earlier first second) (rest : Queued later second third) :
    Queued (earlier ++ later) first third := by
  refine ⟨rest.catalogue.trans start.catalogue, rest.journal.trans start.journal, ?_,
    rest.commitments.trans start.commitments, rest.index.trans start.index⟩
  rw [rest.market, start.market, List.append_assoc]

theorem roster_direct (books : Books R) (tariff : Tariff R) (customer : Customer) (count : Int) :
    (books.direct tariff customer count).roster = books.roster := rfl

theorem queued_direct (books : Books R) (tariff : Tariff R) (customer : Customer) {count : Int}
    (moving : count ≠ 0) :
    Queued [⟨customer, tariff, count⟩] books (books.direct tariff customer count) := by
  refine ⟨rfl, rfl, ?_, rfl, rfl⟩
  simp only [direct, Market.direct, if_neg moving]

theorem Queued.pending {orders : List (Directive R)} {before after : Books R}
    (queued : Queued orders before after) (idle : before.market.pending = []) :
    after.market.pending = orders := by
  rw [queued.market, idle]
  rfl

theorem Queued.faithful {orders : List (Directive R)} {before after : Books R}
    (queued : Queued orders before after) (faithful : before.roster.Faithful) :
    after.roster.Faithful :=
  faithful.of_keys queued.index (Roster.keys_congr queued.commitments)

theorem Queued.isRevoked {orders : List (Directive R)} {before after : Books R}
    (queued : Queued orders before after) (tariff : Tariff R) :
    after.isRevoked tariff = before.isRevoked tariff := by
  rw [Books.isRevoked, queued.catalogue, ← Books.isRevoked]

theorem Queued.defaultFor {orders : List (Directive R)} {before after : Books R}
    (queued : Queued orders before after) (powerType : PowerType) :
    after.market.defaultFor powerType = before.market.defaultFor powerType := by
  rw [queued.market]
  rfl

theorem Queued.sound [Quantity R] {orders : List (Directive R)} {before after : Books R}
    (queued : Queued orders before after) {populations : List Customer}
    (sound : before.Sound populations) : after.Sound populations := by
  refine ⟨queued.catalogue ▸ sound.catalogue, ?_, queued.faithful sound.roster, ?_, ?_, ?_⟩
  · intro powerType tariff default
    rw [queued.catalogue]
    rw [queued.market] at default
    exact sound.defaults powerType tariff default
  all_goals
    intro subscription listed
    obtain ⟨other, member, same⟩ := Roster.exists_of_commitments queued.commitments listed
  · have committed := congrArg Commitment.committed same
    have records := congrArg Commitment.expirations same
    exact (congrArg ExpirationRecord.total records).symm.trans
      ((sound.recorded other member).trans committed)
  · have tariff : other.tariff = subscription.tariff := congrArg Commitment.tariff same
    rw [queued.catalogue, ← tariff]
    exact sound.known other member
  · have customer : other.customer = subscription.customer := congrArg Commitment.customer same
    rw [← customer]
    exact sound.placed other member

theorem Queued.small {before after : Books R} {orders : List (Directive R)}
    (queued : Queued orders before after)
    (small : ∀ subscription ∈ before.roster.toList, subscription.committed < 2 ^ 63) :
    ∀ subscription ∈ after.roster.toList, subscription.committed < 2 ^ 63 := by
  intro subscription listed
  obtain ⟨other, member, same⟩ := Roster.exists_of_commitments queued.commitments listed
  have committed : other.committed = subscription.committed := congrArg Commitment.committed same
  rw [← committed]
  exact small other member

/-! ## Asking to leave -/

theorem queued_mark {books : Books R} (faithful : books.roster.Faithful) {key : SubscriptionKey}
    {subscription : Subscription R} (found : books.roster.find? key = some subscription)
    (count : Nat) :
    Queued [] books
      { books with
        roster := books.roster.modify key fun s =>
          { s with pendingUnsubscribe := s.pendingUnsubscribe + count } } := by
  refine ⟨rfl, rfl, by rw [List.append_nil], Roster.commitments_modify faithful found rfl, ?_⟩
  simp only [Roster.modify]
  split <;> rfl

theorem queued_unsubscribe {books : Books R} (faithful : books.roster.Faithful)
    {key : SubscriptionKey} {subscription : Subscription R}
    (found : books.roster.find? key = some subscription) {count : Nat} (moving : 0 < count)
    (small : count < 2 ^ 63) :
    Queued [⟨subscription.customer, subscription.tariff, -count⟩] books
      (books.unsubscribe key count) := by
  have leaving : (-count : Int) ≠ 0 := by omega
  simp only [unsubscribe, found, signed_of_lt small]
  exact (queued_mark faithful found count).trans
    (queued_direct _ subscription.tariff subscription.customer leaving)

/-! ### Whatever the counts -/

/-- Directives have been queued, all for customers and tariffs that stand in a relation. -/
def Queues (P : Customer → Tariff R → Prop) (before after : Books R) : Prop :=
  ∃ orders, Queued orders before after ∧
    ∀ directive ∈ orders, P directive.customer directive.tariff

section Queues

variable {P : Customer → Tariff R → Prop}

theorem Queues.refl (books : Books R) : Queues P books books :=
  ⟨[], Queued.refl books, by simp⟩

theorem Queues.trans {first second third : Books R} (start : Queues P first second)
    (rest : Queues P second third) : Queues P first third := by
  obtain ⟨earlier, queued, related⟩ := start
  obtain ⟨later, queuedLater, relatedLater⟩ := rest
  refine ⟨earlier ++ later, queued.trans queuedLater, fun directive listed => ?_⟩
  exact (List.mem_append.1 listed).elim (related directive) (relatedLater directive)

theorem queues_direct {tariff : Tariff R} {customer : Customer} (related : P customer tariff)
    (books : Books R) (count : Int) : Queues P books (books.direct tariff customer count) := by
  by_cases moving : count = 0
  · rw [direct, Market.direct, if_pos moving]
    exact Queues.refl books
  · refine ⟨_, queued_direct books tariff customer moving, fun directive listed => ?_⟩
    rw [List.mem_singleton.1 listed]
    exact related

theorem queues_unsubscribe {books : Books R} (faithful : books.roster.Faithful)
    (members : ∀ subscription ∈ books.roster.toList, P subscription.customer subscription.tariff)
    (key : SubscriptionKey) (count : Nat) : Queues P books (books.unsubscribe key count) := by
  cases found : books.roster.find? key with
  | none =>
      simp only [unsubscribe, found]
      exact Queues.refl books
  | some subscription =>
      have listed := ((Roster.find?_eq_some_iff faithful).1 found).1
      simp only [unsubscribe, found]
      exact Queues.trans ⟨[], queued_mark faithful found count, by simp⟩
        (queues_direct (members subscription listed) _ (-signed count))

theorem Queues.faithful {before after : Books R} (queues : Queues P before after)
    (faithful : before.roster.Faithful) : after.roster.Faithful := by
  obtain ⟨_, queued, -⟩ := queues
  exact queued.faithful faithful

theorem Queues.members {before after : Books R} (queues : Queues P before after)
    (members : ∀ subscription ∈ before.roster.toList,
      P subscription.customer subscription.tariff) :
    ∀ subscription ∈ after.roster.toList, P subscription.customer subscription.tariff := by
  obtain ⟨_, queued, -⟩ := queues
  intro subscription listed
  obtain ⟨other, member, same⟩ := Roster.exists_of_commitments queued.commitments listed
  have customer : other.customer = subscription.customer := congrArg Commitment.customer same
  have tariff : other.tariff = subscription.tariff := congrArg Commitment.tariff same
  rw [← customer, ← tariff]
  exact members other member

end Queues

end Books

end RetailMarket
