import RetailMarket.Proofs.Holding
import RetailMarket.Proofs.Migration

/-!
# Reconciliation of roster and journal

The members of a pair of customer and tariff are kept three times: as the committed count of its
subscription, in its contract records, and in what the journal has signed up and withdrawn.
Whatever is done with the books, in any order and at any times, the three agree, and a signup fee
has been paid back to exactly those who left.
-/

namespace RetailMarket

/-! ## Counts that settlements post -/

namespace Journal

variable {R : Type}

def counted (journal : Journal R) (kind : TransactionKind) (key : SubscriptionKey) : Nat :=
  ((journal.entries kind key).map (·.count)).sum

theorem entries_postAll_of_apart (journal : Journal R) {postings : List (Posting R)}
    {kind : TransactionKind} (apart : ∀ posting ∈ postings, posting.kind ≠ kind)
    (key : SubscriptionKey) : (journal.postAll postings).entries kind key =
      journal.entries kind key := by
  have none : postings.filter (fun p => p.kind == kind && p.key == key) = [] :=
    List.filter_eq_nil_iff.2 fun posting listed found =>
      apart posting listed (by simpa using (Bool.and_eq_true_iff.1 found).1)
  rw [entries_postAll, none, List.map_nil, List.append_nil]

end Journal

namespace Commitment

variable {R : Type} [Quantity R]

def releaseCount (commitment : Commitment R) (count : Nat) : TransactionKind → Nat
  | .withdraw => min count commitment.committed
  | .refund => if commitment.tariff.signupPayment < 0 then min count commitment.committed else 0
  | _ => 0

def joinCount (count : Nat) : TransactionKind → Nat
  | .signup => count
  | _ => 0

/-- Contract records and settlement postings account for the members. -/
structure Tallies (commitment : Commitment R) (counted : TransactionKind → Nat) : Prop where
  recorded : ExpirationRecord.total commitment.expirations = commitment.committed
  moved : commitment.committed + counted .withdraw = counted .signup
  refunded : counted .refund =
    if commitment.tariff.signupPayment < 0 then counted .withdraw else 0

theorem Tallies.release {commitment : Commitment R} {counted : TransactionKind → Nat}
    (tallies : commitment.Tallies counted) (count : Nat) :
    (commitment.release count).Tallies fun kind =>
      counted kind + commitment.releaseCount count kind := by
  obtain ⟨recorded, moved, refunded⟩ := tallies
  refine ⟨?_, ?_, ?_⟩
  · simp only [Commitment.release, ExpirationRecord.total_release, recorded]
    omega
  · simp only [Commitment.release, releaseCount]
    omega
  · by_cases fee : commitment.tariff.signupPayment < 0 <;>
      simp [Commitment.release, releaseCount, refunded, fee]

theorem Tallies.join {commitment : Commitment R} {counted : TransactionKind → Nat}
    (tallies : commitment.Tallies counted) (count : Nat) (now : Instant) :
    (commitment.join count now).Tallies fun kind => counted kind + joinCount count kind := by
  obtain ⟨recorded, moved, refunded⟩ := tallies
  refine ⟨?_, ?_, ?_⟩
  · simp only [Commitment.join, ExpirationRecord.total_enroll, recorded]
  · simp only [Commitment.join, joinCount]
    omega
  · exact refunded

theorem tallies_opened (customer : Customer) (tariff : Tariff R)
    {counted : TransactionKind → Nat}
    (untouched : ∀ kind, kind.isSettlement = true → counted kind = 0) :
    (Subscription.opened customer tariff).commitment.Tallies counted := by
  have signup := untouched .signup rfl
  have withdraw := untouched .withdraw rfl
  have refund := untouched .refund rfl
  refine ⟨rfl, ?_, ?_⟩
  · rw [signup, withdraw]
    rfl
  · rw [refund, withdraw]
    split <;> rfl

end Commitment

namespace Subscription

variable {R : Type} [Quantity R]

theorem counts_release (subscription : Subscription R) (revoked : Bool) (count : Nat)
    (now : Instant) (kind : TransactionKind) :
    (((subscription.release revoked count now).2.filter fun p => p.kind == kind).map
      (·.count)).sum = subscription.commitment.releaseCount count kind := by
  simp only [release]
  by_cases fee : subscription.tariff.signupPayment < 0 <;> cases kind <;>
    simp [fee, posting, Commitment.releaseCount, commitment]

theorem counts_subscribe (subscription : Subscription R) (count : Nat) (now : Instant)
    (kind : TransactionKind) :
    (((subscription.subscribe count now).2.filter fun p => p.kind == kind).map (·.count)).sum =
      Commitment.joinCount count kind := by
  cases kind <;> rfl

end Subscription

namespace Books

variable {R : Type} [Quantity R]

theorem counted_settleWithdrawal {books : Books R} {directive : Directive R}
    {commitment : Commitment R} (faithful : books.roster.Faithful)
    (held : books.roster.commitment? directive.key = some commitment) (now : Instant)
    (kind : TransactionKind) (key : SubscriptionKey) :
    (settleWithdrawal books directive now).1.journal.counted kind key =
      books.journal.counted kind key +
        if key = directive.key then commitment.releaseCount directive.count.natAbs kind else 0 := by
  obtain ⟨subscription, found, rfl⟩ := Option.map_eq_some_iff.1 held
  rw [Journal.counted, entries_settleWithdrawal faithful found, List.map_append, List.sum_append,
    ← Journal.counted]
  congr 1
  split
  · rw [List.map_map]
    exact Subscription.counts_release _ _ _ now kind
  · rfl

theorem counted_settleSignup {books : Books R} (faithful : books.roster.Faithful)
    (directive : Directive R) (now : Instant) (kind : TransactionKind) (key : SubscriptionKey) :
    (settleSignup books directive now).journal.counted kind key =
      books.journal.counted kind key +
        if key = directive.key then Commitment.joinCount directive.count.natAbs kind else 0 := by
  rw [Journal.counted, entries_settleSignup faithful, List.map_append, List.sum_append,
    ← Journal.counted]
  congr 1
  split
  · rw [List.map_map]
    exact Subscription.counts_subscribe _ _ now kind
  · rfl

/-! ## Reconciled books -/

/-- The journal accounts for the members of a key, and knows nothing of a key without
subscription. -/
def Balances (books : Books R) (key : SubscriptionKey) : Prop :=
  match books.roster.commitment? key with
  | none => ∀ kind, kind.isSettlement = true → books.journal.counted kind key = 0
  | some commitment => commitment.Tallies fun kind => books.journal.counted kind key

structure Reconciled (books : Books R) : Prop where
  faithful : books.roster.Faithful
  balanced : ∀ key, books.Balances key

theorem balances_of_none {books : Books R} {key : SubscriptionKey}
    (missing : books.roster.commitment? key = none) :
    books.Balances key ↔ ∀ kind, kind.isSettlement = true → books.journal.counted kind key = 0 := by
  rw [Balances, missing]

theorem balances_of_some {books : Books R} {key : SubscriptionKey} {commitment : Commitment R}
    (held : books.roster.commitment? key = some commitment) :
    books.Balances key ↔ commitment.Tallies fun kind => books.journal.counted kind key := by
  rw [Balances, held]

theorem Balances.tallies {books : Books R} {key : SubscriptionKey} (balances : books.Balances key)
    (customer : Customer) (tariff : Tariff R) :
    ((books.roster.commitment? key).getD (Subscription.opened customer tariff).commitment).Tallies
      fun kind => books.journal.counted kind key := by
  cases held : books.roster.commitment? key with
  | none => exact Commitment.tallies_opened customer tariff ((balances_of_none held).1 balances)
  | some commitment => exact (balances_of_some held).1 balances

theorem Balances.congr {before after : Books R} {key : SubscriptionKey}
    (balances : before.Balances key)
    (kept : after.roster.commitment? key = before.roster.commitment? key)
    (apart : ∀ kind, kind.isSettlement = true →
      after.journal.counted kind key = before.journal.counted kind key) : after.Balances key := by
  cases held : before.roster.commitment? key with
  | none =>
      rw [balances_of_none (kept.trans held)]
      intro kind settlement
      exact (apart kind settlement).trans ((balances_of_none held).1 balances kind settlement)
  | some commitment =>
      obtain ⟨recorded, moved, refunded⟩ := (balances_of_some held).1 balances
      rw [balances_of_some (kept.trans held)]
      refine ⟨recorded, ?_, ?_⟩
      · rw [apart .withdraw rfl, apart .signup rfl, moved]
      · rw [apart .refund rfl, apart .withdraw rfl, refunded]

theorem reconciled_empty : ({} : Books R).Reconciled := by
  refine ⟨Roster.faithful_empty, fun key => ?_⟩
  have missing : ({} : Books R).roster.commitment? key = none := by
    simp [Roster.commitment?, Roster.find?]
  exact (balances_of_none missing).2 fun kind _ => rfl

/-! ## Settlements -/

theorem Reconciled.settleWithdrawal {books : Books R} (reconciled : books.Reconciled)
    (directive : Directive R) (now : Instant) :
    (books.settleWithdrawal directive now).1.Reconciled := by
  refine ⟨faithful_settleWithdrawal reconciled.faithful directive now, fun key => ?_⟩
  have after := commitment?_settleWithdrawal reconciled.faithful directive now key
  cases held : books.roster.commitment? directive.key with
  | none =>
      rw [settleWithdrawal_of_none (Option.map_eq_none_iff.1 held)]
      exact reconciled.balanced key
  | some commitment =>
      have counted := fun kind =>
        counted_settleWithdrawal reconciled.faithful held now kind key
      by_cases same : key = directive.key
      · subst same
        simp only [if_true] at after counted
        rw [held, Option.map_some] at after
        rw [balances_of_some after]
        simp only [counted]
        exact ((balances_of_some held).1 (reconciled.balanced _)).release _
      · simp only [if_neg same, Nat.add_zero] at after counted
        exact (reconciled.balanced key).congr after fun kind _ => counted kind

theorem Reconciled.settleSignup {books : Books R} (reconciled : books.Reconciled)
    (directive : Directive R) (now : Instant) : (books.settleSignup directive now).Reconciled := by
  refine ⟨faithful_settleSignup reconciled.faithful directive now, fun key => ?_⟩
  have after := commitment?_settleSignup reconciled.faithful directive now key
  have counted := fun kind => counted_settleSignup reconciled.faithful directive now kind key
  by_cases same : key = directive.key
  · simp only [if_pos same] at after counted
    rw [balances_of_some after]
    simp only [counted]
    exact ((reconciled.balanced key).tallies _ _).join _ now
  · simp only [if_neg same, Nat.add_zero] at after counted
    exact (reconciled.balanced key).congr after fun kind _ => counted kind

theorem Reconciled.settle {books : Books R} (reconciled : books.Reconciled) (now : Instant) :
    (books.settle now).1.Reconciled :=
  settle_induction (P := Reconciled) ⟨reconciled.faithful, reconciled.balanced⟩
    (fun _ directive _ holds => holds.settleWithdrawal directive now)
    (fun _ directive _ holds => holds.settleSignup directive now)

/-! ## Everything else -/

theorem Reconciled.of_commitments {before after : Books R} (reconciled : before.Reconciled)
    (faithful : after.roster.Faithful)
    (kept : after.roster.commitments = before.roster.commitments)
    (apart : ∀ kind, kind.isSettlement = true → ∀ key,
      after.journal.counted kind key = before.journal.counted kind key) : after.Reconciled := by
  refine ⟨faithful, fun key => (reconciled.balanced key).congr ?_ fun kind settlement =>
    apart kind settlement key⟩
  exact Roster.commitment?_congr faithful reconciled.faithful kept key

theorem Reconciled.of_queued {before after : Books R} {orders : List (Directive R)}
    (reconciled : before.Reconciled) (queued : Queued orders before after) : after.Reconciled := by
  refine reconciled.of_commitments (queued.faithful reconciled.faithful) queued.commitments ?_
  intro kind _ key
  rw [queued.journal]

end Books

/-! ### Usage and control -/

inductive Handling (R : Type) where
  | usePower (kwh : R)
  | postRatio (ratio : R)
  | balance (kwh : R)
  | takeRegulation
  | takeCurtailment
  deriving Repr

namespace Handling

variable {R : Type} [Quantity R]

def perform (now : Instant) : Handling R → Subscription R → Subscription R × List (Posting R)
  | usePower kwh, subscription => subscription.usePower kwh now
  | postRatio ratio, subscription => (subscription.postRatio ratio, [])
  | balance kwh, subscription => subscription.balance kwh now
  | takeRegulation, subscription => (subscription.takeRegulation.2, [])
  | takeCurtailment, subscription => (subscription.takeCurtailment.2, [])

theorem commitment_perform (handling : Handling R) (now : Instant)
    (subscription : Subscription R) :
    (handling.perform now subscription).1.commitment = subscription.commitment := by
  cases handling <;> rfl

theorem isSettlement_perform (handling : Handling R) (now : Instant)
    (subscription : Subscription R) :
    ∀ posting ∈ (handling.perform now subscription).2, posting.kind.isSettlement = false := by
  intro posting listed
  cases handling with
  | usePower kwh =>
      simp only [perform, Subscription.usePower] at listed
      rcases List.mem_cons.1 listed with rfl | periodic
      · simp only [Subscription.posting]
        split <;> rfl
      · split at periodic
        · cases periodic
        · rw [List.mem_singleton.1 periodic]
          rfl
  | balance kwh =>
      rw [List.mem_singleton.1 listed]
      rfl
  | postRatio | takeRegulation | takeCurtailment => cases listed

end Handling

namespace Books

variable {R : Type} [Quantity R]

theorem Reconciled.handle {books : Books R} (reconciled : books.Reconciled)
    (key : SubscriptionKey) (handling : Handling R) (now : Instant) :
    (books.operate key (handling.perform now)).Reconciled := by
  cases found : books.roster.find? key with
  | none =>
      have idle : books.operate key (handling.perform now) = books := by
        simp only [operate, found]
      rw [idle]
      exact reconciled
  | some subscription =>
      have kept := handling.commitment_perform now subscription
      rw [operate_of_find? found]
      refine reconciled.of_commitments
        (reconciled.faithful.modify found (Subscription.key_of_commitment kept))
        (Roster.commitments_modify reconciled.faithful found kept) fun kind settlement other => ?_
      rw [Journal.counted, Journal.entries_postAll_of_apart, ← Journal.counted]
      intro posting listed same
      have apart := handling.isSettlement_perform now subscription posting listed
      rw [same, settlement] at apart
      cases apart

end Books

/-! ## Histories -/

/-- What can happen to the books. `arrange` stands for whatever becomes of tariffs and defaults, and
for the passing of timeslots. -/
inductive Action (R : Type) where
  | direct (tariff : Tariff R) (customer : Customer) (count : Int)
  | unsubscribe (key : SubscriptionKey) (count : Nat)
  | migrate (key : SubscriptionKey)
  | handle (key : SubscriptionKey) (handling : Handling R)
  | settle
  | arrange (catalogue : Catalogue R) (defaults : PowerType → Option (Tariff R)) (timeslot : Nat)

namespace Books

variable {R : Type} [Quantity R]

def act (books : Books R) : Instant × Action R → Books R
  | (_, .direct tariff customer count) => books.direct tariff customer count
  | (_, .unsubscribe key count) => books.unsubscribe key count
  | (now, .migrate key) =>
    match books.roster.find? key with
    | none => books
    | some subscription => (books.migrate subscription now).2
  | (now, .handle key handling) => books.operate key (handling.perform now)
  | (now, .settle) => (books.settle now).1
  | (_, .arrange catalogue defaults timeslot) =>
    { books with
      catalogue
      market := { books.market with defaults }
      journal := { books.journal with timeslot } }

def afterAll (books : Books R) (history : List (Instant × Action R)) : Books R :=
  history.foldl act books

theorem Reconciled.act {books : Books R} (reconciled : books.Reconciled)
    (action : Instant × Action R) : (books.act action).Reconciled := by
  obtain ⟨now, action⟩ := action
  cases action with
  | direct tariff customer count =>
      obtain ⟨orders, queued, -⟩ :=
        queues_direct (P := fun _ (_ : Tariff R) => True) trivial books count
      exact reconciled.of_queued queued
  | unsubscribe key count =>
      obtain ⟨orders, queued, -⟩ :=
        queues_unsubscribe reconciled.faithful (P := fun _ _ => True) (fun _ _ => trivial) key count
      exact reconciled.of_queued queued
  | migrate key =>
      simp only [Books.act]
      split
      · exact reconciled
      · obtain ⟨orders, queued, -⟩ :=
          queues_migrate (P := fun _ (_ : Tariff R) => True) trivial fun _ _ => trivial
        exact reconciled.of_queued queued
  | handle key handling => exact reconciled.handle key handling now
  | settle => exact reconciled.settle now
  | arrange catalogue defaults timeslot => exact ⟨reconciled.faithful, reconciled.balanced⟩

theorem Reconciled.afterAll {books : Books R} (reconciled : books.Reconciled)
    (history : List (Instant × Action R)) : (books.afterAll history).Reconciled := by
  induction history generalizing books with
  | nil => exact reconciled
  | cons action rest ih => exact ih (reconciled.act action)

/-- From empty books on, whatever happens: every subscription is the one found by its key, its
records add up to its members, and these are the members signed up less those withdrawn. Where the
tariff has a signup fee, those withdrawn are those refunded. -/
theorem history_reconciles (history : List (Instant × Action R)) (key : SubscriptionKey) :
    let books := ({} : Books R).afterAll history
    (∀ subscription ∈ books.roster.toList,
        books.roster.find? subscription.key = some subscription) ∧
      match books.roster.find? key with
      | none => ∀ kind, kind.isSettlement = true → books.journal.counted kind key = 0
      | some subscription =>
        (subscription.expirations.map (·.count)).sum = subscription.committed ∧
          (subscription.committed : Int) =
            books.journal.counted .signup key - books.journal.counted .withdraw key ∧
          books.journal.counted .refund key =
            if subscription.tariff.signupPayment < 0 then books.journal.counted .withdraw key
            else 0 := by
  intro books
  have reconciled : books.Reconciled := reconciled_empty.afterAll history
  refine ⟨fun subscription listed =>
    (Roster.find?_eq_some_iff reconciled.faithful).2 ⟨listed, rfl⟩, ?_⟩
  have balances := reconciled.balanced key
  cases found : books.roster.find? key with
  | none => exact (balances_of_none (congrArg _ found)).1 balances
  | some subscription =>
      obtain ⟨recorded, moved, refunded⟩ := (balances_of_some (congrArg _ found)).1 balances
      have members : subscription.committed + books.journal.counted .withdraw key =
        books.journal.counted .signup key := moved
      exact ⟨recorded, by omega, refunded⟩

end Books

end RetailMarket
