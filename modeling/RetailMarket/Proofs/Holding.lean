import RetailMarket.Proofs.Billing
import RetailMarket.Proofs.Records
import RetailMarket.Proofs.Settlement

/-!
# What a pair of customer and tariff holds

The members of a customer on a tariff are found by the key of the pair, as the commitment of its
subscription if it has one.  A withdrawal releases members from that commitment, a signup joins
members to it, and what they post is entered under the same key.  Directives for other keys change
neither.
-/

namespace RetailMarket

/-! ## Commitments -/

namespace Commitment

variable {R : Type}

def release (commitment : Commitment R) (count : Nat) : Commitment R :=
  { commitment with
    committed := commitment.committed - count
    expirations :=
      ExpirationRecord.release (min count commitment.committed) commitment.expirations }

def join (commitment : Commitment R) (count : Nat) (now : Instant) : Commitment R :=
  { commitment with
    committed := commitment.committed + count
    expirations :=
      ExpirationRecord.enroll (commitment.tariff.contractEnd now) count commitment.expirations }

def expiredCount (commitment : Commitment R) (now : Instant) : Nat :=
  ExpirationRecord.expiredCount now commitment.expirations

@[simp]
theorem release_zero (commitment : Commitment R) : commitment.release 0 = commitment := by
  simp [release, ExpirationRecord.release_zero]

theorem release_release (commitment : Commitment R) (first second : Nat) :
    (commitment.release first).release second = commitment.release (first + second) := by
  have leaving : min first commitment.committed + min second (commitment.committed - first) =
      min (first + second) commitment.committed := by omega
  simp only [release, ExpirationRecord.release_release, leaving, Nat.sub_sub]

theorem join_join (commitment : Commitment R) (first second : Nat) (now : Instant) :
    (commitment.join first now).join second now = commitment.join (first + second) now := by
  simp only [join, ExpirationRecord.enroll_enroll, Nat.add_assoc]

end Commitment

namespace Subscription

variable {R : Type} [Quantity R]

theorem commitment_subscribe (subscription : Subscription R) (count : Nat) (now : Instant) :
    (subscription.subscribe count now).1.commitment = subscription.commitment.join count now := rfl

theorem commitment_release_eq (subscription : Subscription R) (revoked : Bool) (count : Nat)
    (now : Instant) :
    (subscription.release revoked count now).1.commitment =
      subscription.commitment.release count := by
  have left : subscription.committed - min count subscription.committed =
      subscription.committed - count := by omega
  rw [commitment_release, left]
  rfl

end Subscription

/-! ## Holdings in a roster -/

namespace Roster

variable {R : Type}

def commitment? (roster : Roster R) (key : SubscriptionKey) : Option (Commitment R) :=
  (roster.find? key).map Subscription.commitment

theorem commitment?_eq_some_iff {roster : Roster R} (faithful : roster.Faithful)
    {key : SubscriptionKey} {commitment : Commitment R} :
    roster.commitment? key = some commitment ↔
      commitment ∈ roster.commitments ∧ commitment.key = key := by
  rw [commitment?, Option.map_eq_some_iff, commitments, List.mem_map]
  constructor
  · rintro ⟨subscription, found, rfl⟩
    obtain ⟨listed, own⟩ := (find?_eq_some_iff faithful).1 found
    exact ⟨⟨subscription, listed, rfl⟩, own⟩
  · rintro ⟨⟨subscription, listed, rfl⟩, own⟩
    exact ⟨subscription, (find?_eq_some_iff faithful).2 ⟨listed, own⟩, rfl⟩

theorem commitment?_congr {first second : Roster R} (faithful : first.Faithful)
    (faithful' : second.Faithful) (same : first.commitments = second.commitments)
    (key : SubscriptionKey) : first.commitment? key = second.commitment? key := by
  ext commitment
  rw [commitment?_eq_some_iff faithful, commitment?_eq_some_iff faithful', same]

theorem find?_modify {roster : Roster R} (faithful : roster.Faithful) {key : SubscriptionKey}
    {subscription : Subscription R} (found : roster.find? key = some subscription)
    {change : Subscription R → Subscription R}
    (kept : (change subscription).key = subscription.key) (other : SubscriptionKey) :
    (roster.modify key change).find? other =
      if other = key then some (change subscription) else roster.find? other := by
  split
  · rename_i same
    subst same
    have own : subscription.key = other := ((find?_eq_some_iff faithful).1 found).2
    exact (find?_eq_some_iff (faithful.modify found kept)).2
      ⟨(mem_modify faithful found).2 (.inl rfl), kept.trans own⟩
  · rename_i different
    exact find?_modify_of_ne faithful found kept different

theorem find?_ensure_of_ne [Quantity R] {roster : Roster R} (faithful : roster.Faithful)
    {customer : Customer} {tariff : Tariff R} {key : SubscriptionKey}
    (different : key ≠ ⟨customer.id, tariff.id⟩) :
    (roster.ensure customer tariff).find? key = roster.find? key := by
  ext subscription
  rw [find?_eq_some_iff (faithful.ensure customer tariff), find?_eq_some_iff faithful,
    toList_ensure]
  split
  · rfl
  · rw [List.mem_append, List.mem_singleton]
    constructor
    · rintro ⟨old | rfl, same⟩
      · exact ⟨old, same⟩
      · exact absurd same.symm different
    · rintro ⟨old, same⟩
      exact ⟨.inl old, same⟩

theorem exists_single [Quantity R] (subscription : Subscription R) :
    ∃ roster : Roster R, roster.Faithful ∧
      ∀ key, roster.find? key = if key = subscription.key then some subscription else none := by
  have empty : ({} : Roster R).Faithful := faithful_empty
  have missing (key : SubscriptionKey) : ({} : Roster R).find? key = none := by
    simp [find?]
  have faithful := empty.ensure subscription.customer subscription.tariff
  have found := find?_ensure empty subscription.customer subscription.tariff
  rw [missing, Option.getD_none] at found
  refine ⟨(({} : Roster R).ensure subscription.customer subscription.tariff).modify
    subscription.key fun _ => subscription, faithful.modify found rfl, fun key => ?_⟩
  refine (find?_modify faithful found rfl key).trans ?_
  by_cases same : key = subscription.key
  · exact (if_pos same).trans (if_pos same).symm
  · rw [if_neg same]
    exact (if_neg same).trans ((find?_ensure_of_ne empty same).trans (missing key))

end Roster

/-! ## Entries in the journal -/

namespace Journal

variable {R : Type}

def entries (journal : Journal R) (kind : TransactionKind) (key : SubscriptionKey) :
    List (Transaction R) :=
  journal.transactions.toList.filter fun t => t.kind == kind && t.key == key

theorem entries_postAll (journal : Journal R) (postings : List (Posting R))
    (kind : TransactionKind) (key : SubscriptionKey) :
    (journal.postAll postings).entries kind key =
      journal.entries kind key ++
        (postings.filter fun p => p.kind == kind && p.key == key).map journal.stamp := by
  rw [entries, toList_postAll, List.filter_append, ← entries, List.filter_map]
  rfl

theorem entries_postAll_own (journal : Journal R) {postings : List (Posting R)}
    {own : SubscriptionKey} (owned : ∀ posting ∈ postings, posting.key = own)
    (kind : TransactionKind) (key : SubscriptionKey) :
    (journal.postAll postings).entries kind key =
      journal.entries kind key ++
        if key = own then (postings.filter fun p => p.kind == kind).map journal.stamp else [] := by
  rw [entries_postAll]
  congr 1
  split
  · rename_i same
    congr 1
    exact List.filter_congr fun posting listed => by simp [owned posting listed, same]
  · rename_i different
    rw [List.filter_eq_nil_iff.2 ?_, List.map_nil]
    intro posting listed found
    simp only [Bool.and_eq_true, beq_iff_eq, owned posting listed] at found
    exact different found.2.symm

end Journal

/-! ## One directive -/

namespace Books

variable {R : Type} [Quantity R]

theorem key_of_mem_release {subscription : Subscription R} {revoked : Bool} {count : Nat}
    {now : Instant} {posting : Posting R}
    (listed : posting ∈ (subscription.release revoked count now).2) :
    posting.key = subscription.key := by
  simp only [Subscription.release] at listed
  rcases List.mem_cons.1 listed with rfl | refund
  · rfl
  · split at refund
    · rw [List.mem_singleton.1 refund]
      rfl
    · cases refund

theorem commitment?_settleWithdrawal {books : Books R} (faithful : books.roster.Faithful)
    (directive : Directive R) (now : Instant) (key : SubscriptionKey) :
    (settleWithdrawal books directive now).1.roster.commitment? key =
      if key = directive.key then
        (books.roster.commitment? key).map (·.release directive.count.natAbs)
      else books.roster.commitment? key := by
  cases found : books.roster.find? directive.key with
  | none =>
      rw [settleWithdrawal_of_none found]
      split
      · rename_i same
        rw [Roster.commitment?, same, found]
        rfl
      · rfl
  | some subscription =>
      rw [settleWithdrawal_of_find? found, operate_of_find? found, Roster.commitment?,
        Roster.find?_modify faithful found (Subscription.key_release _ _ _ _)]
      split
      · rename_i same
        rw [Roster.commitment?, same, found, Option.map_some, Option.map_some, Option.map_some,
          Subscription.commitment_release_eq]
      · rfl

theorem commitment?_settleSignup {books : Books R} (faithful : books.roster.Faithful)
    (directive : Directive R) (now : Instant) (key : SubscriptionKey) :
    (settleSignup books directive now).roster.commitment? key =
      if key = directive.key then
        some (((books.roster.commitment? key).getD
          (Subscription.opened directive.customer directive.tariff).commitment).join
            directive.count.natAbs now)
      else books.roster.commitment? key := by
  have found : (books.roster.ensure directive.customer directive.tariff).find? directive.key =
      some (books.subscriptionFor directive) := Roster.find?_ensure faithful _ _
  rw [settleSignup_eq faithful, Roster.commitment?,
    Roster.find?_modify (faithful.ensure _ _) found rfl]
  split
  · rename_i same
    rw [Option.map_some, Subscription.commitment_subscribe, Roster.commitment?, same,
      Option.getD_map]
    rfl
  · rename_i different
    rw [Roster.find?_ensure_of_ne faithful different]
    rfl

theorem entries_settleWithdrawal {books : Books R} {directive : Directive R}
    {subscription : Subscription R} (faithful : books.roster.Faithful)
    (found : books.roster.find? directive.key = some subscription) (now : Instant)
    (kind : TransactionKind) (key : SubscriptionKey) :
    (settleWithdrawal books directive now).1.journal.entries kind key =
      books.journal.entries kind key ++
        if key = directive.key then
          (((subscription.release (books.isRevoked subscription.tariff) directive.count.natAbs
            now).2).filter fun p => p.kind == kind).map books.journal.stamp
        else [] := by
  rw [settleWithdrawal_of_find? found, operate_of_find? found]
  refine Journal.entries_postAll_own _ (fun posting listed => ?_) kind key
  rw [key_of_mem_release listed]
  exact ((Roster.find?_eq_some_iff faithful).1 found).2

theorem entries_settleSignup {books : Books R} (faithful : books.roster.Faithful)
    (directive : Directive R) (now : Instant) (kind : TransactionKind) (key : SubscriptionKey) :
    (settleSignup books directive now).journal.entries kind key =
      books.journal.entries kind key ++
        if key = directive.key then
          (((books.subscriptionFor directive).subscribe directive.count.natAbs
            now).2.filter fun p => p.kind == kind).map books.journal.stamp
        else [] := by
  have found : (books.roster.ensure directive.customer directive.tariff).find? directive.key =
      some (books.subscriptionFor directive) := Roster.find?_ensure faithful _ _
  have own := ((Roster.find?_eq_some_iff (faithful.ensure _ _)).1 found).2
  rw [settleSignup_eq faithful]
  refine Journal.entries_postAll_own _ (fun posting listed => ?_) kind key
  rw [List.mem_singleton.1 listed, ← own]
  rfl

end Books

end RetailMarket
