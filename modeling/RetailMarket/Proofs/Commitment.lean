import RetailMarket.Proofs.Roster

/-!
# Commitments

What a subscription binds whom to: its customer, its tariff, its members and their contract
records.  Only settlements change it; usage, control and requests to leave do not.  Members are
counted over the keys that satisfy a predicate, so that one law of change covers the members of a
customer, of a tariff and of the whole market.
-/

namespace RetailMarket

theorem signed_of_lt {count : Nat} (small : count < 2 ^ 63) : signed count = count := by
  unfold signed
  apply Int.bmod_eq_of_le_mul_two <;> simp only [UInt64.size] <;> omega

theorem Instant.wrapped_of_fits {instant : Instant} (fits : instant.Fits) :
    instant.wrapped = instant :=
  congrArg Instant.mk (Int.bmod_eq_of_le_mul_two fits.1 fits.2)

theorem Tariff.contractEnd_of_fits {R : Type} {tariff : Tariff R} {now : Instant}
    (fits : (now.plus tariff.minDuration).Fits) :
    tariff.contractEnd now = now.plus tariff.minDuration := Instant.wrapped_of_fits fits

/-! ## Contract records -/

namespace ExpirationRecord

def total (records : List ExpirationRecord) : Nat := (records.map (·.count)).sum

theorem total_enroll (horizon : Instant) (count : Nat) (records : List ExpirationRecord) :
    total (enroll horizon count records) = total records + count := by
  fun_induction enroll horizon count records with
  | case1 => simp [total]
  | case2 last same => simp [total]
  | case3 last different => simp [total]
  | case4 record next rest ih =>
      simp only [total, List.map_cons, List.sum_cons] at ih ⊢
      omega

theorem total_release (count : Nat) (records : List ExpirationRecord) :
    total (release count records) = total records - count := by
  fun_induction release count records with
  | case1 => simp [total]
  | case2 => simp
  | case3 count record rest _ fits ih =>
      simp only [total, List.map_cons, List.sum_cons] at ih ⊢
      omega
  | case4 count record rest _ fits =>
      simp only [total, List.map_cons, List.sum_cons]
      omega

theorem expiredCount_le_total (now : Instant) (records : List ExpirationRecord) :
    expiredCount now records ≤ total records :=
  List.Sublist.sum_le_sum (List.filter_sublist.map _) (fun _ _ => Nat.zero_le _)

end ExpirationRecord

/-! ## The commitment of a subscription -/

structure Commitment (R : Type) where
  customer : Customer
  tariff : Tariff R
  committed : Nat
  expirations : List ExpirationRecord

def Commitment.key {R : Type} (commitment : Commitment R) : SubscriptionKey :=
  ⟨commitment.customer.id, commitment.tariff.id⟩

namespace Subscription

variable {R : Type}

def commitment (subscription : Subscription R) : Commitment R :=
  ⟨subscription.customer, subscription.tariff, subscription.committed, subscription.expirations⟩

/-- The contract records account for every member. -/
def IsRecorded (subscription : Subscription R) : Prop :=
  ExpirationRecord.total subscription.expirations = subscription.committed

theorem IsRecorded.expiredCount_le {subscription : Subscription R}
    (recorded : subscription.IsRecorded) (now : Instant) :
    subscription.expiredCount now ≤ subscription.committed :=
  (ExpirationRecord.expiredCount_le_total now _).trans_eq recorded

variable [Quantity R]

theorem isRecorded_opened (customer : Customer) (tariff : Tariff R) :
    (opened customer tariff).IsRecorded := rfl

theorem IsRecorded.subscribe {subscription : Subscription R} (recorded : subscription.IsRecorded)
    (count : Nat) (now : Instant) : (subscription.subscribe count now).1.IsRecorded := by
  have enrolled := ExpirationRecord.total_enroll (subscription.tariff.contractEnd now) count
    subscription.expirations
  rw [recorded] at enrolled
  exact enrolled

theorem IsRecorded.release {subscription : Subscription R} (recorded : subscription.IsRecorded)
    (revoked : Bool) (count : Nat) (now : Instant) :
    (subscription.release revoked count now).1.IsRecorded := by
  have released := ExpirationRecord.total_release (min count subscription.committed)
    subscription.expirations
  rw [recorded] at released
  exact released

theorem commitment_release (subscription : Subscription R) (revoked : Bool) (count : Nat)
    (now : Instant) :
    (subscription.release revoked count now).1.commitment =
      ⟨subscription.customer, subscription.tariff,
        subscription.committed - min count subscription.committed,
        ExpirationRecord.release (min count subscription.committed) subscription.expirations⟩ := by
  unfold Subscription.release
  by_cases all : count = subscription.committed <;> simp [commitment, all]

theorem committed_release (subscription : Subscription R) (revoked : Bool) (count : Nat)
    (now : Instant) :
    (subscription.release revoked count now).1.committed =
      subscription.committed - min count subscription.committed :=
  congrArg Commitment.committed (commitment_release subscription revoked count now)

theorem customer_release (subscription : Subscription R) (revoked : Bool) (count : Nat)
    (now : Instant) :
    (subscription.release revoked count now).1.customer = subscription.customer :=
  congrArg Commitment.customer (commitment_release subscription revoked count now)

theorem tariff_release (subscription : Subscription R) (revoked : Bool) (count : Nat)
    (now : Instant) : (subscription.release revoked count now).1.tariff = subscription.tariff :=
  congrArg Commitment.tariff (commitment_release subscription revoked count now)

theorem key_release (subscription : Subscription R) (revoked : Bool) (count : Nat)
    (now : Instant) : (subscription.release revoked count now).1.key = subscription.key := by
  rw [key, customer_release, tariff_release, ← key]

end Subscription

/-! ## The commitments of a roster -/

namespace Roster

variable {R : Type}

def commitments (roster : Roster R) : List (Commitment R) :=
  roster.toList.map Subscription.commitment

def members (roster : Roster R) (keys : SubscriptionKey → Bool) : Nat :=
  ((roster.toList.filter fun subscription => keys subscription.key).map (·.committed)).sum

theorem committedFor_eq (roster : Roster R) (customer : CustomerId) :
    roster.committedFor customer = roster.members fun key => key.customer == customer := rfl

theorem committed_le_members {roster : Roster R} {keys : SubscriptionKey → Bool}
    {subscription : Subscription R} (listed : subscription ∈ roster.toList)
    (counted : keys subscription.key = true) :
    subscription.committed ≤ roster.members keys := by
  apply List.single_le_sum (fun _ _ => Nat.zero_le _)
  exact List.mem_map.2 ⟨subscription, List.mem_filter.2 ⟨listed, counted⟩, rfl⟩

theorem members_modify {roster : Roster R} (faithful : roster.Faithful)
    {key : SubscriptionKey} {subscription : Subscription R}
    (found : roster.find? key = some subscription) (change : Subscription R → Subscription R)
    (kept : (change subscription).key = subscription.key) (keys : SubscriptionKey → Bool) :
    (roster.modify key change).members keys + (if keys key then subscription.committed else 0) =
      roster.members keys + if keys key then (change subscription).committed else 0 := by
  obtain ⟨before, after, list, -, changed⟩ := exists_split faithful found
  have same : subscription.key = key := ((find?_eq_some_iff faithful).1 found).2
  simp only [members, list, changed, List.filter_append, List.filter_cons, kept, same]
  cases keys key
  · simp
  · simp
    omega

theorem members_ensure [Quantity R] (roster : Roster R) (customer : Customer) (tariff : Tariff R)
    (keys : SubscriptionKey → Bool) :
    (roster.ensure customer tariff).members keys = roster.members keys := by
  rw [members, toList_ensure]
  split
  · rfl
  · have nobody : (Subscription.opened customer tariff).committed = 0 := rfl
    rw [List.filter_append, List.map_append, List.sum_append, List.filter_singleton]
    cases keys (Subscription.opened customer tariff).key <;> simp [members, nobody]

theorem commitments_modify {roster : Roster R} (faithful : roster.Faithful)
    {key : SubscriptionKey} {subscription : Subscription R}
    (found : roster.find? key = some subscription) {change : Subscription R → Subscription R}
    (kept : (change subscription).commitment = subscription.commitment) :
    (roster.modify key change).commitments = roster.commitments := by
  obtain ⟨before, after, list, -, changed⟩ := exists_split faithful found
  simp only [commitments, list, changed, List.map_append, List.map_cons, kept]

theorem members_congr {first second : Roster R} (same : first.commitments = second.commitments)
    (keys : SubscriptionKey → Bool) : first.members keys = second.members keys := by
  have viewed (roster : Roster R) : roster.members keys =
      ((roster.commitments.filter fun c => keys c.key).map
        (·.committed)).sum := by
    simp only [members, commitments, List.filter_map, List.map_map]
    rfl
  rw [viewed, viewed, same]

theorem keys_congr {first second : Roster R} (same : first.commitments = second.commitments) :
    first.toList.map Subscription.key = second.toList.map Subscription.key := by
  have viewed (roster : Roster R) : roster.toList.map Subscription.key =
      roster.commitments.map Commitment.key := by
    simp only [commitments, List.map_map]
    rfl
  rw [viewed, viewed, same]

theorem exists_of_commitments {first second : Roster R}
    (same : first.commitments = second.commitments) {subscription : Subscription R}
    (listed : subscription ∈ first.toList) :
    ∃ other ∈ second.toList, other.commitment = subscription.commitment := by
  have committed : subscription.commitment ∈ first.commitments := List.mem_map_of_mem listed
  rw [same] at committed
  exact List.mem_map.1 committed

theorem members_key {roster : Roster R} (faithful : roster.Faithful) (key : SubscriptionKey) :
    roster.members (fun other => other == key) = ((roster.find? key).map (·.committed)).getD 0 := by
  cases found : roster.find? key with
  | none =>
      have others : roster.toList.filter (fun subscription => subscription.key == key) = [] := by
        rw [List.filter_eq_nil_iff]
        intro subscription listed same
        exact (find?_eq_none_iff faithful).1 found subscription listed (by simpa using same)
      simp [members, others]
  | some subscription =>
      obtain ⟨before, after, list, different, -⟩ := exists_split faithful found
      have same : subscription.key = key := ((find?_eq_some_iff faithful).1 found).2
      have noneBefore : before.filter (fun other => other.key == key) = [] :=
        List.filter_eq_nil_iff.2 fun other listed found =>
          different other (List.mem_append_left _ listed) (by simpa using found)
      have noneAfter : after.filter (fun other => other.key == key) = [] :=
        List.filter_eq_nil_iff.2 fun other listed found =>
          different other (List.mem_append_right _ listed) (by simpa using found)
      simp [members, list, List.filter_append, noneBefore, noneAfter, same]

def Holds (roster : Roster R) (key : SubscriptionKey) (count : Nat) : Prop :=
  ∃ commitment ∈ roster.commitments, commitment.key = key ∧ count ≤ commitment.committed

theorem holds_congr {first second : Roster R} (same : first.commitments = second.commitments)
    (key : SubscriptionKey) (count : Nat) : first.Holds key count ↔ second.Holds key count := by
  rw [Holds, same, ← Holds]

theorem holds_of_mem {roster : Roster R} {subscription : Subscription R}
    (listed : subscription ∈ roster.toList) {count : Nat}
    (enough : count ≤ subscription.committed) : roster.Holds subscription.key count :=
  ⟨subscription.commitment, List.mem_map_of_mem listed, rfl, enough⟩

theorem Holds.exists_find? {roster : Roster R} (faithful : roster.Faithful)
    {key : SubscriptionKey} {count : Nat} (holds : roster.Holds key count) :
    ∃ subscription, roster.find? key = some subscription ∧ count ≤ subscription.committed := by
  obtain ⟨commitment, listed, same, enough⟩ := holds
  obtain ⟨subscription, member, rfl⟩ := List.mem_map.1 listed
  exact ⟨subscription, (find?_eq_some_iff faithful).2 ⟨member, same⟩, enough⟩

theorem holds_of_le_members {roster : Roster R} (faithful : roster.Faithful)
    {key : SubscriptionKey} {count : Nat} (positive : 0 < count)
    (enough : count ≤ roster.members fun other => other == key) : roster.Holds key count := by
  rw [members_key faithful] at enough
  cases found : roster.find? key with
  | none =>
      rw [found] at enough
      exact absurd positive (Nat.not_lt.2 enough)
  | some subscription =>
      obtain ⟨listed, rfl⟩ := (find?_eq_some_iff faithful).1 found
      rw [found] at enough
      exact holds_of_mem listed enough

end Roster

end RetailMarket
