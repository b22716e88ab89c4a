import RetailMarket.Proofs.Clearing
import RetailMarket.Proofs.Population

/-!
# Members in blocks

A customer may move its members in blocks of one size only.  If the contract records of its
subscriptions are whole blocks, and so are the directives for it, a settlement leaves the records
whole blocks.  Placements and migrations order whole blocks; where there are no more members than
one block has, they are all in one record.
-/

namespace RetailMarket

theorem eq_singleton_of_blocks {block : Nat} {counts : List Nat} (positive : 0 < block)
    (blocks : ∀ count ∈ counts, 0 < count ∧ block ∣ count) (total : counts.sum = block) :
    counts = [block] := by
  cases counts with
  | nil => exact absurd positive (total ▸ lt_irrefl 0)
  | cons first rest =>
      obtain ⟨some, whole⟩ := blocks first List.mem_cons_self
      have enough : block ≤ first := Nat.le_of_dvd some whole
      rw [List.sum_cons] at total
      cases rest with
      | nil => rw [← total, List.sum_nil, Nat.add_zero]
      | cons second others =>
          have more := (blocks second (List.mem_cons_of_mem _ List.mem_cons_self)).1
          rw [List.sum_cons] at total
          omega

/-! ## Contract records -/

namespace ExpirationRecord

/-- Records of whole blocks, none of them empty. -/
def InBlocks (block : Nat) (records : List ExpirationRecord) : Prop :=
  ∀ record ∈ records, 0 < record.count ∧ block ∣ record.count

theorem InBlocks.tail {block : Nat} {record : ExpirationRecord} {rest : List ExpirationRecord}
    (blocks : InBlocks block (record :: rest)) : InBlocks block rest :=
  fun other listed => blocks other (List.mem_cons_of_mem _ listed)

theorem InBlocks.cons {block : Nat} {record : ExpirationRecord} {rest : List ExpirationRecord}
    (first : 0 < record.count ∧ block ∣ record.count) (blocks : InBlocks block rest) :
    InBlocks block (record :: rest) :=
  List.forall_mem_cons.2 ⟨first, blocks⟩

theorem InBlocks.enroll {block count : Nat} {records : List ExpirationRecord}
    (blocks : InBlocks block records) (moving : 0 < count) (whole : block ∣ count)
    (horizon : Instant) : InBlocks block (enroll horizon count records) := by
  fun_induction ExpirationRecord.enroll horizon count records with
  | case1 => exact .cons ⟨moving, whole⟩ blocks
  | case2 last same =>
      obtain ⟨some, wholeLast⟩ := blocks last List.mem_cons_self
      exact .cons ⟨Nat.add_pos_left some _, dvd_add wholeLast whole⟩ blocks.tail
  | case3 last different =>
      exact .cons (blocks last List.mem_cons_self) (.cons ⟨moving, whole⟩ blocks.tail)
  | case4 record next rest ih => exact .cons (blocks record List.mem_cons_self) (ih blocks.tail)

theorem InBlocks.release {block count : Nat} {records : List ExpirationRecord}
    (blocks : InBlocks block records) (whole : block ∣ count) :
    InBlocks block (release count records) := by
  fun_induction ExpirationRecord.release count records with
  | case1 => exact blocks
  | case2 => exact blocks
  | case3 count record rest _ fits ih =>
      exact ih blocks.tail (Nat.dvd_sub whole (blocks record List.mem_cons_self).2)
  | case4 count record rest _ splits =>
      have wholeRecord := (blocks record List.mem_cons_self).2
      exact .cons ⟨Nat.sub_pos_of_lt (Nat.lt_of_not_le splits), Nat.dvd_sub wholeRecord whole⟩
        blocks.tail

theorem InBlocks.dvd_total {block : Nat} {records : List ExpirationRecord}
    (blocks : InBlocks block records) : block ∣ total records := by
  refine List.dvd_sum fun count listed => ?_
  obtain ⟨record, member, rfl⟩ := List.mem_map.1 listed
  exact (blocks record member).2

theorem InBlocks.dvd_expiredCount {block : Nat} {records : List ExpirationRecord}
    (blocks : InBlocks block records) (now : Instant) : block ∣ expiredCount now records := by
  have expired : InBlocks block
      (records.filter fun record => decide (record.horizon ≤ now)) :=
    fun record listed => blocks record (List.mem_filter.1 listed).1
  exact expired.dvd_total

theorem InBlocks.eq_single {block : Nat} {records : List ExpirationRecord}
    (blocks : InBlocks block records) (positive : 0 < block) (whole : total records = block) :
    ∃ horizon, records = [⟨horizon, block⟩] := by
  have counts : records.map (·.count) = [block] := by
    refine eq_singleton_of_blocks positive (fun count listed => ?_) whole
    obtain ⟨record, member, rfl⟩ := List.mem_map.1 listed
    exact blocks record member
  obtain ⟨record, single, count⟩ := List.map_eq_singleton_iff.1 counts
  exact ⟨record.horizon, by rw [single, ← count]⟩

end ExpirationRecord

/-! ## Commitments -/

namespace Commitment

variable {R : Type}

structure InBlocks (block : Nat) (commitment : Commitment R) : Prop where
  recorded : ExpirationRecord.total commitment.expirations = commitment.committed
  records : ExpirationRecord.InBlocks block commitment.expirations

theorem InBlocks.dvd_committed {block : Nat} {commitment : Commitment R}
    (blocks : commitment.InBlocks block) : block ∣ commitment.committed :=
  blocks.recorded ▸ blocks.records.dvd_total

theorem InBlocks.release {block count : Nat} {commitment : Commitment R}
    (blocks : commitment.InBlocks block) (whole : block ∣ count) :
    (commitment.release count).InBlocks block := by
  have leaving : block ∣ min count commitment.committed := by
    rcases le_total count commitment.committed with most | all
    · rwa [min_eq_left most]
    · rw [min_eq_right all]
      exact blocks.dvd_committed
  refine ⟨?_, blocks.records.release leaving⟩
  simp only [Commitment.release, ExpirationRecord.total_release, blocks.recorded]
  omega

theorem InBlocks.join {block count : Nat} {commitment : Commitment R}
    (blocks : commitment.InBlocks block) (moving : 0 < count) (whole : block ∣ count)
    (now : Instant) : (commitment.join count now).InBlocks block := by
  refine ⟨?_, blocks.records.enroll moving whole _⟩
  simp only [Commitment.join, ExpirationRecord.total_enroll, blocks.recorded]

theorem inBlocks_opened [Quantity R] (customer : Customer) (tariff : Tariff R) (block : Nat) :
    (Subscription.opened customer tariff).commitment.InBlocks block :=
  ⟨rfl, fun record listed => by cases listed⟩

end Commitment

/-! ## Rosters and queues -/

def Roster.InBlocks {R : Type} (id : CustomerId) (block : Nat) (roster : Roster R) : Prop :=
  ∀ commitment ∈ roster.commitments, commitment.key.customer = id → commitment.InBlocks block

def Directive.InBlocks {R : Type} (id : CustomerId) (block : Nat)
    (directives : List (Directive R)) : Prop :=
  ∀ directive ∈ directives, directive.key.customer = id → (block : Int) ∣ directive.count

variable {R : Type} {id : CustomerId} {block : Nat}

theorem Roster.InBlocks.of_mem {roster : Roster R} (blocks : roster.InBlocks id block)
    {subscription : Subscription R} (listed : subscription ∈ roster.toList)
    (own : subscription.customer.id = id) : subscription.commitment.InBlocks block :=
  blocks _ (List.mem_map_of_mem listed) own

namespace Directive

theorem InBlocks.append {earlier later : List (Directive R)} (first : InBlocks id block earlier)
    (rest : InBlocks id block later) : InBlocks id block (earlier ++ later) :=
  fun directive listed => (List.mem_append.1 listed).elim (first directive) (rest directive)

theorem InBlocks.dvd_volume {directives : List (Directive R)}
    (blocks : InBlocks id block directives) {key : SubscriptionKey} (own : key.customer = id) :
    block ∣ volume key directives := by
  refine List.dvd_sum fun count listed => ?_
  obtain ⟨directive, member, rfl⟩ := List.mem_map.1 listed
  obtain ⟨queued, same⟩ := List.mem_filter.1 member
  rw [beq_iff_eq] at same
  exact Int.natCast_dvd.1 (blocks directive queued (same ▸ own))

end Directive

namespace Books

theorem inBlocks_settle [Quantity R] {books : Books R} (faithful : books.roster.Faithful)
    (blocks : books.roster.InBlocks id block)
    (queue : Directive.InBlocks id block books.market.pending) (now : Instant) :
    (books.settle now).1.roster.InBlocks id block := by
  refine forall_commitments_settle faithful (fun before member own => ?_)
    (fun directive _ _ => Commitment.inBlocks_opened _ _ block)
    (fun before directive queued same holds own => ?_)
  · refine (blocks before member own).release (Directive.InBlocks.dvd_volume ?_ own)
    exact fun directive queued => queue directive (mem_withdrawals.1 queued).1
  · have joining : block ∣ books.market.joining before.key :=
      Directive.InBlocks.dvd_volume
        (fun directive queued => queue directive (mem_signups.1 queued).1) own
    exact (holds own).join (Market.joining_pos queued same) joining now

theorem Queued.inBlocks {orders : List (Directive R)} {before after : Books R}
    (queued : Queued orders before after) (blocks : before.roster.InBlocks id block) :
    after.roster.InBlocks id block := by
  rw [Roster.InBlocks, queued.commitments]
  exact blocks

theorem Queued.inBlocks_settle [Quantity R] {orders : List (Directive R)} {before after : Books R}
    (queued : Queued orders before after) (faithful : before.roster.Faithful)
    (idle : before.market.pending = []) (blocks : before.roster.InBlocks id block)
    (whole : Directive.InBlocks id block orders) (now : Instant) :
    (after.settle now).1.roster.InBlocks id block := by
  refine Books.inBlocks_settle (queued.faithful faithful) (queued.inBlocks blocks) ?_ now
  rw [queued.pending idle]
  exact whole

/-! ## Placements and migrations -/

theorem inBlocks_of_placed {books : Books R} {customers : List Customer}
    {orders : List (Directive R)} (placed : List.Forall₂ (Places books) customers orders)
    (populations : ∀ customer ∈ customers, customer.id = id → block ∣ customer.population) :
    Directive.InBlocks id block orders := by
  intro directive listed own
  obtain ⟨customer, who, places⟩ := exists_of_placed placed listed
  have same : directive.key.customer = customer.id := congrArg Customer.id places.owner
  rw [places.count]
  exact Int.natCast_dvd_natCast.2 (populations customer who (same ▸ own))

theorem inBlocks_relocation {books : Books R} (blocks : books.roster.InBlocks id block)
    (now : Instant) :
    Directive.InBlocks id block (books.roster.toList.flatMap (books.relocation now)) := by
  intro directive listed own
  obtain ⟨subscription, member, moved⟩ := List.mem_flatMap.1 listed
  obtain ⟨destination, -, rfl | rfl⟩ := mem_relocation moved
  · exact (Int.natCast_dvd_natCast.2 (blocks.of_mem member own).dvd_committed).neg_right
  · exact Int.natCast_dvd_natCast.2 (blocks.of_mem member own).dvd_committed

end Books

/-! ## One block -/

theorem Roster.sum_activeOf (roster : Roster R) (id : CustomerId) :
    ((roster.activeOf id).map (·.committed)).sum = roster.committedFor id := by
  rw [activeOf, committedFor_eq, members]
  generalize roster.toList = subscriptions
  induction subscriptions with
  | nil => rfl
  | cons subscription rest ih =>
      simp only [List.filter_cons, Subscription.key] at ih ⊢
      cases own : subscription.customer.id == id with
      | false => simpa [own] using ih
      | true =>
          cases empty : subscription.isEmpty with
          | false => simpa [own, empty] using ih
          | true =>
              have nobody : subscription.committed = 0 := by
                simpa [Subscription.isEmpty] using empty
              simpa [own, empty, nobody] using ih

theorem Roster.InBlocks.exists_single {roster : Roster R} (blocks : roster.InBlocks id block)
    (positive : 0 < block) (whole : roster.committedFor id = block) :
    ∃ subscription horizon, roster.activeOf id = [subscription] ∧
      subscription.committed = block ∧ subscription.expirations = [⟨horizon, block⟩] := by
  have active (subscription : Subscription R) (listed : subscription ∈ roster.activeOf id) :
      0 < subscription.committed ∧ subscription.commitment.InBlocks block := by
    obtain ⟨member, own, peopled⟩ := mem_activeOf.1 listed
    exact ⟨peopled, blocks.of_mem member own⟩
  have counts : (roster.activeOf id).map (·.committed) = [block] := by
    refine eq_singleton_of_blocks positive (fun count listed => ?_)
      ((roster.sum_activeOf id).trans whole)
    obtain ⟨subscription, member, rfl⟩ := List.mem_map.1 listed
    exact ⟨(active subscription member).1, (active subscription member).2.dvd_committed⟩
  obtain ⟨subscription, single, everyone⟩ := List.map_eq_singleton_iff.1 counts
  have own := (active subscription (single ▸ List.mem_singleton_self subscription)).2
  obtain ⟨horizon, record⟩ := own.records.eq_single positive (own.recorded.trans everyone)
  exact ⟨subscription, horizon, single, everyone, record⟩

end RetailMarket
