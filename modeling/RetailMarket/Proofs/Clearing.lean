import RetailMarket.Proofs.EarlyWithdrawal
import RetailMarket.Proofs.Holding

/-!
# What a settlement comes to

For a pair of customer and tariff a settlement comes to two numbers: the members that the queue
takes off and those that it puts on.  They determine the members and records of the pair and the
penalties charged, whichever order the directives were queued in.
-/

namespace RetailMarket

def Directive.volume {R : Type} (key : SubscriptionKey) (directives : List (Directive R)) : Nat :=
  ((directives.filter fun directive => directive.key == key).map (·.count.natAbs)).sum

namespace Directive

variable {R : Type}

theorem volume_cons (key : SubscriptionKey) (directive : Directive R)
    (rest : List (Directive R)) :
    volume key (directive :: rest) =
      (if key = directive.key then directive.count.natAbs else 0) + volume key rest := by
  by_cases same : key = directive.key
  · simp [volume, same]
  · have other : ¬directive.key = key := fun equal => same equal.symm
    simp [volume, same, other]

theorem volume_perm {key : SubscriptionKey} {queue other : List (Directive R)}
    (reordered : queue.Perm other) : volume key queue = volume key other :=
  ((reordered.filter _).map _).sum_eq

theorem volume_eq_zero {key : SubscriptionKey} {directives : List (Directive R)}
    (absent : directives.find? (fun directive => directive.key == key) = none) :
    volume key directives = 0 := by
  rw [volume, List.filter_eq_nil_iff.2 (List.find?_eq_none.1 absent)]
  rfl

theorem volume_pos {key : SubscriptionKey} {directives : List (Directive R)}
    {directive : Directive R} (listed : directive ∈ directives) (own : directive.key = key)
    (moving : directive.count ≠ 0) : 0 < volume key directives := by
  have part : directive.count.natAbs ≤ volume key directives := by
    apply List.single_le_sum (fun _ _ => Nat.zero_le _)
    exact List.mem_map.2 ⟨directive, List.mem_filter.2 ⟨listed, by simpa using own⟩, rfl⟩
  omega

end Directive

namespace Market

variable {R : Type}

/-- The members that the queue takes off a tariff. -/
def leaving (market : Market R) (key : SubscriptionKey) : Nat :=
  Directive.volume key market.withdrawals

/-- The members that the queue puts on a tariff. -/
def joining (market : Market R) (key : SubscriptionKey) : Nat :=
  Directive.volume key market.signups

/-- Directives for one key are for tariffs of one duration, as those for a published tariff are. -/
def Uniform (market : Market R) : Prop :=
  ∀ first ∈ market.pending, ∀ second ∈ market.pending,
    first.key = second.key → first.tariff.minDuration = second.tariff.minDuration

theorem joining_pos {market : Market R} {key : SubscriptionKey} {directive : Directive R}
    (listed : directive ∈ market.signups) (own : directive.key = key) : 0 < market.joining key := by
  have positive : 0 < directive.count := by
    simpa using (List.mem_filter.1 listed).2
  exact Directive.volume_pos listed own (by omega)

theorem find?_signups_eq_none_iff {market : Market R} {key : SubscriptionKey} :
    market.signups.find? (fun directive => directive.key == key) = none ↔
      market.joining key = 0 := by
  constructor
  · exact Directive.volume_eq_zero
  · intro nobody
    refine List.find?_eq_none.2 fun directive listed own => ?_
    have some := joining_pos listed (by simpa using own)
    omega

end Market

namespace Books

variable {R : Type} [Quantity R]

/-! ## Members and records -/

theorem commitment?_settleWithdrawals {books : Books R} (faithful : books.roster.Faithful)
    (directives : List (Directive R)) (now : Instant) (key : SubscriptionKey) :
    (settleWithdrawals now books directives).1.roster.commitment? key =
      (books.roster.commitment? key).map (·.release (Directive.volume key directives)) := by
  induction directives generalizing books with
  | nil => simp [settleWithdrawals, Directive.volume]
  | cons directive rest ih =>
      have later := ih (faithful_settleWithdrawal faithful directive now)
      rw [commitment?_settleWithdrawal faithful] at later
      simp only [settleWithdrawals, later, Directive.volume_cons]
      by_cases same : key = directive.key
      · rw [if_pos same, if_pos same, Option.map_map]
        congr 1
        funext commitment
        exact Commitment.release_release _ _ _
      · rw [if_neg same, if_neg same, Nat.zero_add]

theorem commitment?_settleSignups {books : Books R} (faithful : books.roster.Faithful)
    (directives : List (Directive R)) (now : Instant) (key : SubscriptionKey) :
    (settleSignups now books directives).roster.commitment? key =
      match directives.find? (fun directive => directive.key == key) with
      | none => books.roster.commitment? key
      | some directive =>
        some (((books.roster.commitment? key).getD
          (Subscription.opened directive.customer directive.tariff).commitment).join
            (Directive.volume key directives) now) := by
  induction directives generalizing books with
  | nil => rfl
  | cons directive rest ih =>
      have later := ih (faithful_settleSignup faithful directive now)
      rw [commitment?_settleSignup faithful] at later
      rw [settleSignups, List.foldl_cons, ← settleSignups, later, List.find?_cons,
        Directive.volume_cons]
      by_cases same : key = directive.key
      · have own : (directive.key == key) = true := by simp [same]
        rw [if_pos same, if_pos same, own]
        cases found : rest.find? (fun other => other.key == key) with
        | none =>
            rw [Directive.volume_eq_zero found, Nat.add_zero]
        | some second =>
            simp only [Option.getD_some, Commitment.join_join]
      · have other : (directive.key == key) = false := by
          simpa using fun equal : directive.key = key => same equal.symm
        simp only [if_neg same, other, Nat.zero_add]

theorem commitment?_settle {books : Books R} (faithful : books.roster.Faithful) (now : Instant)
    (key : SubscriptionKey) :
    (books.settle now).1.roster.commitment? key =
      match books.market.signups.find? (fun directive => directive.key == key) with
      | none => (books.roster.commitment? key).map (·.release (books.market.leaving key))
      | some directive =>
        some ((((books.roster.commitment? key).map (·.release (books.market.leaving key))).getD
          (Subscription.opened directive.customer directive.tariff).commitment).join
            (books.market.joining key) now) := by
  let start : Books R := { books with market := books.market.cleared }
  have faithfulStart : start.roster.Faithful := faithful
  have released := commitment?_settleWithdrawals faithfulStart books.market.withdrawals now key
  have signed := commitment?_settleSignups
    (faithful_settleWithdrawals faithfulStart books.market.withdrawals now)
    books.market.signups now key
  rw [released] at signed
  exact signed

theorem forall_commitments_settle {Q : Commitment R → Prop} {books : Books R}
    (faithful : books.roster.Faithful) {now : Instant}
    (released : ∀ before ∈ books.roster.commitments,
      Q (before.release (books.market.leaving before.key)))
    (opened : ∀ directive ∈ books.market.signups,
      Q (Subscription.opened directive.customer directive.tariff).commitment)
    (joined : ∀ before, ∀ directive ∈ books.market.signups, directive.key = before.key →
      Q before → Q (before.join (books.market.joining before.key) now)) :
    ∀ commitment ∈ (books.settle now).1.roster.commitments, Q commitment := by
  intro commitment listed
  have held := (Roster.commitment?_eq_some_iff (faithful_settle faithful now)).2 ⟨listed, rfl⟩
  rw [commitment?_settle faithful] at held
  have left (before : Commitment R)
      (found : books.roster.commitment? commitment.key = some before) :
      Q (before.release (books.market.leaving commitment.key)) ∧ before.key = commitment.key := by
    obtain ⟨member, same⟩ := (Roster.commitment?_eq_some_iff faithful).1 found
    exact ⟨same ▸ released before member, same⟩
  cases signup : books.market.signups.find? (fun directive => directive.key == commitment.key) with
  | none =>
      rw [signup] at held
      obtain ⟨before, found, same⟩ := Option.map_eq_some_iff.1 held
      exact same ▸ (left before found).1
  | some directive =>
      have queued := List.mem_of_find?_eq_some signup
      have key : directive.key = commitment.key := by simpa using List.find?_some signup
      rw [signup] at held
      rw [← Option.some.inj held]
      cases found : books.roster.commitment? commitment.key with
      | none =>
          have opening : (Subscription.opened directive.customer directive.tariff).commitment.key =
              commitment.key := key
          have enters := joined _ directive queued rfl (opened directive queued)
          rwa [opening] at enters
      | some before =>
          obtain ⟨holds, same⟩ := left before found
          have kept : (before.release (books.market.leaving commitment.key)).key =
              commitment.key := same
          have enters := joined _ directive queued (key.trans kept.symm) holds
          rwa [kept] at enters

theorem members_settle_of_some {books : Books R} (faithful : books.roster.Faithful)
    {key : SubscriptionKey} {commitment : Commitment R}
    (held : books.roster.commitment? key = some commitment) (now : Instant) :
    ((books.settle now).1.roster.commitment? key).map (·.committed) =
      some (commitment.committed - min commitment.committed (books.market.leaving key) +
        books.market.joining key) := by
  have left : commitment.committed - min commitment.committed (books.market.leaving key) =
      commitment.committed - books.market.leaving key := by omega
  rw [commitment?_settle faithful, held, left]
  cases found : books.market.signups.find? (fun directive => directive.key == key) with
  | none =>
      rw [Market.find?_signups_eq_none_iff.1 found]
      rfl
  | some directive => rfl

theorem members_settle_of_none {books : Books R} (faithful : books.roster.Faithful)
    {key : SubscriptionKey} (missing : books.roster.commitment? key = none) (now : Instant) :
    ((books.settle now).1.roster.commitment? key).map (·.committed) =
      if books.market.joining key = 0 then none else some (books.market.joining key) := by
  rw [commitment?_settle faithful, missing]
  cases found : books.market.signups.find? (fun directive => directive.key == key) with
  | none =>
      rw [Market.find?_signups_eq_none_iff.1 found]
      rfl
  | some directive =>
      have own : directive.key = key := by simpa using List.find?_some found
      have some := Market.joining_pos (List.mem_of_find?_eq_some found) own
      rw [if_neg (by omega)]
      exact congrArg Option.some (Nat.zero_add _)

/-! ## Directives carried out -/

theorem isSome_settleWithdrawal {books : Books R} (faithful : books.roster.Faithful)
    (directive : Directive R) (now : Instant) (key : SubscriptionKey) :
    ((settleWithdrawal books directive now).1.roster.commitment? key).isSome =
      (books.roster.commitment? key).isSome := by
  rw [commitment?_settleWithdrawal faithful]
  split
  · exact Option.isSome_map
  · rfl

theorem found_settleWithdrawal (books : Books R) (directive : Directive R) (now : Instant) :
    (settleWithdrawal books directive now).2 =
      (books.roster.commitment? directive.key).isSome := by
  rw [Roster.commitment?, Option.isSome_map]
  cases found : books.roster.find? directive.key with
  | none =>
      rw [settleWithdrawal_of_none found]
      rfl
  | some subscription =>
      rw [settleWithdrawal_of_find? found]
      rfl

theorem applied_settleWithdrawals {books : Books R} (faithful : books.roster.Faithful)
    (directives : List (Directive R)) (now : Instant) :
    (settleWithdrawals now books directives).2 =
      directives.countP fun directive => (books.roster.commitment? directive.key).isSome := by
  induction directives generalizing books with
  | nil => rfl
  | cons directive rest ih =>
      have later := ih (faithful_settleWithdrawal faithful directive now)
      simp only [isSome_settleWithdrawal faithful] at later
      simp only [settleWithdrawals, later, found_settleWithdrawal, List.countP_cons]

theorem applied_settle {books : Books R} (faithful : books.roster.Faithful) (now : Instant) :
    (books.settle now).2 =
      books.market.signups.length + books.market.withdrawals.countP fun directive =>
        (books.roster.commitment? directive.key).isSome := by
  let start : Books R := { books with market := books.market.cleared }
  have faithfulStart : start.roster.Faithful := faithful
  have applied := applied_settleWithdrawals faithfulStart books.market.withdrawals now
  have counted : (books.settle now).2 =
      (settleWithdrawals now start books.market.withdrawals).2 + books.market.signups.length := rfl
  rw [counted, applied, Nat.add_comm]

/-! ## Penalties -/

def penalty (books : Books R) (tariff : Tariff R) : R :=
  if books.isRevoked tariff then 0 else -tariff.earlyWithdrawPayment

/-- The charges of the withdrawals posted for a key, in order. -/
def withdrawalCharges (books : Books R) (key : SubscriptionKey) : List R :=
  (books.journal.entries .withdraw key).map (·.charge)

theorem penalty_settleWithdrawal (books : Books R) (directive : Directive R) (now : Instant)
    (tariff : Tariff R) :
    (settleWithdrawal books directive now).1.penalty tariff = books.penalty tariff := by
  rw [penalty, isRevoked, (settleWithdrawal_frame books directive now).1]
  rfl

theorem withdrawalCharges_settleWithdrawal_of_ne {books : Books R} {directive : Directive R}
    (faithful : books.roster.Faithful) {key : SubscriptionKey} (different : key ≠ directive.key)
    (now : Instant) :
    (settleWithdrawal books directive now).1.withdrawalCharges key =
      books.withdrawalCharges key := by
  cases found : books.roster.find? directive.key with
  | none => rw [settleWithdrawal_of_none found]
  | some subscription =>
      rw [withdrawalCharges, entries_settleWithdrawal faithful found, if_neg different,
        List.append_nil]
      rfl

theorem withdrawalCharges_settleWithdrawal_of_some {books : Books R} {directive : Directive R}
    (faithful : books.roster.Faithful) {commitment : Commitment R}
    (held : books.roster.commitment? directive.key = some commitment) (now : Instant) :
    (settleWithdrawal books directive now).1.withdrawalCharges directive.key =
      books.withdrawalCharges directive.key ++
        [((min directive.count.natAbs commitment.committed - commitment.expiredCount now : Nat) :
          R) * books.penalty commitment.tariff] := by
  obtain ⟨subscription, found, rfl⟩ := Option.map_eq_some_iff.1 held
  rw [withdrawalCharges, entries_settleWithdrawal faithful found, if_pos rfl,
    Subscription.withdraw_postings, List.map_append]
  rfl

theorem withdrawalCharges_settleWithdrawals_of_none {books : Books R}
    (faithful : books.roster.Faithful) {key : SubscriptionKey}
    (missing : books.roster.commitment? key = none) (directives : List (Directive R))
    (now : Instant) :
    (settleWithdrawals now books directives).1.withdrawalCharges key =
      books.withdrawalCharges key := by
  induction directives generalizing books with
  | nil => rfl
  | cons directive rest ih =>
      have still : (settleWithdrawal books directive now).1.roster.commitment? key = none := by
        rw [← Option.not_isSome_iff_eq_none, isSome_settleWithdrawal faithful, missing]
        exact Bool.false_ne_true
      refine (ih (faithful_settleWithdrawal faithful directive now) still).trans ?_
      by_cases same : key = directive.key
      · subst same
        rw [settleWithdrawal_of_none (Option.map_eq_none_iff.1 missing)]
      · exact withdrawalCharges_settleWithdrawal_of_ne faithful same now

theorem withdrawalCharges_settleWithdrawals {books : Books R} (faithful : books.roster.Faithful)
    {key : SubscriptionKey} {commitment : Commitment R}
    (held : books.roster.commitment? key = some commitment)
    (chronological : ExpirationRecord.Chronological commitment.expirations)
    (directives : List (Directive R)) (now : Instant) :
    ∃ bound : List Nat,
      (settleWithdrawals now books directives).1.withdrawalCharges key =
        books.withdrawalCharges key ++
          bound.map (fun count => (count : R) * books.penalty commitment.tariff) ∧
      bound.sum = min (Directive.volume key directives) commitment.committed -
        commitment.expiredCount now := by
  induction directives generalizing books commitment with
  | nil => exact ⟨[], by simp [settleWithdrawals], by simp [Directive.volume]⟩
  | cons directive rest ih =>
      have faithfulNext := faithful_settleWithdrawal faithful directive now
      have heldNext := commitment?_settleWithdrawal faithful directive now key
      rw [Directive.volume_cons]
      by_cases same : key = directive.key
      · subst same
        have moved := Option.map_some (f := fun c : Commitment R =>
          c.release directive.count.natAbs) (a := commitment)
        rw [if_pos rfl, held, moved] at heldNext
        obtain ⟨bound, charged, total⟩ := ih faithfulNext heldNext (chronological.release _)
        refine ⟨(min directive.count.natAbs commitment.committed - commitment.expiredCount now) ::
          bound, ?_, ?_⟩
        · refine charged.trans ?_
          rw [withdrawalCharges_settleWithdrawal_of_some faithful held, penalty_settleWithdrawal,
            List.append_assoc]
          rfl
        · -- Whom the first withdrawal takes is no longer among those free to go.
          have expired : (commitment.release directive.count.natAbs).expiredCount now =
              commitment.expiredCount now - min directive.count.natAbs commitment.committed :=
            ExpirationRecord.expiredCount_release chronological now _
          have left : (commitment.release directive.count.natAbs).committed =
              commitment.committed - directive.count.natAbs := rfl
          rw [List.sum_cons, total, expired, left, if_pos rfl]
          omega
      · rw [if_neg same, held] at heldNext
        obtain ⟨bound, charged, total⟩ := ih faithfulNext heldNext chronological
        refine ⟨bound, charged.trans ?_, by rw [total, if_neg same, Nat.zero_add]⟩
        rw [withdrawalCharges_settleWithdrawal_of_ne faithful same, penalty_settleWithdrawal]

theorem withdrawalCharges_settleSignups {books : Books R} (faithful : books.roster.Faithful)
    (directives : List (Directive R)) (now : Instant) (key : SubscriptionKey) :
    (settleSignups now books directives).withdrawalCharges key = books.withdrawalCharges key := by
  induction directives generalizing books with
  | nil => rfl
  | cons directive rest ih =>
      have first : (settleSignup books directive now).withdrawalCharges key =
          books.withdrawalCharges key := by
        rw [withdrawalCharges, entries_settleSignup faithful]
        split
        · exact congrArg (List.map _) (List.append_nil _)
        · rw [List.append_nil]
          rfl
      exact (ih (faithful_settleSignup faithful directive now)).trans first

/-! ## Queues in another order -/

omit [Quantity R] in
/-- The books with the queue replaced. -/
def requeued (books : Books R) (queue : List (Directive R)) : Books R :=
  { books with market := { books.market with pending := queue } }

omit [Quantity R] in
theorem roster_requeued (books : Books R) (queue : List (Directive R)) :
    (books.requeued queue).roster = books.roster := rfl

omit [Quantity R] in
theorem faithful_requeued {books : Books R} (queue : List (Directive R))
    (faithful : books.roster.Faithful) : (books.requeued queue).roster.Faithful := faithful

section Reordering

variable {books : Books R} {queue : List (Directive R)}
  (reordered : queue.Perm books.market.pending)

omit [Quantity R] in
include reordered in
theorem leaving_requeued (key : SubscriptionKey) :
    (books.requeued queue).market.leaving key = books.market.leaving key :=
  Directive.volume_perm (reordered.filter _)

omit [Quantity R] in
include reordered in
theorem joining_requeued (key : SubscriptionKey) :
    (books.requeued queue).market.joining key = books.market.joining key :=
  Directive.volume_perm (reordered.filter _)

include reordered in
theorem applied_requeued (faithful : books.roster.Faithful) (now : Instant) :
    ((books.requeued queue).settle now).2 = (books.settle now).2 := by
  have signups : (books.requeued queue).market.signups.Perm books.market.signups :=
    reordered.filter _
  have withdrawals : (books.requeued queue).market.withdrawals.Perm books.market.withdrawals :=
    reordered.filter _
  rw [applied_settle (faithful_requeued queue faithful), applied_settle faithful, roster_requeued,
    signups.length_eq, withdrawals.countP_eq]

include reordered in
theorem members_requeued (faithful : books.roster.Faithful) (now : Instant)
    (key : SubscriptionKey) :
    (((books.requeued queue).settle now).1.roster.commitment? key).map (·.committed) =
      ((books.settle now).1.roster.commitment? key).map (·.committed) := by
  have requeued := faithful_requeued queue faithful
  cases held : books.roster.commitment? key with
  | none =>
      rw [members_settle_of_none faithful held, members_settle_of_none requeued held,
        joining_requeued reordered]
  | some commitment =>
      rw [members_settle_of_some faithful held, members_settle_of_some requeued held,
        leaving_requeued reordered, joining_requeued reordered]

include reordered in
theorem records_requeued (faithful : books.roster.Faithful) (uniform : books.market.Uniform)
    (now : Instant) (key : SubscriptionKey) :
    (((books.requeued queue).settle now).1.roster.commitment? key).map (·.expirations) =
      ((books.settle now).1.roster.commitment? key).map (·.expirations) := by
  have joining := joining_requeued reordered key
  rw [commitment?_settle faithful, commitment?_settle (faithful_requeued queue faithful),
    leaving_requeued reordered, joining, roster_requeued]
  cases first : books.market.signups.find? (fun directive => directive.key == key) with
  | none =>
      have second := Market.find?_signups_eq_none_iff.2
        (joining.trans (Market.find?_signups_eq_none_iff.1 first))
      rw [second]
  | some directive =>
      cases second : (books.requeued queue).market.signups.find?
          (fun directive => directive.key == key) with
      | none =>
          have nobody := joining.symm.trans (Market.find?_signups_eq_none_iff.1 second)
          rw [Market.find?_signups_eq_none_iff.2 nobody] at first
          cases first
      | some other =>
          -- The two queues may open the subscription with different signups, of one duration.
          have own : directive.key = key := by simpa using List.find?_some first
          have own' : other.key = key := by simpa using List.find?_some second
          have queued := (mem_signups.1 (List.mem_of_find?_eq_some first)).1
          have queued' := (mem_signups.1 (List.mem_of_find?_eq_some second)).1
          have duration : other.tariff.minDuration = directive.tariff.minDuration :=
            uniform _ (reordered.subset queued') _ queued (own'.trans own.symm)
          cases books.roster.commitment? key with
          | none =>
              simp only [Option.map_none, Option.getD_none, Option.map_some, Commitment.join,
                Tariff.contractEnd, Subscription.commitment, Subscription.opened, duration]
          | some commitment => rfl

end Reordering

/-! ## The whole settlement -/

/-- The result of a settlement from the totals of its queue: what each key holds afterwards, what
its withdrawals are charged together and how many directives count as applied.  Another order of
the queue changes none of it, nor the records. -/
theorem settle_order_free {books : Books R} (faithful : books.roster.Faithful)
    (chronological : ∀ subscription ∈ books.roster.toList,
      ExpirationRecord.Chronological subscription.expirations) (now : Instant) :
    (books.settle now).1.market.pending = [] ∧
      (∀ key,
        match books.roster.find? key with
        | some before =>
          ((books.settle now).1.roster.find? key).map (·.committed) =
              some (before.committed - min before.committed (books.market.leaving key) +
                books.market.joining key) ∧
            ∃ bound : List Nat,
              (books.settle now).1.withdrawalCharges key = books.withdrawalCharges key ++
                bound.map (fun count => (count : R) * books.penalty before.tariff) ∧
              bound.sum = min (books.market.leaving key) before.committed -
                before.expiredCount now
        | none =>
          ((books.settle now).1.roster.find? key).map (·.committed) =
              (if books.market.joining key = 0 then none else some (books.market.joining key)) ∧
            (books.settle now).1.withdrawalCharges key = books.withdrawalCharges key) ∧
      (books.settle now).2 = books.market.signups.length +
        books.market.withdrawals.countP (fun directive =>
          (books.roster.find? directive.key).isSome) ∧
      ∀ queue : List (Directive R), queue.Perm books.market.pending →
        ((books.requeued queue).settle now).2 = (books.settle now).2 ∧
          ∀ key,
            (((books.requeued queue).settle now).1.roster.find? key).map (·.committed) =
                ((books.settle now).1.roster.find? key).map (·.committed) ∧
              (books.market.Uniform →
                (((books.requeued queue).settle now).1.roster.find? key).map (·.expirations) =
                  ((books.settle now).1.roster.find? key).map (·.expirations)) := by
  have members (roster : Roster R) (key : SubscriptionKey) :
      (roster.find? key).map (·.committed) = (roster.commitment? key).map (·.committed) := by
    rw [Roster.commitment?, Option.map_map]
    rfl
  have records (roster : Roster R) (key : SubscriptionKey) :
      (roster.find? key).map (·.expirations) = (roster.commitment? key).map (·.expirations) := by
    rw [Roster.commitment?, Option.map_map]
    rfl
  have exists_iff (key : SubscriptionKey) :
      (books.roster.find? key).isSome = (books.roster.commitment? key).isSome :=
    Option.isSome_map.symm
  let start : Books R := { books with market := books.market.cleared }
  have faithfulStart : start.roster.Faithful := faithful
  have charged (key : SubscriptionKey) :
      (books.settle now).1.withdrawalCharges key =
        (settleWithdrawals now start books.market.withdrawals).1.withdrawalCharges key :=
    withdrawalCharges_settleSignups
      (faithful_settleWithdrawals faithfulStart books.market.withdrawals now) _ now key
  refine ⟨?_, fun key => ?_, ?_, fun queue reordered => ⟨?_, fun key => ⟨?_, fun uniform => ?_⟩⟩⟩
  · rw [market_settle]
    rfl
  · cases found : books.roster.find? key with
    | none =>
        have missing : books.roster.commitment? key = none := congrArg _ found
        refine ⟨(members _ key).trans (members_settle_of_none faithful missing now), ?_⟩
        rw [charged]
        exact withdrawalCharges_settleWithdrawals_of_none faithfulStart missing _ now
    | some before =>
        have held : books.roster.commitment? key = some before.commitment := congrArg _ found
        have listed := ((Roster.find?_eq_some_iff faithful).1 found).1
        refine ⟨(members _ key).trans (members_settle_of_some faithful held now), ?_⟩
        rw [charged]
        exact withdrawalCharges_settleWithdrawals faithfulStart held (chronological before listed)
          books.market.withdrawals now
  · simp only [exists_iff]
    exact applied_settle faithful now
  · exact applied_requeued reordered faithful now
  · rw [members, members]
    exact members_requeued reordered faithful now key
  · rw [records, records]
    exact records_requeued reordered faithful uniform now key

/-- Ten members are on the tariff. Four and then eight of them are to leave and three are to join,
while somebody leaves a tariff that the customer never had. -/
theorem settle_order_free_overdrawn :
    ∃ (books : Books Float) (key : SubscriptionKey),
      (books.roster.find? key).map (·.committed) = some 10 ∧ books.market.leaving key = 12 ∧
      ((books.settle ⟨1⟩).1.roster.find? key).map (·.committed) = some 3 ∧
      (books.settle ⟨1⟩).2 = 3 ∧
      (((books.requeued books.market.pending.reverse).settle ⟨1⟩).1.roster.find? key).map
        (·.expirations) = ((books.settle ⟨1⟩).1.roster.find? key).map (·.expirations) := by
  let tariff : Tariff Float :=
    { Tariff.free ⟨10⟩ "bob" .consumption with minDuration := 2, earlyWithdrawPayment := -5 }
  let other : Tariff Float := Tariff.free ⟨11⟩ "bob" .consumption
  let town : Customer := { id := ⟨1⟩, name := "town", population := 100, powerType := .consumption }
  let key : SubscriptionKey := ⟨⟨1⟩, ⟨10⟩⟩
  let pending : List (Directive Float) :=
    [⟨town, tariff, -4⟩, ⟨town, tariff, 3⟩, ⟨town, tariff, -8⟩, ⟨town, other, -1⟩]
  let ten : Subscription Float :=
    { Subscription.opened town tariff with committed := 10, expirations := [⟨⟨2⟩, 10⟩] }
  obtain ⟨roster, faithful, holds⟩ := Roster.exists_single ten
  have chronological : ∀ subscription ∈ roster.toList,
      ExpirationRecord.Chronological subscription.expirations := by
    intro subscription listed
    have own := holds subscription.key
    rw [(Roster.find?_eq_some_iff faithful).2 ⟨listed, rfl⟩] at own
    split at own
    · rw [Option.some.inj own]
      exact List.pairwise_singleton _ _
    · cases own
  have uniform : ({ pending } : Market Float).Uniform := by
    unfold Market.Uniform
    decide
  let books : Books Float := { market := { pending }, roster }
  have faithful' : books.roster.Faithful := faithful
  obtain ⟨-, keys, applied, orders⟩ := settle_order_free faithful' chronological ⟨1⟩
  have finds (other : SubscriptionKey) : books.roster.find? other = _ := holds other
  have found : books.roster.find? key = some ten := (finds key).trans (if_pos rfl)
  have own := keys key
  rw [found] at own
  refine ⟨books, key, by rw [found]; rfl, rfl, own.1, ?_,
    ((orders _ (List.reverse_perm _)).2 key).2 uniform⟩
  rw [applied]
  simp only [finds]
  rfl

end Books

end RetailMarket
