import RetailMarket.Proofs.Clearing
import RetailMarket.Proofs.Migration

/-!
# Moves in flight

Members move by two directives: a withdrawal, which takes no more members than there are, and a
signup of as many as were asked for. A transfer asks only for members that have not asked to leave
yet. A migration asks for all members, also for those that are already on their way, and for all of
them again each time it is repeated; whoever is asked for twice is signed up twice.
-/

namespace RetailMarket

/-! ## Withdrawals of more than there are -/

namespace Books

variable {R : Type} [Quantity R]

def remaining (books : Books R) (keys : SubscriptionKey → Bool) (directives : List (Directive R)) :
    Nat :=
  ((books.roster.toList.filter fun s => keys s.key).map fun s =>
    s.committed - Directive.volume s.key directives).sum

omit [Quantity R] in
theorem remaining_congr {first second : Books R}
    (same : first.roster.commitments = second.roster.commitments) (keys : SubscriptionKey → Bool)
    (directives : List (Directive R)) :
    first.remaining keys directives = second.remaining keys directives := by
  have viewed (books : Books R) : books.remaining keys directives =
      ((books.roster.commitments.filter fun c => keys c.key).map fun c =>
        c.committed - Directive.volume c.key directives).sum := by
    simp only [remaining, Roster.commitments, List.filter_map, List.map_map]
    rfl
  rw [viewed, viewed, same]

theorem remaining_settleWithdrawal {books : Books R} (faithful : books.roster.Faithful)
    (keys : SubscriptionKey → Bool) (directive : Directive R) (rest : List (Directive R))
    (now : Instant) :
    (settleWithdrawal books directive now).1.remaining keys rest =
      books.remaining keys (directive :: rest) := by
  have others (subscriptions : List (Subscription R))
      (apart : ∀ s ∈ subscriptions, s.key ≠ directive.key) :
      (subscriptions.filter fun s => keys s.key).map (fun s =>
          s.committed - Directive.volume s.key (directive :: rest)) =
        (subscriptions.filter fun s => keys s.key).map fun s =>
          s.committed - Directive.volume s.key rest := by
    refine List.map_congr_left fun s listed => ?_
    rw [Directive.volume_cons, if_neg (apart s (List.mem_filter.1 listed).1), Nat.zero_add]
  cases found : books.roster.find? directive.key with
  | none =>
      rw [settleWithdrawal_of_none found, remaining, remaining,
        others _ ((Roster.find?_eq_none_iff faithful).1 found)]
  | some subscription =>
      obtain ⟨before, after, list, apart, changed⟩ := Roster.exists_split faithful found
      have own : subscription.key = directive.key :=
        ((Roster.find?_eq_some_iff faithful).1 found).2
      have earlier := others before fun s listed => apart s (List.mem_append_left _ listed)
      have later := others after fun s listed => apart s (List.mem_append_right _ listed)
      rw [settleWithdrawal_of_find? found, operate_of_find? found]
      simp only [remaining, list, changed, List.filter_append, List.map_append, List.sum_append,
        List.filter_cons, earlier, Subscription.key_release]
      cases keys subscription.key with
      | false => simp only [Bool.false_eq_true, if_false, later]
      | true =>
          have less : subscription.committed - min directive.count.natAbs subscription.committed -
              Directive.volume directive.key rest =
                subscription.committed -
                  (directive.count.natAbs + Directive.volume directive.key rest) := by omega
          simp only [if_true, List.map_cons, List.sum_cons, later, Subscription.key_release,
            Subscription.committed_release, Directive.volume_cons directive.key, own, less]

theorem members_released {books : Books R} (faithful : books.roster.Faithful)
    (keys : SubscriptionKey → Bool) (directives : List (Directive R)) (now : Instant) :
    (settleWithdrawals now books directives).1.roster.members keys =
      books.remaining keys directives := by
  induction directives generalizing books with
  | nil => simp [settleWithdrawals, Roster.members, remaining, Directive.volume]
  | cons directive rest ih =>
      exact (ih (faithful_settleWithdrawal faithful directive now)).trans
        (remaining_settleWithdrawal faithful keys directive rest now)

theorem members_settle {books : Books R} (faithful : books.roster.Faithful)
    (keys : SubscriptionKey → Bool) (now : Instant) :
    ((books.settle now).1.roster.members keys : Int) =
      books.remaining keys books.market.withdrawals +
        ((books.market.signups.filter fun directive => keys directive.key).map (·.count)).sum := by
  let start : Books R := { books with market := books.market.cleared }
  have faithfulStart : start.roster.Faithful := faithful
  have released := members_released faithfulStart keys books.market.withdrawals now
  have positive : ∀ directive ∈ books.market.signups, 0 < directive.count :=
    fun directive queued => (mem_signups.1 queued).2
  have joined := members_settleSignups
    (faithful_settleWithdrawals faithfulStart books.market.withdrawals now) positive now keys
  rw [released] at joined
  exact joined

end Books

namespace Directive

variable {R : Type} {customer : Customer} {origin destination : Tariff R} {count : Nat}

theorem withdrawal_of_pair (moving : count ≠ 0) :
    ([⟨customer, origin, -count⟩, ⟨customer, destination, count⟩] : List (Directive R)).filter
        (fun directive => decide (directive.count < 0)) = [⟨customer, origin, -count⟩] := by
  have negative : -(count : Int) < 0 := by omega
  have positive : ¬(count : Int) < 0 := by omega
  simp only [List.filter_cons, List.filter_nil, negative, positive, decide_true, decide_false,
    Bool.false_eq_true, if_true, if_false]

theorem signup_of_pair (moving : count ≠ 0) :
    ([⟨customer, origin, -count⟩, ⟨customer, destination, count⟩] : List (Directive R)).filter
        (fun directive => decide (0 < directive.count)) = [⟨customer, destination, count⟩] := by
  have negative : ¬0 < -(count : Int) := by omega
  have positive : 0 < (count : Int) := by omega
  simp only [List.filter_cons, List.filter_nil, negative, positive, decide_true, decide_false,
    Bool.false_eq_true, if_true, if_false]

end Directive

/-! ## Moves and their directives -/

/-- A transfer withdraws members from a subscription and signs them up to another tariff; a
migration directs the members of a subscription off its tariff if that is revoked. -/
inductive Move (R : Type) where
  | transfer (key : SubscriptionKey) (destination : Tariff R) (count : Nat)
  | migrate (key : SubscriptionKey)

def Move.key {R : Type} : Move R → SubscriptionKey
  | .transfer key _ _ => key
  | .migrate key => key

def Move.transfers {R : Type} (key : SubscriptionKey) : Move R → Nat
  | .transfer other _ count => if other = key then count else 0
  | .migrate _ => 0

namespace Roster

variable {R : Type}

theorem sum_single {roster : Roster R} (faithful : roster.Faithful) {key : SubscriptionKey}
    {subscription : Subscription R} (found : roster.find? key = some subscription)
    (counts : SubscriptionKey → Bool) (share : Subscription R → Nat) :
    ((roster.toList.filter fun s => counts s.key).map fun s =>
      if key = s.key then share s else 0).sum = if counts key then share subscription else 0 := by
  obtain ⟨before, after, list, apart, -⟩ := exists_split faithful found
  have own : subscription.key = key := ((find?_eq_some_iff faithful).1 found).2
  have nothing (others : List (Subscription R)) (different : ∀ s ∈ others, s.key ≠ key) :
      ((others.filter fun s => counts s.key).map fun s =>
        if key = s.key then share s else 0).sum = 0 := by
    refine List.sum_eq_zero fun amount listed => ?_
    obtain ⟨s, member, rfl⟩ := List.mem_map.1 listed
    exact if_neg (different s (List.mem_filter.1 member).1).symm
  have earlier := nothing before fun s listed => apart s (List.mem_append_left _ listed)
  have later := nothing after fun s listed => apart s (List.mem_append_right _ listed)
  rw [list, List.filter_append, List.map_append, List.sum_append, earlier, List.filter_cons, own]
  cases counts key with
  | false => simpa using later
  | true => simp [own, later]

theorem toList_single {roster : Roster R} (faithful : roster.Faithful)
    {subscription : Subscription R}
    (holds : ∀ key, roster.find? key =
      if key = subscription.key then some subscription else none) :
    roster.toList = [subscription] := by
  obtain ⟨before, after, list, apart, -⟩ :=
    exists_split faithful ((holds subscription.key).trans (if_pos rfl))
  have alone : before ++ after = [] := by
    refine List.eq_nil_iff_forall_not_mem.2 fun other listed => ?_
    have member : other ∈ roster.toList := by
      rw [list]
      simp only [List.mem_append, List.mem_cons] at listed ⊢
      exact listed.imp_right .inr
    have found := (find?_eq_some_iff faithful).2 ⟨member, rfl⟩
    rw [holds, if_neg (apart other listed)] at found
    cases found
  obtain ⟨rfl, rfl⟩ := List.append_eq_nil_iff.1 alone
  exact list

end Roster

namespace Books

variable {R : Type}

def move (books : Books R) : Instant × Move R → Books R
  | (_, .transfer key destination count) =>
    match books.roster.find? key with
    | none => books
    | some subscription =>
      (books.unsubscribe key count).direct destination subscription.customer count
  | (now, .migrate key) =>
    match books.roster.find? key with
    | none => books
    | some subscription => (books.migrate subscription now).2

def moveAll (books : Books R) (moves : List (Instant × Move R)) : Books R :=
  moves.foldl move books

/-- A transfer takes members that have not asked to leave. -/
def Affords (books : Books R) : Move R → Prop
  | .transfer key _ count =>
    ∃ subscription, books.roster.find? key = some subscription ∧
      count ≤ subscription.committed - subscription.pendingUnsubscribe
  | .migrate _ => True

def AffordsAll : Books R → List (Instant × Move R) → Prop
  | _, [] => True
  | books, next :: rest => books.Affords next.2 ∧ AffordsAll (books.move next) rest

def directives (books : Books R) : Instant × Move R → List (Directive R)
  | (_, .transfer key destination count) =>
    match books.roster.find? key with
    | none => []
    | some subscription =>
      if count = 0 then []
      else
        [⟨subscription.customer, subscription.tariff, -count⟩,
          ⟨subscription.customer, destination, count⟩]
  | (now, .migrate key) =>
    match books.roster.find? key with
    | none => []
    | some subscription => books.relocation now subscription

theorem destination?_of_commitment (books : Books R) (now : Instant) {first second : Subscription R}
    (same : first.commitment = second.commitment) :
    books.destination? now first = books.destination? now second := by
  have customer : first.customer = second.customer := congrArg Commitment.customer same
  have tariff : first.tariff = second.tariff := congrArg Commitment.tariff same
  have committed : first.committed = second.committed := congrArg Commitment.committed same
  rw [destination?, destination?, customer, tariff, committed]

theorem relocation_of_commitment (books : Books R) (now : Instant) {first second : Subscription R}
    (same : first.commitment = second.commitment) :
    books.relocation now first = books.relocation now second := by
  have customer : first.customer = second.customer := congrArg Commitment.customer same
  have tariff : first.tariff = second.tariff := congrArg Commitment.tariff same
  have committed : first.committed = second.committed := congrArg Commitment.committed same
  rw [relocation, relocation, books.destination?_of_commitment now same, customer, tariff, committed]

theorem Queued.directives {orders : List (Directive R)} {before after : Books R}
    (queued : Queued orders before after) (faithful : before.roster.Faithful) :
    after.directives = before.directives := by
  funext ⟨now, move⟩
  have held := Roster.commitment?_congr (queued.faithful faithful) faithful queued.commitments
  cases move with
  | transfer key destination count =>
      have same := held key
      simp only [Roster.commitment?] at same
      cases found : before.roster.find? key with
      | none =>
          rw [found, Option.map_none, Option.map_eq_none_iff] at same
          simp only [Books.directives, found, same]
      | some subscription =>
          rw [found, Option.map_some, Option.map_eq_some_iff] at same
          obtain ⟨marked, present, kept⟩ := same
          have customer : marked.customer = subscription.customer :=
            congrArg Commitment.customer kept
          have tariff : marked.tariff = subscription.tariff := congrArg Commitment.tariff kept
          simp only [Books.directives, found, present, customer, tariff]
  | migrate key =>
      have same := held key
      simp only [Roster.commitment?] at same
      cases found : before.roster.find? key with
      | none =>
          rw [found, Option.map_none, Option.map_eq_none_iff] at same
          simp only [Books.directives, found, same]
      | some subscription =>
          rw [found, Option.map_some, Option.map_eq_some_iff] at same
          obtain ⟨marked, present, kept⟩ := same
          simp only [Books.directives, found, present, queued.relocation]
          exact before.relocation_of_commitment now kept

theorem queued_move {books : Books R} (faithful : books.roster.Faithful)
    (small : ∀ subscription ∈ books.roster.toList, subscription.committed < 2 ^ 63)
    {move : Instant × Move R} (affords : books.Affords move.2) :
    Queued (books.directives move) books (books.move move) := by
  obtain ⟨now, transfer⟩ := move
  cases transfer with
  | transfer key destination count =>
      obtain ⟨subscription, found, enough⟩ := affords
      have bounded := small subscription ((Roster.find?_eq_some_iff faithful).1 found).1
      simp only [Books.directives, Books.move, found]
      by_cases nobody : count = 0
      · subst nobody
        simp only [Books.unsubscribe, found, direct, Market.direct]
        exact queued_mark faithful found 0
      · rw [if_neg nobody]
        exact (queued_unsubscribe faithful found (by omega) (by omega)).trans
          (queued_direct _ destination subscription.customer (by omega))
  | migrate key =>
      cases found : books.roster.find? key with
      | none =>
          simp only [Books.directives, Books.move, found]
          exact Queued.refl books
      | some subscription =>
          simp only [Books.directives, Books.move, found]
          exact queued_migrate (small subscription ((Roster.find?_eq_some_iff faithful).1 found).1)

theorem queued_moveAll {books : Books R} (faithful : books.roster.Faithful)
    (small : ∀ subscription ∈ books.roster.toList, subscription.committed < 2 ^ 63)
    {moves : List (Instant × Move R)} (affords : books.AffordsAll moves) :
    Queued (moves.flatMap books.directives) books (books.moveAll moves) := by
  induction moves generalizing books with
  | nil => exact Queued.refl books
  | cons move rest ih =>
      have first := queued_move faithful small affords.1
      have later := ih (first.faithful faithful) (first.small small) affords.2
      rw [first.directives faithful] at later
      exact first.trans later

/-! ## What moves take and bring -/

def takes (books : Books R) (subscription : Subscription R) : Instant × Move R → Nat
  | (_, .transfer _ _ count) => count
  | (now, .migrate _) =>
    if (books.destination? now subscription).isSome then subscription.committed else 0

def migrates (books : Books R) (subscription : Subscription R) : Instant × Move R → Bool
  | (_, .transfer ..) => false
  | (now, .migrate key) =>
    decide (key = subscription.key) && (books.destination? now subscription).isSome

def taken (books : Books R) (moves : List (Instant × Move R)) (subscription : Subscription R) :
    Nat :=
  (moves.map fun move =>
    if move.2.key = subscription.key then books.takes subscription move else 0).sum

theorem directives_of_find? {books : Books R} {move : Instant × Move R}
    {subscription : Subscription R} (found : books.roster.find? move.2.key = some subscription) :
    ∃ destination, books.directives move =
      if books.takes subscription move = 0 then []
      else
        [⟨subscription.customer, subscription.tariff, -(books.takes subscription move)⟩,
          ⟨subscription.customer, destination, books.takes subscription move⟩] := by
  obtain ⟨now, transfer⟩ := move
  cases transfer with
  | transfer key destination count =>
      have present : books.roster.find? key = some subscription := found
      refine ⟨destination, ?_⟩
      simp only [directives, present]
      rfl
  | migrate key =>
      have present : books.roster.find? key = some subscription := found
      have directed : books.directives (now, .migrate key) =
          books.relocation now subscription := by simp only [directives, present]
      rw [directed]
      cases leaving : books.destination? now subscription with
      | none =>
          have nobody : books.takes subscription (now, .migrate key) = 0 := by
            simp only [takes, leaving, Option.isSome_none, Bool.false_eq_true, if_false]
          exact ⟨subscription.tariff, by rw [nobody, if_pos rfl, relocation_of_none leaving]⟩
      | some destination =>
          obtain ⟨-, peopled, -⟩ := destination?_eq_some.1 leaving
          have everyone : books.takes subscription (now, .migrate key) =
              subscription.committed := by
            simp only [takes, leaving, Option.isSome_some, if_true]
          exact ⟨destination, by rw [everyone, if_neg peopled, relocation_of_some leaving]⟩

theorem directives_of_none {books : Books R} {move : Instant × Move R}
    (missing : books.roster.find? move.2.key = none) : books.directives move = [] := by
  obtain ⟨now, transfer | key⟩ := move
  all_goals
    simp only [Move.key] at missing
    simp only [directives, missing]

theorem volume_directives {books : Books R} (faithful : books.roster.Faithful)
    (move : Instant × Move R) {subscription : Subscription R}
    (listed : subscription ∈ books.roster.toList) :
    Directive.volume subscription.key
        ((books.directives move).filter fun directive => decide (directive.count < 0)) =
      if move.2.key = subscription.key then books.takes subscription move else 0 := by
  have own : books.roster.find? subscription.key = some subscription :=
    (Roster.find?_eq_some_iff faithful).2 ⟨listed, rfl⟩
  cases found : books.roster.find? move.2.key with
  | none =>
      have apart : move.2.key ≠ subscription.key := fun same => by
        rw [same, own] at found
        cases found
      rw [directives_of_none found, if_neg apart]
      rfl
  | some target =>
      obtain ⟨destination, directed⟩ := directives_of_find? found
      have key : target.key = move.2.key := ((Roster.find?_eq_some_iff faithful).1 found).2
      have same (equal : move.2.key = subscription.key) : target = subscription := by
        rw [equal, own] at found
        exact (Option.some.inj found).symm
      rw [directed]
      by_cases nobody : books.takes target move = 0
      · rw [if_pos nobody]
        split
        · rename_i equal
          rw [← same equal, nobody]
          rfl
        · rfl
      · rw [if_neg nobody, Directive.withdrawal_of_pair nobody, Directive.volume_cons]
        change (if subscription.key = target.key then _ else _) + 0 = _
        rw [key, Nat.add_zero]
        by_cases equal : move.2.key = subscription.key
        · rw [if_pos equal.symm, if_pos equal, ← same equal]
          simp
        · rw [if_neg fun other => equal other.symm, if_neg equal]

theorem volume_flatMap_directives {books : Books R} (faithful : books.roster.Faithful)
    (moves : List (Instant × Move R)) {subscription : Subscription R}
    (listed : subscription ∈ books.roster.toList) :
    Directive.volume subscription.key
        ((moves.flatMap books.directives).filter fun directive => decide (directive.count < 0)) =
      books.taken moves subscription := by
  induction moves with
  | nil => rfl
  | cons move rest ih =>
      have first := volume_directives faithful move listed
      rw [taken, List.map_cons, List.sum_cons, ← first, ← taken, ← ih]
      simp [Directive.volume, List.filter_append]

theorem joined_directives {books : Books R} (faithful : books.roster.Faithful)
    (move : Instant × Move R) (customer : CustomerId) :
    ((((books.directives move).filter fun directive => decide (0 < directive.count)).filter
        fun directive => directive.key.customer == customer).map (·.count)).sum =
      (((books.roster.toList.filter fun s => s.key.customer == customer).map fun s =>
        if move.2.key = s.key then books.takes s move else 0).sum : Nat) := by
  cases found : books.roster.find? move.2.key with
  | none =>
      have apart := (Roster.find?_eq_none_iff faithful).1 found
      have nobody : ∀ s ∈ books.roster.toList.filter fun s => s.key.customer == customer,
          (if move.2.key = s.key then books.takes s move else 0) = 0 :=
        fun s listed => if_neg (apart s (List.mem_filter.1 listed).1).symm
      rw [directives_of_none found, List.map_congr_left nobody]
      simp
  | some target =>
      obtain ⟨destination, directed⟩ := directives_of_find? found
      have single := Roster.sum_single faithful found (fun key => key.customer == customer)
        fun s => books.takes s move
      have own : move.2.key = target.key := ((Roster.find?_eq_some_iff faithful).1 found).2.symm
      rw [directed, single, own]
      by_cases nobody : books.takes target move = 0
      · simp [nobody]
      · rw [if_neg nobody, Directive.signup_of_pair nobody]
        by_cases same : target.customer.id = customer <;>
          simp [Directive.key, Subscription.key, same]

theorem joined_flatMap_directives {books : Books R} (faithful : books.roster.Faithful)
    (moves : List (Instant × Move R)) (customer : CustomerId) :
    ((((moves.flatMap books.directives).filter fun directive =>
        decide (0 < directive.count)).filter
          fun directive => directive.key.customer == customer).map (·.count)).sum =
      (((books.roster.toList.filter fun s => s.key.customer == customer).map
        (books.taken moves)).sum : Nat) := by
  induction moves with
  | nil => simp [taken, Function.comp_def]
  | cons move rest ih =>
      have first := joined_directives faithful move customer
      have split : ((books.roster.toList.filter fun s => s.key.customer == customer).map
          (books.taken (move :: rest))).sum =
            ((books.roster.toList.filter fun s => s.key.customer == customer).map fun s =>
              if move.2.key = s.key then books.takes s move else 0).sum +
            ((books.roster.toList.filter fun s => s.key.customer == customer).map
              (books.taken rest)).sum := List.sum_map_add
      rw [List.flatMap_cons, List.filter_append, List.filter_append, List.map_append,
        List.sum_append, first, ih, split, Nat.cast_add]

/-! ## Moves that overlap -/

def transferred (moves : List (Instant × Move R)) (key : SubscriptionKey) : Nat :=
  (moves.map fun move => move.2.transfers key).sum

def migrations (books : Books R) (moves : List (Instant × Move R))
    (subscription : Subscription R) : Nat :=
  moves.countP (books.migrates subscription)

/-- The members of a subscription that are moved although they are on their way already. -/
def surplus (books : Books R) (moves : List (Instant × Move R)) (subscription : Subscription R) :
    Nat :=
  match books.migrations moves subscription with
  | 0 => 0
  | repeated + 1 => transferred moves subscription.key + repeated * subscription.committed

theorem taken_eq (books : Books R) (moves : List (Instant × Move R))
    (subscription : Subscription R) :
    books.taken moves subscription =
      transferred moves subscription.key +
        books.migrations moves subscription * subscription.committed := by
  induction moves with
  | nil => simp [taken, transferred, migrations]
  | cons move rest ih =>
      have first : (if move.2.key = subscription.key then books.takes subscription move else 0) =
          move.2.transfers subscription.key +
            if books.migrates subscription move then subscription.committed else 0 := by
        obtain ⟨now, ⟨key, destination, count⟩ | key⟩ := move
        · exact (Nat.add_zero _).symm
        · by_cases own : key = subscription.key <;>
            simp [Move.key, Move.transfers, takes, migrates, own]
      rw [taken, List.map_cons, List.sum_cons, first, ← taken, ih, transferred, transferred,
        migrations, migrations, List.map_cons, List.sum_cons, List.countP_cons]
      split <;> ring

theorem find?_transfer {books : Books R} (faithful : books.roster.Faithful)
    {target : SubscriptionKey} {subscription : Subscription R}
    (found : books.roster.find? target = some subscription) (now : Instant)
    (destination : Tariff R) (count : Nat) (key : SubscriptionKey) :
    (books.move (now, .transfer target destination count)).roster.find? key =
      if key = target then
        some { subscription with pendingUnsubscribe := subscription.pendingUnsubscribe + count }
      else books.roster.find? key := by
  simp only [move, found, unsubscribe, direct]
  exact Roster.find?_modify faithful found rfl key

theorem roster_move_migrate (books : Books R) (now : Instant) (key : SubscriptionKey) :
    (books.move (now, .migrate key)).roster = books.roster := by
  simp only [move]
  split
  · rfl
  · exact roster_migrate books _ now

theorem faithful_move {books : Books R} (faithful : books.roster.Faithful)
    {move : Instant × Move R} (affords : books.Affords move.2) :
    (books.move move).roster.Faithful := by
  obtain ⟨now, ⟨target, destination, count⟩ | target⟩ := move
  · obtain ⟨subscription, found, -⟩ := affords
    simp only [Books.move, found, unsubscribe, direct]
    exact faithful.modify found rfl
  · rw [roster_move_migrate]
    exact faithful

theorem transferred_le {books : Books R} (faithful : books.roster.Faithful)
    {moves : List (Instant × Move R)} (affords : books.AffordsAll moves)
    {key : SubscriptionKey} {subscription : Subscription R}
    (found : books.roster.find? key = some subscription) :
    transferred moves key ≤ subscription.committed - subscription.pendingUnsubscribe := by
  induction moves generalizing books subscription with
  | nil => exact Nat.zero_le _
  | cons move rest ih =>
      have later := @ih _ (faithful_move faithful affords.1) affords.2
      rw [transferred, List.map_cons, List.sum_cons, ← transferred]
      obtain ⟨now, ⟨target, destination, count⟩ | target⟩ := move
      · obtain ⟨⟨origin, present, enough⟩, -⟩ := affords
        rw [find?_transfer faithful present] at later
        by_cases own : key = target
        · subst own
          rw [present] at found
          obtain rfl := Option.some.inj found
          have rest := later (if_pos rfl)
          simp only [Move.transfers, if_true] at rest ⊢
          omega
        · have rest := later ((if_neg own).trans found)
          have other : ¬target = key := fun same => own same.symm
          simpa only [Move.transfers, if_neg other, Nat.zero_add] using rest
      · rw [roster_move_migrate] at later
        simpa only [Move.transfers, Nat.zero_add] using later found

theorem surplus_eq {books : Books R} {moves : List (Instant × Move R)}
    {subscription : Subscription R}
    (enough : transferred moves subscription.key ≤ subscription.committed) :
    subscription.committed - books.taken moves subscription + books.taken moves subscription =
      subscription.committed + books.surplus moves subscription := by
  rw [taken_eq, surplus]
  cases books.migrations moves subscription with
  | zero =>
      rw [Nat.zero_mul, Nat.add_zero, Nat.add_zero]
      omega
  | succ repeated =>
      rw [Nat.succ_mul]
      simp only
      omega

theorem migrates_peopled {books : Books R} {subscription : Subscription R}
    {move : Instant × Move R} (migrates : books.migrates subscription move = true) :
    subscription.committed ≠ 0 := by
  obtain ⟨now, ⟨target, destination, count⟩ | target⟩ := move
  · cases migrates
  · obtain ⟨destination, leaving⟩ :=
      Option.isSome_iff_exists.1 (Bool.and_eq_true_iff.1 migrates).2
    exact (destination?_eq_some.1 leaving).2.1

theorem surplus_eq_zero_iff {books : Books R} {moves : List (Instant × Move R)}
    {subscription : Subscription R} :
    books.surplus moves subscription = 0 ↔
      books.migrations moves subscription = 0 ∨
        (books.migrations moves subscription = 1 ∧ transferred moves subscription.key = 0) := by
  have peopled : books.migrations moves subscription ≠ 0 → subscription.committed ≠ 0 := by
    intro moved
    obtain ⟨move, -, migrates⟩ := List.countP_pos_iff.1 (Nat.pos_of_ne_zero moved)
    exact migrates_peopled migrates
  rw [surplus]
  cases count : books.migrations moves subscription with
  | zero => simp
  | succ repeated =>
      have someone := peopled (by omega)
      simp [someone]
      omega

variable [Quantity R]

/-- What a settlement makes of moves on an empty queue. Nobody is created or lost exactly when no
subscription is migrated twice, or migrated after some of its members were transferred. -/
theorem committedFor_moves {books : Books R} (faithful : books.roster.Faithful)
    (idle : books.market.pending = [])
    (small : ∀ subscription ∈ books.roster.toList, subscription.committed < 2 ^ 63)
    {moves : List (Instant × Move R)} (affords : books.AffordsAll moves)
    (customer : CustomerId) (now : Instant) :
    let after := ((books.moveAll moves).settle now).1
    let own := books.roster.toList.filter fun s => s.customer.id == customer
    after.roster.committedFor customer =
        books.roster.committedFor customer + (own.map (books.surplus moves)).sum ∧
      (after.roster.committedFor customer = books.roster.committedFor customer ↔
        ∀ subscription ∈ own,
          books.migrations moves subscription = 0 ∨
            (books.migrations moves subscription = 1 ∧
              transferred moves subscription.key = 0)) := by
  intro after own
  have queued := queued_moveAll faithful small affords
  have pending := queued.pending idle
  have settled := members_settle (queued.faithful faithful)
    (fun key => key.customer == customer) now
  have left : (books.moveAll moves).remaining (fun key => key.customer == customer)
      (books.moveAll moves).market.withdrawals =
        (own.map fun s => s.committed - books.taken moves s).sum := by
    rw [remaining_congr queued.commitments, Market.withdrawals, pending]
    refine congrArg List.sum (List.map_congr_left fun s listed => ?_)
    rw [volume_flatMap_directives faithful moves (List.mem_filter.1 listed).1]
  have total : after.roster.committedFor customer =
      books.roster.committedFor customer + (own.map (books.surplus moves)).sum := by
    rw [left, Market.signups, pending, joined_flatMap_directives faithful] at settled
    -- Each subscription is left with what stays, and gives what it takes to the others.
    have each : (own.map fun s => s.committed - books.taken moves s).sum +
        (own.map (books.taken moves)).sum =
          (own.map (·.committed)).sum + (own.map (books.surplus moves)).sum := by
      rw [← List.sum_map_add, ← List.sum_map_add]
      refine congrArg List.sum (List.map_congr_left fun s listed => surplus_eq ?_)
      have found := (Roster.find?_eq_some_iff faithful).2 ⟨(List.mem_filter.1 listed).1, rfl⟩
      exact (transferred_le faithful affords found).trans (Nat.sub_le _ _)
    rw [← Nat.cast_add] at settled
    exact (Nat.cast_injective settled).trans each
  refine ⟨total, ?_⟩
  rw [total, Nat.add_eq_left, List.sum_eq_zero_iff]
  simp only [List.mem_map, forall_exists_index, and_imp, forall_apply_eq_imp_iff₂,
    surplus_eq_zero_iff]

/-- Six of ten members are on their way to the default tariff when all ten are migrated there. -/
theorem committedFor_moves_overlapping :
    ∃ (books : Books Float) (moves : List (Instant × Move Float)),
      books.market.pending = [] ∧ books.AffordsAll moves ∧
        books.roster.committedFor ⟨1⟩ = 10 ∧
        ((books.moveAll moves).settle ⟨0⟩).1.roster.committedFor ⟨1⟩ = 16 := by
  let base : Tariff Float := Tariff.free ⟨1⟩ "bob" .consumption
  let dead : Tariff Float := Tariff.free ⟨2⟩ "bob" .consumption
  let town : Customer := { id := ⟨1⟩, name := "town", population := 10, powerType := .consumption }
  let ten : Subscription Float :=
    { Subscription.opened town dead with committed := 10, expirations := [⟨⟨0⟩, 10⟩] }
  let moves : List (Instant × Move Float) :=
    [(⟨0⟩, .transfer ten.key base 6), (⟨0⟩, .migrate ten.key)]
  obtain ⟨roster, faithful, holds⟩ := Roster.exists_single ten
  let books : Books Float :=
    { catalogue := { listed := [Listing.ofTariff base, (Listing.ofTariff dead).revoke] }
      market := ({} : Market Float).setDefault base
      roster }
  have faithful' : books.roster.Faithful := faithful
  have alone : books.roster.toList = [ten] := Roster.toList_single faithful holds
  have found : books.roster.find? ten.key = some ten := (holds ten.key).trans (if_pos rfl)
  have small : ∀ subscription ∈ books.roster.toList, subscription.committed < 2 ^ 63 := by
    intro subscription listed
    rw [alone] at listed
    rw [List.mem_singleton.1 listed]
    decide
  have affords : books.AffordsAll moves :=
    ⟨⟨ten, found, by decide⟩, trivial, trivial⟩
  have before : books.roster.committedFor ⟨1⟩ = 10 := by
    rw [Roster.committedFor, alone]
    rfl
  have after := (committedFor_moves faithful' rfl small affords ⟨1⟩ ⟨0⟩).1
  rw [alone, before] at after
  exact ⟨books, moves, rfl, affords, before, after⟩

end Books

end RetailMarket
