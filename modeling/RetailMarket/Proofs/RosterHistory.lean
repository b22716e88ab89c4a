import RetailMarket.Proofs.Blocks
import RetailMarket.Proofs.Emptied
import RetailMarket.Proofs.Migration

/-!
# The history of a roster

A roster is used in whatever order: subscriptions are opened, one of them is looked up by its key
and changed, all of them are passed through and changed, and a settlement opens and changes.  However
it has been used, it answers as the list of its subscriptions would if that were searched by the ids
of customer and tariff.  The list holds one subscription for every pair that has been wanted, in the
order in which they were first wanted, and whatever is done later leaves each of them in its place.
-/

namespace RetailMarket

section EraseDups

variable {α : Type} [BEq α] [LawfulBEq α]

theorem eraseDups_eq_self {xs : List α} (apart : xs.Nodup) : xs.eraseDups = xs := by
  induction xs with
  | nil => exact List.eraseDups_nil
  | cons x rest ih =>
      obtain ⟨new, others⟩ := List.nodup_cons.1 apart
      have kept : rest.filter (fun y => !y == x) = rest := by
        refine List.filter_eq_self.2 fun y listed => ?_
        have different : y ≠ x := fun same => new (same ▸ listed)
        simpa using different
      rw [List.eraseDups_cons, kept, ih others]

theorem eraseDups_concat_of_mem {xs : List α} {x : α} (known : x ∈ xs) :
    (xs ++ [x]).eraseDups = xs.eraseDups := by
  have nothing : [x].removeAll xs = [] := by simp [List.removeAll, known]
  rw [List.eraseDups_append, nothing, List.eraseDups_nil, List.append_nil]

theorem eraseDups_concat_of_not_mem {xs : List α} {x : α} (new : x ∉ xs) :
    (xs ++ [x]).eraseDups = xs.eraseDups ++ [x] := by
  have itself : [x].removeAll xs = [x] := by simp [List.removeAll, new]
  rw [List.eraseDups_append, itself, eraseDups_eq_self (List.nodup_singleton x)]

end EraseDups

/-! ## What belongs together -/

namespace Subscription

variable {R : Type}

def subject (subscription : Subscription R) : Customer × Tariff R :=
  (subscription.customer, subscription.tariff)

theorem subject_of_commitment {first second : Subscription R}
    (same : first.commitment = second.commitment) : first.subject = second.subject :=
  congrArg (fun commitment : Commitment R => (commitment.customer, commitment.tariff)) same

variable [Quantity R]

theorem subject_release (subscription : Subscription R) (revoked : Bool) (count : Nat)
    (now : Instant) : (subscription.release revoked count now).1.subject = subscription.subject :=
  Prod.ext (customer_release subscription revoked count now)
    (tariff_release subscription revoked count now)

theorem subject_perform (operation : Operation R) (now : Instant) (subscription : Subscription R) :
    (operation.perform now subscription).subject = subscription.subject := by
  cases operation with
  | turnOver change =>
      cases change with
      | joining => rfl
      | leaving revoked count => exact subject_release subscription revoked count now
  | handle handling => exact subject_of_commitment (handling.commitment_perform now subscription)
  | ask | setCapacity => rfl

theorem subject_operated (subscription : Subscription R)
    (operations : List (Instant × Operation R)) :
    (subscription.operated operations).subject = subscription.subject := by
  induction operations generalizing subscription with
  | nil => rfl
  | cons call rest ih => exact (ih _).trans (subject_perform call.2 call.1 subscription)

end Subscription

/-! ## Searching the list -/

namespace Roster

variable {R : Type}

/-- A roster answers as the list of its subscriptions does when that is searched. -/
structure Searches [Quantity R] (roster : Roster R) : Prop where
  index : ∀ (key : SubscriptionKey) (position : Nat), roster.index[key]? = some position ↔
    ∃ s, roster.subscriptions[position]? = some s ∧ s.key = key
  find : ∀ (customer : CustomerId) (tariff : TariffId), roster.find? ⟨customer, tariff⟩ =
    roster.toList.find? fun s => s.customer.id == customer && s.tariff.id == tariff
  change : ∀ (customer : CustomerId) (tariff : TariffId) (change : Subscription R → Subscription R),
    (roster.modify ⟨customer, tariff⟩ change).toList = roster.toList.map fun s =>
      if s.customer.id = customer ∧ s.tariff.id = tariff then change s else s
  opened : ∀ (customer : Customer) (tariff : Tariff R),
    (roster.ensure customer tariff).find? ⟨customer.id, tariff.id⟩ =
      some ((roster.find? ⟨customer.id, tariff.id⟩).getD (Subscription.opened customer tariff))
  active : ∀ customer : CustomerId, (roster.activeOf customer).Sublist roster.toList ∧
    ∀ s, s ∈ roster.activeOf customer ↔
      s ∈ roster.toList ∧ s.customer.id = customer ∧ 0 < s.committed
  committed : ∀ customer : CustomerId,
    roster.committedFor customer = ((roster.activeOf customer).map (·.committed)).sum

theorem Faithful.searches [Quantity R] {roster : Roster R} (faithful : roster.Faithful) :
    roster.Searches where
  index key position := by
    rw [faithful, toList, List.getElem?_map, Array.getElem?_toList, Option.map_eq_some_iff]
  find customer tariff := by
    rw [find?_eq_find? faithful]
    refine congrArg (List.find? · roster.toList) (funext fun s => ?_)
    rw [Bool.eq_iff_iff, beq_iff_eq, Bool.and_eq_true, beq_iff_eq, beq_iff_eq, Subscription.key,
      SubscriptionKey.mk.injEq]
  change customer tariff change := by
    simp only [toList_modify faithful, Subscription.key, SubscriptionKey.mk.injEq]
  opened customer tariff := find?_ensure faithful customer tariff
  active customer := ⟨List.filter_sublist, fun _ => mem_activeOf⟩
  committed customer := (sum_activeOf roster customer).symm

/-! ## Continuing a roster -/

/-- A roster has been made of another by wanting subscriptions: those of the other are where they
were, and of those wanted the new ones have been added in order. -/
structure Continues (start : Roster R) (wanted : List SubscriptionKey) (roster : Roster R) :
    Prop where
  faithful : roster.Faithful
  kept : start.toList.map Subscription.subject <+: roster.toList.map Subscription.subject
  keys : roster.toList.map Subscription.key =
    (start.toList.map Subscription.key ++ wanted).eraseDups

theorem Faithful.continues {start : Roster R} (faithful : start.Faithful) :
    start.Continues [] start where
  faithful := faithful
  kept := List.prefix_rfl
  keys := by rw [List.append_nil, eraseDups_eq_self faithful.nodup]

variable {start : Roster R} {wanted : List SubscriptionKey} {roster : Roster R}

theorem Continues.of_subjects (continues : start.Continues wanted roster) {changed : Roster R}
    (index : changed.index = roster.index)
    (subjects : changed.toList.map Subscription.subject = roster.toList.map Subscription.subject) :
    start.Continues wanted changed := by
  have keys : changed.toList.map Subscription.key = roster.toList.map Subscription.key := by
    have viewed (roster : Roster R) : roster.toList.map Subscription.key =
        (roster.toList.map Subscription.subject).map fun subject =>
          ⟨subject.1.id, subject.2.id⟩ := by
      rw [List.map_map]
      rfl
    rw [viewed, viewed, subjects]
  exact ⟨continues.faithful.of_keys index keys, subjects ▸ continues.kept,
    keys.trans continues.keys⟩

theorem Continues.modify (continues : start.Continues wanted roster) (key : SubscriptionKey)
    {change : Subscription R → Subscription R}
    (kept : ∀ s, roster.find? key = some s → (change s).subject = s.subject) :
    start.Continues wanted (roster.modify key change) := by
  refine continues.of_subjects ?_ ?_
  · unfold Roster.modify
    split <;> rfl
  · rw [toList_modify continues.faithful, List.map_map]
    refine List.map_congr_left fun s listed => ?_
    rw [Function.comp_apply]
    split
    -- Only the subscription that is found has the key.
    next own => exact kept s ((find?_eq_some_iff continues.faithful).2 ⟨listed, own⟩)
    next => rfl

theorem Continues.mapAccum (continues : start.Continues wanted roster) {σ : Type}
    {step : σ → Subscription R → σ × Subscription R}
    (kept : ∀ state s, (step state s).2.subject = s.subject) (state : σ) :
    start.Continues wanted (roster.mapAccum step state).2 := by
  rw [mapAccum_eq]
  exact continues.of_subjects rfl (map_threadMap kept state roster.toList)

theorem Continues.append_nil (continues : start.Continues wanted roster) :
    start.Continues (wanted ++ []) roster := by rwa [List.append_nil]

variable [Quantity R]

theorem Continues.ensure (continues : start.Continues wanted roster) (customer : Customer)
    (tariff : Tariff R) :
    start.Continues (wanted ++ [⟨customer.id, tariff.id⟩]) (roster.ensure customer tariff) := by
  have faithful := continues.faithful.ensure customer tariff
  -- What is in the index is what has been wanted before.
  have listed (key : SubscriptionKey) : key ∈ roster.toList.map Subscription.key ↔
      key ∈ start.toList.map Subscription.key ++ wanted := by
    rw [continues.keys, List.mem_eraseDups]
  have present : roster.index.contains ⟨customer.id, tariff.id⟩ = true ↔
      ∃ s, roster.find? ⟨customer.id, tariff.id⟩ = some s := contains_iff continues.faithful
  have enlarged := toList_ensure roster customer tariff
  by_cases known : roster.index.contains ⟨customer.id, tariff.id⟩ = true
  · rw [if_pos known] at enlarged
    obtain ⟨s, found⟩ := present.1 known
    obtain ⟨member, own⟩ := (find?_eq_some_iff continues.faithful).1 found
    have wantedBefore := (listed _).1 (List.mem_map.2 ⟨s, member, own⟩)
    refine ⟨faithful, enlarged ▸ continues.kept, ?_⟩
    rw [enlarged, continues.keys, ← List.append_assoc, eraseDups_concat_of_mem wantedBefore]
  · rw [if_neg known] at enlarged
    have new : ⟨customer.id, tariff.id⟩ ∉ start.toList.map Subscription.key ++ wanted := by
      intro wantedBefore
      obtain ⟨s, member, own⟩ := List.mem_map.1 ((listed _).2 wantedBefore)
      exact known (present.2 ⟨s, (find?_eq_some_iff continues.faithful).2 ⟨member, own⟩⟩)
    refine ⟨faithful, ?_, ?_⟩
    · rw [enlarged, List.map_append]
      exact continues.kept.trans (List.prefix_append _ _)
    · rw [enlarged, List.map_append, continues.keys, ← List.append_assoc,
        eraseDups_concat_of_not_mem new]
      rfl

end Roster

/-! ## Settlements -/

namespace Books

variable {R : Type} [Quantity R] {start : Roster R} {wanted : List SubscriptionKey}

omit [Quantity R] in
theorem continues_operate {books : Books R} (continues : start.Continues wanted books.roster)
    (key : SubscriptionKey) {operation : Subscription R → Subscription R × List (Posting R)}
    (kept : ∀ s, (operation s).1.subject = s.subject) :
    start.Continues wanted (books.operate key operation).roster := by
  cases found : books.roster.find? key with
  | none =>
      simp only [operate, found]
      exact continues
  | some subscription =>
      rw [operate_of_find? found]
      refine continues.modify key fun s same => ?_
      rw [found, Option.some.injEq] at same
      exact same ▸ kept subscription

theorem continues_settleWithdrawals {books : Books R}
    (continues : start.Continues wanted books.roster) (directives : List (Directive R))
    (now : Instant) :
    start.Continues wanted (settleWithdrawals now books directives).1.roster := by
  induction directives generalizing books with
  | nil => exact continues
  | cons directive rest ih =>
      have next : start.Continues wanted (settleWithdrawal books directive now).1.roster := by
        cases found : books.roster.find? directive.key with
        | none =>
            rw [settleWithdrawal_of_none found]
            exact continues
        | some subscription =>
            rw [settleWithdrawal_of_find? found]
            exact continues_operate continues _ fun s => s.subject_release _ _ _
      exact ih next

theorem continues_settleSignups {books : Books R}
    (continues : start.Continues wanted books.roster) (directives : List (Directive R))
    (now : Instant) :
    start.Continues (wanted ++ directives.map Directive.key)
      (settleSignups now books directives).roster := by
  induction directives generalizing books wanted with
  | nil => simpa [settleSignups] using continues
  | cons directive rest ih =>
      rw [List.map_cons, ← List.singleton_append, ← List.append_assoc]
      let opened : Books R :=
        { books with roster := books.roster.ensure directive.customer directive.tariff }
      have ready : start.Continues (wanted ++ [directive.key]) opened.roster :=
        continues.ensure directive.customer directive.tariff
      exact ih (continues_operate ready directive.key fun _ => rfl)

theorem continues_settle {books : Books R} (continues : start.Continues wanted books.roster)
    (now : Instant) :
    start.Continues (wanted ++ books.market.signups.map Directive.key)
      (books.settle now).1.roster := by
  let cleared : Books R := { books with market := books.market.cleared }
  have ready : start.Continues wanted cleared.roster := continues
  exact continues_settleSignups (continues_settleWithdrawals ready _ now) _ now

end Books

/-! ## Uses -/

/-- What a roster can be used for.  A subscription is wanted, one is found by its key and operated,
each one is operated as is due for it, or a request is served, of which a settlement is one. -/
inductive RosterUse (R : Type) where
  | want (customer : Customer) (tariff : Tariff R)
  | operate (key : SubscriptionKey) (operations : List (Instant × Operation R))
  | operateEach (due : Subscription R → List (Instant × Operation R))
  | request (now : Instant) (request : Request R)

namespace Books

variable {R : Type} [Quantity R]

def use (books : Books R) : RosterUse R → Books R
  | .want customer tariff => { books with roster := books.roster.ensure customer tariff }
  | .operate key operations =>
    { books with roster := books.roster.modify key fun s => s.operated operations }
  | .operateEach due =>
    let operateNext (_ : Unit) (s : Subscription R) := ((), s.operated (due s))
    { books with roster := (books.roster.mapAccum operateNext ()).2 }
  | .request now request => books.serve (now, request)

def afterUses (books : Books R) (uses : List (RosterUse R)) : Books R := uses.foldl use books

/-- The keys for which a use opens a subscription if there is none. -/
def wantedBy (books : Books R) : RosterUse R → List SubscriptionKey
  | .want customer tariff => [⟨customer.id, tariff.id⟩]
  | .request _ (.act .settle) => books.market.signups.map Directive.key
  | _ => []

def wanted : Books R → List (RosterUse R) → List SubscriptionKey
  | _, [] => []
  | books, first :: rest => books.wantedBy first ++ (books.use first).wanted rest

variable {start : Roster R} {wantedBefore : List SubscriptionKey}

theorem continues_serve {books : Books R} (continues : start.Continues wantedBefore books.roster)
    (now : Instant) (request : Request R) :
    start.Continues (wantedBefore ++ books.wantedBy (.request now request))
      (books.serve (now, request)).roster := by
  cases request with
  | act action =>
      cases action with
      | settle => exact continues_settle continues now
      | direct | arrange => exact continues.append_nil
      | migrate key =>
          have same : (books.act (now, .migrate key)).roster = books.roster := by
            simp only [act]
            split
            · rfl
            · exact roster_migrate _ _ _
          exact (same ▸ continues).append_nil
      | unsubscribe key count =>
          have next : start.Continues wantedBefore (books.unsubscribe key count).roster := by
            unfold unsubscribe
            split
            · exact continues
            · exact continues.modify key fun _ _ => rfl
          exact next.append_nil
      | handle key handling =>
          have next : start.Continues wantedBefore
              (books.operate key (handling.perform now)).roster :=
            continues_operate continues key fun s =>
              Subscription.subject_of_commitment (handling.commitment_perform now s)
          exact next.append_nil
  | setCapacity key perMember =>
      exact (continues_operate continues key fun _ => rfl).append_nil

theorem continues_use {books : Books R} (continues : start.Continues wantedBefore books.roster)
    (next : RosterUse R) :
    start.Continues (wantedBefore ++ books.wantedBy next) (books.use next).roster := by
  cases next with
  | want customer tariff => exact continues.ensure customer tariff
  | operate key operations =>
      exact (continues.modify key fun s _ => s.subject_operated operations).append_nil
  | operateEach due =>
      have kept (_ : Unit) (s : Subscription R) :
          (((), s.operated (due s)) : Unit × Subscription R).2.subject = s.subject :=
        s.subject_operated (due s)
      exact (continues.mapAccum kept ()).append_nil
  | request now request => exact continues_serve continues now request

theorem continues_afterUses {books : Books R}
    (continues : start.Continues wantedBefore books.roster) (uses : List (RosterUse R)) :
    start.Continues (wantedBefore ++ books.wanted uses) (books.afterUses uses).roster := by
  induction uses generalizing books wantedBefore with
  | nil =>
      rw [wanted, List.append_nil]
      exact continues
  | cons first rest ih =>
      rw [wanted, ← List.append_assoc]
      exact ih (continues_use continues first)

/-- However a new roster is used: it answers as a search of its subscriptions does.  They are one
for every key that has been wanted, in the order of the first time, and each stays where it is for
its customer and tariff, whatever is done later. -/
theorem roster_is_faithful_map (catalogue : Catalogue R) (market : Market R) (journal : Journal R)
    (uses later : List (RosterUse R)) :
    let start : Books R := { catalogue, market, journal }
    let roster := (start.afterUses uses).roster
    roster.Searches ∧ (roster.toList.map Subscription.key).Nodup ∧
      roster.toList.map Subscription.key = (start.wanted uses).eraseDups ∧
      roster.toList.map Subscription.subject <+:
        (start.afterUses (uses ++ later)).roster.toList.map Subscription.subject := by
  intro start roster
  have new : start.roster.Continues [] start.roster := Roster.faithful_empty.continues
  have continues : start.roster.Continues (start.wanted uses) roster := continues_afterUses new uses
  -- What is done later starts from the roster as it is by then.
  have again : roster.Continues [] (start.afterUses uses).roster := continues.faithful.continues
  have onward := continues_afterUses again later
  refine ⟨continues.faithful.searches, continues.faithful.nodup, continues.keys, ?_⟩
  rw [afterUses, List.foldl_append]
  exact onward.kept

end Books

end RetailMarket
