import RetailMarket.Proofs.Chronicle

/-!
# Recent offers

A search walks every broker's queue from the newest tariff back.  It finds a listed tariff exactly
if that can be subscribed to and used, and fewer than the depth of its broker's later tariffs of the
same power type can be subscribed to.  What it finds is in order of broker, newest first.
-/

namespace RetailMarket

namespace BrokerQueue

theorem filter_flatMap_search {α : Type} {queues : List BrokerQueue} (ascending : Ascending queues)
    {brokerOf : α → String} {search : List TariffId → List α} (nothing : search [] = [])
    (own : ∀ queue ∈ queues, ∀ found ∈ search queue.ids, brokerOf found = queue.broker)
    (broker : String) :
    (queues.flatMap fun queue => search queue.ids).filter (fun found => brokerOf found = broker) =
      search (idsOf queues broker) := by
  induction queues with
  | nil => exact nothing.symm
  | cons queue queues ih =>
      obtain ⟨first, later⟩ := List.pairwise_cons.1 ascending
      obtain ⟨ownFirst, ownLater⟩ := List.forall_mem_cons.1 own
      rw [List.flatMap_cons, List.filter_append]
      by_cases same : queue.broker = broker
      · have all : (search queue.ids).filter (fun found => brokerOf found = broker) =
            search queue.ids :=
          List.filter_eq_self.2 fun found listed =>
            decide_eq_true ((ownFirst found listed).trans same)
        have none : (queues.flatMap fun queue => search queue.ids).filter
            (fun found => brokerOf found = broker) = [] := by
          refine List.filter_eq_nil_iff.2 fun found listed here => ?_
          obtain ⟨other, member, among⟩ := List.mem_flatMap.1 listed
          have apart := first other.broker (List.mem_map_of_mem member)
          rw [decide_eq_true_eq, ownLater other member found among] at here
          exact apart.ne (same.trans here.symm)
        rw [all, none, List.append_nil, ← same, ascending.idsOf_broker List.mem_cons_self]
      · have none : (search queue.ids).filter (fun found => brokerOf found = broker) = [] := by
          refine List.filter_eq_nil_iff.2 fun found listed here => same ?_
          rw [← ownFirst found listed]
          exact of_decide_eq_true here
        rw [none, List.nil_append, ih later ownLater, idsOf_cons, if_neg same, List.nil_append]

end BrokerQueue

namespace Catalogue

variable {R : Type}

/-! ## One queue -/

section Queue

variable {catalogue : Catalogue R} {depth : Nat} {customer : PowerType} {now : Instant}

/-- A tariff of the power type that takes up a place in a search. -/
def competes (now : Instant) (kind : PowerType) (listing : Listing R) : Bool :=
  listing.isSubscribable now && decide (listing.tariff.powerType = kind)

theorem takeRecent_cons {listing : Listing R} (found : catalogue.find? listing.id = some listing)
    (taken : PowerType → Nat) (ids : List TariffId) :
    catalogue.takeRecent depth customer now taken (listing.id :: ids) =
      if listing.isSubscribable now = true ∧ customer.canUse listing.tariff.powerType = true ∧
          taken listing.tariff.powerType < depth then
        listing.tariff :: catalogue.takeRecent depth customer now
          (fun p => if p = listing.tariff.powerType then taken listing.tariff.powerType + 1
            else taken p) ids
      else catalogue.takeRecent depth customer now taken ids := by
  simp only [takeRecent, found, Bool.and_eq_true, decide_eq_true_eq, and_assoc]

theorem takeRecent_sublist {shelf : List (Listing R)}
    (found : ∀ listing ∈ shelf, catalogue.find? listing.id = some listing)
    (taken : PowerType → Nat) :
    (catalogue.takeRecent depth customer now taken (shelf.map Listing.id)).Sublist
      (shelf.map Listing.tariff) := by
  induction shelf generalizing taken with
  | nil => exact List.Sublist.refl _
  | cons listing shelf ih =>
      obtain ⟨here, later⟩ := List.forall_mem_cons.1 found
      rw [List.map_cons, List.map_cons, takeRecent_cons here]
      split
      · exact (ih later _).cons_cons _
      · exact (ih later _).cons _

theorem mem_takeRecent_iff {newer older : List (Listing R)} {listing : Listing R}
    (found : ∀ other ∈ newer ++ listing :: older, catalogue.find? other.id = some other)
    (distinct : ((newer ++ listing :: older).map Listing.id).Nodup) (taken : PowerType → Nat) :
    listing.tariff ∈ catalogue.takeRecent depth customer now taken
        ((newer ++ listing :: older).map Listing.id) ↔
      listing.isSubscribable now = true ∧ customer.canUse listing.tariff.powerType = true ∧
        taken listing.tariff.powerType +
          newer.countP (competes now listing.tariff.powerType) < depth := by
  induction newer generalizing taken with
  | nil =>
      obtain ⟨here, later⟩ := List.forall_mem_cons.1 found
      have absent (taken : PowerType → Nat) : listing.tariff ∉
          catalogue.takeRecent depth customer now taken (older.map Listing.id) := by
        intro again
        obtain ⟨other, member, same⟩ :=
          List.mem_map.1 ((takeRecent_sublist later taken).subset again)
        exact (List.nodup_cons.1 distinct).1
          (List.mem_map.2 ⟨other, member, congrArg Tariff.id same⟩)
      rw [List.nil_append, List.map_cons, takeRecent_cons here, List.countP_nil, Nat.add_zero]
      split
      next taken => exact iff_of_true List.mem_cons_self taken
      next refused => exact iff_of_false (absent taken) refused
  | cons first newer ih =>
      obtain ⟨here, later⟩ := List.forall_mem_cons.1 found
      obtain ⟨fresh, distinctLater⟩ := List.nodup_cons.1 distinct
      have other : listing.tariff ≠ first.tariff := by
        intro same
        refine fresh (List.mem_map.2 ⟨listing, ?_, congrArg Tariff.id same⟩)
        exact List.mem_append_right _ List.mem_cons_self
      have step := fun taken => ih later distinctLater taken
      rw [List.cons_append, List.map_cons, takeRecent_cons here, List.countP_cons]
      split
      next accepted =>
        rw [List.mem_cons, or_iff_right other, step]
        refine and_congr_right fun _ => and_congr_right fun _ => ?_
        by_cases same : first.tariff.powerType = listing.tariff.powerType
        · rw [if_pos same.symm, same, competes, accepted.1, decide_eq_true same, Bool.and_self,
            if_pos rfl]
          omega
        · rw [if_neg (Ne.symm same), competes, decide_eq_false same, Bool.and_false,
            if_neg Bool.false_ne_true, Nat.add_zero]
      next refused =>
        rw [step]
        refine and_congr_right fun _ => and_congr_right fun usable => ?_
        by_cases rival : competes now listing.tariff.powerType first = true
        · -- A competitor that is refused has found no place, nor is there one for a later one.
          obtain ⟨subscribable, same⟩ := (Bool.and_eq_true _ _).mp rival
          have same := of_decide_eq_true same
          have full : ¬ taken listing.tariff.powerType < depth := fun left =>
            refused ⟨subscribable, same.symm ▸ usable, same.symm ▸ left⟩
          rw [if_pos rival]
          omega
        · rw [if_neg rival, Nat.add_zero]

end Queue

/-! ## All queues -/

/-- The listed tariffs of a broker, newest first. -/
def shelf (catalogue : Catalogue R) (broker : String) : List (Listing R) :=
  (catalogue.listed.filter fun listing => listing.tariff.broker = broker).reverse

theorem mem_shelf {catalogue : Catalogue R} {broker : String} {listing : Listing R} :
    listing ∈ catalogue.shelf broker ↔
      listing ∈ catalogue.listed ∧ listing.tariff.broker = broker := by
  simp [shelf]

theorem shelf_split {catalogue : Catalogue R} {place : Nat} {listing : Listing R}
    (entered : catalogue.listed[place]? = some listing) :
    ∃ older, catalogue.shelf listing.tariff.broker =
      ((catalogue.listed.drop (place + 1)).filter fun later =>
        later.tariff.broker = listing.tariff.broker).reverse ++ listing :: older := by
  have split : catalogue.listed = catalogue.listed.take place ++
      listing :: catalogue.listed.drop (place + 1) := by
    obtain ⟨bound, same⟩ := List.getElem?_eq_some_iff.1 entered
    rw [← same, ← List.drop_eq_getElem_cons bound, List.take_append_drop]
  refine ⟨((catalogue.listed.take place).filter fun earlier =>
    earlier.tariff.broker = listing.tariff.broker).reverse, ?_⟩
  conv_lhs => rw [shelf, split]
  rw [List.filter_append, List.filter_cons_of_pos (by simp), List.reverse_append,
    List.reverse_cons, List.append_assoc, List.singleton_append]

namespace History

variable {history : History R} (kept : history.Kept)

include kept

theorem Kept.idsOf_queues (broker : String) :
    BrokerQueue.idsOf history.catalogue.queues broker =
      (history.catalogue.shelf broker).map Listing.id := by
  have tariffs := congrArg (List.filter fun tariff => tariff.broker = broker) kept.tariffs
  rw [List.filter_map, List.filter_map] at tariffs
  have ids := congrArg (List.map Tariff.id) tariffs
  rw [List.map_map, List.map_map] at ids
  rw [kept.shelved, shelf, List.map_reverse]
  exact congrArg List.reverse ids.symm

theorem Kept.find?_of_mem_shelf (broker : String) :
    ∀ listing ∈ history.catalogue.shelf broker,
      history.catalogue.find? listing.id = some listing :=
  fun _ shelved => kept.wellFormed.find?_of_mem (mem_shelf.1 shelved).1

section Taken

variable (depth : Nat) (customer : PowerType) (now : Instant) {queue : BrokerQueue}
  (listed : queue ∈ history.catalogue.queues)

include listed

theorem Kept.ids_queue : queue.ids = (history.catalogue.shelf queue.broker).map Listing.id := by
  rw [← kept.idsOf_queues, kept.ascending.idsOf_broker listed]

theorem Kept.taken_sublist :
    (history.catalogue.takeRecent depth customer now (fun _ => 0) queue.ids).Sublist
      ((history.catalogue.shelf queue.broker).map Listing.tariff) := by
  rw [kept.ids_queue listed]
  exact takeRecent_sublist (kept.find?_of_mem_shelf _) _

theorem Kept.ids_taken_sublist :
    ((history.catalogue.takeRecent depth customer now (fun _ => 0) queue.ids).map
      Tariff.id).Sublist queue.ids := by
  have taken := (kept.taken_sublist depth customer now listed).map Tariff.id
  rw [List.map_map] at taken
  conv_rhs => rw [kept.ids_queue listed]
  exact taken

theorem Kept.broker_of_taken : ∀ tariff ∈
    history.catalogue.takeRecent depth customer now (fun _ => 0) queue.ids,
    tariff.broker = queue.broker := by
  intro tariff taken
  obtain ⟨listing, shelved, rfl⟩ :=
    List.mem_map.1 ((kept.taken_sublist depth customer now listed).subset taken)
  exact (mem_shelf.1 shelved).2

end Taken

theorem Kept.nodup_recentOffers (depth : Nat) (customer : PowerType) (now : Instant) :
    ((history.catalogue.recentOffers depth customer now).map Tariff.id).Nodup := by
  have distinct : (history.catalogue.queues.flatMap BrokerQueue.ids).Nodup :=
    kept.queued.nodup_iff.2 (kept.ids_listed ▸ kept.wellFormed.nodup)
  rw [recentOffers, List.map_flatMap]
  exact distinct.sublist (List.Sublist.flatMap_right _ fun _ listed =>
    kept.ids_taken_sublist depth customer now listed)

theorem Kept.ascending_recentOffers (depth : Nat) (customer : PowerType) (now : Instant) :
    ((history.catalogue.recentOffers depth customer now).map Tariff.broker).Pairwise
      (· ≤ ·) := by
  rw [List.pairwise_map, recentOffers, List.pairwise_flatMap]
  constructor
  · intro queue listed
    have own := kept.broker_of_taken depth customer now listed
    refine List.pairwise_of_forall_mem_list fun first member second among => ?_
    rw [own first member, own second among]
  · refine (List.pairwise_map.1 kept.ascending).imp_of_mem ?_
    intro earlier later listed follows before first member second among
    rw [kept.broker_of_taken depth customer now listed first member,
      kept.broker_of_taken depth customer now follows second among]
    exact before.le

theorem Kept.filter_recentOffers (depth : Nat) (customer : PowerType) (now : Instant)
    (broker : String) :
    (history.catalogue.recentOffers depth customer now).filter
        (fun tariff => tariff.broker = broker) =
      history.catalogue.takeRecent depth customer now (fun _ => 0)
        ((history.catalogue.shelf broker).map Listing.id) := by
  rw [← kept.idsOf_queues]
  exact BrokerQueue.filter_flatMap_search kept.ascending rfl
    (fun _ listed => kept.broker_of_taken depth customer now listed) broker

theorem Kept.mem_recentOffers_iff {place : Nat} {listing : Listing R}
    (entered : history.catalogue.listed[place]? = some listing) (depth : Nat)
    (customer : PowerType) (now : Instant) :
    listing.tariff ∈ history.catalogue.recentOffers depth customer now ↔
      listing.isSubscribable now = true ∧ customer.canUse listing.tariff.powerType = true ∧
        ((history.catalogue.listed.drop (place + 1)).countP fun later =>
          competes now listing.tariff.powerType later &&
            decide (later.tariff.broker = listing.tariff.broker)) < depth := by
  obtain ⟨older, split⟩ := shelf_split entered
  have found := kept.find?_of_mem_shelf listing.tariff.broker
  have distinct : ((history.catalogue.shelf listing.tariff.broker).map Listing.id).Nodup := by
    rw [shelf, List.map_reverse, List.nodup_reverse]
    exact kept.wellFormed.nodup.sublist (List.filter_sublist.map _)
  have own : listing.tariff ∈ history.catalogue.recentOffers depth customer now ↔
      listing.tariff ∈ (history.catalogue.recentOffers depth customer now).filter
        (fun tariff => tariff.broker = listing.tariff.broker) := by
    simp
  rw [split] at found distinct
  rw [own, kept.filter_recentOffers, split, mem_takeRecent_iff found distinct, Nat.zero_add,
    List.countP_reverse, List.countP_filter]

theorem Kept.sublist_recentOffers (depth : Nat) (customer : PowerType) (now : Instant)
    (broker : String) :
    ((history.catalogue.recentOffers depth customer now).filter
      fun tariff => tariff.broker = broker).Sublist
        ((history.catalogue.shelf broker).map Listing.tariff) := by
  rw [kept.filter_recentOffers]
  exact takeRecent_sublist (kept.find?_of_mem_shelf broker) _

omit kept

/-- After any requests a search finds the listed tariffs that can be subscribed to and used and have
fewer than `depth` later ones of their broker and power type that can be subscribed to, each of them
once, in ascending order of broker and each broker's newest first. -/
theorem finds_recent_offers (requests : List (Request R)) (depth : Nat) (customer : PowerType)
    (now : Instant) :
    let catalogue := (after requests).catalogue
    let offers := catalogue.recentOffers depth customer now
    (catalogue.listed.map Listing.tariff =
        (after requests).entered.map fun tariff => { tariff with contract := none }) ∧
      (∀ tariff ∈ offers, ∃ listing ∈ catalogue.listed, listing.tariff = tariff) ∧
      (∀ place listing, catalogue.listed[place]? = some listing →
        (listing.tariff ∈ offers ↔
          listing.isSubscribable now = true ∧
            customer.canUse listing.tariff.powerType = true ∧
            ((catalogue.listed.drop (place + 1)).countP fun later =>
              competes now listing.tariff.powerType later &&
                decide (later.tariff.broker = listing.tariff.broker)) < depth)) ∧
      (offers.map Tariff.id).Nodup ∧
      (offers.map Tariff.broker).Pairwise (· ≤ ·) ∧
      ∀ broker, (offers.filter fun tariff => tariff.broker = broker).Sublist
        (catalogue.listed.map Listing.tariff).reverse := by
  intro catalogue offers
  have kept : (after requests).Kept := kept_after requests
  refine ⟨kept.tariffs, ?_, fun _ _ entered => kept.mem_recentOffers_iff entered depth customer now,
    kept.nodup_recentOffers depth customer now, kept.ascending_recentOffers depth customer now, ?_⟩
  · intro tariff offered
    obtain ⟨id, listing, found, -, -, rfl⟩ := exists_of_mem_recentOffers offered
    exact ⟨listing, (mem_of_find? found).1, rfl⟩
  · intro broker
    refine (kept.sublist_recentOffers depth customer now broker).trans ?_
    rw [shelf, List.map_reverse, List.reverse_sublist]
    exact List.filter_sublist.map _

/-- A revoked tariff takes up no place. -/
example :
    let offer (id : Nat) (broker : String) : Request Float :=
      .enter (Tariff.free ⟨id⟩ broker .consumption)
    let requests := [offer 1 "bob", offer 2 "amy", offer 3 "amy", offer 4 "amy", .revoke ⟨4⟩]
    ((after requests).catalogue.recentOffers 1 .consumption ⟨0⟩).map Tariff.id = [⟨3⟩, ⟨1⟩] := by
  rfl

end History

end Catalogue

end RetailMarket
