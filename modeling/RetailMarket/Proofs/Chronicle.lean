import RetailMarket.Proofs.Publication

/-!
# The history of the catalogue

A catalogue answers three requests: for the next id, for the entry of a tariff under an id of the
caller's choice, and for a revocation.  After any sequence of them its listings, its queues and its
counter follow from the tariffs it has accepted and the ids it has handed out, each in its order.
-/

namespace RetailMarket

/-! ## The queues of the brokers -/

namespace BrokerQueue

def idsOf (queues : List BrokerQueue) (broker : String) : List TariffId :=
  (queues.filter fun queue => queue.broker = broker).flatMap BrokerQueue.ids

def Ascending (queues : List BrokerQueue) : Prop :=
  (queues.map BrokerQueue.broker).Pairwise (· < ·)

theorem idsOf_cons (queue : BrokerQueue) (queues : List BrokerQueue) (broker : String) :
    idsOf (queue :: queues) broker =
      (if queue.broker = broker then queue.ids else []) ++ idsOf queues broker := by
  by_cases same : queue.broker = broker <;> simp [idsOf, same]

theorem idsOf_push (broker : String) (id : TariffId) (queues : List BrokerQueue)
    (other : String) :
    idsOf (push broker id queues) other =
      if broker = other then id :: idsOf queues other else idsOf queues other := by
  induction queues with
  | nil =>
      rw [push, idsOf_cons]
      split <;> rfl
  | cons queue queues ih =>
      rw [push]
      split
      · rename_i own
        rw [idsOf_cons, idsOf_cons, own]
        split <;> rfl
      · rename_i foreign
        split
        · rw [idsOf_cons]
          split <;> rfl
        · rw [idsOf_cons, ih, idsOf_cons]
          by_cases own : broker = other
          · have apart : queue.broker ≠ other := fun same => foreign (same.trans own.symm)
            simp only [if_pos own, if_neg apart, List.nil_append]
          · simp only [if_neg own]

theorem flatMap_ids_push (broker : String) (id : TariffId) (queues : List BrokerQueue) :
    ((push broker id queues).flatMap BrokerQueue.ids).Perm
      (id :: queues.flatMap BrokerQueue.ids) := by
  induction queues with
  | nil => exact .refl _
  | cons queue queues ih =>
      rw [push]
      split
      · exact .refl _
      · split
        · exact .refl _
        · exact (ih.append_left queue.ids).trans List.perm_middle

theorem broker_of_mem_push {broker : String} {id : TariffId} {queues : List BrokerQueue}
    {found : String} (listed : found ∈ (push broker id queues).map BrokerQueue.broker) :
    found = broker ∨ found ∈ queues.map BrokerQueue.broker := by
  fun_induction push broker id queues with
  | case1 => exact List.mem_cons.1 listed
  | case2 => exact (List.mem_cons.1 listed).imp_right (List.mem_cons_of_mem _)
  | case3 => exact List.mem_cons.1 listed
  | case4 queue rest _ _ ih =>
      rcases List.mem_cons.1 listed with rfl | later
      · exact .inr List.mem_cons_self
      · exact (ih later).imp_right (List.mem_cons_of_mem _)

theorem Ascending.push {queues : List BrokerQueue} (ascending : Ascending queues)
    (broker : String) (id : TariffId) : Ascending (push broker id queues) := by
  induction queues with
  | nil => exact List.pairwise_singleton _ _
  | cons queue queues ih =>
      obtain ⟨first, later⟩ := List.pairwise_cons.1 ascending
      rw [BrokerQueue.push]
      split
      · rename_i own
        subst own
        exact ascending
      · rename_i foreign
        split
        · rename_i before
          refine List.pairwise_cons.2 ⟨?_, ascending⟩
          intro other listed
          rcases List.mem_cons.1 listed with rfl | member
          · exact before
          · exact before.trans (first other member)
        · rename_i notBefore
          refine List.pairwise_cons.2 ⟨?_, ih later⟩
          intro other listed
          rcases broker_of_mem_push listed with rfl | member
          · exact lt_of_le_of_ne (not_lt.1 notBefore) foreign
          · exact first other member

theorem Ascending.idsOf_broker {queues : List BrokerQueue} (ascending : Ascending queues)
    {queue : BrokerQueue} (listed : queue ∈ queues) : idsOf queues queue.broker = queue.ids := by
  induction queues with
  | nil => cases listed
  | cons head queues ih =>
      obtain ⟨first, later⟩ := List.pairwise_cons.1 ascending
      rw [idsOf_cons]
      rcases List.mem_cons.1 listed with rfl | member
      · have none : idsOf queues queue.broker = [] := by
          rw [idsOf, List.filter_eq_nil_iff.2, List.flatMap_nil]
          intro other memberOther same
          have apart := first other.broker (List.mem_map_of_mem memberOther)
          exact apart.ne' (of_decide_eq_true same)
        rw [if_pos rfl, none, List.append_nil]
      · rw [if_neg (first _ (List.mem_map_of_mem member)).ne, List.nil_append]
        exact ih later member

theorem exists_of_mem_idsOf {queues : List BrokerQueue} {broker : String} {id : TariffId}
    (listed : id ∈ idsOf queues broker) :
    ∃ queue ∈ queues, queue.broker = broker ∧ id ∈ queue.ids := by
  obtain ⟨queue, kept, member⟩ := List.mem_flatMap.1 listed
  obtain ⟨found, own⟩ := List.mem_filter.1 kept
  exact ⟨queue, found, of_decide_eq_true own, member⟩

end BrokerQueue

namespace Catalogue

variable {R : Type}

/-! ## Links to superseding tariffs -/

/-- Follows `count` links from a listed tariff. -/
def follow (catalogue : Catalogue R) : (count : Nat) → TariffId → Option TariffId
  | 0, id => some id
  | count + 1, id =>
    ((catalogue.find? id).bind Listing.supersededBy).bind (follow catalogue count)

/-- The last of the tariffs that supersedes another. -/
def lastSuccessor (tariffs : List (Tariff R)) (id : TariffId) : Option TariffId :=
  (tariffs.reverse.find? fun tariff => tariff.supersedes = some id).map Tariff.id

theorem lastSuccessor_snoc (tariffs : List (Tariff R)) (tariff : Tariff R) (id : TariffId) :
    lastSuccessor (tariffs ++ [tariff]) id =
      if tariff.supersedes = some id then some tariff.id else lastSuccessor tariffs id := by
  by_cases own : tariff.supersedes = some id <;> simp [lastSuccessor, own]

theorem supersededBy_succeeded (tariff : Tariff R) (listing : Listing R) :
    (succeeded tariff listing).supersededBy =
      if tariff.supersedes = some listing.id then some tariff.id else listing.supersededBy := by
  unfold succeeded
  split <;> rfl

theorem exists_of_lastSuccessor {tariffs : List (Tariff R)} {id next : TariffId}
    (found : lastSuccessor tariffs id = some next) : ∃ tariff ∈ tariffs, tariff.id = next := by
  obtain ⟨tariff, chosen, same⟩ := Option.map_eq_some_iff.1 found
  exact ⟨tariff, List.mem_reverse.1 (List.mem_of_find?_eq_some chosen), same⟩

/-! ## Requests -/

inductive Request (R : Type) where
  | reserve
  | enter (tariff : Tariff R)
  | revoke (id : TariffId)

/-- A catalogue with the tariffs it has accepted and the ids it has handed out. -/
structure History (R : Type) where
  catalogue : Catalogue R := .empty
  entered : List (Tariff R) := []
  reserved : List TariffId := []

namespace History

def answer (history : History R) : Request R → History R
  | .reserve =>
    { history with
      catalogue := history.catalogue.nextId.2
      reserved := history.reserved ++ [history.catalogue.nextId.1] }
  | .enter tariff =>
    let (accepted, catalogue) := history.catalogue.enter tariff
    { history with
      catalogue
      entered := if accepted then history.entered ++ [tariff] else history.entered }
  | .revoke id => { history with catalogue := (history.catalogue.revoke id).2 }

def after (requests : List (Request R)) : History R := requests.foldl answer {}

def ids (history : History R) : List TariffId := history.entered.map Tariff.id

def later (history : History R) (place : Nat) : List (Tariff R) := history.entered.drop (place + 1)

/-- The listings are the accepted tariffs, linked to the last that superseded them; the queues
hold their ids by broker, and no id passes the counter. -/
structure Kept (history : History R) : Prop where
  wellFormed : history.catalogue.WellFormed
  tariffs : history.catalogue.listed.map Listing.tariff =
    history.entered.map fun tariff => { tariff with contract := none }
  linked : ∀ place listing, history.catalogue.listed[place]? = some listing →
    listing.supersededBy = lastSuccessor (history.later place) listing.id
  ascending : BrokerQueue.Ascending history.catalogue.queues
  shelved : ∀ broker, BrokerQueue.idsOf history.catalogue.queues broker =
    ((history.entered.filter fun tariff => tariff.broker = broker).map Tariff.id).reverse
  queued : (history.catalogue.queues.flatMap BrokerQueue.ids).Perm history.ids
  bounded : ∀ id ∈ history.reserved, id.number ≤ history.catalogue.lastId
  counted : ∀ limit, (∀ id ∈ history.ids, id.number ≤ limit) →
    history.catalogue.lastId ≤ limit + history.reserved.length

/-! ### What each request keeps -/

theorem kept_empty : ({} : History R).Kept where
  wellFormed := wellFormed_empty
  tariffs := rfl
  linked := by simp [Catalogue.empty]
  ascending := List.Pairwise.nil
  shelved := fun _ => rfl
  queued := .refl _
  bounded := by simp
  counted := fun _ _ => Nat.zero_le _

theorem Kept.length_listed {history : History R} (kept : history.Kept) :
    history.catalogue.listed.length = history.entered.length := by
  have same := congrArg List.length kept.tariffs
  rwa [List.length_map, List.length_map] at same

theorem Kept.ids_listed {history : History R} (kept : history.Kept) :
    history.catalogue.listed.map Listing.id = history.ids := by
  have same := congrArg (List.map Tariff.id) kept.tariffs
  rwa [List.map_map, List.map_map] at same

theorem Kept.reserve {history : History R} (kept : history.Kept) :
    (history.answer .reserve).Kept where
  wellFormed := kept.wellFormed.nextId
  tariffs := kept.tariffs
  linked := kept.linked
  ascending := kept.ascending
  shelved := kept.shelved
  queued := kept.queued
  bounded := by
    intro id listed
    rcases List.mem_append.1 listed with old | new
    · exact (kept.bounded id old).trans (Nat.le_succ _)
    · rw [List.mem_singleton.1 new]
      exact le_rfl
  counted := by
    intro limit bound
    have before := kept.counted limit bound
    simp only [answer, nextId, List.length_append, List.length_singleton]
    omega

theorem Kept.revoke {history : History R} (kept : history.Kept) (id : TariffId) :
    (history.answer (.revoke id)).Kept := by
  rcases history.catalogue.revoke_cases id with same | changed
  · rw [answer, same]
    exact kept
  · rw [answer, changed]
    have tariff_revoke (listing : Listing R) :
        (if listing.id = id then listing.revoke else listing).tariff = listing.tariff := by
      split <;> rfl
    have link_revoke (listing : Listing R) :
        (if listing.id = id then listing.revoke else listing).supersededBy =
          listing.supersededBy := by
      split <;> rfl
    refine ⟨kept.wellFormed.update_revoke id, ?_, ?_, kept.ascending, kept.shelved, kept.queued,
      kept.bounded, kept.counted⟩
    · rw [← kept.tariffs]
      simp only [update, updateIn, List.map_map]
      exact List.map_congr_left fun listing _ => tariff_revoke listing
    · intro place listing found
      simp only [update, updateIn, List.getElem?_map] at found
      obtain ⟨other, foundOther, rfl⟩ := Option.map_eq_some_iff.1 found
      rw [link_revoke, Listing.id, tariff_revoke]
      exact kept.linked place other foundOther

theorem queues_enter {catalogue entered : Catalogue R} {tariff : Tariff R}
    (published : catalogue.enter tariff = (true, entered)) :
    entered.queues = BrokerQueue.push tariff.broker tariff.id catalogue.queues := by
  simp only [enter] at published
  split at published
  · cases published
  · cases published
    cases tariff.supersedes <;> rfl

theorem Kept.enter {history : History R} (kept : history.Kept) {tariff : Tariff R}
    {catalogue : Catalogue R} (published : history.catalogue.enter tariff = (true, catalogue)) :
    ({ history with catalogue, entered := history.entered ++ [tariff] } : History R).Kept := by
  obtain ⟨-, listed, lastId⟩ := enter_eq_true published
  have queues := queues_enter published
  refine ⟨kept.wellFormed.enter published, ?_, ?_, ?_, ?_, ?_, ?_, ?_⟩
  · rw [listed, List.map_append, List.map_map, List.map_append, ← kept.tariffs]
    congr 1
    exact List.map_congr_left fun listing _ => tariff_succeeded tariff listing
  · intro place listing found
    rw [listed, List.getElem?_append, List.length_map] at found
    split at found
    · rename_i before
      rw [List.getElem?_map] at found
      obtain ⟨other, foundOther, rfl⟩ := Option.map_eq_some_iff.1 found
      rw [supersededBy_succeeded, id_succeeded, later,
        List.drop_append_of_le_length (kept.length_listed ▸ before), lastSuccessor_snoc,
        kept.linked place other foundOther, later]
    · rename_i after
      have last : place = history.entered.length := by
        have bound := (List.getElem?_eq_some_iff.1 found).1
        rw [List.length_singleton] at bound
        have length := kept.length_listed
        omega
      rw [last, kept.length_listed, Nat.sub_self] at found
      cases found
      rw [later, List.drop_eq_nil_of_le (by rw [List.length_append, last]; rfl)]
      rfl
  · rw [queues]
    exact kept.ascending.push _ _
  · intro broker
    rw [queues, BrokerQueue.idsOf_push, kept.shelved, List.filter_append]
    by_cases own : tariff.broker = broker <;> simp [own]
  · rw [queues, ids, List.map_append]
    exact (BrokerQueue.flatMap_ids_push _ _ _).trans
      ((kept.queued.cons _).trans (List.perm_append_singleton _ _).symm)
  · intro id reserved
    rw [lastId]
    exact (kept.bounded id reserved).trans (le_max_left _ _)
  · intro limit bound
    rw [ids, List.map_append] at bound
    have before := kept.counted limit fun id listed => bound id (List.mem_append_left _ listed)
    have own := bound tariff.id (List.mem_append_right _ (List.mem_singleton_self _))
    rw [lastId]
    exact max_le before (own.trans (Nat.le_add_right _ _))

theorem answer_enter_of_refused {history : History R} {tariff : Tariff R}
    (refused : (history.catalogue.enter tariff).1 = false) :
    history.answer (.enter tariff) = history := by
  rw [answer, enter_eq_false refused]
  rfl

theorem Kept.answer {history : History R} (kept : history.Kept) (request : Request R) :
    (history.answer request).Kept := by
  cases request with
  | reserve => exact kept.reserve
  | revoke id => exact kept.revoke id
  | enter tariff =>
      cases accepted : (history.catalogue.enter tariff).1 with
      | true =>
          have published : history.catalogue.enter tariff =
              (true, (history.catalogue.enter tariff).2) := Prod.ext accepted rfl
          rw [History.answer, published]
          exact kept.enter published
      | false =>
          rw [answer_enter_of_refused accepted]
          exact kept

theorem kept_after (requests : List (Request R)) : (after requests).Kept := by
  unfold after
  induction requests using List.reverseRecOn with
  | nil => exact kept_empty
  | append_singleton requests request ih =>
      rw [List.foldl_append]
      exact ih.answer request

/-! ### What follows from the history -/

theorem Kept.later_of_supersededBy {history : History R} (kept : history.Kept) {place : Nat}
    {listing : Listing R} (found : history.catalogue.listed[place]? = some listing)
    {id : TariffId} (linked : listing.supersededBy = some id) :
    ∃ later other, place < later ∧ history.catalogue.listed[later]? = some other ∧
      other.id = id := by
  rw [kept.linked place listing found] at linked
  obtain ⟨tariff, among, rfl⟩ := exists_of_lastSuccessor linked
  obtain ⟨offset, listed⟩ := List.mem_iff_getElem?.1 among
  rw [History.later, List.getElem?_drop] at listed
  have ids : history.catalogue.listed.map Listing.id = history.ids := kept.ids_listed
  have same : (history.catalogue.listed.map Listing.id)[place + 1 + offset]? = some tariff.id := by
    rw [ids, History.ids, List.getElem?_map, listed]
    rfl
  rw [List.getElem?_map] at same
  obtain ⟨other, foundOther, own⟩ := Option.map_eq_some_iff.1 same
  exact ⟨place + 1 + offset, other, by omega, foundOther, own⟩

theorem Kept.lt_size_of_follow {history : History R} (kept : history.Kept) {count place : Nat}
    {listing : Listing R} (found : history.catalogue.listed[place]? = some listing)
    (ends : (history.catalogue.follow count listing.id).isSome) :
    place + count < history.catalogue.size := by
  induction count generalizing place listing with
  | zero => exact (List.getElem?_eq_some_iff.1 found).1
  | succ count ih =>
      have own := kept.wellFormed.find?_of_mem (List.mem_of_getElem? found)
      rw [follow, own, Option.bind_some] at ends
      cases link : listing.supersededBy with
      | none =>
          rw [link] at ends
          cases ends
      | some id =>
          obtain ⟨later, other, after, foundOther, rfl⟩ := kept.later_of_supersededBy found link
          rw [link, Option.bind_some] at ends
          have bound := ih foundOther ends
          omega

theorem Kept.follow_eq_none {history : History R} (kept : history.Kept) (id : TariffId) :
    history.catalogue.follow (history.catalogue.size + 1) id = none := by
  cases known : history.catalogue.find? id with
  | none => rw [follow, known, Option.bind_none, Option.bind_none]
  | some listing =>
      obtain ⟨listed, rfl⟩ := mem_of_find? known
      obtain ⟨place, found⟩ := List.mem_iff_getElem?.1 listed
      rw [← Option.not_isSome_iff_eq_none]
      intro ends
      have bound := kept.lt_size_of_follow found ends
      omega

theorem Kept.refuses_iff {history : History R} (kept : history.Kept) (tariff : Tariff R) :
    (history.catalogue.enter tariff).1 = false ↔ tariff.id ∈ history.ids := by
  have taken : (history.catalogue.find? tariff.id).isSome ↔ tariff.id ∈ history.ids := by
    rw [← kept.ids_listed, find?, findIn, List.find?_isSome, List.mem_map]
    simp only [beq_iff_eq]
  rw [← taken, Catalogue.enter]
  split <;> simp_all

/-- After any requests: an entered tariff's id is in one queue once, that of its broker, and every
queue has the newest of its broker's first; the next id passes all that are entered or handed out;
a link leads to the last tariff entered to supersede its own, so that no chain of links is longer
than the catalogue; and an entry under a taken id, which alone is refused, changes nothing. -/
theorem after_requests (requests : List (Request R)) :
    let history := after requests
    let catalogue := history.catalogue
    (catalogue.listed.map Listing.tariff =
        history.entered.map fun tariff => { tariff with contract := none }) ∧
      history.ids.Nodup ∧
      (∀ tariff ∈ history.entered,
        (catalogue.queues.flatMap BrokerQueue.ids).count tariff.id = 1 ∧
          ∃ queue ∈ catalogue.queues, queue.broker = tariff.broker ∧ tariff.id ∈ queue.ids) ∧
      (catalogue.queues.map BrokerQueue.broker).Pairwise (· < ·) ∧
      (∀ queue ∈ catalogue.queues, queue.ids =
        ((history.entered.filter fun tariff => tariff.broker = queue.broker).map
          Tariff.id).reverse) ∧
      (∀ id ∈ history.ids ++ history.reserved, id.number < catalogue.nextId.1.number) ∧
      (∀ limit, (∀ id ∈ history.ids, id.number ≤ limit) →
        catalogue.lastId ≤ limit + history.reserved.length) ∧
      (∀ place listing, catalogue.listed[place]? = some listing →
        listing.supersededBy = lastSuccessor (history.entered.drop (place + 1)) listing.id ∧
          ∀ id, listing.supersededBy = some id → ∃ later other, place < later ∧
            catalogue.listed[later]? = some other ∧ other.id = id) ∧
      (∀ id, catalogue.follow (catalogue.size + 1) id = none) ∧
      ∀ tariff, ((catalogue.enter tariff).1 = false ↔ tariff.id ∈ history.ids) ∧
        ((catalogue.enter tariff).1 = false → (catalogue.enter tariff).2 = catalogue ∧
          history.answer (.enter tariff) = history) := by
  intro history catalogue
  have kept : history.Kept := kept_after requests
  have distinct : history.ids.Nodup := kept.ids_listed ▸ kept.wellFormed.nodup
  refine ⟨kept.tariffs, distinct, ?_, kept.ascending, ?_, ?_, kept.counted, ?_,
    kept.follow_eq_none, ?_⟩
  · intro tariff entered
    have member : tariff.id ∈ history.ids := List.mem_map_of_mem entered
    refine ⟨?_, BrokerQueue.exists_of_mem_idsOf ?_⟩
    · rw [kept.queued.count_eq]
      exact List.count_eq_one_of_mem distinct member
    · rw [kept.shelved, List.mem_reverse]
      exact List.mem_map_of_mem (List.mem_filter.2 ⟨entered, decide_eq_true rfl⟩)
  · intro queue listed
    rw [← kept.shelved, kept.ascending.idsOf_broker listed]
  · intro id listed
    refine Nat.lt_succ_of_le ?_
    rcases List.mem_append.1 listed with entered | reserved
    · rw [← kept.ids_listed] at entered
      obtain ⟨listing, member, rfl⟩ := List.mem_map.1 entered
      exact kept.wellFormed.bounded listing member
    · exact kept.bounded id reserved
  · intro place listing found
    exact ⟨kept.linked place listing found, fun id link => kept.later_of_supersededBy found link⟩
  · intro tariff
    exact ⟨kept.refuses_iff tariff, fun refused =>
      ⟨congrArg Prod.snd (enter_eq_false refused), answer_enter_of_refused refused⟩⟩

end History

end Catalogue

end RetailMarket
