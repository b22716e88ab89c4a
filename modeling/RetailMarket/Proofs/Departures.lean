import RetailMarket.Proofs.Decisions

/-!
# What an evaluation moves

Each decision is at most one move off the tariff decided on.  So the moves off a subscription take
no more members than it has, and all of them lead to tariffs that the evaluation had to choose from.
-/

namespace RetailMarket

namespace Evaluator

variable {M R : Type}

/-! ## Moves off one tariff -/

/-- Moves of at most `count` members off one tariff, all to others of some kind. -/
structure MovesOff (kind : Tariff R → Prop) (origin : Tariff R) (count : Nat)
    (moves : List (Move R)) : Prop where
  leaves : ∀ move ∈ moves, move.origin = origin
  reaches : ∀ move ∈ moves, kind move.destination ∧ move.destination.id ≠ origin.id
  bounded : (moves.map Move.count).sum ≤ count

theorem MovesOff.nil (kind : Tariff R → Prop) (origin : Tariff R) (count : Nat) :
    MovesOff kind origin count [] := ⟨by simp, by simp, by simp⟩

structure Decision.Picks (kind : Tariff R → Prop) (origin : Tariff R) (decision : Decision R) :
    Prop where
  origin : decision.origin = origin
  reaches : ∀ tariff, decision.destination = some tariff → kind tariff

theorem Decision.Picks.of_move? {kind : Tariff R → Prop} {origin : Tariff R}
    {decision : Decision R} (picks : decision.Picks kind origin) {move : Move R}
    (moves : decision.move? = some move) :
    move.origin = origin ∧ kind move.destination ∧ move.destination.id ≠ origin.id := by
  obtain ⟨picked, left, -, elsewhere⟩ := Decision.eq_of_move? moves
  have same : move.origin = origin := left.trans picks.origin
  exact ⟨same, picks.reaches move.destination picked, same ▸ elsewhere.symm⟩

theorem counts_movesOf_sublist (decisions : List (Decision R)) :
    ((movesOf decisions).map Move.count).Sublist (decisions.map Decision.count) := by
  induction decisions with
  | nil => exact List.Sublist.refl []
  | cons decision rest ih =>
      rw [movesOf]
      cases moves : decision.move? with
      | none =>
          rw [List.filterMap_cons_none moves]
          exact ih.cons _
      | some move =>
          obtain ⟨-, -, count, -⟩ := Decision.eq_of_move? moves
          rw [List.filterMap_cons_some moves, List.map_cons, List.map_cons, count]
          exact ih.cons_cons _

theorem Obeys.movesOff {kind : Tariff R → Prop} {origin : Tariff R} {sizes : List Nat}
    {decisions : List (Decision R)} (obeys : Obeys (Decision.Picks kind origin) sizes decisions)
    {count : Nat} (most : sizes.sum ≤ count) : MovesOff kind origin count (movesOf decisions) := by
  have source (move : Move R) (listed : move ∈ movesOf decisions) :
      move.origin = origin ∧ kind move.destination ∧ move.destination.id ≠ origin.id := by
    obtain ⟨decision, member, moves⟩ := List.mem_filterMap.1 listed
    exact (obeys.rule decision member).of_move? moves
  refine ⟨fun move listed => (source move listed).1, fun move listed => (source move listed).2, ?_⟩
  calc ((movesOf decisions).map Move.count).sum
      ≤ (decisions.map Decision.count).sum :=
        (counts_movesOf_sublist decisions).sum_le_sum fun _ _ => Nat.zero_le _
    _ = sizes.sum := congrArg List.sum obeys.sizes
    _ ≤ count := most

theorem MovesOff.signed_count {kind : Tariff R → Prop} {origin : Tariff R} {count : Nat}
    {moves : List (Move R)} (off : MovesOff kind origin count moves) (small : count < 2 ^ 63)
    {move : Move R} (listed : move ∈ moves) : signed move.count = move.count := by
  have single : move.count ≤ (moves.map Move.count).sum :=
    List.single_le_sum (fun _ _ => Nat.zero_le _) _ (List.mem_map_of_mem listed)
  exact signed_of_lt (by have := off.bounded; omega)

theorem MovesOff.departures_le {kind : Tariff R → Prop} {origin : Tariff R} {count : Nat}
    {moves : List (Move R)} (off : MovesOff kind origin count moves) (small : count < 2 ^ 63)
    (id : TariffId) : departures id moves ≤ if origin.id = id then (count : Int) else 0 := by
  have origins : ∀ move ∈ moves, move.origin.id = origin.id := fun move listed =>
    congrArg Tariff.id (off.leaves move listed)
  split
  · rename_i here
    have everyone : moves.filter (fun move => move.origin.id == id) = moves :=
      List.filter_eq_self.2 fun move listed => by simp [origins move listed, here]
    have counts : moves.map (fun move => signed move.count) =
        (moves.map Move.count).map Nat.cast := by
      rw [List.map_map]
      exact List.map_congr_left fun move listed => off.signed_count small listed
    rw [departures, everyone, counts, ← Nat.cast_list_sum]
    exact_mod_cast off.bounded
  · rename_i elsewhere
    have nobody : moves.filter (fun move => move.origin.id == id) = [] :=
      List.filter_eq_nil_iff.2 fun move listed found => by
        rw [origins move listed] at found
        exact elsewhere (by simpa using found)
    rw [departures, nobody]
    simp

/-! ## Moves off each subscription -/

def MovesOffEach (kind : Tariff R → Prop) (subscriptions : List (Subscription R))
    (moves : List (List (Move R))) : Prop :=
  List.Forall₂ (fun subscription moves =>
    MovesOff kind subscription.tariff subscription.committed moves) subscriptions moves

theorem MovesOffEach.departures_le {kind : Tariff R → Prop}
    {subscriptions : List (Subscription R)} {moves : List (List (Move R))}
    (off : MovesOffEach kind subscriptions moves)
    (small : ∀ subscription ∈ subscriptions, subscription.committed < 2 ^ 63) (id : TariffId) :
    departures id moves.flatten ≤
      (((subscriptions.filter fun subscription => subscription.tariff.id == id).map
        (·.committed)).sum : Nat) := by
  induction off with
  | nil => simp [departures]
  | @cons subscription first rest later offFirst _ ih =>
      have bound := offFirst.departures_le (small subscription List.mem_cons_self) id
      have bounds := ih fun other listed => small other (List.mem_cons_of_mem _ listed)
      rw [List.flatten_cons, departures_append]
      by_cases here : subscription.tariff.id = id
      · rw [if_pos here] at bound
        rw [List.filter_cons_of_pos (by simpa using here), List.map_cons, List.sum_cons]
        rw [Nat.cast_add]
        omega
      · rw [if_neg here] at bound
        rw [List.filter_cons_of_neg (by simpa using here)]
        omega

theorem MovesOffEach.mem {kind : Tariff R → Prop} {subscriptions : List (Subscription R)}
    {moves : List (List (Move R))} (off : MovesOffEach kind subscriptions moves)
    {move : Move R} (listed : move ∈ moves.flatten) :
    ∃ subscription ∈ subscriptions, move.origin = subscription.tariff ∧
      kind move.destination ∧
      (subscription.committed < 2 ^ 63 → signed move.count = move.count) := by
  have facts : List.Forall₂ (fun (subscription : Subscription R) moves => ∀ move ∈ moves,
      move.origin = subscription.tariff ∧ kind move.destination ∧
        (subscription.committed < 2 ^ 63 → signed move.count = move.count))
      subscriptions moves := by
    refine List.Forall₂.imp (fun subscription moves off move here => ?_) off
    exact ⟨off.leaves move here, (off.reaches move here).1,
      fun small => off.signed_count small here⟩
  exact exists_of_mem_flatten facts listed

/-! ## The moves of an evaluation -/

variable [Quantity R] [CustomerModel M R]

theorem Decision.Follows.picks {kind : Tariff R → Prop} {decision : Decision R} {books : Books R}
    {comparison : Comparison R} {current : Tariff R} {leaving : R} {e : Evaluator M R}
    (follows : decision.Follows books comparison current leaving e)
    (choosable : Choosable kind e.customer.powerType books comparison current) :
    decision.Picks kind current :=
  ⟨follows.origin, fun tariff picked =>
    choosable.options leaving tariff (follows.destination_mem picked)⟩

theorem Choosable.governs {kind : Tariff R → Prop} {books : Books R} {comparison : Comparison R}
    {current : Tariff R} {e : Evaluator M R}
    (choosable : Choosable kind e.customer.powerType books comparison current) :
    Governs (Decision.Picks kind current) books comparison current e := by
  rintro f ⟨_, reached⟩ leaving decision follows
  have customer : f.customer = e.customer := reached.moved.customer
  exact follows.picks (customer ▸ choosable)

omit [CustomerModel M R] in
theorem sum_groupSizes_le (e : Evaluator M R) {now : Instant} {subscription : Subscription R}
    (expired : subscription.expiredCount now ≤ subscription.committed) :
    (e.groupSizes now subscription).sum ≤ subscription.committed := by
  have most (population : Nat) := sum_decisionSizes_le (e.decisionChunk population) population
  unfold groupSizes
  dsimp only
  split
  · exact most subscription.committed
  · have free := most (subscription.expiredCount now)
    have bound := most (subscription.committed - subscription.expiredCount now)
    rw [List.sum_append]
    omega

theorem exists_moves_evaluate {kind : Tariff R → Prop} {books : Books R} (e : Evaluator M R)
    (now : Instant)
    (expired : ∀ subscription ∈ books.roster.activeOf e.customer.id,
      subscription.expiredCount now ≤ subscription.committed)
    (choosable : ∀ comparison : Comparison R,
      comparison.candidates = e.candidates books now → comparison.now = now →
      books.market.defaultFor e.customer.powerType = some comparison.default →
      ∀ subscription ∈ books.roster.activeOf e.customer.id,
        Choosable kind e.customer.powerType books comparison subscription.tariff) :
    ∃ moves, MovesOffEach kind (books.roster.activeOf e.customer.id) moves ∧
      Moved moves.flatten { e with allocations := [] } (evaluate e books now).1 := by
  cases found : books.market.defaultFor e.customer.powerType with
  | none =>
      rw [evaluate_of_missing found]
      refine ⟨(books.roster.activeOf e.customer.id).map fun _ => [], ?_, ?_⟩
      · rw [MovesOffEach, List.forall₂_map_right_iff]
        exact List.forall₂_same.2 fun _ _ => MovesOff.nil _ _ _
      · have nobody : ((books.roster.activeOf e.customer.id).map
            fun _ => ([] : List (Move R))).flatten = [] := by simp
        rw [nobody]
        exact Moved.refl _
  | some default =>
      have choices := choosable (e.prepare books default now).1 rfl rfl found
      obtain ⟨decisions, obey, decided⟩ := exists_obeys_evaluate found
        fun subscription active => Choosable.governs (e := { e with allocations := [] })
          (choices subscription active)
      refine ⟨decisions.map movesOf, ?_, ?_⟩
      · rw [MovesOffEach, List.forall₂_map_right_iff]
        refine ((List.forall₂_and_left _ _).2 ⟨expired, obey⟩).imp ?_
        rintro subscription decisions ⟨most, obeys⟩
        exact obeys.movesOff (sum_groupSizes_le e most)
      · have moved := decided.moved
        rw [movesOf, List.filterMap_flatten] at moved
        exact moved

end Evaluator

end RetailMarket
