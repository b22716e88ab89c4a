import Mathlib
import RetailMarket.Evaluation.Allocation

/-!
# Net changes

An evaluation is a list of moves of members from one tariff to another.  Each is entered into the
net changes of the two tariffs, which are listed once each, in order of first touch.  The net change
of a tariff is what has arrived there less what has departed, and all net changes add up to zero.
-/

namespace RetailMarket

namespace Evaluator

variable {M R : Type}

/-! ## Net changes -/

structure Move (R : Type) where
  origin : Tariff R
  destination : Tariff R
  count : Nat

def enter (allocations : List (Tariff R × Int)) (move : Move R) : List (Tariff R × Int) :=
  adjust move.destination (signed move.count)
    (adjust move.origin (-signed move.count) allocations)

def net (id : TariffId) (allocations : List (Tariff R × Int)) : Int :=
  ((allocations.filter fun allocation => allocation.1.id == id).map Prod.snd).sum

theorem net_adjust (tariff : Tariff R) (change : Int) (allocations : List (Tariff R × Int))
    (id : TariffId) :
    net id (adjust tariff change allocations) =
      net id allocations + if tariff.id = id then change else 0 := by
  induction allocations with
  | nil => by_cases same : tariff.id = id <;> simp [net, adjust, same]
  | cons allocation rest ih =>
      obtain ⟨other, count⟩ := allocation
      simp only [net] at ih
      simp only [adjust]
      by_cases here : other.id = tariff.id
      · rw [if_pos here]
        by_cases same : tariff.id = id
        · simp [net, here, same]
          ring
        · simp [net, here, same]
      · rw [if_neg here]
        by_cases same : other.id = id
        · simp [net, same, ih, add_assoc]
        · simp [net, same, ih]

theorem sum_adjust (tariff : Tariff R) (change : Int) (allocations : List (Tariff R × Int)) :
    ((adjust tariff change allocations).map Prod.snd).sum =
      (allocations.map Prod.snd).sum + change := by
  induction allocations with
  | nil => simp [adjust]
  | cons allocation rest ih =>
      obtain ⟨other, count⟩ := allocation
      simp only [adjust]
      split
      · simp only [List.map_cons, List.sum_cons]
        ring
      · simp only [List.map_cons, List.sum_cons, ih]
        ring

theorem mem_adjust {tariff : Tariff R} {change : Int} {allocations : List (Tariff R × Int)}
    {allocation : Tariff R × Int} (entered : allocation ∈ adjust tariff change allocations) :
    allocation.1 = tariff ∨ allocation.1 ∈ allocations.map Prod.fst := by
  induction allocations with
  | nil =>
      rw [adjust, List.mem_singleton] at entered
      exact .inl (congrArg Prod.fst entered)
  | cons first rest ih =>
      obtain ⟨other, count⟩ := first
      simp only [adjust] at entered
      split at entered
      · rcases List.mem_cons.1 entered with rfl | later
        · exact .inr List.mem_cons_self
        · exact .inr (List.mem_cons_of_mem _ (List.mem_map_of_mem later))
      · rcases List.mem_cons.1 entered with rfl | later
        · exact .inr List.mem_cons_self
        · exact (ih later).imp_right (List.mem_cons_of_mem _)

theorem nodup_adjust {allocations : List (Tariff R × Int)}
    (nodup : (allocations.map fun allocation => allocation.1.id).Nodup) (tariff : Tariff R)
    (change : Int) :
    ((adjust tariff change allocations).map fun allocation => allocation.1.id).Nodup := by
  induction allocations with
  | nil => simp [adjust]
  | cons first rest ih =>
      obtain ⟨other, count⟩ := first
      obtain ⟨fresh, nodupRest⟩ := List.nodup_cons.1 nodup
      simp only [adjust]
      split
      · exact nodup
      · rename_i different
        refine List.nodup_cons.2 ⟨?_, ih nodupRest⟩
        intro listed
        obtain ⟨allocation, entered, same⟩ := List.mem_map.1 listed
        rcases mem_adjust entered with tariffHere | earlier
        · exact different (same.symm.trans (congrArg Tariff.id tariffHere))
        · obtain ⟨previous, member, same'⟩ := List.mem_map.1 earlier
          exact fresh (List.mem_map.2 ⟨previous, member, (congrArg Tariff.id same').trans same⟩)

theorem net_of_mem {allocations : List (Tariff R × Int)}
    (nodup : (allocations.map fun allocation => allocation.1.id).Nodup)
    {allocation : Tariff R × Int} (listed : allocation ∈ allocations) :
    net allocation.1.id allocations = allocation.2 := by
  induction allocations with
  | nil => cases listed
  | cons first rest ih =>
      obtain ⟨fresh, nodupRest⟩ := List.nodup_cons.1 nodup
      rcases List.mem_cons.1 listed with rfl | later
      · have others : rest.filter (fun other => other.1.id == allocation.1.id) = [] := by
          rw [List.filter_eq_nil_iff]
          intro other member same
          exact fresh (List.mem_map.2 ⟨other, member, by simpa using same⟩)
        simp [net, others]
      · have different : ¬ first.1.id = allocation.1.id := by
          intro same
          exact fresh (List.mem_map.2 ⟨allocation, later, same.symm⟩)
        rw [← ih nodupRest later]
        simp [net, different]

/-! ## Moves entered one after the other -/

def arrivals (id : TariffId) (moves : List (Move R)) : Int :=
  ((moves.filter fun move => move.destination.id == id).map fun move => signed move.count).sum

def departures (id : TariffId) (moves : List (Move R)) : Int :=
  ((moves.filter fun move => move.origin.id == id).map fun move => signed move.count).sum

theorem arrivals_cons (id : TariffId) (move : Move R) (rest : List (Move R)) :
    arrivals id (move :: rest) =
      (if move.destination.id = id then signed move.count else 0) + arrivals id rest := by
  by_cases here : move.destination.id = id
  · rw [if_pos here, arrivals, List.filter_cons_of_pos (by simpa using here), List.map_cons,
      List.sum_cons, ← arrivals]
  · rw [if_neg here, arrivals, List.filter_cons_of_neg (by simpa using here), ← arrivals,
      zero_add]

theorem departures_cons (id : TariffId) (move : Move R) (rest : List (Move R)) :
    departures id (move :: rest) =
      (if move.origin.id = id then signed move.count else 0) + departures id rest := by
  by_cases here : move.origin.id = id
  · rw [if_pos here, departures, List.filter_cons_of_pos (by simpa using here), List.map_cons,
      List.sum_cons, ← departures]
  · rw [if_neg here, departures, List.filter_cons_of_neg (by simpa using here), ← departures,
      zero_add]

theorem departures_append (id : TariffId) (earlier later : List (Move R)) :
    departures id (earlier ++ later) = departures id earlier + departures id later := by
  rw [departures, List.filter_append, List.map_append, List.sum_append, ← departures,
    ← departures]

theorem net_enter_all (moves : List (Move R)) (allocations : List (Tariff R × Int))
    (id : TariffId) :
    net id (moves.foldl enter allocations) =
      net id allocations + arrivals id moves - departures id moves := by
  induction moves generalizing allocations with
  | nil => simp [arrivals, departures]
  | cons move rest ih =>
      rw [List.foldl_cons, ih, enter, net_adjust, net_adjust, arrivals_cons, departures_cons]
      generalize signed move.count = size
      split <;> split <;> ring

theorem sum_enter_all (moves : List (Move R)) (allocations : List (Tariff R × Int)) :
    ((moves.foldl enter allocations).map Prod.snd).sum = (allocations.map Prod.snd).sum := by
  induction moves generalizing allocations with
  | nil => rfl
  | cons move rest ih =>
      rw [List.foldl_cons, ih, enter, sum_adjust, sum_adjust]
      ring

theorem nodup_enter_all (moves : List (Move R)) {allocations : List (Tariff R × Int)}
    (nodup : (allocations.map fun allocation => allocation.1.id).Nodup) :
    ((moves.foldl enter allocations).map fun allocation => allocation.1.id).Nodup := by
  induction moves generalizing allocations with
  | nil => exact nodup
  | cons move rest ih => exact ih (nodup_adjust (nodup_adjust nodup _ _) _ _)

theorem mem_enter_all {moves : List (Move R)} {allocations : List (Tariff R × Int)}
    {allocation : Tariff R × Int} (entered : allocation ∈ moves.foldl enter allocations) :
    allocation.1 ∈ allocations.map Prod.fst ∨
      ∃ move ∈ moves, allocation.1 = move.origin ∨ allocation.1 = move.destination := by
  induction moves generalizing allocations with
  | nil => exact .inl (List.mem_map_of_mem entered)
  | cons move rest ih =>
      rcases ih entered with earlier | ⟨other, later, touched⟩
      · obtain ⟨previous, member, same⟩ := List.mem_map.1 earlier
        rcases mem_adjust member with destination | before
        · exact .inr ⟨move, List.mem_cons_self, .inr (same ▸ destination)⟩
        · obtain ⟨first, member', same'⟩ := List.mem_map.1 before
          rcases mem_adjust member' with origin | start
          · exact .inr ⟨move, List.mem_cons_self, .inl (same ▸ same' ▸ origin)⟩
          · exact .inl (same ▸ same' ▸ start)
      · exact .inr ⟨other, List.mem_cons_of_mem _ later, touched⟩

/-! ## Moves entered from the beginning -/

section Beginning

variable {moves : List (Move R)} {allocation : Tariff R × Int}

theorem change_of_entered (entered : allocation ∈ moves.foldl enter []) :
    allocation.2 = arrivals allocation.1.id moves - departures allocation.1.id moves := by
  have distinct : ((moves.foldl enter []).map fun allocation => allocation.1.id).Nodup :=
    nodup_enter_all moves List.nodup_nil
  rw [← net_of_mem distinct entered, net_enter_all]
  simp [net]

theorem sum_counts_nonneg (sized : ∀ move ∈ moves, signed move.count = move.count)
    (picked : Move R → Bool) :
    0 ≤ ((moves.filter picked).map fun move => signed move.count).sum := by
  apply List.sum_nonneg
  intro count member
  obtain ⟨move, filtered, rfl⟩ := List.mem_map.1 member
  rw [sized move (List.mem_filter.1 filtered).1]
  exact Int.natCast_nonneg _

theorem exists_of_arrivals_pos {id : TariffId} (arriving : 0 < arrivals id moves) :
    ∃ move ∈ moves, move.destination.id = id := by
  by_contra nowhere
  simp only [not_exists, not_and] at nowhere
  have nobody : moves.filter (fun move => move.destination.id == id) = [] :=
    List.filter_eq_nil_iff.2 fun move listed found => nowhere move listed (by simpa using found)
  rw [arrivals, nobody] at arriving
  exact absurd arriving (lt_irrefl 0)

end Beginning

end Evaluator

end RetailMarket
