import Mathlib
import RetailMarket.Subscription.Roster

/-!
# The roster as a list of subscriptions

A roster is used through its index and reasoned about as the list of its subscriptions.  It is
`Faithful` when the index and the list agree, which makes the keys of the list pairwise different.
Every operation of a roster keeps it faithful and is described here by what it does to the list.
-/

namespace RetailMarket

def threadMap {σ α : Type} (step : σ → α → σ × α) : σ → List α → σ × List α
  | state, [] => (state, [])
  | state, x :: rest =>
    let (next, y) := step state x
    let (last, ys) := threadMap step next rest
    (last, y :: ys)

theorem map_threadMap {σ α β : Type} {step : σ → α → σ × α} {view : α → β}
    (kept : ∀ state x, view (step state x).2 = view x) (state : σ) (xs : List α) :
    (threadMap step state xs).2.map view = xs.map view := by
  induction xs generalizing state with
  | nil => rfl
  | cons x rest ih => simp [threadMap, kept, ih]

namespace Roster

variable {R : Type}

/-- The index holds the position of every subscription in the list, and nothing else. -/
def Faithful (roster : Roster R) : Prop :=
  ∀ (key : SubscriptionKey) (position : Nat), roster.index[key]? = some position ↔
    (roster.toList.map Subscription.key)[position]? = some key

theorem faithful_empty : ({} : Roster R).Faithful := by
  intro key position
  simp [toList]

theorem Faithful.of_keys {roster changed : Roster R} (faithful : roster.Faithful)
    (index : changed.index = roster.index)
    (keys : changed.toList.map Subscription.key = roster.toList.map Subscription.key) :
    changed.Faithful := by
  intro key position
  rw [index, keys]
  exact faithful key position

theorem Faithful.nodup {roster : Roster R} (faithful : roster.Faithful) :
    (roster.toList.map Subscription.key).Nodup := by
  rw [List.nodup_iff_injective_getElem]
  intro first second same
  have found (position : Fin (roster.toList.map Subscription.key).length) :
      roster.index[(roster.toList.map Subscription.key)[position]]? = some position.val :=
    (faithful _ _).2 (List.getElem?_eq_getElem position.isLt)
  have positions := (found first).symm.trans ((congrArg (roster.index[·]?) same).trans (found second))
  exact Fin.ext (Option.some.inj positions)

theorem mem_activeOf {roster : Roster R} {customer : CustomerId}
    {subscription : Subscription R} :
    subscription ∈ roster.activeOf customer ↔
      subscription ∈ roster.toList ∧ subscription.customer.id = customer ∧
        0 < subscription.committed := by
  simp [activeOf, Subscription.isEmpty, Nat.pos_iff_ne_zero]

theorem find?_eq_some_iff {roster : Roster R} (faithful : roster.Faithful)
    {key : SubscriptionKey} {subscription : Subscription R} :
    roster.find? key = some subscription ↔
      subscription ∈ roster.toList ∧ subscription.key = key := by
  simp only [find?, Option.bind_eq_some_iff]
  constructor
  · rintro ⟨position, indexed, found⟩
    have listed := (faithful key position).1 indexed
    simp only [toList, List.getElem?_map, Array.getElem?_toList, found, Option.map_some,
      Option.some.injEq] at listed
    exact ⟨Array.mem_toList_iff.2 (Array.mem_of_getElem? found), listed⟩
  · rintro ⟨listed, rfl⟩
    obtain ⟨position, found⟩ := List.mem_iff_getElem?.1 listed
    refine ⟨position, (faithful _ _).2 (by simp [found]), ?_⟩
    simpa [toList] using found

theorem find?_eq_none_iff {roster : Roster R} (faithful : roster.Faithful)
    {key : SubscriptionKey} :
    roster.find? key = none ↔ ∀ subscription ∈ roster.toList, subscription.key ≠ key := by
  constructor
  · intro missing subscription listed same
    rw [(find?_eq_some_iff faithful).2 ⟨listed, same⟩] at missing
    cases missing
  · intro different
    cases found : roster.find? key with
    | none => rfl
    | some subscription =>
        obtain ⟨listed, same⟩ := (find?_eq_some_iff faithful).1 found
        exact absurd same (different subscription listed)

theorem contains_iff {roster : Roster R} (faithful : roster.Faithful) {key : SubscriptionKey} :
    roster.index.contains key = true ↔ ∃ subscription, roster.find? key = some subscription := by
  rw [Std.HashMap.contains_eq_isSome_getElem?, Option.isSome_iff_exists]
  constructor
  · rintro ⟨position, indexed⟩
    have listed := (faithful key position).1 indexed
    simp only [toList, List.getElem?_map, Array.getElem?_toList, Option.map_eq_some_iff] at listed
    obtain ⟨subscription, found, -⟩ := listed
    exact ⟨subscription, by simp [find?, indexed, found]⟩
  · rintro ⟨subscription, found⟩
    simp only [find?, Option.bind_eq_some_iff] at found
    obtain ⟨position, indexed, -⟩ := found
    exact ⟨position, indexed⟩

/-! ## Changing one subscription -/

theorem exists_split {roster : Roster R} (faithful : roster.Faithful) {key : SubscriptionKey}
    {subscription : Subscription R} (found : roster.find? key = some subscription) :
    ∃ before after, roster.toList = before ++ subscription :: after ∧
      (∀ other ∈ before ++ after, other.key ≠ key) ∧
      ∀ change, (roster.modify key change).toList = before ++ change subscription :: after := by
  simp only [find?, Option.bind_eq_some_iff] at found
  obtain ⟨position, indexed, found⟩ := found
  have listed : roster.toList[position]? = some subscription := by simpa [toList] using found
  have same : subscription.key = key := by
    have listedKey := (faithful key position).1 indexed
    rw [List.getElem?_map, listed] at listedKey
    exact Option.some.inj listedKey
  obtain ⟨bound, atPosition⟩ := List.getElem?_eq_some_iff.1 listed
  have split : roster.toList =
      roster.toList.take position ++ subscription :: roster.toList.drop (position + 1) := by
    rw [← atPosition, List.getElem_cons_drop, List.take_append_drop]
  refine ⟨_, _, split, ?_, ?_⟩
  · have nodup := faithful.nodup
    rw [split, List.map_append, List.map_cons, List.nodup_middle] at nodup
    have fresh := (List.nodup_cons.1 nodup).1
    intro other listedOther sameOther
    rw [← List.map_append] at fresh
    exact fresh (List.mem_map.2 ⟨other, listedOther, sameOther.trans same.symm⟩)
  · intro change
    have inside : position < roster.subscriptions.toList.length := bound
    have value : roster.subscriptions.toList[position] = subscription := atPosition
    simp only [modify, indexed, toList, Array.toList_modify]
    rw [List.modify_eq_take_cons_drop inside, value]

theorem modify_of_none {roster : Roster R} (faithful : roster.Faithful) {key : SubscriptionKey}
    (missing : roster.find? key = none) (change : Subscription R → Subscription R) :
    roster.modify key change = roster := by
  have unknown : ¬ roster.index.contains key = true := by
    rw [contains_iff faithful, missing]
    rintro ⟨_, impossible⟩
    cases impossible
  have unplaced : roster.index[key]? = none :=
    Std.HashMap.getElem?_eq_none fun member => unknown (Std.HashMap.mem_iff_contains.1 member)
  simp only [modify, unplaced]

theorem toList_modify {roster : Roster R} (faithful : roster.Faithful) (key : SubscriptionKey)
    (change : Subscription R → Subscription R) :
    (roster.modify key change).toList =
      roster.toList.map fun s => if s.key = key then change s else s := by
  have others {list : List (Subscription R)} (apart : ∀ s ∈ list, s.key ≠ key) :
      (list.map fun s => if s.key = key then change s else s) = list :=
    (List.map_congr_left fun s listed => if_neg (apart s listed)).trans (List.map_id' list)
  cases found : roster.find? key with
  | none => rw [modify_of_none faithful found, others ((find?_eq_none_iff faithful).1 found)]
  | some subscription =>
      obtain ⟨before, after, list, apart, changed⟩ := exists_split faithful found
      have own : subscription.key = key := ((find?_eq_some_iff faithful).1 found).2
      rw [changed, list, List.map_append, List.map_cons, if_pos own,
        others fun s listed => apart s (List.mem_append_left _ listed),
        others fun s listed => apart s (List.mem_append_right _ listed)]

theorem Faithful.modify {roster : Roster R} (faithful : roster.Faithful) {key : SubscriptionKey}
    {subscription : Subscription R} (found : roster.find? key = some subscription)
    {change : Subscription R → Subscription R}
    (kept : (change subscription).key = subscription.key) :
    (roster.modify key change).Faithful := by
  obtain ⟨before, after, list, -, changed⟩ := exists_split faithful found
  refine faithful.of_keys ?_ ?_
  · unfold Roster.modify
    split <;> rfl
  · simp only [list, changed, List.map_append, List.map_cons, kept]

theorem mem_modify {roster : Roster R} (faithful : roster.Faithful) {key : SubscriptionKey}
    {subscription : Subscription R} (found : roster.find? key = some subscription)
    {change : Subscription R → Subscription R} {other : Subscription R} :
    other ∈ (roster.modify key change).toList ↔
      other = change subscription ∨ (other ∈ roster.toList ∧ other.key ≠ key) := by
  obtain ⟨before, after, list, different, changed⟩ := exists_split faithful found
  have same : subscription.key = key := ((find?_eq_some_iff faithful).1 found).2
  rw [changed, list]
  simp only [List.mem_append, List.mem_cons] at different ⊢
  constructor
  · rintro (earlier | rfl | later)
    · exact .inr ⟨.inl earlier, different _ (.inl earlier)⟩
    · exact .inl rfl
    · exact .inr ⟨.inr (.inr later), different _ (.inr later)⟩
  · rintro (rfl | ⟨earlier | rfl | later, otherKey⟩)
    · exact .inr (.inl rfl)
    · exact .inl earlier
    · exact absurd same otherKey
    · exact .inr (.inr later)

theorem find?_modify_of_ne {roster : Roster R} (faithful : roster.Faithful)
    {key other : SubscriptionKey} {subscription : Subscription R}
    (found : roster.find? key = some subscription) {change : Subscription R → Subscription R}
    (kept : (change subscription).key = subscription.key) (different : other ≠ key) :
    (roster.modify key change).find? other = roster.find? other := by
  have same : subscription.key = key := ((find?_eq_some_iff faithful).1 found).2
  ext candidate
  rw [find?_eq_some_iff (faithful.modify found kept), find?_eq_some_iff faithful,
    mem_modify faithful found]
  constructor
  · rintro ⟨rfl | ⟨listed, -⟩, rfl⟩
    · exact absurd (kept.trans same) different
    · exact ⟨listed, rfl⟩
  · rintro ⟨listed, rfl⟩
    exact ⟨.inr ⟨listed, different⟩, rfl⟩

theorem find?_eq_find? {roster : Roster R} (faithful : roster.Faithful) (key : SubscriptionKey) :
    roster.find? key = roster.toList.find? fun s => s.key == key := by
  cases found : roster.find? key with
  | none =>
      have others := (find?_eq_none_iff faithful).1 found
      exact (List.find?_eq_none.2 fun s listed => by simpa using others s listed).symm
  | some subscription =>
      obtain ⟨before, after, list, apart, -⟩ := exists_split faithful found
      have own : subscription.key = key := ((find?_eq_some_iff faithful).1 found).2
      refine (List.find?_eq_some_iff_append.2 ⟨by simpa using own, before, after, list, ?_⟩).symm
      intro s listed
      simpa using apart s (List.mem_append_left _ listed)

/-! ## Opening a subscription -/

variable [Quantity R]

theorem toList_ensure (roster : Roster R) (customer : Customer) (tariff : Tariff R) :
    (roster.ensure customer tariff).toList =
      if roster.index.contains ⟨customer.id, tariff.id⟩ then roster.toList
      else roster.toList ++ [Subscription.opened customer tariff] := by
  unfold ensure
  by_cases known : roster.index.contains ⟨customer.id, tariff.id⟩ = true
  · rw [if_pos known, if_pos known]
  · rw [if_neg known, if_neg known]
    exact Array.toList_push

theorem Faithful.ensure {roster : Roster R} (faithful : roster.Faithful) (customer : Customer)
    (tariff : Tariff R) : (roster.ensure customer tariff).Faithful := by
  by_cases known : roster.index.contains ⟨customer.id, tariff.id⟩ = true
  · rw [Roster.ensure, if_pos known]
    exact faithful
  · intro key position
    have absent : roster.index[(⟨customer.id, tariff.id⟩ : SubscriptionKey)]? = none :=
      Std.HashMap.getElem?_eq_none (fun member => known (Std.HashMap.mem_iff_contains.1 member))
    have unlisted : (⟨customer.id, tariff.id⟩ : SubscriptionKey) ∉
        roster.toList.map Subscription.key := by
      intro listed
      obtain ⟨place, found⟩ := List.mem_iff_getElem?.1 listed
      rw [(faithful _ _).2 found] at absent
      cases absent
    have index : (roster.ensure customer tariff).index =
        roster.index.insert ⟨customer.id, tariff.id⟩ roster.subscriptions.size := by
      rw [Roster.ensure, if_neg known]
    have size : (roster.toList.map Subscription.key).length = roster.subscriptions.size := by
      simp [toList]
    rw [index, toList_ensure, if_neg known, List.map_append, Std.HashMap.getElem?_insert]
    by_cases same : (⟨customer.id, tariff.id⟩ : SubscriptionKey) = key
    · subst same
      simp only [beq_self_eq_true, if_true, Option.some.injEq]
      constructor
      · rintro rfl
        rw [List.getElem?_append_right (by omega), size]
        simp [Subscription.key, Subscription.opened]
      · intro found
        rcases Nat.lt_or_ge position (roster.toList.map Subscription.key).length with low | high
        · rw [List.getElem?_append_left low] at found
          exact absurd (List.mem_of_getElem? found) unlisted
        · rw [List.getElem?_append_right high] at found
          obtain ⟨bound, -⟩ := List.getElem?_eq_some_iff.1 found
          simp only [List.map_cons, List.map_nil, List.length_singleton] at bound
          omega
    · simp only [beq_iff_eq, same, if_false]
      rw [faithful key position]
      rcases Nat.lt_or_ge position (roster.toList.map Subscription.key).length with low | high
      · rw [List.getElem?_append_left low]
      · rw [List.getElem?_append_right high, List.getElem?_eq_none high]
        simp only [false_iff, reduceCtorEq]
        intro found
        have listed := List.mem_of_getElem? found
        simp only [List.map_cons, List.map_nil, List.mem_singleton] at listed
        exact same listed.symm

theorem find?_ensure {roster : Roster R} (faithful : roster.Faithful) (customer : Customer)
    (tariff : Tariff R) :
    (roster.ensure customer tariff).find? ⟨customer.id, tariff.id⟩ =
      some ((roster.find? ⟨customer.id, tariff.id⟩).getD
        (Subscription.opened customer tariff)) := by
  rw [find?_eq_some_iff (faithful.ensure customer tariff), toList_ensure]
  cases found : roster.find? ⟨customer.id, tariff.id⟩ with
  | some subscription =>
      rw [if_pos ((contains_iff faithful).2 ⟨subscription, found⟩)]
      exact (find?_eq_some_iff faithful).1 found
  | none =>
      have known : ¬ roster.index.contains ⟨customer.id, tariff.id⟩ = true := by
        rw [contains_iff faithful, found]
        rintro ⟨_, impossible⟩
        cases impossible
      rw [if_neg known]
      simp [Subscription.key, Subscription.opened]

/-! ## Passing through all subscriptions -/

omit [Quantity R] in
theorem mapAccum_eq {σ : Type} (roster : Roster R)
    (step : σ → Subscription R → σ × Subscription R) (start : σ) :
    roster.mapAccum step start =
      ((threadMap step start roster.toList).1,
        { roster with subscriptions := (threadMap step start roster.toList).2.toArray }) := by
  have general (xs : List (Subscription R)) (state : σ) (done : Array (Subscription R)) :
      xs.foldl (fun passed subscription =>
          ((step passed.1 subscription).1, passed.2.push (step passed.1 subscription).2))
          (state, done) =
        ((threadMap step state xs).1, done ++ (threadMap step state xs).2.toArray) := by
    induction xs generalizing state done with
    | nil => simp [threadMap]
    | cons x rest ih =>
        rw [List.foldl_cons, ih]
        simp [threadMap]
  simp only [mapAccum, ← Array.foldl_toList]
  rw [general]
  simp [toList]

end Roster

end RetailMarket
