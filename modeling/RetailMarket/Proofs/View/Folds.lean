import RetailMarket.Proofs.Roster

/-!
# Folds that a view follows

A fold over a list is seen through a view of its state.  Some elements of the list are its own, and
change the view by what is in it; the others are foreign and leave it as it is.  Then the view
depends on the own elements only, whatever stands between them.
-/

namespace RetailMarket

section Folds

variable {σ ν α : Type} (view : σ → ν) (good : σ → Prop) (step step' : σ → α → σ) (own : α → Bool)
  (keeps : ∀ state x, good state → good (step state x))
  (keeps' : ∀ state x, good state → good (step' state x))
  (foreign : ∀ state x, good state → own x = false → view (step state x) = view state)
  (foreign' : ∀ state x, good state → own x = false → view (step' state x) = view state)
  (inside : ∀ first second x, good first → good second → view first = view second →
    own x = true → view (step first x) = view (step' second x))

include keeps keeps' foreign inside in
theorem foldl_view_filter {first second : σ} (goodFirst : good first) (goodSecond : good second)
    (same : view first = view second) (xs : List α) :
    view (xs.foldl step first) = view ((xs.filter own).foldl step' second) := by
  induction xs generalizing first second with
  | nil => exact same
  | cons x rest ih =>
      cases mine : own x with
      | false =>
          rw [List.filter_cons_of_neg (by simp [mine]), List.foldl_cons]
          exact ih (keeps _ _ goodFirst) goodSecond ((foreign _ _ goodFirst mine).trans same)
      | true =>
          rw [List.filter_cons_of_pos mine, List.foldl_cons, List.foldl_cons]
          exact ih (keeps _ _ goodFirst) (keeps' _ _ goodSecond)
            (inside _ _ _ goodFirst goodSecond same mine)

include keeps keeps' foreign foreign' inside in
/-- Two folds over lists with the same own elements end in the same view, when other elements leave
the view alone and own ones change it by what is in it. -/
theorem foldl_views {first second : σ} (goodFirst : good first) (goodSecond : good second)
    (same : view first = view second) {xs ys : List α} (agree : xs.filter own = ys.filter own) :
    view (xs.foldl step first) = view (ys.foldl step' second) := by
  have inside' (left right : σ) (x : α) (goodLeft : good left) (goodRight : good right)
      (equal : view left = view right) (mine : own x = true) :
      view (step' left x) = view (step right x) :=
    (inside right left x goodRight goodLeft equal.symm mine).symm
  -- Both folds are carried over to the own elements, where the steps may be exchanged.
  have left := foldl_view_filter view good step step' own keeps keeps' foreign inside goodFirst
    goodSecond same
  have right := foldl_view_filter view good step' step own keeps' keeps foreign' inside' goodSecond
    goodFirst same.symm ys
  have middle := left (xs.filter own)
  rw [List.filter_filter] at middle
  simp only [Bool.and_self] at middle
  rw [left xs, right, ← middle, agree]

omit keeps' foreign' inside in
include keeps foreign in
theorem foldl_view
    (inside : ∀ first second x, good first → good second → view first = view second →
      own x = true → view (step first x) = view (step second x))
    {first second : σ} (goodFirst : good first) (goodSecond : good second)
    (same : view first = view second) {xs ys : List α} (agree : xs.filter own = ys.filter own) :
    view (xs.foldl step first) = view (ys.foldl step second) :=
  foldl_views view good step step own keeps keeps foreign foreign inside goodFirst goodSecond same
    agree

end Folds

theorem threadMap_eq_foldl {σ α : Type} (step : σ → α → σ × α) (start : σ) (xs : List α) :
    threadMap step start xs =
      xs.foldl (fun state x => ((step state.1 x).1, state.2 ++ [(step state.1 x).2]))
        (start, []) := by
  have general (state : σ) (done : List α) :
      xs.foldl (fun state x => ((step state.1 x).1, state.2 ++ [(step state.1 x).2]))
          (state, done) =
        ((threadMap step state xs).1, done ++ (threadMap step state xs).2) := by
    induction xs generalizing state done with
    | nil => simp [threadMap]
    | cons x rest ih =>
        rw [List.foldl_cons, ih]
        simp [threadMap]
  rw [general]
  rfl

theorem threadMap_views {σ ν α : Type} (view : σ → ν) (good : σ → Prop)
    (step step' : σ → α → σ × α) (own : α → Bool)
    (kept : ∀ state x, own (step state x).2 = own x)
    (kept' : ∀ state x, own (step' state x).2 = own x)
    (keeps : ∀ state x, good state → good (step state x).1)
    (keeps' : ∀ state x, good state → good (step' state x).1)
    (foreign : ∀ state x, good state → own x = false → view (step state x).1 = view state)
    (foreign' : ∀ state x, good state → own x = false → view (step' state x).1 = view state)
    (inside : ∀ first second x, good first → good second → view first = view second →
      own x = true → view (step first x).1 = view (step' second x).1 ∧
        (step first x).2 = (step' second x).2)
    {first second : σ} (goodFirst : good first) (goodSecond : good second)
    (same : view first = view second) {xs ys : List α} (agree : xs.filter own = ys.filter own) :
    view (threadMap step first xs).1 = view (threadMap step' second ys).1 ∧
      (threadMap step first xs).2.filter own = (threadMap step' second ys).2.filter own := by
  let seen (state : σ × List α) : ν × List α := (view state.1, state.2.filter own)
  let collect (step : σ → α → σ × α) (state : σ × List α) (x : α) : σ × List α :=
    ((step state.1 x).1, state.2 ++ [(step state.1 x).2])
  have skip (step : σ → α → σ × α) (kept : ∀ state x, own (step state x).2 = own x)
      (foreign : ∀ state x, good state → own x = false → view (step state x).1 = view state)
      (state : σ × List α) (x : α) (holds : good state.1) (other : own x = false) :
      seen (collect step state x) = seen state := by
    simp [seen, collect, foreign state.1 x holds other, kept, other]
  have both := foldl_views seen (fun state => good state.1) (collect step) (collect step') own
    (fun state x holds => keeps state.1 x holds) (fun state x holds => keeps' state.1 x holds)
    (skip step kept foreign) (skip step' kept' foreign')
    (fun left right x holds holds' equal mine => by
      obtain ⟨views, done⟩ := Prod.mk.inj equal
      obtain ⟨next, result⟩ := inside left.1 right.1 x holds holds' views mine
      simp only [seen, collect, next, result, List.filter_append, done])
    (show good (first, ([] : List α)).1 from goodFirst)
    (show good (second, ([] : List α)).1 from goodSecond) (Prod.ext same rfl) agree
  rw [threadMap_eq_foldl, threadMap_eq_foldl]
  exact Prod.mk.inj both

end RetailMarket
