import RetailMarket.Proofs.Commitment

/-!
# Contract records member by member

The records of a subscription stand for its members, each with the horizon of its own contract.
Releasing drops from the front of the horizons, so that members leave in the order of the records;
where these are chronological those whose contract has run out leave first.  Records keep the sum of
what is enrolled, or released, bit by bit.
-/

namespace RetailMarket

namespace ExpirationRecord

/-- The horizons of the members, one for each, in the order of their records. -/
def horizons (records : List ExpirationRecord) : List Instant :=
  records.flatMap fun record => List.replicate record.count record.horizon

def Chronological (records : List ExpirationRecord) : Prop :=
  (records.map (·.horizon)).Pairwise (· ≤ ·)

theorem horizons_cons (record : ExpirationRecord) (rest : List ExpirationRecord) :
    horizons (record :: rest) = List.replicate record.count record.horizon ++ horizons rest :=
  List.flatMap_cons

theorem horizons_release (count : Nat) (records : List ExpirationRecord) :
    horizons (release count records) = (horizons records).drop count := by
  fun_induction release count records with
  | case1 => simp [horizons]
  | case2 => rfl
  | case3 count record rest _ fits ih =>
      have fit : (List.replicate record.count record.horizon).length ≤ count := by simpa using fits
      rw [ih, horizons_cons, List.drop_append, List.drop_of_length_le fit]
      simp
  | case4 count record rest _ splits =>
      rw [horizons_cons, horizons_cons, List.drop_append_of_le_length (by simp; omega)]
      simp

theorem release_suffix (count : Nat) (records : List ExpirationRecord) :
    release count records <:+ records ∨
      ∃ record rest left, record :: rest <:+ records ∧ 0 < left ∧ left < record.count ∧
        release count records = ⟨record.horizon, left⟩ :: rest := by
  fun_induction release count records with
  | case1 => exact .inl List.suffix_rfl
  | case2 => exact .inl List.suffix_rfl
  | case3 count record rest _ fits ih =>
      have later : rest <:+ record :: rest := List.suffix_cons record rest
      rcases ih with whole | ⟨split, kept, left, within, some, most, same⟩
      · exact .inl (whole.trans later)
      · exact .inr ⟨split, kept, left, within.trans later, some, most, same⟩
  | case4 count record rest positive splits =>
      have moving : 0 < count := Nat.pos_of_ne_zero positive
      exact .inr ⟨record, rest, record.count - count, List.suffix_rfl, by omega, by omega, rfl⟩

theorem horizons_sublist_of_release (count : Nat) (records : List ExpirationRecord) :
    ((release count records).map (·.horizon)).Sublist (records.map (·.horizon)) := by
  rcases release_suffix count records with whole | ⟨record, rest, left, within, -, -, same⟩
  · exact whole.sublist.map _
  · rw [same]
    exact within.sublist.map (·.horizon)

theorem Chronological.release {records : List ExpirationRecord}
    (chronological : Chronological records) (count : Nat) :
    Chronological (release count records) :=
  chronological.sublist (horizons_sublist_of_release count records)

theorem Chronological.pairwise_horizons {records : List ExpirationRecord}
    (chronological : Chronological records) : (horizons records).Pairwise (· ≤ ·) := by
  induction records with
  | nil => exact .nil
  | cons record rest ih =>
      obtain ⟨first, later⟩ := List.pairwise_cons.1 chronological
      rw [horizons_cons, List.pairwise_append]
      refine ⟨List.pairwise_replicate.2 (.inr (Int.le_refl _)), ih later, ?_⟩
      intro own here horizon there
      rw [List.eq_of_mem_replicate here]
      obtain ⟨other, listed, member⟩ := List.mem_flatMap.1 there
      rw [List.eq_of_mem_replicate member]
      exact first _ (List.mem_map_of_mem listed)

/-! ## Members whose contract has run out -/

theorem expiredCount_eq_countP (now : Instant) (records : List ExpirationRecord) :
    expiredCount now records = (horizons records).countP fun horizon => decide (horizon ≤ now) := by
  induction records with
  | nil => rfl
  | cons record rest ih =>
      rw [horizons_cons, List.countP_append, ← ih, List.countP_replicate]
      by_cases expired : record.horizon ≤ now <;> simp [expiredCount, expired]

section Instants

variable {instants : List Instant} (sorted : instants.Pairwise (· ≤ ·)) (now : Instant)

include sorted in
theorem countP_drop_instants (count : Nat) :
    ((instants.drop count).countP fun instant => decide (instant ≤ now)) =
      (instants.countP fun instant => decide (instant ≤ now)) - count := by
  induction instants generalizing count with
  | nil => simp
  | cons instant rest ih =>
      obtain ⟨first, later⟩ := List.pairwise_cons.1 sorted
      cases count with
      | zero => rfl
      | succ count =>
          rw [List.drop_succ_cons, ih later, List.countP_cons]
          by_cases passed : instant ≤ now
          · simp [passed]
          · -- Nothing after an instant that has not passed has passed either.
            have none : rest.countP (fun other => decide (other ≤ now)) = 0 :=
              List.countP_eq_zero.2 fun other listed found =>
                passed (Int.le_trans (first other listed) (of_decide_eq_true found))
            simp [passed, none]

end Instants

theorem expiredCount_release {records : List ExpirationRecord}
    (chronological : Chronological records) (now : Instant) (count : Nat) :
    expiredCount now (release count records) = expiredCount now records - count := by
  rw [expiredCount_eq_countP, horizons_release,
    countP_drop_instants chronological.pairwise_horizons, ← expiredCount_eq_countP]

/-! ## Records of increasing horizons -/

def Ascending (records : List ExpirationRecord) : Prop :=
  (records.map (·.horizon)).Pairwise fun earlier later => earlier.millis < later.millis

theorem Ascending.chronological {records : List ExpirationRecord} (ascending : Ascending records) :
    Chronological records :=
  ascending.imp fun earlier => Int.le_of_lt earlier

theorem Ascending.release {records : List ExpirationRecord} (ascending : Ascending records)
    (count : Nat) : Ascending (release count records) :=
  ascending.sublist (horizons_sublist_of_release count records)

theorem horizon_of_mem_enroll {horizon : Instant} {count : Nat} {records : List ExpirationRecord}
    {found : Instant} (listed : found ∈ (enroll horizon count records).map (·.horizon)) :
    found ∈ records.map (·.horizon) ∨ found = horizon := by
  fun_induction enroll horizon count records with
  | case1 => simpa using listed
  | case2 last same => simpa [same] using listed
  | case3 last different => simpa using listed
  | case4 record next rest ih =>
      rcases List.mem_cons.1 listed with rfl | later
      · exact .inl List.mem_cons_self
      · exact (ih later).imp_left (List.mem_cons_of_mem _)

theorem Ascending.enroll {records : List ExpirationRecord} (ascending : Ascending records)
    {horizon : Instant} (latest : ∀ record ∈ records, record.horizon ≤ horizon) (count : Nat) :
    Ascending (enroll horizon count records) := by
  fun_induction ExpirationRecord.enroll horizon count records with
  | case1 => exact List.pairwise_singleton _ _
  | case2 last same => exact List.pairwise_singleton _ _
  | case3 last different =>
      have bound : last.horizon.millis ≤ horizon.millis := latest last List.mem_cons_self
      have apart : last.horizon.millis ≠ horizon.millis := fun same =>
        different (congrArg Instant.mk same)
      have before : last.horizon.millis < horizon.millis := by omega
      exact List.pairwise_pair.2 before
  | case4 record next rest ih =>
      obtain ⟨first, later⟩ := List.pairwise_cons.1 ascending
      refine List.pairwise_cons.2
        ⟨?_, ih later fun other listed => latest other (List.mem_cons_of_mem _ listed)⟩
      intro found listed
      rcases horizon_of_mem_enroll listed with old | rfl
      · exact first found old
      · have before : record.horizon.millis < next.horizon.millis :=
          first next.horizon List.mem_cons_self
        exact Int.lt_of_lt_of_le before (latest next (List.mem_cons_of_mem _ List.mem_cons_self))

/-! ## Bit by bit -/

theorem release_zero (records : List ExpirationRecord) : release 0 records = records := by
  cases records <;> rfl

theorem release_cons {count : Nat} (moving : count ≠ 0) (record : ExpirationRecord)
    (rest : List ExpirationRecord) :
    release count (record :: rest) =
      if record.count ≤ count then release (count - record.count) rest
      else ⟨record.horizon, record.count - count⟩ :: rest :=
  release.eq_3 count record rest moving

theorem enroll_cons (horizon : Instant) (count : Nat) (record : ExpirationRecord)
    {rest : List ExpirationRecord} (more : rest ≠ []) :
    enroll horizon count (record :: rest) = record :: enroll horizon count rest := by
  cases rest with
  | nil => exact absurd rfl more
  | cons next rest => rfl

theorem enroll_ne_nil (horizon : Instant) (count : Nat) (records : List ExpirationRecord) :
    enroll horizon count records ≠ [] := by
  fun_cases enroll horizon count records <;> simp

theorem release_release (first second : Nat) (records : List ExpirationRecord) :
    release second (release first records) = release (first + second) records := by
  fun_induction release first records with
  | case1 => simp [release]
  | case2 => rw [Nat.zero_add]
  | case3 first record rest positive fits ih =>
      have moving : first + second ≠ 0 := by
        have : first ≠ 0 := positive
        omega
      rw [ih, release_cons moving, if_pos (by omega), Nat.sub_add_comm fits]
  | case4 first record rest positive splits =>
      have moving : first ≠ 0 := positive
      cases second with
      | zero => rw [Nat.add_zero, release_cons moving, if_neg splits, release_zero]
      | succ second =>
          rw [release_cons (Nat.succ_ne_zero second), release_cons (by omega)]
          by_cases all : record.count ≤ first + (second + 1)
          · rw [if_pos all, if_pos (by simp only; omega)]
            congr 1
            simp only
            omega
          · rw [if_neg all, if_neg (by simp only; omega)]
            simp only [Nat.sub_sub]

theorem enroll_enroll (horizon : Instant) (first second : Nat) (records : List ExpirationRecord) :
    enroll horizon second (enroll horizon first records) =
      enroll horizon (first + second) records := by
  fun_induction enroll horizon first records with
  | case1 => simp [enroll]
  | case2 last same => simp [enroll, same, Nat.add_assoc]
  | case3 last different => simp [enroll, different]
  | case4 record next rest ih =>
      rw [enroll_cons _ _ _ (enroll_ne_nil _ _ _), ih]
      rfl

end ExpirationRecord

end RetailMarket
