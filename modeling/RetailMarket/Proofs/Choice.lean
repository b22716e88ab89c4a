import RetailMarket.Proofs.Ranking

/-!
# The logit choice

Over exact numbers every alternative has a positive share of the total weight, the shares add up to
one, and a better alternative has no smaller a share.  The walk ends where the shares passed first
reach the sample, so that every sample below one picks an alternative, and the samples that pick it
measure its share.
-/

namespace RetailMarket

theorem Quantity.total_real (xs : List ℝ) : Quantity.total xs = xs.sum := by
  rw [Quantity.total, neg_zero, List.sum_eq_foldl]

namespace Alternative

/-! ## The walk -/

section Walk

variable {alternatives : List (Alternative ℝ)} {sample : ℝ} {place : Nat}

/-- The probability of the first `count` alternatives together. -/
noncomputable def mass (alternatives : List (Alternative ℝ)) (count : Nat) : ℝ :=
  ((alternatives.take count).map probability).sum

theorem mass_cons_succ (alternative : Alternative ℝ) (rest : List (Alternative ℝ)) (count : Nat) :
    mass (alternative :: rest) (count + 1) = alternative.probability + mass rest count := by
  rw [mass, List.take_succ_cons, List.map_cons, List.sum_cons, mass]

theorem mass_length (alternatives : List (Alternative ℝ)) :
    mass alternatives alternatives.length = (alternatives.map probability).sum := by
  rw [mass, List.take_length]

theorem mass_succ (listed : place < alternatives.length) :
    mass alternatives (place + 1) = mass alternatives place + alternatives[place].probability := by
  have step := List.sum_take_succ (alternatives.map probability) place (by simpa using listed)
  simpa [mass, List.map_take] using step

theorem mass_mono (shares : ∀ alternative ∈ alternatives, 0 ≤ alternative.probability)
    {fewer more : Nat} (le : fewer ≤ more) : mass alternatives fewer ≤ mass alternatives more := by
  refine List.Sublist.sum_le_sum ((List.take_sublist_take_left le).map _) fun share listed => ?_
  obtain ⟨alternative, taken, rfl⟩ := List.mem_map.1 listed
  exact shares alternative (List.mem_of_mem_take taken)

/-- The alternatives up to this place, and no fewer, have the probability of the sample. -/
structure Reaches (alternatives : List (Alternative ℝ)) (sample : ℝ) (place : Nat) : Prop where
  listed : place < alternatives.length
  reached : sample ≤ mass alternatives (place + 1)
  first : ∀ earlier < place, mass alternatives (earlier + 1) < sample

theorem Reaches.unique {other : Nat} (reaches : Reaches alternatives sample place)
    (again : Reaches alternatives sample other) : place = other := by
  rcases lt_trichotomy place other with before | same | after
  · exact absurd (again.first place before) (not_lt.2 reaches.reached)
  · exact same
  · exact absurd (reaches.first other after) (not_lt.2 again.reached)

theorem exists_reaches (nonempty : alternatives ≠ [])
    (covered : sample ≤ mass alternatives alternatives.length) :
    ∃ place, Reaches alternatives sample place := by
  classical
  have positive := List.length_pos_of_ne_nil nonempty
  have last : sample ≤ mass alternatives (alternatives.length - 1 + 1) := by
    rwa [Nat.sub_add_cancel positive]
  have found : ∃ place, sample ≤ mass alternatives (place + 1) := ⟨_, last⟩
  refine ⟨Nat.find found, ?_, Nat.find_spec found, fun earlier before => ?_⟩
  · have bound := Nat.find_min' found last
    omega
  · exact not_le.1 (Nat.find_min found before)

theorem Reaches.tail {alternative : Alternative ℝ} {rest : List (Alternative ℝ)}
    (reaches : Reaches (alternative :: rest) sample (place + 1)) :
    Reaches rest (sample - alternative.probability) place := by
  refine ⟨Nat.lt_of_succ_lt_succ reaches.listed, ?_, fun earlier before => ?_⟩
  · have reached := reaches.reached
    rw [mass_cons_succ] at reached
    linarith
  · have passed := reaches.first (earlier + 1) (Nat.succ_lt_succ before)
    rw [mass_cons_succ] at passed
    linarith

theorem choose?_of_reaches (reaches : Reaches alternatives sample place) :
    ∃ alternative, alternatives[place]? = some alternative ∧
      choose? sample alternatives = some alternative.tariff := by
  induction alternatives generalizing sample place with
  | nil => exact absurd reaches.listed (Nat.not_lt_zero _)
  | cons alternative rest ih =>
      cases place with
      | zero =>
          have reached := reaches.reached
          rw [mass_cons_succ, mass, List.take_zero, List.map_nil, List.sum_nil, add_zero] at reached
          exact ⟨alternative, rfl, if_pos reached⟩
      | succ place =>
          have passed := reaches.first 0 (Nat.succ_pos _)
          rw [mass_cons_succ, mass, List.take_zero, List.map_nil, List.sum_nil, add_zero] at passed
          obtain ⟨picked, found, chosen⟩ := ih reaches.tail
          exact ⟨picked, found, (if_neg (not_le.2 passed)).trans chosen⟩

theorem volume_reaches (shares : ∀ alternative ∈ alternatives, 0 ≤ alternative.probability)
    (whole : (alternatives.map probability).sum = 1) (listed : place < alternatives.length) :
    MeasureTheory.volume {sample : ℝ | (0 ≤ sample ∧ sample < 1) ∧
      Reaches alternatives sample place} = ENNReal.ofReal alternatives[place].probability := by
  have least : 0 ≤ mass alternatives place := by
    simpa [mass] using mass_mono shares (Nat.zero_le place)
  have greatest : mass alternatives (place + 1) ≤ 1 := by
    rw [← whole, ← mass_length]
    exact mass_mono shares listed
  have width : mass alternatives (place + 1) - mass alternatives place =
      alternatives[place].probability := by
    rw [mass_succ listed, add_sub_cancel_left]
  -- Up to its end points the set is the interval between the masses before and after the place.
  apply le_antisymm
  · rw [← width, ← Real.volume_Icc]
    refine MeasureTheory.measure_mono ?_
    rintro sample ⟨⟨start, -⟩, reaches⟩
    refine ⟨?_, reaches.reached⟩
    cases place with
    | zero => simpa [mass] using start
    | succ before => exact (reaches.first before (Nat.lt_succ_self _)).le
  · rw [← width, ← Real.volume_Ioo]
    refine MeasureTheory.measure_mono ?_
    rintro sample ⟨above, below⟩
    refine ⟨⟨least.trans above.le, below.trans_le greatest⟩, listed, below.le, ?_⟩
    intro earlier before
    exact (mass_mono shares before).trans_lt above

end Walk

/-! ## The shares -/

section Shares

variable {alternatives : List (Alternative ℝ)} {sharpness : ℝ}

theorem precedes_iff (a b : Alternative ℝ) : precedes a b = true ↔
    b.utility < a.utility ∨ b.utility = a.utility ∧ b.tariff.id.number ≤ a.tariff.id.number := by
  simp only [precedes, Quantity.totalLE, Bool.and_eq_true, Bool.or_eq_true, Bool.not_eq_true',
    decide_eq_true_eq, decide_eq_false_iff_not, not_le]
  constructor
  · rintro ⟨atMost, strict | newer⟩
    · exact .inl strict
    · exact (lt_or_eq_of_le atMost).imp_right fun same => ⟨same, newer⟩
  · rintro (strict | ⟨same, newer⟩)
    · exact ⟨strict.le, .inl strict⟩
    · exact ⟨same.le, .inr newer⟩

theorem pairwise_ranked (alternatives : List (Alternative ℝ)) :
    (ranked alternatives).Pairwise fun a b => b.utility ≤ a.utility := by
  refine (pairwise_precedes_ranked alternatives).imp ?_
  intro a b before
  exact ((precedes_iff a b).1 before).elim le_of_lt fun tie => tie.1.le

theorem weight_pos (sharpness : ℝ) (alternative : Alternative ℝ) :
    0 < weight sharpness alternative :=
  Real.exp_pos _

theorem weight_mono (sharp : 0 ≤ sharpness) {a b : Alternative ℝ} (better : b.utility ≤ a.utility) :
    weight sharpness b ≤ weight sharpness a :=
  Real.exp_le_exp.2 (mul_le_mul_of_nonneg_left better sharp)

theorem assignProbabilities_real (sharpness : ℝ) (alternatives : List (Alternative ℝ)) :
    assignProbabilities sharpness alternatives = alternatives.map fun a =>
      { a with probability :=
          weight sharpness a / (alternatives.map (weight sharpness)).sum } := by
  simp only [assignProbabilities, Quantity.total_real, Quantity.replaceNaN, Quantity.isNaN_real,
    Bool.false_eq_true, if_false]

theorem sum_weights_pos (sharpness : ℝ) (nonempty : alternatives ≠ []) :
    0 < (alternatives.map (weight sharpness)).sum := by
  refine List.sum_pos _ (fun share listed => ?_) (by simpa using nonempty)
  obtain ⟨alternative, -, rfl⟩ := List.mem_map.1 listed
  exact weight_pos sharpness alternative

theorem probability_pos {alternative : Alternative ℝ}
    (listed : alternative ∈ assignProbabilities sharpness alternatives) :
    0 < alternative.probability := by
  rw [assignProbabilities_real] at listed
  obtain ⟨scored, member, rfl⟩ := List.mem_map.1 listed
  exact div_pos (weight_pos sharpness scored)
    (sum_weights_pos sharpness (List.ne_nil_of_mem member))

theorem sum_probability (sharpness : ℝ) (nonempty : alternatives ≠ []) :
    ((assignProbabilities sharpness alternatives).map probability).sum = 1 := by
  have whole := sum_weights_pos sharpness nonempty
  rw [assignProbabilities_real, List.map_map]
  calc
    _ = (alternatives.map fun a =>
          weight sharpness a * (alternatives.map (weight sharpness)).sum⁻¹).sum := rfl
    _ = (alternatives.map (weight sharpness)).sum * (alternatives.map (weight sharpness)).sum⁻¹ :=
        List.sum_map_mul_right ..
    _ = 1 := mul_inv_cancel₀ whole.ne'

theorem pairwise_probability (sharp : 0 ≤ sharpness) (alternatives : List (Alternative ℝ)) :
    ((assignProbabilities sharpness (ranked alternatives)).map probability).Pairwise (· ≥ ·) := by
  rw [assignProbabilities_real, List.map_map, List.pairwise_map]
  refine (pairwise_ranked alternatives).imp fun {a b} better => ?_
  refine div_le_div_of_nonneg_right (weight_mono sharp better)
    (List.sum_nonneg fun share listed => ?_)
  obtain ⟨alternative, -, rfl⟩ := List.mem_map.1 listed
  exact (weight_pos sharpness alternative).le

theorem sharpness_nonneg {rationality : ℝ} (rational : 0 ≤ rationality) :
    0 ≤ Utility.sharpness (greatestSharpness : ℝ) rationality := by
  have greatest : (1 : ℝ) ≤ greatestSharpness := by
    norm_num [greatestSharpness]
  exact sub_nonneg.2 (Real.one_le_rpow greatest rational)

theorem exists_reaches_assignProbabilities (sharpness : ℝ) (nonempty : alternatives ≠ [])
    {sample : ℝ} (below : sample < 1) :
    ∃ place, Reaches (assignProbabilities sharpness alternatives) sample place := by
  have assigned : assignProbabilities sharpness alternatives ≠ [] := by
    simpa [assignProbabilities_real] using nonempty
  refine exists_reaches assigned ?_
  rw [mass_length, sum_probability sharpness nonempty]
  exact below.le

end Shares

/-- The alternatives, ranked, have positive shares that add up to one and do not increase.  Every
sample picks the first of them with which the shares passed reach the sample, and no other; the
samples that pick an alternative measure its share. -/
theorem choice_follows_shares {alternatives : List (Alternative ℝ)} (nonempty : alternatives ≠ [])
    {rationality : ℝ} (rational : 0 ≤ rationality) :
    let offered := assignProbabilities (Utility.sharpness greatestSharpness rationality)
      (ranked alternatives)
    (offered.map Alternative.tariff).Perm (alternatives.map Alternative.tariff) ∧
      (∀ alternative ∈ offered, 0 < alternative.probability) ∧
      (offered.map probability).sum = 1 ∧
      (offered.map probability).Pairwise (· ≥ ·) ∧
      (∀ sample, sample < 1 → ∃! place, Reaches offered sample place ∧
        ∃ alternative, offered[place]? = some alternative ∧
          choose? sample offered = some alternative.tariff) ∧
      ∀ place, (listed : place < offered.length) →
        MeasureTheory.volume {sample : ℝ | (0 ≤ sample ∧ sample < 1) ∧
          Reaches offered sample place} = ENNReal.ofReal offered[place].probability := by
  intro offered
  have ranking : ranked alternatives ≠ [] := fun none =>
    nonempty (List.Perm.nil_eq (none ▸ perm_ranked alternatives)).symm
  have whole : (offered.map probability).sum = 1 := sum_probability _ ranking
  refine ⟨?_, fun _ listed => probability_pos listed, whole,
    pairwise_probability (sharpness_nonneg rational) alternatives, ?_, ?_⟩
  · rw [tariffs_assignProbabilities]
    exact (perm_ranked alternatives).map _
  · intro sample below
    obtain ⟨place, reaches⟩ := exists_reaches_assignProbabilities
      (Utility.sharpness greatestSharpness rationality) ranking below
    exact ⟨place, ⟨reaches, choose?_of_reaches reaches⟩, fun _ ⟨again, _⟩ => again.unique reaches⟩
  · intro place listed
    exact volume_reaches (fun _ member => (probability_pos member).le) whole listed

theorem choice_follows_shares_pair :
    let worse : Alternative ℝ := scored (Tariff.free ⟨1⟩ "first" .consumption) 0
    let better : Alternative ℝ := scored (Tariff.free ⟨2⟩ "second" .consumption) (Real.log 3 / 49)
    let offered := assignProbabilities (Utility.sharpness greatestSharpness 1)
      (ranked [worse, better])
    [worse, better] ≠ [] ∧ (0 : ℝ) ≤ 1 ∧ offered.map probability = [3 / 4, 1 / 4] ∧
      choose? (4 / 5) offered = some worse.tariff ∧
      MeasureTheory.volume {sample : ℝ | (0 ≤ sample ∧ sample < 1) ∧ Reaches offered sample 1} =
        ENNReal.ofReal (1 / 4) := by
  intro worse better offered
  have nonempty : [worse, better] ≠ [] := List.cons_ne_nil _ _
  have order : ranked [worse, better] = [better, worse] := by
    have gain : 0 < Real.log 3 / 49 := by positivity
    have behind : precedes worse better = false := by
      rw [Bool.eq_false_iff, ne_eq, precedes_iff]
      rintro (ahead | ⟨same, -⟩)
      · exact ahead.not_gt gain
      · exact gain.ne' same
    simp [ranked, List.mergeSort, behind]
  have sharpness : Utility.sharpness (greatestSharpness : ℝ) 1 = 49 := by
    norm_num [Utility.sharpness, greatestSharpness, Quantity.power]
  have three : weight 49 better = 3 := by
    have exponent : (49 : ℝ) * (Real.log 3 / 49) = Real.log 3 := by ring
    exact (congrArg Real.exp exponent).trans (Real.exp_log (by norm_num))
  have one : weight 49 worse = 1 := (congrArg Real.exp (mul_zero 49)).trans Real.exp_zero
  have listed : offered = [{ better with probability := 3 / 4 },
      { worse with probability := 1 / 4 }] := by
    simp only [offered, order, sharpness, assignProbabilities_real, List.map_cons, List.map_nil,
      List.sum_cons, List.sum_nil, three, one]
    norm_num
  obtain ⟨-, -, -, -, picks, measures⟩ := choice_follows_shares nonempty zero_le_one
  obtain ⟨place, ⟨reaches, picked, found, chosen⟩, -⟩ := picks (4 / 5) (by norm_num)
  have second : Reaches offered (4 / 5) 1 := by
    rw [listed]
    refine ⟨by decide, by norm_num [mass], fun earlier before => ?_⟩
    rw [Nat.lt_one_iff.1 before]
    norm_num [mass]
  obtain rfl := reaches.unique second
  refine ⟨nonempty, zero_le_one, by rw [listed]; rfl, ?_, ?_⟩
  · have last : offered[1]? = some { worse with probability := 1 / 4 } := by
      rw [listed]
      rfl
    obtain rfl := Option.some.inj (found.symm.trans last)
    exact chosen
  · have last := List.getElem_of_eq listed second.listed
    exact (measures 1 second.listed).trans (congrArg (fun a => ENNReal.ofReal a.probability) last)

end Alternative

end RetailMarket
