import RetailMarket.Proofs.Parallel

/-!
# What a model is asked

Any customer model can be put behind an enquirer, which hands on every question and keeps the
profiles that the model gives.  An evaluation asks for at most one profile per tariff.  If reuse has
ended before it begins, it asks for all the profiles that its costs come from; as long as reuse has
not ended, no evaluation asks for a tariff that an earlier one has asked for.
-/

namespace RetailMarket

variable {M R : Type}

/-! ## Enquirers -/

/-- A question for a profile with its answer, and the inconvenience of shifting usage. -/
structure Enquiry (R : Type) where
  tariff : Tariff R
  now : Instant
  profile : UsageProfile R
  shifting : R

namespace Enquiry

def of [CustomerModel M R] (model : M) (tariff : Tariff R) (now : Instant) : Enquiry R :=
  let (profile, model) := CustomerModel.profile model tariff now
  { tariff, now, profile, shifting := CustomerModel.shiftingInconvenience model tariff }

def id (enquiry : Enquiry R) : TariffId := enquiry.tariff.id

def endsReuse (enquiry : Enquiry R) : Bool := enquiry.profile.stateDependent

def cost [Quantity R] (enquiry : Enquiry R) (forecaster : Forecaster R) : R :=
  forecaster.forecast enquiry.tariff enquiry.profile enquiry.shifting

end Enquiry

structure Enquirer (M R : Type) where
  model : M
  enquiries : List (Enquiry R) := []

instance [CustomerModel M R] : CustomerModel (Enquirer M R) R where
  profile enquirer tariff now :=
    let (profile, model) := CustomerModel.profile enquirer.model tariff now
    (profile, { model, enquiries := enquirer.enquiries ++ [.of enquirer.model tariff now] })
  switchFactor enquirer isSuperseding := CustomerModel.switchFactor enquirer.model isSuperseding
  choiceSample enquirer :=
    let (sample, model) := CustomerModel.choiceSample enquirer.model
    (sample, { enquirer with model })
  inertiaSample enquirer :=
    let (sample, model) := CustomerModel.inertiaSample enquirer.model
    (sample, { enquirer with model })
  shiftingInconvenience enquirer tariff :=
    CustomerModel.shiftingInconvenience enquirer.model tariff
  notify enquirer transfer :=
    { enquirer with model := CustomerModel.notify enquirer.model transfer }

namespace Evaluator

def enquiring (e : Evaluator M R) : Evaluator (Enquirer M R) R :=
  { e with model := { model := e.model } }

variable [Quantity R] [CustomerModel M R]

omit [Quantity R] in
theorem answers_enquirer : Answers (Enquirer.model : Enquirer M R → M) :=
  ⟨fun _ _ _ => rfl, fun _ _ => rfl, fun _ => rfl, fun _ => rfl, fun _ _ => rfl, fun _ _ => rfl⟩

/-- The profiles that an evaluation asks its model for, in order. -/
def enquiries (e : Evaluator M R) (books : Books R) (now : Instant) : List (Enquiry R) :=
  (e.enquiring.evaluate books now).1.model.enquiries

theorem evaluate_enquiring (e : Evaluator M R) (books : Books R) (now : Instant) :
    e.evaluate books now =
      ((e.enquiring.evaluate books now).1.seen Enquirer.model,
        (e.enquiring.evaluate books now).2) :=
  evaluate_seen answers_enquirer e.enquiring books now

theorem consulted_enquiring (e : Evaluator M R) (books : Books R) (now : Instant) :
    e.consulted books now = e.enquiring.consulted books now :=
  consulted_seen answers_enquirer e.enquiring books now

/-- The profiles asked for by one evaluation after another. -/
def enquiriesAfter : Evaluator M R → List (Books R × Instant) → List (Enquiry R)
  | _, [] => []
  | e, call :: rest =>
    e.enquiries call.1 call.2 ++ enquiriesAfter (e.evaluate call.1 call.2).1 rest

/-! ## The enquiries of one evaluation -/

/-- An evaluator whose enquirer began when it was as `start`, after consulting some appraisals. -/
structure Enquired (start : Evaluator M R) (now : Instant) (notes : List (Note R))
    (e : Evaluator (Enquirer M R) R) : Prop where
  customer : e.customer = start.customer
  forecaster : e.forecaster = start.forecaster
  once : (e.model.enquiries.map Enquiry.id).Nodup
  made : ∀ enquiry ∈ e.model.enquiries,
    enquiry.now = now ∧ start.cache.get? enquiry.id = none
  bypassed : e.cache.isBypassed =
    (start.cache.isBypassed || e.model.enquiries.any Enquiry.endsReuse)
  kept : ∀ {id appraisal}, start.cache.get? id = some appraisal →
    e.cache.get? id = some appraisal
  answered : ∀ enquiry ∈ e.model.enquiries, e.cache.get? enquiry.id ≠ none
  origin : ∀ {id appraisal}, e.cache.get? id = some appraisal →
    start.cache.get? id = some appraisal ∨ ∃ enquiry ∈ e.model.enquiries,
      enquiry.id = id ∧ appraisal.cost = enquiry.cost start.forecaster
  noted : ∀ note ∈ notes, e.cache.get? note.tariff.id = some note.appraisal

omit [CustomerModel M R] in
theorem enquired_enquiring (e : Evaluator M R) (now : Instant) : Enquired e now [] e.enquiring where
  customer := rfl
  forecaster := rfl
  once := List.nodup_nil
  made _ listed := nomatch listed
  bypassed := (Bool.or_false _).symm
  kept found := found
  answered _ listed := nomatch listed
  origin found := .inl found
  noted _ listed := nomatch listed

section

variable {start : Evaluator M R} {now : Instant} {notes : List (Note R)}
  {e : Evaluator (Enquirer M R) R}

omit [CustomerModel M R] in
theorem Enquired.consult (enquired : Enquired start now notes e) {tariff : Tariff R}
    {appraisal : Appraisal R} (found : e.cache.get? tariff.id = some appraisal) :
    Enquired start now (notes ++ [⟨tariff, appraisal⟩]) e :=
  { enquired with
    noted := fun note listed => by
      rcases List.mem_append.1 listed with earlier | last
      · exact enquired.noted note earlier
      · rw [List.mem_singleton.1 last]
        exact found }

theorem Enquired.enquire (enquired : Enquired start now notes e) {tariff : Tariff R}
    (missing : e.cache.get? tariff.id = none) (inconvenience : R) :
    Enquired start now notes (e.appraiseWith tariff inconvenience now).2 := by
  have unasked (enquiry : Enquiry R) (asked : enquiry ∈ e.model.enquiries) :
      enquiry.id ≠ tariff.id := by
    intro same
    exact enquired.answered enquiry asked (same ▸ missing)
  have unknown : start.cache.get? tariff.id = none := by
    cases found : start.cache.get? tariff.id with
    | none => rfl
    | some known => cases missing.symm.trans (enquired.kept found)
  -- The cache gains one entry, the log one enquiry, and both are for the missing tariff.
  rw [appraiseWith_of_missing missing, forecastCost_eq]
  let enquiry : Enquiry R := .of e.model.model tariff now
  let cache := e.cache.setBypass (e.cache.isBypassed || enquiry.endsReuse)
  let appraisal : Appraisal R := { cost := enquiry.cost e.forecaster, inconvenience }
  have before {id : TariffId} {known : Appraisal R} (found : e.cache.get? id = some known) :
      (cache.insert tariff.id appraisal).get? id = some known := by
    have stays : cache.get? id = some known := found
    exact AppraisalCache.get?_insert_of_get? missing stays appraisal
  exact {
    customer := enquired.customer
    forecaster := enquired.forecaster
    once := by
      change ((e.model.enquiries ++ [enquiry]).map Enquiry.id).Nodup
      rw [List.map_append, List.nodup_append']
      refine ⟨enquired.once, List.nodup_singleton _, ?_⟩
      intro id earlier last
      obtain ⟨other, asked, rfl⟩ := List.mem_map.1 earlier
      exact unasked other asked (List.mem_singleton.1 last)
    made := by
      intro other listed
      rcases List.mem_append.1 listed with earlier | last
      · exact enquired.made other earlier
      · rw [List.mem_singleton.1 last]
        exact ⟨rfl, unknown⟩
    bypassed := by
      change (e.cache.isBypassed || enquiry.endsReuse) =
        (start.cache.isBypassed || (e.model.enquiries ++ [enquiry]).any Enquiry.endsReuse)
      rw [enquired.bypassed, List.any_append, Bool.or_assoc, List.any_cons, List.any_nil,
        Bool.or_false]
    kept := fun found => before (enquired.kept found)
    answered := by
      intro other listed
      change (cache.insert tariff.id appraisal).get? other.id ≠ none
      rw [AppraisalCache.get?_insert]
      split
      · exact Option.some_ne_none appraisal
      · rename_i different
        rcases List.mem_append.1 listed with earlier | last
        · exact enquired.answered other earlier
        · exact absurd (congrArg Enquiry.id (List.mem_singleton.1 last)).symm different
    origin := by
      intro id known found
      change (cache.insert tariff.id appraisal).get? id = some known at found
      rw [AppraisalCache.get?_insert] at found
      split at found
      · rename_i same
        cases found
        exact .inr ⟨enquiry, List.mem_append_right _ List.mem_cons_self, same,
          congrArg enquiry.cost enquired.forecaster⟩
      · rcases enquired.origin found with known | ⟨other, asked, answers⟩
        · exact .inl known
        · exact .inr ⟨other, List.mem_append_left _ asked, answers⟩
    noted := fun note listed => before (enquired.noted note listed) }

theorem Enquired.appraise (enquired : Enquired start now notes e) (tariff : Tariff R)
    (inconvenience : R) :
    Enquired start now (notes ++ [⟨tariff, (e.appraiseWith tariff inconvenience now).1⟩])
      (e.appraiseWith tariff inconvenience now).2 := by
  cases found : e.cache.get? tariff.id with
  | some appraisal =>
      rw [appraiseWith_of_get? found]
      exact enquired.consult found
  | none =>
      refine (enquired.enquire found inconvenience).consult ?_
      rw [appraiseWith_of_missing found]
      exact AppraisalCache.get?_insert_self _ _ _

end

theorem enquired_invariant (start : Evaluator M R) (now : Instant) :
    Invariant start.customer now fun notes (e : Evaluator (Enquirer M R) R) =>
      Enquired start now notes e where
  own := Enquired.customer
  appraise enquired tariff := enquired.appraise tariff _
  inertiaSample enquired := { enquired with }
  choiceSample enquired := { enquired with }
  transfer enquired origin destination count := by
    unfold transfer
    split
    · exact enquired
    · exact { enquired with }

theorem enquired_evaluate (e : Evaluator M R) {books : Books R} {default : Tariff R}
    (found : books.market.defaultFor e.customer.powerType = some default) (now : Instant) :
    Enquired e.begun now (e.consulted books now) (e.enquiring.evaluate books now).1 := by
  have appraised := (enquired_enquiring e.begun now).appraise default 0
  rw [consulted_enquiring]
  exact (enquired_invariant e.begun now).evaluate (e := e.enquiring) found appraised

/-- What an evaluation asks for, what it consults, and what it leaves in the cache. -/
structure Informed (e : Evaluator M R) (books : Books R) (now : Instant) : Prop where
  once : ((e.enquiries books now).map Enquiry.id).Nodup
  bypassed : (e.evaluate books now).1.cache.isBypassed =
    (e.cache.isBypassed || (e.enquiries books now).any Enquiry.endsReuse)
  answered : ∀ enquiry ∈ e.enquiries books now,
    (e.evaluate books now).1.cache.get? enquiry.id ≠ none
  missing : e.cache.isBypassed = false → ∀ enquiry ∈ e.enquiries books now,
    e.cache.get? enquiry.id = none
  kept : e.cache.isBypassed = false → ∀ {id}, e.cache.get? id ≠ none →
    (e.evaluate books now).1.cache.get? id ≠ none
  afresh : e.cache.isBypassed = true → ∀ note ∈ e.consulted books now,
    ∃ enquiry ∈ e.enquiries books now, enquiry.id = note.tariff.id ∧ enquiry.now = now ∧
      note.appraisal.cost = enquiry.cost e.forecaster

theorem informed (e : Evaluator M R) (books : Books R) (now : Instant) :
    Informed e books now := by
  cases found : books.market.defaultFor e.customer.powerType with
  | none =>
      have idle := evaluate_of_missing found now
      have unconsulted := consulted_of_missing found now
      have asked : e.enquiries books now = [] := by
        rw [enquiries, evaluate_of_missing (e := e.enquiring) found]
        rfl
      exact {
        once := by simp [asked]
        bypassed := by simp [asked, idle]
        answered := by simp [asked]
        missing := by simp [asked]
        kept := by simp [idle]
        afresh := by simp [unconsulted] }
  | some default =>
      have enquired := enquired_evaluate e found now
      have cache : (e.evaluate books now).1.cache = (e.enquiring.evaluate books now).1.cache := by
        rw [evaluate_enquiring]
        rfl
      have begins : e.begun.cache = e.cache.beginCycle := rfl
      refine
        { once := enquired.once
          bypassed := ?_
          answered := ?_
          missing := ?_
          kept := ?_
          afresh := ?_ }
      · rw [cache, enquired.bypassed, begins, AppraisalCache.isBypassed_beginCycle]
        rfl
      · rw [cache]
        exact enquired.answered
      · intro reused enquiry asked
        have missing := (enquired.made enquiry asked).2
        rwa [begins, AppraisalCache.beginCycle_of_not_bypassed reused] at missing
      · intro reused id known
        obtain ⟨appraisal, known⟩ := Option.ne_none_iff_exists'.1 known
        rw [← AppraisalCache.beginCycle_of_not_bypassed reused] at known
        rw [cache, enquired.kept known]
        exact Option.some_ne_none appraisal
      · intro bypassed note listed
        rcases enquired.origin (enquired.noted note listed) with before | ⟨enquiry, asked, answers⟩
        · rw [begins, AppraisalCache.get?_beginCycle_of_bypassed bypassed] at before
          cases before
        · exact ⟨enquiry, asked, answers.1, (enquired.made enquiry asked).1, answers.2⟩

/-! ## The enquiries of a life -/

theorem enquiriesAfter_concat (e : Evaluator M R) (calls : List (Books R × Instant))
    (call : Books R × Instant) :
    e.enquiriesAfter (calls ++ [call]) =
      e.enquiriesAfter calls ++ (e.afterEvaluations calls).enquiries call.1 call.2 := by
  induction calls generalizing e with
  | nil => exact List.append_nil _
  | cons first rest ih =>
      rw [List.cons_append, enquiriesAfter, ih, enquiriesAfter, List.append_assoc]
      rfl

theorem afterEvaluations_concat (e : Evaluator M R) (calls : List (Books R × Instant))
    (call : Books R × Instant) :
    e.afterEvaluations (calls ++ [call]) =
      ((e.afterEvaluations calls).evaluate call.1 call.2).1 :=
  List.foldl_concat _ _ _ _

structure Enquiring (start e : Evaluator M R) (enquiries : List (Enquiry R)) : Prop where
  bypassed : e.cache.isBypassed = (start.cache.isBypassed || enquiries.any Enquiry.endsReuse)
  once : e.cache.isBypassed = false → (enquiries.map Enquiry.id).Nodup
  answered : e.cache.isBypassed = false → ∀ enquiry ∈ enquiries, e.cache.get? enquiry.id ≠ none

section

variable {start e : Evaluator M R} {earlier : List (Enquiry R)}

theorem Enquiring.nodup (enquiring : Enquiring start e earlier)
    (reused : e.cache.isBypassed = false) (books : Books R) (now : Instant) :
    ((earlier ++ e.enquiries books now).map Enquiry.id).Nodup := by
  rw [List.map_append, List.nodup_append']
  refine ⟨enquiring.once reused, (e.informed books now).once, ?_⟩
  intro id before after
  obtain ⟨enquiry, asked, rfl⟩ := List.mem_map.1 before
  obtain ⟨other, askedAgain, same⟩ := List.mem_map.1 after
  have missing := (e.informed books now).missing reused other askedAgain
  rw [same] at missing
  exact enquiring.answered reused enquiry asked missing

theorem Enquiring.step (enquiring : Enquiring start e earlier) (books : Books R)
    (now : Instant) :
    Enquiring start (e.evaluate books now).1 (earlier ++ e.enquiries books now) := by
  have informed := e.informed books now
  have reusing (reused : (e.evaluate books now).1.cache.isBypassed = false) :
      e.cache.isBypassed = false := by
    rw [informed.bypassed, Bool.or_eq_false_iff] at reused
    exact reused.1
  refine ⟨?_, fun reused => enquiring.nodup (reusing reused) books now, ?_⟩
  · rw [informed.bypassed, enquiring.bypassed, List.any_append, Bool.or_assoc]
  · intro reused enquiry asked
    rcases List.mem_append.1 asked with before | last
    · exact informed.kept (reusing reused) (enquiring.answered (reusing reused) enquiry before)
    · exact informed.answered enquiry last

end

theorem enquiring_afterEvaluations (e : Evaluator M R) (calls : List (Books R × Instant)) :
    Enquiring e (e.afterEvaluations calls) (e.enquiriesAfter calls) := by
  induction calls using List.reverseRecOn with
  | nil => exact ⟨(Bool.or_false _).symm, fun _ => List.nodup_nil, fun _ _ listed => nomatch listed⟩
  | append_singleton calls call ih =>
      rw [afterEvaluations_concat, enquiriesAfter_concat]
      exact ih.step call.1 call.2

/-- After any evaluations, the next one asks for no tariff twice.  If reuse has ended before it, by
its settings or by an earlier profile, all costs that it consults come from its own enquiries, and
whatever the cache still holds makes no difference.  If not, no tariff has been asked for twice in
the life of the evaluator. -/
theorem enquiries_once_and_afresh (e : Evaluator M R) (calls : List (Books R × Instant))
    (books : Books R) (now : Instant) :
    let live := e.afterEvaluations calls
    let earlier := e.enquiriesAfter calls
    let asked := live.enquiries books now
    (asked.map Enquiry.id).Nodup ∧
      live.cache.isBypassed = (e.cache.isBypassed || earlier.any Enquiry.endsReuse) ∧
      (live.cache.isBypassed = true →
        (∀ note ∈ live.consulted books now, ∃ enquiry ∈ asked,
          enquiry.id = note.tariff.id ∧ enquiry.now = now ∧
            note.appraisal.cost = enquiry.cost live.forecaster) ∧
        ∀ entries, ({ live with cache := { live.cache with entries } }.evaluate books now).2 =
          (live.evaluate books now).2) ∧
      (live.cache.isBypassed = false → ((earlier ++ asked).map Enquiry.id).Nodup) := by
  intro live earlier asked
  have informed := live.informed books now
  have enquiring := enquiring_afterEvaluations e calls
  refine ⟨informed.once, enquiring.bypassed, fun bypassed => ⟨informed.afresh bypassed, ?_⟩,
    fun reused => enquiring.nodup reused books now⟩
  intro entries
  have emptied : ({ live.cache with entries } : AppraisalCache R).beginCycle =
      live.cache.beginCycle := by
    simp only [AppraisalCache.beginCycle, bypassed, if_true]
  cases found : books.market.defaultFor live.customer.powerType with
  | none => simp only [evaluate, found]
  | some default =>
      simp only [evaluate, found, emptied]
      rfl

end Evaluator

end RetailMarket
