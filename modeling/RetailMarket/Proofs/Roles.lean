import RetailMarket.Proofs.Chunks
import RetailMarket.Proofs.Enquiry

/-!
# Roles

The default is appraised without inconvenience, any other tariff with its own, and both appraisals
are kept under the id of the tariff.  So as long as reuse lasts, a tariff has the inconvenience that
was due when it was consulted for the first time, also when it has become the default since or has
ceased to be it.
-/

namespace RetailMarket

variable {M R : Type}

/-- An appraisal that an evaluation has consulted, and the default of that evaluation. -/
structure Assessment (R : Type) extends Note R where
  default : Tariff R

def Note.assessed (default : Tariff R) (note : Note R) : Assessment R := { note with default }

namespace Assessment

def id (assessment : Assessment R) : TariffId := assessment.tariff.id

def IsDefault (assessment : Assessment R) : Prop := assessment.id = assessment.default.id

instance (assessment : Assessment R) : Decidable assessment.IsDefault :=
  inferInstanceAs (Decidable (assessment.id = assessment.default.id))

/-! ## First assessments -/

def first? (log : List (Assessment R)) (id : TariffId) : Option (Assessment R) :=
  log.find? fun assessment => assessment.id = id

theorem mem_of_first? {log : List (Assessment R)} {id : TariffId} {first : Assessment R}
    (found : first? log id = some first) : first ∈ log ∧ first.id = id := by
  unfold first? at found
  constructor
  · exact List.mem_of_find?_eq_some found
  · simpa using List.find?_some found

theorem first?_concat (log : List (Assessment R)) (last : Assessment R) (id : TariffId) :
    first? (log ++ [last]) id =
      (first? log id).or (if last.id = id then some last else none) := by
  simp [first?, List.find?_append, List.find?_singleton]

theorem first?_concat_of_known {log : List (Assessment R)} {last : Assessment R}
    (known : first? log last.id ≠ none) (id : TariffId) :
    first? (log ++ [last]) id = first? log id := by
  rw [first?_concat]
  split
  next same =>
    rw [same] at known
    exact Option.or_of_isSome (Option.isSome_iff_ne_none.2 known)
  next => exact Option.or_none

theorem first?_concat_of_new {log : List (Assessment R)} {last : Assessment R}
    (new : first? log last.id = none) (id : TariffId) :
    first? (log ++ [last]) id = if last.id = id then some last else first? log id := by
  rw [first?_concat]
  split
  next same => rw [← same, new, Option.none_or]
  next => exact Option.or_none

end Assessment

namespace Evaluator

open Assessment

section

variable [Quantity R]

/-- The inconvenience of a tariff in its role: the default has none. -/
def dueInconvenience (e : Evaluator M R) (assessment : Assessment R) : R :=
  if assessment.IsDefault then 0 else e.inconvenience assessment.tariff

theorem inconvenience_congr {e f : Evaluator M R} (weights : e.weights = f.weights)
    (tariff : Tariff R) : e.inconvenience tariff = f.inconvenience tariff := by
  simp only [inconvenience, weights]

/-- An evaluator with the weights of `start`, which has a log of assessments for its cache: each
tariff has the appraisal of its first assessment, with the inconvenience then due. -/
structure Logged (start : Evaluator M R) (log : List (Assessment R)) (e : Evaluator M R) :
    Prop where
  weights : e.weights = start.weights
  cached : ∀ id, e.cache.get? id = (first? log id).map fun first => first.appraisal
  due : ∀ {id first}, first? log id = some first →
    first.appraisal.inconvenience = start.dueInconvenience first
  noted : ∀ assessment ∈ log, e.cache.get? assessment.id = some assessment.appraisal

section

variable {start e : Evaluator M R} {log : List (Assessment R)}

theorem Logged.nil (weights : e.weights = start.weights) (empty : ∀ id, e.cache.get? id = none) :
    Logged start [] e :=
  ⟨weights, empty, (fun found => nomatch found), (fun _ listed => nomatch listed)⟩

theorem Logged.first (logged : Logged start log e) {assessment : Assessment R}
    (listed : assessment ∈ log) :
    ∃ first, first? log assessment.id = some first ∧ assessment.appraisal = first.appraisal ∧
      first.appraisal.inconvenience = start.dueInconvenience first := by
  have cached := logged.noted assessment listed
  rw [logged.cached] at cached
  obtain ⟨first, found, same⟩ := Option.map_eq_some_iff.1 cached
  exact ⟨first, found, same.symm, logged.due found⟩

theorem Logged.consult (logged : Logged start log e) {last : Assessment R}
    (found : e.cache.get? last.id = some last.appraisal) : Logged start (log ++ [last]) e := by
  have known : first? log last.id ≠ none := by
    intro missing
    rw [logged.cached, missing] at found
    cases found
  exact { logged with
    cached := by
      intro id
      rw [first?_concat_of_known known, logged.cached]
    due := by
      intro id first found
      rw [first?_concat_of_known known] at found
      exact logged.due found
    noted := by
      intro assessment listed
      rcases List.mem_append.1 listed with earlier | same
      · exact logged.noted assessment earlier
      · rw [List.mem_singleton.1 same]
        exact found }

theorem Logged.insert (logged : Logged start log e) {last : Assessment R}
    (missing : e.cache.get? last.id = none)
    (due : last.appraisal.inconvenience = start.dueInconvenience last) {f : Evaluator M R}
    (weights : f.weights = e.weights)
    (inserted : ∀ id, f.cache.get? id =
      if last.id = id then some last.appraisal else e.cache.get? id) :
    Logged start (log ++ [last]) f := by
  have new : first? log last.id = none := by
    rw [logged.cached] at missing
    exact Option.map_eq_none_iff.1 missing
  exact {
    weights := weights.trans logged.weights
    cached := by
      intro id
      rw [inserted, first?_concat_of_new new, logged.cached]
      split <;> rfl
    due := by
      intro id first found
      rw [first?_concat_of_new new] at found
      split at found
      · cases found
        exact due
      · exact logged.due found
    noted := by
      intro assessment listed
      rw [inserted]
      rcases List.mem_append.1 listed with earlier | same
      · have found := logged.noted assessment earlier
        rw [if_neg, found]
        intro same
        rw [← same, missing] at found
        cases found
      · rw [List.mem_singleton.1 same, if_pos rfl] }

variable [CustomerModel M R]

theorem Logged.appraiseWith (logged : Logged start log e) (default : Tariff R) {tariff : Tariff R}
    {inconvenience : R} (now : Instant)
    (due : e.cache.get? tariff.id = none → ∀ appraisal,
      inconvenience = start.dueInconvenience ((⟨tariff, appraisal⟩ : Note R).assessed default)) :
    Logged start
      (log ++ [(⟨tariff, (e.appraiseWith tariff inconvenience now).1⟩ : Note R).assessed default])
      (e.appraiseWith tariff inconvenience now).2 := by
  cases found : e.cache.get? tariff.id with
  | some appraisal =>
      rw [appraiseWith_of_get? found]
      exact logged.consult found
  | none =>
      rw [appraiseWith_of_missing found, forecastCost_eq]
      refine logged.insert ?_ (due found _) rfl fun id => AppraisalCache.get?_insert _ _ id _
      exact found

end

variable [CustomerModel M R]

/-! ## The assessments of one evaluation -/

/-- The assessments of an evaluation, in order. -/
def assessments (e : Evaluator M R) (books : Books R) (now : Instant) : List (Assessment R) :=
  (books.market.defaultFor e.customer.powerType).elim [] fun default =>
    (e.consulted books now).map (Note.assessed default)

theorem assessments_of_default {e : Evaluator M R} {books : Books R} {default : Tariff R}
    (found : books.market.defaultFor e.customer.powerType = some default) (now : Instant) :
    e.assessments books now = (e.consulted books now).map (Note.assessed default) := by
  rw [assessments, found, Option.elim_some]

theorem assessments_of_missing {e : Evaluator M R} {books : Books R}
    (missing : books.market.defaultFor e.customer.powerType = none) (now : Instant) :
    e.assessments books now = [] := by
  rw [assessments, missing, Option.elim_none]

theorem logged_invariant (start : Evaluator M R) (log : List (Assessment R)) (customer : Customer)
    (now : Instant) (default : Tariff R) :
    Invariant customer now fun notes (e : Evaluator M R) =>
      e.customer = customer ∧ (∃ note ∈ notes, note.tariff = default) ∧
        Logged start (log ++ notes.map (Note.assessed default)) e where
  own holds := holds.1
  appraise := by
    rintro notes e ⟨own, ⟨note, listed, standard⟩, logged⟩ tariff
    have customer := (moved_appraiseWith e tariff (e.inconvenience tariff) now).customer
    refine ⟨customer.trans own, ⟨note, List.mem_append_left _ listed, standard⟩, ?_⟩
    rw [List.map_append, ← List.append_assoc]
    apply logged.appraiseWith default now
    intro missing appraisal
    -- The default has been consulted, so a tariff that is missing from the cache is another one.
    have known := logged.noted _ (List.mem_append_right _ (List.mem_map_of_mem listed))
    have other : tariff.id ≠ default.id := by
      intro same
      rw [same, ← standard] at missing
      cases missing.symm.trans known
    rw [dueInconvenience, if_neg]
    · exact inconvenience_congr logged.weights tariff
    · exact other
  inertiaSample := fun ⟨own, standard, logged⟩ => ⟨own, standard, { logged with }⟩
  choiceSample := fun ⟨own, standard, logged⟩ => ⟨own, standard, { logged with }⟩
  transfer := by
    rintro notes e ⟨own, standard, logged⟩ origin destination count
    unfold transfer
    split
    · exact ⟨own, standard, logged⟩
    · exact ⟨own, standard, { logged with }⟩

theorem Logged.evaluate {start e : Evaluator M R} {log : List (Assessment R)} {books : Books R}
    (logged : Logged start log e.begun) {default : Tariff R}
    (found : books.market.defaultFor e.customer.powerType = some default) (now : Instant) :
    Logged start (log ++ e.assessments books now) (e.evaluate books now).1 := by
  have appraised : Logged start
      (log ++ [(⟨default, (e.begun.appraiseDefault default now).1⟩ : Note R).assessed default])
      (e.begun.appraiseDefault default now).2 :=
    logged.appraiseWith default now fun _ _ => (if_pos rfl).symm
  have customer := (moved_appraiseWith e.begun default 0 now).customer
  rw [assessments_of_default found]
  exact ((logged_invariant start log e.customer now default).evaluate found
    ⟨customer, ⟨_, List.mem_singleton_self _, rfl⟩, appraised⟩).2.2

/-! ## The assessments of a life -/

def assessmentsAfter : Evaluator M R → List (Books R × Instant) → List (Assessment R)
  | _, [] => []
  | e, call :: rest =>
    e.assessments call.1 call.2 ++ assessmentsAfter (e.evaluate call.1 call.2).1 rest

theorem assessmentsAfter_concat (e : Evaluator M R) (calls : List (Books R × Instant))
    (call : Books R × Instant) :
    e.assessmentsAfter (calls ++ [call]) =
      e.assessmentsAfter calls ++ (e.afterEvaluations calls).assessments call.1 call.2 := by
  induction calls generalizing e with
  | nil => exact List.append_nil _
  | cons first rest ih =>
      rw [List.cons_append, assessmentsAfter, ih, assessmentsAfter, List.append_assoc]
      rfl

omit [Quantity R] [CustomerModel M R] in
/-- What the next evaluation still finds of earlier assessments. -/
def reusable (e : Evaluator M R) (earlier : List (Assessment R)) : List (Assessment R) :=
  if e.cache.isBypassed then [] else earlier

section

variable {start e : Evaluator M R} {log : List (Assessment R)}

omit [CustomerModel M R] in
theorem Logged.begun (logged : Logged start log e) : Logged start (e.reusable log) e.begun := by
  unfold reusable
  split
  next bypassed =>
    exact Logged.nil logged.weights (AppraisalCache.get?_beginCycle_of_bypassed bypassed)
  next kept =>
    have same : e.begun.cache = e.cache :=
      AppraisalCache.beginCycle_of_not_bypassed (Bool.eq_false_of_not_eq_true kept)
    exact ⟨logged.weights, same ▸ logged.cached, logged.due, same ▸ logged.noted⟩

theorem reusable_evaluate (books : Books R) (now : Instant) (earlier later : List (Assessment R)) :
    (e.evaluate books now).1.reusable (e.reusable earlier ++ later) =
      (e.evaluate books now).1.reusable (earlier ++ later) := by
  cases ended : (e.evaluate books now).1.cache.isBypassed with
  | true => simp only [reusable, ended, if_true]
  | false =>
      have before := ended
      rw [(e.informed books now).bypassed, Bool.or_eq_false_iff] at before
      simp only [reusable, before.1, Bool.false_eq_true, if_false]

theorem Logged.step (logged : Logged start (e.reusable log) e.begun) (books : Books R)
    (now : Instant) :
    Logged start ((e.evaluate books now).1.reusable (log ++ e.assessments books now))
      (e.evaluate books now).1.begun := by
  cases found : books.market.defaultFor e.customer.powerType with
  | none =>
      rw [assessments_of_missing found, evaluate_of_missing found, List.append_nil]
      exact logged
  | some default =>
      rw [← reusable_evaluate]
      exact (logged.evaluate found now).begun

end

theorem logged_afterEvaluations {e : Evaluator M R} (new : ∀ id, e.cache.get? id = none)
    (calls : List (Books R × Instant)) :
    Logged e ((e.afterEvaluations calls).reusable (e.assessmentsAfter calls))
      (e.afterEvaluations calls).begun := by
  induction calls using List.reverseRecOn with
  | nil => exact (Logged.nil rfl new).begun
  | append_singleton calls call ih =>
      rw [afterEvaluations_concat, assessmentsAfter_concat]
      exact ih.step call.1 call.2

/-- Whatever becomes of tariffs and defaults between evaluations, an evaluation consults of every
tariff the first assessment that it still finds, which has the inconvenience that was due to the
tariff in the role that it had then.  If it was the same tariff in the same role ever since, then
the default is without inconvenience and any other tariff has its own. -/
theorem inconvenience_of_first_role (customer : Customer) (model : M) (settings : List (Setting R))
    (calls : List (Books R × Instant)) (books : Books R) (now : Instant) :
    let e := configured customer model settings
    let live := e.afterEvaluations calls
    let log := live.reusable (e.assessmentsAfter calls) ++ live.assessments books now
    ∀ assessment ∈ live.assessments books now,
      (∃ first, first? log assessment.id = some first ∧
        assessment.appraisal = first.appraisal ∧
        first.appraisal.inconvenience = e.dueInconvenience first) ∧
      ((∀ other ∈ log, other.id = assessment.id →
          other.tariff = assessment.tariff ∧ (other.IsDefault ↔ assessment.IsDefault)) →
        assessment.appraisal.inconvenience = e.dueInconvenience assessment) := by
  intro e live log assessment listed
  have begun : Logged e (live.reusable (e.assessmentsAfter calls)) live.begun :=
    logged_afterEvaluations (get?_cache_configured customer model settings) calls
  obtain ⟨default, offered⟩ : ∃ default,
      books.market.defaultFor live.customer.powerType = some default := by
    cases offered : books.market.defaultFor live.customer.powerType with
    | none =>
        rw [assessments_of_missing offered] at listed
        cases listed
    | some default => exact ⟨default, rfl⟩
  obtain ⟨first, found, same, due⟩ :=
    (begun.evaluate offered now).first (List.mem_append_right _ listed)
  constructor
  · exact ⟨first, found, same, due⟩
  · intro unchanged
    obtain ⟨earlier, named⟩ := mem_of_first? found
    obtain ⟨tariff, role⟩ := unchanged first earlier named
    rw [same, due]
    simp only [dueInconvenience, role, tariff]

end

namespace Demotion

def customer : Customer :=
  { id := ⟨1⟩, name := "demotion", population := 10, powerType := .consumption }

def tiered : Tariff Float :=
  { Tariff.free ⟨1⟩ "local" .consumption with
    rates := [Rate.fixed 0, { Rate.fixed 0 with threshold := 50 }] }

def flat : Tariff Float := Tariff.free ⟨2⟩ "local" .consumption

def before : Books Float := { market := Market.empty.setDefault tiered }

def after : Books Float where
  catalogue :=
    { listed := [Listing.ofTariff tiered], queues := [⟨"local", [⟨1⟩]⟩], lastId := 1 }
  market := Market.empty.setDefault flat

def evaluator : Evaluator (ScriptedCustomer Float) Float := configured customer .standard []

def live : Evaluator (ScriptedCustomer Float) Float :=
  evaluator.afterEvaluations [(before, ⟨0⟩)]

theorem live_eq : live = (evaluator.begun.appraiseDefault tiered ⟨0⟩).2 := rfl

theorem reusable_live (earlier : List (Assessment Float)) : live.reusable earlier = earlier := by
  have missing : evaluator.begun.cache.get? tiered.id = none :=
    get?_cache_configured customer (ScriptedCustomer.standard (R := Float)) [] tiered.id
  rw [live_eq, appraiseDefault, appraiseWith_of_missing missing, forecastCost_eq]
  rfl

theorem assessments_before :
    ∃ appraisal, evaluator.assessmentsAfter [(before, ⟨0⟩)] = [⟨⟨tiered, appraisal⟩, tiered⟩] :=
  ⟨_, rfl⟩

theorem assessments_after : ∃ ofFlat ofTiered, live.assessments after ⟨1⟩ =
    [⟨⟨flat, ofFlat⟩, flat⟩, ⟨⟨tiered, ofTiered⟩, flat⟩] := by
  have moved : Moved [] evaluator.begun live := moved_appraiseWith evaluator.begun tiered _ ⟨0⟩
  have offered : after.market.defaultFor live.customer.powerType = some flat := by
    rw [moved.customer]
    rfl
  have candidates : live.candidates after ⟨1⟩ = [tiered] := by
    rw [candidates, moved.customer, moved.settings]
    rfl
  have active : after.roster.activeOf live.customer.id = [] := rfl
  rw [assessments_of_default offered, consulted_of_default offered, candidates, active]
  exact ⟨_, _, rfl⟩

def log : List (Assessment Float) :=
  evaluator.assessmentsAfter [(before, ⟨0⟩)] ++ live.assessments after ⟨1⟩

end Demotion

/-- A tiered default is without inconvenience, and remains so when it has ceased to be the
default.  The one that takes its place is without inconvenience, too. -/
theorem inconvenience_of_first_role_demotion :
    (∃ assessment ∈ Demotion.live.assessments Demotion.after ⟨1⟩,
      assessment.tariff = Demotion.flat ∧ assessment.IsDefault ∧
        assessment.appraisal.inconvenience = 0) ∧
    ∃ assessment ∈ Demotion.live.assessments Demotion.after ⟨1⟩,
      assessment.tariff = Demotion.tiered ∧ ¬ assessment.IsDefault ∧
        assessment.appraisal.inconvenience = 0 ∧
        (Demotion.evaluator.inconvenience Demotion.tiered == 0.1) = true := by
  obtain ⟨earlier, before⟩ := Demotion.assessments_before
  obtain ⟨ofFlat, ofTiered, after⟩ := Demotion.assessments_after
  have log : Demotion.log = [⟨⟨Demotion.tiered, earlier⟩, Demotion.tiered⟩,
      ⟨⟨Demotion.flat, ofFlat⟩, Demotion.flat⟩, ⟨⟨Demotion.tiered, ofTiered⟩, Demotion.flat⟩] := by
    rw [Demotion.log, before, after]
    rfl
  have roles : ∀ assessment ∈ Demotion.live.assessments Demotion.after ⟨1⟩,
      (∃ first, first? Demotion.log assessment.id = some first ∧
        assessment.appraisal = first.appraisal ∧
        first.appraisal.inconvenience = Demotion.evaluator.dueInconvenience first) ∧
      ((∀ other ∈ Demotion.log, other.id = assessment.id →
          other.tariff = assessment.tariff ∧ (other.IsDefault ↔ assessment.IsDefault)) →
        assessment.appraisal.inconvenience = Demotion.evaluator.dueInconvenience assessment) := by
    rw [Demotion.log, ← Demotion.reusable_live (Demotion.evaluator.assessmentsAfter _)]
    exact inconvenience_of_first_role Demotion.customer (ScriptedCustomer.standard (R := Float)) []
      [(Demotion.before, ⟨0⟩)] Demotion.after ⟨1⟩
  rw [log, after] at roles
  rw [after]
  refine ⟨⟨_, List.mem_cons_self, rfl, rfl, ?_⟩,
    ⟨_, List.mem_cons_of_mem _ List.mem_cons_self, rfl, ?_, ?_, ?_⟩⟩
  · refine (roles _ List.mem_cons_self).2 fun other listed same => ?_
    simp only [List.mem_cons, List.not_mem_nil, or_false] at listed
    rcases listed with rfl | rfl | rfl
    · cases same
    · exact ⟨rfl, Iff.rfl⟩
    · cases same
  · change ¬ ((⟨1⟩ : TariffId) = ⟨2⟩)
    decide
  · obtain ⟨first, found, same, due⟩ := (roles _ (List.mem_cons_of_mem _ List.mem_cons_self)).1
    cases found
    rw [same]
    exact due
  · decide

end Evaluator

end RetailMarket
