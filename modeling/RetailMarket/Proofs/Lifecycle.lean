import RetailMarket.Proofs.Postings
import RetailMarket.Proofs.Register
import RetailMarket.Proofs.Signups

/-!
# The life cycle of a tariff

The state of a published tariff follows from the history of the run: it is killed once the cycle
that its plan is revoked in has been run, and until then active or offered as there has been a
signup for it or not.  A killed tariff stays so, and from its revocation on nobody is signed up to
it.
-/

namespace RetailMarket

/-- The baseline with the competitor's tariff revoked in the second cycle. -/
def Scenario.withdrawn : Scenario Float :=
  { baseline with tariffs := alphaRevokedAt 1 [] }

namespace Simulation

variable {G R : Type} [Quantity R] [SampleSource G R] {scenario : Scenario R}

/-! ## What later states keep -/

theorem Underway.exists_published_step {s : Simulation G R} (underway : Underway scenario s) :
    ∃ entered, s.step.2.published = s.published ++ entered := by
  obtain ⟨entered, published⟩ :=
    exists_published_publishAll underway.stamped (scenario.due s.cycle)
  rw [← underway.publishScheduled_eq] at published
  refine ⟨entered, ?_⟩
  cases outcome : s.publishScheduled.1 with
  | error error =>
      rw [step_of_error outcome]
      exact published
  | ok count =>
      rw [step_of_ok outcome]
      exact underway.billed.2.trans published

theorem Underway.afterCalls {s : Simulation G R} (underway : Underway scenario s) (calls : Nat) :
    Underway scenario (s.afterCalls calls) := by
  induction calls with
  | zero => exact underway
  | succ calls ih => exact ih.step

theorem Underway.published_subset {s : Simulation G R} (underway : Underway scenario s)
    (calls : Nat) : s.published ⊆ (s.afterCalls calls).published := by
  induction calls with
  | zero => exact List.Subset.refl _
  | succ calls ih =>
      obtain ⟨entered, published⟩ := (underway.afterCalls calls).exists_published_step
      intro entry listed
      rw [Simulation.afterCalls, published]
      exact List.mem_append_left _ (ih listed)

theorem cycle_afterCalls (valid : scenario.problems = []) (census : Census scenario.people)
    (independent : ∀ plan ∈ scenario.tariffs, plan.supersedes = none) (calls : Nat) :
    ((fresh (G := G) scenario).afterCalls calls).cycle = calls := by
  induction calls with
  | zero => rfl
  | succ calls ih =>
      obtain ⟨summary, next, stepped⟩ :=
        exists_step_ok (G := G) valid census independent calls
      obtain ⟨_, -, -, rfl⟩ := step_eq_ok stepped
      rw [afterCalls, stepped]
      exact congrArg Nat.succ ih

/-! ## Signups of a cycle -/

theorem Running.exists_posted {s : Simulation G R} (running : Running scenario s)
    (valid : scenario.problems = []) (census : Census scenario.people) {count : Nat}
    (succeeded : s.publishScheduled.1 = .ok count) :
    ∃ posted, s.billed.books.journal.transactions.toList =
        s.books.journal.transactions.toList ++ posted ∧
      ∀ transaction ∈ posted, transaction.kind = .signup →
        s.scheduled.books.catalogue.IsLive transaction.tariff := by
  obtain ⟨-, rescheduled, -⟩ := running.ready_scheduled valid succeeded
  obtain ⟨posted, grown, -⟩ := running.grows_billed valid census succeeded
  obtain ⟨added, signups, live⟩ := (running.marking valid census succeeded).signups
  refine ⟨posted, grown, fun transaction listed signup => ?_⟩
  have same : s.scheduled.books.journal.signups = s.books.journal.signups := by
    rw [rescheduled.journal]
    rfl
  rw [same, Journal.signups, Journal.ofKind, grown, List.filter_append, List.map_append] at signups
  have new := List.append_cancel_left signups
  have entry : (transaction.key, transaction.count) ∈ added := by
    rw [← new]
    exact List.mem_map_of_mem (List.mem_filter.2 ⟨listed, beq_iff_eq.2 signup⟩)
  exact live _ entry

/-! ## Life cycles -/

omit [SampleSource G R] in
theorem Registered.exists_listing {cycle : Nat} {s : Simulation G R}
    (registered : Registered scenario cycle s) (valid : scenario.problems = [])
    {plan : TariffPlan R} (planned : plan ∈ scenario.tariffs) {id : TariffId}
    (entered : (plan.key, id) ∈ s.published) :
    ∃ listing, s.books.catalogue.find? id = some listing ∧
      listing.isRevoked = plan.isRevokedBefore cycle := by
  obtain ⟨other, planned', key, -, listing, -, found, -, revoked⟩ :=
    registered.entries _ entered
  obtain rfl := Scenario.eq_of_keys valid planned' planned key
  exact ⟨listing, found, revoked⟩

theorem Running.no_signups {s : Simulation G R} (running : Running scenario s)
    (valid : scenario.problems = []) (census : Census scenario.people)
    (underway : Underway scenario s) (punctual : Punctual scenario s)
    (registered : Registered scenario s.cycle s) {plan : TariffPlan R}
    (planned : plan ∈ scenario.tariffs) {revoked : Nat} (scheduled : plan.revokeCycle = some revoked)
    (due : revoked ≤ s.cycle) {id : TariffId} (entered : (plan.key, id) ∈ s.step.2.published) :
    ∃ posted, s.step.2.books.journal.transactions.toList =
        s.books.journal.transactions.toList ++ posted ∧
      ∀ transaction ∈ posted, transaction.kind = .signup → transaction.tariff ≠ id := by
  cases outcome : s.publishScheduled.1 with
  | error error =>
      obtain ⟨-, kept⟩ := running.published
      refine ⟨[], ?_, by simp⟩
      rw [step_of_error outcome, kept.journal, List.append_nil]
      rfl
  | ok count =>
      obtain ⟨posted, grown, live⟩ := running.exists_posted valid census outcome
      rw [step_of_ok outcome] at entered ⊢
      refine ⟨posted, grown, ?_⟩
      rintro transaction listed signup rfl
      have entry : (plan.key, transaction.tariff) ∈ s.scheduled.published := by
        rw [underway.scheduled.2.2, ← underway.billed.2]
        exact entered
      obtain ⟨listing, found, killed⟩ :=
        (registered.scheduled punctual underway valid outcome).exists_listing valid planned entry
      obtain ⟨other, found', alive⟩ := live transaction listed signup
      rw [found] at found'
      cases found'
      rw [alive, eq_comm, ← Bool.not_eq_true, TariffPlan.isRevokedBefore_eq_true] at killed
      exact killed ⟨revoked, scheduled, Nat.lt_succ_of_le due⟩

/-- The state of a tariff is decided by the history of the run.  The plan of an earlier cycle has
exactly one tariff.  A tariff is killed once the cycle of its revocation has been run, and stays so;
before, it is active just if the journal has a signup for it, and else offered.  The cycle of its
revocation and all later ones post no signup for it. -/
theorem state_determined (scenario : Scenario R) (valid : scenario.problems = [])
    (small : (scenario.customers.map (·.population)).sum < 2 ^ 63) (calls : Nat)
    (s : Simulation G R) (reached : s = (fresh scenario).afterCalls calls) (plan : TariffPlan R)
    (planned : plan ∈ scenario.tariffs) :
    (plan.publishCycle < s.cycle →
      ∃ id, s.tariffId? plan.key = some id ∧
        ∀ other, (plan.key, other) ∈ s.published → other = id) ∧
    (∀ id, (plan.key, id) ∈ s.published →
      ∃ listing, s.books.catalogue.find? id = some listing ∧
        (listing.state = .killed ↔
          ∃ revoked, plan.revokeCycle = some revoked ∧ revoked < s.cycle) ∧
        (listing.state ≠ .killed →
          (listing.state = .active ↔
            ∃ transaction ∈ s.books.journal.ofKind .signup, transaction.tariff = id) ∧
          (listing.state = .offered ↔
            ¬ ∃ transaction ∈ s.books.journal.ofKind .signup, transaction.tariff = id)) ∧
        (listing.state = .killed → ∀ more, ∃ later,
          (s.afterCalls more).books.catalogue.find? id = some later ∧ later.state = .killed)) ∧
    ∀ revoked, plan.revokeCycle = some revoked → revoked ≤ s.cycle →
      ∀ id, (plan.key, id) ∈ s.step.2.published →
        ∃ posted, s.step.2.books.journal.transactions.toList =
            s.books.journal.transactions.toList ++ posted ∧
          ∀ transaction ∈ posted, transaction.kind = .signup → transaction.tariff ≠ id := by
  have census := Scenario.census_of_valid valid small
  have running : Running scenario s := reached ▸ running_afterCalls valid census calls
  have underway : Underway scenario s := reached ▸ underway_afterCalls scenario calls
  have punctual : Punctual scenario s := reached ▸ punctual_afterCalls scenario calls
  have registered : Registered scenario s.cycle s := reached ▸ registered_afterCalls valid calls
  have marked : s.books.Marked := reached ▸ marked_afterCalls valid census calls
  refine ⟨fun early => punctual.exists_tariffId? valid planned early, fun id entered => ?_,
    fun revoked scheduled due id entered => running.no_signups valid census underway punctual
      registered planned scheduled due entered⟩
  obtain ⟨listing, found, revoked⟩ := registered.exists_listing valid planned entered
  refine ⟨listing, found, ?_, fun live => ?_, fun killed more => ?_⟩
  · rw [← Listing.isRevoked_iff, revoked, TariffPlan.isRevokedBefore_eq_true]
  · have state := marked.state id listing found
      (Bool.eq_false_iff.2 fun killed => live (Listing.isRevoked_iff.1 killed))
    rw [← Journal.hasSignup_eq_true, state]
    cases s.books.journal.hasSignup id <;> decide
  · have enteredLater := underway.published_subset more entered
    obtain ⟨onward, -⟩ := running.grows_afterCalls valid census more
    have registeredLater : Registered scenario (s.afterCalls more).cycle (s.afterCalls more) := by
      rw [reached, ← afterCalls_add]
      exact registered_afterCalls valid _
    obtain ⟨later, foundLater, revokedLater⟩ :=
      registeredLater.exists_listing valid planned enteredLater
    refine ⟨later, foundLater, ?_⟩
    rw [← Listing.isRevoked_iff, revoked, TariffPlan.isRevokedBefore_eq_true] at killed
    obtain ⟨cycle, scheduled, before⟩ := killed
    rw [← Listing.isRevoked_iff, revokedLater, TariffPlan.isRevokedBefore_eq_true]
    exact ⟨cycle, scheduled, before.trans_le onward⟩

theorem state_determined_withdrawn :
    ∃ id listing,
      ((fresh .withdrawn : Simulation ChaChaStream Float).afterCalls 2).tariffId? "alpha" =
        some id ∧
      (((fresh .withdrawn : Simulation ChaChaStream Float).afterCalls 2).afterCalls
        5).books.catalogue.find? id = some listing ∧
      listing.state = .killed := by
  have valid : Scenario.withdrawn.problems = [] := by decide +kernel
  have small : (Scenario.withdrawn.customers.map (·.population)).sum < 2 ^ 63 := by decide
  have independent : ∀ plan ∈ Scenario.withdrawn.tariffs, plan.supersedes = none := by decide
  have cycle := cycle_afterCalls (G := ChaChaStream) valid
    (Scenario.census_of_valid valid small) independent 2
  obtain ⟨alpha, place, key, early, scheduled⟩ :
      ∃ alpha, Scenario.withdrawn.tariffs[2]? = some alpha ∧ alpha.key = "alpha" ∧
        alpha.publishCycle < 2 ∧ alpha.revokeCycle = some 1 := ⟨_, rfl, rfl, by decide, rfl⟩
  obtain ⟨published, states, -⟩ := state_determined (G := ChaChaStream) .withdrawn valid small 2 _
    rfl alpha (List.mem_of_getElem? place)
  rw [cycle, key] at published states
  obtain ⟨id, found, -⟩ := published early
  obtain ⟨listing, -, killed, -, stays⟩ := states id (mem_published_of_tariffId? found)
  obtain ⟨later, foundLater, state⟩ := stays (killed.2 ⟨1, scheduled, by decide⟩) 5
  exact ⟨id, later, found, foundLater, state⟩

end Simulation

end RetailMarket
