import RetailMarket.Proofs.Failure

/-!
# The register of publications

Before every cycle the plans of all earlier cycles have been published, each of them once.  A cycle
that fails can only be repeated, and publishes plans of its own again.  Every entry of the register
is the tariff of a plan, and it has been revoked exactly if its plan was to be revoked in an earlier
cycle: defaults, which no revocation touches, are the tariffs of default plans.
-/

namespace RetailMarket

/-! ## The plans of earlier cycles -/

namespace TariffPlan

variable {R : Type}

def isRevokedBefore (plan : TariffPlan R) (cycle : Nat) : Bool :=
  plan.revokeCycle.any fun revoked => decide (revoked < cycle)

theorem isRevokedBefore_eq_true {plan : TariffPlan R} {cycle : Nat} :
    plan.isRevokedBefore cycle = true ↔
      ∃ revoked, plan.revokeCycle = some revoked ∧ revoked < cycle := by
  simp [isRevokedBefore, Option.any_eq_true]

theorem isRevokedBefore_succ (plan : TariffPlan R) (cycle : Nat) :
    plan.isRevokedBefore (cycle + 1) =
      (plan.isRevokedBefore cycle || plan.revokeCycle == some cycle) := by
  unfold isRevokedBefore
  cases plan.revokeCycle with
  | none => rfl
  | some revoked =>
      rw [Bool.eq_iff_iff]
      simp only [Option.any_some, Bool.or_eq_true, decide_eq_true_eq, beq_iff_eq,
        Option.some.injEq]
      omega

end TariffPlan

namespace Scenario

variable {R : Type} {scenario : Scenario R}

def earlier (scenario : Scenario R) (cycle : Nat) : List (TariffPlan R) :=
  (List.range cycle).flatMap scenario.due

theorem mem_due {plan : TariffPlan R} {cycle : Nat} :
    plan ∈ scenario.due cycle ↔ plan ∈ scenario.tariffs ∧ plan.publishCycle = cycle := by
  simp [due]

theorem mem_earlier {plan : TariffPlan R} {cycle : Nat} :
    plan ∈ scenario.earlier cycle ↔ plan ∈ scenario.tariffs ∧ plan.publishCycle < cycle := by
  simp [earlier, mem_due, and_comm]

theorem earlier_succ (scenario : Scenario R) (cycle : Nat) :
    scenario.earlier (cycle + 1) = scenario.earlier cycle ++ scenario.due cycle := by
  rw [earlier, List.range_succ, List.flatMap_append, List.flatMap_singleton, ← earlier]

variable [Quantity R]

theorem eq_of_keys (valid : scenario.problems = []) {first second : TariffPlan R}
    (listed : first ∈ scenario.tariffs) (listed' : second ∈ scenario.tariffs)
    (same : first.key = second.key) : first = second :=
  List.inj_on_of_nodup_map (nodup_keys_of_valid valid) listed listed' same

theorem nodup_keys_earlier (valid : scenario.problems = []) (cycle : Nat) :
    ((scenario.earlier cycle).map TariffPlan.key).Nodup := by
  have keys := nodup_keys_of_valid valid
  rw [List.Nodup, List.pairwise_map] at keys ⊢
  refine List.pairwise_flatMap.2 ⟨fun _ _ => keys.filter _, ?_⟩
  refine List.pairwise_lt_range.imp fun before first mine second yours same => ?_
  obtain ⟨listed, here⟩ := mem_due.1 mine
  obtain ⟨listed', there⟩ := mem_due.1 yours
  obtain rfl := eq_of_keys valid listed listed' same
  omega

end Scenario

namespace Simulation

variable {G R : Type} [Quantity R] {scenario : Scenario R}

/-! ## Once each -/

def Stuck (scenario : Scenario R) (s : Simulation G R) : Prop :=
  ∃ key, TariffPlan.unknown? s.keys (scenario.due s.cycle) = some key

/-- The plans of all earlier cycles have been published once each; where the cycle cannot succeed,
plans of its own may have been published after them. -/
def Punctual (scenario : Scenario R) (s : Simulation G R) : Prop :=
  ∃ repeated, s.keys = (scenario.earlier s.cycle ++ repeated).map TariffPlan.key ∧
    (∀ plan ∈ repeated, plan ∈ scenario.due s.cycle) ∧ (repeated = [] ∨ s.Stuck scenario)

theorem punctual_fresh [SampleSource G R] (scenario : Scenario R) :
    Punctual scenario (fresh (G := G) scenario) :=
  ⟨[], rfl, by simp, .inl rfl⟩

theorem Underway.step_of_stuck [SampleSource G R] {s : Simulation G R}
    (underway : Underway scenario s) (stuck : s.Stuck scenario) :
    ∃ repeated : List (TariffPlan R), (∀ plan ∈ repeated, plan ∈ scenario.due s.cycle) ∧
      s.step.2.keys = s.keys ++ repeated.map TariffPlan.key ∧ s.step.2.cycle = s.cycle ∧
      s.step.2.Stuck scenario := by
  obtain ⟨key, unknown⟩ := stuck
  obtain ⟨before, plan, after, split, clean, missing⟩ := TariffPlan.unknown?_eq_some.1 unknown
  obtain ⟨-, keys, stopped⟩ := underway.step_eq_error split clean missing
  obtain ⟨again, -⟩ := underway.step_failed_again split clean missing rfl
  have next := underway.step
  rw [stopped] at next ⊢
  refine ⟨before, ?_, keys, (underway.stamped.publishAll before).2.cycle, ?_⟩
  · intro first listed
    rw [split]
    exact List.mem_append_left _ listed
  · refine Option.ne_none_iff_exists'.1 fun known => ?_
    have succeeded := (next.step_of_known known).1
    rw [again] at succeeded
    cases succeeded

theorem Punctual.step [SampleSource G R] {s : Simulation G R} (punctual : Punctual scenario s)
    (underway : Underway scenario s) : Punctual scenario s.step.2 := by
  obtain ⟨repeated, keys, due, first⟩ := punctual
  cases unknown : TariffPlan.unknown? s.keys (scenario.due s.cycle) with
  | none =>
      obtain rfl : repeated = [] := first.resolve_right fun ⟨key, stuck⟩ => by
        rw [unknown] at stuck
        cases stuck
      obtain ⟨-, cycle, next⟩ := underway.step_of_known unknown
      refine ⟨[], ?_, by simp, .inl rfl⟩
      rw [next, keys, cycle, Scenario.earlier_succ, List.append_nil, List.append_nil,
        List.map_append]
  | some key =>
      obtain ⟨more, dueMore, next, cycle, stuck⟩ := underway.step_of_stuck ⟨key, unknown⟩
      refine ⟨repeated ++ more, ?_, ?_, .inr stuck⟩
      · rw [next, keys, cycle, ← List.map_append, List.append_assoc]
      · intro plan listed
        rw [cycle]
        exact (List.mem_append.1 listed).elim (due plan) (dueMore plan)

theorem punctual_afterCalls [SampleSource G R] (scenario : Scenario R) (calls : Nat) :
    Punctual scenario ((fresh (G := G) scenario).afterCalls calls) := by
  induction calls with
  | zero => exact punctual_fresh scenario
  | succ calls ih => exact ih.step (underway_afterCalls scenario calls)

omit [Quantity R] in
theorem mem_published_of_tariffId? {s : Simulation G R} {key : String} {id : TariffId}
    (found : s.tariffId? key = some id) : (key, id) ∈ s.published := by
  obtain ⟨before, after, split, -⟩ := List.lookup_eq_some_iff.1 found
  rw [split]
  simp

omit [Quantity R] in
theorem tariffId?_eq_some_iff {s : Simulation G R} (distinct : s.keys.Nodup) {key : String}
    {id : TariffId} : s.tariffId? key = some id ↔ (key, id) ∈ s.published := by
  refine ⟨mem_published_of_tariffId?, fun listed => ?_⟩
  have known : key ∈ s.keys := List.mem_map_of_mem listed
  obtain ⟨other, found⟩ := Option.ne_none_iff_exists'.1 (mt tariffId?_eq_none.1 (not_not.2 known))
  have same := List.inj_on_of_nodup_map distinct (mem_published_of_tariffId? found) listed rfl
  exact found.trans (congrArg some (congrArg Prod.snd same))

omit [Quantity R] in
theorem Listed.eq_of_id {s : Simulation G R} (listed : s.Listed) {first second : String × TariffId}
    (member : first ∈ s.published) (member' : second ∈ s.published)
    (same : first.2 = second.2) : first = second := by
  refine List.inj_on_of_nodup_map ?_ member member' same
  rw [listed.published]
  exact listed.catalogue.nodup

theorem Punctual.exists_tariffId? {s : Simulation G R} (punctual : Punctual scenario s)
    (valid : scenario.problems = []) {plan : TariffPlan R} (planned : plan ∈ scenario.tariffs)
    (early : plan.publishCycle < s.cycle) :
    ∃ id, s.tariffId? plan.key = some id ∧ ∀ other, (plan.key, other) ∈ s.published → other = id := by
  obtain ⟨repeated, keys, due, -⟩ := punctual
  rw [Simulation.keys, List.map_append] at keys
  obtain ⟨first, last, split, keysFirst, keysLast⟩ := List.map_eq_append_iff.1 keys
  have known : plan.key ∈ s.keys := by
    rw [Simulation.keys, keys, ← List.map_append]
    exact List.mem_map_of_mem (List.mem_append_left _ (Scenario.mem_earlier.2 ⟨planned, early⟩))
  obtain ⟨id, found⟩ := Option.ne_none_iff_exists'.1 (mt tariffId?_eq_none.1 (not_not.2 known))
  have own (other : TariffId) (listed : (plan.key, other) ∈ s.published) :
      (plan.key, other) ∈ first := by
    rw [split] at listed
    refine (List.mem_append.1 listed).resolve_right fun late => ?_
    have key : plan.key ∈ repeated.map TariffPlan.key := keysLast ▸ List.mem_map_of_mem late
    obtain ⟨again, listed, same⟩ := List.mem_map.1 key
    obtain ⟨plannedAgain, here⟩ := Scenario.mem_due.1 (due again listed)
    obtain rfl := Scenario.eq_of_keys valid plannedAgain planned same
    omega
  have distinct := scenario.nodup_keys_earlier valid s.cycle
  rw [← keysFirst] at distinct
  refine ⟨id, found, fun other listed => ?_⟩
  exact congrArg Prod.snd (List.inj_on_of_nodup_map distinct (own other listed)
    (own id (mem_published_of_tariffId? found)) rfl)

theorem Punctual.nodup_keys {s : Simulation G R} (punctual : Punctual scenario s)
    (underway : Underway scenario s) (valid : scenario.problems = []) {count : Nat}
    (succeeded : s.publishScheduled.1 = .ok count) :
    s.publishScheduled.2.keys.Nodup := by
  rw [underway.publishScheduled_eq] at succeeded ⊢
  have result := result_publishAll underway.stamped (scenario.due s.cycle)
  rw [succeeded] at result
  obtain ⟨repeated, keys, -, first⟩ := punctual
  have known : TariffPlan.unknown? s.stamped.keys (scenario.due s.cycle) = none := by
    cases unknown : TariffPlan.unknown? s.stamped.keys (scenario.due s.cycle) with
    | none => rfl
    | some key =>
        rw [unknown] at result
        cases result
  obtain rfl : repeated = [] := first.resolve_right fun ⟨key, stuck⟩ => by
    rw [show s.keys = s.stamped.keys from rfl, known] at stuck
    cases stuck
  have all : (s.stamped.publishAll (scenario.due s.cycle)).2.keys =
      (scenario.earlier (s.cycle + 1)).map TariffPlan.key := by
    rw [keys_publishAll underway.stamped known, show s.stamped.keys = s.keys from rfl, keys,
      Scenario.earlier_succ, List.append_nil, List.map_append]
  rw [all]
  exact Scenario.nodup_keys_earlier valid _

/-! ## What the entries are -/

/-- Every entry is the tariff of a plan, revoked if its plan was to be revoked before some cycle;
every default is the tariff of a default plan. -/
structure Registered (scenario : Scenario R) (cycle : Nat) (s : Simulation G R) : Prop where
  entries : ∀ entry ∈ s.published, ∃ plan ∈ scenario.tariffs, plan.key = entry.1 ∧
    plan.publishCycle ≤ s.cycle ∧
    ∃ listing supersedes, s.books.catalogue.find? entry.2 = some listing ∧
      listing.tariff = plan.tariff entry.2 supersedes ∧
      listing.isRevoked = plan.isRevokedBefore cycle
  defaults : ∀ powerType tariff, s.books.market.defaults powerType = some tariff →
    ∃ plan ∈ scenario.tariffs, plan.isDefault = true ∧ plan.powerType = powerType ∧
      (plan.key, tariff.id) ∈ s.published ∧
      ∃ listing, s.books.catalogue.find? tariff.id = some listing ∧ listing.tariff = tariff

theorem registered_fresh [SampleSource G R] (scenario : Scenario R) :
    Registered scenario 0 (fresh (G := G) scenario) := by
  constructor
  · intro entry listed
    cases listed
  · intro powerType tariff default
    cases default

theorem Registered.congr {cycle : Nat} {before after : Simulation G R}
    (registered : Registered scenario cycle before) (published : after.published = before.published)
    (onward : before.cycle ≤ after.cycle)
    (unmarked : after.books.catalogue.unmarked = before.books.catalogue.unmarked)
    (defaults : after.books.market.defaults = before.books.market.defaults) :
    Registered scenario cycle after := by
  have found {id : TariffId} {listing : Listing R}
      (known : before.books.catalogue.find? id = some listing) :
      ∃ other, after.books.catalogue.find? id = some other ∧
        other.tariff = listing.tariff ∧ other.isRevoked = listing.isRevoked := by
    have same := congrArg (Catalogue.find? · id) unmarked
    simp only [Catalogue.find?_unmarked, known, Option.map_some, Option.map_eq_some_iff] at same
    obtain ⟨other, knownAfter, view⟩ := same
    refine ⟨other, knownAfter, ?_, ?_⟩
    · rw [← other.tariff_unmarked, view, listing.tariff_unmarked]
    · rw [← other.isRevoked_unmarked, view, listing.isRevoked_unmarked]
  constructor
  · intro entry listed
    rw [published] at listed
    obtain ⟨plan, planned, key, early, listing, supersedes, known, terms, revoked⟩ :=
      registered.entries entry listed
    obtain ⟨other, knownAfter, same, state⟩ := found known
    exact ⟨plan, planned, key, early.trans onward, other, supersedes, knownAfter,
      same.trans terms, state.trans revoked⟩
  · intro powerType tariff default
    rw [defaults] at default
    obtain ⟨plan, planned, isDefault, type, listed, listing, known, terms⟩ :=
      registered.defaults powerType tariff default
    obtain ⟨other, knownAfter, same, -⟩ := found known
    rw [← published] at listed
    exact ⟨plan, planned, isDefault, type, listed, other, knownAfter, same.trans terms⟩

/-! ### Publications -/

theorem Registered.publish {s next : Simulation G R} (registered : Registered scenario s.cycle s)
    (valid : scenario.problems = []) (listed : s.Listed) {plan : TariffPlan R}
    (due : plan ∈ scenario.due s.cycle) {count : Nat}
    (published : s.publish plan = .ok (next, count)) : Registered scenario s.cycle next := by
  obtain ⟨planned, now⟩ := Scenario.mem_due.1 due
  obtain ⟨id, supersedes, entered, -, -, found, -, rfl⟩ := publish_ok listed.catalogue published
  have unrevoked : plan.isRevokedBefore s.cycle = false := by
    refine Bool.eq_false_iff.2 fun revoked => ?_
    obtain ⟨cycle, scheduled, before⟩ := TariffPlan.isRevokedBefore_eq_true.1 revoked
    have order := (Scenario.revokeCycle_of_valid valid planned scheduled).1
    omega
  have known : entered.find? id = some (Listing.ofTariff (plan.tariff id supersedes)) :=
    Catalogue.find?_enter_self found
  have kept {other : TariffId} {listing : Listing R}
      (before : s.books.catalogue.find? other = some listing) :=
    Catalogue.find?_enter_of_find? found before
  have old {powerType : PowerType} {tariff : Tariff R}
      (default : s.books.market.defaults powerType = some tariff) :
      ∃ plan' ∈ scenario.tariffs, plan'.isDefault = true ∧ plan'.powerType = powerType ∧
        (plan'.key, tariff.id) ∈ s.published ++ [(plan.key, id)] ∧
        ∃ listing, entered.find? tariff.id = some listing ∧ listing.tariff = tariff := by
    obtain ⟨plan', planned', isDefault, type, member, listing, before, terms⟩ :=
      registered.defaults powerType tariff default
    exact ⟨plan', planned', isDefault, type, List.mem_append_left _ member, _, kept before,
      (Catalogue.tariff_succeeded _ listing).trans terms⟩
  constructor
  · intro entry member
    rcases List.mem_append.1 member with earlier | new
    · obtain ⟨plan', planned', key, early, listing, link, before, terms, revoked⟩ :=
        registered.entries entry earlier
      refine ⟨plan', planned', key, early, _, link, kept before, ?_, ?_⟩
      · rw [Catalogue.tariff_succeeded, terms]
      · rw [Catalogue.isRevoked_succeeded, revoked]
    · rw [List.mem_singleton.1 new]
      exact ⟨plan, planned, rfl, now.le, _, supersedes, known, rfl, unrevoked.symm⟩
  · intro powerType tariff default
    simp only at default
    split at default
    · rename_i isDefault
      simp only [Market.setDefault] at default
      split at default
      · rename_i type
        cases default
        exact ⟨plan, planned, isDefault, type.symm, List.mem_append_right _ (by simp; rfl), _,
          known, rfl⟩
      · exact old default
    · exact old default

theorem Registered.publishAll {s : Simulation G R} (registered : Registered scenario s.cycle s)
    (valid : scenario.problems = []) (listed : s.Listed) {plans : List (TariffPlan R)}
    (due : ∀ plan ∈ plans, plan ∈ scenario.due s.cycle) :
    Registered scenario s.cycle (s.publishAll plans).2 := by
  induction plans generalizing s with
  | nil => exact registered
  | cons plan rest ih =>
      obtain ⟨here, later⟩ := List.forall_mem_cons.1 due
      simp only [Simulation.publishAll]
      split
      · exact registered
      · rename_i next _ published
        obtain ⟨listedNext, kept⟩ := listed.publish published
        have registeredNext := registered.publish valid listed here published
        rw [← kept.cycle] at registeredNext later ⊢
        exact ih registeredNext listedNext later

/-! ### Revocations -/

omit [Quantity R] in
theorem market_revokeAll (s : Simulation G R) (plans : List (TariffPlan R)) :
    (s.revokeAll plans).1.books.market = s.books.market := by
  induction plans generalizing s with
  | nil => rfl
  | cons plan rest ih =>
      have first : (s.revoke plan).1.books.market = s.books.market := by
        simp only [revoke]
        split <;> rfl
      exact (ih _).trans first

omit [Quantity R] in
theorem find?_revoke {s : Simulation G R} {plan : TariffPlan R}
    (free : ∀ id, s.tariffId? plan.key = some id → s.books.market.isDefault id = false)
    (id : TariffId) :
    (s.revoke plan).1.books.catalogue.find? id =
      (s.books.catalogue.find? id).map fun listing =>
        if s.tariffId? plan.key == some id then listing.revoke else listing := by
  simp only [Simulation.revoke]
  split
  · rename_i missing
    simp [missing]
  · rename_i target found
    simp only [found, Market.revoke, free target found, Bool.false_eq_true, if_false,
      Catalogue.revoke, beq_iff_eq, Option.some.injEq]
    cases known : s.books.catalogue.find? target with
    | none =>
        cases other : s.books.catalogue.find? id with
        | none => simp
        | some listing =>
            have apart : target ≠ id := by
              rintro rfl
              rw [known] at other
              cases other
            simp [apart]
    | some listing =>
        simp only
        split
        · rename_i revoked
          by_cases same : target = id
          · subst same
            simp [known, Listing.revoke_of_isRevoked revoked]
          · simp [same]
        · simp only [Catalogue.find?_update_revoke]
          cases other : s.books.catalogue.find? id with
          | none => rfl
          | some listing' =>
              rw [Option.map_some, Option.map_some, (Catalogue.mem_of_find? other).2]
              simp only [eq_comm]

omit [Quantity R] in
theorem find?_revokeAll (s : Simulation G R) (plans : List (TariffPlan R))
    (free : ∀ plan ∈ plans, ∀ id, s.tariffId? plan.key = some id →
      s.books.market.isDefault id = false) (id : TariffId) :
    (s.revokeAll plans).1.books.catalogue.find? id =
      (s.books.catalogue.find? id).map fun listing =>
        if plans.any fun plan => s.tariffId? plan.key == some id then listing.revoke
        else listing := by
  induction plans generalizing s with
  | nil => simp [revokeAll]
  | cons plan rest ih =>
      obtain ⟨here, later⟩ := List.forall_mem_cons.1 free
      have published : (s.revoke plan).1.published = s.published := published_revokeAll s [plan]
      have ids (key : String) : (s.revoke plan).1.tariffId? key = s.tariffId? key := by
        rw [tariffId?, published, ← tariffId?]
      have market : (s.revoke plan).1.books.market = s.books.market := market_revokeAll s [plan]
      have rest := ih (s.revoke plan).1 (by
        simp only [ids, market]
        exact later)
      refine rest.trans ?_
      rw [find?_revoke here, Option.map_map]
      congr 1
      funext listing
      simp only [ids, Function.comp_apply, List.any_cons]
      by_cases own : s.tariffId? plan.key == some id
      · simp only [own, if_true, Bool.true_or]
        split <;> rfl
      · simp only [own, Bool.false_or, Bool.false_eq_true, if_false]

theorem Registered.isDefault_eq_false {cycle : Nat} {s : Simulation G R}
    (registered : Registered scenario cycle s) (valid : scenario.problems = [])
    (listed : s.Listed) {plan : TariffPlan R} (planned : plan ∈ scenario.tariffs) {revoked : Nat}
    (scheduled : plan.revokeCycle = some revoked) {id : TariffId}
    (found : s.tariffId? plan.key = some id) : s.books.market.isDefault id = false := by
  refine Bool.eq_false_iff.2 fun isDefault => ?_
  obtain ⟨powerType, -, default⟩ := List.any_eq_true.1 isDefault
  rw [Option.any_eq_true] at default
  obtain ⟨tariff, default, same⟩ := default
  obtain ⟨other, planned', isDefault', -, member, -⟩ :=
    registered.defaults powerType tariff default
  have entry := listed.eq_of_id member (mem_published_of_tariffId? found) (eq_of_beq same)
  obtain rfl := Scenario.eq_of_keys valid planned' planned (congrArg Prod.fst entry)
  have never := (Scenario.revokeCycle_of_valid valid planned scheduled).2
  rw [isDefault'] at never
  cases never

theorem Registered.revokeAll {s : Simulation G R} (registered : Registered scenario s.cycle s)
    (valid : scenario.problems = []) (listed : s.Listed) (distinct : s.keys.Nodup)
    {plans : List (TariffPlan R)}
    (due : plans = scenario.tariffs.filter fun plan => plan.revokeCycle == some s.cycle) :
    Registered scenario (s.cycle + 1) (s.revokeAll plans).1 := by
  have mem_plans {plan : TariffPlan R} :
      plan ∈ plans ↔ plan ∈ scenario.tariffs ∧ plan.revokeCycle = some s.cycle := by
    rw [due, List.mem_filter, beq_iff_eq]
  have frame := (listed.revokeAll plans).2
  have published := published_revokeAll s plans
  have found := find?_revokeAll s plans fun plan member id found =>
    registered.isDefault_eq_false valid listed (mem_plans.1 member).1 (mem_plans.1 member).2 found
  have terms (withdrawn : Bool) (listing : Listing R) :
      (if withdrawn then listing.revoke else listing).tariff = listing.tariff := by
    cases withdrawn <;> rfl
  constructor
  · intro entry member
    rw [published] at member
    obtain ⟨plan, planned, key, early, listing, supersedes, known, own, revoked⟩ :=
      registered.entries entry member
    refine ⟨plan, planned, key, early.trans frame.cycle.ge, _, supersedes,
      by rw [found, known, Option.map_some], (terms _ listing).trans own, ?_⟩
    have withdrawn : (plans.any fun plan => s.tariffId? plan.key == some entry.2) =
        (plan.revokeCycle == some s.cycle) := by
      rw [Bool.eq_iff_iff, List.any_eq_true, beq_iff_eq]
      constructor
      · rintro ⟨other, listedOther, foundOther⟩
        obtain ⟨planned', scheduled⟩ := mem_plans.1 listedOther
        have same := listed.eq_of_id (mem_published_of_tariffId? (eq_of_beq foundOther)) member rfl
        have keys : other.key = plan.key := (congrArg Prod.fst same).trans key.symm
        rw [← Scenario.eq_of_keys valid planned' planned keys, scheduled]
      · intro scheduled
        refine ⟨plan, mem_plans.2 ⟨planned, scheduled⟩, beq_iff_eq.2 ?_⟩
        rw [tariffId?_eq_some_iff distinct, key]
        exact member
    rw [withdrawn, TariffPlan.isRevokedBefore_succ, ← revoked]
    cases plan.revokeCycle == some s.cycle with
    | false => simp
    | true => simp [Listing.revoke, Listing.isRevoked]
  · intro powerType tariff default
    rw [market_revokeAll] at default
    obtain ⟨plan, planned, isDefault, type, member, listing, known, own⟩ :=
      registered.defaults powerType tariff default
    exact ⟨plan, planned, isDefault, type, published.symm ▸ member, _,
      by rw [found, known, Option.map_some], (terms _ listing).trans own⟩
/-! ## Runs -/

theorem Registered.publishScheduled {s : Simulation G R}
    (registered : Registered scenario s.cycle s) (underway : Underway scenario s)
    (valid : scenario.problems = []) :
    Registered scenario s.cycle s.publishScheduled.2 := by
  have stamped : Registered scenario s.stamped.cycle s.stamped :=
    registered.congr rfl le_rfl rfl rfl
  rw [underway.publishScheduled_eq]
  exact stamped.publishAll valid underway.stamped fun _ listed => listed

theorem Registered.scheduled {s : Simulation G R} (registered : Registered scenario s.cycle s)
    (punctual : Punctual scenario s) (underway : Underway scenario s)
    (valid : scenario.problems = []) {count : Nat}
    (succeeded : s.publishScheduled.1 = .ok count) :
    Registered scenario (s.cycle + 1) s.scheduled := by
  obtain ⟨listed, kept⟩ := underway.published
  have published := registered.publishScheduled underway valid
  have distinct := punctual.nodup_keys underway valid succeeded
  rw [show s.cycle = s.publishScheduled.2.cycle from kept.cycle.symm] at published ⊢
  rw [Simulation.scheduled]
  refine published.revokeAll valid listed distinct ?_
  rw [show s.publishScheduled.2.scenario = scenario from
    kept.scenario.trans underway.scenario_eq]

theorem Underway.faithful_scheduled {s : Simulation G R} (underway : Underway scenario s) :
    s.scheduled.books.roster.Faithful := by
  obtain ⟨-, kept, -⟩ := underway.scheduled
  rw [kept.roster]
  exact underway.faithful

variable [SampleSource G R]

theorem defaults_rehomed {s : Simulation G R} (faithful : s.scheduled.books.roster.Faithful) :
    s.rehomed.books.market.defaults = s.scheduled.books.market.defaults :=
  queued_induction (I := fun current =>
      current.books.market.defaults = s.scheduled.books.market.defaults) faithful rfl
    (fun _ _ _ _ queued same => (congrArg Market.defaults queued.market).trans same)
    (fun current now same =>
      (congrArg Market.defaults (Books.market_settle current.books now)).trans same)

theorem defaults_billed {s : Simulation G R} (faithful : s.scheduled.books.roster.Faithful) :
    s.billed.books.market.defaults = s.scheduled.books.market.defaults := by
  have billed := (billed_billCycle s.rehomed).market
  rw [← Simulation.billed] at billed
  rw [billed, defaults_rehomed faithful]

theorem Registered.step {s : Simulation G R} (registered : Registered scenario s.cycle s)
    (punctual : Punctual scenario s) (underway : Underway scenario s)
    (valid : scenario.problems = []) : Registered scenario s.step.2.cycle s.step.2 := by
  cases outcome : s.publishScheduled.1 with
  | error error =>
      have failed := registered.publishScheduled underway valid
      obtain ⟨-, kept⟩ := underway.published
      rw [step_of_error outcome]
      rwa [show s.cycle = s.publishScheduled.2.cycle from kept.cycle.symm] at failed
  | ok count =>
      have scheduled := registered.scheduled punctual underway valid outcome
      obtain ⟨-, kept, -⟩ := underway.scheduled
      have faithful := underway.faithful_scheduled
      obtain ⟨trading, -⟩ := trading_rehomed faithful
      have billed := billed_billCycle s.rehomed
      rw [← Simulation.billed] at billed
      rw [step_of_ok outcome]
      refine scheduled.congr (billed.published.trans trading.published) ?_ ?_ ?_
      · exact kept.cycle.le.trans (Nat.le_succ _)
      · exact (congrArg Catalogue.unmarked billed.catalogue).trans trading.unmarked
      · exact defaults_billed faithful

theorem registered_afterCalls (valid : scenario.problems = []) (calls : Nat) :
    Registered scenario ((fresh (G := G) scenario).afterCalls calls).cycle
      ((fresh (G := G) scenario).afterCalls calls) := by
  induction calls with
  | zero => exact registered_fresh scenario
  | succ calls ih =>
      exact ih.step (punctual_afterCalls scenario calls) (underway_afterCalls scenario calls) valid

end Simulation

end RetailMarket
