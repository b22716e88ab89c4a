import RetailMarket.Proofs.Completion

/-!
# Cycles that fail

A cycle fails at the first plan that supersedes an unknown key.  The plans before it have been
published by then, and they stay: nothing takes them back.  All else is as before the call.  The
next call fails at the same plan, and publishes the plans before it once more.
-/

namespace RetailMarket

namespace TariffPlan

variable {R : Type}

theorem unknown?_eq_none_of_subset {known more : List String} (subset : known ⊆ more)
    {plans : List (TariffPlan R)} (clean : unknown? known plans = none) :
    unknown? more plans = none := by
  induction plans generalizing known more with
  | nil => rfl
  | cons plan rest ih =>
      rw [unknown?, Option.or_eq_none_iff] at clean ⊢
      refine ⟨?_, ih (List.append_subset.2 ⟨?_, ?_⟩) clean.2⟩
      · rw [Option.eq_none_iff_forall_ne_some]
        intro key missing
        obtain ⟨named, unknown⟩ := missing?_eq_some.1 missing
        have here : plan.missing? known = some key :=
          missing?_eq_some.2 ⟨named, fun listed => unknown (subset listed)⟩
        rw [clean.1] at here
        cases here
      · exact fun key listed => List.mem_append_left _ (subset listed)
      · exact List.subset_append_right _ _

end TariffPlan

namespace Simulation

variable {G R : Type} [Quantity R]

/-! ## Publications up to one that fails -/

theorem publish_of_missing {s : Simulation G R} {plan : TariffPlan R} {key : String}
    (missing : plan.missing? s.keys = some key) :
    s.publish plan = .error (.unknownTariff key) := by
  obtain ⟨named, unknown⟩ := TariffPlan.missing?_eq_some.1 missing
  rw [publish, named]
  simp only [tariffId?_eq_none.2 unknown]

theorem publishAll_append_of_error {s : Simulation G R} {before after : List (TariffPlan R)}
    {plan : TariffPlan R} {count : Nat} {error : CycleError}
    (succeeded : (s.publishAll before).1 = .ok count)
    (failed : (s.publishAll before).2.publish plan = .error error) :
    s.publishAll (before ++ plan :: after) = (.error error, (s.publishAll before).2) := by
  induction before generalizing s count with
  | nil =>
      simp only [publishAll] at failed
      simp only [List.nil_append, publishAll, failed]
  | cons first rest ih =>
      cases outcome : s.publish first with
      | error error =>
          simp only [publishAll, outcome] at succeeded
          cases succeeded
      | ok result =>
          obtain ⟨next, here⟩ := result
          simp only [publishAll, outcome, List.cons_append] at succeeded failed ⊢
          cases later : (next.publishAll rest).1 with
          | error error =>
              rw [later] at succeeded
              cases succeeded
          | ok more =>
              rw [ih later failed]
              rfl

theorem exists_published_publishAll {s : Simulation G R} (listed : s.Listed)
    (plans : List (TariffPlan R)) :
    ∃ entered, (s.publishAll plans).2.published = s.published ++ entered := by
  induction plans generalizing s with
  | nil => exact ⟨[], (List.append_nil _).symm⟩
  | cons plan rest ih =>
      cases outcome : s.publish plan with
      | error error =>
          simp only [publishAll, outcome]
          exact ⟨[], (List.append_nil _).symm⟩
      | ok result =>
          obtain ⟨next, count⟩ := result
          obtain ⟨entered, added⟩ := ih (listed.publish outcome).1
          obtain ⟨id, supersedes, catalogue, -, -, -, -, rfl⟩ :=
            publish_ok listed.catalogue outcome
          simp only [publishAll, outcome]
          exact ⟨(plan.key, id) :: entered, by rw [added, List.append_assoc]; rfl⟩

/-! ## Cycles up to a plan that cannot be published -/

variable [SampleSource G R] {scenario : Scenario R}

theorem Underway.step_eq_error {s : Simulation G R} (underway : Underway scenario s)
    {before after : List (TariffPlan R)} {plan : TariffPlan R} {key : String}
    (split : scenario.due s.cycle = before ++ plan :: after)
    (clean : TariffPlan.unknown? s.keys before = none)
    (missing : plan.missing? (s.keys ++ before.map TariffPlan.key) = some key) :
    (s.stamped.publishAll before).1 = .ok before.length ∧
      (s.stamped.publishAll before).2.keys = s.keys ++ before.map TariffPlan.key ∧
      s.step = (.error (.unknownTariff key), (s.stamped.publishAll before).2) := by
  have clean' : TariffPlan.unknown? s.stamped.keys before = none := clean
  have succeeded : (s.stamped.publishAll before).1 = .ok before.length := by
    rw [result_publishAll underway.stamped, clean']
    rfl
  have keys := keys_publishAll underway.stamped clean'
  have failed : (s.stamped.publishAll before).2.publish plan = .error (.unknownTariff key) :=
    publish_of_missing (by rw [keys]; exact missing)
  have stopped : s.publishScheduled =
      (.error (.unknownTariff key), (s.stamped.publishAll before).2) := by
    rw [underway.publishScheduled_eq, split]
    exact publishAll_append_of_error succeeded failed
  refine ⟨succeeded, keys, ?_⟩
  rw [step_of_error (congrArg Prod.fst stopped), stopped]

theorem Underway.step_failed_again {s : Simulation G R} (underway : Underway scenario s)
    {before after : List (TariffPlan R)} {plan : TariffPlan R} {key : String}
    (split : scenario.due s.cycle = before ++ plan :: after)
    (clean : TariffPlan.unknown? s.keys before = none)
    (missing : plan.missing? (s.keys ++ before.map TariffPlan.key) = some key)
    {failed : Simulation G R} (left : failed = (s.stamped.publishAll before).2) :
    failed.step = (.error (.unknownTariff key), (failed.stamped.publishAll before).2) ∧
      (failed.stamped.publishAll before).2.keys = failed.keys ++ before.map TariffPlan.key := by
  obtain ⟨-, keys, stopped⟩ := underway.step_eq_error split clean missing
  rw [← left] at keys stopped
  have next : Underway scenario failed := by
    have next := underway.step
    rwa [stopped] at next
  have cycle : failed.cycle = s.cycle := by
    rw [left]
    exact (underway.stamped.publishAll before).2.cycle
  have clean' : TariffPlan.unknown? failed.keys before = none := by
    refine TariffPlan.unknown?_eq_none_of_subset ?_ clean
    rw [keys]
    exact List.subset_append_left _ _
  have missing' : plan.missing? (failed.keys ++ before.map TariffPlan.key) = some key := by
    obtain ⟨named, absent⟩ := TariffPlan.missing?_eq_some.1 missing
    refine TariffPlan.missing?_eq_some.2 ⟨named, fun known => ?_⟩
    rw [keys, List.mem_append] at known
    exact known.elim absent fun repeated => absent (List.mem_append_right _ repeated)
  obtain ⟨-, repeated, stopped'⟩ := next.step_eq_error (cycle ▸ split) clean' missing'
  exact ⟨stopped', repeated⟩

structure Halted (s failed : Simulation G R) : Prop where
  scenario : failed.scenario = s.scenario
  timetable : failed.timetable = s.timetable
  customers : failed.customers = s.customers
  cycle : failed.cycle = s.cycle
  roster : failed.books.roster = s.books.roster
  pending : failed.books.market.pending = s.books.market.pending
  transactions : failed.books.journal.transactions = s.books.journal.transactions

/-- A call that fails has published exactly the plans of its cycle before the first that supersedes
an unknown key, under new ids, and has changed nothing else.  Nothing is taken back: the next call
fails in the same way and publishes those plans once more. -/
theorem step_failed (scenario : Scenario R) (calls : Nat) (s : Simulation G R)
    (reached : s = (fresh scenario).afterCalls calls) {error : CycleError}
    {failed : Simulation G R} (stepped : s.step = (.error error, failed)) :
    ∃ before plan after key, scenario.due s.cycle = before ++ plan :: after ∧
      plan.supersedes = some key ∧ key ∉ s.keys ++ before.map TariffPlan.key ∧
      error = .unknownTariff key ∧
      s.stamped.publishAll before = (.ok before.length, failed) ∧ Halted s failed ∧
      (∃ entered, failed.published = s.published ++ entered ∧
        entered.map Prod.fst = before.map TariffPlan.key ∧
        (failed.published.map Prod.snd).Nodup) ∧
      (before = [] → failed.published = s.published ∧
        failed.books.catalogue = s.books.catalogue ∧ failed.books.market = s.books.market) ∧
      failed.step.1 = .error error ∧
      failed.step.2.keys = failed.keys ++ before.map TariffPlan.key := by
  have underway : Underway scenario s := reached ▸ underway_afterCalls scenario calls
  obtain ⟨key, unknown⟩ :
      ∃ key, TariffPlan.unknown? s.keys (scenario.due s.cycle) = some key := by
    rw [← Option.ne_none_iff_exists']
    intro known
    have succeeded := (underway.step_of_known known).1
    rw [stepped] at succeeded
    cases succeeded
  obtain ⟨before, plan, after, split, clean, missing⟩ := TariffPlan.unknown?_eq_some.1 unknown
  obtain ⟨named, absent⟩ := TariffPlan.missing?_eq_some.1 missing
  obtain ⟨succeeded, keys, stopped⟩ := underway.step_eq_error split clean missing
  rw [stopped] at stepped
  cases stepped
  obtain ⟨listed, kept⟩ := underway.stamped.publishAll before
  have halted : Halted s (s.stamped.publishAll before).2 :=
    ⟨kept.scenario, kept.timetable, kept.customers, kept.cycle, kept.roster, kept.pending, by
      rw [kept.journal]; rfl⟩
  have fresh : ∃ entered, (s.stamped.publishAll before).2.published = s.published ++ entered ∧
      entered.map Prod.fst = before.map TariffPlan.key ∧
      ((s.stamped.publishAll before).2.published.map Prod.snd).Nodup := by
    obtain ⟨entered, published⟩ := exists_published_publishAll underway.stamped before
    refine ⟨entered, published, ?_, by rw [listed.published]; exact listed.catalogue.nodup⟩
    rw [Simulation.keys, published, List.map_append] at keys
    exact List.append_cancel_left keys
  obtain ⟨again, repeated⟩ := underway.step_failed_again split clean missing rfl
  refine ⟨before, plan, after, key, split, named, absent, rfl, by rw [← succeeded], halted, fresh,
    ?_, by rw [again], by rw [again]; exact repeated⟩
  rintro rfl
  exact ⟨rfl, rfl, rfl⟩

theorem step_failed_hasty :
    ∃ error failed,
      (fresh .hasty : Simulation ChaChaStream Float).step = (.error error, failed) ∧
      failed.cycle = 0 ∧ failed.books.roster = {} ∧ (failed.published.map Prod.snd).Nodup ∧
      failed.step.1 = .error error := by
  have split : Scenario.hasty.due 0 =
      Scenario.hasty.tariffs.take 3 ++ Scenario.hasty.tariffs.drop 4 := rfl
  obtain ⟨-, -, stopped⟩ :=
    (underway_fresh (G := ChaChaStream) Scenario.hasty).step_eq_error split rfl rfl
  obtain ⟨before, plan, after, key, -, -, -, -, -, halted, ⟨entered, -, -, different⟩, -, again,
    -⟩ := step_failed .hasty 0 (fresh .hasty) rfl stopped
  exact ⟨_, _, stopped, halted.cycle, halted.roster, different, again⟩

/-- The first call fails after three publications, and the second one publishes the same three
tariffs again. -/
theorem keys_of_failed_hasty :
    Scenario.hasty.problems = [] ∧
    ∃ error failed again,
      (fresh .hasty : Simulation ChaChaStream Float).step = (.error error, failed) ∧
      failed.step = (.error error, again) ∧
      (fresh .hasty : Simulation ChaChaStream Float).keys = [] ∧
      failed.keys = ["default-consumption", "default-production", "alpha"] ∧
      again.keys = ["default-consumption", "default-production", "alpha",
        "default-consumption", "default-production", "alpha"] := by
  have underway := underway_fresh (G := ChaChaStream) Scenario.hasty
  have split : Scenario.hasty.due 0 =
      Scenario.hasty.tariffs.take 3 ++ Scenario.hasty.tariffs.drop 4 := rfl
  obtain ⟨-, keys, stopped⟩ := underway.step_eq_error split rfl rfl
  obtain ⟨again, repeated⟩ := underway.step_failed_again split rfl rfl rfl
  refine ⟨Scenario.problems_hasty, _, _, _, stopped, again, rfl, keys, ?_⟩
  rw [repeated, keys]
  rfl

end Simulation

end RetailMarket
