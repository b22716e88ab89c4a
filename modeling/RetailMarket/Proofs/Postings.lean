import RetailMarket.Proofs.Completion
import RetailMarket.Proofs.Conservation

/-!
# The transactions of a cycle

A cycle stamps what it posts with its own timeslots: settlements with the first of them, billing
with each in turn.  The journal only grows, so that the transactions which a summary selects by
their stamps are those that its cycle has posted, and the summaries of a run divide the journal
among them.
-/

namespace RetailMarket

/-! ## Journals that grow -/

namespace Journal

variable {R : Type}

/-- What has been added is stamped with timeslots from `first` on and before `last`. -/
def Grows (first last : Nat) (before after : Journal R) : Prop :=
  ∃ posted, after.transactions.toList = before.transactions.toList ++ posted ∧
    ∀ transaction ∈ posted, first ≤ transaction.timeslot ∧ transaction.timeslot < last

def EndsBefore (slot : Nat) (journal : Journal R) : Prop :=
  ∀ transaction ∈ journal.transactions.toList, transaction.timeslot < slot

variable {first last : Nat}

theorem grows_of_eq {before after : Journal R} (same : after.transactions = before.transactions) :
    Grows first last before after :=
  ⟨[], by rw [same, List.append_nil], by simp⟩

theorem Grows.trans {start middle final : Journal R} (early : Grows first last start middle)
    (late : Grows first last middle final) : Grows first last start final := by
  obtain ⟨posted, added, within⟩ := early
  obtain ⟨more, addedMore, withinMore⟩ := late
  refine ⟨posted ++ more, by rw [addedMore, added, List.append_assoc], ?_⟩
  intro transaction listed
  rcases List.mem_append.1 listed with old | new
  · exact within transaction old
  · exact withinMore transaction new

theorem Grows.widen {before after : Journal R} (grows : Grows first last before after)
    {low high : Nat} (fits : ∀ slot, first ≤ slot → slot < last → low ≤ slot ∧ slot < high) :
    Grows low high before after := by
  obtain ⟨posted, added, within⟩ := grows
  exact ⟨posted, added, fun transaction listed =>
    fits _ (within transaction listed).1 (within transaction listed).2⟩

theorem grows_postAll (journal : Journal R) (postings : List (Posting R))
    (within : first ≤ journal.timeslot ∧ journal.timeslot < last) :
    Grows first last journal (journal.postAll postings) := by
  refine ⟨postings.map journal.stamp, toList_postAll journal postings, ?_⟩
  intro transaction listed
  obtain ⟨posting, -, rfl⟩ := List.mem_map.1 listed
  exact within

theorem EndsBefore.grows {before after : Journal R} (ends : before.EndsBefore first)
    (grows : Grows first last before after) (ordered : first ≤ last) : after.EndsBefore last := by
  obtain ⟨posted, added, within⟩ := grows
  intro transaction listed
  rw [added] at listed
  rcases List.mem_append.1 listed with old | new
  · exact (ends transaction old).trans_le ordered
  · exact (within transaction new).2

theorem Grows.between_earlier {before after : Journal R} (grows : Grows first last before after)
    {low high : Nat} (earlier : high ≤ first) :
    after.between low high = before.between low high := by
  obtain ⟨posted, added, within⟩ := grows
  have none : posted.filter (fun transaction =>
      decide (low ≤ transaction.timeslot) && decide (transaction.timeslot < high)) = [] := by
    refine List.filter_eq_nil_iff.2 fun transaction listed selected => ?_
    have bound := (within transaction listed).1
    simp only [Bool.and_eq_true, decide_eq_true_eq] at selected
    omega
  rw [between, added, List.filter_append, none, List.append_nil, between]

theorem Grows.between_added {before after : Journal R} (grows : Grows first last before after)
    (ends : before.EndsBefore first) :
    after.transactions.toList = before.transactions.toList ++ after.between first last := by
  obtain ⟨posted, added, within⟩ := grows
  rw [between, added, List.filter_append]
  congr 1
  have none : before.transactions.toList.filter (fun transaction =>
      decide (first ≤ transaction.timeslot) && decide (transaction.timeslot < last)) = [] := by
    refine List.filter_eq_nil_iff.2 fun transaction listed selected => ?_
    have bound := ends transaction listed
    simp only [Bool.and_eq_true, decide_eq_true_eq] at selected
    omega
  have all : posted.filter (fun transaction =>
      decide (first ≤ transaction.timeslot) && decide (transaction.timeslot < last)) = posted := by
    refine List.filter_eq_self.2 fun transaction listed => ?_
    simp only [Bool.and_eq_true, decide_eq_true_eq]
    exact within transaction listed
  rw [none, all, List.nil_append]

end Journal

/-! ## What the stages of a cycle post -/

namespace Books

variable {R : Type} [Quantity R] {first last : Nat}

/-- Only the current timeslot's transactions have been added, and it lies in the range. -/
structure PostsWithin (first last : Nat) (before after : Books R) : Prop where
  timeslot : after.journal.timeslot = before.journal.timeslot
  grows : first ≤ before.journal.timeslot ∧ before.journal.timeslot < last →
    Journal.Grows first last before.journal after.journal

omit [Quantity R] in
theorem postsWithin_of_eq {before after : Books R} (same : after.journal = before.journal) :
    PostsWithin first last before after :=
  ⟨congrArg Journal.timeslot same,
    fun _ => Journal.grows_of_eq (congrArg Journal.transactions same)⟩

omit [Quantity R] in
theorem PostsWithin.trans {start middle final : Books R}
    (early : PostsWithin first last start middle) (late : PostsWithin first last middle final) :
    PostsWithin first last start final :=
  ⟨late.timeslot.trans early.timeslot, fun within =>
    (early.grows within).trans (late.grows (early.timeslot.symm ▸ within))⟩

theorem postsWithin_settle (books : Books R) (now : Instant) :
    PostsWithin first last books (books.settle now).1 := by
  have posted := journal_settle_induction
    (P := fun journal => PostsWithin first last books { books with journal })
    (postsWithin_of_eq rfl) (fun _ _ _ holds => holds.trans
      ⟨Journal.timeslot_postAll _ _, Journal.grows_postAll _ _⟩) now
  exact ⟨posted.timeslot, posted.grows⟩

end Books

namespace Simulation

variable {G R : Type} [Quantity R] {scenario : Scenario R}

theorem grows_billSlots {simulation : Simulation G R} (hosts : simulation.Hosts) (count : Nat)
    (tally : Tally R) :
    Journal.Grows simulation.timetable.next
      (min (simulation.timetable.next + count) simulation.timetable.slots)
      tally.journal (billSlots count simulation tally).1.journal := by
  induction count generalizing simulation tally with
  | zero => exact Journal.grows_of_eq rfl
  | succ count ih =>
      let table := simulation.timetable
      rw [billSlots_succ]
      split
      · rename_i left
        change table.next < table.slots at left
        let billed := billSlot simulation.ticked table.next (table.slotStart table.next) tally
        have frame : Billed simulation.ticked billed.2 := billed_billSlot simulation.ticked _ _ tally
        have hosted : simulation.ticked.Hosts := hosts
        obtain ⟨pages, -, stamped⟩ : ∃ pages, _ ∧ billed.1.journal = _ :=
          exists_pages_billSlot hosted table.next (table.slotStart table.next) tally
        have here : Journal.Grows table.next (min (table.next + (count + 1)) table.slots)
            tally.journal billed.1.journal := by
          rw [stamped]
          refine (Journal.grows_of_eq rfl).trans (Journal.grows_postAll _ _ ⟨le_rfl, ?_⟩)
          simp only
          omega
        have later := ih (frame.hosts hosts) billed.1
        have next : billed.2.timetable = { table with next := table.next + 1 } := rfl
        rw [next] at later
        exact here.trans (later.widen fun slot low high => by simp only at low high; omega)
      · exact Journal.grows_of_eq rfl

variable [SampleSource G R]

theorem grows_rehomed {s : Simulation G R} (faithful : s.scheduled.books.roster.Faithful)
    {first last : Nat} (within : first ≤ s.scheduled.books.journal.timeslot ∧
      s.scheduled.books.journal.timeslot < last) :
    Journal.Grows first last s.scheduled.books.journal s.rehomed.books.journal := by
  have posts : Books.PostsWithin first last s.scheduled.books s.rehomed.books :=
    queued_induction (I := fun current => Books.PostsWithin first last s.scheduled.books
        current.books) faithful (Books.postsWithin_of_eq rfl)
      (fun _ _ _ _ queued holds => holds.trans (Books.postsWithin_of_eq queued.journal))
      (fun current now holds => holds.trans (Books.postsWithin_settle current.books now))
  exact posts.grows within

theorem Running.grows_billed {s : Simulation G R} (running : Running scenario s)
    (valid : scenario.problems = []) (census : Census scenario.people) {count : Nat}
    (succeeded : s.publishScheduled.1 = .ok count) :
    Journal.Grows (s.cycle * scenario.run.timeslotsPerCycle)
      ((s.cycle + 1) * scenario.run.timeslotsPerCycle)
      s.books.journal s.billed.books.journal := by
  have positive : 0 < scenario.run.timeslotsPerCycle := Scenario.timeslotsPerCycle_of_valid valid
  have span : (s.cycle + 1) * scenario.run.timeslotsPerCycle =
      s.cycle * scenario.run.timeslotsPerCycle + scenario.run.timeslotsPerCycle := Nat.succ_mul _ _
  obtain ⟨orderly, rescheduled, -⟩ := running.ready_scheduled valid succeeded
  have reaches := running.reaches valid census succeeded
  have stamped : s.scheduled.books.journal =
      { s.books.journal with timeslot := s.cycle * scenario.run.timeslotsPerCycle } := by
    rw [rescheduled.journal, ← running.scenario_eq]
    rfl
  have trading : Journal.Grows (s.cycle * scenario.run.timeslotsPerCycle)
      ((s.cycle + 1) * scenario.run.timeslotsPerCycle)
      s.scheduled.books.journal s.rehomed.books.journal := by
    refine grows_rehomed orderly.sound.roster ?_
    rw [stamped]
    simp only
    omega
  have billing := grows_billSlots (hosts_of_placed reaches.customers reaches.complete.sound.placed)
    scenario.run.timeslotsPerCycle
    { journal := s.rehomed.books.journal, curtailed := 0, balancing := 0 }
  rw [reaches.timetable, running.next] at billing
  have billed : s.billed.books.journal =
      (billSlots scenario.run.timeslotsPerCycle s.rehomed
        { journal := s.rehomed.books.journal, curtailed := 0, balancing := 0 }).1.journal := by
    rw [Simulation.billed, billCycle, reaches.scenario_eq]
  rw [billed]
  refine ((Journal.grows_of_eq ?_).trans trading).trans (billing.widen fun slot low high => ?_)
  · rw [stamped]
  · -- Once the timetable has run out there is no slot to bill.
    omega

theorem Running.grows_step {s : Simulation G R} (running : Running scenario s)
    (valid : scenario.problems = []) (census : Census scenario.people) :
    s.cycle ≤ s.step.2.cycle ∧
      Journal.Grows (s.cycle * scenario.run.timeslotsPerCycle)
        (s.step.2.cycle * scenario.run.timeslotsPerCycle)
        s.books.journal s.step.2.books.journal := by
  cases outcome : s.publishScheduled.1 with
  | error error =>
      obtain ⟨-, kept⟩ := running.published
      rw [step_of_error outcome]
      refine ⟨kept.cycle.ge, Journal.grows_of_eq ?_⟩
      rw [kept.journal]
      rfl
  | ok count =>
      rw [step_of_ok outcome]
      exact ⟨Nat.le_succ _, running.grows_billed valid census outcome⟩

theorem Running.grows_afterCalls {s : Simulation G R} (running : Running scenario s)
    (valid : scenario.problems = []) (census : Census scenario.people) (calls : Nat) :
    s.cycle ≤ (s.afterCalls calls).cycle ∧
      Journal.Grows (s.cycle * scenario.run.timeslotsPerCycle)
        ((s.afterCalls calls).cycle * scenario.run.timeslotsPerCycle)
        s.books.journal (s.afterCalls calls).books.journal := by
  induction calls with
  | zero => exact ⟨le_rfl, Journal.grows_of_eq rfl⟩
  | succ calls ih =>
      obtain ⟨onward, grows⟩ := ih
      obtain ⟨next, added⟩ := (running.afterCalls valid census calls).grows_step valid census
      have upTo := Nat.mul_le_mul_right scenario.run.timeslotsPerCycle next
      have since := Nat.mul_le_mul_right scenario.run.timeslotsPerCycle onward
      exact ⟨onward.trans next, (grows.widen fun slot low high => ⟨low, high.trans_le upTo⟩).trans
        (added.widen fun slot low high => ⟨since.trans low, high⟩)⟩

theorem endsBefore_afterCalls (valid : scenario.problems = []) (census : Census scenario.people)
    (calls : Nat) :
    ((fresh (G := G) scenario).afterCalls calls).books.journal.EndsBefore
      (((fresh (G := G) scenario).afterCalls calls).cycle * scenario.run.timeslotsPerCycle) := by
  obtain ⟨onward, grows⟩ := (running_fresh (G := G) scenario).grows_afterCalls valid census calls
  have empty : (fresh (G := G) scenario).books.journal.EndsBefore
      ((fresh (G := G) scenario).cycle * scenario.run.timeslotsPerCycle) := by
    intro transaction listed
    cases listed
  exact empty.grows grows (Nat.mul_le_mul_right _ onward)

/-! ## The summaries of a run -/

/-- The summaries of so many calls, of those that did not fail. -/
def summaries (s : Simulation G R) : (calls : Nat) → List (CycleSummary R)
  | 0 => []
  | calls + 1 => summaries s calls ++ (s.afterCalls calls).step.1.toOption.toList

theorem afterCalls_add (s : Simulation G R) (calls more : Nat) :
    s.afterCalls (calls + more) = (s.afterCalls calls).afterCalls more := by
  induction more with
  | zero => rfl
  | succ more ih =>
      rw [← Nat.add_assoc, afterCalls, ih]
      rfl

theorem summaries_add (s : Simulation G R) (calls more : Nat) :
    s.summaries (calls + more) = s.summaries calls ++ (s.afterCalls calls).summaries more := by
  induction more with
  | zero => exact (List.append_nil _).symm
  | succ more ih =>
      rw [← Nat.add_assoc, summaries, ih, afterCalls_add, List.append_assoc, summaries]

theorem runCycles_eq_ok {count : Nat} {s last : Simulation G R} {later : List (CycleSummary R)}
    (ran : runCycles count s = (.ok later, last)) :
    s.summaries count = later ∧ s.afterCalls count = last := by
  induction count generalizing s later with
  | zero =>
      cases ran
      exact ⟨rfl, rfl⟩
  | succ count ih =>
      rw [Nat.add_comm, summaries_add, afterCalls_add]
      have one : s.summaries 1 = s.step.1.toOption.toList ∧ s.afterCalls 1 = s.step.2 := ⟨rfl, rfl⟩
      rw [one.1, one.2]
      rw [runCycles] at ran
      split at ran
      · cases ran
      · rename_i summary next stepped
        rw [stepped]
        cases rest : runCycles count next with
        | mk result final =>
            rw [rest] at ran
            cases result with
            | error error => cases ran
            | ok summaries =>
                cases ran
                obtain ⟨listed, reached⟩ := ih rest
                exact ⟨congrArg (summary :: ·) listed, reached⟩

/-- What a summary says of the transactions that its cycle has posted. -/
structure Recounts (summary : CycleSummary R) (cycle : Nat) (posted : List (Transaction R)) :
    Prop where
  cycle : summary.cycle = cycle
  transactions : summary.transactions = posted.length
  charges : summary.charges = Quantity.total (posted.map (·.charge))
  balanced : summary.allocationBalance = 0
  conserved : summary.isConserved = true

def slice (s : Simulation G R) (cycle : Nat) : List (Transaction R) :=
  s.books.journal.between (cycle * s.scenario.run.timeslotsPerCycle)
    ((cycle + 1) * s.scenario.run.timeslotsPerCycle)

theorem Running.recounts_summarize {s : Simulation G R} (running : Running scenario s)
    (valid : scenario.problems = []) (census : Census scenario.people) {count : Nat}
    (succeeded : s.publishScheduled.1 = .ok count) :
    Recounts (s.summarize count) s.cycle (s.billed.slice s.cycle) := by
  have passage := running.passage valid census succeeded
  have reaches := running.reaches valid census succeeded
  obtain ⟨complete, -, customers⟩ := reaches.billed
  have scenario_billed := (billed_billCycle s.rehomed).scenario
  rw [← billed] at complete customers scenario_billed
  have same : s.billed.scenario = s.scenario := by
    rw [scenario_billed, reaches.scenario_eq, running.scenario_eq]
  have selected : s.billed.books.journal.between s.firstSlot
      (s.firstSlot + s.scenario.run.timeslotsPerCycle) = s.billed.slice s.cycle := by
    rw [slice, same, Nat.succ_mul, firstSlot]
  refine ⟨rfl, ?_, ?_, passage.balance_summarize count, ?_⟩
  · simp only [summarize, selected]
  · simp only [summarize, Journal.chargeBetween, selected]
  · simp only [summarize, isConserved_of_complete customers complete]

omit [SampleSource G R] in
theorem Running.slice_eq {s : Simulation G R} (running : Running scenario s) (cycle : Nat) :
    s.slice cycle = s.books.journal.between (cycle * scenario.run.timeslotsPerCycle)
      ((cycle + 1) * scenario.run.timeslotsPerCycle) := by
  rw [slice, running.scenario_eq]

theorem Running.slice_afterCalls {s : Simulation G R} (running : Running scenario s)
    (valid : scenario.problems = []) (census : Census scenario.people) {cycle : Nat}
    (ended : cycle < s.cycle) (calls : Nat) : (s.afterCalls calls).slice cycle = s.slice cycle := by
  obtain ⟨-, grows⟩ := running.grows_afterCalls valid census calls
  rw [(running.afterCalls valid census calls).slice_eq, running.slice_eq]
  exact grows.between_earlier (Nat.mul_le_mul_right _ ended)

theorem Running.posted_step {s next : Simulation G R} (running : Running scenario s)
    (valid : scenario.problems = []) (census : Census scenario.people)
    (ends : s.books.journal.EndsBefore (s.cycle * scenario.run.timeslotsPerCycle))
    {summary : CycleSummary R} (stepped : s.step = (.ok summary, next)) :
    next.books.journal.transactions.toList =
        s.books.journal.transactions.toList ++ next.slice s.cycle ∧
      Recounts summary s.cycle (next.slice s.cycle) := by
  have runningNext := running.step valid census
  rw [stepped] at runningNext
  obtain ⟨count, succeeded, rfl, rfl⟩ := step_eq_ok stepped
  have grows := running.grows_billed valid census succeeded
  refine ⟨?_, running.recounts_summarize valid census succeeded⟩
  rw [runningNext.slice_eq]
  exact grows.between_added ends

theorem Running.failed_step {s next : Simulation G R} (running : Running scenario s)
    {error : CycleError} (stepped : s.step = (.error error, next)) :
    next.books.journal.transactions = s.books.journal.transactions ∧ next.cycle = s.cycle ∧
      next.scenario = s.scenario := by
  cases outcome : s.publishScheduled.1 with
  | ok count =>
      rw [step_of_ok outcome] at stepped
      cases stepped
  | error other =>
      rw [step_of_error outcome] at stepped
      cases stepped
      obtain ⟨-, kept⟩ := running.published
      refine ⟨?_, kept.cycle, kept.scenario⟩
      rw [kept.journal]
      rfl

/-- The summaries so far tell of the whole journal, cycle by cycle. -/
structure Divided (s : Simulation G R) (summaries : List (CycleSummary R)) : Prop where
  slices : s.books.journal.transactions.toList = (List.range s.cycle).flatMap s.slice
  length : summaries.length = s.cycle
  recounts : ∀ cycle summary, summaries[cycle]? = some summary →
    Recounts summary cycle (s.slice cycle)

omit [SampleSource G R] in
theorem Divided.sum_transactions {s : Simulation G R} {summaries : List (CycleSummary R)}
    (divided : Divided s summaries) :
    (summaries.map (·.transactions)).sum = s.books.journal.transactions.size := by
  have counts : summaries.map (·.transactions) =
      (List.range s.cycle).map fun cycle => (s.slice cycle).length := by
    refine List.ext_getElem (by simp [divided.length]) fun cycle listed _ => ?_
    rw [List.length_map] at listed
    simpa using (divided.recounts cycle _ (List.getElem?_eq_getElem listed)).transactions
  rw [counts, ← Array.length_toList, divided.slices, List.length_flatMap]

omit [SampleSource G R] in
theorem Divided.report {s : Simulation G R} {summaries : List (CycleSummary R)}
    (divided : Divided s summaries) :
    (MarketReport.ofSummaries summaries).unbalancedCycles = 0 ∧
      (MarketReport.ofSummaries summaries).isConserved = true := by
  have recounts : ∀ summary ∈ summaries, ∃ cycle, Recounts summary cycle (s.slice cycle) := by
    intro summary listed
    obtain ⟨cycle, found⟩ := List.mem_iff_getElem?.1 listed
    exact ⟨cycle, divided.recounts cycle summary found⟩
  constructor
  · refine List.length_eq_zero_iff.2 (List.filter_eq_nil_iff.2 fun summary listed unbalanced => ?_)
    obtain ⟨cycle, recounted⟩ := recounts summary listed
    rw [recounted.balanced] at unbalanced
    cases unbalanced
  · refine List.all_eq_true.2 fun summary listed => ?_
    obtain ⟨cycle, recounted⟩ := recounts summary listed
    exact recounted.conserved

theorem Divided.step {s : Simulation G R} {summaries : List (CycleSummary R)}
    (divided : Divided s summaries) (running : Running scenario s)
    (valid : scenario.problems = []) (census : Census scenario.people)
    (ends : s.books.journal.EndsBefore (s.cycle * scenario.run.timeslotsPerCycle)) :
    Divided s.step.2 (summaries ++ s.step.1.toOption.toList) := by
  have earlier (cycle : Nat) (ended : cycle < s.cycle) : s.step.2.slice cycle = s.slice cycle :=
    running.slice_afterCalls valid census ended 1
  cases outcome : s.step with
  | mk result next =>
      rw [outcome] at earlier
      cases result with
      | error error =>
          obtain ⟨transactions, cycle, scenario⟩ := running.failed_step outcome
          have same : next.slice = s.slice := by
            funext cycle
            simp only [slice, Journal.between, transactions, scenario]
          refine ⟨?_, ?_, ?_⟩
          · rw [transactions, cycle, same]
            exact divided.slices
          · rw [cycle, ← divided.length]
            exact congrArg List.length (List.append_nil summaries)
          · intro place told found
            have before : summaries[place]? = some told :=
              (congrArg (·[place]?) (List.append_nil summaries)).symm.trans found
            rw [same]
            exact divided.recounts place told before
      | ok summary =>
          obtain ⟨posted, recounted⟩ := running.posted_step valid census ends outcome
          have cycle : next.cycle = s.cycle + 1 := by
            obtain ⟨_, -, -, rfl⟩ := step_eq_ok outcome
            rfl
          refine ⟨?_, ?_, ?_⟩
          · have before : (List.range s.cycle).flatMap next.slice =
                (List.range s.cycle).flatMap s.slice :=
              List.flatMap_congr fun past listed => earlier past (List.mem_range.1 listed)
            rw [posted, divided.slices, cycle, List.range_succ, List.flatMap_append,
              List.flatMap_singleton, before]
          · rw [List.length_append, divided.length, cycle]
            rfl
          · intro place told found
            rw [List.getElem?_append] at found
            split at found
            · rename_i past
              rw [earlier place (divided.length ▸ past)]
              exact divided.recounts place told found
            · rename_i notPast
              have last : place = s.cycle := by
                have bound := (List.getElem?_eq_some_iff.1 found).1
                rw [divided.length] at notPast bound
                simp only [Except.toOption, Option.toList_some, List.length_singleton] at bound
                omega
              rw [last, divided.length, Nat.sub_self] at found
              cases found
              rw [last]
              exact recounted

theorem divided_afterCalls (valid : scenario.problems = []) (census : Census scenario.people)
    (calls : Nat) : Divided ((fresh (G := G) scenario).afterCalls calls)
      ((fresh (G := G) scenario).summaries calls) := by
  induction calls with
  | zero => exact ⟨rfl, rfl, fun cycle summary found => by cases found⟩
  | succ calls ih =>
      exact ih.step (running_afterCalls valid census calls) valid census
        (endsBefore_afterCalls valid census calls)

/-- The summary of a cycle counts and charges just what the cycle has posted; a failing call posts
nothing.  So the journal is what the cycles have posted, one after the other, the summaries' counts
add up to its size, and so does the report of a run that has come to its end.  Timeslots are numbers
here; where the scenario fits, 64 bits hold the instants at which they start. -/
theorem summaries_divide_journal (scenario : Scenario R) (valid : scenario.problems = [])
    (small : (scenario.customers.map (·.population)).sum < 2 ^ 63) (calls : Nat)
    (s : Simulation G R) (reached : s = (fresh scenario).afterCalls calls) :
    (∀ summary next, s.step = (.ok summary, next) →
      let first := s.cycle * scenario.run.timeslotsPerCycle
      let last := (s.cycle + 1) * scenario.run.timeslotsPerCycle
      let posted := next.books.journal.between first last
      next.books.journal.transactions.toList = s.books.journal.transactions.toList ++ posted ∧
        summary.cycle = s.cycle ∧ summary.transactions = posted.length ∧
        summary.charges = Quantity.total (posted.map (·.charge)) ∧
        ∀ later, (next.afterCalls later).books.journal.between first last = posted) ∧
    (∀ error next, s.step = (.error error, next) →
      next.books.journal.transactions = s.books.journal.transactions) ∧
    (s.books.journal.transactions.toList = (List.range s.cycle).flatMap fun cycle =>
      s.books.journal.between (cycle * scenario.run.timeslotsPerCycle)
        ((cycle + 1) * scenario.run.timeslotsPerCycle)) ∧
    (((fresh (G := G) scenario).summaries calls).map (·.transactions)).sum =
      s.books.journal.transactions.size ∧
    ∀ later last, s.run = (.ok later, last) →
      let report := MarketReport.ofSummaries ((fresh (G := G) scenario).summaries calls ++ later)
      report.transactions = last.books.journal.transactions.size ∧
        report.unbalancedCycles = 0 ∧ report.isConserved = true := by
  have census := Scenario.census_of_valid valid small
  have running : Running scenario s := reached ▸ running_afterCalls valid census calls
  have divided : Divided s ((fresh (G := G) scenario).summaries calls) :=
    reached ▸ divided_afterCalls valid census calls
  refine ⟨?_, fun error next failed => (running.failed_step failed).1, ?_,
    divided.sum_transactions, ?_⟩
  · intro summary next stepped
    have ends : s.books.journal.EndsBefore (s.cycle * scenario.run.timeslotsPerCycle) :=
      reached ▸ endsBefore_afterCalls valid census calls
    have runningNext := running.step valid census
    rw [stepped] at runningNext
    obtain ⟨posted, recounted⟩ := running.posted_step valid census ends stepped
    have ended : s.cycle < next.cycle := by
      obtain ⟨_, -, -, rfl⟩ := step_eq_ok stepped
      exact Nat.lt_succ_self s.cycle
    rw [runningNext.slice_eq] at posted recounted
    refine ⟨posted, recounted.cycle, recounted.transactions, recounted.charges, fun later => ?_⟩
    have kept := runningNext.slice_afterCalls valid census ended later
    rwa [(runningNext.afterCalls valid census later).slice_eq, runningNext.slice_eq] at kept
  · rw [divided.slices]
    exact List.flatMap_congr fun cycle _ => running.slice_eq cycle
  · intro later last ran
    obtain ⟨listed, final⟩ := runCycles_eq_ok ran
    have complete := divided_afterCalls (G := G) valid census
      (calls + (s.scenario.run.cycles - s.cycle))
    rw [summaries_add, afterCalls_add, ← reached, listed, final] at complete
    exact ⟨complete.sum_transactions, complete.report⟩

theorem summaries_divide_journal_baseline :
    (∃ summary next,
      ((fresh Scenario.baseline : Simulation ChaChaStream Float).afterCalls 1).step =
        (.ok summary, next) ∧
      summary.transactions = (next.books.journal.between 24 48).length) ∧
    ∃ summaries last,
      (fresh Scenario.baseline : Simulation ChaChaStream Float).run = (.ok summaries, last) ∧
      (MarketReport.ofSummaries summaries).transactions = last.books.journal.transactions.size := by
  have valid : (Scenario.baseline : Scenario Float).problems = [] := by decide +kernel
  have small : (Scenario.baseline.customers.map
      fun plan : CustomerPlan Float => plan.population).sum < 2 ^ 63 := by decide
  have census := Scenario.census_of_valid valid small
  constructor
  · obtain ⟨summary, next, stepped⟩ := exists_step_ok (G := ChaChaStream) valid census (by decide) 1
    obtain ⟨told, -⟩ := summaries_divide_journal (G := ChaChaStream) _ valid small 1 _ rfl
    have cycle : ((fresh Scenario.baseline : Simulation ChaChaStream Float).afterCalls 1).cycle =
        1 := by
      obtain ⟨summary, next, first⟩ :=
        exists_step_ok (G := ChaChaStream) valid census (by decide) 0
      obtain ⟨_, -, -, rfl⟩ := step_eq_ok first
      exact congrArg (fun outcome => outcome.2.cycle) first
    obtain ⟨-, -, counted, -⟩ := told summary next stepped
    rw [cycle] at counted
    exact ⟨summary, next, stepped, counted⟩
  · have known : TariffPlan.unknown? []
        ((Scenario.baseline : Scenario Float).agenda.map Prod.fst) = none := by decide +kernel
    obtain ⟨summaries, ran, -⟩ := run_fresh_of_known (G := ChaChaStream) known
    obtain ⟨-, -, -, -, complete⟩ :=
      summaries_divide_journal (G := ChaChaStream) _ valid small 0 _ rfl
    exact ⟨summaries, _, Prod.ext ran rfl, (complete summaries _ (Prod.ext ran rfl)).1⟩

end Simulation

end RetailMarket
