import RetailMarket.Proofs.Holding
import RetailMarket.Proofs.Recorder
import RetailMarket.Proofs.View.Evaluations

/-!
# The balance of an evaluation

Whatever a customer is told of its transfers during an evaluation, the directives issued at its end
say the same in sum: per tariff once, what arrives less what departs, in balance over all tariffs.
Members who leave a tariff on balance are noted in the subscription that holds them.
-/

namespace RetailMarket

/-! ## Transfers told -/

namespace Transfer

def membersTo (tariff : TariffId) (transfers : List Transfer) : Nat :=
  ((transfers.filter fun t => t.destination == tariff).map (·.count)).sum

def membersFrom (tariff : TariffId) (transfers : List Transfer) : Nat :=
  ((transfers.filter fun t => t.origin == tariff).map (·.count)).sum

end Transfer

namespace Evaluator

variable {M R : Type}

section Told

variable {moves : List (Move R)}

theorem sum_signed (picked : Move R → Bool)
    (sized : ∀ move ∈ moves, signed move.count = move.count) :
    ((moves.filter picked).map fun move => signed move.count).sum =
      (((moves.filter picked).map Move.count).sum : Nat) := by
  rw [Nat.cast_list_sum, List.map_map]
  refine congrArg List.sum (List.map_congr_left fun move listed => ?_)
  exact sized move (List.mem_filter.1 listed).1

theorem arrivals_eq_membersTo (sized : ∀ move ∈ moves, signed move.count = move.count)
    (customer : CustomerId) (id : TariffId) :
    arrivals id moves = Transfer.membersTo id (moves.map (Move.transfer customer)) := by
  rw [arrivals, sum_signed _ sized, Transfer.membersTo, List.filter_map, List.map_map]
  rfl

theorem departures_eq_membersFrom (sized : ∀ move ∈ moves, signed move.count = move.count)
    (customer : CustomerId) (id : TariffId) :
    departures id moves = Transfer.membersFrom id (moves.map (Move.transfer customer)) := by
  rw [departures, sum_signed _ sized, Transfer.membersFrom, List.filter_map, List.map_map]
  rfl

end Told

/-! ## Requests to leave -/

section Requests

variable {customer : Customer} {books : Books R} {key : SubscriptionKey}

/-- Members of the subscription with this key leave on balance. -/
def Leaves (customer : Customer) (key : SubscriptionKey) (allocation : Tariff R × Int) : Prop :=
  allocation.2 < 0 ∧ key = ⟨customer.id, allocation.1.id⟩

theorem find?_issue_of_not_leaves (faithful : books.roster.Faithful) {allocation : Tariff R × Int}
    (stays : ¬ Leaves customer key allocation) :
    (issue customer books allocation).roster.find? key = books.roster.find? key := by
  simp only [issue]
  split
  · rename_i negative
    have other : key ≠ ⟨customer.id, allocation.1.id⟩ := fun same => stays ⟨negative, same⟩
    cases found : books.roster.find? ⟨customer.id, allocation.1.id⟩ with
    | none => simp only [Books.unsubscribe, found]
    | some subscription =>
        rw [unsubscribe_of_find? found]
        exact (Roster.find?_modify faithful found rfl key).trans (if_neg other)
  · rfl

theorem find?_issue_of_leaves (faithful : books.roster.Faithful) {allocation : Tariff R × Int}
    (leaves : Leaves customer key allocation) {subscription : Subscription R}
    (found : books.roster.find? key = some subscription) :
    (issue customer books allocation).roster.find? key =
      some { subscription with
        pendingUnsubscribe := subscription.pendingUnsubscribe + allocation.2.natAbs } := by
  obtain ⟨negative, rfl⟩ := leaves
  simp only [issue, if_pos negative, unsubscribe_of_find? found]
  exact (Roster.find?_modify faithful found rfl _).trans (if_pos rfl)

theorem find?_issueAll_of_not_leaves (faithful : books.roster.Faithful)
    {allocations : List (Tariff R × Int)}
    (stay : ∀ allocation ∈ allocations, ¬ Leaves customer key allocation) :
    (allocations.foldl (issue customer) books).roster.find? key = books.roster.find? key := by
  induction allocations generalizing books with
  | nil => rfl
  | cons allocation rest ih =>
      obtain ⟨first, others⟩ := List.forall_mem_cons.1 stay
      rw [List.foldl_cons, ih (faithful_issue faithful allocation) others,
        find?_issue_of_not_leaves faithful first]

theorem find?_issueAll_of_leaves (faithful : books.roster.Faithful)
    {allocations : List (Tariff R × Int)}
    (distinct : (allocations.map fun allocation => allocation.1.id).Nodup)
    {allocation : Tariff R × Int} (listed : allocation ∈ allocations)
    (leaves : Leaves customer key allocation) {subscription : Subscription R}
    (found : books.roster.find? key = some subscription) :
    (allocations.foldl (issue customer) books).roster.find? key =
      some { subscription with
        pendingUnsubscribe := subscription.pendingUnsubscribe + allocation.2.natAbs } := by
  induction allocations generalizing books with
  | nil => cases listed
  | cons first rest ih =>
      obtain ⟨fresh, distinctRest⟩ := List.nodup_cons.1 distinct
      -- The tariff of one entry is that of no other, so nobody else leaves the same subscription.
      have other {second : Tariff R × Int} (later : second ∈ rest) :
          second.1.id ≠ first.1.id := fun same =>
        fresh (List.mem_map.2 ⟨second, later, same⟩)
      rw [List.foldl_cons]
      rcases List.mem_cons.1 listed with rfl | later
      · rw [find?_issueAll_of_not_leaves (faithful_issue faithful _) ?_]
        · exact find?_issue_of_leaves faithful leaves found
        · intro second member again
          have same := again.2.symm.trans leaves.2
          exact other member (congrArg SubscriptionKey.tariff same)
      · refine ih (faithful_issue faithful first) distinctRest later ?_
        rw [find?_issue_of_not_leaves faithful ?_]
        · exact found
        · intro again
          have same := leaves.2.symm.trans again.2
          exact other later (congrArg SubscriptionKey.tariff same)

end Requests

/-! ## The balance -/

/-- Net changes that say in sum what the customer was told, and the directives and requests to
leave that say the same. -/
structure NetsOut (customer : Customer) (told : List Transfer)
    (allocations : List (Tariff R × Int)) (before after : Books R) : Prop where
  once : (allocations.map fun allocation => allocation.1.id).Nodup
  netted : ∀ id, net id allocations = Transfer.membersTo id told - Transfer.membersFrom id told
  entry : ∀ allocation ∈ allocations, allocation.2 =
    Transfer.membersTo allocation.1.id told - Transfer.membersFrom allocation.1.id told
  balanced : (allocations.map Prod.snd).sum = 0
  issued : ∃ orders, after.market.pending = before.market.pending ++ orders ∧
    List.Forall₂ (Issues customer) (allocations.filter fun a => decide (a.2 ≠ 0)) orders
  leaving : ∀ allocation ∈ allocations, allocation.2 < 0 →
    ∃ subscription ∈ before.roster.activeOf customer.id,
      subscription.tariff.id = allocation.1.id ∧
      allocation.2.natAbs ≤ subscription.committed ∧
      after.roster.find? subscription.key =
        some { subscription with
          pendingUnsubscribe := subscription.pendingUnsubscribe + allocation.2.natAbs }
  staying : ∀ key, (∀ allocation ∈ allocations, ¬ Leaves customer key allocation) →
    after.roster.find? key = before.roster.find? key

theorem netsOut_of_moves {books : Books R} (faithful : books.roster.Faithful)
    {customer : Customer} {kind : Tariff R → Prop} {moves : List (List (Move R))}
    (off : MovesOffEach kind (books.roster.activeOf customer.id) moves)
    (small : ∀ subscription ∈ books.roster.activeOf customer.id,
      subscription.committed < 2 ^ 63) :
    NetsOut customer (moves.flatten.map (Move.transfer customer.id))
      (moves.flatten.foldl enter []) books
      ((moves.flatten.foldl enter []).foldl (issue customer) books) := by
  have sized : ∀ move ∈ moves.flatten, signed move.count = move.count := by
    intro move member
    obtain ⟨subscription, active, -, -, sized⟩ := off.mem member
    exact sized (small _ active)
  have once : ((moves.flatten.foldl enter []).map fun allocation => allocation.1.id).Nodup :=
    nodup_enter_all moves.flatten List.nodup_nil
  have netted (id : TariffId) : net id (moves.flatten.foldl enter []) =
      Transfer.membersTo id (moves.flatten.map (Move.transfer customer.id)) -
        Transfer.membersFrom id (moves.flatten.map (Move.transfer customer.id)) := by
    rw [net_enter_all, arrivals_eq_membersTo sized customer.id,
      departures_eq_membersFrom sized customer.id]
    simp [net]
  have covered := fun allocation (entered : allocation ∈ moves.flatten.foldl enter []) =>
    covered_of_moves faithful off small entered
  refine ⟨once, netted, ?_, ?_, ?_, ?_, ?_⟩
  · intro allocation entered
    rw [← netted, net_of_mem once entered]
  · rw [sum_enter_all]
    rfl
  · obtain ⟨orders, queued, issues⟩ := exists_queued_issueAll faithful covered
    exact ⟨orders, congrArg Market.pending queued.market, issues⟩
  · intro allocation entered negative
    obtain ⟨-, holds⟩ := covered allocation entered negative
    obtain ⟨subscription, found, enough⟩ := holds.exists_find? faithful
    obtain ⟨listed, key⟩ := (Roster.find?_eq_some_iff faithful).1 found
    have active : subscription ∈ books.roster.activeOf customer.id :=
      Roster.mem_activeOf.2 ⟨listed, congrArg SubscriptionKey.customer key, by omega⟩
    refine ⟨subscription, active, congrArg SubscriptionKey.tariff key, enough, ?_⟩
    rw [key]
    exact find?_issueAll_of_leaves faithful once entered ⟨negative, rfl⟩ found
  · intro key stay
    exact find?_issueAll_of_not_leaves faithful stay

variable [Quantity R] [CustomerModel M R]

/-- The directives of an evaluation balance and say what the customer was told, whatever its
model, as long as its members can be counted with a sign.  The record is that of the evaluation
itself, which a recorder does not change. -/
theorem evaluate_balances (e : Evaluator M R) {books : Books R}
    (faithful : books.roster.Faithful) {now : Instant}
    (expired : ∀ subscription ∈ books.roster.toList,
      subscription.expiredCount now ≤ subscription.committed)
    (small : books.roster.committedFor e.customer.id < 2 ^ 63) :
    ((e.recording.evaluate books now).1.unrecorded, (e.recording.evaluate books now).2) =
        e.evaluate books now ∧
      NetsOut e.customer (e.recording.evaluate books now).1.model.transfers
        (e.evaluate books now).1.allocations books (e.evaluate books now).2 := by
  have same := evaluate_unrecorded e.recording books now
  rw [unrecorded_recording] at same
  refine ⟨same.symm, ?_⟩
  obtain ⟨moves, off, moved⟩ := exists_moves_evaluate e.recording now
    (fun subscription active => expired subscription (Roster.mem_activeOf.1 active).1)
    fun comparison _ _ _ subscription _ => Choosable.anything _ _ comparison subscription.tariff
  have told : (e.recording.evaluate books now).1.model.transfers =
      moves.flatten.map (Move.transfer e.customer.id) := by
    have record := moved.told Recorder.transfers remembers_transfers
    exact record.trans (List.nil_append _)
  have allocations : (e.evaluate books now).1.allocations = moves.flatten.foldl enter [] := by
    rw [same]
    exact moved.allocations
  rw [told, issued_evaluate, allocations]
  refine netsOut_of_moves faithful off fun subscription active => ?_
  obtain ⟨listed, own, -⟩ := Roster.mem_activeOf.1 active
  have bound : subscription.committed ≤
      books.roster.members fun key => key.customer == e.customer.id :=
    Roster.committed_le_members listed (beq_iff_eq.2 own)
  exact bound.trans_lt small

/-! ## Members with one way to go -/

section OneWay

/-- Takes the best alternative, whatever its probability. -/
def IsEager (M : Type) {R : Type} [Quantity R] [CustomerModel M R] : Prop :=
  ∀ (model : M) (x : R), (CustomerModel.choiceSample model).1 ≤ Quantity.replaceNaN x

theorem moved_decideChunk_sole (comparison : Comparison R) {position : Position R}
    (revoked : position.isRevoked = true) {alternative : Alternative R} {bonus : R}
    (unrewarded : ¬ 0 < bonus) {e : Evaluator M R}
    (likely : (CustomerModel.choiceSample (CustomerModel.inertiaSample e.model).2).1 ≤
      alternative.probability)
    (elsewhere : position.current.id ≠ alternative.tariff.id) (count : Nat) :
    Moved [⟨position.current, alternative.tariff, count⟩] e
      (decideChunk comparison position [alternative] bonus e count) := by
  have leaves (e : Evaluator M R) (sample : R) :
      e.staysPut comparison position bonus sample = false := by
    simp [staysPut, revoked, unrewarded]
  let deciding : Evaluator M R :=
    { e with model := (CustomerModel.choiceSample (CustomerModel.inertiaSample e.model).2).2 }
  have decided : decideChunk comparison position [alternative] bonus e count =
      deciding.transfer position.current alternative.tariff count := by
    simp only [decideChunk, leaves, Bool.false_eq_true, if_false, Alternative.choose?,
      if_pos likely]
    rfl
  rw [decided, transfer, if_neg elsewhere]
  refine ⟨rfl, rfl, rfl, fun told remembers => ?_⟩
  rw [remembers.notify, remembers.choiceSample, remembers.inertiaSample]
  rfl

theorem moved_allocate_sole (eager : IsEager M (R := R)) (irreflexive : ¬ (0 : R) < 0)
    {books : Books R} {comparison : Comparison R} {current : Tariff R} {e : Evaluator M R}
    (revoked : books.isRevoked current = true) (nothing : comparison.candidates = [])
    (unreplaced : (books.market.successor? books.catalogue current e.customer.powerType
      comparison.now).getD comparison.default = comparison.default)
    (elsewhere : current.id ≠ comparison.default.id)
    (single : e.customer.multiContracting = false) (leaving : R) {population : Nat}
    (positive : 0 < population) :
    Moved [⟨current, comparison.default, population⟩] e
      (allocate books comparison current leaving population e) := by
  let position : Position R :=
    { current, isRevoked := true, replacement := some comparison.default.id, leaving := 0 }
  have offered : pushUnique (pushUnique (comparison.candidates.foldl pushUnique [])
      comparison.default) comparison.default = [comparison.default] := by
    rw [nothing]
    simp [pushUnique]
  let scored := e.score comparison position comparison.default
  have unrewarded : (e.score comparison position comparison.default).2.1 = none := by
    simp [score, position]
  have scores : scoreAll comparison position e 0 [comparison.default] =
      ([scored.1], 0, scored.2.2) := by
    simp only [scoreAll, unrewarded]
    rfl
  have reached : Moved [] e scored.2.2 := moved_score e comparison position comparison.default
  have sizes : decisionSizes (scored.2.2.decisionChunk population) population = [population] := by
    rw [decisionChunk, reached.customer, single]
    exact decisionSizes_self positive
  let sharpness : R := Utility.sharpness greatestSharpness scored.2.2.settings.rationality
  let sole : Alternative R :=
    { scored.1 with
      probability := Quantity.replaceNaN (Alternative.weight sharpness scored.1 /
        Quantity.total ([scored.1].map (Alternative.weight sharpness))) }
  have assigned : Alternative.assignProbabilities sharpness (Alternative.ranked [scored.1]) =
      [sole] := congrArg _ (List.mergeSort_singleton scored.1)
  have allocated : allocate books comparison current leaving population e =
      decideChunk comparison position [sole] 0 scored.2.2 population := by
    simp only [allocate, if_neg positive.ne', if_pos revoked, unreplaced, offered, ← assigned]
    rw [scores, sizes]
    rfl
  have target : sole.tariff = comparison.default :=
    tariff_score e comparison position comparison.default
  have away : position.current.id ≠ sole.tariff.id := target ▸ elsewhere
  rw [allocated, ← target]
  exact reached.trans (moved_decideChunk_sole comparison rfl irreflexive (eager _ _) away
    population)

theorem allocateSubscription_of_free {subscription : Subscription R}
    (free : (subscription.tariff.earlyWithdrawPayment == 0) = true) (books : Books R)
    (comparison : Comparison R) (e : Evaluator M R) :
    allocateSubscription books comparison e subscription =
      allocate books comparison subscription.tariff 0 subscription.committed e := by
  simp only [allocateSubscription, free, true_or, if_true]

end OneWay

/-! ### Members stranded on a revoked tariff -/

structure Eager where

instance : CustomerModel Eager Float where
  profile model _ now := ({ usage := [], start := now }, model)
  switchFactor _ _ := 0
  choiceSample model := (-1.0 / 0.0, model)
  inertiaSample model := (0, model)
  shiftingInconvenience _ _ := 0
  notify model _ := model

open Float.Model in
theorem negativeInfinity_le {x : Float} (number : (x == x) = true) :
    (-1.0 / 0.0 : Float) ≤ x := by
  have lowest : (-1.0 / 0.0 : Float).toModel.unpack = .infinity .negative := by rfl
  refine decide_eq_true (p := (-1.0 / 0.0 : Float).toModel ≤ x.toModel) ?_
  change UnpackedFloat.le (-1.0 / 0.0 : Float).toModel.unpack x.toModel.unpack = true
  change UnpackedFloat.beq x.toModel.unpack x.toModel.unpack = true at number
  rw [lowest]
  cases unpacked : x.toModel.unpack with
  | notANumber =>
      rw [unpacked] at number
      cases number
  | infinity sign => cases sign <;> rfl
  | zero sign => cases sign <;> rfl
  | finite sign mantissa exponent valid => cases sign <;> rfl

theorem isEager_recorder : IsEager (Recorder Eager) (R := Float) := by
  intro model x
  change (-1.0 / 0.0 : Float) ≤ Quantity.replaceNaN x
  unfold Quantity.replaceNaN
  split
  · decide
  · rename_i number
    exact negativeInfinity_le (by simpa [Quantity.isNaN] using number)

namespace Stranded

def customer (population : Nat) : Customer :=
  { id := ⟨1⟩, name := "stranded", population, powerType := .consumption }

def closed : Tariff Float := Tariff.free ⟨1⟩ "first" .consumption

def default : Tariff Float := Tariff.free ⟨2⟩ "second" .consumption

/-- The whole population is on a revoked tariff, and there is no other than the default. -/
def books (population : Nat) : Books Float where
  catalogue := { listed := [{ Listing.ofTariff closed with state := .killed }], lastId := 2 }
  market := Market.empty.setDefault default
  roster :=
    (Roster.empty.ensure (customer population) closed).modify ⟨⟨1⟩, ⟨1⟩⟩ fun s =>
      (s.subscribe population ⟨0⟩).1

def evaluator (population : Nat) : Evaluator Eager Float :=
  Evaluator.standard (customer population) ⟨⟩

def subscription (population : Nat) : Subscription Float :=
  ((Subscription.opened (customer population) closed).subscribe population ⟨0⟩).1

theorem find?_opened (population : Nat) :
    (Roster.empty.ensure (customer population) closed).find? ⟨⟨1⟩, ⟨1⟩⟩ =
      some (Subscription.opened (customer population) closed) := by
  refine (Roster.find?_ensure Roster.faithful_empty (customer population) closed).trans ?_
  simp [Roster.find?]

theorem faithful_books (population : Nat) : (books population).roster.Faithful :=
  (Roster.faithful_empty.ensure _ _).modify (find?_opened population) rfl

theorem toList_books (population : Nat) :
    (books population).roster.toList = [subscription population] := by
  have opened : (Roster.empty.ensure (customer population) closed).toList =
      [Subscription.opened (customer population) closed] := by
    rw [Roster.toList_ensure, if_neg (by simp [Roster.empty])]
    rfl
  obtain ⟨before, after, list, -, changed⟩ :=
    Roster.exists_split (Roster.faithful_empty.ensure _ _) (find?_opened population)
  have alone : before = [] ∧ after = [] := by
    have size := congrArg List.length (opened.symm.trans list)
    simp only [List.length_append, List.length_cons, List.length_nil] at size
    exact ⟨List.eq_nil_of_length_eq_zero (by omega), List.eq_nil_of_length_eq_zero (by omega)⟩
  refine (changed _).trans ?_
  rw [alone.1, alone.2]
  rfl

theorem activeOf_books {population : Nat} (positive : 0 < population) :
    (books population).roster.activeOf ⟨1⟩ = [subscription population] := by
  have peopled : (subscription population).isEmpty = false := by
    simp [subscription, Subscription.isEmpty, Subscription.subscribe, Subscription.opened,
      positive.ne']
  rw [Roster.activeOf, toList_books, List.filter_cons_of_pos]
  · rfl
  · rw [peopled]
    rfl

theorem moved_evaluate {population : Nat} (positive : 0 < population) (now : Instant) :
    Moved [⟨closed, default, population⟩] (evaluator population).recording
      ((evaluator population).recording.evaluate (books population) now).1 := by
  let e := (evaluator population).recording
  have prepared := (decided_prepare e (books population) default now).moved
  have customer : (e.prepare (books population) default now).2.customer = customer population :=
    prepared.customer
  have committed : (subscription population).committed = population := Nat.zero_add _
  have active := activeOf_books positive
  have revoked : (books population).isRevoked closed = true := rfl
  have nothing : (e.prepare (books population) default now).1.candidates = [] := by
    have own : (books population).roster.activeOf e.customer.id = [subscription population] :=
      active
    change e.candidates (books population) now = []
    rw [candidates, own]
    rfl
  have found : (books population).market.defaultFor e.customer.powerType = some default := rfl
  rw [evaluate_of_default found, customer]
  change Moved _ _ (((books population).roster.activeOf ⟨1⟩).foldl _ _)
  rw [active]
  have single : (e.prepare (books population) default now).2.customer.multiContracting = false :=
    congrArg Customer.multiContracting customer
  have unreplaced : ((books population).market.successor? (books population).catalogue closed
      (e.prepare (books population) default now).2.customer.powerType now).getD default =
        default := by
    rw [customer]
    rfl
  rw [List.foldl_cons, List.foldl_nil, allocateSubscription_of_free ?_]
  · rw [committed]
    have elsewhere : closed.id ≠ default.id := by decide
    exact prepared.trans (moved_allocate_sole isEager_recorder (by decide) revoked nothing
      unreplaced elsewhere single 0 positive)
  · change (closed.earlyWithdrawPayment == _) = true
    decide

theorem allocations_evaluate {population : Nat} (positive : 0 < population) (now : Instant) :
    ((evaluator population).evaluate (books population) now).1.allocations =
      [(closed, -signed population), (default, signed population)] := by
  have same := evaluate_unrecorded (evaluator population).recording (books population) now
  rw [unrecorded_recording] at same
  rw [same]
  exact (moved_evaluate positive now).allocations

theorem told_evaluate {population : Nat} (positive : 0 < population) (now : Instant) :
    ((evaluator population).recording.evaluate (books population) now).1.model.transfers =
      [{ customer := ⟨1⟩, origin := ⟨1⟩, destination := ⟨2⟩, count := population }] :=
  (moved_evaluate positive now).told Recorder.transfers remembers_transfers

theorem expired_books (population : Nat) (now : Instant) :
    ∀ s ∈ (books population).roster.toList, s.expiredCount now ≤ s.committed := by
  intro s listed
  rw [toList_books, List.mem_singleton] at listed
  subst listed
  exact ((Subscription.isRecorded_opened _ _).subscribe _ _).expiredCount_le now

theorem committedFor_books (population : Nat) :
    (books population).roster.committedFor ⟨1⟩ = population := by
  rw [Roster.committedFor, toList_books]
  simp [subscription, customer, Subscription.subscribe, Subscription.opened]

end Stranded

/-- A thousand members leave a revoked tariff for the default one. -/
theorem evaluate_balances_stranded :
    (Stranded.evaluator 1000).evaluate (Stranded.books 1000) ⟨0⟩ =
        (((Stranded.evaluator 1000).recording.evaluate (Stranded.books 1000) ⟨0⟩).1.unrecorded,
          ((Stranded.evaluator 1000).recording.evaluate (Stranded.books 1000) ⟨0⟩).2) ∧
      NetsOut (Stranded.customer 1000)
        [{ customer := ⟨1⟩, origin := ⟨1⟩, destination := ⟨2⟩, count := 1000 }]
        [(Stranded.closed, -1000), (Stranded.default, 1000)] (Stranded.books 1000)
        ((Stranded.evaluator 1000).evaluate (Stranded.books 1000) ⟨0⟩).2 := by
  have small : (Stranded.books 1000).roster.committedFor ⟨1⟩ < 2 ^ 63 := by
    rw [Stranded.committedFor_books]
    decide
  obtain ⟨same, nets⟩ := evaluate_balances (Stranded.evaluator 1000)
    (Stranded.faithful_books 1000) (Stranded.expired_books 1000 ⟨0⟩) small
  rw [Stranded.told_evaluate (by decide), Stranded.allocations_evaluate (by decide)] at nets
  exact ⟨same.symm, nets⟩

/-- A population of `2 ^ 63 + 5` is too large to be counted with a sign: the tariff that it leaves
gains members on balance. -/
theorem evaluate_unbalanced_stranded :
    (Stranded.books (2 ^ 63 + 5)).roster.Faithful ∧
      (∀ s ∈ (Stranded.books (2 ^ 63 + 5)).roster.toList, s.expiredCount ⟨0⟩ ≤ s.committed) ∧
      (Stranded.books (2 ^ 63 + 5)).market.defaultFor .consumption = some Stranded.default ∧
      ¬ NetsOut (Stranded.customer (2 ^ 63 + 5))
        ((Stranded.evaluator (2 ^ 63 + 5)).recording.evaluate
          (Stranded.books (2 ^ 63 + 5)) ⟨0⟩).1.model.transfers
        ((Stranded.evaluator (2 ^ 63 + 5)).evaluate
          (Stranded.books (2 ^ 63 + 5)) ⟨0⟩).1.allocations
        (Stranded.books (2 ^ 63 + 5))
        ((Stranded.evaluator (2 ^ 63 + 5)).evaluate (Stranded.books (2 ^ 63 + 5)) ⟨0⟩).2 := by
  refine ⟨Stranded.faithful_books _, Stranded.expired_books _ _, rfl, fun nets => ?_⟩
  rw [Stranded.told_evaluate (by decide), Stranded.allocations_evaluate (by decide)] at nets
  have wrapped : signed (2 ^ 63 + 5) = 5 - 2 ^ 63 := by decide
  have entry := nets.entry (Stranded.closed, -signed (2 ^ 63 + 5)) List.mem_cons_self
  rw [wrapped] at entry
  exact absurd entry (by decide)

end Evaluator

end RetailMarket
