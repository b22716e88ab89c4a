import RetailMarket.Proofs.Parallel

/-!
# What a customer was told

Any customer model can be put behind a recorder, which hands on every question and keeps a list of
the transfers that the model is told of.  An evaluation does not notice: without its record, a
recorded evaluation is the evaluation itself.
-/

namespace RetailMarket

variable {M R : Type}

structure Recorder (M : Type) where
  model : M
  transfers : List Transfer := []

instance [CustomerModel M R] : CustomerModel (Recorder M) R where
  profile recorder tariff now :=
    let (profile, model) := CustomerModel.profile recorder.model tariff now
    (profile, { recorder with model })
  switchFactor recorder isSuperseding := CustomerModel.switchFactor recorder.model isSuperseding
  choiceSample recorder :=
    let (sample, model) := CustomerModel.choiceSample recorder.model
    (sample, { recorder with model })
  inertiaSample recorder :=
    let (sample, model) := CustomerModel.inertiaSample recorder.model
    (sample, { recorder with model })
  shiftingInconvenience recorder tariff :=
    CustomerModel.shiftingInconvenience recorder.model tariff
  notify recorder transfer :=
    { model := CustomerModel.notify recorder.model transfer
      transfers := recorder.transfers ++ [transfer] }

namespace Evaluator

def recording (e : Evaluator M R) : Evaluator (Recorder M) R :=
  { e with model := { model := e.model } }

def unrecorded (e : Evaluator (Recorder M) R) : Evaluator M R := { e with model := e.model.model }

@[simp]
theorem unrecorded_recording (e : Evaluator M R) : e.recording.unrecorded = e := rfl

variable [Quantity R] [CustomerModel M R]

omit [Quantity R] in
theorem remembers_transfers : Remembers (Recorder.transfers : Recorder M → List Transfer) :=
  ⟨fun _ _ _ => rfl, fun _ => rfl, fun _ => rfl, fun _ _ => rfl⟩

omit [Quantity R] in
theorem answers_recorder : Answers (Recorder.model : Recorder M → M) :=
  ⟨fun _ _ _ => rfl, fun _ _ => rfl, fun _ => rfl, fun _ => rfl, fun _ _ => rfl, fun _ _ => rfl⟩

theorem evaluate_unrecorded (e : Evaluator (Recorder M) R) (books : Books R) (now : Instant) :
    e.unrecorded.evaluate books now =
      ((e.evaluate books now).1.unrecorded, (e.evaluate books now).2) :=
  evaluate_seen answers_recorder e books now

def notified (e : Evaluator M R) (books : Books R) (now : Instant) : List Transfer :=
  (e.recording.evaluate books now).1.model.transfers

theorem notified_of_missing {e : Evaluator M R} {books : Books R}
    (missing : books.market.defaultFor e.customer.powerType = none) (now : Instant) :
    e.notified books now = [] := by
  rw [notified, evaluate_of_missing (e := e.recording) missing]
  rfl

/-! ## Evaluations side by side -/

theorem appraise_unrecorded (e : Evaluator (Recorder M) R) (tariff : Tariff R) (now : Instant) :
    e.unrecorded.appraise tariff now =
      ((e.appraise tariff now).1, (e.appraise tariff now).2.unrecorded) :=
  appraiseWith_seen answers_recorder e tariff (e.inconvenience tariff) now

theorem appraiseDefault_recording (e : Evaluator M R) (default : Tariff R) (now : Instant) :
    e.begun.appraiseDefault default now =
      ((e.recording.begun.appraiseDefault default now).1,
        (e.recording.begun.appraiseDefault default now).2.unrecorded) :=
  appraiseWith_seen answers_recorder e.recording.begun default 0 now

theorem transfers_appraiseWith (e : Evaluator (Recorder M) R) (tariff : Tariff R)
    (inconvenience : R) (now : Instant) :
    (e.appraiseWith tariff inconvenience now).2.model.transfers = e.model.transfers := by
  rw [(moved_appraiseWith e tariff inconvenience now).told _ remembers_transfers, List.map_nil,
    List.append_nil]

omit [Quantity R] in
theorem unrecorded_transfer (e : Evaluator (Recorder M) R) (origin destination : Tariff R)
    (count : Nat) :
    (e.transfer origin destination count).unrecorded =
      e.unrecorded.transfer origin destination count := by
  unfold transfer
  split <;> rfl

omit [Quantity R] in
theorem transfers_transfer (e : Evaluator (Recorder M) R) (origin destination : Tariff R)
    (count : Nat) :
    (e.transfer origin destination count).model.transfers =
      if origin.id = destination.id then e.model.transfers
      else e.model.transfers ++ [Move.transfer e.customer.id ⟨origin, destination, count⟩] := by
  unfold transfer
  split <;> rfl

variable {customer : Customer} {books : Books R} {now : Instant}
  {Alike : List (Note R) → Evaluator M R → Evaluator M R → Prop} {e f : Evaluator M R}

/-- Evaluators with records are related as they are without, and by having the same record. -/
def Recorded (Alike : List (Note R) → Evaluator M R → Evaluator M R → Prop)
    (notes : List (Note R)) (e f : Evaluator (Recorder M) R) : Prop :=
  Alike notes e.unrecorded f.unrecorded ∧ f.model.transfers = e.model.transfers

theorem Parallel.recorded (parallel : Parallel customer books now Alike) :
    Parallel customer books now (Recorded Alike) where
  own := fun ⟨alike, _⟩ => parallel.own alike
  settings := fun ⟨alike, _⟩ => parallel.settings alike
  allocations := fun ⟨alike, _⟩ => parallel.allocations alike
  profileLength := fun ⟨alike, _⟩ => parallel.profileLength alike
  switchFactor := fun ⟨alike, _⟩ => parallel.switchFactor alike
  appraise := by
    rintro notes e f ⟨alike, transfers⟩ tariff mentioned
    have next := parallel.appraise alike tariff mentioned
    rw [appraise_unrecorded, appraise_unrecorded] at next
    refine ⟨next.1, next.2, ?_⟩
    exact (transfers_appraiseWith f tariff _ now).trans
      (transfers.trans (transfers_appraiseWith e tariff _ now).symm)
  inertiaSample := fun ⟨alike, transfers⟩ =>
    ⟨(parallel.inertiaSample alike).1, (parallel.inertiaSample alike).2, transfers⟩
  choiceSample := fun ⟨alike, transfers⟩ =>
    ⟨(parallel.choiceSample alike).1, (parallel.choiceSample alike).2, transfers⟩
  transfer := by
    rintro notes e f ⟨alike, transfers⟩ origin destination count
    obtain ⟨own, own'⟩ := parallel.own alike
    have customers : f.customer = e.customer := own'.trans own.symm
    refine ⟨?_, ?_⟩
    · rw [unrecorded_transfer, unrecorded_transfer]
      exact parallel.transfer alike origin destination count
    · rw [transfers_transfer, transfers_transfer, transfers, customers]

theorem Abreast.recording {default : Tariff R}
    (abreast : Abreast customer default now Alike e f) :
    Abreast customer default now (Recorded Alike) e.recording f.recording := by
  have appraised := abreast.appraised
  have alike := abreast.alike
  rw [appraiseDefault_recording e, appraiseDefault_recording f] at appraised alike
  exact ⟨abreast.own, abreast.own', abreast.settings, abreast.evaluations, appraised, alike,
    (transfers_appraiseWith f.recording.begun default 0 now).trans
      (transfers_appraiseWith e.recording.begun default 0 now).symm⟩

theorem Parallel.same_notified (parallel : Parallel customer books now Alike) {default : Tariff R}
    (found : books.market.defaultFor customer.powerType = some default)
    (abreast : Abreast customer default now Alike e f) :
    f.notified books now = e.notified books now :=
  (parallel.recorded.alike_evaluate found abreast.recording).1.2

end Evaluator

end RetailMarket
