import RetailMarket.Customer

/-!
# The journal of transactions

Every payment and every metered energy is posted to the journal, stamped with the timeslot that
is current when it is posted. A positive charge is a credit to the broker.
-/

namespace RetailMarket

inductive TransactionKind where
  | signup
  | withdraw
  | refund
  | periodic
  | consume
  | produce
  | regulation
  deriving DecidableEq, Repr

namespace TransactionKind

def all : List TransactionKind :=
  [signup, withdraw, refund, periodic, consume, produce, regulation]

def label : TransactionKind → String
  | signup => "SIGNUP"
  | withdraw => "WITHDRAW"
  | refund => "REFUND"
  | periodic => "PERIODIC"
  | consume => "CONSUME"
  | produce => "PRODUCE"
  | regulation => "REGULATION"

def ofLabel? (text : String) : Option TransactionKind :=
  all.find? fun kind => kind.label == text

@[simp]
theorem ofLabel?_label (kind : TransactionKind) : ofLabel? kind.label = some kind := by
  cases kind <;> decide

end TransactionKind

/-- What is posted: `count` members of a customer on a tariff, an energy and a charge. -/
structure Posting (R : Type) where
  kind : TransactionKind
  tariff : TariffId
  broker : String
  customer : CustomerId
  count : Nat
  kwh : R
  charge : R
  deriving Repr

structure Transaction (R : Type) extends Posting R where
  timeslot : Nat
  deriving Repr

structure Journal (R : Type) where
  timeslot : Nat := 0
  transactions : Array (Transaction R) := #[]

namespace Journal

variable {R : Type}

def stamp (journal : Journal R) (posting : Posting R) : Transaction R :=
  { toPosting := posting, timeslot := journal.timeslot }

def post (journal : Journal R) (posting : Posting R) : Journal R :=
  { journal with transactions := journal.transactions.push (journal.stamp posting) }

def postAll (journal : Journal R) (postings : List (Posting R)) : Journal R :=
  postings.foldl post journal

@[simp]
theorem timeslot_postAll (journal : Journal R) (postings : List (Posting R)) :
    (journal.postAll postings).timeslot = journal.timeslot := by
  induction postings generalizing journal with
  | nil => rfl
  | cons posting rest ih => exact ih (journal.post posting)

theorem toList_postAll (journal : Journal R) (postings : List (Posting R)) :
    (journal.postAll postings).transactions.toList =
      journal.transactions.toList ++ postings.map journal.stamp := by
  induction postings generalizing journal with
  | nil => simp [postAll]
  | cons posting rest ih =>
    have stamps : (journal.post posting).stamp = journal.stamp := rfl
    have posted : (journal.post posting).transactions.toList =
        journal.transactions.toList ++ [journal.stamp posting] := Array.toList_push
    change ((journal.post posting).postAll rest).transactions.toList = _
    rw [ih, posted, stamps]
    simp

def ofKind (journal : Journal R) (kind : TransactionKind) : List (Transaction R) :=
  journal.transactions.toList.filter fun transaction => transaction.kind == kind

/-- The transactions of the timeslots from `first` on and before `last`. -/
def between (journal : Journal R) (first last : Nat) : List (Transaction R) :=
  journal.transactions.toList.filter fun transaction =>
    decide (first ≤ transaction.timeslot) && decide (transaction.timeslot < last)

def chargeBetween [Quantity R] (journal : Journal R) (first last : Nat) : R :=
  Quantity.total ((journal.between first last).map fun transaction => transaction.charge)

end Journal

end RetailMarket
