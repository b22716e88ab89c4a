import RetailMarket.Market

/-!
# The books

Catalogue, market, roster and journal change together: a settlement moves members in the roster,
posts to the journal and marks tariffs subscribed.
-/

namespace RetailMarket

structure Books (R : Type) where
  catalogue : Catalogue R := {}
  market : Market R := {}
  roster : Roster R := {}
  journal : Journal R := {}

/-- What becomes of the members of a subscription when its tariff is revoked. -/
inductive Migration (R : Type) where
  | notRevoked
  | nobody
  | noReplacement
  | moved (destination : Tariff R)
  deriving Repr

def Migration.isMoved {R : Type} : Migration R → Bool
  | moved _ => true
  | _ => false

namespace Books

variable {R : Type}

def isRevoked (books : Books R) (tariff : Tariff R) : Bool :=
  (books.catalogue.standing tariff).isRevoked

def direct (books : Books R) (tariff : Tariff R) (customer : Customer) (count : Int) : Books R :=
  { books with market := books.market.direct tariff customer count }

def operate (books : Books R) (key : SubscriptionKey)
    (operation : Subscription R → Subscription R × List (Posting R)) : Books R :=
  match books.roster.find? key with
  | none => books
  | some subscription =>
    let (changed, postings) := operation subscription
    { books with
      roster := books.roster.modify key fun _ => changed
      journal := books.journal.postAll postings }

def unsubscribe (books : Books R) (key : SubscriptionKey) (count : Nat) : Books R :=
  match books.roster.find? key with
  | none => books
  | some subscription =>
    { books with
      market := books.market.direct subscription.tariff subscription.customer (-signed count)
      roster := books.roster.modify key fun s =>
        { s with pendingUnsubscribe := s.pendingUnsubscribe + count } }

/-- Whether somebody joined since the journal was as given, with a contract whose end 64 bits do not
hold. A program that checks its sums stops there. -/
def overruns (books : Books R) (earlier : Journal R) (now : Instant) : Bool :=
  (books.journal.transactions.toList.drop earlier.transactions.size).any fun entry =>
    entry.kind == .signup &&
      (books.roster.find? ⟨entry.customer, entry.tariff⟩).any fun subscription =>
        !decide (now.plus subscription.tariff.minDuration).Fits

/-! ## Settlement -/

variable [Quantity R]

/-- Carries out a withdrawal; whether its subscription exists. -/
def settleWithdrawal (books : Books R) (directive : Directive R) (now : Instant) :
    Books R × Bool :=
  match books.roster.find? directive.key with
  | none => (books, false)
  | some subscription =>
    let revoked := books.isRevoked subscription.tariff
    (books.operate directive.key fun s => s.release revoked directive.count.natAbs now, true)

def settleSignup (books : Books R) (directive : Directive R) (now : Instant) : Books R :=
  let opened :=
    { books with roster := books.roster.ensure directive.customer directive.tariff }
  let signed := opened.operate directive.key fun s => s.subscribe directive.count.natAbs now
  { signed with catalogue := signed.catalogue.change directive.tariff Listing.markSubscribed }

def settleWithdrawals (now : Instant) : Books R → List (Directive R) → Books R × Nat
  | books, [] => (books, 0)
  | books, directive :: rest =>
    let (next, found) := settleWithdrawal books directive now
    let (final, applied) := settleWithdrawals now next rest
    (final, applied + if found then 1 else 0)

def settleSignups (now : Instant) (books : Books R) (directives : List (Directive R)) : Books R :=
  directives.foldl (fun books directive => settleSignup books directive now) books

/-- Settles the whole queue, withdrawals before signups, and counts the directives applied. -/
def settle (books : Books R) (now : Instant) : Books R × Nat :=
  let (released, applied) :=
    settleWithdrawals now { books with market := books.market.cleared } books.market.withdrawals
  (settleSignups now released books.market.signups, applied + books.market.signups.length)

/-! ## Revoked tariffs -/

/-- Directs the members of a subscription off its tariff if that is revoked. -/
def migrate (books : Books R) (subscription : Subscription R) (now : Instant) :
    Migration R × Books R :=
  if !books.isRevoked subscription.tariff then (.notRevoked, books)
  else if subscription.committed = 0 then (.nobody, books)
  else
    match books.market.successor? books.catalogue subscription.tariff
        subscription.customer.powerType now with
    | none => (.noReplacement, books)
    | some destination =>
      let count := signed subscription.committed
      (.moved destination,
        (books.direct subscription.tariff subscription.customer (-count)).direct destination
          subscription.customer count)

/-- Directs the members of several subscriptions off their tariffs where these are revoked; what
became of each. -/
def migrateEach (now : Instant) :
    Books R → List (Subscription R) → List (Migration R) × Books R
  | books, [] => ([], books)
  | books, subscription :: rest =>
    let (outcome, next) := migrate books subscription now
    let (outcomes, last) := migrateEach now next rest
    (outcome :: outcomes, last)

end Books

end RetailMarket
