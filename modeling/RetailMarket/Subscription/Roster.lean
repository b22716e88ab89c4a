import Std.Data.HashMap
import RetailMarket.Subscription.Contract

/-!
# The roster of subscriptions

All subscriptions in order of creation, with an index from customer and tariff to the position of
their subscription. A subscription is never removed.
-/

namespace RetailMarket

structure SubscriptionKey where
  customer : CustomerId
  tariff : TariffId
  deriving DecidableEq, Repr, Hashable

def Subscription.key {R : Type} (subscription : Subscription R) : SubscriptionKey :=
  ⟨subscription.customer.id, subscription.tariff.id⟩

structure Roster (R : Type) where
  subscriptions : Array (Subscription R) := #[]
  index : Std.HashMap SubscriptionKey Nat := {}

namespace Roster

variable {R : Type}

def empty : Roster R := {}

def size (roster : Roster R) : Nat := roster.subscriptions.size

def toList (roster : Roster R) : List (Subscription R) := roster.subscriptions.toList

def find? (roster : Roster R) (key : SubscriptionKey) : Option (Subscription R) :=
  roster.index[key]?.bind fun position => roster.subscriptions[position]?

def ensure [Quantity R] (roster : Roster R) (customer : Customer) (tariff : Tariff R) : Roster R :=
  let key : SubscriptionKey := ⟨customer.id, tariff.id⟩
  if roster.index.contains key then roster
  else
    { subscriptions := roster.subscriptions.push (Subscription.opened customer tariff)
      index := roster.index.insert key roster.subscriptions.size }

def modify (roster : Roster R) (key : SubscriptionKey)
    (change : Subscription R → Subscription R) : Roster R :=
  match roster.index[key]? with
  | none => roster
  | some position => { roster with subscriptions := roster.subscriptions.modify position change }

def committedTo (roster : Roster R) (tariff : TariffId) : Nat :=
  ((roster.toList.filter fun s => s.tariff.id == tariff).map (·.committed)).foldr (· + ·) 0

def committedFor (roster : Roster R) (customer : CustomerId) : Nat :=
  ((roster.toList.filter fun s => s.customer.id == customer).map (·.committed)).foldr (· + ·) 0

def activeOf (roster : Roster R) (customer : CustomerId) : List (Subscription R) :=
  roster.toList.filter fun s => s.customer.id == customer && !s.isEmpty

/-- Changes every subscription in order of creation, threading a state through. -/
def mapAccum {σ : Type} (roster : Roster R) (step : σ → Subscription R → σ × Subscription R)
    (start : σ) : σ × Roster R :=
  let last := roster.subscriptions.foldl
    (fun passed subscription =>
      let next := step passed.1 subscription
      (next.1, passed.2.push next.2))
    (start, #[])
  (last.1, { roster with subscriptions := last.2 })

end Roster

end RetailMarket
