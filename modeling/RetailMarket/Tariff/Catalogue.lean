import RetailMarket.Tariff.Terms

/-!
# The catalogue of tariffs

The catalogue holds every published tariff and, for each broker, a queue of its tariffs with the
newest first. Private contracts are kept beside them: each has a life cycle of its own, even beside
others with its id, and none is found by a search.
-/

namespace RetailMarket

/-- The tariffs of one broker, newest first. -/
structure BrokerQueue where
  broker : String
  ids : List TariffId
  deriving DecidableEq, Repr

namespace BrokerQueue

/-- Puts a tariff at the head of its broker's queue. Queues stay in ascending order of broker. -/
def push (broker : String) (id : TariffId) : List BrokerQueue → List BrokerQueue
  | [] => [⟨broker, [id]⟩]
  | queue :: queues =>
    if queue.broker = broker then ⟨broker, id :: queue.ids⟩ :: queues
    else if broker < queue.broker then ⟨broker, [id]⟩ :: queue :: queues
    else queue :: push broker id queues

end BrokerQueue

/-- `listed` and `contracts` are in order of entry, so that the number of a contract is its
position; `lastId` is the largest number handed out or entered. -/
structure Catalogue (R : Type) where
  listed : List (Listing R) := []
  contracts : List (Listing R) := []
  queues : List BrokerQueue := []
  lastId : Nat := 0

namespace Catalogue

variable {R : Type}

def empty : Catalogue R := {}

def size (catalogue : Catalogue R) : Nat := catalogue.listed.length

def nextId (catalogue : Catalogue R) : TariffId × Catalogue R :=
  (⟨catalogue.lastId + 1⟩, { catalogue with lastId := catalogue.lastId + 1 })

def findIn (listings : List (Listing R)) (id : TariffId) : Option (Listing R) :=
  listings.find? fun listing => listing.id == id

def find? (catalogue : Catalogue R) (id : TariffId) : Option (Listing R) :=
  findIn catalogue.listed id

def findContract? (catalogue : Catalogue R) (id : TariffId) : Option (Listing R) :=
  findIn catalogue.contracts.reverse id

def updateIn (listings : List (Listing R)) (id : TariffId) (change : Listing R → Listing R) :
    List (Listing R) :=
  listings.map fun listing => if listing.id = id then change listing else listing

def update (catalogue : Catalogue R) (id : TariffId) (change : Listing R → Listing R) :
    Catalogue R :=
  { catalogue with listed := updateIn catalogue.listed id change }

def standing (catalogue : Catalogue R) (tariff : Tariff R) : Listing R :=
  let known := match tariff.contract with
    | none => catalogue.find? tariff.id
    | some number => catalogue.contracts[number]?
  known.getD (Listing.ofTariff tariff)

def change (catalogue : Catalogue R) (tariff : Tariff R) (f : Listing R → Listing R) :
    Catalogue R :=
  match tariff.contract with
  | none => catalogue.update tariff.id f
  | some number => { catalogue with contracts := catalogue.contracts.modify number f }

/-- Enters a published tariff, unless its id is taken; whether it has been entered. The tariff that
it supersedes, if there is one, is linked to it. -/
def enter (catalogue : Catalogue R) (tariff : Tariff R) : Bool × Catalogue R :=
  if (catalogue.find? tariff.id).isSome then (false, catalogue)
  else
    let linked :=
      match tariff.supersedes with
      | none => catalogue
      | some old => catalogue.update old (Listing.supersede tariff.id)
    (true,
      { linked with
        listed := linked.listed ++ [Listing.ofTariff { tariff with contract := none }]
        queues := BrokerQueue.push tariff.broker tariff.id linked.queues
        lastId := max linked.lastId tariff.id.number })

/-- Enters a private contract, which is given its number. -/
def enterContract (catalogue : Catalogue R) (tariff : Tariff R) : Tariff R × Catalogue R :=
  let contract := { tariff with contract := some catalogue.contracts.length }
  (contract, { catalogue with contracts := catalogue.contracts ++ [Listing.ofTariff contract] })

def revoke (catalogue : Catalogue R) (id : TariffId) : Bool × Catalogue R :=
  match catalogue.find? id with
  | none => (false, catalogue)
  | some listing =>
    if listing.isRevoked then (false, catalogue)
    else (true, catalogue.update id Listing.revoke)

/-- Walks a queue and keeps the tariffs a customer may subscribe to, at most `depth` of each power
type; `taken` counts those kept so far. -/
def takeRecent (catalogue : Catalogue R) (depth : Nat) (customer : PowerType) (now : Instant) :
    (taken : PowerType → Nat) → List TariffId → List (Tariff R)
  | _, [] => []
  | taken, id :: ids =>
    match catalogue.find? id with
    | none => takeRecent catalogue depth customer now taken ids
    | some listing =>
      let kind := listing.tariff.powerType
      if listing.isSubscribable now && customer.canUse kind && decide (taken kind < depth) then
        listing.tariff ::
          takeRecent catalogue depth customer now
            (fun p => if p = kind then taken kind + 1 else taken p) ids
      else
        takeRecent catalogue depth customer now taken ids

/-- The recent offers of all brokers, in order of broker, each broker's newest first. -/
def recentOffers (catalogue : Catalogue R) (depth : Nat) (customer : PowerType) (now : Instant) :
    List (Tariff R) :=
  catalogue.queues.flatMap fun queue =>
    takeRecent catalogue depth customer now (fun _ => 0) queue.ids

end Catalogue

end RetailMarket
