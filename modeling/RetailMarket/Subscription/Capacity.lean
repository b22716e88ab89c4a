import RetailMarket.Quantity

/-!
# Regulation capacity

How far a population can be regulated: `up` is never negative and `down` never positive. Values
closer to zero than the dead band count as zero. An assignment of the wrong sign is refused.
-/

namespace RetailMarket

structure RegulationCapacity (R : Type) where
  up : R
  down : R
  deriving Repr

namespace RegulationCapacity

variable {R : Type} [Quantity R]

def deadBand : R := 1e-4

def snap (x : R) : R := if Quantity.magnitude x < deadBand then 0 else x

def zero : RegulationCapacity R := ⟨0, 0⟩

def clamped (up down : R) : RegulationCapacity R :=
  ⟨if up < 0 then 0 else snap up, if 0 < down then 0 else snap down⟩

/-- A new up capacity, unless it is negative by more than the dead band. -/
def setUp? (capacity : RegulationCapacity R) (x : R) : Option (RegulationCapacity R) :=
  if snap x < 0 then none else some { capacity with up := snap x }

/-- A new down capacity, unless it is positive by more than the dead band. -/
def setDown? (capacity : RegulationCapacity R) (x : R) : Option (RegulationCapacity R) :=
  if 0 < snap x then none else some { capacity with down := snap x }

/-- Keeps the old value where `setUp?` refuses. -/
def setUp (capacity : RegulationCapacity R) (x : R) : RegulationCapacity R :=
  (capacity.setUp? x).getD capacity

def setDown (capacity : RegulationCapacity R) (x : R) : RegulationCapacity R :=
  (capacity.setDown? x).getD capacity

def add (capacity other : RegulationCapacity R) : RegulationCapacity R :=
  (capacity.setUp (capacity.up + other.up)).setDown (capacity.down + other.down)

def addUp (capacity : RegulationCapacity R) (amount : R) : RegulationCapacity R :=
  if amount < 0 then capacity else capacity.setUp (capacity.up + amount)

def addDown (capacity : RegulationCapacity R) (amount : R) : RegulationCapacity R :=
  if 0 < amount then capacity else capacity.setDown (capacity.down + amount)

def scaled (capacity : RegulationCapacity R) (factor : R) : RegulationCapacity R :=
  clamped (capacity.up * factor) (capacity.down * factor)

end RegulationCapacity

end RetailMarket
