import RetailMarket.Number.Signed

/-!
# Market time

Instants are counted in milliseconds from an epoch, in both directions, and 64 bits are kept of
them. A sum of instants is exact here; `wrapped` is what is kept of it. A timetable is a run of
equally long timeslots, given out one after the other.
-/

namespace RetailMarket

def hourLength : Int := 3600000

def dayLength : Int := 24 * hourLength

structure Instant where
  millis : Int
  deriving DecidableEq, Repr, Inhabited

namespace Instant

instance : LE Instant := ⟨fun a b => a.millis ≤ b.millis⟩

instance (a b : Instant) : Decidable (a ≤ b) := inferInstanceAs (Decidable (a.millis ≤ b.millis))

def epoch : Instant := ⟨0⟩

def ofHours (hours : Int) : Instant := ⟨hours * hourLength⟩

def plus (instant : Instant) (millis : Int) : Instant := ⟨instant.millis + millis⟩

/-- Whether 64 bits hold an instant: it lies from `-2 ^ 63` on and before `2 ^ 63`. -/
def Fits (instant : Instant) : Prop :=
  -UInt64.size ≤ instant.millis * 2 ∧ instant.millis * 2 < UInt64.size

instance (instant : Instant) : Decidable instant.Fits := inferInstanceAs (Decidable (_ ∧ _))

/-- What 64 bits keep of an instant. One that they do not hold comes around. -/
def wrapped (instant : Instant) : Instant := ⟨Int.bmod instant.millis UInt64.size⟩

def plusHours (instant : Instant) (hours : Int) : Instant := instant.plus (hours * hourLength)

def hourOfDay (instant : Instant) : Nat :=
  (Int.fmod instant.millis dayLength / hourLength).toNat

def day (instant : Instant) : Int := Int.fdiv instant.millis dayLength

/-- Hours since the epoch, with the part of an hour dropped toward the epoch. -/
def wholeHours (instant : Instant) : Int := Int.tdiv instant.millis hourLength

def text (instant : Instant) : String :=
  let hour := toString instant.hourOfDay
  "d" ++ toString instant.day ++ "+" ++ "".pushn '0' (2 - hour.length) ++ hour ++ "h"

end Instant

structure Timetable where
  start : Instant
  slotLength : Int
  slots : Nat
  next : Nat := 0
  deriving DecidableEq, Repr

namespace Timetable

def slotStart (table : Timetable) (slot : Nat) : Instant :=
  table.start.plus (table.slotLength * signed slot)

/-- Gives out the next timeslot, if one is left. -/
def tick (table : Timetable) : Option (Nat × Instant) × Timetable :=
  if table.next < table.slots then
    (some (table.next, table.slotStart table.next), { table with next := table.next + 1 })
  else
    (none, table)

def run (table : Timetable) : List (Nat × Instant) × Timetable :=
  let left := (List.range table.slots).drop table.next
  (left.map fun slot => (slot, table.slotStart slot),
    { table with next := max table.next table.slots })

end Timetable

end RetailMarket
