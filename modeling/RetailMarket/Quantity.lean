import RetailMarket.Number.Exact

/-!
# Quantities

Prices, payments, energies and utilities are quantities. The market's rules use nothing of them
but the operations listed here, so that one definition of a rule serves measured 64-bit numbers,
where it runs, and exact numbers, where its laws are stated.
-/

namespace RetailMarket

/-- A type of quantities. `==` is numeric equality, which need not be reflexive; `totalLE` ranks
all values, also those that `≤` leaves incomparable. -/
class Quantity (R : Type) extends Zero R, One R, Add R, Sub R, Mul R, Div R, Neg R, LT R, LE R,
    BEq R, NatCast R, OfScientific R where
  decidableLT : DecidableLT R
  decidableLE : DecidableLE R
  totalLE : R → R → Bool
  wholePart : R → Int
  exp : R → R
  log : R → R
  log10 : R → R
  power : R → R → R
  sqrt : R → R
  sin : R → R
  cos : R → R

namespace Quantity

variable {R : Type} [Quantity R]

instance : DecidableLT R := decidableLT

instance : DecidableLE R := decidableLE

def isNaN (x : R) : Bool := !(x == x)

def replaceNaN (x : R) : R := if isNaN x then 0 else x

def magnitude (x : R) : R := if x < 0 then -x else x

/-- The larger of two quantities. What is not a number is ignored, and of two equal quantities the
second is kept. -/
def larger (x y : R) : R := if y < x ∨ isNaN y then x else y

def smaller (x y : R) : R := if x < y ∨ isNaN y then x else y

/-- Sum in order. The empty sum is the neutral element of addition, which for signed zeros is the
negative zero. -/
def total (xs : List R) : R := xs.foldl (· + ·) (-0)

def ofInt (n : Int) : R :=
  if n < 0 then -(n.natAbs : R) else (n.natAbs : R)

def within (low high x : R) : Bool := decide (low ≤ x) && decide (x ≤ high)

end Quantity

/-- Rank of a 64-bit number: negative values first, each zero apart, what is not a number at the
end of its sign. -/
def floatRank (x : Float) : UInt64 :=
  let bits := x.toBits
  if bits &&& 0x8000000000000000 = 0 then bits ||| 0x8000000000000000 else ~~~bits

instance : Quantity Float where
  zero := 0.0
  one := 1.0
  natCast := Float.ofNat
  decidableLT := Float.decLt
  decidableLE := Float.decLe
  totalLE x y := decide (floatRank x ≤ floatRank y)
  wholePart x := (ExactValue.ofFloat x).wholePart
  exp := Float.exp
  log := Float.log
  log10 := Float.log10
  power := Float.pow
  sqrt := Float.sqrt
  sin := Float.sin
  cos := Float.cos

/-- The last of the greatest elements of a list. -/
def lastGreatest? {α : Type} (atMost : α → α → Bool) (xs : List α) : Option α :=
  xs.foldl
    (fun best x =>
      match best with
      | none => some x
      | some b => if atMost b x then some x else some b)
    none

end RetailMarket
