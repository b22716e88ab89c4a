/-!
# Signed numbers of 64 bits

Counts and positions are unsigned and have 64 bits. Where one is needed with a sign, its bits are
read as a signed number, so that one from `2 ^ 63` on comes out negative.
-/

namespace RetailMarket

/-- A count of 64 bits, read as a signed number. -/
def signed (count : Nat) : Int := Int.bmod count UInt64.size

end RetailMarket
