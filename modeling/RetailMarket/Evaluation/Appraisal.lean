import Std.Data.HashMap
import RetailMarket.Tariff.Terms

/-!
# Appraisals

The forecast cost and the inconvenience of a tariff, kept from cycle to cycle. A cache that is
bypassed is emptied when a cycle begins, so that every cycle appraises every tariff anew.
-/

namespace RetailMarket

structure Appraisal (R : Type) where
  cost : R
  inconvenience : R
  deriving Repr

structure AppraisalCache (R : Type) where
  entries : Std.HashMap TariffId (Appraisal R) := {}
  isBypassed : Bool := false

namespace AppraisalCache

variable {R : Type}

def empty (isBypassed : Bool) : AppraisalCache R := { isBypassed }

def setBypass (cache : AppraisalCache R) (isBypassed : Bool) : AppraisalCache R :=
  { cache with isBypassed }

def beginCycle (cache : AppraisalCache R) : AppraisalCache R :=
  if cache.isBypassed then { cache with entries := {} } else cache

def get? (cache : AppraisalCache R) (id : TariffId) : Option (Appraisal R) := cache.entries[id]?

def insert (cache : AppraisalCache R) (id : TariffId) (appraisal : Appraisal R) :
    AppraisalCache R :=
  { cache with entries := cache.entries.insert id appraisal }

def size (cache : AppraisalCache R) : Nat := cache.entries.size

end AppraisalCache

end RetailMarket
