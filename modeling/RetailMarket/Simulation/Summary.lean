import RetailMarket.Number.Decimal
import RetailMarket.Journal

/-!
# Cycle summaries and the market report

What happened in each cycle, and the figures of a whole run.
-/

namespace RetailMarket

structure TariffShare where
  key : String
  tariff : TariffId
  committed : Nat
  deriving DecidableEq, Repr

/-- `isConserved` says that every customer's subscriptions add up to its population. -/
structure CycleSummary (R : Type) where
  cycle : Nat
  start : Instant
  published : Nat
  revoked : Nat
  settled : Nat
  migrations : Nat
  allocationBalance : Int
  isConserved : Bool
  charges : R
  curtailed : R
  balancing : R
  transactions : Nat
  shares : List TariffShare
  deriving Repr

def CycleSummary.committedTo {R : Type} (summary : CycleSummary R) (key : String) : Nat :=
  ((summary.shares.find? fun share => share.key == key).map (·.committed)).getD 0

structure MarketReport (R : Type) where
  cycles : Nat
  charges : R
  curtailed : R
  balancing : R
  transactions : Nat
  migrations : Nat
  unbalancedCycles : Nat
  isConserved : Bool
  leading : Option TariffShare
  deriving Repr

namespace MarketReport

variable {R : Type} [Quantity R]

/-- The figures of a run. The leading tariff holds the most members at its end; of several the last
published. -/
def ofSummaries (summaries : List (CycleSummary R)) : MarketReport R :=
  { cycles := summaries.length
    charges := Quantity.total (summaries.map (·.charges))
    curtailed := Quantity.total (summaries.map (·.curtailed))
    balancing := Quantity.total (summaries.map (·.balancing))
    transactions := (summaries.map (·.transactions)).foldr (· + ·) 0
    migrations := (summaries.map (·.migrations)).foldr (· + ·) 0
    unbalancedCycles := (summaries.filter fun s => s.allocationBalance != 0).length
    isConserved := summaries.all (·.isConserved)
    leading := summaries.getLast?.bind fun last =>
      lastGreatest? (fun a b => decide (a.committed ≤ b.committed))
        (last.shares.filter fun share => decide (0 < share.committed)) }

end MarketReport

/-! ## Texts -/

def CycleSummary.text (summary : CycleSummary Float) : String :=
  let shares := (summary.shares.filter fun share => decide (0 < share.committed)).map fun share =>
    " " ++ share.key ++ share.tariff.text ++ "=" ++ toString share.committed
  "cycle=" ++ Decimal.padRight 3 ' ' (toString summary.cycle)
    ++ " start=" ++ summary.start.text
    ++ " published=" ++ toString summary.published
    ++ " revoked=" ++ toString summary.revoked
    ++ " settled=" ++ toString summary.settled
    ++ " migrated=" ++ toString summary.migrations
    ++ " balance=" ++ toString summary.allocationBalance
    ++ " charges=" ++ Decimal.fixedText 2 summary.charges
    ++ " curtailed=" ++ Decimal.fixedText 2 summary.curtailed
    ++ " tx=" ++ toString summary.transactions
    ++ "".intercalate shares

def MarketReport.text (report : MarketReport Float) : String :=
  let leading :=
    match report.leading with
    | none => "none"
    | some share => share.key ++ share.tariff.text ++ " (" ++ toString share.committed ++ ")"
  "\n".intercalate
    ["--- Market Report ---",
      "Cycles:                " ++ toString report.cycles,
      "Total charges:         " ++ Decimal.fixedText 2 report.charges,
      "Curtailed kWh:         " ++ Decimal.fixedText 2 report.curtailed,
      "Balancing kWh:         " ++ Decimal.fixedText 2 report.balancing,
      "Transactions:          " ++ toString report.transactions,
      "Revocation migrations: " ++ toString report.migrations,
      "Unbalanced cycles:     " ++ toString report.unbalancedCycles,
      "Population conserved:  " ++ toString report.isConserved,
      "Leading tariff:        " ++ leading]

end RetailMarket
