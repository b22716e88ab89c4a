import RetailMarket.Csv
import RetailMarket.Simulation.Summary

/-!
# Exports

Transactions and cycle summaries as comma-separated text, one record each under a header.
-/

namespace RetailMarket.Export

def transactionHeader : List String :=
  ["timeslot", "kind", "tariff", "broker", "customer", "count", "kwh", "charge"]

def transactionRecord (transaction : Transaction Float) : List String :=
  [toString transaction.timeslot, transaction.kind.label, toString transaction.tariff.number,
    transaction.broker, toString transaction.customer.number, toString transaction.count,
    Decimal.fixedText 4 transaction.kwh, Decimal.fixedText 4 transaction.charge]

def transactions (transactions : List (Transaction Float)) : String :=
  Csv.write (transactionHeader :: transactions.map transactionRecord)

def summaryHeader : List String :=
  ["cycle", "start", "published", "revoked", "settled", "migrations", "allocation_balance",
    "population_conserved", "charges", "curtailed_kwh", "balancing_kwh", "transactions"]

def summaryRecord (summary : CycleSummary Float) : List String :=
  [toString summary.cycle, toString summary.start.millis, toString summary.published,
    toString summary.revoked, toString summary.settled, toString summary.migrations,
    toString summary.allocationBalance, toString summary.isConserved,
    Decimal.fixedText 4 summary.charges, Decimal.fixedText 4 summary.curtailed,
    Decimal.fixedText 4 summary.balancing, toString summary.transactions]

def summaries (summaries : List (CycleSummary Float)) : String :=
  Csv.write (summaryHeader :: summaries.map summaryRecord)

end RetailMarket.Export
