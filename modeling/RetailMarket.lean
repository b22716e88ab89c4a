import RetailMarket.Books
import RetailMarket.CommandLine
import RetailMarket.Csv
import RetailMarket.Customer
import RetailMarket.Customer.SampleStream
import RetailMarket.Customer.Sampled
import RetailMarket.Customer.Scripted
import RetailMarket.Document.Json
import RetailMarket.Document.Toml.Layout
import RetailMarket.Document.Toml.Moment
import RetailMarket.Document.Toml.Reader
import RetailMarket.Document.Toml.Scalar
import RetailMarket.Document.Value
import RetailMarket.Evaluation.Allocation
import RetailMarket.Evaluation.Appraisal
import RetailMarket.Evaluation.Choice
import RetailMarket.Evaluation.Evaluator
import RetailMarket.Evaluation.Forecast
import RetailMarket.Evaluation.Scoring
import RetailMarket.Evaluation.Settings
import RetailMarket.FileAccess
import RetailMarket.Journal
import RetailMarket.Main
import RetailMarket.Market
import RetailMarket.Number.Decimal
import RetailMarket.Number.Exact
import RetailMarket.Number.Nearest
import RetailMarket.Number.Signed
import RetailMarket.PowerType
import RetailMarket.Proofs.Appraisal
import RetailMarket.Proofs.Balance
import RetailMarket.Proofs.BalancingCharges
import RetailMarket.Proofs.Billing
import RetailMarket.Proofs.Blocks
import RetailMarket.Proofs.Catalogue
import RetailMarket.Proofs.Ceiling
import RetailMarket.Proofs.Charges
import RetailMarket.Proofs.Choice
import RetailMarket.Proofs.Chronicle
import RetailMarket.Proofs.Chunks
import RetailMarket.Proofs.Clearing
import RetailMarket.Proofs.Commitment
import RetailMarket.Proofs.Compatibility
import RetailMarket.Proofs.Completion
import RetailMarket.Proofs.Compression
import RetailMarket.Proofs.Configuration
import RetailMarket.Proofs.Conservation
import RetailMarket.Proofs.Control
import RetailMarket.Proofs.Curtailment
import RetailMarket.Proofs.Cycle
import RetailMarket.Proofs.Decisions
import RetailMarket.Proofs.Defaults
import RetailMarket.Proofs.Departures
import RetailMarket.Proofs.Destinations
import RetailMarket.Proofs.Drawing
import RetailMarket.Proofs.EarlyWithdrawal
import RetailMarket.Proofs.Emptied
import RetailMarket.Proofs.Enquiry
import RetailMarket.Proofs.Evacuation
import RetailMarket.Proofs.Evaluation
import RetailMarket.Proofs.ExactQuantity
import RetailMarket.Proofs.Failure
import RetailMarket.Proofs.Forecasts
import RetailMarket.Proofs.Holding
import RetailMarket.Proofs.HourlyCost
import RetailMarket.Proofs.Hours
import RetailMarket.Proofs.Independence
import RetailMarket.Proofs.Lifecycle
import RetailMarket.Proofs.Lineage
import RetailMarket.Proofs.MeasuredQuantity
import RetailMarket.Proofs.Metering
import RetailMarket.Proofs.Migration
import RetailMarket.Proofs.Moves
import RetailMarket.Proofs.NetChange
import RetailMarket.Proofs.Orders
import RetailMarket.Proofs.Parallel
import RetailMarket.Proofs.Planned
import RetailMarket.Proofs.Population
import RetailMarket.Proofs.Postings
import RetailMarket.Proofs.Precedence
import RetailMarket.Proofs.Publication
import RetailMarket.Proofs.Queue
import RetailMarket.Proofs.Ranking
import RetailMarket.Proofs.ReadBack
import RetailMarket.Proofs.RecentOffers
import RetailMarket.Proofs.Reconciliation
import RetailMarket.Proofs.Recorder
import RetailMarket.Proofs.Records
import RetailMarket.Proofs.Register
import RetailMarket.Proofs.Requests
import RetailMarket.Proofs.Reuse
import RetailMarket.Proofs.Roles
import RetailMarket.Proofs.Roster
import RetailMarket.Proofs.RosterHistory
import RetailMarket.Proofs.Round
import RetailMarket.Proofs.Run
import RetailMarket.Proofs.Schedule
import RetailMarket.Proofs.Settlement
import RetailMarket.Proofs.Signups
import RetailMarket.Proofs.Stages
import RetailMarket.Proofs.Undivided
import RetailMarket.Proofs.Validity
import RetailMarket.Proofs.View.Billing
import RetailMarket.Proofs.View.Books
import RetailMarket.Proofs.View.Evaluations
import RetailMarket.Proofs.View.Folds
import RetailMarket.Proofs.View.Stages
import RetailMarket.Proofs.WholeDays
import RetailMarket.Quantity
import RetailMarket.Scenario.Plan
import RetailMarket.Scenario.Presets
import RetailMarket.Scenario.Problem
import RetailMarket.Scenario.Schema
import RetailMarket.Scenario.Validation
import RetailMarket.Simulation.Billing
import RetailMarket.Simulation.Export
import RetailMarket.Simulation.Run
import RetailMarket.Simulation.State
import RetailMarket.Simulation.Summary
import RetailMarket.Subscription.Capacity
import RetailMarket.Subscription.Contract
import RetailMarket.Subscription.Roster
import RetailMarket.Tariff.Catalogue
import RetailMarket.Tariff.Rate
import RetailMarket.Tariff.Terms
import RetailMarket.Time
