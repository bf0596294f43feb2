import Outreach.Calendar.Basic
import Outreach.Calendar.Reading
import Outreach.Calendar.Wire
import Outreach.Campaign.Basic
import Outreach.Campaign.Request
import Outreach.Campaign.Status
import Outreach.Command.Arguments
import Outreach.Command.Run
import Outreach.Customer
import Outreach.Delivery.Basic
import Outreach.Delivery.Recorder
import Outreach.Delivery.Wire
import Outreach.Demo.Seed
import Outreach.Event
import Outreach.Flow.Basic
import Outreach.Flow.Step
import Outreach.Flow.Schedule
import Outreach.Ident
import Outreach.Json.Basic
import Outreach.Json.Cursor
import Outreach.Json.Mismatch
import Outreach.Json.Writer
import Outreach.Json.Reader
import Outreach.Json.Record
import Outreach.Json.Records
import Outreach.Json.Skip
import Outreach.Lifecycle
import Outreach.Main
import Outreach.Number.Reader
import Outreach.Number.Writer
import Outreach.Order
import Outreach.Problem
import Outreach.Proofs.Calendar.Civil
import Outreach.Proofs.Calendar.Days
import Outreach.Proofs.Calendar.Strict
import Outreach.Proofs.Calendar.Timestamp
import Outreach.Proofs.Delivery.Agreement
import Outreach.Proofs.Delivery.Pass
import Outreach.Proofs.Delivery.Recording
import Outreach.Proofs.Delivery.Retry
import Outreach.Proofs.Except
import Outreach.Proofs.Flow.Ownership
import Outreach.Proofs.Flow.Schedule
import Outreach.Proofs.Flow.Sequence
import Outreach.Proofs.Lifecycle.Accounts
import Outreach.Proofs.Lifecycle.AtMostOnce
import Outreach.Proofs.Lifecycle.Dispatching
import Outreach.Proofs.Lifecycle.Evolution
import Outreach.Proofs.Lifecycle.Failure
import Outreach.Proofs.Lifecycle.History
import Outreach.Proofs.Lifecycle.Invariant
import Outreach.Proofs.Lifecycle.Log
import Outreach.Proofs.Lifecycle.Operation
import Outreach.Proofs.Lifecycle.Pass
import Outreach.Proofs.Lifecycle.Plan
import Outreach.Proofs.Lifecycle.Readiness
import Outreach.Proofs.Lifecycle.Record
import Outreach.Proofs.Lifecycle.Redispatch
import Outreach.Proofs.Lifecycle.Request
import Outreach.Proofs.Lifecycle.Simulation
import Outreach.Proofs.Lifecycle.Skipping
import Outreach.Proofs.Json.Record
import Outreach.Proofs.Segment.Matching
import Outreach.Proofs.Segment.OlderForm
import Outreach.Proofs.Segment.Operand
import Outreach.Proofs.Segment.Reading
import Outreach.Proofs.Segment.Storing
import Outreach.Proofs.Store.Stock
import Outreach.Proofs.Text.Numeral
import Outreach.Segment.Definition
import Outreach.Segment.Criterion
import Outreach.Segment.Draft
import Outreach.Segment.Evaluation
import Outreach.Segment.Feature
import Outreach.Segment.Operand
import Outreach.Segment.Query
import Outreach.Settings.Basic
import Outreach.Settings.Load
import Outreach.Settings.Source
import Outreach.Store
import Outreach.Table
import Outreach.Text.Format
import Outreach.Text.Lowercase
import Outreach.Toml.Reader
import Outreach.Toml.Scalar
import Outreach.Toml.Tree
import Outreach.Proofs.Lifecycle.Independence
import Outreach.Proofs.Lifecycle.Isolation
import Outreach.Proofs.Segment.Listing
import Outreach.Proofs.Customer.Totals
import Outreach.Proofs.Store.Totals
import Outreach.Proofs.Calendar.Lenient
import Outreach.Proofs.Ident
import Outreach.Proofs.Campaign.Storing
import Outreach.Proofs.Flow.WellFormed
import Outreach.Proofs.Flow.Storing
import Outreach.Proofs.Segment.Meaning
import Outreach.Proofs.Segment.Recency
import Outreach.Proofs.Lifecycle.Delivering
import Outreach.Proofs.Segment.Stated
import Outreach.Proofs.Text.Lowercase
import Outreach.Proofs.Number.Whole
import Outreach.Proofs.Segment.Casing
import Outreach.Proofs.Segment.OrderAge
import Outreach.Proofs.Flow.Summary
import Outreach.Proofs.Segment.Counts
import Outreach.Proofs.Segment.WellTyped
import Outreach.Proofs.Segment.Shown
import Outreach.Proofs.Customer.Orders
import Outreach.Proofs.Store.Register
import Outreach.Proofs.Campaign.Updates
