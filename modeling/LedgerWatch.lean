import LedgerWatch.Container.Basic
import LedgerWatch.Criteria.Encoding
import LedgerWatch.Host.Bootstrap
import LedgerWatch.Host.Telemetry
import LedgerWatch.Polling.Schedule
import LedgerWatch.Rehearsal.Play
import LedgerWatch.Proofs.Ledger.Growth
import LedgerWatch.Proofs.Ledger.Weaving
import LedgerWatch.Proofs.Ledger.PointInTime
import LedgerWatch.Proofs.Ledger.Changes
import LedgerWatch.Proofs.Ledger.Lineage
import LedgerWatch.Proofs.Polling.Station
import LedgerWatch.Proofs.Program.Along
import LedgerWatch.Proofs.Program.Beside
import LedgerWatch.Proofs.Polling.Journal
import LedgerWatch.Proofs.Polling.Attempt
import LedgerWatch.Proofs.Polling.Delivery
import LedgerWatch.Proofs.Polling.Restart
import LedgerWatch.Proofs.Registry.Keeping
import LedgerWatch.Proofs.Registry.Operation
import LedgerWatch.Proofs.Registry.Conduct
import LedgerWatch.Proofs.Registry.Membership
import LedgerWatch.Proofs.Registry.Closing
import LedgerWatch.Proofs.Registry.Audience
import LedgerWatch.Proofs.Registry.Isolation
import LedgerWatch.Proofs.Registry.Diary
import LedgerWatch.Proofs.Registry.Lodge
import LedgerWatch.Proofs.Registry.Attendance
import LedgerWatch.Proofs.Registry.Hearing
import LedgerWatch.Proofs.Registry.Acting
import LedgerWatch.Proofs.Registry.Readiness
import LedgerWatch.Proofs.Registry.Cancelling
import LedgerWatch.Proofs.Identity.Text
import LedgerWatch.Proofs.Storage.OffsetTable
import LedgerWatch.Proofs.Json.Fields
import LedgerWatch.Proofs.Chain.Encoding
import LedgerWatch.Proofs.Storage.Files
import LedgerWatch.Proofs.Storage.OffsetFile
import LedgerWatch.Proofs.Storage.Connection
import LedgerWatch.Proofs.Storage.Register
import LedgerWatch.Proofs.Program.Through
import LedgerWatch.Proofs.Registry.Undisturbed
import LedgerWatch.Proofs.Registry.InForce
import LedgerWatch.Proofs.Program.Alike
import LedgerWatch.Proofs.Registry.Counterpart
import LedgerWatch.Proofs.Ledger.Distinct
import LedgerWatch.Proofs.Ledger.Faults
import LedgerWatch.Proofs.Polling.Relay
import LedgerWatch.Proofs.Polling.Schedule
import LedgerWatch.Proofs.Program.Amid
import LedgerWatch.Proofs.Polling.Readings
import LedgerWatch.Proofs.Polling.Cycles
import LedgerWatch.Proofs.Polling.Turns
import LedgerWatch.Proofs.Polling.Life
import LedgerWatch.Proofs.Polling.Abiding
import LedgerWatch.Proofs.Registry.Abiding
import LedgerWatch.Proofs.Polling.Shift
import LedgerWatch.Proofs.Container.Conduct
import LedgerWatch.Proofs.Container.Orders
import LedgerWatch.Proofs.Container.Starting
import LedgerWatch.Proofs.Container.Stopping
import LedgerWatch.Proofs.Storage.Draft
import LedgerWatch.Proofs.Identity.Spelling
import LedgerWatch.Proofs.Storage.Recovery
import LedgerWatch.Proofs.Container.Registering
import LedgerWatch.Proofs.Program.Accounting
import LedgerWatch.Proofs.Registry.Tallying
import LedgerWatch.Proofs.Polling.Reckoning
import LedgerWatch.Proofs.Polling.Reconciling
import LedgerWatch.Proofs.Container.Admission
import LedgerWatch.Proofs.Registry.Starting
import LedgerWatch.Proofs.Registry.Triggering
import LedgerWatch.Proofs.Settings.Document
import LedgerWatch.Proofs.Settings.Sheet
import LedgerWatch.Proofs.Settings.Resolving
import LedgerWatch.Proofs.Json.Records
import LedgerWatch.Proofs.Container.Winding
