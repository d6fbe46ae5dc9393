import BufferBudget.Diagnostic
import BufferBudget.Size
import BufferBudget.Table
import BufferBudget.Account.Mediator
import BufferBudget.Account.Tracker
import BufferBudget.Account.Tally
import BufferBudget.Contents.Digest
import BufferBudget.Operation
import BufferBudget.Operation.Mediation
import BufferBudget.Operation.Charging
import BufferBudget.Operation.Reporting
import BufferBudget.Resizing
import BufferBudget.Source.Heap
import BufferBudget.Source.Mediated
import BufferBudget.Source.Clearing
import BufferBudget.Source.Bypass
import BufferBudget.Source.Guaranteed
import BufferBudget.Source.Tallied
import BufferBudget.Source.Tracked
import BufferBudget.Source.Locked
import BufferBudget.Source.Probe
import BufferBudget.Buffer
import BufferBudget.Session
import BufferBudget.Inspection
import BufferBudget.Act
import BufferBudget.Text.Outline
import BufferBudget.Config.Environment
import BufferBudget.Json.Glyph
import BufferBudget.Json.Token
import BufferBudget.Config.Json
import BufferBudget.Account.Tally.Json
import BufferBudget.Proofs.Ending
import BufferBudget.Proofs.Change
import BufferBudget.Proofs.Range
import BufferBudget.Proofs.Rules
import BufferBudget.Proofs.Calls
import BufferBudget.Proofs.Run
import BufferBudget.Proofs.Requests
import BufferBudget.Proofs.Ledger
import BufferBudget.Proofs.Accounting
import BufferBudget.Proofs.Course
import BufferBudget.Proofs.Ceiling
import BufferBudget.Proofs.Refusal
import BufferBudget.Proofs.Register
import BufferBudget.Proofs.Custody
import BufferBudget.Proofs.Counting
import BufferBudget.Proofs.Metering
import BufferBudget.Proofs.Tracking
import BufferBudget.Proofs.HardStack
import BufferBudget.Proofs.Bytes
import BufferBudget.Proofs.Holdings
import BufferBudget.Proofs.Shedding
import BufferBudget.Proofs.Cutting
import BufferBudget.Proofs.Reports
import BufferBudget.Proofs.Statistics
import BufferBudget.Proofs.Shrinking
import BufferBudget.Proofs.Verdict
import BufferBudget.Proofs.Deciding
import BufferBudget.Proofs.Admission
import BufferBudget.Proofs.Asking
import BufferBudget.Proofs.Reading
import BufferBudget.Proofs.Bounding
import BufferBudget.Proofs.Enduring
import BufferBudget.Proofs.Yielding
import BufferBudget.Proofs.Pairing
import BufferBudget.Proofs.Likeness
import BufferBudget.Proofs.Companions
import BufferBudget.Proofs.Blindness
import BufferBudget.Proofs.OneLimit
import BufferBudget.Proofs.IdleBypass
import BufferBudget.Proofs.SoftGrowth
import BufferBudget.Proofs.Rollback
import BufferBudget.Proofs.Spelling
import BufferBudget.Proofs.RoundTrip
import BufferBudget.Proofs.Charges
import BufferBudget.Proofs.Observers
import BufferBudget.Proofs.Leading
import BufferBudget.Proofs.Locking
import BufferBudget.Proofs.Transparency
import BufferBudget.Proofs.Repayment
import BufferBudget.Proofs.Answering
import BufferBudget.Proofs.Confinement
import BufferBudget.Proofs.Enforcement
import BufferBudget.Proofs.SoftAllocation
import BufferBudget.Proofs.QuotaContract
import BufferBudget.Proofs.Postings
import BufferBudget.Proofs.Settings
import BufferBudget.Proofs.Variables
import BufferBudget.Proofs.Repeating
import BufferBudget.Proofs.InFull
import BufferBudget.Proofs.HeapGuarantee
import BufferBudget.Proofs.ExactLimit
