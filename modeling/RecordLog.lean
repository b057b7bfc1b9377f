import RecordLog.Config.Document
import RecordLog.Main
import RecordLog.Segment.Summary
import RecordLog.Text.Lossy
import RecordLog.Proofs.Survival
import RecordLog.Proofs.ScanHistory
import RecordLog.Proofs.TornWrite
import RecordLog.Proofs.Damage
import RecordLog.Proofs.Session
import RecordLog.Proofs.Grammar
import RecordLog.Proofs.WordReading
import RecordLog.Proofs.Rescan
import RecordLog.Proofs.Reopening
import RecordLog.Proofs.Durability
import RecordLog.Proofs.SyncCoverage
import RecordLog.Proofs.Stability
import RecordLog.Proofs.IntactPrefix
import RecordLog.Proofs.LengthDamage
import RecordLog.Proofs.Ascending
import RecordLog.Proofs.Requests
import RecordLog.Proofs.Capacity
import RecordLog.Proofs.WordFraming
import RecordLog.Proofs.Estimate
import RecordLog.Proofs.Truncation
import RecordLog.Proofs.Accounting
import RecordLog.Proofs.FailedWrites
import RecordLog.Proofs.Discovering
import RecordLog.Proofs.Bookkeeping
import RecordLog.Proofs.Cursors
import RecordLog.Proofs.ZeroTail
import RecordLog.Proofs.Vacancy
import RecordLog.Proofs.NameCodec
import RecordLog.Proofs.Closing
