import SavingsCircle.Audit.Note
import SavingsCircle.Circle.Directory.Lemmas
import SavingsCircle.Circle.Record.Lemmas
import SavingsCircle.Http.Service
import SavingsCircle.Ledger.Pages
import SavingsCircle.Number.Bits
import SavingsCircle.Settings
import SavingsCircle.Text.Units.Lemmas
import SavingsCircle.Proofs.Run.Course
import SavingsCircle.Proofs.Run.Rollback
import SavingsCircle.Proofs.Circle.Backing
import SavingsCircle.Proofs.Circle.Refund
import SavingsCircle.Proofs.Circle.Register
import SavingsCircle.Proofs.Custody.Owed
import SavingsCircle.Proofs.Custody.Payment
import SavingsCircle.Proofs.Custody.Solvency
import SavingsCircle.Proofs.Circle.Seating
import SavingsCircle.Proofs.Circle.Quorum
import SavingsCircle.Proofs.Circle.Account
import SavingsCircle.Proofs.Circle.Accounting
import SavingsCircle.Proofs.Circle.Earmarks
import SavingsCircle.Proofs.Circle.Status
import SavingsCircle.Proofs.Circle.Cycle
import SavingsCircle.Proofs.Circle.Joining
import SavingsCircle.Proofs.Circle.Replay
import SavingsCircle.Proofs.Circle.Dissolution
import SavingsCircle.Proofs.Circle.Withdrawals
import SavingsCircle.Proofs.Custody.Deferral
import SavingsCircle.Proofs.Audit.Tampering
import SavingsCircle.Proofs.Run.Authorization
import SavingsCircle.Proofs.Run.Isolation
import SavingsCircle.Proofs.Token
import SavingsCircle.Proofs.Http.Handling
import SavingsCircle.Proofs.Run.Exactness
import SavingsCircle.Proofs.Custody.Intake
import SavingsCircle.Proofs.Fees
import SavingsCircle.Proofs.Circle.Completion
import SavingsCircle.Proofs.Circle.Closing
import SavingsCircle.Proofs.Circle.Succession
import SavingsCircle.Proofs.Circle.Ejection
import SavingsCircle.Proofs.Circle.Order
import SavingsCircle.Proofs.Circle.Safeguards
import SavingsCircle.Proofs.Custody.Deposits
import SavingsCircle.Proofs.Custody.Lock
import SavingsCircle.Proofs.Shuffle
import SavingsCircle.Proofs.Ledger.Supply
import SavingsCircle.Proofs.Fees.Exactness
import SavingsCircle.Proofs.Audit.Recording
import SavingsCircle.Proofs.Custody.Receipts
import SavingsCircle.Proofs.Circle.Drawing
import SavingsCircle.Proofs.Checkpoints
import SavingsCircle.Proofs.Circle.Entries
import SavingsCircle.Proofs.Custody.Oversize
import SavingsCircle.Proofs.Http.Schemas
import SavingsCircle.Proofs.Http.Admission
import SavingsCircle.Proofs.Office.Reentry
