import TokenTransfer.JsonForm
import TokenTransfer.Proofs.Debits
import TokenTransfer.Proofs.Readability
import TokenTransfer.Proofs.Restarts
import TokenTransfer.Proofs.Solvency
import TokenTransfer.Telemetry.Exposition
import TokenTransfer.Proofs.Outcomes
import TokenTransfer.Proofs.Audit
import TokenTransfer.Proofs.Privileges
import TokenTransfer.Proofs.Unwinding
import TokenTransfer.Proofs.Receptions
import TokenTransfer.Proofs.Agreement
import TokenTransfer.Proofs.Profiles
import TokenTransfer.Proofs.Tallies
import TokenTransfer.Proofs.TraceEdits
import TokenTransfer.Proofs.Shortfalls
import TokenTransfer.Proofs.Backing
import TokenTransfer.Proofs.Orphans
import TokenTransfer.Proofs.TraceReading
import TokenTransfer.Proofs.Separation
import TokenTransfer.Proofs.HashedNames
import TokenTransfer.Proofs.Accounts
import TokenTransfer.Proofs.Backlog
