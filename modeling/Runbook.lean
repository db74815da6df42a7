import Runbook.Main
import Runbook.FileSystem.Virtual
import Runbook.Summary
import Runbook.Proofs.AbandonedTransaction
import Runbook.Proofs.AuditTrail
import Runbook.Proofs.Comments
import Runbook.Proofs.Completion
import Runbook.Proofs.Composition
import Runbook.Proofs.Correspondence
import Runbook.Proofs.ExecutedDirectives
import Runbook.Proofs.Expansion
import Runbook.Proofs.GlobAnchors
import Runbook.Proofs.GlobSelection
import Runbook.Proofs.JsonRoundTrip
import Runbook.Proofs.LineGrammar
import Runbook.Proofs.LogLines
import Runbook.Proofs.MarkerLines
import Runbook.Proofs.PatternFaults
import Runbook.Proofs.PatternReading
import Runbook.Proofs.ProgressLines
import Runbook.Proofs.RegistrationFiles
import Runbook.Proofs.Rendering
import Runbook.Proofs.RowCounts
import Runbook.Proofs.SearchPath
import Runbook.Proofs.Secrecy
import Runbook.Proofs.TokenLocality
import Runbook.Proofs.TransactionProtocol
import Runbook.Proofs.WrittenOut
