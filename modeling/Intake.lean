import Intake.Config.LogFilter
import Intake.Session
import Intake.Proofs.Acceptance
import Intake.Proofs.Extraction
import Intake.Proofs.Noninterference
import Intake.Proofs.Report
import Intake.Proofs.Reading
import Intake.Proofs.Writing
import Intake.Proofs.Respelling
import Intake.Proofs.ResponseBodies
import Intake.Proofs.Repair
import Intake.Proofs.Conformance
import Intake.Proofs.FirstByte
import Intake.Proofs.StatusReading
import Intake.Proofs.StatusNames
import Intake.Proofs.Rechecking
import Intake.Proofs.Strictness
import Intake.Proofs.History
import Intake.Proofs.Logging
import Intake.Proofs.Truncation
import Intake.Proofs.AddressCharacters
import Intake.Proofs.Entailment
import Intake.Proofs.QuotedText
import Intake.Proofs.Documentation
import Intake.Proofs.Settings
