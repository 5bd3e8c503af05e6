import CommandConsole.Main
import CommandConsole.Proofs.Cancellation
import CommandConsole.Proofs.Grammar
import CommandConsole.Proofs.Quotation
import CommandConsole.Proofs.Restoration
import CommandConsole.Proofs.Typing
import CommandConsole.Proofs.FirstRegistration
import CommandConsole.Proofs.Ledger
import CommandConsole.Proofs.Logging
import CommandConsole.Proofs.Interruption
import CommandConsole.Proofs.Interpretation
import CommandConsole.Proofs.Line.Splitting
import CommandConsole.Proofs.Escape
import CommandConsole.Proofs.Polling
import CommandConsole.Proofs.Spacing
import CommandConsole.Proofs.FixedKeys
import CommandConsole.Proofs.Draining
import CommandConsole.Proofs.Description
import CommandConsole.Proofs.WriteHistory
