import DependencyLinks.Main
import DependencyLinks.Program
import DependencyLinks.Session
import DependencyLinks.Proofs.Pattern.Lines
import DependencyLinks.Proofs.Pattern.Leftmost
import DependencyLinks.Proofs.Pattern.Boundaries
import DependencyLinks.Proofs.Program.Stages
import DependencyLinks.Proofs.Program.Complaint
import DependencyLinks.Proofs.Writer.Taken
import DependencyLinks.Proofs.Writer.ReadBack
import DependencyLinks.Proofs.Writer.Capacity
import DependencyLinks.Proofs.Remote.Item
import DependencyLinks.Proofs.Remote.Thread
import DependencyLinks.Proofs.Program.Ending
import DependencyLinks.Proofs.Text.Utf8
import DependencyLinks.Proofs.Text.Decimal
import DependencyLinks.Proofs.Text.Ascii
import DependencyLinks.Proofs.Text.Blank
import DependencyLinks.Proofs.Settings.Given
import DependencyLinks.Proofs.Settings.Precedence
import DependencyLinks.Proofs.CommandLine.Pieces
import DependencyLinks.Proofs.CommandLine.Agreement
import DependencyLinks.Proofs.CommandLine.Standing
import DependencyLinks.Proofs.CommandLine.Label
import DependencyLinks.Proofs.CommandLine.Forwarded
import DependencyLinks.Proofs.CommandLine.Number
import DependencyLinks.Proofs.CommandLine.Bytes
import DependencyLinks.Proofs.Session.Queues
import DependencyLinks.Proofs.Scan.Checks
import DependencyLinks.Proofs.Scan.Dialogue
import DependencyLinks.Proofs.Settings.Token
import DependencyLinks.Proofs.Identity
import DependencyLinks.Proofs.Locator.Paths
import DependencyLinks.Proofs.CommandLine.Usage
import DependencyLinks.Proofs.Remote.Break
import DependencyLinks.Proofs.Remote.Connect
