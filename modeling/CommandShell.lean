import CommandShell.Command.Playbook
import CommandShell.Files.Tree
import CommandShell.Main
import CommandShell.Proofs.Session.NestedRun
import CommandShell.Proofs.Session.Release
import CommandShell.Proofs.Session.Cancellation
import CommandShell.Proofs.Session.FinalState
import CommandShell.Proofs.Session.Calls
import CommandShell.Proofs.Session.Closing
import CommandShell.Proofs.Session.Rerun
import CommandShell.Proofs.Session.AccountsRun
import CommandShell.Proofs.Script.Pasting
import CommandShell.Proofs.Script.Termination
import CommandShell.Proofs.Command.Changes
import CommandShell.Proofs.Command.Precedence
import CommandShell.Proofs.Command.Classes
import CommandShell.Proofs.Command.Segments
import CommandShell.Proofs.CommandLine.Spelling
import CommandShell.Proofs.CommandLine.Script
import CommandShell.Proofs.Config.RoundTrip
import CommandShell.Proofs.Config.Layers
import CommandShell.Proofs.Program.Delivery
import CommandShell.Proofs.Program.ExitCode
import CommandShell.Proofs.Script.Reading
import CommandShell.Proofs.Session.StackUse
import CommandShell.Proofs.Session.Unreadable
import CommandShell.Proofs.Script.IllFormed
import CommandShell.Proofs.Session.ScriptErrors
import CommandShell.Proofs.Session.Replay
import CommandShell.Proofs.Command.Loading
import CommandShell.Proofs.Command.DefinitionFiles
