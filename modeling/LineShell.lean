import LineShell.Main
import LineShell.Command.Canned
import LineShell.Console.Sink
import LineShell.Machine.Host
import LineShell.Proofs.Shell.Faults
import LineShell.Proofs.Shell.Loop
import LineShell.Proofs.Shell.Reports
import LineShell.Proofs.Path.Normal
import LineShell.Proofs.Command.Watched
import LineShell.Proofs.Command.Deeds
import LineShell.Proofs.Shell.Spawning
import LineShell.Proofs.Text.Decoding
import LineShell.Proofs.Shell.Reading
import LineShell.Proofs.Shell.Directory
import LineShell.Proofs.Shell.BlankLines
import LineShell.Proofs.Machine.Whereabouts
import LineShell.Proofs.Shell.Composition
import LineShell.Proofs.Lookup.Candidates
import LineShell.Proofs.Words.Joining
import LineShell.Proofs.Words.Marks
import LineShell.Proofs.Words.Moments
import LineShell.Proofs.Shell.Refusals
import LineShell.Proofs.Shell.Losses
import LineShell.Proofs.Shell.Operands
import LineShell.Proofs.Text.Numeral
import LineShell.Proofs.Shell.Endings
import LineShell.Proofs.Program.Ending
import LineShell.Proofs.Shell.Exit
import LineShell.Proofs.Shell.Dispatch
import LineShell.Proofs.Shell.Failures
