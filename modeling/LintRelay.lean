import LintRelay.Machine.Host
import LintRelay.Main
import LintRelay.Workspace
import LintRelay.Proofs.Session.Course
import LintRelay.Proofs.Session.Lint
import LintRelay.Proofs.Session.Turn
import LintRelay.Proofs.Session.Generation
import LintRelay.Proofs.Session.Judgement
import LintRelay.Proofs.Session.Newest
import LintRelay.Proofs.Session.Prompt
import LintRelay.Proofs.Workspace.Course
import LintRelay.Proofs.Workspace.Close
import LintRelay.Proofs.Workspace.Dispose
import LintRelay.Proofs.Report.Overlong
import LintRelay.Proofs.Manifest.Eligibility
import LintRelay.Proofs.Report.Batch
import LintRelay.Proofs.Report.Shown
import LintRelay.Proofs.Session.Apart
import LintRelay.Proofs.Session.Publication
import LintRelay.Proofs.Session.Passage
import LintRelay.Proofs.Session.Alone
import LintRelay.Proofs.Manifest.Kept
import LintRelay.Proofs.Manifest.Invalidation
import LintRelay.Proofs.CommandLine.Linting
import LintRelay.Proofs.CommandLine.ExitStatus
import LintRelay.Proofs.CommandLine.Batch
import LintRelay.Proofs.Fallible
import LintRelay.Proofs.Value.Entries
import LintRelay.Proofs.Value.Equality
import LintRelay.Proofs.Json.Proper
import LintRelay.Proofs.Yaml.Proper
import LintRelay.Proofs.Config.Laid
import LintRelay.Proofs.Config.Sources
import LintRelay.Proofs.Config.Accepted
import LintRelay.Proofs.Config.Precedence
import LintRelay.Proofs.Config.Homeless
import LintRelay.Proofs.Config.Answers
import LintRelay.Proofs.Finding.Grammar
import LintRelay.Proofs.Finding.Print
import LintRelay.Proofs.Session.Calls
import LintRelay.Proofs.Session.Drain
import LintRelay.Proofs.Text.Pieces
import LintRelay.Proofs.Json.Layout
import LintRelay.Proofs.Manifest.Document
import LintRelay.Proofs.Report.Account
import LintRelay.Proofs.Session.Chronicle
import LintRelay.Proofs.Manifest.Remembered
import LintRelay.Proofs.Manifest.Membership
import LintRelay.Proofs.Manifest.Shape
import LintRelay.Proofs.Finding.Coordinates
import LintRelay.Proofs.Severity.Grading
import LintRelay.Proofs.Path.Text
import LintRelay.Proofs.Keyed
import LintRelay.Proofs.Config.Sound
import LintRelay.Proofs.Config.Loaded
import LintRelay.Proofs.Value.Key
import LintRelay.Proofs.Config.Nested
import LintRelay.Proofs.Config.Merge
import LintRelay.Proofs.Config.Depth
import LintRelay.Proofs.Collection.History
import LintRelay.Proofs.Text.Utf8
import LintRelay.Proofs.Disk.Lookup
import LintRelay.Proofs.Document.Uri
import LintRelay.Proofs.Document.LineEnds
import LintRelay.Proofs.Project.Nearest
import LintRelay.Proofs.Execution.Reaping
import LintRelay.Proofs.Journal.Routing
