import MailDispatch.Main
import MailDispatch.Session.Raising
import MailDispatch.Session.TraceScript
import MailDispatch.Proofs.Journal.Contract
import MailDispatch.Proofs.Session.Contract
import MailDispatch.Proofs.Task.Endpoint
import MailDispatch.Proofs.Delivery.Contract
import MailDispatch.Proofs.Delivery.Isolation
import MailDispatch.Proofs.Task.Failures
import MailDispatch.Proofs.Task.Entries
import MailDispatch.Proofs.Message.Filenames
import MailDispatch.Proofs.Delivery.Reporting
import MailDispatch.Proofs.Address.Ending
import MailDispatch.Proofs.Address.Scan
import MailDispatch.Proofs.Address.Item
import MailDispatch.Proofs.Address.Sequence
import MailDispatch.Proofs.Address.Surroundings
import MailDispatch.Proofs.Address.Joined
import MailDispatch.Proofs.Message.Composition
import MailDispatch.Proofs.Message.Recipients
import MailDispatch.Proofs.Message.LineBreaks
import MailDispatch.Proofs.Message.Base64
import MailDispatch.Proofs.Message.Disposition
import MailDispatch.Proofs.Session.Course
import MailDispatch.Proofs.Delivery.Course
import MailDispatch.Proofs.Delivery.Progress
import MailDispatch.Proofs.Delivery.Receipt
import MailDispatch.Proofs.Journal.Alike
import MailDispatch.Proofs.Task.Password
import MailDispatch.Proofs.Delivery.Secrecy
import MailDispatch.Proofs.FileTree.Path
import MailDispatch.Proofs.FileTree.Resolution
import MailDispatch.Proofs.FileTree.Agreement
import MailDispatch.Proofs.Workspace.Locating
import MailDispatch.Proofs.Workspace.Containment
import MailDispatch.Proofs.FileTree.Following
import MailDispatch.Proofs.Workspace.Forbidden
import MailDispatch.Proofs.Delivery.Confinement
import MailDispatch.Proofs.Session.Lifecycle
import MailDispatch.Proofs.Session.Overlap
import MailDispatch.Proofs.Session.Transcript
import MailDispatch.Proofs.Delivery.History
import MailDispatch.Proofs.Text.Utf8
import MailDispatch.Proofs.Text.Trim
import MailDispatch.Proofs.Toml.Text
import MailDispatch.Proofs.Toml.Number
import MailDispatch.Proofs.Toml.Value
import MailDispatch.Proofs.Toml.Document
import MailDispatch.Proofs.FileTree.Writing
import MailDispatch.Proofs.Operator.Layout
import MailDispatch.Proofs.Operator.File
import MailDispatch.Proofs.Message.Contents
import MailDispatch.Proofs.Operator.Counterpart
import MailDispatch.Proofs.Operator.Loading
import MailDispatch.Proofs.Delivery.Refusal
import MailDispatch.Proofs.CommandLine.Loading
import MailDispatch.Proofs.Task.Lookups
import MailDispatch.Proofs.Task.Provenance
import MailDispatch.Proofs.Setting.Spelling
import MailDispatch.Proofs.Operator.Spelling
import MailDispatch.Proofs.Task.Defaults
import MailDispatch.Proofs.Operator.DottedKeys
import MailDispatch.Proofs.Delivery.Lookups
import MailDispatch.Proofs.Message.Identifier
import MailDispatch.Proofs.Address.Between
import MailDispatch.Proofs.Address.Delimited
import MailDispatch.Proofs.CommandLine.Report
import MailDispatch.Proofs.CommandLine.Delivery
import MailDispatch.Proofs.CommandLine.Status
import MailDispatch.Proofs.Text.Runs
import MailDispatch.Proofs.Template.Splitting
import MailDispatch.Proofs.Task.Body
