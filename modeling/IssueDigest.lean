import IssueDigest.Calendar.Date
import IssueDigest.Calendar.Iso
import IssueDigest.Cli.Arguments
import IssueDigest.Cli.Request
import IssueDigest.Cli.Run
import IssueDigest.Cli.Usage
import IssueDigest.Dedup.Bucket
import IssueDigest.Dedup.Run
import IssueDigest.Dismissal.Open
import IssueDigest.Dismissal.Record
import IssueDigest.Dismissal.Store
import IssueDigest.Document.Check
import IssueDigest.Document.Listing
import IssueDigest.Document.Read
import IssueDigest.Document.Value
import IssueDigest.Fault
import IssueDigest.Host.Disk
import IssueDigest.Host.Path
import IssueDigest.Host.Server
import IssueDigest.Host.World
import IssueDigest.Issue.Basic
import IssueDigest.Issue.Key
import IssueDigest.Issue.Severity
import IssueDigest.Journal.Basic
import IssueDigest.Journal.Layout
import IssueDigest.Journal.Report
import IssueDigest.Journal.Scrub
import IssueDigest.Json.Reader
import IssueDigest.Json.Value
import IssueDigest.Json.Writer
import IssueDigest.Main
import IssueDigest.Number.Binary
import IssueDigest.Number.Floating
import IssueDigest.Number.Numeral
import IssueDigest.Number.Shortest
import IssueDigest.Permission
import IssueDigest.Proofs.Actions
import IssueDigest.Proofs.Alignment
import IssueDigest.Proofs.AlignmentEffect
import IssueDigest.Proofs.Backends
import IssueDigest.Proofs.Fleet
import IssueDigest.Proofs.LostUpdates
import IssueDigest.Proofs.Separation
import IssueDigest.Proofs.Buckets
import IssueDigest.Proofs.Digits
import IssueDigest.Proofs.FileWriting
import IssueDigest.Proofs.KeyText
import IssueDigest.Proofs.Ledger
import IssueDigest.Proofs.Moments
import IssueDigest.Proofs.Octets
import IssueDigest.Proofs.RecordText
import IssueDigest.Proofs.Stores
import IssueDigest.Proofs.Listings
import IssueDigest.Proofs.Survivors
import IssueDigest.Proofs.Tables
import IssueDigest.Proofs.Taken
import IssueDigest.Settings.Basic
import IssueDigest.Settings.Current
import IssueDigest.Settings.Load
import IssueDigest.Settings.VariableFile
import IssueDigest.Table
import IssueDigest.Text.Base64
import IssueDigest.Text.Blank
import IssueDigest.Text.Case
import IssueDigest.Text.CodePoint
import IssueDigest.Text.Digit
import IssueDigest.Text.Percent
import IssueDigest.Text.Printable
import IssueDigest.Text.Quoted
import IssueDigest.Text.Utf8
import IssueDigest.Text.Word
import IssueDigest.Yaml.Atom
import IssueDigest.Yaml.Cursor
import IssueDigest.Yaml.Graph
import IssueDigest.Yaml.Lexer
import IssueDigest.Yaml.Merge
import IssueDigest.Yaml.Name
import IssueDigest.Yaml.Object
import IssueDigest.Yaml.Scalar
import IssueDigest.Yaml.Tag
import IssueDigest.Yaml.Token
import IssueDigest.Proofs.SecondRun
import IssueDigest.Proofs.Secrets
import IssueDigest.Proofs.Scrubbing
import IssueDigest.Proofs.OpenAddresses
import IssueDigest.Proofs.Closing
import IssueDigest.Proofs.Printout
import IssueDigest.Proofs.KeyReading
import IssueDigest.Proofs.Reach
import IssueDigest.Proofs.Blocks
import IssueDigest.Proofs.Batching
import IssueDigest.Proofs.FailedWrites
import IssueDigest.Proofs.Opening
import IssueDigest.Proofs.Outages
import IssueDigest.Proofs.Errands
import IssueDigest.Proofs.Interruption
import IssueDigest.Proofs.Retry
import IssueDigest.Proofs.FailedChanges
import IssueDigest.Proofs.Layouts
import IssueDigest.Proofs.Garbled
import IssueDigest.Proofs.Provenance
import IssueDigest.Proofs.Footprint
import IssueDigest.Proofs.Rerun
import IssueDigest.Proofs.Choosing
import IssueDigest.Proofs.SamePicture
import IssueDigest.Proofs.Reordering
import IssueDigest.Proofs.OwnResult
import IssueDigest.Proofs.Checks
import IssueDigest.Proofs.Documents
import IssueDigest.Proofs.Endings
import IssueDigest.Proofs.Configuration
import IssueDigest.Proofs.Literals
import IssueDigest.Proofs.KeyGrammar
import IssueDigest.Proofs.References
import IssueDigest.Proofs.Requests
import IssueDigest.Proofs.Malformed
import IssueDigest.Proofs.Summaries
import IssueDigest.Proofs.Attempts
import IssueDigest.Proofs.Canonical
import IssueDigest.Proofs.Discretion
import IssueDigest.Proofs.Nesting
import IssueDigest.Proofs.CutFiles
import IssueDigest.Proofs.Partition
import IssueDigest.Proofs.Fallback
import IssueDigest.Proofs.Letters
import IssueDigest.Proofs.Respelling
import IssueDigest.Proofs.InForce
