import LocalizedMail.Binary64.Basic
import LocalizedMail.Binary64.Layout
import LocalizedMail.Binary64.Shortest
import LocalizedMail.Calendar
import LocalizedMail.CommandLine.Arguments
import LocalizedMail.CommandLine.Help
import LocalizedMail.Event
import LocalizedMail.FileTree
import LocalizedMail.Json.Fault
import LocalizedMail.Json.Reader
import LocalizedMail.Json.Value
import LocalizedMail.Language
import LocalizedMail.Log
import LocalizedMail.Log.Filter
import LocalizedMail.Mail.Backoff
import LocalizedMail.Mail.Envelope
import LocalizedMail.Mail.Fault
import LocalizedMail.Mail.Mailer
import LocalizedMail.Mail.Timeline
import LocalizedMail.Mail.Transport
import LocalizedMail.Main
import LocalizedMail.Metrics
import LocalizedMail.Placeholder
import LocalizedMail.Program
import LocalizedMail.Proofs.Characters
import LocalizedMail.Proofs.Distinct
import LocalizedMail.Proofs.Language
import LocalizedMail.Report
import LocalizedMail.Settings.Basic
import LocalizedMail.Settings.Conversion
import LocalizedMail.Settings.Decode
import LocalizedMail.Settings.Environment
import LocalizedMail.Settings.Fault
import LocalizedMail.Settings.Layers
import LocalizedMail.Settings.Locate
import LocalizedMail.Settings.Path
import LocalizedMail.Settings.Strict
import LocalizedMail.Settings.Value
import LocalizedMail.Settings.VariableFile
import LocalizedMail.Smtp.Client
import LocalizedMail.Smtp.Domain
import LocalizedMail.Smtp.Library
import LocalizedMail.Smtp.Mailbox
import LocalizedMail.Smtp.Offline
import LocalizedMail.Table
import LocalizedMail.Template.Engine
import LocalizedMail.Template.Fault
import LocalizedMail.Template.Name
import LocalizedMail.Template.Store
import LocalizedMail.Template.Subjects
import LocalizedMail.Text.Alphanumeric
import LocalizedMail.Text.Blank
import LocalizedMail.Text.CharRange
import LocalizedMail.Text.LowerCase
import LocalizedMail.Text.Mark
import LocalizedMail.Text.Markup
import LocalizedMail.Text.Number
import LocalizedMail.Text.Punycode
import LocalizedMail.Text.Quoted
import LocalizedMail.Text.Unprintable
import LocalizedMail.Text.UpperCase
import LocalizedMail.Text.Utf8
import LocalizedMail.Text.WordCase
import LocalizedMail.Proofs.Lookup
import LocalizedMail.Proofs.History
import LocalizedMail.Proofs.Interpolation
import LocalizedMail.Proofs.Retry
import LocalizedMail.Proofs.Composing
import LocalizedMail.Proofs.Bulk
import LocalizedMail.Proofs.Abort
import LocalizedMail.Proofs.Recording
import LocalizedMail.Proofs.Accounts
import LocalizedMail.Proofs.Filing
import LocalizedMail.Proofs.Registrations
import LocalizedMail.Proofs.Reloading
import LocalizedMail.Proofs.Confinement
import LocalizedMail.Proofs.Caching
import LocalizedMail.Proofs.Describing
import LocalizedMail.Proofs.Absence
import LocalizedMail.Proofs.Availability
import LocalizedMail.Proofs.Strictness
import LocalizedMail.Proofs.Merging
import LocalizedMail.Proofs.Beside
import LocalizedMail.Proofs.Naming
import LocalizedMail.Proofs.Overrides
import LocalizedMail.Proofs.Sections
import LocalizedMail.Proofs.Variables
import LocalizedMail.Proofs.Resolving
import LocalizedMail.Proofs.Spelling
import LocalizedMail.Proofs.Relisting
import LocalizedMail.Proofs.Gathering
import LocalizedMail.Proofs.Documents
import LocalizedMail.Proofs.Presence
import LocalizedMail.Proofs.Rereading
import LocalizedMail.Proofs.Interleaving
import LocalizedMail.Proofs.Dialogue
import LocalizedMail.Proofs.Drafting
import LocalizedMail.Proofs.Readback
import LocalizedMail.Proofs.Direct
import LocalizedMail.Proofs.Refusals
import LocalizedMail.Proofs.Recipients
import LocalizedMail.Proofs.Balance
import LocalizedMail.Proofs.Clearing
import LocalizedMail.Proofs.Leftmost
import LocalizedMail.Proofs.Supplied
import LocalizedMail.Proofs.Listing
import LocalizedMail.Proofs.Candidates
import LocalizedMail.Proofs.Tables
import LocalizedMail.Proofs.Takeover
import LocalizedMail.Proofs.Rounding
import LocalizedMail.Proofs.Growth
import LocalizedMail.Proofs.Ceiling
import LocalizedMail.Proofs.Unescaping
import LocalizedMail.Proofs.Referring
import LocalizedMail.Proofs.Capitals
import LocalizedMail.Proofs.Words
