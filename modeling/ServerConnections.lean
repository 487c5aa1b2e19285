import ServerConnections.Action
import ServerConnections.Connection.Basic
import ServerConnections.Connection.Lists
import ServerConnections.Domain.Name
import ServerConnections.Domain.Punycode
import ServerConnections.Domain.Table
import ServerConnections.Files.Basic
import ServerConnections.Files.Path
import ServerConnections.Host.Bench
import ServerConnections.Host.Desktop
import ServerConnections.Host.RecordedKeyring
import ServerConnections.Host.ScriptedServer
import ServerConnections.Json.Binary64
import ServerConnections.Json.Form
import ServerConnections.Json.Print
import ServerConnections.Json.Read
import ServerConnections.Json.Scan
import ServerConnections.Json.Shortest
import ServerConnections.Json.Value
import ServerConnections.Keyed
import ServerConnections.Proofs.Action
import ServerConnections.Proofs.Address
import ServerConnections.Proofs.Bench
import ServerConnections.Proofs.Connection
import ServerConnections.Proofs.Files.Admits
import ServerConnections.Proofs.Json.Kept
import ServerConnections.Proofs.Json.Lexical
import ServerConnections.Proofs.Json.Reading
import ServerConnections.Proofs.Json.Spelling
import ServerConnections.Proofs.Json.Taking
import ServerConnections.Proofs.Keyed
import ServerConnections.Proofs.Matching
import ServerConnections.Proofs.Migration.Additions
import ServerConnections.Proofs.Migration.Endings
import ServerConnections.Proofs.Migration.FormerCloud
import ServerConnections.Proofs.Migration.Names
import ServerConnections.Proofs.Migration.Organizations
import ServerConnections.Proofs.Migration.PlainToken
import ServerConnections.Proofs.Migration.Plan
import ServerConnections.Proofs.Migration.Repeat
import ServerConnections.Proofs.Migration.Report
import ServerConnections.Proofs.Migration.Unmigrated
import ServerConnections.Proofs.Migration.Vault
import ServerConnections.Proofs.Registry.Announcements
import ServerConnections.Proofs.Registry.Calls
import ServerConnections.Proofs.Registry.DefaultIds
import ServerConnections.Proofs.Registry.Effect
import ServerConnections.Proofs.Registry.Endings
import ServerConnections.Proofs.Registry.Failure
import ServerConnections.Proofs.Registry.FormerKeys
import ServerConnections.Proofs.Registry.Frame
import ServerConnections.Proofs.Registry.Independence
import ServerConnections.Proofs.Registry.Location
import ServerConnections.Proofs.Registry.Matching
import ServerConnections.Proofs.Registry.Outcome
import ServerConnections.Proofs.Registry.Ownership
import ServerConnections.Proofs.Registry.Plan
import ServerConnections.Proofs.Registry.ReadBack
import ServerConnections.Proofs.Registry.Rejection
import ServerConnections.Proofs.Registry.Repetition
import ServerConnections.Proofs.Registry.Session
import ServerConnections.Proofs.Registry.Steps
import ServerConnections.Proofs.Registry.Submission
import ServerConnections.Proofs.Registry.Undo
import ServerConnections.Proofs.Registry.Unsaved
import ServerConnections.Proofs.Registry.WellFormed
import ServerConnections.Proofs.Registry.Written
import ServerConnections.Proofs.Secrets.ReadBack
import ServerConnections.Proofs.Secrets.Services
import ServerConnections.Proofs.Server.Health
import ServerConnections.Proofs.Server.Spelling
import ServerConnections.Proofs.Settings.Backup
import ServerConnections.Proofs.Settings.File
import ServerConnections.Proofs.Settings.Refinement
import ServerConnections.Proofs.Settings.RoundTrip
import ServerConnections.Proofs.Settings.Save
import ServerConnections.Proofs.Tokens.Document
import ServerConnections.Proofs.Tokens.Handed
import ServerConnections.Proofs.Tokens.Map
import ServerConnections.Proofs.Tokens.Secrecy
import ServerConnections.Proofs.Tokens.Shown
import ServerConnections.Proofs.Tokens.Survival
import ServerConnections.Registry.Basic
import ServerConnections.Registry.Edit
import ServerConnections.Registry.Migration
import ServerConnections.Secrets.Keychain
import ServerConnections.Secrets.Store
import ServerConnections.Server.Classifier
import ServerConnections.Server.Request
import ServerConnections.Settings.Document
import ServerConnections.Settings.File
import ServerConnections.Settings.Options
import ServerConnections.Settings.Storage
import ServerConnections.Text.Blank
import ServerConnections.Text.Canonical.Form
import ServerConnections.Text.Canonical.Table
import ServerConnections.Text.CodePoints
import ServerConnections.Text.Lossy
import ServerConnections.Text.Property
import ServerConnections.Text.Split
import ServerConnections.Text.Visible
import ServerConnections.Url.Authority
import ServerConnections.Url.Basic
import ServerConnections.Url.Ip
import ServerConnections.Url.Path
import ServerConnections.Url.Reference
