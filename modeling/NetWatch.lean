import NetWatch.Text.Blank
import NetWatch.Text.RangeTable
import NetWatch.Text.Digits
import NetWatch.Text.Hex
import NetWatch.Text.Alphanumeric
import NetWatch.Text.Quoted
import NetWatch.Time.Rfc3339
import NetWatch.Window
import NetWatch.Channel
import NetWatch.Event
import NetWatch.Validation
import NetWatch.Notification.Notifier
import NetWatch.Store.Basic
import NetWatch.Alerting
import NetWatch.Store.Outage
import NetWatch.Notification.Announcement
import NetWatch.Discovery
import NetWatch.Retention
import NetWatch.Execution
import NetWatch.Service
import NetWatch.Settings.Load
import NetWatch.Schema.Migration
import NetWatch.Main
import NetWatch.Proofs.Alerting.Story
import NetWatch.Proofs.Store.Reachable
import NetWatch.Proofs.Alerting.OneAlertPerSpell
import NetWatch.Proofs.Script.Looking
import NetWatch.Proofs.Alerting.Protocol
import NetWatch.Proofs.Alerting.Verdict
import NetWatch.Proofs.Alerting.Lifecycle
import NetWatch.Proofs.Alerting.Posts
import NetWatch.Proofs.Schedule.Cancellation
import NetWatch.Proofs.Execution.GivingUp
import NetWatch.Proofs.Schema.Interruption
import NetWatch.Proofs.Store.Refinement
import NetWatch.Proofs.Store.WindowValidity
import NetWatch.Proofs.Notification.Isolation
import NetWatch.Proofs.Alerting.Bulletins
import NetWatch.Proofs.Settings.Running
import NetWatch.Proofs.Json.Doubles
import NetWatch.Proofs.Json.Records
import NetWatch.Proofs.Notification.Masking
import NetWatch.Proofs.Toml.Strings
import NetWatch.Proofs.Toml.Lines
import NetWatch.Proofs.Settings.RoundTrip
import NetWatch.Proofs.Settings.Saving
import NetWatch.Proofs.Alerting.Effect
import NetWatch.Proofs.Alerting.Commuting
import NetWatch.Proofs.Maintenance.Recurrence
import NetWatch.Proofs.Alerting.Outages
import NetWatch.Proofs.Alerting.Onset
import NetWatch.Proofs.Retention.Cleanup
import NetWatch.Proofs.Store.Listings
import NetWatch.Proofs.Alerting.Groups
import NetWatch.Proofs.Discovery.Provisioning
import NetWatch.Proofs.Time.RoundTrip
import NetWatch.Proofs.Time.Order
import NetWatch.Proofs.Json.Canonical
import NetWatch.Proofs.Notification.Headers
import NetWatch.Proofs.Notification.MaskedText
import NetWatch.Proofs.Notification.WebhookBody
import NetWatch.Proofs.Signature.Spelling
import NetWatch.Proofs.Validation.TcpTarget
import NetWatch.Proofs.Schema.Bookkeeping
import NetWatch.Proofs.Execution.Steps
