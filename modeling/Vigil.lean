import Vigil.SortedMap
import Vigil.Text.Blank
import Vigil.Text.Quoted
import Vigil.Decimal.Nearest
import Vigil.Decimal.Layout
import Vigil.Json.Printer
import Vigil.Json.Reader
import Vigil.Toml.Document
import Vigil.Toml.Excerpt
import Vigil.Settings.Decode
import Vigil.Settings.Json
import Vigil.Settings.Load
import Vigil.Settings.Report
import Vigil.Toggles
import Vigil.Notice
import Vigil.Handler.Basic
import Vigil.Handler.Json
import Vigil.Watchdog.Basic
import Vigil.Rehearsal.Stage
import Vigil.Rehearsal.Directory
import Vigil.Command.Run
import Vigil.Main
import Vigil.Text.Alphanumeric
import Vigil.Text.Terminal
import Vigil.Pattern.Value
import Vigil.Proofs.Watchdog.Act
import Vigil.Proofs.Watchdog.Session
import Vigil.Proofs.Watchdog.Replay
import Vigil.Proofs.Watchdog.Streaks
import Vigil.Proofs.Watchdog.Related
import Vigil.Proofs.Watchdog.Alike
import Vigil.Proofs.Watchdog.Grammar
import Vigil.Proofs.Watchdog.Stopping
import Vigil.Proofs.Watchdog.Threads
import Vigil.Proofs.Watchdog.Answers
import Vigil.Proofs.Watchdog.Lifetime
import Vigil.Proofs.Watchdog.HandlerCalls
import Vigil.Proofs.Watchdog.Remediation
import Vigil.Proofs.Watchdog.Enforcement
import Vigil.Proofs.Watchdog.Moments
import Vigil.Proofs.Watchdog.Conservation
import Vigil.Proofs.Watchdog.Fairness
import Vigil.Proofs.Watchdog.Disabled
import Vigil.Proofs.Watchdog.Detection
import Vigil.Proofs.Watchdog.Earlier
import Vigil.Proofs.Watchdog.Firing
import Vigil.Proofs.Retirement
import Vigil.Proofs.Payload
import Vigil.Proofs.Text.Scan
import Vigil.Proofs.Text.Reads
import Vigil.Proofs.Text.Order
import Vigil.Proofs.Json.Grammar
import Vigil.Proofs.Json.Reader
import Vigil.Proofs.Json.Printer
import Vigil.Proofs.Toml.Proper
import Vigil.Proofs.Toml.Value
import Vigil.Proofs.Settings.Decode
import Vigil.Proofs.Settings.Report
import Vigil.Proofs.Settings.Load
import Vigil.Proofs.Registration
import Vigil.Proofs.Watchdog.Accounting
import Vigil.Proofs.Toggles
import Vigil.Proofs.Command.Arguments
import Vigil.Proofs.Command.Logging
import Vigil.Proofs.Strikes
import Vigil.Proofs.Verdict
import Vigil.Proofs.Settings.Listing
