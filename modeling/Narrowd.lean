import Narrowd.Lib.Run
import Narrowd.Lib.Table
import Narrowd.Lib.Lock
import Narrowd.Lib.Budget
import Narrowd.Basic.Time
import Narrowd.Basic.Net
import Narrowd.Admission.Spec
import Narrowd.Admission.Guards
import Narrowd.Admission.Runs
import Narrowd.Lib.Window
import Narrowd.Admission.Bans
import Narrowd.Admission.Rate
import Narrowd.AuthorizedKeys.Cache
import Narrowd.AuthorizedKeys.State
import Narrowd.AuthorizedKeys.Reload
import Narrowd.Sshd.Auth
import Narrowd.Sshd.AuthRuns
import Narrowd.Basic.Path
import Narrowd.Config.AppConfig
import Narrowd.Admission.Clock
import Narrowd.Sshd.Preauth
import Narrowd.Sshd.Clock
import Narrowd.Sshd.Listener
import Narrowd.Executor.Messages
import Narrowd.Executor.Control
import Narrowd.Executor.Client
import Narrowd.Executor.Process
import Narrowd.Executor.Pending
import Narrowd.Executor.Flight
import Narrowd.Executor.Isolation
import Narrowd.Sshd.Deadlines
import Narrowd.Sshd.Serve
import Narrowd.Executor.Session
import Narrowd.Services.Relay
import Narrowd.Services.Conservation
import Narrowd.Services.Progress
import Narrowd.Services.Child
import Narrowd.Services.Piped
import Narrowd.Services.Pty
import Narrowd.Services.Processes
import Narrowd.Executor.Forwards
import Narrowd.Executor.Exchange
import Narrowd.Executor.Dispatch
import Narrowd.Sshd.Forwards
import Narrowd.Lib.Ownership
import Narrowd.Executor.Cancellation
import Narrowd.Sshd.Leaks
import Narrowd.Admission.Sweeps
import Narrowd.Admission.Rejections
import Narrowd.Admission.Recent
import Narrowd.Admission.Subnets
import Narrowd.Sshd.Gauge
import Narrowd.Lib.Eviction
import Narrowd.Logging.Limiter
import Narrowd.Logging.Rotation
import Narrowd.Logging.Summaries
import Narrowd.Services.EndOfInput
import Narrowd.Config.Quantities
import Narrowd.Sshd.KexStart
import Narrowd.Lib.Words
import Narrowd.Config.Settings
import Narrowd.Config.LastSetting
import Narrowd.Config.SessionLauncher
import Narrowd.Lib.Lexical
import Narrowd.Basic.UnixPath
import Narrowd.Sftp.Paths
import Narrowd.Sftp.Symlink
import Narrowd.Logging.Files
import Narrowd.Lib.SortedMap
import Narrowd.Sshd.Channels
import Narrowd.Executor.Withdrawal
import Narrowd.Sshd.Refusals
import Narrowd.Lib.Ledger
import Narrowd.Lib.Numerals
import Narrowd.Sftp.Handles
import Narrowd.Basic.NetText
import Narrowd.Metrics
import Narrowd.Lib.Extent
import Narrowd.Sftp.Files
import Narrowd.Sandbox.Seccomp
import Narrowd.Sandbox.Confinement
import Narrowd.Admission.Pace
import Narrowd.Sshd.HostKey
import Narrowd.Windows.Service
import Narrowd.Executor.Lifetime
import Narrowd.Lib.FileTree
import Narrowd.Sftp.Lookup
import Narrowd.Services.Failures
import Narrowd.Sshd.ProcessInput
