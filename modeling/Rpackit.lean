import Rpackit.Library.Text
import Rpackit.Library.Utf8
import Rpackit.Library.Multimap
import Rpackit.Library.Fallible
import Rpackit.Library.FileTree
import Rpackit.Library.WindowsPath
import Rpackit.Library.Poll
import Rpackit.Library.Runs
import Rpackit.Library.AsyncRead
import Rpackit.Library.ReadLayer
import Rpackit.Library.TokenBucket
import Rpackit.Library.WebUrl
import Rpackit.Library.CommandLineRules
import Rpackit.Library.KeyedList
import Rpackit.Transport.Http
import Rpackit.Transport.State
import Rpackit.Transport.Admission
import Rpackit.Transport.ConnectionTokens
import Rpackit.Transport.Admitted
import Rpackit.Transport.AdmittedExactly
import Rpackit.Transport.Secrecy
import Rpackit.Transport.RequestLine
import Rpackit.Transport.Cookie
import Rpackit.Transport.CookiePolicy
import Rpackit.Transport.RequestBody
import Rpackit.Transport.ResponseBody
import Rpackit.Transport.BodyGuard
import Rpackit.Transport.StallWatch
import Rpackit.Transport.RequestStream
import Rpackit.Transport.ResponseFilter
import Rpackit.Transport.Backpressure
import Rpackit.Transport.SizeHints
import Rpackit.Transport.TimerReset
import Rpackit.Transport.RateFloor
import Rpackit.Transport.Proxy.Request
import Rpackit.Transport.Proxy.Response
import Rpackit.Transport.Proxy.Normalized
import Rpackit.Transport.Proxy.WebSocket
import Rpackit.Transport.Proxy.Handler
import Rpackit.Transport.Upgrade
import Rpackit.Transport.Gate
import Rpackit.Transport.Connection
import Rpackit.Transport.ReplayIo
import Rpackit.Transport.Bootstrap
import Rpackit.Transport.UpstreamRequest
import Rpackit.Transport.ResponseGuardIo
import Rpackit.Transport.Permits
import Rpackit.Transport.TrackedTasks
import Rpackit.Transport.ShutdownResult
import Rpackit.Library.CookieJar
import Rpackit.Transport.Browser
import Rpackit.Transport.ResponseStream
import Rpackit.Transport.ResponseHead
import Rpackit.Transport.ContentCodings
import Rpackit.Transport.ContentDecoding
import Rpackit.Transport.WebSocketIo
import Rpackit.Transport.IdleWatch
import Rpackit.Transport.TunnelFlow
import Rpackit.Transport.Hostname
import Rpackit.Transport.Listeners
import Rpackit.Transport.Redirect
import Rpackit.Bundle.Manifest
import Rpackit.Bundle.References
import Rpackit.Bundle.Validate
import Rpackit.Bundle.Containment
import Rpackit.Launcher.Protocol
import Rpackit.Lifecycle.Monitor
import Rpackit.Lifecycle.Values
import Rpackit.Lifecycle.Command
import Rpackit.Lifecycle.Interpreter
import Rpackit.Library.Program
import Rpackit.Library.Interleaving
import Rpackit.Lifecycle.Native
import Rpackit.Lifecycle.Owner
import Rpackit.Lifecycle.Frame
import Rpackit.Lifecycle.Record
import Rpackit.Lifecycle.Progress
import Rpackit.Lifecycle.Gates
import Rpackit.Lifecycle.Cleanup
import Rpackit.Lifecycle.Readiness
import Rpackit.Lifecycle.Launch
import Rpackit.Lifecycle.Identity
import Rpackit.Launcher.Chunks
import Rpackit.Launcher.Tracker
import Rpackit.Lifecycle.Delivery
import Rpackit.Lifecycle.Shutdown
import Rpackit.Lifecycle.Release
import Rpackit.Lifecycle.Graceful
import Rpackit.Lifecycle.Health
import Rpackit.Lifecycle.Deadline
import Rpackit.Lifecycle.Desktop
import Rpackit.Lifecycle.AppLaunch
import Rpackit.Launcher.EventShape
import Rpackit.Launcher.DecoderCalls
import Rpackit.Windows.Values
import Rpackit.Windows.CommandLine
import Rpackit.Windows.Environment
import Rpackit.Windows.ProcessEnvironment
import Rpackit.Windows.ListenerTable
import Rpackit.Windows.PrivateFs
import Rpackit.Windows.SessionCreate
import Rpackit.Lifecycle.Environment
import Rpackit.Lifecycle.Listener
import Rpackit.Webview.Profile
import Rpackit.Webview.Startup
import Rpackit.Spike.RuntimeDigest
import Rpackit.Spike.TreeSha256
import Rpackit.Windows.JobLaunch
import Rpackit.Windows.JobUses
import Rpackit.Webview.Owner
import Rpackit.Lifecycle.AppReport
import Rpackit.Lifecycle.Faults
import Rpackit.Shell.Options
import Rpackit.Shell.Runs
