import Noire.Lib.Run
import Noire.Native.Supervision
import Noire.Native.Privacy
import Noire.Native.Prompt
import Noire.Native.Catalogue
import Noire.Native.Feedback
import Noire.Native.Tracking
import Noire.Native.Cancellation
import Noire.Store.Rejected
import Noire.Control.Agreement
import Noire.Lib.Prog
import Noire.Lib.Mutex
import Noire.Control.Notifications
import Noire.Control.Meters
import Noire.Lib.Limiter
import Noire.Control.Attached
import Noire.Control.Intent
import Noire.Control.Errors
import Noire.Control.Restart
import Noire.Lib.Binary32
import Noire.Transport.Safety
import Noire.Transport.Fade
import Noire.Live.LockStep
import Noire.Live.Latch
import Noire.Store.Format
import Noire.Store.Crash
import Noire.Control.Newer
import Noire.Control.Versions
import Noire.Live.Resume
import Noire.Recovery.Episodes
import Noire.Graph.Demand
import Noire.Store.Migration
import Noire.Registry.Selection
import Noire.Registry.Labels
import Noire.Native.Capture
import Noire.Transport.Missing
import Noire.Transport.Clicks
import Noire.Ui.Tray
import Noire.Ui.Worker
import Noire.Ui.Window
import Noire.Ui.Replies
import Noire.Ui.Desk
import Noire.Ui.Host
import Noire.Lib.Percentile
import Noire.Live.Timing
import Noire.Live.Deadline
import Noire.Live.Reset
import Noire.Registry.Debounce
import Noire.Lib.DesktopEntry
import Noire.Lib.FrameMachine
import Noire.Model.Offline
import Noire.Ui.Autostart
import Noire.Ui.LoginOwner
import Noire.Dsp.Frames
import Noire.Dsp.Fault
import Noire.Lib.Smoothing
import Noire.Dsp.Arithmetic
import Noire.Dsp.Dereverb
import Noire.Dsp.Delay
import Noire.Dsp.Strength
import Noire.Lib.Hysteresis
import Noire.Dsp.Controllers
import Noire.Model.Adapters
import Noire.Model.Reset
