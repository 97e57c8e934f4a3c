import Mir.Client.Accounting
import Mir.Client.BufferFactory
import Mir.Client.BufferProtocol
import Mir.Client.Conversation
import Mir.Client.FrameClock
import Mir.Client.FrameTimes
import Mir.Client.NoTLSFuture
import Mir.Client.PendingCalls
import Mir.Client.SwapCompletion
import Mir.Compositor.ClientOwned
import Mir.Compositor.CompositingFunctor
import Mir.Compositor.FrameDroppingPolicy
import Mir.Compositor.FrameOrder
import Mir.Compositor.Interleaving
import Mir.Compositor.Occlusion
import Mir.Compositor.ScreencastSession
import Mir.Compositor.ServerFrames
import Mir.Compositor.StaleFrames
import Mir.Compositor.TextureCache
import Mir.Cookie.Authority
import Mir.Dispatch.ActionQueue
import Mir.Dispatch.Shutdown
import Mir.Dispatch.WatchSteps
import Mir.Frontend.CreateSurface
import Mir.Frontend.Descriptors
import Mir.Frontend.FailedCreation
import Mir.Frontend.Framing
import Mir.Frontend.GammaCurves
import Mir.Frontend.ReorderingSender
import Mir.Frontend.Responses
import Mir.Geometry.Confinement
import Mir.Graphics.Bypass
import Mir.Graphics.ConfigurationPolicy
import Mir.Graphics.DisplayBuffer
import Mir.Graphics.DisplaySettings
import Mir.Graphics.FailedModeSets
import Mir.Graphics.GroupingOrder
import Mir.Graphics.HardwareCursor
import Mir.Graphics.KMSConfiguration
import Mir.Graphics.KMSDisplay
import Mir.Graphics.OutputGrouping
import Mir.Graphics.PageFlipper
import Mir.Graphics.ScanoutFrames
import Mir.Graphics.SoftwareCursor
import Mir.Input.Buttons
import Mir.Input.ComposeSequences
import Mir.Input.ConfigSelection
import Mir.Input.ConfigSerialization
import Mir.Input.Gestures
import Mir.Input.HubSettles
import Mir.Input.InjectedTimes
import Mir.Input.KeyRepeat
import Mir.Input.KeyStream
import Mir.Input.Paused
import Mir.Input.SeatState
import Mir.Input.StuckModifiers
import Mir.Input.TouchFrames
import Mir.Input.TouchRoundTrip
import Mir.Library.PointUpdate
import Mir.Library.Roster
import Mir.Library.Rounding
import Mir.MainLoop.AlarmPromises
import Mir.MainLoop.FdHandlers
import Mir.MainLoop.PausedActions
import Mir.MainLoop.Reentry
import Mir.Observer.ListDeadlock
import Mir.Observer.ListSound
import Mir.Observer.Multiplexer
import Mir.Scene.BufferAllocation
import Mir.Scene.CompositedScene
import Mir.Scene.NotRespondingOrder
import Mir.Scene.Preview
import Mir.Scene.PreviewLocks
import Mir.Scene.PromptSessionLives
import Mir.Scene.Rollback
import Mir.Scene.Selection
import Mir.Scene.SurfaceCreation
import Mir.Scene.Visibility
import Mir.Server.EmergencyCleanup
import Mir.Shell.ConstrainedSizes
import Mir.Shell.Fullscreen
import Mir.Shell.InteractiveResize
import Mir.Shell.ModifiedSizes
import Mir.Shell.PersistentSurfaceStore
import Mir.Shell.RestoredGeometry
import Mir.Shell.SessionClose
import Mir.Shell.SizeConstraints
import Mir.Shell.SurfaceAfter
import Mir.Shell.WindowGeometry
import Mir.Thread.LockCounts
import Mir.Thread.PoolRuns
