import MosaicCore.Library.EffectProgram
import MosaicCore.Library.EventRun
import MosaicCore.Library.EndlessRun
import MosaicCore.Library.StatementTrace
import MosaicCore.Library.ThrowingSteps
import MosaicCore.Library.OrderedMap
import MosaicCore.Library.Registration
import MosaicCore.Library.FirstFault
import MosaicCore.Library.VirtualDispatch
import MosaicCore.Library.Typestate
import MosaicCore.Core.Fault
import MosaicCore.Handlers.DataChannelHandler
import MosaicCore.Handlers.SendQueue
import MosaicCore.Handlers.SendQueueSessions
import MosaicCore.Handlers.SendAfterReconnect
import MosaicCore.Handlers.ConnectionCheck
import MosaicCore.Core.World
import MosaicCore.Core.PeerConnectionManager
import MosaicCore.Core.ConnectorRun
import MosaicCore.Core.RoutineRules
import MosaicCore.Core.Session
import MosaicCore.Core.SignalingSide
import MosaicCore.Core.HandlerSide
import MosaicCore.Core.Lifecycle
import MosaicCore.Core.SessionRuns
import MosaicCore.Core.Shutdown
import MosaicCore.Core.Statements
import MosaicCore.Core.ThrowingHandlers
import MosaicCore.Core.Resources
import MosaicCore.Core.Lifetimes
import MosaicCore.Core.TwoAgents
import MosaicCore.Core.ClosingWithCallbacks
import MosaicCore.Core.PeerMoves
import MosaicCore.Core.RequestedCalls
import MosaicCore.Core.Handshake
import MosaicCore.Core.PeerCalls
import MosaicCore.Core.AfterShutdown
import MosaicCore.Core.StateThreads
import MosaicCore.Core.StoppingWorker
import MosaicCore.Core.Negotiation
import MosaicCore.Core.MediaTracks
import MosaicCore.Core.VideoSources
import MosaicCore.Signaling.Json
import MosaicCore.Signaling.SignalingClient
import MosaicCore.Signaling.SignalingRun
import MosaicCore.Signaling.Announcements
import MosaicCore.Signaling.FailingSends
import MosaicCore.Signaling.Requests
import MosaicCore.Signaling.Startup
import MosaicCore.Signaling.Stopped
import MosaicCore.Signaling.Reconnecting
import MosaicCore.Signaling.ConnectionFlags
import MosaicCore.Signaling.SessionIds
import MosaicCore.Signaling.Replies
import MosaicCore.Signaling.Answers
import MosaicCore.Signaling.Candidates
import MosaicCore.Signaling.AnsweredOffers
import MosaicCore.Signaling.Authentication
import MosaicCore.Signaling.StateReports
import MosaicCore.Core.HandlerDicts
import MosaicCore.AutoConfigurer.Configurers
import MosaicCore.AutoConfigurer.Registries
import MosaicCore.AutoConfigurer.BadConnectors
import MosaicCore.Core.ChannelBinding
import MosaicCore.Handlers.VideoRecorder
import MosaicCore.Handlers.Recordable
import MosaicCore.Handlers.RecorderSettings
import MosaicCore.Handlers.RecordingNames
import MosaicCore.Handlers.CameraTrack
import MosaicCore.Handlers.CameraThreads
import MosaicCore.Handlers.CameraFrames
import MosaicCore.Handlers.StoppingCamera
import MosaicCore.Handlers.HandlerDestruction
import MosaicCore.Handlers.VideoFrames
import MosaicCore.Core.ChannelObservers
import MosaicCore.Core.IceServers
import MosaicCore.AutoConfigurer.Yaml
import MosaicCore.AutoConfigurer.YamlConfigReader
import MosaicCore.AutoConfigurer.ConfigLayout
import MosaicCore.AutoConfigurer.MalformedConfigs
import MosaicCore.AutoConfigurer.ConnectorCreation
import MosaicCore.AutoConfigurer.AutoConfigure
import MosaicCore.AutoConfigurer.CleanFailures
import MosaicCore.AutoConfigurer.FromFile
import MosaicCore.Python.JsonCaster
import MosaicCore.Python.JsonRoundTrip
