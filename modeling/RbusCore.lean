import RbusCore.Lib.CString
import RbusCore.Lib.KeyedList
import RbusCore.Lib.MessagePack
import RbusCore.Lib.Resumption
import RbusCore.Types
import RbusCore.MessageApi
import RbusCore.Message
import RbusCore.MessageQueue
import RbusCore.MetaSection
import RbusCore.TypedGets
import RbusCore.World
import RbusCore.Server
import RbusCore.Registry
import RbusCore.Dispatch
import RbusCore.Client
import RbusCore.Publish
import RbusCore.Connection
import RbusCore.Frames
import RbusCore.Discovery
import RbusCore.DiscoveryResults
import RbusCore.Operations
import RbusCore.ClientTable
import RbusCore.EventDelivery
import RbusCore.RequestFlow
import RbusCore.RequestQueue
import RbusCore.Responses
import RbusCore.ResponseProduction
import RbusCore.ReceivedMessages
import RbusCore.RemoteCalls
import RbusCore.SubscriptionRequests
import RbusCore.EventMessages
import RbusCore.BodyBoundary
import RbusCore.MasterHandler
import RbusCore.RequestFormat
import RbusCore.EventDispatch
import RbusCore.TableLifecycle
import RbusCore.SessionManager
import RbusCore.EventCallbacks
import RbusCore.SubscriptionHandlers
import RbusCore.HandlerInstallation
import RbusCore.MessageOwnership
import RbusCore.MessageLifetime
import RbusCore.NullEventNames
import RbusCore.BusStatus
import RbusCore.SessionEnds
import RbusCore.PublishResults
import RbusCore.Lib.Words
import RbusCore.MethodTables
import RbusCore.RouterAddress
import RbusCore.DebugText
import RbusCore.FifoLaw
import RbusCore.RequestOwnership
import RbusCore.DisconnectHandler
import RbusCore.Cleanup
import RbusCore.Arrivals
import RbusCore.Listeners
import RbusCore.SubscriptionArrivals
import RbusCore.SubscriptionCalls
import RbusCore.SubscriptionProtocol
import RbusCore.SubscribedEvents
import RbusCore.ObjectListeners
import RbusCore.MutexDiscipline
import RbusCore.SessionCalls
