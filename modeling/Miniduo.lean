import Miniduo.BufferTheorems
import Miniduo.Lib.Separator
import Miniduo.Text
import Miniduo.Http.HttpMsg
import Miniduo.Http.DecodeTheorems
import Miniduo.Http.ChunkTheorems
import Miniduo.Http.SafetyTheorems
import Miniduo.Http.SessionTheorems
import Miniduo.Http.RoundTripTheorems
import Miniduo.Http.HttpServer
import Miniduo.Http.HttpServerTheorems
import Miniduo.EventLoop
import Miniduo.EventLoopTheorems
import Miniduo.Poller
import Miniduo.TcpConnection
import Miniduo.TcpServer
import Miniduo.TcpConnectionTheorems
import Miniduo.PlacementTheorems
import Miniduo.StreamTheorems
import Miniduo.ShutdownTheorems
import Miniduo.OwnershipTheorems
import Miniduo.Lib.DenseTable
import Miniduo.PollPoller
import Miniduo.PollerTheorems
import Miniduo.Logging
import Miniduo.LoggingTheorems
import Miniduo.Http.PathTheorems
import Miniduo.EventLoops
import Miniduo.EventLoopsTheorems
import Miniduo.TaskQueue
import Miniduo.TaskQueueTheorems
import Miniduo.Lib.OrderedSet
import Miniduo.Timer
import Miniduo.TimerTheorems
import Miniduo.TimerLoop
import Miniduo.CancelTheorems
import Miniduo.Http.HttpConnection
import Miniduo.Http.TransferTheorems
import Miniduo.Http.DescriptorTheorems
import Miniduo.StageTheorems
import Miniduo.LifecycleTheorems
import Miniduo.BoundsTheorems
import Miniduo.ShrinkTheorems
import Miniduo.Http.ResponseTheorems
import Miniduo.Http.ProgressTheorems
import Miniduo.Http.FramingTheorems
import Miniduo.BatchTheorems
import Miniduo.Server
import Miniduo.ServerTheorems
import Miniduo.StartTheorems
import Miniduo.NonblockingTheorems
import Miniduo.TeardownTheorems
import Miniduo.PollPollerTheorems
import Miniduo.Http.RecordTheorems
import Miniduo.NameTheorems
import Miniduo.UniquenessTheorems
import Miniduo.BalanceTheorems
import Miniduo.ChannelTheorems
import Miniduo.EventPoll
import Miniduo.DispatchTheorems
import Miniduo.Lib.Simulation
import Miniduo.Lib.FixedWidth
import Miniduo.LogFile
import Miniduo.LogFileTheorems
import Miniduo.RotateTheorems
import Miniduo.Callbacks
import Miniduo.ConversationTheorems
import Miniduo.EchoTheorems
import Miniduo.TimelyTheorems
import Miniduo.AssertionTheorems
import Miniduo.Http.HttpCallbacks
import Miniduo.Http.RefinementTheorems
import Miniduo.Http.FaultTheorems
