import KonsanNet.CacheManager
import KonsanNet.Linked
import KonsanNet.QueueData
import KonsanNet.QueueFifo
import KonsanNet.Packet
import KonsanNet.SeqList
import KonsanNet.RecvPacket
import KonsanNet.RecvScan
import KonsanNet.RecvInv
import KonsanNet.RecvOwn
import KonsanNet.RecvBytes
import KonsanNet.Run
import KonsanNet.Dispatch
import KonsanNet.DispatchInv
import KonsanNet.Send
import KonsanNet.SendInv
import KonsanNet.Lifecycle
import KonsanNet.Descriptor
import KonsanNet.Close
import KonsanNet.CloseInv
import KonsanNet.LockOrder
import KonsanNet.ServerLocks
import KonsanNet.ServerLocksInv
import KonsanNet.Wire
import KonsanNet.Epoll
import KonsanNet.WriteEvent
import KonsanNet.WriteEventInv
import KonsanNet.MemoryCache
import KonsanNet.MemoryCacheInv
import KonsanNet.CachePool
import KonsanNet.CachePoolInv
import KonsanNet.DataParser
import KonsanNet.RPCObjects
import KonsanNet.RPCObjectsInv
import KonsanNet.ProxyPools
import KonsanNet.ProxyPoolsInv
import KonsanNet.Sessions
import KonsanNet.SessionsInv
import KonsanNet.ProxyRequests
import KonsanNet.ProxyRequestsInv
import KonsanNet.RecvThreads
import KonsanNet.RecvThreadsInv
import KonsanNet.Queue
import KonsanNet.QueueInv
import KonsanNet.TaskPool
import KonsanNet.TaskPoolInv
import KonsanNet.PosixFile
import KonsanNet.File64
import KonsanNet.FileDownload
import KonsanNet.Memory
import KonsanNet.TcpClient
import KonsanNet.TcpClientInv
import KonsanNet.MessageReply
import KonsanNet.FileDownloadInv
import KonsanNet.Blocks
import KonsanNet.ProxyRead
import KonsanNet.ProxyReadInv
import KonsanNet.ProxyConnect
import KonsanNet.ProxyConnectInv
import KonsanNet.TimeoutSweep
import KonsanNet.ReadList
import KonsanNet.ReadListInv
import KonsanNet.RecvCalls
import KonsanNet.ParserStores
import KonsanNet.PacketRoom
import KonsanNet.RsaRoom
import KonsanNet.ClientBuffers
import KonsanNet.ClientBuffersInv
import KonsanNet.ClientRecv
import KonsanNet.ClientRecvInv
import KonsanNet.LoginPacket
import KonsanNet.SendOwn
import KonsanNet.SendOwnInv
import KonsanNet.SizeLimits
import KonsanNet.TaskObjects
import KonsanNet.IOStat
import KonsanNet.ThreadPool
import KonsanNet.ThreadTasks
import KonsanNet.ResizePool
import KonsanNet.StepBuffers
import KonsanNet.OpenChannel
import KonsanNet.QueueNodes
import KonsanNet.QueueClear
import KonsanNet.TimedWait
import KonsanNet.KeyFile
import KonsanNet.SeqChain
import KonsanNet.Guid
import KonsanNet.LogFile
import KonsanNet.BlockBuild
import KonsanNet.RsaLoops
import KonsanNet.ThreadCache
import KonsanNet.Requests
import KonsanNet.RequestsInv
import KonsanNet.ReplyStream
import KonsanNet.RequestStream
import KonsanNet.EndToEnd
import KonsanNet.RemoteFile
import KonsanNet.RemoteFileInv
import KonsanNet.RemoteFileRun
import KonsanNet.MessageQueue
import KonsanNet.MessageQueueInv
import KonsanNet.PoolShutdown
import KonsanNet.PoolShutdownInv
import KonsanNet.LoginExchange
import KonsanNet.Rsa
import KonsanNet.QueueList
import KonsanNet.QueueDrain
import KonsanNet.TaskQueue
import KonsanNet.DispatchQueue
import KonsanNet.QueueSystem
import KonsanNet.CloseQueue
import KonsanNet.RequestsQueue
