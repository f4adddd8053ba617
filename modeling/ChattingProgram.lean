import ChattingProgram.Machine.Run
import ChattingProgram.Machine.Pool
import ChattingProgram.Data.Framing
import ChattingProgram.Data.Window
import ChattingProgram.Core.RecvBuffer
import ChattingProgram.Core.PacketSession
import ChattingProgram.Core.Reassembly
import ChattingProgram.Core.RecvCalls
import ChattingProgram.Core.SendQueue
import ChattingProgram.Core.SendPipeline
import ChattingProgram.Core.SendBuffer
import ChattingProgram.Core.SendOwnership
import ChattingProgram.Core.SendSteps
import ChattingProgram.Protocol.Message
import ChattingProgram.Protocol.PacketHandler
import ChattingProgram.Protocol.Dispatching
import ChattingProgram.Server.Database
import ChattingProgram.Server.State
import ChattingProgram.Server.Handlers
import ChattingProgram.Server.Auth
import ChattingProgram.Server.Login
import ChattingProgram.Server.Online
import ChattingProgram.Server.Ledger
import ChattingProgram.Server.House
import ChattingProgram.Server.Rooms
import ChattingProgram.Server.Destruction
import ChattingProgram.Server.Tables
import ChattingProgram.Server.Joining
import ChattingProgram.Server.Positions
import ChattingProgram.Server.Serial
import ChattingProgram.Server.Disconnecting
import ChattingProgram.Server.Leaving
import ChattingProgram.Data.Varint
import ChattingProgram.Protocol.Wire
import ChattingProgram.Server.Posts
import ChattingProgram.Server.Replies
import ChattingProgram.Core.Lock
import ChattingProgram.Core.LockExclusion
import ChattingProgram.Core.JobQueue
import ChattingProgram.Core.JobSerial
import ChattingProgram.Server.ArrivalOrder
import ChattingProgram.Server.BroadCast
import ChattingProgram.Server.BroadcastOrder
import ChattingProgram.Server.Entry
import ChattingProgram.Client.Entering
import ChattingProgram.Server.Naming
import ChattingProgram.Server.Crashes
import ChattingProgram.Machine.Roster
import ChattingProgram.Server.Membership
import ChattingProgram.Client.MemberLists
import ChattingProgram.Core.SendFailure
import ChattingProgram.Server.RoomNames
import ChattingProgram.Tools.ProtoParser
import ChattingProgram.Machine.Program
import ChattingProgram.Server.Workers
import ChattingProgram.Server.Connections
import ChattingProgram.Server.LockOrder
import ChattingProgram.Core.Lifecycle
import ChattingProgram.Client.MainDialog
import ChattingProgram.Client.Exchange
import ChattingProgram.Client.Assertions
import ChattingProgram.Client.Answers
import ChattingProgram.Server.Occupancy
import ChattingProgram.Server.OwnAccount
import ChattingProgram.Core.DBBind
import ChattingProgram.Core.RecvMargins
import ChattingProgram.Core.SendSizes
import ChattingProgram.Core.DelayedJobs
import ChattingProgram.Core.LockDebug
import ChattingProgram.Protocol.Link
import ChattingProgram.Server.Answering
