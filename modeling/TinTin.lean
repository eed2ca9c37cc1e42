import TinTin.Lib.Path
import TinTin.Lib.Utf8
import TinTin.Lib.Codec
import TinTin.Core.Session
import TinTin.Core.Conversation
import TinTin.Security.Compromise
import TinTin.Security.Rejection
import TinTin.Server.Relay
import TinTin.Server.Atomicity
import TinTin.Server.Schema
import TinTin.Cli.Client
import TinTin.Cli.Handshake
import TinTin.Cli.Receive
import TinTin.Cli.World
import TinTin.Cli.Delivery
import TinTin.Cli.Crossing
import TinTin.Android.ChatScreen
import TinTin.Apps.FailedSend
import TinTin.Server.Ownership
import TinTin.Server.Tally
import TinTin.Cli.Payload
import TinTin.Lib.Batch
import TinTin.Cli.Isolation
import TinTin.Ios.ChatList
import TinTin.Apps.Isolation
import TinTin.Cli.Replay
import TinTin.Cli.Text
import TinTin.Cli.Calls
import TinTin.Lib.Mail
import TinTin.Cli.CallLine
import TinTin.Cli.Files
import TinTin.Cli.Media
import TinTin.Cli.AsText
import TinTin.Cli.Wire
import TinTin.Server.Commands
import TinTin.Apps.Requests
import TinTin.Cli.Network
import TinTin.Cli.Authenticity
import TinTin.Ios.ChatView
import TinTin.Ios.HandleRuns
import TinTin.Apps.FirstContact
import TinTin.Lib.Lines
import TinTin.Apps.RelayService
import TinTin.Cli.FanOut
import TinTin.Lib.Standing
import TinTin.Server.Membership
import TinTin.Cli.Talk
import TinTin.Cli.Receipts
import TinTin.Cli.Status
import TinTin.Lib.Rising
import TinTin.Security.Replay
import TinTin.Cli.Restart
import TinTin.Cli.Broadcast
import TinTin.Server.Operations
import TinTin.Server.Integrity
import TinTin.Lib.LastError
import TinTin.Native.Ffi
import TinTin.Native.Jni
import TinTin.Native.Memory
import TinTin.Native.Reporting
import TinTin.Lib.Gather
import TinTin.Lib.Heap
import TinTin.Cli.Fragments
import TinTin.Cli.Transfers
import TinTin.Lib.FilePath
import TinTin.Cli.SendFile
import TinTin.Cli.InRange
import TinTin.Cli.Directories
import TinTin.Cli.Binding
import TinTin.Cli.CallFailure
import TinTin.Cli.Edit
import TinTin.Cli.Recording
import TinTin.Cli.FileReceived
import TinTin.Cli.Contact
import TinTin.Lib.TopN
import TinTin.Server.Timeline
import TinTin.Security.Headers
import TinTin.Apps.InputLine
import TinTin.Apps.PollNumbers
import TinTin.Lib.Wildcard
import TinTin.Server.Search
import TinTin.Lib.Keyed
import TinTin.Server.Stories
import TinTin.Apps.FreeText
import TinTin.Core.SessionStore
import TinTin.Lib.JsonText
import TinTin.Cli.JsonText
import TinTin.Cli.WireText
import TinTin.Lib.Calls
import TinTin.Server.Service
import TinTin.Server.Serial
import TinTin.Server.Refusals
import TinTin.Server.Opacity
import TinTin.Apps.Sockets
import TinTin.Cli.SavedText
import TinTin.Cli.Storage
import TinTin.Server.Rooms
import TinTin.Apps.Exchange
import TinTin.Apps.Caches
import TinTin.Server.Directory
import TinTin.Apps.Directory
import TinTin.Ios.RustCoreService
