import PyAuth.Support.Dict
import PyAuth.Support.Strip
import PyAuth.Support.Json
import PyAuth.Support.Numbers
import PyAuth.Support.Python
import PyAuth.Support.Equality
import PyAuth.Client.StateBundle
import PyAuth.Client.Storage
import PyAuth.Client.AuthCache
import PyAuth.Client.DeviceId
import PyAuth.Client.AuthClient
import PyAuth.Client.CacheSpec
import PyAuth.Client.Licence
import PyAuth.Client.Construction
import PyAuth.Client.Calls
import PyAuth.Client.Offline
import PyAuth.Client.Devices
import PyAuth.Support.Run
import PyAuth.Client.Frame
import PyAuth.Client.RoundTrip
import PyAuth.Client.Counter
import PyAuth.Client.DiskFailure
import PyAuth.Client.Interleaving
import PyAuth.Client.Overlap
import PyAuth.Support.Routing
import PyAuth.Server.Database
import PyAuth.Server.Heartbeat
import PyAuth.Server.WsManager
import PyAuth.Server.Tables
import PyAuth.Server.DeviceEvents
import PyAuth.Server.Answers
import PyAuth.Server.Audit
import PyAuth.Server.ListedIds
import PyAuth.Server.Events
import PyAuth.Server.History
import PyAuth.Server.Comparison
import PyAuth.Server.Workers
import PyAuth.Server.Decisions
import PyAuth.Server.Races
import PyAuth.Server.App
import PyAuth.Client.Post
import PyAuth.Protocol.Network
import PyAuth.Protocol.EndToEnd
import PyAuth.Protocol.Replay
import PyAuth.Sdk.WhiteSpace
import PyAuth.Sdk.StateFile
import PyAuth.Go.StateBundle
import PyAuth.Go.AuthCache
import PyAuth.Go.AuthClient
import PyAuth.TypeScript.StateBundle
import PyAuth.TypeScript.AuthCache
import PyAuth.TypeScript.AuthClient
import PyAuth.Sdk.Rewriting
import PyAuth.Sdk.Products
import PyAuth.Sdk.Tables
import PyAuth.Sdk.PythonProducts
import PyAuth.Sdk.GoProducts
import PyAuth.Sdk.TypeScriptProducts
import PyAuth.Sdk.Agreement
import PyAuth.Sdk.Provenance
import PyAuth.Sdk.Fleet
import PyAuth.Sdk.PythonSnapshots
import PyAuth.Sdk.GoSnapshots
import PyAuth.Sdk.Leftovers
import PyAuth.Sdk.TypeScriptSnapshots
import PyAuth.Sdk.Snapshots
import PyAuth.Sdk.Posts
import PyAuth.Sdk.PythonPosts
import PyAuth.Sdk.GoPosts
import PyAuth.Sdk.TypeScriptPosts
import PyAuth.Protocol.Steady
import PyAuth.Server.Config
import PyAuth.Server.Users
import PyAuth.Server.Lockout
import PyAuth.Server.Sessions
import PyAuth.Server.ActiveSessions
import PyAuth.Support.Trailing
import PyAuth.Sdk.StatePaths
import PyAuth.Sdk.Replies
import PyAuth.Sdk.Clearing
import PyAuth.Sdk.LightResult
import PyAuth.Sdk.SoftLaunch
import PyAuth.Client.Identity
import PyAuth.Support.Loop
import PyAuth.Support.Collation
import PyAuth.Hardware.Disks
import PyAuth.Support.Grouping
import PyAuth.Hardware.DiskGroups
import PyAuth.Support.Hex
import PyAuth.Hardware.Mac
import PyAuth.Support.StableSort
import PyAuth.Hardware.Network
import PyAuth.Hardware.CpuInfo
import PyAuth.Server.UserUpdates
import PyAuth.Server.OperationLogs
import PyAuth.Support.Paging
import PyAuth.Server.Paging
import PyAuth.Support.Pkcs7
import PyAuth.Support.Base64
import PyAuth.TypeScript.Crypto
import PyAuth.Support.Binary64
import PyAuth.Support.Decimal
import PyAuth.Hardware.Sizes
import PyAuth.Hardware.Components
import PyAuth.Support.Mirror
import PyAuth.Server.Announcements
import PyAuth.Web.AdminPanel
import PyAuth.Web.Promises
import PyAuth.Web.Console
import PyAuth.Web.Receipts
import PyAuth.Client.Expiry
import PyAuth.Protocol.Revocation
import PyAuth.Server.BackOffice
import PyAuth.Server.Accounts
import PyAuth.Server.Passwords
import PyAuth.Server.Journal
import PyAuth.Server.Startup
import PyAuth.Sdk.GoLeases
import PyAuth.Sdk.PythonLeases
import PyAuth.Sdk.SharedLeases
