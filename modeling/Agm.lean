import Agm.Lib.Sat
import Agm.Lib.Runs
import Agm.Lib.Pool
import Agm.Lib.Bytes
import Agm.Lib.Words
import Agm.Lib.Dedup
import Agm.Lib.CString
import Agm.Service.Errno
import Agm.Service.Metadata
import Agm.Service.Platform
import Agm.Service.Device
import Agm.Service.Objects
import Agm.Service.Graph
import Agm.Service.GraphSpec
import Agm.Service.Session
import Agm.Service.SessionSpec
import Agm.Service.TraceFrame
import Agm.Service.Ops
import Agm.Service.Walks
import Agm.Service.SetOps
import Agm.Service.OpenSpec
import Agm.Service.OpenResult
import Agm.Service.OpenCount
import Agm.Service.OpenFailure
import Agm.Service.ClosedSession
import Agm.Service.GraphPointer
import Agm.Service.Simulation
import Agm.Service.StartedAifs
import Agm.Service.StartCount
import Agm.Service.GroupCount
import Agm.Service.HwFrame
import Agm.Service.HeldGraphs
import Agm.Service.PreparedStart
import Agm.Service.MergedMetadata
import Agm.Service.MetadataCopy
import Agm.Service.MetadataMerge
import Agm.Service.MetadataSerial
import Agm.Service.DeviceCounts
import Agm.Service.Ownership
import Agm.Service.CacheTurns
import Agm.Service.CachedParams
import Agm.Service.HandedOnce
import Agm.Service.Edges
import Agm.Service.EdgeFrame
import Agm.Service.EdgeFlags
import Agm.Service.EdgeRuns
import Agm.Service.EndpointList
import Agm.Service.ConfigBlobs
import Agm.Service.SndCard
import Agm.Mixer.Backends
import Agm.Lib.Queue
import Agm.Parser.CardDef
import Agm.Parser.Tags
import Agm.Parser.Document
import Agm.Parser.Build
import Agm.Parser.FirstCard
import Agm.Parser.Cards
import Agm.Mixer.Events
import Agm.Lib.Slots
import Agm.Lib.Locks
import Agm.Plugin.Compress
import Agm.Plugin.CompressSpace
import Agm.Plugin.CompressPoll
import Agm.Plugin.CompressDrain
import Agm.Plugin.CompressLocks
import Agm.Plugin.PcmPosition
import Agm.Lib.History
import Agm.Lib.Layout
import Agm.Lib.Loop
import Agm.Service.AcdbTunnel
import Agm.Plugin.IoPlug
import Agm.Mixer.GetParam
import Agm.Mixer.Targets
import Agm.Ipc.Api
import Agm.Ipc.SwParcel
import Agm.Ipc.SwMessages
import Agm.Ipc.Server
import Agm.Ipc.Death
import Agm.Ipc.SharedMem
import Agm.Ipc.OwnCallbacks
import Agm.Ipc.SwCallbacks
import Agm.Ipc.SwClients
import Agm.Ipc.ServerLocks
import Agm.Ipc.DbusBuffers
import Agm.Ipc.DbusSessions
import Agm.Ipc.DbusCallbacks
import Agm.Mixer.CtlAgree
import Agm.Mixer.CtlBytes
import Agm.Plugin.PcmBoundary
import Agm.Mixer.CtlTable
import Agm.Mixer.PcmNodes
import Agm.Service.MediaNumbers
import Agm.Service.FailedChange
import Agm.Service.GraphOpened
import Agm.Service.AcdbTags
import Agm.Service.HwEpInfo
import Agm.Service.PcmFile
import Agm.Mixer.CtlElems
import Agm.Mixer.ReadEvents
import Agm.Plugin.IoPointer
import Agm.Service.SessionCallbacks
import Agm.Parser.DataBuf
import Agm.Lib.Monitor
import Agm.Service.OpFrame
import Agm.Service.GslProtocol
import Agm.Service.PcmRuns
import Agm.Ipc.HwMessages
import Agm.Ipc.HwCarried
import Agm.Ipc.HwBuffers
import Agm.Service.DataPath
import Agm.Lib.LockProg
import Agm.Service.ServiceLocks
import Agm.Lib.Rings
import Agm.Service.AgmList
import Agm.Lib.Blocks
