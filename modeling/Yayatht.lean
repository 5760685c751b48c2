import Yayatht.Addresses
import Yayatht.BudgetRuns
import Yayatht.Buffer
import Yayatht.CheckedDecoding
import Yayatht.ClassicBpf
import Yayatht.ClosedFlows
import Yayatht.ControlCodec
import Yayatht.CredentialWire
import Yayatht.CyclicScan
import Yayatht.DatagramSteps
import Yayatht.DnsCapacity
import Yayatht.DnsEngine
import Yayatht.DnsFraming
import Yayatht.DnsHistory
import Yayatht.DnsStream
import Yayatht.DnsWire
import Yayatht.DownstreamBytes
import Yayatht.EffectLogic
import Yayatht.EpollTokens
import Yayatht.ExtensionChains
import Yayatht.Flow
import Yayatht.FlowAckHonesty
import Yayatht.FlowBase
import Yayatht.FlowConduct
import Yayatht.FlowCustody
import Yayatht.FlowEntry
import Yayatht.FlowHistory
import Yayatht.FlowLifeSteps
import Yayatht.FlowLifetime
import Yayatht.FlowMachine
import Yayatht.FlowRunSteps
import Yayatht.FlowSendSteps
import Yayatht.FlowSteps
import Yayatht.FlowStrand
import Yayatht.FlowTable
import Yayatht.FlowTableHistory
import Yayatht.FlowTcpSteps
import Yayatht.FlowWakeups
import Yayatht.FlowWindowPromise
import Yayatht.FrameBytes
import Yayatht.FrameCustody
import Yayatht.FrameDecoding
import Yayatht.Handshake
import Yayatht.HandshakeReplies
import Yayatht.HandshakeSchedules
import Yayatht.HandshakeStates
import Yayatht.HostLoopback
import Yayatht.InterestRefresh
import Yayatht.InternetChecksum
import Yayatht.KeyedMap
import Yayatht.LaunchBarrier
import Yayatht.LaunchChannels
import Yayatht.LaunchChildren
import Yayatht.LaunchConfig
import Yayatht.LaunchExit
import Yayatht.LaunchProcesses
import Yayatht.LaunchReaping
import Yayatht.LaunchSupervision
import Yayatht.MetricsMerge
import Yayatht.NeighborAnswers
import Yayatht.NetlinkFormat
import Yayatht.OffloadChecksum
import Yayatht.OptionGrammar
import Yayatht.OutstandingSegments
import Yayatht.Packet
import Yayatht.PacketHeaders
import Yayatht.PayloadFate
import Yayatht.PendingLedger
import Yayatht.PoolConservation
import Yayatht.ProgramTrees
import Yayatht.ProxyContainment
import Yayatht.ReactorCalls
import Yayatht.ReactorDatagrams
import Yayatht.ReactorDns
import Yayatht.ReactorFlows
import Yayatht.ReactorFrames
import Yayatht.ReactorRun
import Yayatht.ReactorSocks
import Yayatht.ReactorState
import Yayatht.ReactorTcp
import Yayatht.RelayRecords
import Yayatht.RelaySide
import Yayatht.RetainedLedger
import Yayatht.RouteSocket
import Yayatht.RunSteps
import Yayatht.Seccomp
import Yayatht.SegmentSize
import Yayatht.SegmentTiles
import Yayatht.Sequence
import Yayatht.SerialArithmetic
import Yayatht.SocksUdp
import Yayatht.SocksUdpCodec
import Yayatht.StatusClients
import Yayatht.StrandRuns
import Yayatht.TimerFairness
import Yayatht.TimerWheel
import Yayatht.TransportHeaders
import Yayatht.UdpEngine
import Yayatht.UdpHistory
import Yayatht.UpstreamBytes
import Yayatht.WindowBudget
import Yayatht.WireBytes
