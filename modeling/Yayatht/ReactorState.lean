import Yayatht.Buffer
import Yayatht.FlowEntry
import Yayatht.SocksUdp
import Yayatht.UdpEngine
import Yayatht.DnsEngine
import Mathlib.Data.Stream.Defs

set_option autoImplicit false

/-!
# The state of one reactor

A handler is a program over the reactor state that can fail; a failure keeps
the state reached so far. What the kernel answers to the system calls of one
handler is a stream for each kind of call. The journal and `tapStarved` record
what happened; no handler reads them.
-/
namespace Yayatht
open Sequence

def tapBudget : ℕ := 32
def tapTxBudget : ℕ := 32
def udpRxBudget : ℕ := 32
def tapFramePoolBytes : ℕ := 16777216
def tapFramePoolMaxFrames : ℕ := 4096
def tapGsoPoolBytes : ℕ := 4194304
def gsoMaxL3Bytes : ℕ := 65535
def windowScaleShift : ℕ := 7
def maxPeerWindowShift : ℕ := 14
def proxyResponseCapacity : ℕ := 8192
def dnsWriteBufferLimit : ℕ := 65536
def dnsReadBufferLimit : ℕ := 131072
def dnsIdleTimeout : Millis := 15000
def socksUdpQueueBytes : ℕ := 65536
def socksRebuildInitial : Millis := 100
def socksRebuildMax : Millis := 5000
def ethernetHeaderLen : ℕ := 14
def vnetHeaderLen : ℕ := 10
def tcpMinHeaderLen : ℕ := 20
def udpHeaderLen : ℕ := 8
def i32Max : ℕ := 2147483647

def readable : UInt32 := 0x001
def writable : UInt32 := 0x004
def errorEvent : UInt32 := 0x008
def hangup : UInt32 := 0x010
def readHangup : UInt32 := 0x2000

def has (events mask : UInt32) : Bool := events &&& mask ≠ 0

inductive Upstream where
  | direct (hostLoopback : Bool)
  | proxy (protocol : Proxy.Protocol) (address : SocketAddr) (credentials : Option Proxy.Credentials)

/-- What the reactor reads of its configuration, with the checked bounds that it relies on. -/
structure Config where
  gatewayIpv4 : Option (BitVec 32)
  gatewayIpv6 : Option (BitVec 128)
  tapMtu : ℕ
  tapOffload : Bool
  upstream : Upstream
  dnsProxyTcp : Bool
  dnsProxyUdp : Bool
  dnsUpstream : Option SocketAddr
  maxTcpFlows : ℕ
  udpEnabled : Bool
  maxUdpFlows : ℕ
  maxUdpAssociations : ℕ
  workerCount : ℕ
  maxPendingTcpBytes : ℕ
  maxRetainedTcpBytes : ℕ
  tapMtu_ge : 1280 ≤ tapMtu
  tapMtu_le : tapMtu ≤ 65520
  workerCount_pos : 0 < workerCount
  maxTcpFlows_le : maxTcpFlows ≤ 1048576
  maxPendingTcpBytes_ge : 16384 ≤ maxPendingTcpBytes

inductive IoError where
  | wouldBlock
  | unexpectedEof
  | os (code : ℕ)
  deriving DecidableEq, Repr

def connectionRefused : IoError := .os 111

inductive PacketError where
  | truncated
  | invalidLength
  | unsupported
  | invalidChecksum
  | protocolMismatch
  deriving DecidableEq, Repr

/-- `panic` stands for a failed `expect` or assertion, which stops the process. -/
inductive Error where
  | io (error : IoError)
  | packet (error : PacketError)
  | invariant (text : String)
  | panic (text : String)
  deriving DecidableEq, Repr

inductive UdpError where
  | destinationUnreachable (code : UInt8)
  | packetTooBig (mtu : ℕ)
  deriving DecidableEq, Repr

inductive UdpErrorFamily where
  | ipv4
  | ipv6
  deriving DecidableEq, Repr

structure UdpSocketError where
  family : UdpErrorFamily
  origin : UInt8
  kind : UInt8
  code : UInt8
  info : ℕ
  hasPacketInfo : Bool
  deriving DecidableEq, Repr

inductive FrameTier where
  | mtu
  | gso
  deriving DecidableEq, Repr

/-- A frame taken from a pool, by its index there. -/
structure FrameSlot where
  tier : FrameTier
  poolIndex : ℕ
  deriving DecidableEq, Repr

structure TcpFrameSpec where
  key : FlowKey
  plan : SendPlan
  flags : TcpFlags
  mss : Option ℕ
  windowScale : Option ℕ
  window : ℕ
  gsoSize : Option ℕ
  deriving DecidableEq, Repr

/-- What a frame carries. -/
inductive FrameBody where
  | arpReply (gateway : BitVec 32)
  | neighborAdvertisement (gateway source : BitVec 128)
  | tcp (spec : TcpFrameSpec) (payload : Bytes)
  | udp (client gateway : SocketAddr) (payload : Bytes)
  | udpError (key : Udp.FlowKey) (payload : Bytes) (originalLen : ℕ) (error : UdpError)
  deriving DecidableEq, Repr

def FrameBody.payload : FrameBody → Bytes
  | .arpReply .. => []
  | .neighborAdvertisement .. => []
  | .tcp _ payload => payload
  | .udp _ _ payload => payload
  | .udpError _ payload _ _ => payload

structure PooledFrame where
  slot : FrameSlot
  body : FrameBody
  len : ℕ
  deriving DecidableEq, Repr

structure QueuedFrame where
  flow : Option FlowId
  frame : PooledFrame
  plan : Option SendPlan
  reservedRetained : ℕ
  deriving DecidableEq, Repr

/-- A frame read from the TAP, after parsing. -/
inductive TapFrame where
  | malformed (error : Error)
  | ignored
  | arpRequest (target : BitVec 32)
  | neighborSolicitation (target source : BitVec 128)
  | tcpV4 (source destination : BitVec 32) (segment : TcpSegment)
  | tcpV6 (source destination : BitVec 128) (segment : TcpSegment)
  | udpV4 (source destination : BitVec 32) (sourcePort destinationPort : UInt16) (payload : Bytes)
  | udpV6 (source destination : BitVec 128) (sourcePort destinationPort : UInt16) (payload : Bytes)

inductive TapInput where
  | eof
  | frame (gso : Bool) (frame : TapFrame)

/-- How much of a request the kernel carried out. -/
inductive Taken where
  | all
  | part (count : ℕ)
  deriving DecidableEq, Repr

def Taken.of (taken : Taken) (asked : ℕ) : ℕ :=
  match taken with
  | .all => asked
  | .part count => min count asked

/-- What a read of a stream socket finds: the bytes that arrived since the last one,
whether the peer closed after them, and how many of the bytes asked for are taken. -/
structure Inflow where
  arrived : Bytes := []
  closed : Bool := false
  taken : Taken := .all
  deriving DecidableEq, Repr

inductive ControlMessage where
  | shutdown
  | status
  | other
  deriving DecidableEq, Repr

/-- The kernel's answers to the system calls of one handler, in call order. -/
structure Kernel where
  clock : Stream' Millis
  random : Stream' (Except IoError (BitVec 32))
  tapRead : Stream' (Except IoError TapInput)
  tapWrite : Stream' (Except IoError Taken)
  connect : Stream' (Except IoError Bool)
  localAddress : Stream' (Except IoError SocketAddr)
  bufferSizes : Stream' (Except IoError (ℕ × ℕ))
  pollWritable : Stream' (Except IoError Bool)
  pendingError : Stream' (Except IoError (Option ℕ))
  drain : Stream' (Except IoError (ℕ × ℕ))
  setPeekOffset : Stream' (Except IoError Unit)
  enableTimestamps : Stream' (Except IoError Unit)
  bytesAcked : Stream' (Except IoError ℕ)
  windowClamp : Stream' (Except IoError Unit)
  send : Stream' (Except IoError Taken)
  peek : Stream' (Except IoError Inflow)
  discard : Stream' (Except IoError Inflow)
  recv : Stream' (Except IoError Bytes)
  recvDatagram : Stream' (Except IoError Bytes)
  shutdownWrite : Stream' (Except IoError Unit)
  epollAdd : Stream' (Except IoError Unit)
  epollModify : Stream' (Except IoError Unit)
  epollDelete : Stream' (Except IoError Unit)
  udpErrors : Stream' (List UdpSocketError × Except IoError Unit)
  bindUdp : Stream' (Except IoError Unit)
  connectUdp : Stream' (Except IoError Unit)
  connectDatagram : Stream' (Except IoError Unit)
  control : Stream' (Except IoError ControlMessage)
  timer : Stream' (Except IoError Unit)

inductive Transport where
  | stream
  | datagram
  deriving DecidableEq, Repr

/-- What the journal records. An entry stands for the state before the step. -/
inductive Notice where
  | created (id : FlowId)
  | accepted (id : FlowId) (segment : TcpSegment)
  | segment (id : FlowId) (entry : FlowEntry) (segment : TcpSegment)
  | clamped (id : FlowId) (result : Except IoError Unit)
  | discarded (id : FlowId) (asked : ℕ) (result : Except IoError ℕ)
  | offered (id : FlowId) (entry : FlowEntry) (payload : Bytes) (result : Except IoError ℕ)
  | refused (id : FlowId)
  | shutdown (id : FlowId) (result : Except IoError Unit)
  | activated (id : FlowId) (entry : FlowEntry) (busy : Bool)
  | synLost (id : FlowId)
  | serviced (id : FlowId) (entry : FlowEntry) (now : Millis)
  | built (id : FlowId) (entry : FlowEntry) (body : FrameBody)
  | timeWait (id : FlowId) (entry : FlowEntry)
  | released (id : FlowId) (entry : FlowEntry)
  | closeFailed (id : FlowId)
  | commitFailed (id : FlowId)
  | tapFailed (flow : Option FlowId) (plan : Option SendPlan)
  | retainedReleased (length available : ℕ)
  | datagram (client gateway : SocketAddr) (payload : Bytes)
  | dialed (transport : Transport) (peer : SocketAddr)
  | socksReply (handshake : Proxy.Handshake) (response : Bytes)
  | frameLost (slot : FrameSlot)
  | poolDry

inductive DnsConnection where
  | idle
  | connecting (connected : Bool) (handshake : Option Proxy.Handshake)
  | ready

structure UdpSocketEntry where
  payloadPrefix : Bytes
  payloadLen : ℕ

inductive SocksAssociationState where
  | backoff
  | connecting
  | handshaking
  | pendingActivation
  | ready
  deriving DecidableEq, Repr

/-- The control and relay sockets are present or not. -/
structure SocksAssociation where
  key : Udp.AssociationKey
  state : SocksAssociationState
  control : Bool
  relay : Bool
  handshake : Option Proxy.Handshake
  response : Bytes
  pending : List (SocketAddr × Bytes)
  pendingBytes : ℕ
  retryAttempt : ℕ
  retryAt : Millis

structure Metrics where
  tapRxPackets : ℕ := 0
  tapTxPackets : ℕ := 0
  parseDrops : ℕ := 0
  tcpCreated : ℕ := 0
  tcpClosed : ℕ := 0
  tcpRetransmits : ℕ := 0
  tcpZeroWindowProbes : ℕ := 0
  tcpResets : ℕ := 0
  proxyHandshakes : ℕ := 0
  proxyFailures : ℕ := 0
  dnsRefused : ℕ := 0
  dnsQueries : ℕ := 0
  dnsResponses : ℕ := 0
  dnsFailures : ℕ := 0
  dnsTruncated : ℕ := 0
  dnsUpstreamConnects : ℕ := 0
  dnsDropped : ℕ := 0
  dnsReplyDrops : ℕ := 0
  udpDatagramsSent : ℕ := 0
  udpDatagramsReceived : ℕ := 0
  udpCreated : ℕ := 0
  udpClosed : ℕ := 0
  udpAssociationsCreated : ℕ := 0
  udpAssociationsClosed : ℕ := 0
  udpFlowLimitDrops : ℕ := 0
  udpAssociationLimitDrops : ℕ := 0
  udpQueueDrops : ℕ := 0
  udpSocketErrors : ℕ := 0
  udpUnmappedErrors : ℕ := 0
  udpIcmpErrors : ℕ := 0
  udpAssociationFailures : ℕ := 0
  udpAssociationRebuilds : ℕ := 0
  udpUnsupportedFragments : ℕ := 0
  udpUnknownRelayDatagrams : ℕ := 0
  activeUdpFlows : ℕ := 0
  peakUdpFlows : ℕ := 0
  activeUdpAssociations : ℕ := 0
  peakUdpAssociations : ℕ := 0
  txAckWatchdogAdvances : ℕ := 0
  txAckWatchdogTailRecoveries : ℕ := 0
  activeTcpFlows : ℕ := 0
  peakTcpFlows : ℕ := 0
  pendingTcpBytes : ℕ := 0
  peakPendingTcpBytes : ℕ := 0
  retainedTcpBytes : ℕ := 0
  peakRetainedTcpBytes : ℕ := 0
  pendingLimitHits : ℕ := 0
  retainedLimitHits : ℕ := 0
  pendingHighWaterEvents : ℕ := 0
  framePoolExhaustions : ℕ := 0
  gsoFramesRx : ℕ := 0
  gsoFramesTx : ℕ := 0
  gsoPoolExhaustions : ℕ := 0
  zeroWindowEvents : ℕ := 0
  zeroWindowFlows : ℕ := 0
  peakZeroWindowFlows : ℕ := 0
  socketReceiveBufferBytes : ℕ := 0
  peakSocketReceiveBufferBytes : ℕ := 0
  socketSendBufferBytes : ℕ := 0
  peakSocketSendBufferBytes : ℕ := 0
  deriving DecidableEq, Repr

/-- Counters that make a debug build drop frames or skip refreshes. -/
structure TestHooks where
  dropTcpData : ℕ := 0
  dropTcpRetransmit : ℕ := 0
  dropTcpSynAck : ℕ := 0
  dropTcpFin : ℕ := 0
  dropTcpAck : ℕ := 0
  dropTcpFinAck : ℕ := 0
  suppressEventAckRefresh : ℕ := 0
  localIsn : Option Seq := none
  deriving DecidableEq, Repr

structure Reactor where
  kernel : Kernel
  flows : FlowTable FlowEntry
  byKey : KeyedMap FlowKey FlowId
  udpEngine : Udp.Engine
  udpSockets : KeyedMap FlowId UdpSocketEntry
  socksAssociations : FlowTable SocksAssociation
  socksByKey : KeyedMap Udp.AssociationKey FlowId
  framePool : BufferPool
  gsoPool : BufferPool
  tapStarved : Bool
  tapQueue : List QueuedFrame
  metrics : Metrics
  shuttingDown : Bool
  test : TestHooks
  pendingSocketBytes : ℕ
  retainedSocketBytes : ℕ
  pendingPressure : Bool
  pendingPressureDirty : Bool
  ackRefreshQueue : List FlowId
  timerCursorSlot : ℕ
  dnsEngine : Dns.Engine
  dnsConnection : DnsConnection
  dnsWriteBuffer : Bytes
  dnsReadBuffer : Bytes
  dnsLastActivity : Millis
  journal : List Notice

abbrev Io := EStateM Error Reactor

namespace Config

def vnetLen (cfg : Config) : ℕ := if cfg.tapOffload then vnetHeaderLen else 0

/-- Capacity of an MTU-tier frame. -/
def mtuFrameCapacity (cfg : Config) : ℕ := cfg.tapMtu + (ethernetHeaderLen + cfg.vnetLen)

def gsoFrameCapacity (cfg : Config) : ℕ := cfg.vnetLen + ethernetHeaderLen + gsoMaxL3Bytes

def capacity (cfg : Config) : FrameTier → ℕ
  | .mtu => cfg.mtuFrameCapacity
  | .gso => cfg.gsoFrameCapacity

def udpRxCapacity (cfg : Config) : ℕ := cfg.tapMtu - (40 + udpHeaderLen)

def socksBufferCapacity (cfg : Config) : ℕ := cfg.tapMtu + 22

def framePoolFrames (cfg : Config) : ℕ :=
  max 1 (min (tapFramePoolBytes / cfg.workerCount / cfg.mtuFrameCapacity) tapFramePoolMaxFrames)

def gsoPoolFrames (cfg : Config) : ℕ :=
  if cfg.tapOffload then max 1 (tapGsoPoolBytes / cfg.workerCount / cfg.gsoFrameCapacity) else 0

end Config

def Reactor.new (cfg : Config) (kernel : Kernel) (test : TestHooks) (queryTimeout now : Millis) :
    Reactor where
  kernel := kernel
  flows := FlowTable.withCapacity cfg.maxTcpFlows
  byKey := {}
  udpEngine := Udp.Engine.new cfg.maxUdpFlows cfg.maxUdpAssociations
  udpSockets := {}
  socksAssociations := FlowTable.withCapacity cfg.maxUdpAssociations
  socksByKey := {}
  framePool := BufferPool.new cfg.framePoolFrames
  gsoPool := BufferPool.new cfg.gsoPoolFrames
  tapStarved := false
  tapQueue := []
  metrics := {}
  shuttingDown := false
  test := test
  pendingSocketBytes := 0
  retainedSocketBytes := 0
  pendingPressure := false
  pendingPressureDirty := false
  ackRefreshQueue := []
  timerCursorSlot := 0
  dnsEngine := { queryTimeout := queryTimeout }
  dnsConnection := .idle
  dnsWriteBuffer := []
  dnsReadBuffer := []
  dnsLastActivity := now
  journal := []

end Yayatht
