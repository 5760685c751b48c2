import Yayatht.ReactorDns
import Yayatht.EffectLogic

set_option autoImplicit false

/-!
# The run loop

An epoll batch is a sequence of events in any order; `endOfBatch` is what the
loop does after it. A handler that fails ends the run, except that a failure to
handle one TAP frame only drops the frame.
-/
namespace Yayatht

namespace Reactor

variable (cfg : Config)

/-- The socket peer of a direct datagram flow. -/
def udpTransportTarget (hostLoopback : Bool) (target : SocketAddr) : SocketAddr :=
  match hostLoopback, target with
  | false, target => target
  | true, .v4 ip port =>
    if some ip = cfg.gatewayIpv4 then SocketAddr.new (.v4 localhostV4) port else .v4 ip port
  | true, .v6 ip port flowinfo scope =>
    if some ip = cfg.gatewayIpv6 then SocketAddr.new (.v6 localhostV6) port
    else .v6 ip port flowinfo scope

def handleForwardUdp (source target : SocketAddr) (message : Bytes) : Io Unit :=
  if cfg.udpEnabled = false then pure ()
  else
    match cfg.upstream with
    | .proxy .socks5 _ _ => handleSocksUdpRouted cfg source target target message
    | .proxy .httpConnect _ _ =>
      queueUdpIcmpFor cfg ⟨source, target⟩ message message.length
        (.destinationUnreachable (if source.isIpv4 then 3 else 4))
    | .direct hostLoopback =>
      forwardDirectUdp cfg source target (udpTransportTarget cfg hostLoopback target) message

def handleUdp (endpoints : Dns.Endpoints) (message : Bytes) : Io Unit :=
  let client := endpoints.client
  let target := endpoints.gateway
  if dnsProxyTcpIntercepts cfg target then handleDnsUdp cfg endpoints message
  else if dnsProxyUdpIntercepts cfg target then
    match cfg.dnsUpstream with
    | none => handleDnsUdp cfg endpoints message
    | some resolver => do
      modify fun s => { s with metrics := { s.metrics with dnsQueries := s.metrics.dnsQueries + 1 } }
      handleSocksUdpRouted cfg client resolver target message
  else handleForwardUdp cfg client target message

def arpReplyLen : ℕ := ethernetHeaderLen + 28
def neighborAdvertisementLen : ℕ := ethernetHeaderLen + 40 + 32

def handleArp (target : BitVec 32) : Io Unit :=
  if cfg.gatewayIpv4 = some target then do
    let slot ← acquireFrame
    queueTap cfg none ⟨slot, .arpReply target, cfg.vnetLen + arpReplyLen⟩ none
  else pure ()

def handleNeighborSolicitation (target source : BitVec 128) : Io Unit :=
  if cfg.gatewayIpv6 = some target then do
    let slot ← acquireFrame
    queueTap cfg none ⟨slot, .neighborAdvertisement target source,
      cfg.vnetLen + neighborAdvertisementLen⟩ none
  else pure ()

def handleFrame (frame : TapFrame) : Io Unit :=
  match frame with
  | .malformed error => throw error
  | .ignored => pure ()
  | .arpRequest target => handleArp cfg target
  | .neighborSolicitation target source => handleNeighborSolicitation cfg target source
  | .tcpV4 source destination segment =>
    handleTcp cfg ⟨.v4 source segment.sourcePort, .v4 destination segment.destinationPort⟩ segment
  | .tcpV6 source destination segment =>
    handleTcp cfg ⟨.v6 source segment.sourcePort 0 0, .v6 destination segment.destinationPort 0 0⟩
      segment
  | .udpV4 source destination sourcePort destinationPort payload =>
    handleUdp cfg ⟨.v4 source sourcePort, .v4 destination destinationPort, rfl⟩ payload
  | .udpV6 source destination sourcePort destinationPort payload =>
    handleUdp cfg ⟨.v6 source sourcePort 0 0, .v6 destination destinationPort 0 0, rfl⟩ payload

/-- A failure drops the frame; a panic stops the process. -/
def absorb (m : Io Unit) : Io Unit :=
  tryCatch m fun error =>
    match error with
    | .panic text => throw (.panic text)
    | _ =>
      modify fun s => { s with metrics := { s.metrics with parseDrops := s.metrics.parseDrops + 1 } }

def readTap : ℕ → Io Unit
  | 0 => pure ()
  | budget + 1 => do
    if (← framesAvailable) = 0 then
      noteFramePoolExhaustion
      updateTapInterest
    else
      match ← Call.tapRead with
      | .ok .eof => throw (.invariant "TAP returned EOF")
      | .ok (.frame gso frame) =>
        modify fun s =>
          { s with
            metrics :=
              { s.metrics with
                tapRxPackets := s.metrics.tapRxPackets + 1
                gsoFramesRx := s.metrics.gsoFramesRx + gso.toNat } }
        absorb (handleFrame cfg frame)
        readTap budget
      | .error .wouldBlock => pure ()
      | .error error => throw (.io error)

def handleTap : Io Unit := do
  readTap cfg tapBudget
  flushAckRefresh cfg

def handleControl : Io Unit := do
  match ← Call.control with
  | .ok .shutdown => modify fun s => { s with shuttingDown := true }
  | .ok .status => pure ()
  | .ok .other => pure ()
  | .error .wouldBlock => pure ()
  | .error .unexpectedEof => modify fun s => { s with shuttingDown := true }
  | .error error => throw (.io error)

def dropUdpSockets : List FlowId → Io Unit
  | [] => pure ()
  | id :: ids => do
    dropUdpSocket id
    dropUdpSockets ids

def rebuildEach : List FlowId → Io Unit
  | [] => pure ()
  | id :: ids => do
    rebuildSocksAssociation cfg id
    rebuildEach ids

def removeEach : List FlowId → Io Unit
  | [] => pure ()
  | id :: ids => do
    removeSocksAssociation id
    removeEach ids

def handleUdpTimers (now : Millis) : Io Unit := do
  let s ← get
  let (engine, expired) := s.udpEngine.expire now
  set { s with
    udpEngine := engine
    metrics := { s.metrics with udpClosed := s.metrics.udpClosed + expired.length } }
  dropUdpSockets expired
  modify fun t =>
    { t with
      metrics :=
        { t.metrics with
          udpAssociationsClosed :=
            t.metrics.udpAssociationsClosed +
              (s.udpEngine.activeAssociations - engine.activeAssociations) } }
  let s ← get
  rebuildEach cfg (associationsWhere s fun a => a.state = .backoff ∧ a.retryAt ≤ now)
  let s ← get
  removeEach (associationsWhere s fun a => !s.udpEngine.hasAssociation a.key)
  refreshUdpMetrics

def handleTimers : Io Unit := do
  Call.timer
  let now ← Call.now
  handleDnsTimers cfg now
  handleUdpTimers cfg now
  handleFlowTimers cfg now

def closeUdpFlows : List FlowId → Io Unit
  | [] => pure ()
  | id :: ids => do
    closeUdpFlow id
    closeUdpFlows ids

def shutdownFlows : Io Unit := do
  let s ← get
  if s.shuttingDown then
    closeFlows cfg s.flows.activeIds
    let s ← get
    closeUdpFlows s.udpEngine.activeIds
    let s ← get
    removeEach s.socksAssociations.activeIds
  else pure ()

def endOfBatch : Io Unit := do
  activateSocksAssociations cfg
  applyPendingPressure cfg
  cleanupClosed
  shutdownFlows cfg

end Reactor

/-- One entry of an epoll batch, or the end of the batch. -/
inductive Event where
  | tap (events : UInt32)
  | timer
  | control
  | dnsUpstream (events : UInt32)
  | socket (id : FlowId) (events : UInt32)
  | udpSocket (id : FlowId) (events : UInt32)
  | socksControl (id : FlowId) (events : UInt32)
  | socksRelay (id : FlowId) (events : UInt32)
  | endOfBatch

/-- A small configuration without offload and DNS. -/
def Config.sample (upstream : Upstream) : Config where
  gatewayIpv4 := some 0xc0000201#32
  gatewayIpv6 := none
  tapMtu := 32000
  tapOffload := false
  upstream := upstream
  dnsProxyTcp := false
  dnsProxyUdp := false
  dnsUpstream := none
  maxTcpFlows := 2
  udpEnabled := true
  maxUdpFlows := 2
  maxUdpAssociations := 2
  workerCount := 256
  maxPendingTcpBytes := 65536
  maxRetainedTcpBytes := 65536
  tapMtu_ge := by decide
  tapMtu_le := by decide
  workerCount_pos := by decide
  maxTcpFlows_le := by decide
  maxPendingTcpBytes_ge := by decide

/-- Nothing arrives and every call succeeds. -/
def Kernel.quiet : Kernel where
  clock := Stream'.const 0
  random := Stream'.const (.ok 0)
  tapRead := Stream'.const (.error .wouldBlock)
  tapWrite := Stream'.const (.ok .all)
  connect := Stream'.const (.ok true)
  localAddress := Stream'.const (.ok (.v4 0x0a000002#32 40000))
  bufferSizes := Stream'.const (.ok (65536, 65536))
  pollWritable := Stream'.const (.ok false)
  pendingError := Stream'.const (.ok none)
  drain := Stream'.const (.ok (0, 0))
  setPeekOffset := Stream'.const (.ok ())
  enableTimestamps := Stream'.const (.ok ())
  bytesAcked := Stream'.const (.ok 0)
  windowClamp := Stream'.const (.ok ())
  send := Stream'.const (.ok .all)
  peek := Stream'.const (.ok {})
  discard := Stream'.const (.ok {})
  recv := Stream'.const (.error .wouldBlock)
  recvDatagram := Stream'.const (.error .wouldBlock)
  shutdownWrite := Stream'.const (.ok ())
  epollAdd := Stream'.const (.ok ())
  epollModify := Stream'.const (.ok ())
  epollDelete := Stream'.const (.ok ())
  udpErrors := Stream'.const ([], .ok ())
  bindUdp := Stream'.const (.ok ())
  connectUdp := Stream'.const (.ok ())
  connectDatagram := Stream'.const (.ok ())
  control := Stream'.const (.error .wouldBlock)
  timer := Stream'.const (.ok ())

/-- One frame is read from the TAP. -/
def Kernel.reads (k : Kernel) (frame : TapFrame) : Kernel :=
  { k with tapRead := Stream'.cons (.ok (.frame false frame)) k.tapRead }

namespace Reactor

variable (cfg : Config)

def handle : Event → Io Unit
  | .tap events => do
    if has events readable then handleTap cfg else pure ()
    if has events writable then flushTapQueue else pure ()
  | .timer => handleTimers cfg
  | .control => handleControl
  | .dnsUpstream events => handleDnsUpstream cfg events
  | .socket id events => handleSocket cfg id events
  | .udpSocket id events => handleUdpSocket cfg id events
  | .socksControl id events => handleSocksControl cfg id events
  | .socksRelay id events => handleSocksRelay cfg id events
  | .endOfBatch => endOfBatch cfg

/-- What handling an event comes to when the kernel answers as given. -/
def outcome (s : Reactor) (event : Event) (answers : Kernel) : EStateM.Result Error Reactor Unit :=
  handle cfg event { s with kernel := answers }

/-- The states between two handlers of a run. -/
inductive Reachable : Reactor → Prop
  | start (kernel : Kernel) (test : TestHooks) (queryTimeout now : Millis) :
      Reachable (Reactor.new cfg kernel test queryTimeout now)
  | step {s t : Reactor} (event : Event) (answers : Kernel) :
      Reachable s → outcome cfg s event answers = .ok () t → Reachable t

/-- The states a handler of a run ends in, whether it succeeds or fails. -/
inductive Visited : Reactor → Prop
  | start (kernel : Kernel) (test : TestHooks) (queryTimeout now : Millis) :
      Visited (Reactor.new cfg kernel test queryTimeout now)
  | step {s : Reactor} (event : Event) (answers : Kernel) :
      Reachable cfg s → Visited (EffectLogic.final (outcome cfg s event answers))

theorem Reachable.visited {s : Reactor} (h : Reachable cfg s) : Visited cfg s := by
  cases h with
  | start kernel test queryTimeout now => exact .start kernel test queryTimeout now
  | step event answers hs ho =>
    have hv := Visited.step event answers hs
    rw [ho] at hv
    exact hv

/-- Replays events with the answers given for each; the state after the last one. -/
def replay : List (Event × Kernel) → Reactor → Option Reactor
  | [], s => some s
  | (event, answers) :: rest, s =>
    match outcome cfg s event answers with
    | .ok () t => replay rest t
    | .error _ _ => none

theorem reachable_of_replay {s t : Reactor} (script : List (Event × Kernel)) (hs : Reachable cfg s)
    (h : replay cfg script s = some t) : Reachable cfg t := by
  induction script generalizing s with
  | nil =>
    cases h
    exact hs
  | cons step script ih =>
    obtain ⟨event, answers⟩ := step
    unfold replay at h
    split at h
    · rename_i u hu
      exact ih (.step event answers hs hu) h
    · cases h

end Reactor

end Yayatht
