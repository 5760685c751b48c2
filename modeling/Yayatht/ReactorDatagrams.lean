import Yayatht.ReactorFlows

set_option autoImplicit false

namespace Yayatht

def udpErrorLength (room : ℕ) (key : Udp.FlowKey) (quoted originalLen : ℕ) : Except PacketError ℕ :=
  if key.source.isIpv4 ≠ key.target.isIpv4 then .error .protocolMismatch
  else
    let header := ipHeaderLen key.source
    let total := header + (8 + (header + udpHeaderLen + quoted))
    let overhead := if key.source.isIpv4 then 20 else 0
    if room < total then .error .truncated
    else if overhead + udpHeaderLen + originalLen > u16Max then .error .invalidLength
    else .ok total

namespace Reactor

variable (cfg : Config)

/-- Length of the frame around a datagram to `client`. -/
def udpFrameLen (client : SocketAddr) (payloadLen : ℕ) : ℕ :=
  cfg.vnetLen + ethernetHeaderLen + ipHeaderLen client + udpHeaderLen + payloadLen

/-- `false` when the frame pool is dry and the datagram was dropped. -/
def queueUdpFrame (client gateway : SocketAddr) (payload : Bytes) : Io Bool := do
  note (.datagram client gateway payload)
  let s ← get
  set { s with framePool := s.framePool.acquire.1 }
  match s.framePool.acquire.2 with
  | none =>
    noteFramePoolExhaustion
    pure false
  | some index =>
    let slot : FrameSlot := ⟨.mtu, index⟩
    let len := udpFrameLen cfg client payload.length
    if len > cfg.capacity slot.tier then
      releaseFrame slot
      throw (.invariant "DNS reply exceeds frame capacity")
    else if udpHeaderLen + payload.length > u16Max then
      releaseFrame slot
      throw (.packet .invalidLength)
    else if gateway.isIpv4 ≠ client.isIpv4 then
      releaseFrame slot
      throw (.packet .protocolMismatch)
    else
      queueTap cfg none ⟨slot, .udp client gateway payload, len⟩ none
      pure true

def queueUdpIcmpFor (key : Udp.FlowKey) (payload : Bytes) (originalLen : ℕ) (error : UdpError) :
    Io Unit := do
  let s ← get
  set { s with framePool := s.framePool.acquire.1 }
  match s.framePool.acquire.2 with
  | none =>
    noteFramePoolExhaustion
    modify fun s =>
      { s with metrics := { s.metrics with udpQueueDrops := s.metrics.udpQueueDrops + 1 } }
  | some index =>
    let slot : FrameSlot := ⟨.mtu, index⟩
    let ipOffset := cfg.vnetLen + ethernetHeaderLen
    let quoted := payload.take 8
    match udpErrorLength (cfg.capacity .mtu - ipOffset) key quoted.length originalLen with
    | .error error =>
      releaseFrame slot
      throw (.packet error)
    | .ok length =>
      modify fun s =>
        { s with metrics := { s.metrics with udpIcmpErrors := s.metrics.udpIcmpErrors + 1 } }
      queueTap cfg none ⟨slot, .udpError key quoted originalLen error, ipOffset + length⟩ none

def queueUdpIcmpError (id : FlowId) (error : UdpError) : Io Unit := do
  let s ← get
  match s.udpEngine.flow id, s.udpSockets.find? id with
  | some flow, some entry => queueUdpIcmpFor cfg flow.key entry.payloadPrefix entry.payloadLen error
  | _, _ => pure ()

def countUdpQueueDrop : Io Unit :=
  modify fun s => { s with metrics := { s.metrics with udpQueueDrops := s.metrics.udpQueueDrops + 1 } }

def countUdpSent : Io Unit :=
  modify fun s =>
    { s with metrics := { s.metrics with udpDatagramsSent := s.metrics.udpDatagramsSent + 1 } }

def refreshUdpMetrics : Io Unit :=
  modify fun s =>
    let flows := s.udpEngine.activeFlows
    let associations := s.udpEngine.activeAssociations
    { s with
      metrics :=
        { s.metrics with
          activeUdpFlows := flows
          peakUdpFlows := max s.metrics.peakUdpFlows flows
          activeUdpAssociations := associations
          peakUdpAssociations := max s.metrics.peakUdpAssociations associations } }

def dropUdpSocket (id : FlowId) : Io Unit := do
  let s ← get
  if s.udpSockets.contains id then
    set { s with udpSockets := s.udpSockets.erase id }
    Call.epollDelete
  else pure ()

def deleteIf (registered : Bool) : Io Unit := if registered then Call.epollDelete else pure ()

def removeSocksAssociation (id : FlowId) : Io Unit := do
  let s ← get
  match s.socksAssociations.get id with
  | none => pure ()
  | some association =>
    set { s with
      socksAssociations :=
        s.socksAssociations.modify id fun a => { a with control := false, relay := false } }
    deleteIf association.control
    deleteIf association.relay
    modify fun s =>
      { s with
        socksByKey := s.socksByKey.erase association.key
        socksAssociations := (s.socksAssociations.deferRemove id).flushDeferred.1 }

def closeUdpFlow (id : FlowId) : Io Unit := do
  let s ← get
  match s.udpEngine.flow id with
  | none => pure ()
  | some flow =>
    let engine := (s.udpEngine.remove id).1
    let closed := s.udpEngine.activeAssociations - engine.activeAssociations
    set { s with
      udpEngine := engine
      metrics :=
        { s.metrics with udpAssociationsClosed := s.metrics.udpAssociationsClosed + closed } }
    dropUdpSocket id
    modify fun s => { s with metrics := { s.metrics with udpClosed := s.metrics.udpClosed + 1 } }
    let s ← get
    if s.udpEngine.hasAssociation flow.key.association then pure ()
    else
      match s.socksByKey.find? flow.key.association with
      | some association => removeSocksAssociation association
      | none => pure ()
    refreshUdpMetrics

/-- The ICMP error that an error-queue message stands for. -/
def udpErrorOf (error : UdpSocketError) : Option UdpError :=
  match error.family with
  | .ipv4 =>
    if error.kind = 3 then
      if error.code = 4 then some (.packetTooBig error.info) else some (.destinationUnreachable error.code)
    else none
  | .ipv6 =>
    if error.kind = 2 then some (.packetTooBig error.info)
    else if error.kind = 1 then some (.destinationUnreachable error.code)
    else none

def udpErrorMapped (source : SocketAddr) (error : UdpSocketError) : Bool :=
  (match error.family with
    | .ipv4 => source.isIpv4 && error.origin == 2
    | .ipv6 => !source.isIpv4 && error.origin == 3) &&
    error.hasPacketInfo

def countUnmapped : Io Unit :=
  modify fun s =>
    { s with metrics := { s.metrics with udpUnmappedErrors := s.metrics.udpUnmappedErrors + 1 } }

/-- Whether the flow is still there after its error messages. -/
def relayUdpErrors (id : FlowId) : List UdpSocketError → Io Bool
  | [] => pure true
  | error :: errors => do
    modify fun s =>
      { s with metrics := { s.metrics with udpSocketErrors := s.metrics.udpSocketErrors + 1 } }
    let s ← get
    match s.udpEngine.flow id with
    | none => pure false
    | some flow =>
      if udpErrorMapped flow.key.source error then
        match udpErrorOf error with
        | some icmp => queueUdpIcmpError cfg id icmp
        | none => countUnmapped
      else countUnmapped
      relayUdpErrors id errors

def handleUdpErrors (id : FlowId) : Io Unit := do
  let s ← get
  if s.udpSockets.contains id then
    let (errors, last) ← Call.udpErrors
    if ← relayUdpErrors cfg id errors then
      match last with
      | .ok () => pure ()
      | .error _ => closeUdpFlow id
    else pure ()
  else pure ()

/-- One datagram from the socket of a direct flow; `false` when the flow is gone. -/
def receiveUdpDatagram (id : FlowId) (datagram : Bytes) : Io Bool := do
  if datagram.length > cfg.udpRxCapacity then
    countUdpQueueDrop
    pure true
  else
    let s ← get
    match s.udpEngine.flow id with
    | none => pure false
    | some flow =>
      let now ← Call.now
      modify fun s =>
        { s with
          udpEngine := s.udpEngine.recordInbound id now
          metrics := { s.metrics with udpDatagramsReceived := s.metrics.udpDatagramsReceived + 1 } }
      if ← queueUdpFrame cfg flow.key.source flow.replySource datagram then pure ()
      else countUdpQueueDrop
      pure true

def receiveUdpDatagrams (id : FlowId) : ℕ → Io Unit
  | 0 => pure ()
  | budget + 1 => do
    match ← Call.recvDatagram with
    | .ok datagram =>
      if ← receiveUdpDatagram cfg id datagram then receiveUdpDatagrams id budget else pure ()
    | .error .wouldBlock => pure ()
    | .error error =>
      if error = connectionRefused then handleUdpErrors cfg id else closeUdpFlow id

def handleUdpSocket (id : FlowId) (events : UInt32) : Io Unit := do
  let s ← get
  if (s.udpEngine.flow id).isNone then pure ()
  else
    if has events errorEvent then handleUdpErrors cfg id else pure ()
    let s ← get
    if (s.udpEngine.flow id).isNone ∨ has events readable = false then pure ()
    else if s.udpSockets.contains id then receiveUdpDatagrams cfg id udpRxBudget
    else pure ()

/-- Remembers the start of the datagram for a later ICMP quote and sends it. -/
def sendUdpDatagram (id : FlowId) (source : SocketAddr) (message : Bytes) : Io Unit := do
  let s ← get
  if s.udpSockets.contains id then
    set { s with udpSockets := s.udpSockets.insert id ⟨message.take 8, message.length⟩ }
    match ← Call.send message.length with
    | .ok length => if length = message.length then countUdpSent else countUdpQueueDrop
    | .error .wouldBlock => countUdpQueueDrop
    | .error error =>
      if error = connectionRefused then
        queueUdpIcmpError cfg id (.destinationUnreachable (if source.isIpv4 then 3 else 4))
      else closeUdpFlow id
  else throw (.invariant "UDP engine has no socket")

def countAcceptError (error : Udp.AcceptError) : Io Unit :=
  modify fun s =>
    match error with
    | .flowLimit =>
      { s with metrics := { s.metrics with udpFlowLimitDrops := s.metrics.udpFlowLimitDrops + 1 } }
    | .associationLimit =>
      { s with
        metrics :=
          { s.metrics with udpAssociationLimitDrops := s.metrics.udpAssociationLimitDrops + 1 } }
    | _ => s

def countUdpCreated (accepted : Udp.Accept) : Io Unit := do
  modify fun s =>
    { s with
      metrics :=
        { s.metrics with
          udpCreated := s.metrics.udpCreated + 1
          udpAssociationsCreated :=
            s.metrics.udpAssociationsCreated + accepted.associationCreated.toNat } }
  refreshUdpMetrics

def acceptUdp (key : Udp.FlowKey) (replySource : SocketAddr) (now : Millis) :
    Io (Except Udp.AcceptError Udp.Accept) := do
  let s ← get
  let (engine, result) := s.udpEngine.acceptRouted key replySource now
  set { s with udpEngine := engine }
  pure result

/-- Opens the socket of a new direct flow; `false` when there is none. -/
def openUdpSocket (accepted : Udp.Accept) (peer : SocketAddr) : Io Bool := do
  match ← Call.connectUdp peer with
  | .error _ =>
    modify fun s => { s with udpEngine := (s.udpEngine.remove accepted.id).1 }
    refreshUdpMetrics
    pure false
  | .ok () =>
    if tokenFits accepted.id then
      Call.epollAdd
      modify fun s => { s with udpSockets := s.udpSockets.insert accepted.id ⟨[], 0⟩ }
      countUdpCreated accepted
      pure true
    else throw (.invariant "UDP flow does not fit epoll token")

def forwardDirectUdp (source target transportTarget : SocketAddr) (message : Bytes) : Io Unit := do
  let now ← Call.now
  match ← acceptUdp ⟨source, target⟩ target now with
  | .error error => countAcceptError error
  | .ok accepted =>
    let ready ← if accepted.created then openUdpSocket accepted transportTarget else pure true
    if ready then sendUdpDatagram cfg accepted.id source message else pure ()

end Reactor

end Yayatht
