import Yayatht.ReactorTcp

set_option autoImplicit false

namespace Yayatht
open Sequence

/-- Largest payload of one send: a super-frame with offload, else one segment. -/
def maxSend (cfg : Config) (key : FlowKey) (mss : ℕ) : ℕ :=
  if cfg.vnetLen > 0 then gsoMaxL3Bytes - ipHeaderLen key.target - tcpMinHeaderLen else mss

namespace FlowEntry

def retransmitDue (e : FlowEntry) (now : Millis) : Bool :=
  e.zeroWindowProbe.isNone &&
    e.sentSegments.head?.any fun segment => segment.retransmitTimeout ≤ now - segment.lastSent

def retriesExhausted (e : FlowEntry) : Bool := e.sentSegments.head?.any SentSegment.retriesExhausted

def probeDue (e : FlowEntry) (now : Millis) : Bool :=
  e.zeroWindowProbe.any fun probe => probe.deadline ≤ now

end FlowEntry

namespace Reactor

variable (cfg : Config)

def fetchSocketData (id : FlowId) : ℕ → Io Unit
  | 0 => pure ()
  | budget + 1 => do
    if (← framesAvailable) = 0 then noteFramePoolExhaustion
    else if ← flowBusy id then pure ()
    else
      let e ← flowEntry id
      let sides ← ensure "inactive flow reached socket reader" e.construction.activeSides
      let window := e.flow.availableNamespaceWindow
      if (e.flow.state ≠ .established ∧ e.flow.state ≠ .namespaceFinReceived) ∨ window = 0 then pure ()
      else
        let s ← get
        let retainedAvailable := cfg.maxRetainedTcpBytes - s.retainedSocketBytes
        if retainedAvailable = 0 then
          modify fun s =>
            { s with
              metrics := { s.metrics with retainedLimitHits := s.metrics.retainedLimitHits + 1 } }
        else
          match ← peekSocketFrame cfg id e.retained
              (min (min (maxSend cfg sides.namespaceKey e.flow.mss) window) retainedAvailable) with
          | .eof =>
            let e ← flowEntry id
            let plan ← ensure "unable to plan FIN" (e.flow.planSend 0 true)
            let frame ← buildFlowFrame cfg id plan [] { fin := true, ack := true }
            queueTap cfg (some id) frame (some plan)
            fetchSocketData id budget
          | .data slot bytes =>
            let e ← flowEntry id
            let plan ← ensure "unable to plan TCP payload" (e.flow.planSend bytes.length false)
            modifyEntry id fun e => { e with lastNamespaceByte := bytes.getLast? }
            let frame ← finalizeFlowPayloadFrame cfg id slot plan { psh := true, ack := true } bytes
            queueTap cfg (some id) frame (some plan)
            fetchSocketData id budget
          | .wouldBlock => pure ()

def sendSocketData (id : FlowId) : Io Unit := fetchSocketData cfg id tapTxBudget

def queueSynAck (id : FlowId) (plan : SendPlan) : Io Unit := do
  let frame ← buildFlowFrame cfg id plan [] { syn := true, ack := true }
  queueTap cfg (some id) frame (some plan)

def activateFlow (id : FlowId) : Io Unit := do
  let _ ← flowEntry id
  match ← setPeekOffset id 0 with
  | .error _ => failTcpFlow cfg id
  | .ok () =>
    match ← Call.enableTxAckTimestamps with
    | .error _ => failTcpFlow cfg id
    | .ok () =>
      match ← Call.bytesAcked with
      | .error _ => failTcpFlow cfg id
      | .ok bytesAcked =>
        let _ ← updateNamespaceWindow cfg id
        let e ← flowEntry id
        note (.activated id e (← flowBusy id))
        let (flow, plan) := e.flow.socketConnected bytesAcked
        modifyEntry id fun e => { e with flow := flow }
        noteFailure (.synLost id) (queueSynAck cfg id plan)

def failProxyHandshake (id : FlowId) : Io Unit := do
  modify fun s =>
    { s with metrics := { s.metrics with proxyFailures := s.metrics.proxyFailures + 1 } }
  sendResetForFlow cfg id
  closeFlow cfg id

/-- The bytes of the handshake that the kernel accepted. -/
def handshakeSent (id : FlowId) (h : Proxy.Handshake) (bytes : Bytes) : Io Unit :=
  modifyEntry id fun e =>
    { e with
      handshake := some h
      socket := { e.socket with handshakeSent := e.socket.handshakeSent ++ bytes } }

/-- Every round but the last one sends at least one byte of the output. -/
def flushProxyRounds (id : FlowId) : ℕ → Io Unit
  | 0 => pure ()
  | rounds + 1 => do
    let e ← flowEntry id
    let h ← expect "proxy handshake exists" e.handshake
    if h.output = [] then pure ()
    else
      match ← Call.send h.output.length with
      | .ok 0 => failProxyHandshake cfg id
      | .ok sent =>
        let (advanced, result) := h.advanceOutput sent
        handshakeSent id advanced (h.output.take sent)
        match result with
        | .ok () => flushProxyRounds id rounds
        | .error _ => throw (.io (.os 0))
      | .error .wouldBlock => pure ()
      | .error _ => failProxyHandshake cfg id

def flushProxyOutput (id : FlowId) : Io Unit := do
  let e ← flowEntry id
  let h ← expect "proxy handshake exists" e.handshake
  flushProxyRounds cfg id (h.output.length + 1)

def finishTransportConnect (id : FlowId) : Io Unit := do
  let _ ← flowEntry id
  if (← Call.pendingError).isSome then
    sendResetForFlow cfg id
    closeFlow cfg id
  else
    modifyEntry id fun e => { e with transportConnected := true }
    let e ← flowEntry id
    if e.handshake.isSome then flushProxyOutput cfg id else activateFlow cfg id

/-- What follows a reply the handshake understood. -/
def continueHandshake (id : FlowId) : Io Unit := do
  let e ← flowEntry id
  let h ← expect "proxy handshake exists" e.handshake
  if h.isComplete then
    modifyEntry id fun e => { e with handshake := none }
    modify fun s =>
      { s with metrics := { s.metrics with proxyHandshakes := s.metrics.proxyHandshakes + 1 } }
    activateFlow cfg id
  else flushProxyOutput cfg id

def receiveProxyInput (id : FlowId) : Io Unit := do
  let _ ← flowEntry id
  match ← peekSocket id proxyResponseCapacity with
  | .error .wouldBlock => pure ()
  | .error _ => failProxyHandshake cfg id
  | .ok [] => failProxyHandshake cfg id
  | .ok response =>
    let e ← flowEntry id
    let h ← expect "proxy handshake exists" e.handshake
    let (received, result) := h.receive response
    modifyEntry id fun e => { e with handshake := some received }
    match result with
    | .error _ => failProxyHandshake cfg id
    | .ok 0 => continueHandshake cfg id
    | .ok consumed =>
      match ← discardSocket id consumed with
      | .error _ => failProxyHandshake cfg id
      | .ok discarded =>
        if discarded ≠ consumed then failProxyHandshake cfg id else continueHandshake cfg id

def consumeAckRefreshSuppression : Io Bool := do
  let s ← get
  if s.test.suppressEventAckRefresh > 0 then
    set { s with
      test := { s.test with suppressEventAckRefresh := s.test.suppressEventAckRefresh - 1 } }
    pure true
  else pure false

/-- The part of a socket event that belongs to an established flow. -/
def handleStreamEvents (id : FlowId) (events : UInt32) : Io Unit := do
  if has events writable then flushSocketQueue cfg id else pure ()
  if ← consumeAckRefreshSuppression then pure ()
  else
    let _ ← refreshUpstreamAck cfg id
    pure ()
  if has events (readable ||| readHangup) then sendSocketData cfg id else pure ()

/-- Whether the flow can go on to its stream after the handshake part of the event. -/
def handleHandshakeEvents (id : FlowId) (events : UInt32) : Io Bool := do
  if has events writable then flushProxyOutput cfg id else pure ()
  if ← flowIsClosed id then pure false
  else
    if has events (readable ||| readHangup) then receiveProxyInput cfg id else pure ()
    if ← flowIsClosed id then pure false
    else
      let s ← get
      pure ((s.flows.get id).any fun e => e.handshake.isNone)

/-- Whether the flow survived the error part of the event. -/
def handleErrorEvent (id : FlowId) (events : UInt32) : Io Bool := do
  if has events errorEvent then
    let _ ← flowEntry id
    if (← Call.pendingError).isSome then
      sendResetForFlow cfg id
      closeFlow cfg id
      pure false
    else
      let drain ← Call.drainTxTimestamps
      if drain.2 > 0 then
        sendResetForFlow cfg id
        closeFlow cfg id
        pure false
      else pure true
  else pure true

def handleSocketEvents (id : FlowId) (events : UInt32) : Io Unit := do
  if ← flowIsClosed id then pure ()
  else if ← handleErrorEvent cfg id events then
    let e ← flowEntry id
    if e.transportConnected = false ∧ has events writable then finishTransportConnect cfg id
    else pure ()
    if ← flowIsClosed id then pure ()
    else
      let e ← flowEntry id
      if e.handshake.isSome then
        if ← handleHandshakeEvents cfg id events then handleStreamEvents cfg id events else pure ()
      else handleStreamEvents cfg id events
  else pure ()

def handleSocket (id : FlowId) (events : UInt32) : Io Unit := do
  handleSocketEvents cfg id events
  updateSocketInterest id

def queueAckRefresh (id : FlowId) : Io Unit :=
  modify fun s =>
    if id ∈ s.ackRefreshQueue then s else { s with ackRefreshQueue := s.ackRefreshQueue ++ [id] }

/-- The queue is popped from its end. -/
def flushAckRefreshes : ℕ → Io Unit
  | 0 => pure ()
  | count + 1 => do
    let s ← get
    match s.ackRefreshQueue.getLast? with
    | none => pure ()
    | some id =>
      set { s with ackRefreshQueue := s.ackRefreshQueue.dropLast }
      if ← flowIsClosed id then flushAckRefreshes count
      else
        if ← consumeAckRefreshSuppression then pure ()
        else
          let _ ← refreshUpstreamAck cfg id
          pure ()
        updateSocketInterest id
        flushAckRefreshes count

def flushAckRefresh : Io Unit := do
  let s ← get
  flushAckRefreshes cfg s.ackRefreshQueue.length

/-- Receives a segment and settles what it acknowledges. -/
def receiveSegment (id : FlowId) (segment : TcpSegment) : Io ReceiveDisposition := do
  let s ← get
  let e ← ensure "flow disappeared" (s.flows.get id)
  note (.segment id e segment)
  let (received, disposition) := e.received segment
  modifyEntry id fun _ => received
  if disposition = .reset then pure disposition
  else
    refreshWindowClamp id
    refreshZeroWindowProbe id (← Call.now)
    settleAcknowledgment id e.flow.localUnacked
    pure disposition

def closeIfTimeWait (id : FlowId) : Io Unit := do
  let s ← get
  match s.flows.get id with
  | none => pure ()
  | some e =>
    if e.flow.state = .timeWait then
      note (.timeWait id e)
      closeFlow cfg id
    else pure ()

def finishSegment (id : FlowId) : Io Unit := do
  queueAckRefresh id
  closeIfTimeWait cfg id

def handleExistingTcp (id : FlowId) (segment : TcpSegment) : Io Unit := do
  let e ← flowEntry id
  if segment.flags.syn ∧ segment.flags.ack = false ∧ e.flow.state = .connecting then pure ()
  else if segment.flags.syn ∧ segment.flags.ack = false ∧ e.flow.state = .synReceived then
    retransmitOldest cfg id false
  else
    match ← receiveSegment id segment with
    | .reset => closeFlow cfg id
    | .inOrder payloadLen fin =>
      let delivered ← if payloadLen > 0 then submitNamespacePayload cfg id segment.payload else pure true
      if delivered then
        if fin then
          forwardFin id
          sendFinAck cfg id
        else pure ()
        finishSegment cfg id
      else pure ()
    | .duplicate => do
      sendAck cfg id
      finishSegment cfg id
    | .outOfOrder => do
      sendAck cfg id
      finishSegment cfg id
    | .outsideWindow => do
      sendAck cfg id
      finishSegment cfg id
    | .invalid => do
      closeFlow cfg id
      finishSegment cfg id

def gatewayDns (target : SocketAddr) : Bool :=
  target.port = 53 &&
    match target.ip with
    | .v4 ip => cfg.gatewayIpv4 = some ip
    | .v6 ip => cfg.gatewayIpv6 = some ip

def dnsProxyTcpIntercepts (target : SocketAddr) : Bool := cfg.dnsProxyTcp && gatewayDns cfg target

def dnsProxyUdpIntercepts (target : SocketAddr) : Bool := cfg.dnsProxyUdp && gatewayDns cfg target

/-- The host loopback stands for the gateway when that is allowed. -/
def loopbackFor (hostLoopback : Bool) (target : SocketAddr) : SocketAddr :=
  if hostLoopback then
    match target with
    | .v4 ip port => if cfg.gatewayIpv4 = some ip then .v4 localhostV4 port else target
    | .v6 ip port _ _ => if cfg.gatewayIpv6 = some ip then .v6 localhostV6 port 0 0 else target
  else target

def routeTarget (logical : SocketAddr) : FlowInterface × SocketAddr :=
  match cfg.upstream with
  | .proxy _ address _ => (.proxyTunnel, address)
  | .direct hostLoopback => (.hostSocket, loopbackFor cfg hostLoopback logical)

def proxyHandshake (logical : SocketAddr) : Option Proxy.Handshake :=
  match cfg.upstream with
  | .direct _ => none
  | .proxy protocol _ credentials =>
    (Proxy.Handshake.new protocol .connect logical credentials).toOption

def negotiatedMss (key : FlowKey) (offered : Option UInt16) : ℕ :=
  let defaultMss := cfg.tapMtu - (if key.target.isIpv4 then 40 else 60)
  min (((offered.map UInt16.toNat).filter fun mss => 536 ≤ mss).getD defaultMss) defaultMss

def windowShifts (offered : Option UInt8) : ℕ × ℕ :=
  match offered with
  | some shift => (min shift.toNat maxPeerWindowShift, windowScaleShift)
  | none => (0, 0)

def constructFlow (key : FlowKey) (targetSide : FlowSide) : Io FlowConstruction := do
  let c : FlowConstruction := {}
  let c ← ensure "unable to set initiating flow side"
    (c.setInitiating ⟨.namespaceTap, key.target, key.namespaceEnd, key.namespaceEnd⟩).toOption
  let c ← ensure "unable to set target flow side" (c.setTarget targetSide).toOption
  ensure "unable to type TCP flow" (c.setType .tcp).toOption

def newEntry (key : FlowKey) (segment : TcpSegment) (construction : FlowConstruction)
    (localInitial : Seq) (logicalTarget : SocketAddr) (buffers : ℕ × ℕ) : FlowEntry where
  flow := Flow.new segment.sequence localInitial (negotiatedMss cfg key segment.mss)
    (windowShifts segment.windowScale).1 (windowShifts segment.windowScale).2
  construction := construction
  socket := {}
  transportConnected := false
  armedSocketInterest := socketInterest true false false
  handshake := proxyHandshake cfg logicalTarget
  pendingSocket := PendingSocketQueue.new maxPendingSocketBytes
  pendingShutdown := false
  sentSegments := []
  upstreamWindowClamp := none
  zeroWindowProbe := none
  lastNamespaceByte := none
  socketReceiveBufferBytes := buffers.1
  socketSendBufferBytes := buffers.2

/-- Registers a flow under its key; `none` when the table is full. -/
def registerFlow (key : FlowKey) (entry : FlowEntry) : Io (Option FlowId) := do
  let s ← get
  match s.flows.insert entry with
  | (flows, .error _) =>
    set { s with flows := flows }
    pure none
  | (flows, .ok id) =>
    let m := s.metrics
    let active := m.activeTcpFlows + 1
    let receive := m.socketReceiveBufferBytes + entry.socketReceiveBufferBytes
    let send := m.socketSendBufferBytes + entry.socketSendBufferBytes
    set { s with
      flows := flows
      byKey := s.byKey.insert key id
      metrics :=
        { m with
          activeTcpFlows := active
          peakTcpFlows := max m.peakTcpFlows active
          socketReceiveBufferBytes := receive
          peakSocketReceiveBufferBytes := max m.peakSocketReceiveBufferBytes receive
          socketSendBufferBytes := send
          peakSocketSendBufferBytes := max m.peakSocketSendBufferBytes send } }
    note (.created id)
    pure (some id)

/-- Adds the socket to the event loop and marks the construction active. -/
def startFlow (id : FlowId) : Io Unit := do
  if tokenFits id then
    let _ ← flowEntry id
    Call.epollAdd
    let e ← flowEntry id
    let active ← ensure "unable to activate TCP flow" e.construction.activate.toOption
    modifyEntry id fun e => { e with construction := active.1 }
    modify fun s => { s with metrics := { s.metrics with tcpCreated := s.metrics.tcpCreated + 1 } }
  else throw (.invariant "unable to encode flow token")

def connectFlow (key : FlowKey) (segment : TcpSegment) (logicalTarget : SocketAddr) : Io Unit := do
  let (targetInterface, transportPeer) := routeTarget cfg logicalTarget
  match ← Call.connect transportPeer with
  | .error _ => refuseSyn cfg key segment.sequence
  | .ok connected =>
    let localEndpoint ← orThrow (← Call.localAddress)
    let buffers ← Call.bufferSizes
    let random ← Call.random
    let s ← get
    let construction ← constructFlow key ⟨targetInterface, localEndpoint, logicalTarget, transportPeer⟩
    match ← registerFlow key
        (newEntry cfg key segment construction (s.test.localIsn.getD random) logicalTarget buffers) with
    | none => refuseSyn cfg key segment.sequence
    | some id =>
      note (.accepted id segment)
      startFlow id
      let connected ← if connected then pure true else Call.pollWritable
      if connected then
        finishTransportConnect cfg id
        updateSocketInterest id
      else pure ()

def handleTcp (key : FlowKey) (segment : TcpSegment) : Io Unit := do
  let s ← get
  match s.byKey.find? key with
  | some id => handleExistingTcp cfg id segment
  | none =>
    if segment.flags.syn = false ∨ segment.flags.ack ∨ segment.flags.rst then pure ()
    else if dnsProxyTcpIntercepts cfg key.target then
      match cfg.dnsUpstream with
      | some resolver => connectFlow cfg key segment resolver
      | none => do
        let frame ← buildReset cfg key (segment.sequence + 1)
        countReset
        modify fun s => { s with metrics := { s.metrics with dnsRefused := s.metrics.dnsRefused + 1 } }
        queueTap cfg none frame none
    else connectFlow cfg key segment key.target

/-- The end of a watchdog round that found an advance without a notification. -/
def confirmTailRecovery (id : FlowId) : Io Unit := do
  let redrain ← Call.drainTxTimestamps
  if redrain.2 > 0 then
    sendResetForFlow cfg id
    closeFlow cfg id
  else if redrain.1 = 0 then
    modify fun s =>
      { s with
        metrics :=
          { s.metrics with txAckWatchdogTailRecoveries := s.metrics.txAckWatchdogTailRecoveries + 1 } }
  else pure ()

def watchdogRefresh (id : FlowId) (notified : Bool) : Io Unit := do
  if ← refreshUpstreamAck cfg id then
    modify fun s =>
      { s with
        metrics := { s.metrics with txAckWatchdogAdvances := s.metrics.txAckWatchdogAdvances + 1 } }
    if notified then pure ()
    else if ← flowIsClosed id then pure ()
    else
      let e ← flowEntry id
      if e.flow.upstreamUnacked > 0 then pure () else confirmTailRecovery cfg id
  else pure ()

def watchdogUpstreamAck (id : FlowId) : Io Unit := do
  if (← framesAvailable) = 0 then pure ()
  else if ← flowIsClosed id then pure ()
  else
    let e ← flowEntry id
    if e.flow.upstreamUnacked = 0 then pure ()
    else
      let drain ← Call.drainTxTimestamps
      if drain.2 > 0 then
        sendResetForFlow cfg id
        closeFlow cfg id
      else watchdogRefresh cfg id (drain.1 > 0)

/-- What is due for one flow on a timer tick, after the retransmission. -/
def serviceProbe (id : FlowId) (now : Millis) : Io Unit := do
  let s ← get
  if (s.flows.get id).any fun e => e.probeDue now then sendZeroWindowProbe cfg id now else pure ()
  watchdogUpstreamAck cfg id

def serviceFlow (id : FlowId) (now : Millis) : Io Unit := do
  let e ← flowEntry id
  note (.serviced id e now)
  if e.retransmitDue now then
    if e.retriesExhausted then
      sendResetForFlow cfg id
      closeFlow cfg id
    else
      retransmitOldest cfg id true
      serviceProbe cfg id now
  else serviceProbe cfg id now

def serviceFlows (now : Millis) : List FlowId → Io Unit
  | [] => pure ()
  | id :: ids => do
    if (← framesAvailable) = 0 then
      noteFramePoolExhaustion
      modify fun s => { s with timerCursorSlot := id.slot }
    else
      serviceFlow cfg id now
      serviceFlows now ids

/-- The flows in slot order, starting at the timer cursor. -/
def timerOrder (s : Reactor) : List FlowId :=
  let ids := s.flows.activeIds
  let start := (ids.takeWhile fun id => id.slot < s.timerCursorSlot).length % ids.length
  ids.drop start ++ ids.take start

def handleFlowTimers (now : Millis) : Io Unit := do
  let s ← get
  serviceFlows cfg now (timerOrder s)

def pressFlows : List FlowId → Io Unit
  | [] => pure ()
  | id :: ids => do
    if ← flowIsClosed id then pressFlows ids
    else if (← framesAvailable) = 0 then
      noteFramePoolExhaustion
      modify fun s => { s with pendingPressureDirty := true }
    else
      if ← updateNamespaceWindow cfg id then sendAck cfg id else pure ()
      pressFlows ids

def applyPendingPressure : Io Unit := do
  let s ← get
  if s.pendingPressureDirty then
    set { s with pendingPressureDirty := false }
    pressFlows cfg s.flows.activeIds
  else pure ()

def cleanupClosed : Io Unit :=
  modify fun s =>
    let (flows, removed) := s.flows.flushDeferred
    { s with
      flows := flows
      metrics := { s.metrics with tcpClosed := s.metrics.tcpClosed + removed.length } }

def closeFlows : List FlowId → Io Unit
  | [] => pure ()
  | id :: ids => do
    closeFlow cfg id
    closeFlows ids

end Reactor

end Yayatht
