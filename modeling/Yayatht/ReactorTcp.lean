import Yayatht.ReactorFrames

set_option autoImplicit false

/-!
# TCP flows

The namespace side of a flow is a TCP endpoint kept by `Flow`; the upstream
side is a kernel socket. Payload from the namespace is submitted to the socket
or waits in the pending queue; payload from the socket is peeked, framed, and
taken off the receive queue once the namespace acknowledged it.
-/
namespace Yayatht
open Sequence

def pendingPressureState (current : Bool) (bytes limit : ℕ) : Bool :=
  if current then bytes > limit * 3 / 4 else bytes ≥ limit * 7 / 8

def socketInterest (connectPending handshakeOutputPending queuedPayload : Bool) : UInt32 :=
  let base := readable ||| errorEvent ||| readHangup
  if connectPending || handshakeOutputPending || queuedPayload then base ||| writable else base

def FlowEntry.desiredSocketInterest (e : FlowEntry) : UInt32 :=
  socketInterest (!e.transportConnected) (e.handshake.any fun h => h.output ≠ [])
    (!e.pendingSocket.isEmpty)

namespace FlowEntry

def shouldProbe (e : FlowEntry) : Bool :=
  e.flow.peerWindow = 0 ∧ (e.flow.state = .established ∨ e.flow.state = .namespaceFinReceived)

/-- Arms or disarms the zero-window probe. -/
def probed (e : FlowEntry) (now : Millis) : FlowEntry :=
  match e.zeroWindowProbe.isSome, e.shouldProbe with
  | false, true => { e with zeroWindowProbe := some (ZeroWindowProbe.new now) }
  | true, false => { e with zeroWindowProbe := none }
  | _, _ => e

def received (e : FlowEntry) (segment : TcpSegment) : FlowEntry × ReceiveDisposition :=
  let (flow, disposition) :=
    e.flow.receive segment.sequence (if segment.flags.ack then some segment.acknowledgment else none)
      segment.window.toNat segment.payload.length segment.flags.fin segment.flags.rst
  ({ e with flow := flow }, disposition)

end FlowEntry

inductive PeekedFrame where
  | data (slot : FrameSlot) (bytes : Bytes)
  | eof
  | wouldBlock

namespace Reactor

variable (cfg : Config)

def updatePendingPressureState : Io Unit :=
  modify fun s =>
    let pressured := pendingPressureState s.pendingPressure s.pendingSocketBytes cfg.maxPendingTcpBytes
    if pressured ≠ s.pendingPressure then
      { s with
        pendingPressure := pressured
        pendingPressureDirty := true
        metrics :=
          if pressured then
            { s.metrics with pendingHighWaterEvents := s.metrics.pendingHighWaterEvents + 1 }
          else s.metrics }
    else s

/-- Gives the queued frames of a closing flow back. -/
def dropFlowFrames : List QueuedFrame → Io Unit
  | [] => pure ()
  | queued :: rest => do
    releaseRetainedBytes queued.reservedRetained
    releaseFrame queued.frame.slot
    dropFlowFrames rest

/-- The accounting that `closeFlow` gives back. -/
def releaseAccounting (id : FlowId) (key : FlowKey) (e : FlowEntry) : Io Unit := do
  note (.released id e)
  let s ← get
  set { s with
    byKey := s.byKey.erase key
    tapQueue := s.tapQueue.filter fun queued => queued.flow ≠ some id }
  dropFlowFrames (s.tapQueue.filter fun queued => queued.flow = some id)
  modify fun s =>
    let pending := s.pendingSocketBytes - e.pendingSocket.bytes
    { s with
      pendingSocketBytes := pending
      metrics := { s.metrics with pendingTcpBytes := pending } }
  updatePendingPressureState cfg
  releaseRetainedBytes e.retained
  modify fun s =>
    { s with
      metrics :=
        { s.metrics with
          activeTcpFlows := s.metrics.activeTcpFlows - 1
          socketReceiveBufferBytes := s.metrics.socketReceiveBufferBytes - e.socketReceiveBufferBytes
          socketSendBufferBytes := s.metrics.socketSendBufferBytes - e.socketSendBufferBytes
          zeroWindowFlows :=
            if e.zeroWindowProbe.isSome then s.metrics.zeroWindowFlows - 1
            else s.metrics.zeroWindowFlows } }

def closeFlow (id : FlowId) : Io Unit := do
  let s ← get
  match s.flows.get id with
  | none => pure ()
  | some e =>
    let sides ← noteFailure (.closeFailed id)
      (ensure "inactive flow reached cleanup" e.construction.activeSides)
    noteFailure (.closeFailed id) Call.epollDelete
    releaseAccounting cfg id sides.namespaceKey e
    noteFailure (.closeFailed id) updateTapInterest
    modifyEntry id fun e => { e with flow := e.flow.close }
    modify fun s => { s with flows := s.flows.deferRemove id }

def failTcpFlow (id : FlowId) : Io Unit := do
  sendResetForFlow cfg id
  closeFlow cfg id

def enqueuePendingPayload (id : FlowId) (payload : Bytes) : Io Bool := do
  let s ← get
  let e ← flowEntry id
  if payload.length > e.pendingSocket.remaining ∨
      payload.length > cfg.maxPendingTcpBytes - s.pendingSocketBytes then
    modify fun s =>
      { s with metrics := { s.metrics with pendingLimitHits := s.metrics.pendingLimitHits + 1 } }
    note (.refused id)
    failTcpFlow cfg id
    pure false
  else
    let queue ← ensure "pending socket accounting mismatch" (e.pendingSocket.push payload)
    modifyEntry id fun e => { e with pendingSocket := queue }
    modify fun s =>
      let pending := s.pendingSocketBytes + payload.length
      { s with
        pendingSocketBytes := pending
        metrics :=
          { s.metrics with
            pendingTcpBytes := pending
            peakPendingTcpBytes := max s.metrics.peakPendingTcpBytes pending } }
    updatePendingPressureState cfg
    pure true

/-- The count of bytes the queue gave up is left out: no caller uses it. -/
def consumePendingPayload (id : FlowId) (length : ℕ) : Io Unit := do
  let e ← flowEntry id
  let (queue, consumed) := e.pendingSocket.consume length
  modifyEntry id fun e => { e with pendingSocket := queue }
  modify fun s =>
    let pending := s.pendingSocketBytes - consumed
    { s with
      pendingSocketBytes := pending
      metrics := { s.metrics with pendingTcpBytes := pending } }
  updatePendingPressureState cfg

/-- `false` when the payload was refused and the flow is closed. -/
def submitNamespacePayload (id : FlowId) (payload : Bytes) : Io Bool := do
  let e ← flowEntry id
  let answer ← Call.send payload.length
  note (.offered id e payload answer)
  match answer with
  | .ok sent =>
    modifyEntry id fun e => e.submitted payload sent
    if sent < payload.length then enqueuePendingPayload cfg id (payload.drop sent) else pure true
  | .error .wouldBlock => enqueuePendingPayload cfg id payload
  | .error error => throw (.io error)

def flushSocketChunks (id : FlowId) : ℕ → Io Unit
  | 0 => pure ()
  | chunks + 1 => do
    let e ← flowEntry id
    match e.pendingSocket.front with
    | none => pure ()
    | some bytes =>
      match ← Call.send bytes.length with
      | .ok 0 => throw (.invariant "socket queue send returned zero")
      | .ok sent =>
        consumePendingPayload cfg id sent
        modifyEntry id fun e => e.submitted bytes sent
        let e ← flowEntry id
        if e.pendingSocket.isEmpty then flushSocketChunks id chunks else pure ()
      | .error .wouldBlock => pure ()
      | .error error => throw (.io error)

def flushSocketQueue (id : FlowId) : Io Unit := do
  let e ← flowEntry id
  flushSocketChunks cfg id (e.pendingSocket.chunks.length + 1)
  let e ← flowEntry id
  if e.pendingSocket.isEmpty ∧ e.pendingShutdown then
    shutdownWrite id
    modifyEntry id fun e => { e with pendingShutdown := false }
  else pure ()

def updateSocketInterest (id : FlowId) : Io Unit := do
  if ← flowIsClosed id then pure ()
  else
    let e ← flowEntry id
    if e.desiredSocketInterest = e.armedSocketInterest then pure ()
    else if tokenFits id then
      Call.epollModify
      modifyEntry id fun entry => { entry with armedSocketInterest := e.desiredSocketInterest }
    else throw (.invariant "unable to encode flow token")

def windowBudget (s : Reactor) (e : FlowEntry) : ℕ :=
  let socketAvailable := e.socketSendBufferBytes / 2 - e.flow.upstreamUnacked
  let queueAvailable := e.pendingSocket.remaining
  let globalAvailable :=
    if s.pendingPressure then 0 else cfg.maxPendingTcpBytes - s.pendingSocketBytes
  min (min (min socketAvailable queueAvailable) globalAvailable) e.flow.maxAdvertisedWindow

def updateNamespaceWindow (id : FlowId) : Io Bool := do
  let s ← get
  let e ← flowEntry id
  let (flow, changed) := e.flow.setAdvertisedWindow (windowBudget cfg s e)
  modifyEntry id fun e => { e with flow := flow }
  pure changed

/-- Whether the acknowledgment point advanced. -/
def refreshUpstreamAck (id : FlowId) : Io Bool := do
  let _ ← flowEntry id
  let acknowledged ← orThrow (← Call.bytesAcked)
  let e ← flowEntry id
  let (flow, advanced) := e.flow.recordUpstreamAck acknowledged
  modifyEntry id fun e => { e with flow := flow }
  let windowChanged ← updateNamespaceWindow cfg id
  if advanced ∨ windowChanged then
    sendAck cfg id
    pure advanced
  else pure advanced

def refreshWindowClamp (id : FlowId) : Io Unit := do
  let e ← flowEntry id
  if e.upstreamWindowClamp = some e.flow.peerWindow then pure ()
  else
    let answer ← Call.setWindowClamp
    note (.clamped id answer)
    orThrow answer
    modifyEntry id fun entry => { entry with upstreamWindowClamp := some e.flow.peerWindow }

def countProbeTransition (before after : FlowEntry) : Io Unit :=
  modify fun s =>
    match before.zeroWindowProbe.isSome, after.zeroWindowProbe.isSome with
    | false, true =>
      { s with
        metrics :=
          { s.metrics with
            zeroWindowEvents := s.metrics.zeroWindowEvents + 1
            zeroWindowFlows := s.metrics.zeroWindowFlows + 1
            peakZeroWindowFlows := max s.metrics.peakZeroWindowFlows (s.metrics.zeroWindowFlows + 1) } }
    | true, false =>
      { s with metrics := { s.metrics with zeroWindowFlows := s.metrics.zeroWindowFlows - 1 } }
    | _, _ => s

def refreshZeroWindowProbe (id : FlowId) (now : Millis) : Io Unit := do
  let e ← flowEntry id
  modifyEntry id fun e => e.probed now
  countProbeTransition e (e.probed now)

/-- Takes the payload the namespace acknowledged off the socket and trims the segments. -/
def settleAcknowledgment (id : FlowId) (previousAck : Seq) : Io Unit := do
  let e ← flowEntry id
  if e.flow.localUnacked = previousAck then pure ()
  else
    let acked := e.flow.newlyAckedPayload previousAck
    if acked > 0 then
      let answer ← discardSocket id acked
      note (.discarded id acked answer)
      let discarded ← orThrow answer
      if discarded ≠ acked then throw (.invariant "socket ACK consume length mismatch")
      else releaseRetainedBytes acked
    else pure ()
    modifyEntry id fun entry =>
      { entry with sentSegments := acknowledgeSegments e.flow.localUnacked entry.sentSegments }

/-- Hands an in-order FIN to the socket, or leaves it to the queue flush. -/
def forwardFin (id : FlowId) : Io Unit := do
  let e ← flowEntry id
  if e.pendingSocket.isEmpty then shutdownWrite id
  else modifyEntry id fun e => { e with pendingShutdown := true }

def peekSocketFrame (id : FlowId) (offset capacity : ℕ) : Io PeekedFrame := do
  let e ← flowEntry id
  let sides ← ensure "inactive flow reached socket reader" e.construction.activeSides
  let payloadOffset := tcpPayloadOffset cfg sides.namespaceKey none none
  if offset > i32Max then throw (.invariant "socket peek offset exceeds i32")
  else
    let slot ← acquirePayloadFrame cfg (payloadOffset + capacity)
    let capacity := min capacity (cfg.capacity slot.tier - payloadOffset)
    noteFailure (.frameLost slot) (do orThrow (← setPeekOffset id offset))
    match ← peekSocket id capacity with
    | .ok [] =>
      releaseFrame slot
      pure (if offset = 0 then .eof else .wouldBlock)
    | .ok bytes => pure (.data slot bytes)
    | .error .wouldBlock =>
      releaseFrame slot
      pure .wouldBlock
    | .error e =>
      releaseFrame slot
      throw (.io e)

def flowBusy (id : FlowId) : Io Bool := do
  let s ← get
  pure (s.tapQueue.any fun queued => queued.flow = some id)

def touchFront (id : FlowId) (f : SentSegment → SentSegment) : Io Unit := do
  let e ← flowEntry id
  match e.sentSegments with
  | [] => throw (.invariant "retransmitted segment disappeared")
  | segment :: segments =>
    modifyEntry id fun e => { e with sentSegments := f segment :: segments }

def queueRetransmit (id : FlowId) (frame : PooledFrame) (backoff : Bool) : Io Unit := do
  queueTap cfg (some id) frame none
  let now ← Call.now
  touchFront id fun segment =>
    if backoff then segment.recordTimeoutRetransmit now else { segment with lastSent := now }
  modify fun s =>
    { s with metrics := { s.metrics with tcpRetransmits := s.metrics.tcpRetransmits + 1 } }

def retransmitOldest (id : FlowId) (backoff : Bool) : Io Unit := do
  if ← flowBusy id then pure ()
  else
    let e ← flowEntry id
    match e.sentSegments with
    | [] => pure ()
    | segment :: _ =>
      let sides ← ensure "inactive flow reached retransmit" e.construction.activeSides
      if segment.payloadLen > 0 then
        match ← peekSocketFrame cfg id 0 segment.payloadLen with
        | .data slot bytes =>
          let payloadCapacity :=
            cfg.capacity slot.tier - tcpPayloadOffset cfg sides.namespaceKey none none
          if bytes.length ≠ min segment.payloadLen payloadCapacity then
            releaseFrame slot
            failTcpFlow cfg id
          else
            let fin := segment.fin && !decide (bytes.length < segment.payloadLen)
            let plan : SendPlan :=
              { sequence := segment.sequence, acknowledgment := e.flow.namespaceAcked,
                length := bytes.length, syn := segment.syn, fin := fin }
            let frame ← finalizeFlowPayloadFrame cfg id slot plan
              { syn := segment.syn, fin := fin, psh := true, ack := true } bytes
            queueRetransmit cfg id frame backoff
        | .wouldBlock => failTcpFlow cfg id
        | .eof => failTcpFlow cfg id
      else
        let plan : SendPlan :=
          { sequence := segment.sequence, acknowledgment := e.flow.namespaceAcked, length := 0,
            syn := segment.syn, fin := segment.fin }
        let frame ← buildFlowFrame cfg id plan [] segment.flags
        queueRetransmit cfg id frame backoff

def advanceProbe (id : FlowId) (now : Millis) : Io Unit :=
  modifyEntry id fun e => { e with zeroWindowProbe := e.zeroWindowProbe.map (·.advance now) }

def sendZeroWindowProbe (id : FlowId) (now : Millis) : Io Unit := do
  if ← flowBusy id then pure ()
  else
    let e ← flowEntry id
    let retained := e.sentSegments.head?.filter fun segment => segment.payloadLen > 0
    orThrow (← setPeekOffset id 0)
    match ← peekSocket id 1 with
    | .ok (byte :: _) =>
      let payload := if retained.isSome then byte else e.lastNamespaceByte.getD byte
      let plan : SendPlan :=
        { sequence := (retained.map SentSegment.sequence).getD (e.flow.localNext - 1)
          acknowledgment := e.flow.namespaceAcked, length := 1, syn := false, fin := false }
      let frame ← buildFlowFrame cfg id plan [payload] { psh := true, ack := true }
      let s ← get
      if s.test.dropTcpRetransmit > 0 then
        set { s with test := { s.test with dropTcpRetransmit := s.test.dropTcpRetransmit - 1 } }
        releaseFrame frame.slot
      else queueTap cfg (some id) frame none
      advanceProbe id now
      modify fun s =>
        { s with
          metrics := { s.metrics with tcpZeroWindowProbes := s.metrics.tcpZeroWindowProbes + 1 } }
    | .ok [] => advanceProbe id now
    | .error .wouldBlock => advanceProbe id now
    | .error error => throw (.io error)

end Reactor

end Yayatht
