import Yayatht.ReactorCalls

set_option autoImplicit false

namespace Yayatht
open Sequence

def SentSegment.ofPlan (plan : SendPlan) (now : Millis) : SentSegment where
  sequence := plan.sequence
  payloadLen := plan.length
  syn := plan.syn
  fin := plan.fin
  lastSent := now
  retransmitTimeout := retransmitInitial
  retries := 0

namespace FlowEntry

/-- The flow after the sequence numbers of a written plan are committed. -/
def advanced (e : FlowEntry) (plan : SendPlan) : FlowEntry :=
  { e with flow := if plan.length > 0 ∨ plan.fin then e.flow.commitSend plan else e.flow }

def expectedLen (plan : SendPlan) : Seq :=
  BitVec.ofNat 32 (plan.length + plan.syn.toNat + plan.fin.toNat)

/-- The committed range is the one the plan was made for. -/
def commitMatches (e : FlowEntry) (plan : SendPlan) : Bool :=
  distance plan.sequence (e.advanced plan).flow.localNext = expectedLen plan ∧ expectedLen plan ≠ 0

def committed (e : FlowEntry) (plan : SendPlan) (now : Millis) : FlowEntry :=
  { e.advanced plan with sentSegments := e.sentSegments ++ [SentSegment.ofPlan plan now] }

end FlowEntry

namespace Reactor

variable (cfg : Config)

def noteFramePoolExhaustion : Io Unit :=
  modify fun s =>
    { s with metrics := { s.metrics with framePoolExhaustions := s.metrics.framePoolExhaustions + 1 } }

def framesAvailable : Io ℕ := do
  let s ← get
  pure s.framePool.available

def acquireFrame : Io FrameSlot := do
  let s ← get
  set { s with framePool := s.framePool.acquire.1 }
  match s.framePool.acquire.2 with
  | some index => pure ⟨.mtu, index⟩
  | none =>
    note .poolDry
    noteFramePoolExhaustion
    throw (.invariant "TAP frame pool exhausted")

/-- A frame that holds `required` bytes; a dry GSO pool degrades to an MTU frame. -/
def acquirePayloadFrame (required : ℕ) : Io FrameSlot := do
  let s ← get
  if required > cfg.mtuFrameCapacity then
    set { s with gsoPool := s.gsoPool.acquire.1 }
    match s.gsoPool.acquire.2 with
    | some index => pure ⟨.gso, index⟩
    | none =>
      modify fun s =>
        { s with
          metrics := { s.metrics with gsoPoolExhaustions := s.metrics.gsoPoolExhaustions + 1 } }
      acquireFrame
  else acquireFrame

def releaseFrame (slot : FrameSlot) : Io Unit :=
  modify fun s =>
    match slot.tier with
    | .mtu => { s with framePool := s.framePool.release slot.poolIndex }
    | .gso => { s with gsoPool := s.gsoPool.release slot.poolIndex }

def reserveRetainedBytes (length : ℕ) : Io Bool := do
  let s ← get
  if length > cfg.maxRetainedTcpBytes - s.retainedSocketBytes then
    set { s with
      metrics := { s.metrics with retainedLimitHits := s.metrics.retainedLimitHits + 1 } }
    pure false
  else
    let retained := s.retainedSocketBytes + length
    set { s with
      retainedSocketBytes := retained
      metrics :=
        { s.metrics with
          retainedTcpBytes := retained
          peakRetainedTcpBytes := max s.metrics.peakRetainedTcpBytes retained } }
    pure true

def releaseRetainedBytes (length : ℕ) : Io Unit :=
  modify fun s =>
    { s with
      retainedSocketBytes := s.retainedSocketBytes - length
      metrics := { s.metrics with retainedTcpBytes := s.retainedSocketBytes - length }
      journal := .retainedReleased length s.retainedSocketBytes :: s.journal }

def updateTapInterest : Io Unit := do
  let s ← get
  if s.framePool.available = 0 ∧ s.tapQueue = [] then
    set { s with tapStarved := true }
    throw (.invariant "TAP has neither read nor write capacity")
  else Call.epollModify

/-- Commits the sequence numbers of a written plan and remembers the segment. -/
def commitPlan (id : FlowId) (plan : SendPlan) : Io Unit := do
  let s ← get
  match s.flows.get id with
  | none =>
    note (.commitFailed id)
    throw (.invariant "flow closed before TAP commit")
  | some e =>
    if e.commitMatches plan then
      let now ← Call.now
      modifyEntry id fun e => e.committed plan now
    else
      modifyEntry id fun e => e.advanced plan
      note (.commitFailed id)
      throw (.invariant "TAP transmission sequence commitment mismatch")

def commitTapSend (flow : Option FlowId) (frame : PooledFrame) (plan : Option SendPlan) : Io Unit := do
  match flow, plan with
  | some id, some plan => commitPlan id plan
  | _, _ => pure ()
  releaseFrame frame.slot

/-- The test hook that drops a frame instead of writing it. -/
def injectedDrop (plan : Option SendPlan) : Io Bool := do
  let s ← get
  match plan with
  | none => pure false
  | some plan =>
    if plan.syn ∧ s.test.dropTcpSynAck > 0 then
      set { s with test := { s.test with dropTcpSynAck := s.test.dropTcpSynAck - 1 } }
      pure true
    else if plan.fin ∧ s.test.dropTcpFin > 0 then
      set { s with test := { s.test with dropTcpFin := s.test.dropTcpFin - 1 } }
      pure true
    else if plan.length > 0 ∧ s.test.dropTcpData > 0 then
      set { s with test := { s.test with dropTcpData := s.test.dropTcpData - 1 } }
      pure true
    else if plan.syn = false ∧ plan.fin = false ∧ plan.length = 0 ∧ s.test.dropTcpAck > 0 then
      set { s with test := { s.test with dropTcpAck := s.test.dropTcpAck - 1 } }
      pure true
    else pure false

def abandonFrame (flow : Option FlowId) (frame : PooledFrame) (plan : Option SendPlan)
    (reserved : ℕ) : Io Unit := do
  note (.tapFailed flow plan)
  releaseRetainedBytes reserved
  releaseFrame frame.slot

def countTapTx : Io Unit :=
  modify fun s => { s with metrics := { s.metrics with tapTxPackets := s.metrics.tapTxPackets + 1 } }

def pushTapQueue (queued : QueuedFrame) : Io Unit := do
  modify fun s => { s with tapQueue := s.tapQueue ++ [queued] }
  updateTapInterest

def queueTap (flow : Option FlowId) (frame : PooledFrame) (plan : Option SendPlan) : Io Unit := do
  let reserved := plan.elim 0 SendPlan.length
  if ← reserveRetainedBytes cfg reserved then
    let s ← get
    if s.tapQueue = [] then
      if ← injectedDrop plan then commitTapSend flow frame plan
      else
        match ← Call.tapWrite frame.len with
        | .ok written =>
          if written = frame.len then
            countTapTx
            commitTapSend flow frame plan
          else
            abandonFrame flow frame plan reserved
            throw (.invariant "short TAP frame write")
        | .error .wouldBlock => pushTapQueue ⟨flow, frame, plan, reserved⟩
        | .error e =>
          abandonFrame flow frame plan reserved
          throw (.io e)
    else pushTapQueue ⟨flow, frame, plan, reserved⟩
  else
    releaseFrame frame.slot
    throw (.invariant "retained TCP reservation exceeded hard limit")

/-- Writes queued frames until the budget is spent, the queue is empty or the TAP blocks. -/
def flushTapFrames : ℕ → Io Unit
  | 0 => pure ()
  | budget + 1 => do
    let s ← get
    match s.tapQueue with
    | [] => pure ()
    | queued :: rest =>
      match ← Call.tapWrite queued.frame.len with
      | .ok written =>
        modify fun s => { s with tapQueue := rest }
        if written = queued.frame.len then
          countTapTx
          commitTapSend queued.flow queued.frame queued.plan
          flushTapFrames budget
        else
          abandonFrame queued.flow queued.frame queued.plan queued.reservedRetained
          throw (.invariant "short TAP frame write")
      | .error .wouldBlock => pure ()
      | .error e =>
        modify fun s => { s with tapQueue := rest }
        abandonFrame queued.flow queued.frame queued.plan queued.reservedRetained
        throw (.io e)

def flushTapQueue : Io Unit := do
  flushTapFrames tapTxBudget
  updateTapInterest

/-- Offset of the TCP payload within a frame. -/
def tcpPayloadOffset (key : FlowKey) (mss windowScale : Option ℕ) : ℕ :=
  cfg.vnetLen + ethernetHeaderLen + ipHeaderLen key.target +
    (tcpMinHeaderLen + (if mss.isSome then 4 else 0) + (if windowScale.isSome then 4 else 0))

/-- Writes the headers around `payload`; the frame is given back when that fails. -/
def finalizeTcpFrame (slot : FrameSlot) (spec : TcpFrameSpec) (payload : Bytes) : Io PooledFrame := do
  let len := tcpPayloadOffset cfg spec.key spec.mss spec.windowScale + payload.length
  if len > cfg.capacity slot.tier then throw (.panic "frame slice out of range")
  else if spec.key.target.isIpv4 ≠ spec.key.namespaceEnd.isIpv4 then
    releaseFrame slot
    throw (.invariant "mixed address families in flow")
  else
    modify fun s =>
      if cfg.tapOffload ∧ spec.gsoSize.any fun size => payload.length > size then
        { s with metrics := { s.metrics with gsoFramesTx := s.metrics.gsoFramesTx + 1 } }
      else s
    pure ⟨slot, .tcp spec payload, len⟩

def buildTcpFrame (key : FlowKey) (plan : SendPlan) (payload : Bytes) (flags : TcpFlags)
    (mss windowScale : Option ℕ) (window : ℕ) : Io PooledFrame := do
  let slot ← acquireFrame
  if tcpPayloadOffset cfg key mss windowScale + payload.length > cfg.capacity slot.tier then
    releaseFrame slot
    throw (.invariant "TCP frame exceeds buffer capacity")
  else
    finalizeTcpFrame cfg slot
      { key := key, plan := plan, flags := flags, mss := mss, windowScale := windowScale,
        window := window, gsoSize := none }
      payload

def buildReset (key : FlowKey) (acknowledgment : Seq) : Io PooledFrame :=
  buildTcpFrame cfg key
    { sequence := 0, acknowledgment := acknowledgment, length := 0, syn := false, fin := false }
    [] { rst := true, ack := true } none none 0

/-- The key, the entry and the window field a frame of the flow is built from. -/
def flowFrameParameters (id : FlowId) (syn : Bool) : Io (FlowKey × FlowEntry × ℕ) := do
  let s ← get
  let e ← ensure "flow disappeared" (s.flows.get id)
  let sides ← ensure "inactive flow reached packet builder" e.construction.activeSides
  pure (sides.namespaceKey, e, e.flow.windowField syn)

def buildFlowFrame (id : FlowId) (plan : SendPlan) (payload : Bytes) (flags : TcpFlags) :
    Io PooledFrame := do
  let (key, e, window) ← flowFrameParameters id flags.syn
  let shift := e.flow.localWindowShift
  let frame ← buildTcpFrame cfg key plan payload flags
    (if flags.syn then some e.flow.mss else none)
    (if flags.syn ∧ shift > 0 then some shift else none) window
  note (.built id e frame.body)
  pure frame

def finalizeFlowPayloadFrame (id : FlowId) (slot : FrameSlot) (plan : SendPlan) (flags : TcpFlags)
    (payload : Bytes) : Io PooledFrame := do
  let (key, e, window) ← tryCatch (flowFrameParameters id false) fun error => do
    releaseFrame slot
    throw error
  let frame ← finalizeTcpFrame cfg slot
    { key := key, plan := plan, flags := flags, mss := none, windowScale := none,
      window := window, gsoSize := some e.flow.mss }
    payload
  note (.built id e frame.body)
  pure frame

def countReset : Io Unit :=
  modify fun s => { s with metrics := { s.metrics with tcpResets := s.metrics.tcpResets + 1 } }

def sendResetForFlow (id : FlowId) : Io Unit := do
  let e ← flowEntry id
  let sides ← ensure "inactive flow reached reset builder" e.construction.activeSides
  let frame ← buildReset cfg sides.namespaceKey e.flow.namespaceAcked
  note (.built id e frame.body)
  countReset
  queueTap cfg none frame none

def refuseSyn (key : FlowKey) (sequence : Seq) : Io Unit := do
  let frame ← buildReset cfg key (sequence + 1)
  countReset
  queueTap cfg none frame none

def sendAckKind (id : FlowId) (finAck : Bool) : Io Unit := do
  let e ← flowEntry id
  let plan : SendPlan :=
    { sequence := e.flow.localNext, acknowledgment := e.flow.namespaceAcked, length := 0,
      syn := false, fin := false }
  let frame ← buildFlowFrame cfg id plan [] { ack := true }
  let s ← get
  if finAck ∧ s.test.dropTcpFinAck > 0 then
    set { s with test := { s.test with dropTcpFinAck := s.test.dropTcpFinAck - 1 } }
    releaseFrame frame.slot
  else queueTap cfg none frame (some plan)

def sendAck (id : FlowId) : Io Unit := sendAckKind cfg id false

def sendFinAck (id : FlowId) : Io Unit := sendAckKind cfg id true

end Reactor

end Yayatht
