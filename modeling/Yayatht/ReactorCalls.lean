import Yayatht.ReactorState

set_option autoImplicit false

namespace Yayatht
open Sequence

def note (notice : Notice) : Io Unit := modify fun s => { s with journal := notice :: s.journal }

/-- Records a failure of `m` and passes it on. -/
def noteFailure {α : Type} (notice : Notice) (m : Io α) : Io α :=
  tryCatch m fun e => do
    note notice
    throw e

def expect {α : Type} (text : String) : Option α → Io α
  | some a => pure a
  | none => throw (.panic text)

def ensure {α : Type} (text : String) : Option α → Io α
  | some a => pure a
  | none => throw (.invariant text)

def orThrow {α : Type} : Except IoError α → Io α
  | .ok a => pure a
  | .error e => throw (.io e)

/-- Takes the next answer of one kind. -/
def ask {α : Type} (answers : Kernel → Stream' α) (advance : Kernel → Kernel) : Io α := do
  let s ← get
  set { s with kernel := advance s.kernel }
  pure (answers s.kernel).head

namespace Call

def now : Io Millis := ask (·.clock) fun k => { k with clock := k.clock.tail }

def random : Io (BitVec 32) := do
  orThrow (← ask (·.random) fun k => { k with random := k.random.tail })

def tapRead : Io (Except IoError TapInput) :=
  ask (·.tapRead) fun k => { k with tapRead := k.tapRead.tail }

def tapWrite (length : ℕ) : Io (Except IoError ℕ) := do
  let answer ← ask (·.tapWrite) fun k => { k with tapWrite := k.tapWrite.tail }
  pure (answer.map (·.of length))

def connect (peer : SocketAddr) : Io (Except IoError Bool) := do
  note (.dialed .stream peer)
  ask (·.connect) fun k => { k with connect := k.connect.tail }

def localAddress : Io (Except IoError SocketAddr) :=
  ask (·.localAddress) fun k => { k with localAddress := k.localAddress.tail }

def bufferSizes : Io (ℕ × ℕ) := do
  orThrow (← ask (·.bufferSizes) fun k => { k with bufferSizes := k.bufferSizes.tail })

def pollWritable : Io Bool := do
  orThrow (← ask (·.pollWritable) fun k => { k with pollWritable := k.pollWritable.tail })

def pendingError : Io (Option ℕ) := do
  orThrow (← ask (·.pendingError) fun k => { k with pendingError := k.pendingError.tail })

/-- The numbers of acknowledgments and of foreign errors found. -/
def drainTxTimestamps : Io (ℕ × ℕ) := do
  orThrow (← ask (·.drain) fun k => { k with drain := k.drain.tail })

def enableTxAckTimestamps : Io (Except IoError Unit) :=
  ask (·.enableTimestamps) fun k => { k with enableTimestamps := k.enableTimestamps.tail }

def bytesAcked : Io (Except IoError ℕ) :=
  ask (·.bytesAcked) fun k => { k with bytesAcked := k.bytesAcked.tail }

def setWindowClamp : Io (Except IoError Unit) :=
  ask (·.windowClamp) fun k => { k with windowClamp := k.windowClamp.tail }

def send (length : ℕ) : Io (Except IoError ℕ) := do
  let answer ← ask (·.send) fun k => { k with send := k.send.tail }
  pure (answer.map (·.of length))

def recv (capacity : ℕ) : Io (Except IoError Bytes) := do
  let answer ← ask (·.recv) fun k => { k with recv := k.recv.tail }
  pure (answer.map (·.take capacity))

def recvDatagram : Io (Except IoError Bytes) :=
  ask (·.recvDatagram) fun k => { k with recvDatagram := k.recvDatagram.tail }

def shutdownWrite : Io (Except IoError Unit) :=
  ask (·.shutdownWrite) fun k => { k with shutdownWrite := k.shutdownWrite.tail }

def epollAdd : Io Unit := do
  orThrow (← ask (·.epollAdd) fun k => { k with epollAdd := k.epollAdd.tail })

def epollModify : Io Unit := do
  orThrow (← ask (·.epollModify) fun k => { k with epollModify := k.epollModify.tail })

def epollDelete : Io Unit := do
  orThrow (← ask (·.epollDelete) fun k => { k with epollDelete := k.epollDelete.tail })

/-- The messages queued before the error queue is empty or unreadable. -/
def udpErrors : Io (List UdpSocketError × Except IoError Unit) :=
  ask (·.udpErrors) fun k => { k with udpErrors := k.udpErrors.tail }

def bindUdp : Io (Except IoError Unit) :=
  ask (·.bindUdp) fun k => { k with bindUdp := k.bindUdp.tail }

def connectUdp (peer : SocketAddr) : Io (Except IoError Unit) := do
  note (.dialed .datagram peer)
  ask (·.connectUdp) fun k => { k with connectUdp := k.connectUdp.tail }

def connectDatagram (peer : SocketAddr) : Io (Except IoError Unit) := do
  note (.dialed .datagram peer)
  ask (·.connectDatagram) fun k => { k with connectDatagram := k.connectDatagram.tail }

def control : Io (Except IoError ControlMessage) :=
  ask (·.control) fun k => { k with control := k.control.tail }

def timer : Io Unit := do
  orThrow (← ask (·.timer) fun k => { k with timer := k.timer.tail })

def setPeekOffsetAnswer : Io (Except IoError Unit) :=
  ask (·.setPeekOffset) fun k => { k with setPeekOffset := k.setPeekOffset.tail }

def peekAnswer : Io (Except IoError Inflow) :=
  ask (·.peek) fun k => { k with peek := k.peek.tail }

def discardAnswer : Io (Except IoError Inflow) :=
  ask (·.discard) fun k => { k with discard := k.discard.tail }

end Call

namespace Socket

/-- Bytes that arrived; nothing arrives after the peer closed. -/
def arrive (socket : Socket) (inflow : Inflow) : Socket :=
  if socket.eof then socket
  else { socket with stream := socket.stream ++ inflow.arrived, eof := inflow.closed }

/-- A peek of at most `capacity` bytes at the peek offset. -/
def peek (socket : Socket) (inflow : Inflow) (capacity : ℕ) : Socket × Except IoError Bytes :=
  let socket := socket.arrive inflow
  let visible := socket.queued (socket.peekOffset.getD 0)
  if visible = [] then (socket, if socket.eof then .ok [] else .error .wouldBlock)
  else
    let bytes := visible.take (min capacity (max 1 (inflow.taken.of visible.length)))
    ({ socket with peekOffset := socket.peekOffset.map (· + bytes.length) }, .ok bytes)

/-- Takes at most `asked` bytes off the receive queue. -/
def discard (socket : Socket) (inflow : Inflow) (asked : ℕ) : Socket × Except IoError ℕ :=
  let socket := socket.arrive inflow
  let available := (socket.queued 0).length
  if available = 0 then (socket, if socket.eof then .ok 0 else .error .wouldBlock)
  else
    let count := min available (max 1 (inflow.taken.of asked))
    ({ socket with
        consumed := socket.consumed + count
        peekOffset := socket.peekOffset.map (· - count) },
      .ok count)

end Socket

namespace FlowEntry

/-- The kernel accepted the first `count` bytes of namespace payload. -/
def submitted (e : FlowEntry) (bytes : Bytes) (count : ℕ) : FlowEntry :=
  { e with
    socket := { e.socket with payloadSent := e.socket.payloadSent ++ bytes.take count }
    flow := e.flow.recordUpstreamSubmitted count }

end FlowEntry

def flowEntry (id : FlowId) : Io FlowEntry := do
  let s ← get
  expect "flow exists" (s.flows.get id)

def modifyEntry (id : FlowId) (f : FlowEntry → FlowEntry) : Io Unit := do
  let _ ← flowEntry id
  modify fun s => { s with flows := s.flows.modify id f }

def flowIsClosed (id : FlowId) : Io Bool := do
  let s ← get
  pure ((s.flows.get id).all fun e => e.flow.state = .closed)

/-- `SO_PEEK_OFF` on the socket of a flow. -/
def setPeekOffset (id : FlowId) (offset : ℕ) : Io (Except IoError Unit) := do
  let answer ← Call.setPeekOffsetAnswer
  match answer with
  | .ok () =>
    modifyEntry id fun e => { e with socket := { e.socket with peekOffset := some offset } }
    pure answer
  | .error _ => pure answer

def peekSocket (id : FlowId) (capacity : ℕ) : Io (Except IoError Bytes) := do
  let answer ← Call.peekAnswer
  match answer with
  | .ok inflow =>
    let e ← flowEntry id
    let (socket, result) := e.socket.peek inflow capacity
    modifyEntry id fun e => { e with socket := socket }
    pure result
  | .error e => pure (.error e)

def discardSocket (id : FlowId) (asked : ℕ) : Io (Except IoError ℕ) := do
  let answer ← Call.discardAnswer
  match answer with
  | .ok inflow =>
    let e ← flowEntry id
    let (socket, result) := e.socket.discard inflow asked
    modifyEntry id fun e => { e with socket := socket }
    pure result
  | .error e => pure (.error e)

def shutdownWrite (id : FlowId) : Io Unit := do
  let answer ← Call.shutdownWrite
  note (.shutdown id answer)
  match answer with
  | .ok () => modifyEntry id fun e => { e with socket := { e.socket with writeShutdown := true } }
  | .error e => throw (.io e)

/-- A token fits twenty bits of slot and a non-zero generation. -/
def tokenFits (id : FlowId) : Bool := id.slot < 1048576 ∧ id.generation ≠ 0

end Yayatht
