import Yayatht.ReactorSocks
import Yayatht.EffectLogic

set_option autoImplicit false

/-!
# The machine of the TCP flows

What the handlers do to the flows, seen without frame pools, counters and
sockets of other kinds: the flow table, the keys, the TAP queue, the retained
bytes and the journal. `Act` lists the steps; a step that the source takes in
several assignments is one step here whenever the state between them is not
seen by another handler.
-/
namespace Yayatht
open Sequence

structure Core where
  flows : FlowTable FlowEntry
  byKey : KeyedMap FlowKey FlowId
  tapQueue : List QueuedFrame
  retained : ℕ
  journal : List Notice
  refresh : List FlowId
  udpEngine : Udp.Engine
  socks : FlowTable SocksAssociation

def core (s : Reactor) : Core :=
  ⟨s.flows, s.byKey, s.tapQueue, s.retainedSocketBytes, s.journal, s.ackRefreshQueue, s.udpEngine,
    s.socksAssociations⟩

namespace Core

def put (c : Core) (id : FlowId) (e : FlowEntry) : Core :=
  { c with flows := c.flows.modify id fun _ => e }

def log (c : Core) (notices : List Notice) : Core := { c with journal := notices ++ c.journal }

/-- Queues a frame and reserves its payload. -/
def push (c : Core) (queued : QueuedFrame) : Core :=
  { c with
    tapQueue := c.tapQueue ++ [queued]
    retained := c.retained + queued.reservedRetained }

def release (c : Core) (length : ℕ) : Core :=
  { c with
    retained := c.retained - length
    journal := .retainedReleased length c.retained :: c.journal }

def busy (c : Core) (id : FlowId) : Bool := c.tapQueue.any fun queued => queued.flow = some id

def dropFrames : List QueuedFrame → Core → Core
  | [], c => c
  | queued :: rest, c => dropFrames rest (c.release queued.reservedRetained)

def unregister (c : Core) (id : FlowId) (key : FlowKey) (e : FlowEntry) : Core :=
  (dropFrames (c.tapQueue.filter fun queued => queued.flow = some id)
    { c with
      journal := .released id e :: c.journal
      byKey := c.byKey.erase key
      tapQueue := c.tapQueue.filter fun queued => queued.flow ≠ some id }).release e.retained

def retire (c : Core) (id : FlowId) (e : FlowEntry) : Core :=
  { c with
    flows := (c.flows.modify id fun _ => { e with flow := e.flow.close }).deferRemove id }

end Core

/-- The part of a segment that says which sequence numbers it covers. -/
def SentSegment.layout (s : SentSegment) : Seq × ℕ × Bool × Bool := (s.sequence, s.payloadLen, s.syn, s.fin)

namespace FlowEntry

def key (e : FlowEntry) : Option FlowKey := e.construction.sides.map FlowSides.namespaceKey

/-- The payload that a segment newly acknowledges. -/
def ackedBy (e : FlowEntry) (segment : TcpSegment) : ℕ :=
  let flow := (e.received segment).1.flow
  if flow.localUnacked = e.flow.localUnacked then 0 else flow.newlyAckedPayload e.flow.localUnacked

/-- The entry once a segment was received and what it acknowledges was settled. -/
def settled (e : FlowEntry) (segment : TcpSegment) : FlowEntry :=
  let flow := (e.received segment).1.flow
  { e with
    flow := flow
    socket := { e.socket with consumed := e.socket.consumed + e.ackedBy segment }
    sentSegments :=
      if flow.localUnacked = e.flow.localUnacked then e.sentSegments
      else acknowledgeSegments flow.localUnacked e.sentSegments }

/-- The entry after the socket answered an offer of payload; `none` when the rest of it
cannot be queued. -/
def submit (e : FlowEntry) (payload : Bytes) : Except IoError ℕ → Option FlowEntry
  | .ok sent =>
    if sent < payload.length then
      (e.pendingSocket.push (payload.drop sent)).map fun queue =>
        { e.submitted payload sent with pendingSocket := queue }
    else some (e.submitted payload sent)
  | .error .wouldBlock =>
    (e.pendingSocket.push payload).map fun queue => { e with pendingSocket := queue }
  | .error _ => none

def shut (e : FlowEntry) : FlowEntry := { e with socket := { e.socket with writeShutdown := true } }

/-- An in-order FIN is forwarded or waits for the queue. -/
def finForwarded (e : FlowEntry) : FlowEntry :=
  if e.pendingSocket.isEmpty then e.shut else { e with pendingShutdown := true }

def finNotices (e : FlowEntry) (id : FlowId) : List Notice :=
  if e.pendingSocket.isEmpty then [.shutdown id (.ok ())] else []

theorem probed_flow (e : FlowEntry) (now : Millis) : (e.probed now).flow = e.flow := by
  unfold probed
  split <;> rfl

theorem probed_segments (e : FlowEntry) (now : Millis) :
    (e.probed now).sentSegments = e.sentSegments := by
  unfold probed
  split <;> rfl

def sendable (e : FlowEntry) : Bool :=
  e.flow.state = .established ∨ e.flow.state = .namespaceFinReceived

end FlowEntry

/-- Changes that no other part of the machine depends on: arrivals at the socket, the
handshake, the receive window, upstream acknowledgments and timers. -/
structure Touched (e e' : FlowEntry) : Prop where
  sides : e'.construction.sides = e.construction.sides
  flow : ∃ edge acked point,
    e'.flow = { e.flow with receiveEdge := edge, upstreamAcked := acked, namespaceAcked := point }
  stream : ∃ more, e'.socket.stream = e.socket.stream ++ more ∧
    (e.socket.eof = true → more = [] ∧ e'.socket.eof = true)
  consumed : e'.socket.consumed = e.socket.consumed
  payloadSent : e'.socket.payloadSent = e.socket.payloadSent
  writeShutdown : e'.socket.writeShutdown = e.socket.writeShutdown
  handshake : e.handshake = none → e'.handshake = none
  pendingSocket : e'.pendingSocket = e.pendingSocket
  pendingShutdown : e'.pendingShutdown = e.pendingShutdown
  segments : e'.sentSegments.map SentSegment.layout = e.sentSegments.map SentSegment.layout
  lastByte : e'.lastNamespaceByte = e.lastNamespaceByte

theorem Touched.refl (e : FlowEntry) : Touched e e where
  sides := rfl
  flow := ⟨_, _, _, rfl⟩
  stream := ⟨[], (List.append_nil _).symm, fun h => ⟨rfl, h⟩⟩
  consumed := rfl
  payloadSent := rfl
  writeShutdown := rfl
  handshake := id
  pendingSocket := rfl
  pendingShutdown := rfl
  segments := rfl
  lastByte := rfl

theorem Touched.trans {e f g : FlowEntry} (h : Touched e f) (h' : Touched f g) : Touched e g where
  sides := h'.sides.trans h.sides
  flow := by
    obtain ⟨_, _, _, h1⟩ := h.flow
    obtain ⟨_, _, _, h2⟩ := h'.flow
    exact ⟨_, _, _, by rw [h2, h1]⟩
  stream := by
    obtain ⟨m, hm, he⟩ := h.stream
    obtain ⟨n, hn, hf⟩ := h'.stream
    refine ⟨m ++ n, by rw [hn, hm, List.append_assoc], fun heof => ?_⟩
    obtain ⟨hm0, hfe⟩ := he heof
    obtain ⟨hn0, hge⟩ := hf hfe
    exact ⟨by rw [hm0, hn0]; rfl, hge⟩
  consumed := h'.consumed.trans h.consumed
  payloadSent := h'.payloadSent.trans h.payloadSent
  writeShutdown := h'.writeShutdown.trans h.writeShutdown
  handshake := fun he => h'.handshake (h.handshake he)
  pendingSocket := h'.pendingSocket.trans h.pendingSocket
  pendingShutdown := h'.pendingShutdown.trans h.pendingShutdown
  segments := h'.segments.trans h.segments
  lastByte := h'.lastByte.trans h.lastByte

namespace Touched

variable (e : FlowEntry)

theorem peekOffset (offset : Option ℕ) :
    Touched e { e with socket := { e.socket with peekOffset := offset } } := { Touched.refl e with }

theorem arrive (inflow : Inflow) : Touched e { e with socket := e.socket.arrive inflow } := by
  unfold Socket.arrive
  cases heof : e.socket.eof with
  | true => exact { Touched.refl e with }
  | false => exact { Touched.refl e with stream := ⟨inflow.arrived, rfl, fun h => absurd h (by simp [heof])⟩ }

theorem peek (inflow : Inflow) (capacity : ℕ) :
    Touched e { e with socket := (e.socket.peek inflow capacity).1 } := by
  have h := arrive e inflow
  unfold Socket.peek
  dsimp only
  split
  · exact h
  · exact h.trans (peekOffset { e with socket := e.socket.arrive inflow } _)

theorem window (budget : ℕ) : Touched e { e with flow := (e.flow.setAdvertisedWindow budget).1 } := by
  unfold Flow.setAdvertisedWindow
  dsimp only
  split
  · exact { Touched.refl e with flow := ⟨_, _, _, rfl⟩ }
  · exact Touched.refl e

theorem upstreamAck (bytesAcked : ℕ) :
    Touched e { e with flow := (e.flow.recordUpstreamAck bytesAcked).1 } := by
  unfold Flow.recordUpstreamAck
  dsimp only
  split
  · exact Touched.refl e
  · exact { Touched.refl e with flow := ⟨_, _, _, rfl⟩ }

theorem probed (now : Millis) : Touched e (e.probed now) := by
  unfold FlowEntry.probed
  split
  · exact { Touched.refl e with }
  · exact { Touched.refl e with }
  · exact Touched.refl e

theorem consume {e f : FlowEntry} (h : Touched e f) (count : ℕ) :
    Touched { e with socket := { e.socket with consumed := e.socket.consumed + count } }
      { f with socket := { f.socket with consumed := f.socket.consumed + count } } :=
  { h with consumed := congrArg (· + count) h.consumed }

theorem withSegments {e f : FlowEntry} (h : Touched e f) (segments : List SentSegment) :
    Touched { e with sentSegments := segments } { f with sentSegments := segments } :=
  { h with segments := rfl }

theorem state {e f : FlowEntry} (h : Touched e f) : f.flow.state = e.flow.state := by
  obtain ⟨_, _, _, hf⟩ := h.flow
  rw [hf]

theorem isOpen {e f : FlowEntry} (h : Touched e f) : f.open? = e.open? := by
  unfold FlowEntry.open?
  rw [h.state]

end Touched

def Notice.about : Notice → Option FlowId
  | .created id => some id
  | .accepted id _ => some id
  | .segment id _ _ => some id
  | .clamped id _ => some id
  | .discarded id _ _ => some id
  | .offered id _ _ _ => some id
  | .refused id => some id
  | .shutdown id _ => some id
  | .activated id _ _ => some id
  | .synLost id => some id
  | .serviced id _ _ => some id
  | .built id _ _ => some id
  | .timeWait id _ => some id
  | .released id _ => some id
  | .closeFailed id => some id
  | .commitFailed id => some id
  | .tapFailed flow (some _) => flow
  | .tapFailed _ none => none
  | .retainedReleased _ _ => none
  | .datagram _ _ _ => none
  | .dialed _ _ => none
  | .socksReply _ _ => none
  | .frameLost _ => none
  | .poolDry => none

/-- A closed flow was found with a retransmission or a probe due. -/
def Late (journal : List Notice) (id : FlowId) : Prop :=
  ∃ e now, Notice.serviced id e now ∈ journal ∧ e.open? = false ∧
    (e.retransmitDue now = true ∨ e.probeDue now = true)

def Excused (journal : List Notice) (id : FlowId) : Prop :=
  Notice.closeFailed id ∈ journal ∨ Late journal id

/-- The flow is open, or the run already went wrong for it. -/
def Spared (c : Core) (id : FlowId) : Prop :=
  (∃ e, c.flows.get id = some e ∧ e.open? = true) ∨ Excused c.journal id

theorem Excused.append {journal : List Notice} {id : FlowId} (h : Excused journal id)
    (notices : List Notice) : Excused (notices ++ journal) id := by
  rcases h with h | ⟨e, now, h, hc⟩
  · exact .inl (List.mem_append_right _ h)
  · exact .inr ⟨e, now, List.mem_append_right _ h, hc⟩

/-- What follows an accepted segment: nothing, payload, a FIN, or both. -/
inductive Delivered (id : FlowId) (payload : Bytes) :
    ReceiveDisposition → FlowEntry → List Notice → FlowEntry → Prop
  | nothing {d : ReceiveDisposition} {e : FlowEntry}
      (h : ∀ n fin, d = .inOrder n fin → n = 0 ∧ fin = false) : Delivered id payload d e [] e
  | payload {n : ℕ} {e f : FlowEntry} (answer : Except IoError ℕ) (hn : 0 < n)
      (hf : e.submit payload answer = some f) :
      Delivered id payload (.inOrder n false) e [.offered id e payload answer] f
  | fin {e : FlowEntry} : Delivered id payload (.inOrder 0 true) e (e.finNotices id) e.finForwarded
  | payloadFin {n : ℕ} {e f : FlowEntry} (answer : Except IoError ℕ) (hn : 0 < n)
      (hf : e.submit payload answer = some f) :
      Delivered id payload (.inOrder n true) e (f.finNotices id ++ [.offered id e payload answer])
        f.finForwarded

/-- Delivery that failed midway. -/
inductive Lost (id : FlowId) (payload : Bytes) :
    ReceiveDisposition → FlowEntry → List Notice → FlowEntry → Prop
  | send {n : ℕ} {fin : Bool} {e : FlowEntry} (error : IoError) (hn : 0 < n)
      (he : error ≠ .wouldBlock) :
      Lost id payload (.inOrder n fin) e [.offered id e payload (.error error)] e
  | refused {n : ℕ} {fin : Bool} {e f : FlowEntry} (answer : Except IoError ℕ) (hn : 0 < n)
      (hf : f = e ∨ ∃ count, f = e.submitted payload count) :
      Lost id payload (.inOrder n fin) e [.refused id, .offered id e payload answer] f
  | shutdown {n : ℕ} {e f : FlowEntry} {notices : List Notice} (error : IoError)
      (hf : Delivered id payload (.inOrder n false) e notices f) :
      Lost id payload (.inOrder n true) e (.shutdown id (.error error) :: notices) f

/-- What a frame of a flow is built from. -/
inductive BuiltFrom (c : Core) (id : FlowId) (e : FlowEntry) : FrameBody → Prop
  | plain (body : FrameBody) (h : body.payload = []) : BuiltFrom c id e body
  | again (spec : TcpFrameSpec) (payload : Bytes) (segment : SentSegment) (rest : List SentSegment)
      (hbusy : c.busy id = false) (hsegments : e.sentSegments = segment :: rest)
      (hsequence : spec.plan.sequence = segment.sequence)
      (hlength : payload.length ≤ segment.payloadLen)
      (hpayload : payload = (e.socket.queued 0).take payload.length)
      (hgso : spec.gsoSize = some e.flow.mss ∨ payload.length ≤ 1) :
      BuiltFrom c id e (.tcp spec payload)
  | stale (spec : TcpFrameSpec) (first byte : UInt8) (rest : Bytes) (hbusy : c.busy id = false)
      (hhead : ∀ segment ∈ e.sentSegments.head?, segment.payloadLen = 0)
      (hqueued : e.socket.queued 0 = first :: rest) (hbyte : byte = e.lastNamespaceByte.getD first)
      (hsequence : spec.plan.sequence = e.flow.localNext - 1) :
      BuiltFrom c id e (.tcp spec [byte])

/-- How `closeFlow` ends. -/
inductive Closing (c : Core) (id : FlowId) (e : FlowEntry) : Core → Prop
  | done (sides : FlowSides) (h : e.construction.activeSides = some sides) :
      Closing c id e ((c.unregister id sides.namespaceKey e).retire id e)
  | stuck : Closing c id e (c.log [.closeFailed id])
  | broken (sides : FlowSides) (h : e.construction.activeSides = some sides) :
      Closing c id e ((c.unregister id sides.namespaceKey e).log [.closeFailed id])

/-- One chunk of the pending queue was sent. -/
inductive Drained (e : FlowEntry) : FlowEntry → Prop
  | nothing : Drained e e
  | chunk (bytes : Bytes) (sent : ℕ) (hfront : e.pendingSocket.front = some bytes) (hpos : 0 < sent) :
      Drained e
        (FlowEntry.submitted { e with pendingSocket := (e.pendingSocket.consume sent).1 } bytes sent)

structure Fresh (key : FlowKey) (e : FlowEntry) : Prop where
  key_eq : e.key = some key
  flow : ∃ ni li mss ps ls, e.flow = Flow.new ni li mss ps ls ∧ 0 < mss ∧ ps ≤ maxPeerWindowShift
  socket : e.socket = {}
  pendingSocket : e.pendingSocket = PendingSocketQueue.new maxPendingSocketBytes
  pendingShutdown : e.pendingShutdown = false
  sentSegments : e.sentSegments = []
  lastByte : e.lastNamespaceByte = none

inductive EngineStep (u : Udp.Engine) : Udp.Engine → Prop
  | accept (key : Udp.FlowKey) (replySource : SocketAddr) (now : Millis) :
      EngineStep u (u.acceptRouted key replySource now).1
  | inbound (id : FlowId) (now : Millis) : EngineStep u (u.recordInbound id now)
  | remove (id : FlowId) : EngineStep u (u.remove id).1
  | expire (now : Millis) : EngineStep u (u.expire now).1

/-- A UDP ASSOCIATE reply with this bound address was received. -/
def Answered (journal : List Notice) (bound : Proxy.SocksAddress) : Prop :=
  ∃ h response, Notice.socksReply h response ∈ journal ∧ h.state = .socksCommandRead ∧
    h.command = .udpAssociate ∧ (h.receive response).1.boundAddress = some bound

/-- Every bound address a handshake of an association holds was received. -/
def Recorded (journal : List Notice) (associations : FlowTable SocksAssociation) : Prop :=
  ∀ id a h, associations.get id = some a → a.handshake = some h →
    h.command = .udpAssociate ∧ ∀ bound, h.boundAddress = some bound → Answered journal bound

/-- Behind a proxy, streams go to it and datagrams to the relays it names. -/
def Dialable (cfg : Config) (journal : List Notice) (transport : Transport) (peer : SocketAddr) : Prop :=
  ∀ protocol address credentials, cfg.upstream = .proxy protocol address credentials →
    match transport with
    | .stream => peer = address
    | .datagram => ∃ bound, Answered journal bound ∧ Reactor.relayEndpoint address bound = some peer

/-- Notices that only count. -/
inductive Mild : Notice → Prop
  | poolDry : Mild .poolDry
  | datagram (client gateway : SocketAddr) (payload : Bytes) : Mild (.datagram client gateway payload)
  | socksReply (h : Proxy.Handshake) (response : Bytes) : Mild (.socksReply h response)
  | frameLost (slot : FrameSlot) : Mild (.frameLost slot)

/-- Notices of a settled acknowledgment, newest first. -/
def settleNotices (id : FlowId) (acked retained : ℕ) (clamps : ℕ) : List Notice :=
  (if acked > 0 then [.retainedReleased acked retained, .discarded id acked (.ok acked)] else []) ++
    List.replicate clamps (.clamped id (.ok ()))

def Core.settle (c : Core) (id : FlowId) (e : FlowEntry) (segment : TcpSegment) (clamps : ℕ)
    (notices : List Notice) (f : FlowEntry) : Core :=
  { c.put id f with
    retained := c.retained - e.ackedBy segment
    journal :=
      notices ++ settleNotices id (e.ackedBy segment) c.retained clamps ++
        .segment id e segment :: c.journal }

/-- The fault that cut the acknowledgment part of a segment short. -/
inductive AckFault (id : FlowId) : Notice → Prop
  | clamp (error : IoError) : AckFault id (.clamped id (.error error))
  | discard (asked : ℕ) (result : Except IoError ℕ) (h : result ≠ .ok asked) :
      AckFault id (.discarded id asked result)

/-- The steps of the machine. -/
inductive Act (cfg : Config) (c : Core) : Core → Prop
  | engine (u : Udp.Engine) (h : EngineStep c.udpEngine u) : Act cfg c { c with udpEngine := u }
  | associations (u : FlowTable SocksAssociation)
      (h : Recorded c.journal c.socks → Recorded c.journal u) : Act cfg c { c with socks := u }
  | mild (notice : Notice) (h : Mild notice) : Act cfg c (c.log [notice])
  | dialed (transport : Transport) (peer : SocketAddr)
      (h : Recorded c.journal c.socks → Dialable cfg c.journal transport peer) :
      Act cfg c (c.log [.dialed transport peer])
  | synLost (id : FlowId) (h : c.flows.Used id) : Act cfg c (c.log [.synLost id])
  | serviced (id : FlowId) (e : FlowEntry) (now : Millis) (hget : c.flows.get id = some e) :
      Act cfg c (c.log [.serviced id e now])
  | timeWait (id : FlowId) (e : FlowEntry) (hget : c.flows.get id = some e)
      (hstate : e.flow.state = .timeWait) : Act cfg c (c.log [.timeWait id e])
  | touch (id : FlowId) (e f : FlowEntry) (hget : c.flows.get id = some e) (h : Touched e f) :
      Act cfg c (c.put id f)
  | replyConsumed (id : FlowId) (e : FlowEntry) (count : ℕ) (hget : c.flows.get id = some e)
      (h : e.handshake.isSome = true) :
      Act cfg c (c.put id
        { e with socket := { e.socket with consumed := e.socket.consumed + count } })
  | built (id : FlowId) (e : FlowEntry) (body : FrameBody) (hget : c.flows.get id = some e)
      (hspared : Spared c id) (h : BuiltFrom c id e body) : Act cfg c (c.log [.built id e body])
  | enqueue (queued : QueuedFrame) (h : queued.flow = none ∨ queued.plan = none)
      (hr : queued.reservedRetained = 0) : Act cfg c (c.push queued)
  | planData (id : FlowId) (e : FlowEntry) (spec : TcpFrameSpec) (payload : Bytes) (frame : PooledFrame)
      (hget : c.flows.get id = some e) (hbusy : c.busy id = false) (hstate : e.sendable = true)
      (hne : payload ≠ []) (hwindow : payload.length ≤ e.flow.availableNamespaceWindow)
      (hretained : payload.length ≤ cfg.maxRetainedTcpBytes - c.retained)
      (hpayload : payload = (e.socket.queued e.retained).take payload.length)
      (hsequence : spec.plan.sequence = e.flow.localNext)
      (hsize : cfg.tapOffload = false → payload.length ≤ e.flow.mss)
      (hgso : spec.gsoSize = some e.flow.mss) :
      Act cfg c
        (((c.put id { e with lastNamespaceByte := payload.getLast? }).log
            [.built id { e with lastNamespaceByte := payload.getLast? } (.tcp spec payload)]).push
          ⟨some id, frame,
            some ⟨e.flow.localNext, e.flow.namespaceAcked, payload.length, false, false⟩,
            payload.length⟩)
  | planFin (id : FlowId) (e : FlowEntry) (frame : PooledFrame) (hget : c.flows.get id = some e)
      (hbusy : c.busy id = false) (hstate : e.sendable = true)
      (hwindow : 0 < e.flow.availableNamespaceWindow) (hretained : e.retained = 0)
      (hqueued : e.socket.queued 0 = []) (heof : e.socket.eof = true) :
      Act cfg c
        (c.push ⟨some id, frame, some ⟨e.flow.localNext, e.flow.namespaceAcked, 0, false, true⟩, 0⟩)
  | commitPlain (queued : QueuedFrame) (rest : List QueuedFrame) (hqueue : c.tapQueue = queued :: rest)
      (h : queued.flow = none ∨ queued.plan = none) : Act cfg c { c with tapQueue := rest }
  | commit (queued : QueuedFrame) (rest : List QueuedFrame) (hqueue : c.tapQueue = queued :: rest)
      (id : FlowId) (plan : SendPlan) (e : FlowEntry) (now : Millis) (hid : queued.flow = some id)
      (hplan : queued.plan = some plan) (hget : c.flows.get id = some e)
      (hmatch : e.commitMatches plan = true) :
      Act cfg c ({ c with tapQueue := rest }.put id (e.committed plan now))
  | commitMissed (queued : QueuedFrame) (rest : List QueuedFrame) (hqueue : c.tapQueue = queued :: rest)
      (id : FlowId) (plan : SendPlan) (hid : queued.flow = some id) (hplan : queued.plan = some plan)
      (hget : c.flows.get id = none) :
      Act cfg c ({ c with tapQueue := rest }.log [.commitFailed id])
  | commitMismatched (queued : QueuedFrame) (rest : List QueuedFrame)
      (hqueue : c.tapQueue = queued :: rest) (id : FlowId) (plan : SendPlan) (e : FlowEntry)
      (hid : queued.flow = some id) (hplan : queued.plan = some plan)
      (hget : c.flows.get id = some e) (hmatch : e.commitMatches plan = false) :
      Act cfg c (({ c with tapQueue := rest }.put id (e.advanced plan)).log [.commitFailed id])
  | drop (queued : QueuedFrame) (rest : List QueuedFrame) (hqueue : c.tapQueue = queued :: rest) :
      Act cfg c
        (({ c with tapQueue := rest }.log [.tapFailed queued.flow queued.plan]).release
          queued.reservedRetained)
  | flush (id : FlowId) (e f : FlowEntry) (hget : c.flows.get id = some e) (hspared : Spared c id)
      (h : Drained e f) (hrest : f.pendingSocket.isEmpty = false ∨ f.pendingShutdown = false) : Act cfg c (c.put id f)
  | flushFin (id : FlowId) (e f : FlowEntry) (hget : c.flows.get id = some e) (hspared : Spared c id)
      (h : Drained e f) (hempty : f.pendingSocket.isEmpty = true) (hshut : f.pendingShutdown = true) :
      Act cfg c ((c.put id { f.shut with pendingShutdown := false }).log [.shutdown id (.ok ())])
  | flushFinFailed (id : FlowId) (e f : FlowEntry) (error : IoError) (hget : c.flows.get id = some e)
      (hspared : Spared c id) (h : Drained e f) : Act cfg c ((c.put id f).log [.shutdown id (.error error)])
  | handled (id : FlowId) (e f g : FlowEntry) (segment : TcpSegment) (clamps : ℕ) (notices : List Notice)
      (hget : c.flows.get id = some e) (hspared : Spared c id) (hrst : segment.flags.rst = false)
      (hf : Touched (e.settled segment) f)
      (hg : Delivered id segment.payload (e.received segment).2 f notices g) :
      Act cfg c (c.settle id e segment clamps notices g)
  | lost (id : FlowId) (e f g : FlowEntry) (segment : TcpSegment) (clamps : ℕ) (notices : List Notice)
      (hget : c.flows.get id = some e) (hspared : Spared c id) (hrst : segment.flags.rst = false)
      (hf : Touched (e.settled segment) f)
      (hg : Lost id segment.payload (e.received segment).2 f notices g) :
      Act cfg c (c.settle id e segment clamps notices g)
  | ackAborted (id : FlowId) (e f : FlowEntry) (segment : TcpSegment) (clamps count : ℕ) (fault : Notice)
      (hget : c.flows.get id = some e) (hspared : Spared c id) (hrst : segment.flags.rst = false)
      (hf : Touched
        { (e.received segment).1 with
          socket := { e.socket with consumed := e.socket.consumed + count } } f)
      (hfault : AckFault id fault) :
      Act cfg c
        ((c.put id f).log
          (fault :: List.replicate clamps (.clamped id (.ok ())) ++ [.segment id e segment]))
  | reset (id : FlowId) (e : FlowEntry) (segment : TcpSegment) (d : Core)
      (hget : c.flows.get id = some e) (hspared : Spared c id) (hrst : segment.flags.rst = true)
      (h : Closing ((c.put id (e.received segment).1).log [.segment id e segment]) id
        (e.received segment).1 d) : Act cfg c d
  | activate (id : FlowId) (e : FlowEntry) (bytesAcked : ℕ) (frame : PooledFrame) (body : FrameBody)
      (hget : c.flows.get id = some e) (hspared : Spared c id) (hhandshake : e.handshake = none)
      (hbody : body.payload = []) :
      Act cfg c
        (((c.put id { e with flow := (e.flow.socketConnected bytesAcked).1 }).log
            [.built id { e with flow := (e.flow.socketConnected bytesAcked).1 } body,
              .activated id e (c.busy id)]).push
          ⟨some id, frame, some (e.flow.socketConnected bytesAcked).2, 0⟩)
  | activateLost (id : FlowId) (e : FlowEntry) (bytesAcked dry : ℕ) (hget : c.flows.get id = some e)
      (hspared : Spared c id) (hhandshake : e.handshake = none) :
      Act cfg c
        ((c.put id { e with flow := (e.flow.socketConnected bytesAcked).1 }).log
          (.synLost id :: List.replicate dry .poolDry ++ [.activated id e (c.busy id)]))
  | close (id : FlowId) (e : FlowEntry) (d : Core) (hget : c.flows.get id = some e)
      (hspared : Spared c id) (h : Closing c id e d) : Act cfg c d
  | create (key : FlowKey) (e : FlowEntry) (flows : FlowTable FlowEntry) (id : FlowId)
      (hkey : c.byKey.find? key = none) (hinsert : c.flows.insert e = (flows, .ok id))
      (hfresh : Fresh key e) (segment : TcpSegment)
      (hmss : e.flow.mss = Reactor.negotiatedMss cfg key segment.mss) :
      Act cfg c
        ({ c with flows := flows, byKey := c.byKey.insert key id }.log [.accepted id segment, .created id])
  | reap : Act cfg c { c with flows := c.flows.flushDeferred.1 }

/-- The steps of the TAP handler, which also changes the refresh queue. -/
def TapAct (cfg : Config) (c d : Core) : Prop :=
  Act cfg c d ∨ ∃ refresh, d = { c with refresh := refresh }

end Yayatht
