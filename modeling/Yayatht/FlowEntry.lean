import Yayatht.Flow
import Yayatht.FlowTable
import Yayatht.Handshake

set_option autoImplicit false

namespace Yayatht
open Sequence

def retransmitInitial : Millis := 1000
def retransmitMax : Millis := 8000
def maxRetries : ℕ := 5
def zeroWindowProbeInitial : Millis := 1000
def zeroWindowProbeMax : Millis := 8000
def maxPendingSocketBytes : ℕ := 262144

structure TcpFlags where
  fin : Bool := false
  syn : Bool := false
  rst : Bool := false
  psh : Bool := false
  ack : Bool := false
  deriving DecidableEq, Repr

structure TcpSegment where
  sourcePort : UInt16
  destinationPort : UInt16
  sequence : Seq
  acknowledgment : Seq
  flags : TcpFlags
  window : UInt16
  mss : Option UInt16 := none
  windowScale : Option UInt8 := none
  payload : Bytes := []
  deriving DecidableEq, Repr

/-- The kernel's side of a connected stream socket: every byte that arrived, how many
of them were taken off the receive queue, and what the two sending paths handed over. -/
structure Socket where
  stream : Bytes := []
  consumed : ℕ := 0
  eof : Bool := false
  peekOffset : Option ℕ := none
  handshakeSent : Bytes := []
  payloadSent : Bytes := []
  writeShutdown : Bool := false
  deriving DecidableEq, Repr

/-- The bytes a peek at `offset` can see. -/
def Socket.queued (socket : Socket) (offset : ℕ) : Bytes := socket.stream.drop (socket.consumed + offset)

structure ZeroWindowProbe where
  deadline : Millis
  interval : Millis
  deriving DecidableEq, Repr

namespace ZeroWindowProbe

def new (now : Millis) : ZeroWindowProbe := ⟨now + zeroWindowProbeInitial, zeroWindowProbeInitial⟩

def advance (p : ZeroWindowProbe) (now : Millis) : ZeroWindowProbe :=
  let interval := min (p.interval * 2) zeroWindowProbeMax
  ⟨now + interval, interval⟩

end ZeroWindowProbe

structure PendingSocketQueue where
  chunks : List Bytes
  bytes : ℕ
  limit : ℕ
  deriving DecidableEq, Repr

namespace PendingSocketQueue

def new (limit : ℕ) : PendingSocketQueue := ⟨[], 0, limit⟩

def remaining (q : PendingSocketQueue) : ℕ := q.limit - q.bytes

def push (q : PendingSocketQueue) (bytes : Bytes) : Option PendingSocketQueue :=
  if bytes.length > q.remaining then none
  else if bytes = [] then some q
  else some { q with chunks := q.chunks ++ [bytes], bytes := q.bytes + bytes.length }

def front (q : PendingSocketQueue) : Option Bytes := q.chunks.head?

/-- The second component is the number of bytes taken. -/
def consume (q : PendingSocketQueue) (length : ℕ) : PendingSocketQueue × ℕ :=
  match q.chunks with
  | [] => (q, 0)
  | front :: chunks =>
    let length := min length front.length
    let rest := front.drop length
    ({ q with
        chunks := if rest = [] then chunks else rest :: chunks
        bytes := q.bytes - length },
      length)

def isEmpty (q : PendingSocketQueue) : Bool := q.bytes == 0

def content (q : PendingSocketQueue) : Bytes := q.chunks.flatten

structure Wf (q : PendingSocketQueue) : Prop where
  bytes_eq : q.bytes = q.content.length
  nonempty : ∀ chunk ∈ q.chunks, chunk ≠ []

theorem wf_new (limit : ℕ) : (new limit).Wf := ⟨rfl, by simp [new]⟩

theorem Wf.isEmpty_iff {q : PendingSocketQueue} (h : q.Wf) : q.isEmpty = true ↔ q.chunks = [] := by
  unfold isEmpty
  rw [beq_iff_eq, h.bytes_eq, content]
  constructor
  · intro hz
    cases hc : q.chunks with
    | nil => rfl
    | cons chunk chunks =>
      have hne := h.nonempty chunk (by rw [hc]; exact List.mem_cons_self)
      rw [hc] at hz
      simp only [List.flatten_cons, List.length_append] at hz
      exact absurd (List.length_eq_zero_iff.mp (by omega)) hne
  · intro hc
    simp [hc]

theorem push_content {q r : PendingSocketQueue} {bytes : Bytes} (h : q.push bytes = some r) :
    r.content = q.content ++ bytes := by
  unfold push at h
  split at h
  · cases h
  split at h
  · cases h
    simp_all
  · cases h
    simp [content]

theorem Wf.push {q r : PendingSocketQueue} {bytes : Bytes} (hq : q.Wf) (h : q.push bytes = some r) :
    r.Wf := by
  have hc := push_content h
  unfold PendingSocketQueue.push at h
  split at h
  · cases h
  split at h
  · cases h
    exact hq
  · rename_i hne
    cases h
    refine ⟨?_, ?_⟩
    · change q.bytes + bytes.length = _
      rw [hc, List.length_append, hq.bytes_eq]
    · intro chunk hm
      rcases List.mem_append.mp hm with hm | hm
      · exact hq.nonempty chunk hm
      · rw [List.mem_singleton] at hm
        subst hm
        exact hne

theorem push_isSome {q : PendingSocketQueue} {bytes : Bytes} (h : bytes.length ≤ q.remaining) :
    (q.push bytes).isSome = true := by
  unfold push
  rw [if_neg (by omega)]
  split <;> rfl

theorem consume_content (q : PendingSocketQueue) (length : ℕ) :
    q.content = q.content.take (q.consume length).2 ++ (q.consume length).1.content := by
  unfold consume content
  cases hc : q.chunks with
  | nil => simp [hc]
  | cons front chunks =>
    have hle : min length front.length ≤ front.length := Nat.min_le_right _ _
    simp only [List.flatten_cons, List.take_append_of_le_length hle]
    split
    · rename_i hr
      rw [List.take_of_length_le (List.drop_eq_nil_iff.mp hr)]
    · rw [List.flatten_cons, ← List.append_assoc, List.take_append_drop]

theorem Wf.consume {q : PendingSocketQueue} (hq : q.Wf) (length : ℕ) : (q.consume length).1.Wf := by
  have hc := consume_content q length
  have hb := hq.bytes_eq
  unfold PendingSocketQueue.consume at hc ⊢
  cases hch : q.chunks with
  | nil =>
    simp only
    exact hq
  | cons front chunks =>
    rw [hch] at hc
    simp only at hc ⊢
    refine ⟨?_, ?_⟩
    · have hl := congrArg List.length hc
      have hle : min length front.length ≤ q.content.length := by
        have hm : min length front.length ≤ front.length := Nat.min_le_right _ _
        unfold content
        rw [hch, List.flatten_cons, List.length_append]
        omega
      rw [List.length_append, List.length_take, Nat.min_eq_left hle] at hl
      dsimp only
      omega
    · intro chunk hm
      dsimp only at hm
      split at hm
      · exact hq.nonempty chunk (by rw [hch]; exact List.mem_cons_of_mem _ hm)
      · rename_i hne
        rcases List.mem_cons.mp hm with rfl | hm
        · exact hne
        · exact hq.nonempty chunk (by rw [hch]; exact List.mem_cons_of_mem _ hm)

end PendingSocketQueue

structure SentSegment where
  sequence : Seq
  payloadLen : ℕ
  syn : Bool
  fin : Bool
  lastSent : Millis
  retransmitTimeout : Millis
  retries : ℕ
  deriving DecidableEq, Repr

namespace SentSegment

def sequenceLen (s : SentSegment) : Seq :=
  BitVec.ofNat 32 (s.payloadLen + s.syn.toNat + s.fin.toNat)

def endSequence (s : SentSegment) : Seq := s.sequence + s.sequenceLen

/-- Trims the acknowledged prefix; the second component says that nothing is left. -/
def acknowledge (s : SentSegment) (acknowledgment : Seq) : SentSegment × Bool :=
  if !after acknowledgment s.sequence then (s, false)
  else if !before acknowledgment s.endSequence then (s, true)
  else
    let acknowledged := (distance s.sequence acknowledgment).toNat
    let synAcked := s.syn && decide (acknowledged > 0)
    let acknowledged := if synAcked then acknowledged - 1 else acknowledged
    let payload := min acknowledged s.payloadLen
    let acknowledged := acknowledged - payload
    ({ s with
        sequence := acknowledgment
        syn := s.syn && !synAcked
        payloadLen := s.payloadLen - payload
        fin := s.fin && !decide (acknowledged > 0) },
      false)

def flags (s : SentSegment) : TcpFlags :=
  { syn := s.syn, fin := s.fin, psh := decide (s.payloadLen > 0), ack := true }

def recordTimeoutRetransmit (s : SentSegment) (now : Millis) : SentSegment :=
  { s with
    lastSent := now
    retries := min (s.retries + 1) 255
    retransmitTimeout := min (s.retransmitTimeout * 2) retransmitMax }

def retriesExhausted (s : SentSegment) : Bool := maxRetries ≤ s.retries

end SentSegment

/-- Drops acknowledged segments off the front and trims the first one that is left. -/
def acknowledgeSegments (acknowledgment : Seq) : List SentSegment → List SentSegment
  | [] => []
  | segment :: segments =>
    match segment.acknowledge acknowledgment with
    | (_, true) => acknowledgeSegments acknowledgment segments
    | (segment, false) => segment :: segments

def payloadTotal (segments : List SentSegment) : ℕ := (segments.map SentSegment.payloadLen).sum

structure FlowEntry where
  flow : Flow
  construction : FlowConstruction
  socket : Socket
  transportConnected : Bool
  armedSocketInterest : UInt32
  handshake : Option Proxy.Handshake
  pendingSocket : PendingSocketQueue
  pendingShutdown : Bool
  sentSegments : List SentSegment
  upstreamWindowClamp : Option ℕ
  zeroWindowProbe : Option ZeroWindowProbe
  lastNamespaceByte : Option UInt8
  socketReceiveBufferBytes : ℕ
  socketSendBufferBytes : ℕ

namespace FlowEntry

def open? (e : FlowEntry) : Bool := e.flow.state ≠ .closed

/-- Bytes transmitted to the namespace and not yet acknowledged. -/
def retained (e : FlowEntry) : ℕ := payloadTotal e.sentSegments

end FlowEntry

end Yayatht
