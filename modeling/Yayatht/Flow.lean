import Yayatht.Addresses
import Yayatht.Sequence

set_option autoImplicit false

namespace Yayatht
open Sequence

inductive FlowInterface where
  | namespaceTap
  | hostSocket
  | proxyTunnel
  deriving DecidableEq, Repr

structure FlowSide where
  interface : FlowInterface
  localEndpoint : SocketAddr
  logicalPeer : SocketAddr
  transportPeer : SocketAddr
  deriving DecidableEq, Repr

structure FlowKey where
  namespaceEnd : SocketAddr
  target : SocketAddr
  deriving DecidableEq, Repr

structure FlowSides where
  initiating : FlowSide
  target : FlowSide
  deriving DecidableEq, Repr

def FlowSides.namespaceKey (sides : FlowSides) : FlowKey :=
  ⟨sides.initiating.logicalPeer, sides.initiating.localEndpoint⟩

inductive FlowType where
  | tcp
  deriving DecidableEq, Repr

inductive ConstructionState where
  | new
  | initiated
  | targeted
  | typed
  | active
  deriving DecidableEq, Repr

structure FlowConstruction where
  state : ConstructionState := .new
  initiating : Option FlowSide := none
  target : Option FlowSide := none
  flowType : Option FlowType := none
  deriving DecidableEq, Repr

namespace FlowConstruction

def setInitiating (c : FlowConstruction) (side : FlowSide) :
    Except ConstructionState FlowConstruction :=
  if c.state ≠ .new then .error c.state
  else .ok { c with initiating := some side, state := .initiated }

def setTarget (c : FlowConstruction) (side : FlowSide) :
    Except ConstructionState FlowConstruction :=
  if c.state ≠ .initiated then .error c.state
  else .ok { c with target := some side, state := .targeted }

def setType (c : FlowConstruction) (flowType : FlowType) :
    Except ConstructionState FlowConstruction :=
  if c.state ≠ .targeted then .error c.state
  else .ok { c with flowType := some flowType, state := .typed }

/-- The sides are present whenever the state is `typed` or `active`; the
source's `expect` on them is the outer `none`. -/
def sides (c : FlowConstruction) : Option FlowSides :=
  match c.initiating, c.target with
  | some initiating, some target => some ⟨initiating, target⟩
  | _, _ => none

def activate (c : FlowConstruction) : Except ConstructionState (FlowConstruction × Option FlowSides) :=
  if c.state ≠ .typed ∨ c.flowType ≠ some .tcp then .error c.state
  else .ok ({ c with state := .active }, c.sides)

def activeSides (c : FlowConstruction) : Option FlowSides :=
  if c.state = .active then c.sides else none

end FlowConstruction

inductive State where
  | connecting
  | synReceived
  | established
  | namespaceFinReceived
  | socketFinReceived
  | closing
  | timeWait
  | closed
  deriving DecidableEq, Repr

inductive ReceiveDisposition where
  | inOrder (payloadLen : ℕ) (fin : Bool)
  | duplicate
  | outOfOrder
  | outsideWindow
  | reset
  | invalid
  deriving DecidableEq, Repr

structure SendPlan where
  sequence : Seq
  acknowledgment : Seq
  length : ℕ
  syn : Bool
  fin : Bool
  deriving DecidableEq, Repr

def u16Max : ℕ := 65535
def u64Max : ℕ := 18446744073709551615

structure Flow where
  state : State
  namespaceInitial : Seq
  namespaceNext : Seq
  namespaceAcked : Seq
  localInitial : Seq
  localUnacked : Seq
  localNext : Seq
  peerWindow : ℕ
  peerWindowShift : ℕ
  receiveEdge : Seq
  localWindowShift : ℕ
  mss : ℕ
  upstreamAckBaseline : ℕ
  upstreamSubmitted : ℕ
  upstreamAcked : ℕ
  namespaceFin : Bool
  socketFin : Bool
  localFinSequence : Option Seq
  deriving DecidableEq, Repr

namespace Flow

def new (namespaceInitial localInitial : Seq) (mss peerWindowShift localWindowShift : ℕ) : Flow where
  state := .connecting
  namespaceInitial := namespaceInitial
  namespaceNext := namespaceInitial + 1
  namespaceAcked := namespaceInitial + 1
  localInitial := localInitial
  localUnacked := localInitial
  localNext := localInitial
  peerWindow := u16Max
  peerWindowShift := peerWindowShift
  receiveEdge := namespaceInitial + 1 + BitVec.ofNat 32 u16Max
  localWindowShift := localWindowShift
  mss := mss
  upstreamAckBaseline := 0
  upstreamSubmitted := 0
  upstreamAcked := 0
  namespaceFin := false
  socketFin := false
  localFinSequence := none

def advertisedWindow (f : Flow) : ℕ :=
  if after f.receiveEdge f.namespaceNext then (distance f.namespaceNext f.receiveEdge).toNat else 0

def maxAdvertisedWindow (f : Flow) : ℕ := u16Max * 2 ^ f.localWindowShift % 2 ^ 32

def windowField (f : Flow) (syn : Bool) : ℕ :=
  let fromAck :=
    if after f.receiveEdge f.namespaceAcked then (distance f.namespaceAcked f.receiveEdge).toNat
    else 0
  let scaled := if syn then fromAck else fromAck / 2 ^ f.localWindowShift
  min scaled u16Max

/-- The second component says whether the window field on the wire changed. -/
def setAdvertisedWindow (f : Flow) (budget : ℕ) : Flow × Bool :=
  let candidate := f.namespaceNext + BitVec.ofNat 32 (min budget f.maxAdvertisedWindow)
  if after candidate f.receiveEdge then
    let g := { f with receiveEdge := candidate }
    (g, g.windowField false ≠ f.windowField false)
  else (f, false)

def unackedToNamespace (f : Flow) : ℕ := (distance f.localUnacked f.localNext).toNat

def availableNamespaceWindow (f : Flow) : ℕ := f.peerWindow - f.unackedToNamespace

def socketConnected (f : Flow) (bytesAcked : ℕ) : Flow × SendPlan :=
  ({ f with
      upstreamAckBaseline := bytesAcked
      state := .synReceived
      localNext := f.localInitial + 1 },
    { sequence := f.localInitial
      acknowledgment := f.namespaceNext
      length := 0
      syn := true
      fin := false })

def acknowledgeLocal (f : Flow) (acknowledgment : Seq) : Flow :=
  let f :=
    if after acknowledgment f.localUnacked && beforeOrEqual acknowledgment f.localNext then
      { f with localUnacked := acknowledgment }
    else f
  match f.localFinSequence with
  | some finSequence =>
    if after acknowledgment finSequence && f.namespaceFin then { f with state := .timeWait } else f
  | none => f

/-- The acknowledgment part of `receive`, before the sequence number is looked at. -/
def receiveAck (f : Flow) (acknowledgment : Option Seq) (window : ℕ) : Flow :=
  let f := { f with peerWindow := window * 2 ^ f.peerWindowShift % 2 ^ 32 }
  match acknowledgment with
  | none => f
  | some ack =>
    let f := f.acknowledgeLocal ack
    if f.state = .synReceived ∧ ack = f.localInitial + 1 then { f with state := .established } else f

/-- The state after an in-order FIN. -/
def finState (f : Flow) : State :=
  if f.socketFin && f.localUnacked == f.localNext then .timeWait
  else if f.socketFin then .closing
  else .namespaceFinReceived

/-- Moves the receive point over `payloadLen` bytes and, with `fin`, over the FIN. -/
def advance (f : Flow) (payloadLen : ℕ) (fin : Bool) : Flow :=
  let f := { f with namespaceNext := f.namespaceNext + BitVec.ofNat 32 payloadLen }
  if fin then
    let f := { f with namespaceNext := f.namespaceNext + 1, namespaceFin := true }
    let f :=
      if f.upstreamAcked = f.upstreamSubmitted then { f with namespaceAcked := f.namespaceNext } else f
    { f with state := f.finState }
  else f

def receive (f : Flow) (sequenceNumber : Seq) (acknowledgment : Option Seq) (window payloadLen : ℕ)
    (fin rst : Bool) : Flow × ReceiveDisposition :=
  if rst then ({ f with state := .closed }, .reset)
  else
    let f := f.receiveAck acknowledgment window
    if sequenceNumber ≠ f.namespaceNext then
      (f, if before sequenceNumber f.namespaceNext then .duplicate else .outOfOrder)
    else if payloadLen > f.advertisedWindow then (f, .outsideWindow)
    else if payloadLen = 0 ∧ fin = false then (f, .inOrder 0 false)
    else if payloadLen < 2 ^ 32 then (f.advance payloadLen fin, .inOrder payloadLen fin)
    else (f, .invalid)

def recordUpstreamSubmitted (f : Flow) (length : ℕ) : Flow :=
  { f with upstreamSubmitted := min (f.upstreamSubmitted + length) u64Max }

def upstreamUnacked (f : Flow) : ℕ := f.upstreamSubmitted - f.upstreamAcked

/-- The second component says whether the acknowledgment point advanced. -/
def recordUpstreamAck (f : Flow) (bytesAcked : ℕ) : Flow × Bool :=
  let acknowledged := min (bytesAcked - f.upstreamAckBaseline) f.upstreamSubmitted
  if acknowledged ≤ f.upstreamAcked then (f, false)
  else
    let point := f.namespaceInitial + 1 + BitVec.ofNat 32 acknowledged
    ({ f with
        upstreamAcked := acknowledged
        namespaceAcked :=
          if f.namespaceFin && acknowledged == f.upstreamSubmitted then point + 1 else point },
      true)

def planSend (f : Flow) (length : ℕ) (fin : Bool) : Option SendPlan :=
  if length > f.availableNamespaceWindow then none
  else some
    { sequence := f.localNext
      acknowledgment := f.namespaceAcked
      length := length
      syn := false
      fin := fin }

def commitSend (f : Flow) (plan : SendPlan) : Flow :=
  let f := { f with localNext := f.localNext + BitVec.ofNat 32 plan.length }
  if plan.fin then
    { f with
      localFinSequence := some f.localNext
      localNext := f.localNext + 1
      socketFin := true
      state := if f.namespaceFin then .closing else .socketFinReceived }
  else f

def newlyAckedPayload (f : Flow) (previousAck : Seq) : ℕ :=
  let payloadStart := f.localInitial + 1
  let payloadEnd := f.localFinSequence.getD f.localNext
  let start := if before previousAck payloadStart then payloadStart else previousAck
  let stop := if after f.localUnacked payloadEnd then payloadEnd else f.localUnacked
  if after stop start then (distance start stop).toNat else 0

def markSocketFin (f : Flow) : Flow := { f with socketFin := true }

def close (f : Flow) : Flow := { f with state := .closed }

/-- The acknowledgment point of the sent side after an acknowledgment was looked at. -/
def ackedTo (f : Flow) (acknowledgment : Option Seq) : Seq :=
  match acknowledgment with
  | none => f.localUnacked
  | some ack =>
    if after ack f.localUnacked && beforeOrEqual ack f.localNext then ack else f.localUnacked

/-- The state once an acknowledgment was compared with the local FIN. -/
def finAckState (f : Flow) (ack : Seq) : State :=
  match f.localFinSequence with
  | some finSequence => if after ack finSequence && f.namespaceFin then .timeWait else f.state
  | none => f.state

/-- The state after the acknowledgment part of a segment. -/
def ackState (f : Flow) (acknowledgment : Option Seq) : State :=
  match acknowledgment with
  | none => f.state
  | some ack =>
    if f.finAckState ack = .synReceived ∧ ack = f.localInitial + 1 then .established
    else f.finAckState ack

theorem acknowledgeLocal_eq (f : Flow) (ack : Seq) :
    f.acknowledgeLocal ack =
      { f with localUnacked := f.ackedTo (some ack), state := f.finAckState ack } := by
  have hmove : (if after ack f.localUnacked && beforeOrEqual ack f.localNext then
      { f with localUnacked := ack } else f) = { f with localUnacked := f.ackedTo (some ack) } := by
    unfold ackedTo
    dsimp only
    split <;> rfl
  unfold acknowledgeLocal
  rw [hmove]
  unfold finAckState
  cases hf : f.localFinSequence with
  | none => simp only
  | some finSequence =>
    dsimp only
    by_cases h : (after ack finSequence && f.namespaceFin) = true
    · rw [if_pos h, if_pos h]
    · rw [if_neg h, if_neg h]

/-- The acknowledgment part of a segment moves the peer window, the acknowledgment
point and the state, and nothing else. -/
theorem receiveAck_eq (f : Flow) (acknowledgment : Option Seq) (window : ℕ) :
    f.receiveAck acknowledgment window =
      { f with
        peerWindow := window * 2 ^ f.peerWindowShift % 2 ^ 32
        localUnacked := f.ackedTo acknowledgment
        state := f.ackState acknowledgment } := by
  cases acknowledgment with
  | none => rfl
  | some ack =>
    unfold receiveAck ackState
    dsimp only
    rw [acknowledgeLocal_eq]
    by_cases h : f.finAckState ack = .synReceived ∧ ack = f.localInitial + 1
    · rw [if_pos h]
      exact if_pos h
    · rw [if_neg h]
      exact if_neg h

theorem advance_fin (f : Flow) (payloadLen : ℕ) :
    f.advance payloadLen true =
      { f with
        namespaceNext := f.namespaceNext + BitVec.ofNat 32 payloadLen + 1
        namespaceAcked :=
          if f.upstreamAcked = f.upstreamSubmitted then
            f.namespaceNext + BitVec.ofNat 32 payloadLen + 1
          else f.namespaceAcked
        namespaceFin := true
        state := f.finState } := by
  unfold advance
  dsimp only [if_true]
  by_cases h : f.upstreamAcked = f.upstreamSubmitted
  · simp only [if_pos h]
    rfl
  · simp only [if_neg h]
    rfl

theorem advance_payload (f : Flow) (payloadLen : ℕ) :
    f.advance payloadLen false =
      { f with namespaceNext := f.namespaceNext + BitVec.ofNat 32 payloadLen } := rfl

/-- What a segment can do: reset the flow, only acknowledge, or also advance in order. -/
theorem receive_cases (f : Flow) (sequenceNumber : Seq) (acknowledgment : Option Seq)
    (window payloadLen : ℕ) (fin rst : Bool) :
    (rst = true ∧
        f.receive sequenceNumber acknowledgment window payloadLen fin rst =
          ({ f with state := .closed }, .reset)) ∨
      (rst = false ∧ ∃ disposition, disposition ≠ .reset ∧
        (∀ n b, disposition = .inOrder n b → n = 0 ∧ b = false ∧ payloadLen = 0 ∧ fin = false) ∧
        f.receive sequenceNumber acknowledgment window payloadLen fin rst =
          (f.receiveAck acknowledgment window, disposition)) ∨
      (rst = false ∧ sequenceNumber = f.namespaceNext ∧ payloadLen ≤ f.advertisedWindow ∧
        (0 < payloadLen ∨ fin = true) ∧
        f.receive sequenceNumber acknowledgment window payloadLen fin rst =
          ((f.receiveAck acknowledgment window).advance payloadLen fin, .inOrder payloadLen fin)) := by
  have hnext : (f.receiveAck acknowledgment window).namespaceNext = f.namespaceNext := by
    rw [receiveAck_eq]
  have hwindow : (f.receiveAck acknowledgment window).advertisedWindow = f.advertisedWindow := by
    rw [receiveAck_eq]
    rfl
  unfold receive
  cases rst with
  | true => exact .inl ⟨rfl, rfl⟩
  | false =>
    refine .inr ?_
    simp only [Bool.false_eq_true, if_false, hnext, hwindow]
    by_cases hseq : sequenceNumber = f.namespaceNext
    · rw [if_neg (not_not.mpr hseq)]
      by_cases hlarge : payloadLen > f.advertisedWindow
      · rw [if_pos hlarge]
        exact .inl ⟨trivial, _, by simp, by simp, rfl⟩
      · rw [if_neg hlarge]
        by_cases hempty : payloadLen = 0 ∧ fin = false
        · rw [if_pos hempty]
          refine .inl ⟨trivial, _, by simp, ?_, rfl⟩
          rintro n b hd
          cases hd
          exact ⟨rfl, rfl, hempty⟩
        · rw [if_neg hempty]
          by_cases hfit : payloadLen < 2 ^ 32
          · rw [if_pos hfit]
            refine .inr ⟨trivial, hseq, Nat.le_of_not_gt hlarge, ?_, rfl⟩
            rcases Nat.eq_zero_or_pos payloadLen with hz | hpos
            · exact .inr (by simpa [hz] using hempty)
            · exact .inl hpos
          · rw [if_neg hfit]
            exact .inl ⟨trivial, _, by simp, by simp, rfl⟩
    · rw [if_pos hseq]
      refine .inl ⟨trivial, _, ?_, ?_, rfl⟩
      · split <;> simp
      · intro n b hd
        split at hd <;> cases hd

end Flow

end Yayatht
