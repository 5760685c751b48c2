import Yayatht.FlowAckHonesty

set_option autoImplicit false

namespace Yayatht

namespace Flow
open Sequence SerialArithmetic

theorem advertisedWindow_eq (f : Flow) :
    f.advertisedWindow =
      if gap f.namespaceNext f.receiveEdge ≤ 2 ^ 31 then gap f.namespaceNext f.receiveEdge else 0 := by
  have hiff := after_iff_gap f.receiveEdge f.namespaceNext
  unfold advertisedWindow
  rw [distance_toNat]
  by_cases ha : after f.receiveEdge f.namespaceNext = true
  · rw [if_pos ha, if_pos (hiff.mp ha).2]
  · rw [if_neg ha]
    rw [hiff] at ha
    split <;> omega

theorem windowField_le (f : Flow) (syn : Bool) :
    f.windowField syn * (if syn then 1 else 2 ^ f.localWindowShift) ≤
      if gap f.namespaceAcked f.receiveEdge ≤ 2 ^ 31 then gap f.namespaceAcked f.receiveEdge else 0 := by
  have hiff := after_iff_gap f.receiveEdge f.namespaceAcked
  have hfrom : (if after f.receiveEdge f.namespaceAcked then (distance f.namespaceAcked f.receiveEdge).toNat
      else 0) ≤ if gap f.namespaceAcked f.receiveEdge ≤ 2 ^ 31 then gap f.namespaceAcked f.receiveEdge else 0 := by
    rw [distance_toNat]
    by_cases ha : after f.receiveEdge f.namespaceAcked = true
    · rw [if_pos ha, if_pos (hiff.mp ha).2]
    · rw [if_neg ha]
      exact Nat.zero_le _
  refine le_trans ?_ hfrom
  unfold windowField
  dsimp only
  cases syn with
  | true =>
    rw [if_pos rfl, if_pos rfl, Nat.mul_one]
    exact Nat.min_le_left _ _
  | false =>
    rw [if_neg Bool.false_ne_true, if_neg Bool.false_ne_true]
    exact (Nat.mul_le_mul_right _ (Nat.min_le_left _ _)).trans (Nat.div_mul_le_self _ _)

/-- A segment at the receive point is outside the window only if its payload is. -/
theorem receive_inside (f : Flow) (acknowledgment : Option Seq) (window : ℕ) {payloadLen : ℕ} (fin rst : Bool)
    (hle : payloadLen ≤ f.advertisedWindow) :
    (f.receive f.namespaceNext acknowledgment window payloadLen fin rst).2 ≠ .outsideWindow := by
  have hnext : (f.receiveAck acknowledgment window).namespaceNext = f.namespaceNext := by
    rw [receiveAck_eq]
  have hwindow : (f.receiveAck acknowledgment window).advertisedWindow = f.advertisedWindow := by
    rw [receiveAck_eq]
    rfl
  unfold receive
  cases rst with
  | true => simp
  | false =>
    simp only [Bool.false_eq_true, if_false, hnext, hwindow, ne_eq, not_true_eq_false,
      if_neg (Nat.not_lt.mpr hle)]
    split
    · simp
    · split <;> simp

end Flow

namespace FlowWindowPromise
open Sequence SerialArithmetic FlowAckHonesty

structure WindowRun extends AckRun where
  next : ℕ
  acked : ℕ
  edge : ℕ
  deriving DecidableEq, Repr

namespace WindowRun

def start (namespaceInitial localInitial : Seq) (mss peerWindowShift localWindowShift : ℕ) : WindowRun where
  toAckRun := AckRun.start namespaceInitial localInitial mss peerWindowShift localWindowShift
  next := 1
  acked := 1
  edge := 1 + u16Max

def nextAfter (r : WindowRun) : FlowAckHonesty.FlowOp → ℕ
  | .receive sequence acknowledgment window payloadLen fin rst =>
    match (r.flow.receive sequence acknowledgment window payloadLen fin rst).2 with
    | .inOrder payloadLen fin => r.next + payloadLen + fin.toNat
    | _ => r.next
  | _ => r.next

/-- A FIN moves the acknowledgment point when nothing is outstanding upstream. -/
def ackedAfter (r : WindowRun) : FlowAckHonesty.FlowOp → ℕ
  | .receive sequence acknowledgment window payloadLen fin rst =>
    match (r.flow.receive sequence acknowledgment window payloadLen fin rst).2 with
    | .inOrder payloadLen fin =>
      if fin && r.flow.upstreamAcked == r.flow.upstreamSubmitted then r.next + payloadLen + 1 else r.acked
    | _ => r.acked
  | .upstreamAcked bytesAcked =>
    match r.flow.recordUpstreamAck bytesAcked with
    | (_, false) => r.acked
    | (f, true) => 1 + f.upstreamAcked + (f.namespaceFin && f.upstreamAcked == f.upstreamSubmitted).toNat
  | _ => r.acked

def edgeAfter (r : WindowRun) : FlowAckHonesty.FlowOp → ℕ
  | .advertise budget =>
    if (r.flow.setAdvertisedWindow budget).1.receiveEdge = r.flow.receiveEdge then r.edge
    else r.next + min budget r.flow.maxAdvertisedWindow
  | _ => r.edge

def step (r : WindowRun) (op : FlowAckHonesty.FlowOp) : WindowRun :=
  ⟨r.toAckRun.step op, r.nextAfter op, r.ackedAfter op, r.edgeAfter op⟩

/-- Runs from `r` whose steps all satisfy `cond` on the state before them. -/
inductive Later (cond : WindowRun → FlowAckHonesty.FlowOp → Prop) (r : WindowRun) : WindowRun → Prop
  | refl : Later cond r r
  | step {s : WindowRun} (op : FlowAckHonesty.FlowOp) : Later cond r s → s.Allowed op → cond s op → Later cond r (s.step op)

/-- Where the announced window ends; a SYN carries it unscaled. -/
def promise (r : WindowRun) (syn : Bool) : ℕ :=
  r.acked + r.flow.windowField syn * if syn then 1 else 2 ^ r.flow.localWindowShift

/-- Where the window that is enforced ends. -/
def room (r : WindowRun) : ℕ := r.next + r.flow.advertisedWindow

/-- No empty budget is advertised while the receive point is exactly half of the number
space past the edge. -/
def Clear (r : WindowRun) : FlowAckHonesty.FlowOp → Prop
  | .advertise budget => budget = 0 → gap r.flow.namespaceNext r.flow.receiveEdge ≠ 2 ^ 31
  | _ => True

/-- The positions are those of the flow's sequence numbers. -/
structure Positions (r : WindowRun) : Prop where
  next_eq : r.flow.namespaceNext = r.flow.namespaceInitial + BitVec.ofNat 32 r.next
  acked_eq : r.flow.namespaceAcked = r.flow.namespaceInitial + BitVec.ofNat 32 r.acked
  edge_eq : r.flow.receiveEdge = r.flow.namespaceInitial + BitVec.ofNat 32 r.edge

structure Placed (r : WindowRun) : Prop extends Positions r where
  shift : r.flow.localWindowShift = 0 ∨ r.flow.localWindowShift = 7
  submitted_le : r.flow.upstreamSubmitted ≤ r.received
  received_le : 1 + r.received + r.flow.namespaceFin.toNat ≤ r.next
  acked_le : r.acked ≤ r.next
  edge_le : r.edge ≤ r.next + u16Max * 2 ^ 7

theorem maxAdvertisedWindow_bounds {r : WindowRun} (h : r.Placed) :
    0 < r.flow.maxAdvertisedWindow ∧ r.flow.maxAdvertisedWindow ≤ u16Max * 2 ^ 7 := by
  unfold Flow.maxAdvertisedWindow
  rcases h.shift with hs | hs <;> rw [hs] <;> decide

theorem promise_le_room {r : WindowRun} (h : r.Placed) (syn : Bool) : r.promise syn ≤ r.room := by
  have hfield := r.flow.windowField_le syn
  have hlag : gap r.flow.namespaceAcked r.flow.namespaceNext = (r.next - r.acked) % 2 ^ 32 := by
    rw [h.acked_eq, h.next_eq]
    exact gap_positions _ h.acked_le
  have haround := gap_mod r.flow.namespaceAcked r.flow.namespaceNext r.flow.receiveEdge
  have hlt := gap_lt r.flow.namespaceNext r.flow.receiveEdge
  have hle := h.acked_le
  unfold promise room
  rw [r.flow.advertisedWindow_eq]
  generalize r.flow.windowField syn * (if syn = true then 1 else 2 ^ r.flow.localWindowShift) = announced
    at hfield ⊢
  -- the edge lies ahead of the receive point, or behind it and then behind what is announced
  split at hfield <;> split <;> omega

theorem room_advertise {r : WindowRun} (h : r.Placed) {budget : ℕ} (hclear : r.Clear (.advertise budget)) :
    r.room ≤ (r.step (.advertise budget)).room := by
  obtain ⟨hpos, hmax⟩ := maxAdvertisedWindow_bounds h
  change r.next + r.flow.advertisedWindow ≤ r.next + (r.flow.setAdvertisedWindow budget).1.advertisedWindow
  unfold Flow.setAdvertisedWindow
  dsimp only
  have hb : min budget r.flow.maxAdvertisedWindow ≤ u16Max * 2 ^ 7 := (Nat.min_le_right _ _).trans hmax
  have hzero : min budget r.flow.maxAdvertisedWindow = 0 → budget = 0 := by omega
  generalize min budget r.flow.maxAdvertisedWindow = b at hb hzero
  unfold u16Max at hb
  split
  · rename_i hafter
    rw [after_iff] at hafter
    have hcandidate := gap_add_left r.flow.namespaceNext b (by omega)
    have haround := gap_mod r.flow.namespaceNext (r.flow.namespaceNext + BitVec.ofNat 32 b) r.flow.receiveEdge
    have hlt := gap_lt (r.flow.namespaceNext + BitVec.ofNat 32 b) r.flow.receiveEdge
    have hcorner : b = 0 → gap r.flow.namespaceNext r.flow.receiveEdge ≠ 2 ^ 31 :=
      fun hz => hclear (hzero hz)
    rw [Flow.advertisedWindow_eq, Flow.advertisedWindow_eq]
    dsimp only
    rw [hcandidate] at haround ⊢
    rw [if_pos (show b ≤ 2 ^ 31 by omega)]
    split <;> omega
  · exact Nat.le_refl _

/-- The receiving side stays where it was. -/
structure Unmoved (r s : WindowRun) : Prop where
  side : s.toAckRun.side = r.toAckRun.side
  receiveEdge : s.flow.receiveEdge = r.flow.receiveEdge
  shift : s.flow.localWindowShift = r.flow.localWindowShift
  next : s.next = r.next
  acked : s.acked = r.acked
  edge : s.edge = r.edge

/-- A segment with `payloadLen` bytes and perhaps a FIN moves the receive point. -/
structure Accepted (payloadLen : ℕ) (fin : Bool) (r s : WindowRun) : Prop where
  inside : payloadLen ≤ r.flow.advertisedWindow
  initial : s.flow.namespaceInitial = r.flow.namespaceInitial
  namespaceNext : s.flow.namespaceNext = r.flow.namespaceNext + BitVec.ofNat 32 (payloadLen + fin.toNat)
  next : s.next = r.next + (payloadLen + fin.toNat)
  pointed : (s.flow.namespaceAcked = s.flow.namespaceNext ∧ s.acked = s.next) ∨
    (s.flow.namespaceAcked = r.flow.namespaceAcked ∧ s.acked = r.acked)
  receiveEdge : s.flow.receiveEdge = r.flow.receiveEdge
  edge : s.edge = r.edge
  shift : s.flow.localWindowShift = r.flow.localWindowShift
  submitted : s.flow.upstreamSubmitted = r.flow.upstreamSubmitted
  finned : s.flow.namespaceFin = (fin || r.flow.namespaceFin)
  received : s.received = r.received + payloadLen

theorem step_receive (r : WindowRun) (sequence : Seq) (acknowledgment : Option Seq)
    (window payloadLen : ℕ) (fin rst : Bool) :
    Unmoved r (r.step (.receive sequence acknowledgment window payloadLen fin rst)) ∨
      Accepted payloadLen fin r (r.step (.receive sequence acknowledgment window payloadLen fin rst)) := by
  dsimp only [step, nextAfter, ackedAfter, edgeAfter, AckRun.step]
  rcases r.flow.receive_cases sequence acknowledgment window payloadLen fin rst with
    ⟨-, h⟩ | ⟨-, disposition, -, hd, h⟩ | ⟨-, -, hle, -, h⟩
  · left
    rw [h]
    exact ⟨rfl, rfl, rfl, rfl, rfl, rfl⟩
  · left
    rw [h, Flow.receiveAck_eq]
    cases disposition with
    | inOrder n b =>
      obtain ⟨rfl, rfl, -⟩ := hd n b rfl
      exact ⟨by simp [AckRun.side, AckRun.accept], rfl, rfl, rfl, rfl, rfl⟩
    | _ => exact ⟨rfl, rfl, rfl, rfl, rfl, rfl⟩
  · right
    rw [h, Flow.receiveAck_eq]
    cases fin with
    | false =>
      rw [Flow.advance_payload]
      exact ⟨hle, rfl, rfl, rfl, .inr ⟨rfl, rfl⟩, rfl, rfl, rfl, rfl, rfl, rfl⟩
    | true =>
      rw [Flow.advance_fin]
      refine ⟨hle, rfl, ?_, rfl, ?_, rfl, rfl, rfl, rfl, rfl, rfl⟩
      · dsimp only
        rw [BitVec.ofNat_add, ← BitVec.add_assoc]
        rfl
      · by_cases hall : r.flow.upstreamAcked = r.flow.upstreamSubmitted
        · left
          simp [hall]
        · right
          simp [hall]

theorem Unmoved.room_eq {r s : WindowRun} (h : Unmoved r s) : s.room = r.room := by
  have hside := h.side
  simp only [AckRun.side, Prod.mk.injEq] at hside
  unfold room
  rw [Flow.advertisedWindow_eq, Flow.advertisedWindow_eq, h.next, h.receiveEdge, hside.2.1]

theorem Unmoved.placed {r s : WindowRun} (h : Unmoved r s) (hr : r.Placed) : s.Placed := by
  have hside := h.side
  simp only [AckRun.side, Prod.mk.injEq] at hside
  obtain ⟨hinitial, hnext, hacked, hsubmitted, -, hfin, hreceived, -⟩ := hside
  refine ⟨⟨?_, ?_, ?_⟩, ?_, ?_, ?_, ?_, ?_⟩
  · rw [hnext, hinitial, h.next]
    exact hr.next_eq
  · rw [hacked, hinitial, h.acked]
    exact hr.acked_eq
  · rw [h.receiveEdge, hinitial, h.edge]
    exact hr.edge_eq
  · rw [h.shift]
    exact hr.shift
  · rw [hsubmitted, hreceived]
    exact hr.submitted_le
  · rw [hreceived, hfin, h.next]
    exact hr.received_le
  · rw [h.acked, h.next]
    exact hr.acked_le
  · rw [h.edge, h.next]
    exact hr.edge_le

variable {payloadLen : ℕ} {fin : Bool}

/-- Payload uses the room up to its end; a FIN past the end makes no difference to it. -/
theorem Accepted.room_le {r s : WindowRun} (h : Accepted payloadLen fin r s) : r.room ≤ s.room := by
  have hinside := h.inside
  have hfin : fin.toNat ≤ 1 := fin.toNat_le
  have hlt := gap_lt s.flow.namespaceNext r.flow.receiveEdge
  have haround := gap_mod r.flow.namespaceNext s.flow.namespaceNext r.flow.receiveEdge
  unfold room
  rw [Flow.advertisedWindow_eq] at hinside
  rw [Flow.advertisedWindow_eq, Flow.advertisedWindow_eq, h.next, h.receiveEdge]
  have hmoved : gap r.flow.namespaceNext s.flow.namespaceNext = payloadLen + fin.toNat := by
    rw [h.namespaceNext]
    apply gap_add_left
    split at hinside <;> omega
  rw [hmoved] at haround
  split_ifs at hinside ⊢ <;> omega

theorem Accepted.placed {r s : WindowRun} (h : Accepted payloadLen fin r s) (hr : r.Placed) : s.Placed := by
  have hnext : s.flow.namespaceNext = s.flow.namespaceInitial + BitVec.ofNat 32 s.next := by
    rw [h.namespaceNext, hr.next_eq, h.initial, h.next, BitVec.add_assoc, ← BitVec.ofNat_add]
  refine ⟨⟨hnext, ?_, ?_⟩, ?_, ?_, ?_, ?_, ?_⟩
  · rcases h.pointed with ⟨hpoint, hacked⟩ | ⟨hpoint, hacked⟩
    · rw [hpoint, hacked]
      exact hnext
    · rw [hpoint, hacked, h.initial]
      exact hr.acked_eq
  · rw [h.receiveEdge, h.initial, h.edge]
    exact hr.edge_eq
  · rw [h.shift]
    exact hr.shift
  · rw [h.submitted, h.received]
    exact Nat.le_add_right_of_le hr.submitted_le
  · have hle := hr.received_le
    rw [h.received, h.finned, h.next]
    cases fin with
    | false =>
      rw [Bool.false_or, Bool.toNat_false]
      omega
    | true =>
      rw [Bool.true_or, Bool.toNat_true]
      omega
  · have hle := hr.acked_le
    rcases h.pointed with ⟨-, hacked⟩ | ⟨-, hacked⟩
    · rw [hacked]
    · rw [hacked, h.next]
      omega
  · have hle := hr.edge_le
    rw [h.edge, h.next]
    omega

theorem placed_advertise {r : WindowRun} (hr : r.Placed) (budget : ℕ) :
    (r.step (.advertise budget)).Placed ∧ r.edge ≤ (r.step (.advertise budget)).edge := by
  obtain ⟨-, hmax⟩ := maxAdvertisedWindow_bounds hr
  have hb : min budget r.flow.maxAdvertisedWindow ≤ u16Max * 2 ^ 7 := (Nat.min_le_right _ _).trans hmax
  dsimp only [step, nextAfter, ackedAfter, edgeAfter, AckRun.step]
  unfold Flow.setAdvertisedWindow
  dsimp only
  generalize min budget r.flow.maxAdvertisedWindow = b at hb
  unfold u16Max at hb
  split
  · rename_i hafter
    have hcandidate : r.flow.namespaceNext + BitVec.ofNat 32 b =
        r.flow.namespaceInitial + BitVec.ofNat 32 (r.next + b) := by
      rw [hr.next_eq, BitVec.add_assoc, ← BitVec.ofNat_add]
    have hne : r.flow.namespaceNext + BitVec.ofNat 32 b ≠ r.flow.receiveEdge := by
      intro he
      rw [he, after_iff_gap, gap_self] at hafter
      exact absurd hafter.1 (Nat.lt_irrefl 0)
    dsimp only
    rw [if_neg hne]
    refine ⟨⟨⟨hr.next_eq, hr.acked_eq, hcandidate⟩, hr.shift, hr.submitted_le, hr.received_le,
      hr.acked_le, Nat.add_le_add_left hb _⟩, ?_⟩
    by_contra hback
    have hforward : gap (r.flow.namespaceNext + BitVec.ofNat 32 b) r.flow.receiveEdge =
        (r.edge - (r.next + b)) % 2 ^ 32 := by
      rw [hcandidate, hr.edge_eq]
      exact gap_positions _ (by omega)
    have hedge := hr.edge_le
    unfold u16Max at hedge
    rw [after_iff, hforward] at hafter
    omega
  · rw [if_pos rfl]
    exact ⟨⟨⟨hr.next_eq, hr.acked_eq, hr.edge_eq⟩, hr.shift, hr.submitted_le, hr.received_le,
      hr.acked_le, hr.edge_le⟩, Nat.le_refl _⟩

theorem placed_upstreamAcked {r : WindowRun} (hr : r.Placed) (bytesAcked : ℕ) :
    (r.step (.upstreamAcked bytesAcked)).Placed := by
  dsimp only [step, nextAfter, ackedAfter, edgeAfter, AckRun.step]
  unfold Flow.recordUpstreamAck
  dsimp only
  split
  · exact ⟨⟨hr.next_eq, hr.acked_eq, hr.edge_eq⟩, hr.shift, hr.submitted_le, hr.received_le,
      hr.acked_le, hr.edge_le⟩
  · have hreached : min (bytesAcked - r.flow.upstreamAckBaseline) r.flow.upstreamSubmitted ≤ r.received :=
      (Nat.min_le_right _ _).trans hr.submitted_le
    generalize min (bytesAcked - r.flow.upstreamAckBaseline) r.flow.upstreamSubmitted = reached at hreached
    have hreceived := hr.received_le
    refine ⟨⟨hr.next_eq, ?_, hr.edge_eq⟩, hr.shift, hr.submitted_le, hr.received_le, ?_, hr.edge_le⟩
    · dsimp only
      rw [BitVec.ofNat_add, BitVec.ofNat_add, ← BitVec.add_assoc, ← BitVec.add_assoc]
      cases (r.flow.namespaceFin && reached == r.flow.upstreamSubmitted) with
      | true => rfl
      | false =>
        rw [Bool.toNat_false, BitVec.add_zero]
        rfl
    · dsimp only
      cases hf : r.flow.namespaceFin with
      | true =>
        rw [hf, Bool.toNat_true] at hreceived
        have hone := (true && reached == r.flow.upstreamSubmitted).toNat_le
        omega
      | false =>
        rw [Bool.false_and, Bool.toNat_false]
        omega

theorem placed_submitted {r : WindowRun} (hr : r.Placed) {length : ℕ} (hallowed : r.Allowed (.submitted length)) :
    (r.step (.submitted length)).Placed :=
  ⟨⟨hr.next_eq, hr.acked_eq, hr.edge_eq⟩, hr.shift, (Nat.min_le_left _ _).trans hallowed, hr.received_le,
    hr.acked_le, hr.edge_le⟩

theorem unmoved_committed (r : WindowRun) (plan : SendPlan) : Unmoved r (r.step (.committed plan)) := by
  dsimp only [step, nextAfter, ackedAfter, edgeAfter, AckRun.step]
  unfold Flow.commitSend
  cases hfin : plan.fin with
  | true => exact ⟨rfl, rfl, rfl, rfl, rfl, rfl⟩
  | false => exact ⟨rfl, rfl, rfl, rfl, rfl, rfl⟩

theorem placed_step {r : WindowRun} (hr : r.Placed) {op : FlowAckHonesty.FlowOp} (hallowed : r.Allowed op) :
    (r.step op).Placed ∧ r.edge ≤ (r.step op).edge := by
  cases op with
  | receive sequence acknowledgment window payloadLen fin rst =>
    rcases r.step_receive sequence acknowledgment window payloadLen fin rst with h | h
    · exact ⟨h.placed hr, h.edge.ge⟩
    · exact ⟨h.placed hr, h.edge.ge⟩
  | submitted length => exact ⟨placed_submitted hr hallowed, Nat.le_refl _⟩
  | upstreamAcked bytesAcked => exact ⟨placed_upstreamAcked hr bytesAcked, Nat.le_refl _⟩
  | advertise budget => exact placed_advertise hr budget
  | committed plan => exact ⟨(r.unmoved_committed plan).placed hr, Nat.le_refl _⟩
  | socketConnected bytesAcked =>
    have h : Unmoved r (r.step (.socketConnected bytesAcked)) := ⟨rfl, rfl, rfl, rfl, rfl, rfl⟩
    exact ⟨h.placed hr, Nat.le_refl _⟩
  | markSocketFin =>
    have h : Unmoved r (r.step .markSocketFin) := ⟨rfl, rfl, rfl, rfl, rfl, rfl⟩
    exact ⟨h.placed hr, Nat.le_refl _⟩
  | close =>
    have h : Unmoved r (r.step .close) := ⟨rfl, rfl, rfl, rfl, rfl, rfl⟩
    exact ⟨h.placed hr, Nat.le_refl _⟩

theorem room_le_upstreamAcked (r : WindowRun) (bytesAcked : ℕ) :
    r.room ≤ (r.step (.upstreamAcked bytesAcked)).room := by
  dsimp only [step, nextAfter, ackedAfter, edgeAfter, AckRun.step, room]
  unfold Flow.recordUpstreamAck
  dsimp only
  split <;> exact Nat.le_refl _

/-- A clear step never takes room back. -/
theorem room_le_step {r : WindowRun} (hr : r.Placed) {op : FlowAckHonesty.FlowOp} (hclear : r.Clear op) :
    r.room ≤ (r.step op).room := by
  cases op with
  | receive sequence acknowledgment window payloadLen fin rst =>
    rcases r.step_receive sequence acknowledgment window payloadLen fin rst with h | h
    · exact h.room_eq.ge
    · exact h.room_le
  | advertise budget => exact room_advertise hr hclear
  | upstreamAcked bytesAcked => exact r.room_le_upstreamAcked bytesAcked
  | committed plan => exact (r.unmoved_committed plan).room_eq.ge
  | submitted length => exact Nat.le_refl _
  | socketConnected bytesAcked => exact Nat.le_refl _
  | markSocketFin => exact Nat.le_refl _
  | close => exact Nat.le_refl _

theorem placed_start (namespaceInitial localInitial : Seq) (mss peerWindowShift : ℕ) {localWindowShift : ℕ}
    (hshift : localWindowShift = 0 ∨ localWindowShift = 7) :
    (start namespaceInitial localInitial mss peerWindowShift localWindowShift).Placed := by
  refine ⟨⟨rfl, rfl, ?_⟩, hshift, Nat.le_refl _, Nat.le_refl _, Nat.le_refl _, ?_⟩
  swap
  · change 1 + u16Max ≤ 1 + u16Max * 2 ^ 7
    decide
  change namespaceInitial + 1 + BitVec.ofNat 32 u16Max = _
  rw [BitVec.add_assoc]
  rfl

theorem Later.placed {cond : WindowRun → FlowAckHonesty.FlowOp → Prop} {r s : WindowRun} (h : Later cond r s) (hr : r.Placed) :
    s.Placed ∧ r.edge ≤ s.edge := by
  induction h with
  | refl => exact ⟨hr, Nat.le_refl _⟩
  | step op _ hallowed _ ih =>
    obtain ⟨hs, hle⟩ := placed_step ih.1 hallowed
    exact ⟨hs, ih.2.trans hle⟩

theorem Later.room_le {r s : WindowRun} (h : Later Clear r s) (hr : r.Placed) : r.room ≤ s.room := by
  induction h with
  | refl => exact Nat.le_refl _
  | step op hlater hallowed hclear ih => exact ih.trans (room_le_step (hlater.placed hr).1 hclear)

end WindowRun

/-- In every run whose steps are clear the edge only moves forward, and at any later
moment a segment at the receive point that ends within a window announced before is not
outside the window. -/
theorem window_kept (namespaceInitial localInitial : Seq) (mss peerWindowShift localWindowShift : ℕ)
    (hshift : localWindowShift = 0 ∨ localWindowShift = 7) (r s : WindowRun)
    (hr : WindowRun.Later WindowRun.Clear
      (WindowRun.start namespaceInitial localInitial mss peerWindowShift localWindowShift) r)
    (hs : WindowRun.Later WindowRun.Clear r s) :
    r.Positions ∧ s.Positions ∧ r.edge ≤ s.edge ∧
      ∀ syn acknowledgment window payloadLen fin rst, s.next + payloadLen ≤ r.promise syn →
        (s.flow.receive s.flow.namespaceNext acknowledgment window payloadLen fin rst).2 ≠ .outsideWindow := by
  have hplaced := (hr.placed (WindowRun.placed_start namespaceInitial localInitial mss peerWindowShift hshift)).1
  obtain ⟨hlater, hedge⟩ := hs.placed hplaced
  refine ⟨hplaced.toPositions, hlater.toPositions, hedge, ?_⟩
  intro syn acknowledgment window payloadLen fin rst hle
  apply s.flow.receive_inside
  have hroom := (WindowRun.promise_le_room hplaced syn).trans (hs.room_le hplaced)
  unfold WindowRun.room at hroom
  omega

/-- A scaled announcement, payload, and a smaller budget. -/
theorem window_kept_smaller_budget :
    ∃ r s : WindowRun, r.promise false = 1 + 200064 ∧ s.next = 1001 ∧
      (s.flow.receive s.flow.namespaceNext none 1000 199064 false false).2 ≠ .outsideWindow := by
  let r₀ := WindowRun.start 4294967290 0 1460 0 7
  let r₁ := r₀.step (.advertise 200064)
  let r₂ := r₁.step (.receive 4294967291 none 1000 1000 false false)
  let r₃ := r₂.step (.advertise 5)
  have h₁ : WindowRun.Later WindowRun.Clear r₀ r₁ := .step _ .refl trivial (by intro hz; cases hz)
  have h₂ : WindowRun.Later WindowRun.Clear r₁ r₂ := .step _ .refl trivial trivial
  have h₃ : WindowRun.Later WindowRun.Clear r₁ r₃ := .step _ h₂ trivial (by intro hz; cases hz)
  refine ⟨r₁, r₃, by decide +kernel, by decide +kernel, ?_⟩
  exact (window_kept 4294967290 0 1460 0 7 (.inr rfl) r₁ r₃ h₁ h₃).2.2.2 false none 1000 199064 false false
    (by decide +kernel)

namespace WindowRun

def finned (count : ℕ) : WindowRun where
  flow :=
    { Flow.new 7 0 1460 0 0 with
      state := .namespaceFinReceived
      namespaceNext := 8 + BitVec.ofNat 32 count
      namespaceAcked := 8 + BitVec.ofNat 32 count
      peerWindow := 1000
      namespaceFin := true }
  received := 0
  finAt := some 0
  next := 1 + count
  acked := 1 + count
  edge := 1 + u16Max

theorem step_finned (count : ℕ) :
    (finned count).step (.receive (8 + BitVec.ofNat 32 count) none 1000 0 true false) = finned (count + 1) := by
  have hreceive : (finned count).flow.receive (8 + BitVec.ofNat 32 count) none 1000 0 true false =
      ((finned (count + 1)).flow, .inOrder 0 true) := by
    unfold Flow.receive Flow.receiveAck
    simp only [Bool.false_eq_true, if_false, finned, ne_eq, not_true_eq_false, Nat.not_lt_zero, gt_iff_lt,
      reduceCtorEq, and_false, Nat.ofNat_pos, Nat.pow_pos, if_true, Flow.advance_fin]
    rw [BitVec.ofNat_add, ← BitVec.add_assoc]
    simp [Flow.finState, Flow.new]
  dsimp only [step, nextAfter, ackedAfter, edgeAfter, AckRun.step]
  rw [hreceive]
  rfl

theorem later_finned (count : ℕ) : Later (fun _ _ => True) (start 7 0 1460 0 0) (finned (count + 1)) := by
  induction count with
  | zero =>
    have hfirst : (start 7 0 1460 0 0).step (.receive 8 none 1000 0 true false) = finned 1 := by decide +kernel
    rw [← hfirst]
    exact .step _ .refl trivial trivial
  | succ count ih =>
    rw [← step_finned (count + 1)]
    exact .step _ ih trivial trivial

end WindowRun

/-- After 2^31 + 65535 FINs the edge is half of the number space behind; a window of 65535
is announced, and an empty budget takes it back. -/
theorem window_reneged_after_fins :
    ¬ ∀ r s : WindowRun, WindowRun.Later (fun _ _ => True) (WindowRun.start 7 0 1460 0 0) r →
      WindowRun.Later (fun _ _ => True) r s →
      r.edge ≤ s.edge ∧
        ∀ syn acknowledgment window payloadLen fin rst, s.next + payloadLen ≤ r.promise syn →
          (s.flow.receive s.flow.namespaceNext acknowledgment window payloadLen fin rst).2 ≠ .outsideWindow := by
  intro h
  have hlater := WindowRun.later_finned (2 ^ 31 + 65534)
  have hstep : WindowRun.Later (fun _ _ => True) (WindowRun.finned (2 ^ 31 + 65535))
      ((WindowRun.finned (2 ^ 31 + 65535)).step (.advertise 0)) := .step _ .refl trivial trivial
  have hkept := (h _ _ hlater hstep).2 false none 1000 1 false false (by decide +kernel)
  exact absurd (by decide +kernel) hkept

end FlowWindowPromise

end Yayatht
