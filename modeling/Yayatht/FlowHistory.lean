import Yayatht.Flow

set_option autoImplicit false

namespace Yayatht
open Sequence SerialArithmetic

inductive FlowOp where
  | connect (bytesAcked : ℕ)
  | plan (length : ℕ) (fin : Bool)
  | commit
  | receive (sequence : Seq) (acknowledgment : Option Seq) (window : UInt16) (payloadLen : ℕ) (fin rst : Bool)
  | submitted (length : ℕ)
  | upstreamAck (bytesAcked : ℕ)
  | widen (budget : ℕ)
  | markSocketFin
  | close

/-- A flow, the send it planned and did not commit yet, and the positions of its next
and of its oldest unacknowledged sequence number. -/
structure FlowRun where
  flow : Flow
  planned : Option SendPlan
  sent : ℕ
  acked : ℕ

namespace FlowRun

def connected (f : Flow) (bytesAcked : ℕ) : FlowRun := ⟨(f.socketConnected bytesAcked).1, none, 1, 0⟩

def moved (r : FlowRun) (f : Flow) : FlowRun :=
  { r with flow := f, acked := r.acked + gap r.flow.localUnacked f.localUnacked }

def step (r : FlowRun) : FlowOp → FlowRun
  | .connect bytesAcked => connected r.flow bytesAcked
  | .plan length fin => { r with planned := r.flow.planSend length fin }
  | .commit =>
    match r.planned with
    | none => r
    | some plan =>
      { r with flow := r.flow.commitSend plan, planned := none, sent := r.sent + (plan.length + plan.fin.toNat) }
  | .receive sequence acknowledgment window payloadLen fin rst =>
    r.moved (r.flow.receive sequence acknowledgment window.toNat payloadLen fin rst).1
  | .submitted length => { r with flow := r.flow.recordUpstreamSubmitted length }
  | .upstreamAck bytesAcked => { r with flow := (r.flow.recordUpstreamAck bytesAcked).1 }
  | .widen budget => { r with flow := (r.flow.setAdvertisedWindow budget).1 }
  | .markSocketFin => { r with flow := r.flow.markSocketFin }
  | .close => { r with flow := r.flow.close }

/-- The life of a connected flow until it is closed: one send is planned at a time, and
none after the FIN. -/
def Orderly (r : FlowRun) : FlowOp → Prop
  | .connect _ => False
  | .plan .. => r.planned = none ∧ r.flow.localFinSequence = none
  | .markSocketFin => False
  | .close => False
  | _ => True

instance (r : FlowRun) (op : FlowOp) : Decidable (r.Orderly op) := by
  cases op <;> unfold Orderly <;> infer_instance

/-- What a run of permitted operations reaches. -/
inductive Reaches (permitted : FlowRun → FlowOp → Prop) (start : FlowRun) : FlowRun → Prop
  | refl : Reaches permitted start start
  | next {r : FlowRun} {op : FlowOp} (run : Reaches permitted start r) (h : permitted r op) :
    Reaches permitted start (r.step op)

def widest : ℕ := u16Max * 2 ^ 14

def plannedLen (r : FlowRun) : ℕ := r.planned.elim 0 SendPlan.length

/-- The sequence numbers of the flow stand at the positions of the run. -/
structure Tracked (r : FlowRun) : Prop where
  unacked : r.flow.localUnacked = r.flow.localInitial + BitVec.ofNat 32 r.acked
  next : r.flow.localNext = r.flow.localInitial + BitVec.ofNat 32 r.sent
  acked_le : r.acked ≤ r.sent
  sent_pos : 0 < r.sent
  shift : r.flow.peerWindowShift ≤ 14
  window : r.flow.peerWindow ≤ widest
  open_room : r.flow.localFinSequence = none → r.sent + r.plannedLen ≤ r.acked + widest
  fin_room : ∀ fin, r.flow.localFinSequence = some fin → r.planned = none ∧ r.sent ≤ r.acked + widest + 1
  fin_last : ∀ fin, r.flow.localFinSequence = some fin → 1 < r.sent ∧
    fin = r.flow.localInitial + BitVec.ofNat 32 (r.sent - 1)

variable {r : FlowRun}

theorem Tracked.flight_lt (h : Tracked r) : r.sent - r.acked < 2 ^ 31 := by
  have hwide : widest + 1 < 2 ^ 31 := by decide
  cases hfin : r.flow.localFinSequence with
  | none =>
    have hroom := h.open_room hfin
    omega
  | some fin =>
    have hroom := (h.fin_room fin hfin).2
    omega

theorem Tracked.gap_unacked (h : Tracked r) {x : ℕ} (hlow : r.acked ≤ x) (hhigh : x ≤ r.sent) :
    gap r.flow.localUnacked (r.flow.localInitial + BitVec.ofNat 32 x) = x - r.acked := by
  have hflight := h.flight_lt
  rw [h.unacked, gap_positions _ hlow, Nat.mod_eq_of_lt (by omega)]

theorem Tracked.gap_next (h : Tracked r) : gap r.flow.localUnacked r.flow.localNext = r.sent - r.acked := by
  rw [h.next]
  exact h.gap_unacked h.acked_le (Nat.le_refl _)

/-- An acknowledgment half of the number space ahead of everything sent, while nothing is
in flight: both comparisons of `acknowledge_local` accept it. -/
def Corner (f : Flow) (acknowledgment : Option Seq) : Prop :=
  f.localUnacked = f.localNext ∧ ∃ ack, acknowledgment = some ack ∧ gap f.localNext ack = 2 ^ 31

instance (f : Flow) (acknowledgment : Option Seq) : Decidable (Corner f acknowledgment) :=
  inferInstanceAs (Decidable (_ ∧ ∃ ack ∈ acknowledgment, gap f.localNext ack = 2 ^ 31))

/-- Any other acknowledgment moves the acknowledgment point within what was sent. -/
theorem Tracked.gap_ackedTo (h : Tracked r) {acknowledgment : Option Seq}
    (hcorner : ¬Corner r.flow acknowledgment) :
    gap r.flow.localUnacked (r.flow.ackedTo acknowledgment) ≤ r.sent - r.acked := by
  cases acknowledgment with
  | none => simp [Flow.ackedTo]
  | some ack =>
    unfold Flow.ackedTo
    dsimp only
    split
    · rename_i hmoved
      obtain ⟨hafter, hbefore⟩ := Bool.and_eq_true_iff.mp hmoved
      have hflight := h.flight_lt
      have hnext := h.gap_next
      obtain ⟨_, hle⟩ := (after_iff_gap ack r.flow.localUnacked).mp hafter
      rcases Bool.or_eq_true_iff.mp hbefore with hsame | hless
      · rw [eq_of_beq hsame, hnext]
      · have hbehind := (before_iff ack r.flow.localNext).mp hless
        by_contra hbeyond
        have hsplit := gap_split r.flow.localUnacked r.flow.localNext ack (by omega)
        -- only the far end of the comparison is left, with nothing in flight
        have hempty : r.flow.localUnacked = r.flow.localNext := by
          apply (gap_eq_zero_iff _ _).mp
          omega
        exact hcorner ⟨hempty, ack, rfl, by omega⟩
    · simp

end FlowRun

namespace Flow

/-- What a segment does to the sending side of a flow. -/
structure Heard (f g : Flow) (acknowledgment : Option Seq) (rst : Bool) : Prop where
  initial : g.localInitial = f.localInitial
  next : g.localNext = f.localNext
  fin : g.localFinSequence = f.localFinSequence
  shift : g.peerWindowShift = f.peerWindowShift
  socketFin : g.socketFin = f.socketFin
  unacked : g.localUnacked = if rst then f.localUnacked else f.ackedTo acknowledgment
  window : g.peerWindow ≤ max f.peerWindow (u16Max * 2 ^ f.peerWindowShift)

theorem commitSend_data {f : Flow} {plan : SendPlan} (h : plan.fin = false) :
    f.commitSend plan = { f with localNext := f.localNext + BitVec.ofNat 32 plan.length } := by
  unfold commitSend
  rw [h]
  rfl

theorem commitSend_fin {f : Flow} {plan : SendPlan} (h : plan.fin = true) :
    f.commitSend plan =
      { f with
        localNext := f.localNext + BitVec.ofNat 32 plan.length + 1
        localFinSequence := some (f.localNext + BitVec.ofNat 32 plan.length)
        socketFin := true
        state := if f.namespaceFin then .closing else .socketFinReceived } := by
  unfold commitSend
  rw [h]
  rfl

theorem heard_receive (f : Flow) (sequence : Seq) (acknowledgment : Option Seq) (window : UInt16)
    (payloadLen : ℕ) (fin rst : Bool) :
    Heard f (f.receive sequence acknowledgment window.toNat payloadLen fin rst).1 acknowledgment rst := by
  have hwindow : window.toNat * 2 ^ f.peerWindowShift % 2 ^ 32 ≤
      max f.peerWindow (u16Max * 2 ^ f.peerWindowShift) := by
    have hle : window.toNat ≤ u16Max := Nat.le_of_lt_succ window.toNat_lt
    exact (Nat.mod_le _ _).trans ((Nat.mul_le_mul_right _ hle).trans (Nat.le_max_right _ _))
  rcases f.receive_cases sequence acknowledgment window.toNat payloadLen fin rst with
    ⟨rfl, heq⟩ | ⟨rfl, disposition, -, -, heq⟩ | ⟨rfl, -, -, -, heq⟩
  · rw [heq]
    exact ⟨rfl, rfl, rfl, rfl, rfl, rfl, Nat.le_max_left _ _⟩
  · rw [heq, receiveAck_eq]
    exact ⟨rfl, rfl, rfl, rfl, rfl, rfl, hwindow⟩
  · rw [heq]
    cases fin with
    | true =>
      rw [advance_fin, receiveAck_eq]
      exact ⟨rfl, rfl, rfl, rfl, rfl, rfl, hwindow⟩
    | false =>
      rw [advance_payload, receiveAck_eq]
      exact ⟨rfl, rfl, rfl, rfl, rfl, rfl, hwindow⟩

end Flow

namespace FlowRun

variable {r : FlowRun}

/-- No acknowledgment of the operation is in the corner. -/
def Centred (r : FlowRun) : FlowOp → Prop
  | .receive _ acknowledgment _ _ _ rst => rst = true ∨ ¬Corner r.flow acknowledgment
  | _ => True

instance (r : FlowRun) (op : FlowOp) : Decidable (r.Centred op) :=
  match op with
  | .receive .. => inferInstanceAs (Decidable (_ ∨ ¬_))
  | .connect _ | .plan .. | .commit | .submitted _ | .upstreamAck _ | .widen _ | .markSocketFin | .close =>
    inferInstanceAs (Decidable True)

theorem tracked_connected {f : Flow} (bytesAcked : ℕ) (hunacked : f.localUnacked = f.localInitial)
    (hshift : f.peerWindowShift ≤ 14) (hwindow : f.peerWindow ≤ widest) (hfin : f.localFinSequence = none) :
    Tracked (connected f bytesAcked) where
  unacked := by simpa [connected, Flow.socketConnected] using hunacked
  next := rfl
  acked_le := Nat.zero_le _
  sent_pos := Nat.one_pos
  shift := hshift
  window := hwindow
  open_room _ := by
    have hwide : 1 ≤ widest := by decide
    exact hwide.trans (Nat.le_add_left _ _)
  fin_room fin h := by
    have hnone : (none : Option Seq) = some fin := hfin.symm.trans h
    cases hnone
  fin_last fin h := by
    have hnone : (none : Option Seq) = some fin := hfin.symm.trans h
    cases hnone

theorem Tracked.plan (h : Tracked r) {length : ℕ} {fin : Bool} (horderly : r.Orderly (.plan length fin)) :
    Tracked (r.step (.plan length fin)) := by
  have hnext := h.gap_next
  have hroom := h.open_room horderly.2
  have hwindow := h.window
  refine ⟨h.unacked, h.next, h.acked_le, h.sent_pos, h.shift, h.window, ?_, ?_, h.fin_last⟩
  · intro _
    change r.sent + ((r.flow.planSend length fin).elim 0 SendPlan.length) ≤ r.acked + widest
    unfold Flow.planSend
    split
    · exact Nat.le_trans (Nat.add_le_add_left (Nat.zero_le _) _) hroom
    · rename_i hfits
      have havailable : length ≤ r.flow.peerWindow - (r.sent - r.acked) := by
        rw [← hnext]
        exact Nat.le_of_not_lt hfits
      have hle := h.acked_le
      change r.sent + length ≤ _
      unfold plannedLen at hroom
      omega
  · intro fin hsome
    have hnone : (none : Option Seq) = some fin := horderly.2.symm.trans hsome
    cases hnone

theorem Tracked.unfinished (h : Tracked r) {plan : SendPlan} (hplanned : r.planned = some plan) :
    r.flow.localFinSequence = none := by
  cases hfin : r.flow.localFinSequence with
  | none => rfl
  | some fin =>
    have hnone := (h.fin_room fin hfin).1
    rw [hplanned] at hnone
    cases hnone

theorem Tracked.commit (h : Tracked r) : Tracked (r.step .commit) := by
  unfold step
  cases hplanned : r.planned with
  | none => exact h
  | some plan =>
    dsimp only
    have hopen := h.unfinished hplanned
    have hroom := h.open_room hopen
    have hlen : r.plannedLen = plan.length := by
      unfold plannedLen
      rw [hplanned]
      rfl
    have hle := h.acked_le
    have hpos := h.sent_pos
    have hnext : r.flow.localNext + BitVec.ofNat 32 plan.length =
        r.flow.localInitial + BitVec.ofNat 32 (r.sent + plan.length) := by
      rw [h.next, BitVec.ofNat_add, ← BitVec.add_assoc]
    cases hfin : plan.fin with
    | false =>
      rw [Flow.commitSend_data hfin]
      refine ⟨h.unacked, hnext, ?_, ?_, h.shift, h.window, ?_, ?_, ?_⟩
      · change r.acked ≤ r.sent + (plan.length + 0)
        omega
      · change 0 < r.sent + (plan.length + 0)
        omega
      · intro _
        change r.sent + (plan.length + 0) + 0 ≤ r.acked + widest
        omega
      · intro fin hsome
        have hnone : (none : Option Seq) = some fin := hopen.symm.trans hsome
        cases hnone
      · intro fin hsome
        have hnone : (none : Option Seq) = some fin := hopen.symm.trans hsome
        cases hnone
    | true =>
      rw [Flow.commitSend_fin hfin]
      refine ⟨h.unacked, ?_, ?_, ?_, h.shift, h.window, ?_, ?_, ?_⟩
      · change r.flow.localNext + BitVec.ofNat 32 plan.length + 1 =
          r.flow.localInitial + BitVec.ofNat 32 (r.sent + (plan.length + 1))
        rw [hnext, ← Nat.add_assoc, BitVec.ofNat_add _ 1, ← BitVec.add_assoc]
        rfl
      · change r.acked ≤ r.sent + (plan.length + 1)
        omega
      · change 0 < r.sent + (plan.length + 1)
        omega
      · intro hnone
        cases hnone
      · intro fin _
        refine ⟨rfl, ?_⟩
        change r.sent + (plan.length + 1) ≤ r.acked + widest + 1
        omega
      · intro fin hsome
        cases hsome
        refine ⟨?_, ?_⟩
        · change 1 < r.sent + (plan.length + 1)
          omega
        · change r.flow.localNext + BitVec.ofNat 32 plan.length =
            r.flow.localInitial + BitVec.ofNat 32 (r.sent + (plan.length + 1) - 1)
          rw [hnext]
          rfl

theorem Tracked.receive (h : Tracked r) {sequence : Seq} {acknowledgment : Option Seq} {window : UInt16}
    {payloadLen : ℕ} {fin rst : Bool}
    (hcentred : r.Centred (.receive sequence acknowledgment window payloadLen fin rst)) :
    Tracked (r.step (.receive sequence acknowledgment window payloadLen fin rst)) := by
  have hheard := r.flow.heard_receive sequence acknowledgment window payloadLen fin rst
  change Tracked (r.moved _)
  generalize (r.flow.receive sequence acknowledgment window.toNat payloadLen fin rst).1 = g at hheard
  have hgap : gap r.flow.localUnacked g.localUnacked ≤ r.sent - r.acked := by
    rw [hheard.unacked]
    cases rst with
    | true => simp
    | false =>
      rcases hcentred with hreset | hcentred
      · cases hreset
      · exact h.gap_ackedTo hcentred
  have hle := h.acked_le
  refine ⟨?_, ?_, ?_, h.sent_pos, ?_, ?_, ?_, ?_, ?_⟩
  · change g.localUnacked = g.localInitial + BitVec.ofNat 32 (r.acked + gap r.flow.localUnacked g.localUnacked)
    rw [BitVec.ofNat_add, ← BitVec.add_assoc, hheard.initial, ← h.unacked, add_gap]
  · change g.localNext = g.localInitial + BitVec.ofNat 32 r.sent
    rw [hheard.next, hheard.initial, h.next]
  · change r.acked + gap r.flow.localUnacked g.localUnacked ≤ r.sent
    omega
  · change g.peerWindowShift ≤ 14
    rw [hheard.shift]
    exact h.shift
  · change g.peerWindow ≤ widest
    refine hheard.window.trans (Nat.max_le.mpr ⟨h.window, ?_⟩)
    exact Nat.mul_le_mul_left _ (Nat.pow_le_pow_right (by decide) h.shift)
  · intro hopen
    have hroom := h.open_room (hheard.fin.symm.trans hopen)
    change r.sent + r.plannedLen ≤ r.acked + gap r.flow.localUnacked g.localUnacked + widest
    omega
  · intro fin hsome
    obtain ⟨hnone, hroom⟩ := h.fin_room fin (hheard.fin.symm.trans hsome)
    refine ⟨hnone, ?_⟩
    change r.sent ≤ r.acked + gap r.flow.localUnacked g.localUnacked + widest + 1
    omega
  · intro fin hsome
    obtain ⟨hpos, hfin⟩ := h.fin_last fin (hheard.fin.symm.trans hsome)
    refine ⟨hpos, ?_⟩
    change fin = g.localInitial + _
    rw [hheard.initial]
    exact hfin

theorem Tracked.step {op : FlowOp} (h : Tracked r) (horderly : r.Orderly op) (hcentred : r.Centred op) :
    Tracked (r.step op) := by
  cases op with
  | plan length fin => exact h.plan horderly
  | commit => exact h.commit
  | receive sequence acknowledgment window payloadLen fin rst => exact h.receive hcentred
  | submitted length => exact ⟨h.1, h.2, h.3, h.4, h.5, h.6, h.7, h.8, h.9⟩
  | upstreamAck bytesAcked =>
    change Tracked { r with flow := (r.flow.recordUpstreamAck bytesAcked).1 }
    unfold Flow.recordUpstreamAck
    dsimp only
    split
    · exact h
    · exact ⟨h.1, h.2, h.3, h.4, h.5, h.6, h.7, h.8, h.9⟩
  | widen budget =>
    change Tracked { r with flow := (r.flow.setAdvertisedWindow budget).1 }
    unfold Flow.setAdvertisedWindow
    dsimp only
    split
    · exact ⟨h.1, h.2, h.3, h.4, h.5, h.6, h.7, h.8, h.9⟩
    · exact h
  | connect bytesAcked => exact horderly.elim
  | markSocketFin => exact horderly.elim
  | close => exact horderly.elim

/-- Orderly runs without a corner acknowledgment keep the positions. -/
theorem Reaches.tracked {permitted : FlowRun → FlowOp → Prop} {start : FlowRun}
    (hpermitted : ∀ r op, permitted r op → r.Orderly op ∧ r.Centred op) (hstart : Tracked start)
    (h : Reaches permitted start r) : Tracked r := by
  induction h with
  | refl => exact hstart
  | next _ hstep ih =>
    obtain ⟨horderly, hcentred⟩ := hpermitted _ _ hstep
    exact ih.step horderly hcentred

end FlowRun

end Yayatht
