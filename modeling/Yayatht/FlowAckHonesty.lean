import Yayatht.Flow

set_option autoImplicit false

namespace Yayatht.FlowAckHonesty
open Sequence

structure AckRun where
  flow : Flow
  received : ℕ
  finAt : Option ℕ
  deriving DecidableEq, Repr

inductive FlowOp where
  | socketConnected (bytesAcked : ℕ)
  | receive (sequence : Seq) (acknowledgment : Option Seq) (window payloadLen : ℕ) (fin rst : Bool)
  | submitted (length : ℕ)
  | upstreamAcked (bytesAcked : ℕ)
  | advertise (budget : ℕ)
  | committed (plan : SendPlan)
  | markSocketFin
  | close
  deriving DecidableEq, Repr

namespace AckRun

def start (namespaceInitial localInitial : Seq) (mss peerWindowShift localWindowShift : ℕ) : AckRun where
  flow := Flow.new namespaceInitial localInitial mss peerWindowShift localWindowShift
  received := 0
  finAt := none

def accept (r : AckRun) : ReceiveDisposition → ℕ × Option ℕ
  | .inOrder payloadLen fin =>
    (r.received + payloadLen, if fin ∧ r.finAt = none then some (r.received + payloadLen) else r.finAt)
  | _ => (r.received, r.finAt)

def step (r : AckRun) : FlowOp → AckRun
  | .socketConnected bytesAcked => { r with flow := (r.flow.socketConnected bytesAcked).1 }
  | .receive sequence acknowledgment window payloadLen fin rst =>
    let result := r.flow.receive sequence acknowledgment window payloadLen fin rst
    ⟨result.1, (r.accept result.2).1, (r.accept result.2).2⟩
  | .submitted length => { r with flow := r.flow.recordUpstreamSubmitted length }
  | .upstreamAcked bytesAcked => { r with flow := (r.flow.recordUpstreamAck bytesAcked).1 }
  | .advertise budget => { r with flow := (r.flow.setAdvertisedWindow budget).1 }
  | .committed plan => { r with flow := r.flow.commitSend plan }
  | .markSocketFin => { r with flow := r.flow.markSocketFin }
  | .close => { r with flow := r.flow.close }

/-- Only bytes that were received are submitted. -/
def Allowed (r : AckRun) : FlowOp → Prop
  | .submitted length => r.flow.upstreamSubmitted + length ≤ r.received
  | _ => True

inductive Run (cond : AckRun → FlowOp → Prop) : AckRun → Prop
  | start (namespaceInitial localInitial : Seq) (mss peerWindowShift localWindowShift : ℕ) :
      Run cond (start namespaceInitial localInitial mss peerWindowShift localWindowShift)
  | step {r : AckRun} (op : FlowOp) : Run cond r → r.Allowed op → cond r op → Run cond (r.step op)

/-- Every byte received before the FIN was acknowledged upstream. -/
def finCovered (r : AckRun) : Bool := r.finAt.any fun bytes => bytes ≤ r.flow.upstreamAcked

/-- Sequence numbers from the namespace that may be acknowledged, counted from its SYN. -/
def ackPoint (r : AckRun) : ℕ := 1 + r.flow.upstreamAcked + r.finCovered.toNat

def Honest (r : AckRun) : Prop :=
  r.flow.namespaceAcked = r.flow.namespaceInitial + BitVec.ofNat 32 r.ackPoint

instance (r : AckRun) : Decidable r.Honest := inferInstanceAs (Decidable (_ = _))

/-- What the flow takes to be delivered is what was received: an accepted FIN finds
nothing submitted and acknowledged short of what was received with it, and after the
FIN an upstream acknowledgment reaches the end of what is submitted exactly when it
reaches the FIN. -/
def Complete (r : AckRun) : FlowOp → Prop
  | .receive sequence _ _ payloadLen fin rst =>
    rst = false → fin = true → sequence = r.flow.namespaceNext →
      payloadLen ≤ r.flow.advertisedWindow →
      r.flow.upstreamAcked = r.flow.upstreamSubmitted →
      r.flow.namespaceFin = false ∧ r.flow.upstreamSubmitted = r.received + payloadLen
  | .upstreamAcked bytesAcked =>
    r.flow.upstreamAcked < min (bytesAcked - r.flow.upstreamAckBaseline) r.flow.upstreamSubmitted →
      ∀ bytes ∈ r.finAt,
        (r.flow.upstreamSubmitted ≤ bytesAcked - r.flow.upstreamAckBaseline ↔
          bytes ≤ min (bytesAcked - r.flow.upstreamAckBaseline) r.flow.upstreamSubmitted)
  | _ => True

instance (r : AckRun) : DecidablePred r.Allowed
  | .submitted _ => inferInstanceAs (Decidable (_ ≤ _))
  | .socketConnected _ | .receive .. | .upstreamAcked _ | .advertise _ | .committed _
  | .markSocketFin | .close => isTrue trivial

instance (r : AckRun) : DecidablePred r.Complete
  | .receive .. => inferInstanceAs (Decidable (_ = _ → _ = _ → _ = _ → _ ≤ _ → _ = _ → _ = _ ∧ _ = _))
  | .upstreamAcked _ => inferInstanceAs (Decidable (_ < _ → ∀ bytes ∈ r.finAt, (_ ≤ _ ↔ bytes ≤ _)))
  | .socketConnected _ | .submitted _ | .advertise _ | .committed _ | .markSocketFin | .close =>
    isTrue trivial

def side (r : AckRun) : Seq × Seq × Seq × ℕ × ℕ × Bool × ℕ × Option ℕ :=
  (r.flow.namespaceInitial, r.flow.namespaceNext, r.flow.namespaceAcked, r.flow.upstreamSubmitted,
    r.flow.upstreamAcked, r.flow.namespaceFin, r.received, r.finAt)

end AckRun

/-- What a run keeps beside the acknowledgment point. -/
structure Counted (r : AckRun) : Prop where
  acked_le : r.flow.upstreamAcked ≤ r.flow.upstreamSubmitted
  submitted_le : r.flow.upstreamSubmitted ≤ r.received
  submitted_max : r.flow.upstreamSubmitted ≤ u64Max
  fin_iff : r.flow.namespaceFin = r.finAt.isSome
  next_eq : r.finAt = none →
    r.flow.namespaceNext = r.flow.namespaceInitial + BitVec.ofNat 32 (1 + r.received)
  finAt_le : ∀ bytes, r.finAt = some bytes → bytes ≤ r.received

namespace AckRun

theorem ackPoint_of_side {r s : AckRun} (h : s.side = r.side) : s.ackPoint = r.ackPoint := by
  simp only [side, Prod.mk.injEq] at h
  obtain ⟨-, -, -, -, hacked, -, -, hfin⟩ := h
  simp only [ackPoint, finCovered, hacked, hfin]

theorem Honest.of_side {r s : AckRun} (hr : r.Honest) (h : s.side = r.side) : s.Honest := by
  have hp := ackPoint_of_side h
  simp only [side, Prod.mk.injEq] at h
  obtain ⟨hinitial, -, hackedTo, -⟩ := h
  unfold Honest at hr ⊢
  rw [hp, hinitial, hackedTo]
  exact hr

end AckRun

theorem Counted.of_side {r s : AckRun} (hr : Counted r) (h : s.side = r.side) : Counted s := by
  simp only [AckRun.side, Prod.mk.injEq] at h
  obtain ⟨hinitial, hnext, -, hsub, hacked, hfin, hrec, hat⟩ := h
  constructor
  · rw [hacked, hsub]
    exact hr.acked_le
  · rw [hsub, hrec]
    exact hr.submitted_le
  · rw [hsub]
    exact hr.submitted_max
  · rw [hfin, hat]
    exact hr.fin_iff
  · rw [hat, hnext, hinitial, hrec]
    exact hr.next_eq
  · rw [hat, hrec]
    exact hr.finAt_le

namespace AckRun

theorem step_receive (r : AckRun) (sequence : Seq) (acknowledgment : Option Seq)
    (window payloadLen : ℕ) (fin rst : Bool) :
    (r.step (.receive sequence acknowledgment window payloadLen fin rst)).side = r.side ∨
      (rst = false ∧ sequence = r.flow.namespaceNext ∧ payloadLen ≤ r.flow.advertisedWindow ∧
        ∃ g : Flow,
          (g.namespaceInitial, g.namespaceNext, g.namespaceAcked, g.upstreamSubmitted,
              g.upstreamAcked, g.namespaceFin) =
            (r.flow.namespaceInitial, r.flow.namespaceNext, r.flow.namespaceAcked,
              r.flow.upstreamSubmitted, r.flow.upstreamAcked, r.flow.namespaceFin) ∧
          r.step (.receive sequence acknowledgment window payloadLen fin rst) =
            ⟨g.advance payloadLen fin, r.received + payloadLen,
              if fin ∧ r.finAt = none then some (r.received + payloadLen) else r.finAt⟩) := by
  unfold step
  dsimp only
  rcases r.flow.receive_cases sequence acknowledgment window payloadLen fin rst with
    ⟨-, h⟩ | ⟨-, disposition, -, hd, h⟩ | ⟨hrst, hseq, hle, -, h⟩
  · left
    rw [h]
    rfl
  · left
    rw [h, Flow.receiveAck_eq]
    cases disposition with
    | inOrder n b =>
      obtain ⟨rfl, rfl, -⟩ := hd n b rfl
      simp [side, accept]
    | _ => rfl
  · right
    refine ⟨hrst, hseq, hle, r.flow.receiveAck acknowledgment window, ?_, ?_⟩
    · rw [Flow.receiveAck_eq]
    · rw [h]
      rfl

end AckRun

theorem Counted.payload {r : AckRun} (hr : Counted r) (hh : r.Honest) {g : Flow} {n : ℕ}
    (hg : (⟨g, r.received, r.finAt⟩ : AckRun).side = r.side) :
    Counted ⟨g.advance n false, r.received + n, r.finAt⟩ ∧
      (⟨g.advance n false, r.received + n, r.finAt⟩ : AckRun).Honest := by
  have hc : Counted ⟨g, r.received, r.finAt⟩ := hr.of_side hg
  have hn : (⟨g, r.received, r.finAt⟩ : AckRun).Honest := hh.of_side hg
  refine ⟨⟨hc.acked_le, Nat.le_add_right_of_le hc.submitted_le, hc.submitted_max, hc.fin_iff, ?_, ?_⟩, hn⟩
  · intro hnone
    change g.namespaceNext + BitVec.ofNat 32 n = _
    rw [hc.next_eq hnone, BitVec.add_assoc, ← BitVec.ofNat_add, Nat.add_assoc]
    rfl
  · intro bytes hbytes
    exact Nat.le_add_right_of_le (hc.finAt_le bytes hbytes)

theorem Counted.finPending {r : AckRun} (hr : Counted r) (hh : r.Honest) {g : Flow} {n : ℕ}
    (hg : (⟨g, r.received, r.finAt⟩ : AckRun).side = r.side)
    (hshort : g.upstreamAcked ≠ g.upstreamSubmitted) :
    let t : AckRun := ⟨g.advance n true, r.received + n,
      if r.finAt = none then some (r.received + n) else r.finAt⟩
    Counted t ∧ t.Honest := by
  have hc : Counted ⟨g, r.received, r.finAt⟩ := hr.of_side hg
  have hn : (⟨g, r.received, r.finAt⟩ : AckRun).Honest := hh.of_side hg
  have hlt : g.upstreamAcked < r.received + n := by
    have h1 := hc.acked_le
    have h2 := hc.submitted_le
    dsimp only at h1 h2
    omega
  have hadv : g.advance n true =
      { g with
        namespaceNext := g.namespaceNext + BitVec.ofNat 32 n + 1
        namespaceFin := true
        state := Flow.finState { g with
          namespaceNext := g.namespaceNext + BitVec.ofNat 32 n + 1
          namespaceFin := true } } := by
    unfold Flow.advance
    simp only [if_true, if_neg hshort]
  dsimp only
  rw [hadv]
  refine ⟨⟨hc.acked_le, Nat.le_add_right_of_le hc.submitted_le, hc.submitted_max, ?_, ?_, ?_⟩, ?_⟩
  · cases hat : r.finAt with
    | none => rfl
    | some bytes => rfl
  · intro hnone
    cases hat : r.finAt <;> simp [hat] at hnone
  · intro bytes hbytes
    cases hat : r.finAt with
    | none =>
      simp only [hat, if_true, Option.some.injEq] at hbytes
      exact hbytes.ge
    | some first =>
      simp only [hat, reduceCtorEq, if_false, Option.some.injEq] at hbytes
      subst hbytes
      exact Nat.le_add_right_of_le (hc.finAt_le first hat)
  · cases hat : r.finAt with
    | none =>
      unfold AckRun.Honest AckRun.ackPoint AckRun.finCovered at hn ⊢
      simp only [hat, Option.any_none] at hn
      simp only [if_true, Option.any_some, decide_eq_false (Nat.not_le.mpr hlt)]
      exact hn
    | some first =>
      rw [hat] at hn
      exact hn

theorem Counted.finDelivered {r : AckRun} (hr : Counted r) {g : Flow}
    (hg : (⟨g, r.received, r.finAt⟩ : AckRun).side = r.side)
    (hdone : g.upstreamAcked = g.upstreamSubmitted) (hfirst : g.namespaceFin = false) {n : ℕ}
    (hall : g.upstreamSubmitted = r.received + n) :
    let t : AckRun := ⟨g.advance n true, r.received + n,
      if r.finAt = none then some (r.received + n) else r.finAt⟩
    Counted t ∧ t.Honest := by
  have hc : Counted ⟨g, r.received, r.finAt⟩ := hr.of_side hg
  have hat : r.finAt = none := by
    have h := hc.fin_iff
    dsimp only at h
    rw [hfirst] at h
    exact Option.isSome_eq_false_iff.mp h.symm |> Option.isNone_iff_eq_none.mp
  have hnext := hc.next_eq hat
  have hadv : g.advance n true =
      { g with
        namespaceNext := g.namespaceNext + BitVec.ofNat 32 n + 1
        namespaceAcked := g.namespaceNext + BitVec.ofNat 32 n + 1
        namespaceFin := true
        state := Flow.finState { g with
          namespaceNext := g.namespaceNext + BitVec.ofNat 32 n + 1
          namespaceAcked := g.namespaceNext + BitVec.ofNat 32 n + 1
          namespaceFin := true } } := by
    unfold Flow.advance
    simp only [if_true, if_pos hdone]
  dsimp only at hnext ⊢
  rw [hadv, hat, if_pos rfl]
  refine ⟨⟨hc.acked_le, Nat.le_add_right_of_le hc.submitted_le, hc.submitted_max, rfl, by simp, ?_⟩, ?_⟩
  · intro bytes hbytes
    exact (Option.some.inj hbytes).ge
  · have hcover : r.received + n ≤ g.upstreamAcked := by omega
    unfold AckRun.Honest AckRun.ackPoint AckRun.finCovered
    simp only [Option.any_some, decide_eq_true hcover, Bool.toNat_true, hnext]
    rw [hdone, hall, ← Nat.add_assoc 1, BitVec.ofNat_add (1 + r.received + n) 1,
      BitVec.ofNat_add (1 + r.received) n, ← BitVec.add_assoc, ← BitVec.add_assoc]
    rfl

theorem Counted.upstreamAcked {r : AckRun} (hr : Counted r) (hh : r.Honest) (bytesAcked : ℕ)
    (hcond : r.Complete (.upstreamAcked bytesAcked)) :
    Counted (r.step (.upstreamAcked bytesAcked)) ∧ (r.step (.upstreamAcked bytesAcked)).Honest := by
  let reached := min (bytesAcked - r.flow.upstreamAckBaseline) r.flow.upstreamSubmitted
  by_cases hmove : reached ≤ r.flow.upstreamAcked
  · have hsame : r.step (.upstreamAcked bytesAcked) = r := by
      unfold AckRun.step Flow.recordUpstreamAck
      simp only [if_pos hmove, reached]
    rw [hsame]
    exact ⟨hr, hh⟩
  · have hstep : (r.step (.upstreamAcked bytesAcked)) =
        { r with flow := { r.flow with
            upstreamAcked := reached
            namespaceAcked :=
              if r.flow.namespaceFin && reached == r.flow.upstreamSubmitted then
                r.flow.namespaceInitial + 1 + BitVec.ofNat 32 reached + 1
              else r.flow.namespaceInitial + 1 + BitVec.ofNat 32 reached } } := by
      unfold AckRun.step Flow.recordUpstreamAck
      simp only [reached] at hmove ⊢
      simp only [if_neg hmove]
    have hle : reached ≤ r.flow.upstreamSubmitted := Nat.min_le_right _ _
    rw [hstep]
    refine ⟨⟨hle, hr.submitted_le, hr.submitted_max, hr.fin_iff, hr.next_eq, hr.finAt_le⟩, ?_⟩
    have hpoint : (r.flow.namespaceFin && reached == r.flow.upstreamSubmitted) =
        (r.finAt.any fun bytes => bytes ≤ reached) := by
      rw [hr.fin_iff]
      cases hat : r.finAt with
      | none => rfl
      | some bytes =>
        have hiff := hcond (Nat.lt_of_not_le hmove) bytes hat
        have heq : reached = r.flow.upstreamSubmitted ↔ bytes ≤ reached := by
          rw [← hiff]
          exact min_eq_right_iff
        simp only [Option.isSome_some, Bool.true_and, Option.any_some]
        rw [Bool.eq_iff_iff, beq_iff_eq, decide_eq_true_iff]
        exact heq
    unfold AckRun.Honest AckRun.ackPoint AckRun.finCovered
    dsimp only
    rw [← hpoint]
    cases hb : (r.flow.namespaceFin && reached == r.flow.upstreamSubmitted) with
    | true =>
      simp only [if_true, Bool.toNat_true]
      rw [BitVec.ofNat_add, BitVec.ofNat_add, ← BitVec.add_assoc, ← BitVec.add_assoc]
      rfl
    | false =>
      simp only [Bool.false_eq_true, if_false, Bool.toNat_false, Nat.add_zero]
      rw [BitVec.ofNat_add, ← BitVec.add_assoc]
      rfl

/-- One allowed step that meets the condition keeps the counts and the point. -/
theorem Counted.step {r : AckRun} (hr : Counted r) (hh : r.Honest) (op : FlowOp)
    (hallowed : r.Allowed op) (hcond : r.Complete op) :
    Counted (r.step op) ∧ (r.step op).Honest := by
  cases op with
  | receive sequence acknowledgment window payloadLen fin rst =>
    rcases r.step_receive sequence acknowledgment window payloadLen fin rst with
      hside | ⟨hrst, hseq, hle, g, hg, hstep⟩
    · exact ⟨hr.of_side hside, hh.of_side hside⟩
    · rw [hstep]
      simp only [Prod.mk.injEq] at hg
      obtain ⟨hinitial, hnext, hpoint, hsub, hacked, hfin⟩ := hg
      have hside : (⟨g, r.received, r.finAt⟩ : AckRun).side = r.side := by
        simp only [AckRun.side, hinitial, hnext, hpoint, hsub, hacked, hfin]
      cases fin with
      | false => simpa using hr.payload hh hside
      | true =>
        simp only [true_and]
        by_cases hdone : g.upstreamAcked = g.upstreamSubmitted
        · obtain ⟨hfirst, hall⟩ :=
            hcond hrst rfl hseq hle (by rw [← hacked, ← hsub]; exact hdone)
          exact hr.finDelivered hside hdone (hfin.trans hfirst) (hsub.trans hall)
        · exact hr.finPending hh hside hdone
  | submitted length =>
    refine ⟨⟨?_, ?_, Nat.min_le_right _ _, hr.fin_iff, hr.next_eq, hr.finAt_le⟩, hh⟩
    · have hsub := hr.acked_le
      exact Nat.le_min.mpr ⟨Nat.le_add_right_of_le hsub, hsub.trans hr.submitted_max⟩
    · exact (Nat.min_le_left _ _).trans hallowed
  | upstreamAcked bytesAcked => exact hr.upstreamAcked hh bytesAcked hcond
  | committed plan =>
    have hside : (r.step (.committed plan)).side = r.side := by
      unfold AckRun.step AckRun.side Flow.commitSend
      dsimp only
      split <;> rfl
    exact ⟨hr.of_side hside, hh.of_side hside⟩
  | advertise budget =>
    have hside : (r.step (.advertise budget)).side = r.side := by
      unfold AckRun.step AckRun.side Flow.setAdvertisedWindow
      dsimp only
      split <;> rfl
    exact ⟨hr.of_side hside, hh.of_side hside⟩
  | socketConnected bytesAcked => exact ⟨hr.of_side rfl, hh.of_side rfl⟩
  | markSocketFin => exact ⟨hr.of_side rfl, hh.of_side rfl⟩
  | close => exact ⟨hr.of_side rfl, hh.of_side rfl⟩

theorem Counted.start (namespaceInitial localInitial : Seq) (mss peerWindowShift localWindowShift : ℕ) :
    let r := AckRun.start namespaceInitial localInitial mss peerWindowShift localWindowShift
    Counted r ∧ r.Honest := by
  refine ⟨⟨Nat.le_refl _, Nat.le_refl _, Nat.zero_le _, rfl, fun _ => rfl, ?_⟩, rfl⟩
  intro bytes hbytes
  cases hbytes

theorem Counted.of_run {r : AckRun} (h : AckRun.Run AckRun.Complete r) : Counted r ∧ r.Honest := by
  induction h with
  | start => exact Counted.start _ _ _ _ _
  | step op _ hallowed hcond ih => exact ih.1.step ih.2 op hallowed hcond

namespace AckRun

theorem ackPoint_le {r s : AckRun} (hacked : r.flow.upstreamAcked ≤ s.flow.upstreamAcked)
    (hfin : r.finAt = none ∨ s.finAt = r.finAt) : r.ackPoint ≤ s.ackPoint := by
  have hcover : r.finCovered.toNat ≤ s.finCovered.toNat := by
    rcases hfin with hnone | hsame
    · simp [finCovered, hnone]
    · unfold finCovered
      rw [hsame]
      cases r.finAt with
      | none => exact Nat.le_refl _
      | some bytes =>
        simp only [Option.any_some]
        by_cases hb : bytes ≤ r.flow.upstreamAcked
        · simp [hb, hb.trans hacked]
        · simp [hb]
  unfold ackPoint
  omega

theorem ackPoint_le_step (r : AckRun) (op : FlowOp) : r.ackPoint ≤ (r.step op).ackPoint := by
  cases op with
  | receive sequence acknowledgment window payloadLen fin rst =>
    rcases r.step_receive sequence acknowledgment window payloadLen fin rst with
      hside | ⟨-, -, -, g, hg, hstep⟩
    · exact (ackPoint_of_side hside).ge
    · rw [hstep]
      simp only [Prod.mk.injEq] at hg
      obtain ⟨-, -, -, -, hacked, -⟩ := hg
      apply ackPoint_le
      · have hkeep : (g.advance payloadLen fin).upstreamAcked = g.upstreamAcked := by
          unfold Flow.advance
          dsimp only
          split
          · split <;> rfl
          · rfl
        dsimp only
        rw [hkeep, hacked]
      · cases hat : r.finAt with
        | none => exact .inl rfl
        | some bytes => simp
  | upstreamAcked bytesAcked =>
    refine ackPoint_le (s := r.step _) ?_ (.inr rfl)
    unfold step Flow.recordUpstreamAck
    dsimp only
    split
    · exact Nat.le_refl _
    · next hmove => exact Nat.le_of_not_le hmove
  | committed plan =>
    refine ackPoint_le (s := r.step _) ?_ (.inr rfl)
    unfold step Flow.commitSend
    dsimp only
    split <;> exact Nat.le_refl _
  | advertise budget =>
    refine ackPoint_le (s := r.step _) ?_ (.inr rfl)
    unfold step Flow.setAdvertisedWindow
    dsimp only
    split <;> exact Nat.le_refl _
  | socketConnected bytesAcked => exact Nat.le_refl _
  | submitted length => exact Nat.le_refl _
  | markSocketFin => exact Nat.le_refl _
  | close => exact Nat.le_refl _

end AckRun

/-- In every run whose steps meet `Complete` the acknowledgment number sent to the namespace
is the one the upstream peer has earned, and no further step moves it back. -/
theorem namespaceAcked_honest (r : AckRun) (h : AckRun.Run AckRun.Complete r) :
    r.Honest ∧ ∀ op, r.Allowed op → r.Complete op →
      (r.step op).Honest ∧ r.ackPoint ≤ (r.step op).ackPoint := by
  obtain ⟨hc, hh⟩ := Counted.of_run h
  refine ⟨hh, fun op hallowed hcond => ⟨?_, r.ackPoint_le_step op⟩⟩
  exact (hc.step hh op hallowed hcond).2

namespace AckRun

def earlyFin : AckRun := (start 7 0 1460 0 0).step (.receive 8 none 1000 3 true false)

end AckRun

/-- The FIN segment of `earlyFin` is acknowledged together with its three bytes. -/
theorem namespaceAcked_earlyFin :
    ¬ ∀ r : AckRun, AckRun.Run (fun _ _ => True) r → r.Honest := by
  intro h
  have hrun : AckRun.Run (fun _ _ => True) AckRun.earlyFin :=
    .step _ (.start 7 0 1460 0 0) trivial trivial
  exact absurd (h _ hrun) (by decide)

/-- Payload, its submission, its acknowledgment upstream, then the FIN. -/
theorem namespaceAcked_honest_graceful :
    ∃ r : AckRun, r.flow.namespaceFin = true ∧ r.flow.namespaceAcked = 12 ∧ r.Honest := by
  let r₀ := AckRun.start 7 0 1460 0 0
  let r₁ := r₀.step (.receive 8 none 1000 3 false false)
  let r₂ := r₁.step (.submitted 3)
  let r₃ := r₂.step (.upstreamAcked 3)
  let r₄ := r₃.step (.receive 11 none 1000 0 true false)
  have h₁ : AckRun.Run AckRun.Complete r₁ :=
    .step _ (.start 7 0 1460 0 0) trivial (by decide)
  have h₂ : AckRun.Run AckRun.Complete r₂ := .step _ h₁ (by decide) trivial
  have h₃ : AckRun.Run AckRun.Complete r₃ := .step _ h₂ trivial (by decide)
  have h₄ : AckRun.Run AckRun.Complete r₄ := .step _ h₃ trivial (by decide)
  exact ⟨r₄, by decide, by decide, (namespaceAcked_honest r₄ h₄).1⟩

end Yayatht.FlowAckHonesty
