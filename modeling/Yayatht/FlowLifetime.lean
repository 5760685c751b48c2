import Yayatht.FlowHistory

set_option autoImplicit false

namespace Yayatht
open Sequence SerialArithmetic

namespace FlowRun

variable {r : FlowRun}

def payloadEnd (r : FlowRun) : ℕ := if r.flow.localFinSequence.isSome then r.sent - 1 else r.sent

/-- The payload sequence numbers from one position to another: neither the SYN nor the FIN. -/
def payloadNumbers (r : FlowRun) (start stop : ℕ) : ℕ :=
  (List.range' start (stop - start)).countP fun x =>
    x ≠ 0 ∧ ¬(r.flow.localFinSequence.isSome ∧ x + 1 = r.sent)

theorem countP_range' (start count stop : ℕ) :
    (List.range' start count).countP (fun x => decide (1 ≤ x ∧ x < stop)) =
      min (start + count) stop - max start 1 := by
  induction count generalizing start with
  | zero =>
    change 0 = _
    omega
  | succ count ih =>
    rw [List.range'_succ, List.countP_cons, ih]
    by_cases h : 1 ≤ start ∧ start < stop
    · rw [if_pos (decide_eq_true h)]
      omega
    · rw [if_neg (by rw [decide_eq_true_iff]; exact h)]
      omega

theorem payloadNumbers_eq {start stop : ℕ} (hstop : stop ≤ r.sent) (hle : start ≤ stop) :
    r.payloadNumbers start stop = min stop r.payloadEnd - max start 1 := by
  have hcount := countP_range' start (stop - start) r.payloadEnd
  rw [Nat.add_sub_cancel' hle] at hcount
  unfold payloadNumbers
  rw [← hcount]
  apply List.countP_congr
  intro x hx
  have hlt : x < r.sent := by
    have hmem := List.mem_range'_1.mp hx
    omega
  unfold payloadEnd
  cases r.flow.localFinSequence with
  | none => simp; omega
  | some fin => simp; omega

def place (r : FlowRun) (x : ℕ) : Seq := r.flow.localInitial + BitVec.ofNat 32 x

theorem Tracked.payloadEnd_at (h : Tracked r) :
    r.flow.localFinSequence.getD r.flow.localNext = r.place r.payloadEnd := by
  unfold place payloadEnd
  cases hfin : r.flow.localFinSequence with
  | none => exact h.next
  | some fin => exact (h.fin_last fin hfin).2

theorem Tracked.payloadEnd_pos (h : Tracked r) : 0 < r.payloadEnd := by
  have hpos := h.sent_pos
  unfold payloadEnd
  cases hfin : r.flow.localFinSequence with
  | none => exact hpos
  | some fin =>
    have hlast := (h.fin_last fin hfin).1
    change 0 < r.sent - 1
    omega

theorem payloadEnd_bounds (r : FlowRun) : r.payloadEnd ≤ r.sent ∧ r.sent ≤ r.payloadEnd + 1 := by
  unfold payloadEnd
  split <;> omega

theorem gap_place_one (r : FlowRun) {x : ℕ} (hx : 0 < x) : gap (r.place 1) (r.place x) = (x - 1) % 2 ^ 32 :=
  gap_positions _ hx

/-- The count is right unless the first unacknowledged payload number lies in the second half
of the number space, where it compares as if it came before the first one. -/
def Countable (r : FlowRun) : Prop :=
  r.acked = 0 ∨ (r.acked - 1) % 2 ^ 32 < 2 ^ 31 ∨ (r.payloadEnd ≤ r.acked ∧ (r.acked - 1) % 2 ^ 32 ≠ 2 ^ 31)

theorem Tracked.newlyAcked_eq (h : Tracked r) {start : ℕ} (hstart : start < r.acked)
    (hnear : r.acked - start < 2 ^ 31) :
    r.flow.newlyAckedPayload (r.place start) =
      if start = 0 ∨ (start - 1) % 2 ^ 32 < 2 ^ 31 then min r.acked r.payloadEnd - max start 1
      else
        let reach := (min r.acked r.payloadEnd - 1) % 2 ^ 32
        if 0 < reach ∧ reach ≤ 2 ^ 31 then reach else 0 := by
  obtain ⟨hend, hsent⟩ := r.payloadEnd_bounds
  have hpos := h.payloadEnd_pos
  have hle := h.acked_le
  have hflight := h.flight_lt
  -- the acknowledged payload stops at the FIN
  have hstop : (if after r.flow.localUnacked (r.flow.localFinSequence.getD r.flow.localNext) then
      r.flow.localFinSequence.getD r.flow.localNext else r.flow.localUnacked) =
      r.place (min r.acked r.payloadEnd) := by
    rw [h.payloadEnd_at]
    have hunacked : r.flow.localUnacked = r.place r.acked := h.unacked
    rw [hunacked]
    by_cases hpast : r.payloadEnd < r.acked
    · have hgap : gap (r.place r.payloadEnd) (r.place r.acked) = 1 := by
        unfold place
        rw [gap_positions _ hpast.le, Nat.mod_eq_of_lt (by omega)]
        omega
      rw [if_pos ((after_iff_gap _ _).mpr ⟨by omega, by omega⟩), Nat.min_eq_right hpast.le]
    · have hgap : gap (r.place r.acked) (r.place r.payloadEnd) = r.payloadEnd - r.acked := by
        unfold place
        rw [gap_positions _ (by omega), Nat.mod_eq_of_lt (by omega)]
      rw [if_neg (fun hafter => by have := (after_iff _ _).mp hafter; omega), Nat.min_eq_left (by omega)]
  obtain ⟨stop, hstopEq⟩ : ∃ stop, min r.acked r.payloadEnd = stop := ⟨_, rfl⟩
  rw [hstopEq] at hstop ⊢
  have hstopPos : 0 < stop := by omega
  have hfrom : ∀ first : ℕ, first ≤ stop →
      (if after (r.place stop) (r.place first) then (distance (r.place first) (r.place stop)).toNat else 0) =
        if 0 < (stop - first) % 2 ^ 32 ∧ (stop - first) % 2 ^ 32 ≤ 2 ^ 31 then (stop - first) % 2 ^ 32 else 0 := by
    intro first hfirst
    have hgap : gap (r.place first) (r.place stop) = (stop - first) % 2 ^ 32 := gap_positions _ hfirst
    rw [distance_toNat, hgap]
    congr 1
    rw [after_iff_gap, hgap]
  have hcode : r.flow.newlyAckedPayload (r.place start) =
      if before (r.place start) (r.place 1) then
        (if after (r.place stop) (r.place 1) then (distance (r.place 1) (r.place stop)).toNat else 0)
      else
        (if after (r.place stop) (r.place start) then (distance (r.place start) (r.place stop)).toNat else 0) := by
    unfold Flow.newlyAckedPayload
    dsimp only
    rw [hstop]
    change (if after (r.place stop) (if before (r.place start) (r.place 1) then r.place 1 else r.place start) then
      (distance (if before (r.place start) (r.place 1) then r.place 1 else r.place start) (r.place stop)).toNat
      else 0) = _
    cases before (r.place start) (r.place 1) <;> rfl
  rw [hcode, hfrom 1 hstopPos, hfrom start (by omega)]
  rcases Nat.eq_zero_or_pos start with rfl | hfirst
  · have hswap : gap (r.place 1) (r.place 0) = 2 ^ 32 - 1 := by
      have hone : gap (r.place 0) (r.place 1) = 1 := gap_positions _ (by omega)
      rw [gap_swap (r.place 0) (r.place 1) (fun he => by rw [he, gap_self] at hone; omega), hone]
    have hbehind : before (r.place 0) (r.place 1) = true := (before_iff _ _).mpr (by omega)
    have hsmall : (stop - 1) % 2 ^ 32 = stop - 1 := Nat.mod_eq_of_lt (by omega)
    rw [if_pos hbehind, if_pos (show 0 = 0 ∨ (0 - 1) % 2 ^ 32 < 2 ^ 31 from .inl rfl), hsmall]
    split <;> omega
  · have hplace := r.gap_place_one hfirst
    by_cases hhalf : (start - 1) % 2 ^ 32 < 2 ^ 31
    · have hahead : ¬before (r.place start) (r.place 1) = true := by
        rw [before_iff]
        omega
      have hsmall : (stop - start) % 2 ^ 32 = stop - start := Nat.mod_eq_of_lt (by omega)
      rw [if_neg hahead, if_pos (show start = 0 ∨ (start - 1) % 2 ^ 32 < 2 ^ 31 from .inr hhalf), hsmall]
      split <;> omega
    · have hbehind : before (r.place start) (r.place 1) = true := (before_iff _ _).mpr (by omega)
      have hwrong : ¬(start = 0 ∨ (start - 1) % 2 ^ 32 < 2 ^ 31) := by omega
      rw [if_pos hbehind, if_neg hwrong]

/-- A segment that moves the acknowledgment point is counted right exactly in `Countable` states. -/
theorem Tracked.newlyAcked_iff (h : Tracked r) {g : FlowRun} (hg : Tracked g) (hmoved : r.acked < g.acked)
    (hnear : g.acked - r.acked < 2 ^ 31) (hinitial : g.flow.localInitial = r.flow.localInitial)
    (hend : g.payloadEnd = r.payloadEnd) :
    g.flow.newlyAckedPayload r.flow.localUnacked = g.payloadNumbers r.acked g.acked ↔ r.Countable := by
  have hunacked : r.flow.localUnacked = g.place r.acked := by
    unfold place
    rw [hinitial]
    exact h.unacked
  have hbounds := g.payloadEnd_bounds
  have hpos := hg.payloadEnd_pos
  have hle := hg.acked_le
  rw [hunacked, hg.newlyAcked_eq hmoved hnear, payloadNumbers_eq hg.acked_le hmoved.le]
  unfold Countable
  rw [← hend]
  by_cases hright : r.acked = 0 ∨ (r.acked - 1) % 2 ^ 32 < 2 ^ 31
  · rw [if_pos hright]
    constructor
    · intro _
      rcases hright with hzero | hhalf
      · exact .inl hzero
      · exact .inr (.inl hhalf)
    · intro _
      rfl
  · rw [if_neg hright]
    dsimp only
    split <;> omega

section play

variable (permitted : FlowRun → FlowOp → Prop) [∀ r op, Decidable (permitted r op)]

def play (r : FlowRun) : List FlowOp → Option FlowRun
  | [] => some r
  | op :: ops => if permitted r op then play (r.step op) ops else none

theorem reaches_play {start r s : FlowRun} {ops : List FlowOp} (hstart : Reaches permitted start r)
    (h : play permitted r ops = some s) : Reaches permitted start s := by
  induction ops generalizing r with
  | nil =>
    cases h
    exact hstart
  | cons op ops ih =>
    unfold play at h
    split at h
    · rename_i hpermitted
      exact ih (.next hstart hpermitted) h
    · cases h

end play

/-- Every acknowledgment that moves the point of a run is counted right exactly when
the run is `Countable` there. -/
theorem newlyAckedPayload_counts (namespaceInitial localInitial : Seq) (mss peerShift localShift bytesAcked : ℕ)
    (hshift : peerShift ≤ 14) {r : FlowRun}
    (hrun : Reaches (fun r op => r.Orderly op ∧ r.Centred op)
      (connected (Flow.new namespaceInitial localInitial mss peerShift localShift) bytesAcked) r)
    (sequence : Seq) (acknowledgment : Option Seq) (window : UInt16) (payloadLen : ℕ) (fin rst : Bool)
    (hcentred : r.Centred (.receive sequence acknowledgment window payloadLen fin rst))
    (hmoved : (r.step (.receive sequence acknowledgment window payloadLen fin rst)).flow.localUnacked ≠
      r.flow.localUnacked) :
    (r.step (.receive sequence acknowledgment window payloadLen fin rst)).flow.newlyAckedPayload
        r.flow.localUnacked =
      (r.step (.receive sequence acknowledgment window payloadLen fin rst)).payloadNumbers r.acked
        (r.step (.receive sequence acknowledgment window payloadLen fin rst)).acked ↔ r.Countable := by
  have hwindow : u16Max ≤ widest := by decide
  have htracked : Tracked r :=
    hrun.tracked (fun _ _ h => h) (tracked_connected bytesAcked rfl hshift hwindow rfl)
  have hnext := htracked.receive hcentred
  have hheard := r.flow.heard_receive sequence acknowledgment window payloadLen fin rst
  have hflight := htracked.flight_lt
  have hle := hnext.acked_le
  have hgap : 0 < gap r.flow.localUnacked
      (r.flow.receive sequence acknowledgment window.toNat payloadLen fin rst).1.localUnacked := by
    apply Nat.pos_of_ne_zero
    intro hzero
    exact hmoved ((gap_eq_zero_iff _ _).mp hzero).symm
  have hacked : (r.step (.receive sequence acknowledgment window payloadLen fin rst)).acked =
      r.acked + gap r.flow.localUnacked
        (r.flow.receive sequence acknowledgment window.toNat payloadLen fin rst).1.localUnacked := rfl
  have hsent : (r.step (.receive sequence acknowledgment window payloadLen fin rst)).sent = r.sent := rfl
  refine htracked.newlyAcked_iff hnext (by omega) (by omega) hheard.initial ?_
  unfold payloadEnd
  rw [hsent, show (r.step (.receive sequence acknowledgment window payloadLen fin rst)).flow.localFinSequence =
    r.flow.localFinSequence from hheard.fin]

/-- Three bytes are sent and two of them acknowledged. -/
theorem newlyAckedPayload_counts_two :
    ∃ r : FlowRun, Reaches (fun r op => r.Orderly op ∧ r.Centred op) (connected (Flow.new 0 0 1460 7 7) 0) r ∧
      let op := FlowOp.receive 1 (some 3) 65535 0 false false
      (r.step op).payloadNumbers r.acked (r.step op).acked = 2 ∧
        (r.step op).flow.newlyAckedPayload r.flow.localUnacked = 2 := by
  have hplays : (play (fun r op => r.Orderly op ∧ r.Centred op) (connected (Flow.new 0 0 1460 7 7) 0)
      [.receive 1 (some 1) 65535 0 false false, .plan 3 false, .commit]).any (fun r =>
        let op := FlowOp.receive 1 (some 3) 65535 0 false false
        r.Centred op ∧ (r.step op).flow.localUnacked ≠ r.flow.localUnacked ∧ r.acked = 1 ∧
          (r.step op).payloadNumbers r.acked (r.step op).acked = 2) = true := by decide +kernel
  obtain ⟨r, hr, hmoves⟩ := (Option.any_eq_true _ _).mp hplays
  obtain ⟨hcentred, hmoved, hacked, htwo⟩ := of_decide_eq_true hmoves
  have hreaches := reaches_play _ .refl hr
  have hcounts := (newlyAckedPayload_counts 0 0 1460 7 7 0 (by decide) hreaches 1 (some 3) 65535 0 false false hcentred
    hmoved).mpr (.inr (.inl (by rw [hacked]; decide)))
  exact ⟨r, hreaches, htwo, hcounts.trans htwo⟩

/-- Three full windows of payload, each acknowledged, and one byte more. -/
def longSend : List FlowOp :=
  [.receive 1 (some 1) 65535 0 false false, .plan widest false, .commit,
    .receive 1 (some (1 + BitVec.ofNat 32 widest)) 65535 0 false false, .plan widest false, .commit,
    .receive 1 (some (1 + BitVec.ofNat 32 (2 * widest))) 65535 0 false false, .plan widest false, .commit,
    .receive 1 (some (1 + BitVec.ofNat 32 (3 * widest))) 65535 0 false false, .plan 1 false, .commit]

theorem longSend_plays : (play Orderly (connected (Flow.new 0 0 1460 14 7) 0) longSend).isSome := by
  decide +kernel

/-- After more than half of the number space the acknowledgment of a byte counts as nothing. -/
theorem newlyAckedPayload_past_half : ∃ r : FlowRun,
    Reaches Orderly (connected (Flow.new 0 0 1460 14 7) 0) r ∧
      ∃ op, op = FlowOp.receive 1 (some (2 + BitVec.ofNat 32 (3 * widest))) 65535 0 false false ∧
        (r.step op).flow.localUnacked ≠ r.flow.localUnacked ∧
        (r.step op).payloadNumbers r.acked (r.step op).acked = 1 ∧
        (r.step op).flow.newlyAckedPayload r.flow.localUnacked = 0 := by
  refine ⟨_, reaches_play Orderly .refl (Option.some_get longSend_plays).symm, _, rfl, ?_⟩
  decide +kernel

/-! ## The end of both directions -/

/-- Both FINs are there and everything sent is acknowledged. -/
def Finished (r : FlowRun) : Prop :=
  r.flow.namespaceFin = true ∧ r.flow.localFinSequence.isSome ∧ r.flow.localUnacked = r.flow.localNext

instance (r : FlowRun) : Decidable r.Finished := by
  unfold Finished
  infer_instance

/-- The life of a flow as the reactor drives it, until it is closed or reset. -/
def Living (r : FlowRun) (op : FlowOp) : Prop :=
  r.Orderly op ∧
    match op with
    | .plan .. => r.flow.state = .established ∨ r.flow.state = .namespaceFinReceived
    | .receive _ _ _ _ _ rst => rst = false
    | _ => True

instance (r : FlowRun) (op : FlowOp) : Decidable (r.Living op) :=
  match op with
  | .plan .. => inferInstanceAs (Decidable (_ ∧ (_ ∨ _)))
  | .receive _ _ _ _ _ rst => inferInstanceAs (Decidable (_ ∧ rst = false))
  | .connect _ | .commit | .submitted _ | .upstreamAck _ | .widen _ | .markSocketFin | .close =>
    inferInstanceAs (Decidable (_ ∧ True))

/-- An acknowledgment beyond everything sent, while both FINs are there and something is still
unacknowledged: `acknowledge_local` refuses to move its point to it, and still compares it
with the FIN. -/
def Overrun (f : Flow) (acknowledgment : Option Seq) : Prop :=
  f.namespaceFin = true ∧ f.localFinSequence.isSome ∧ f.localUnacked ≠ f.localNext ∧
    ∃ ack, acknowledgment = some ack ∧ after ack f.localNext = true ∧ before ack f.localNext = false

instance (f : Flow) (acknowledgment : Option Seq) : Decidable (Overrun f acknowledgment) :=
  inferInstanceAs (Decidable (_ ∧ _ ∧ _ ∧
    ∃ ack ∈ acknowledgment, after ack f.localNext = true ∧ before ack f.localNext = false))

/-- No acknowledgment of the operation is in the corner or overruns. -/
def Honest (r : FlowRun) : FlowOp → Prop
  | .receive _ acknowledgment _ _ _ _ => ¬Corner r.flow acknowledgment ∧ ¬Overrun r.flow acknowledgment
  | _ => True

instance (r : FlowRun) (op : FlowOp) : Decidable (r.Honest op) :=
  match op with
  | .receive .. => inferInstanceAs (Decidable (¬_ ∧ ¬_))
  | .connect _ | .plan .. | .commit | .submitted _ | .upstreamAck _ | .widen _ | .markSocketFin | .close =>
    inferInstanceAs (Decidable True)

/-- `TimeWait` is the state of the finished runs, and only the FIN that was sent counts. -/
structure Settled (r : FlowRun) : Prop where
  tracked : Tracked r
  fins : r.flow.socketFin = r.flow.localFinSequence.isSome
  settled : r.flow.state = .timeWait ↔ r.Finished

/-- With the FIN at the last position, an acknowledgment is past it when it is the next number
or beyond. -/
theorem Tracked.after_fin (h : Tracked r) {fin : Seq} (hfin : r.flow.localFinSequence = some fin) (ack : Seq) :
    after ack fin = true ↔ gap r.flow.localNext ack < 2 ^ 31 := by
  obtain ⟨hpos, hlast⟩ := h.fin_last fin hfin
  have hone : gap fin r.flow.localNext = 1 := by
    rw [hlast, h.next, gap_positions _ (by omega), Nat.mod_eq_of_lt (by omega)]
    omega
  have hlt := gap_lt fin ack
  have hnext := gap_lt r.flow.localNext ack
  rw [after_iff_gap]
  rcases Nat.lt_or_ge (gap fin ack) (gap fin r.flow.localNext) with hshort | hlong
  · have hzero : gap fin ack = 0 := by omega
    have hsame : fin = ack := (gap_eq_zero_iff _ _).mp hzero
    have hback : gap r.flow.localNext fin = 2 ^ 32 - gap fin r.flow.localNext := by
      apply gap_swap
      intro he
      rw [he, gap_self] at hone
      omega
    rw [← hsame, hback, hone, gap_self]
    omega
  · have hsplit := gap_split fin r.flow.localNext ack hlong
    omega

theorem Tracked.ackedTo_of_idle (h : Tracked r) {acknowledgment : Option Seq}
    (hcorner : ¬Corner r.flow acknowledgment) (hidle : r.flow.localUnacked = r.flow.localNext) :
    r.flow.ackedTo acknowledgment = r.flow.localNext := by
  have hgap := h.gap_ackedTo hcorner
  have hnext := h.gap_next
  rw [hidle, gap_self] at hnext
  rw [← hnext, Nat.le_zero] at hgap
  exact ((gap_eq_zero_iff _ _).mp hgap).symm.trans hidle

theorem Tracked.ackedTo_of_flight (h : Tracked r) (ack : Seq) (hflight : r.flow.localUnacked ≠ r.flow.localNext) :
    r.flow.ackedTo (some ack) = r.flow.localNext ↔ ack = r.flow.localNext := by
  have hnext := h.gap_next
  have hlt := h.flight_lt
  have hpos : 0 < gap r.flow.localUnacked r.flow.localNext :=
    Nat.pos_of_ne_zero fun hzero => hflight ((gap_eq_zero_iff _ _).mp hzero)
  unfold Flow.ackedTo
  dsimp only
  constructor
  · intro hreached
    split at hreached
    · exact hreached
    · exact absurd hreached hflight
  · rintro rfl
    have hafter : after r.flow.localNext r.flow.localUnacked = true :=
      (after_iff_gap _ _).mpr ⟨hpos, by omega⟩
    simp [hafter, beforeOrEqual]

theorem Settled.finAckState (h : Settled r) {ack : Seq} (hcorner : ¬Corner r.flow (some ack))
    (hoverrun : ¬Overrun r.flow (some ack)) :
    r.flow.finAckState ack = .timeWait ↔ r.flow.namespaceFin = true ∧
      r.flow.localFinSequence.isSome ∧ r.flow.ackedTo (some ack) = r.flow.localNext := by
  have hsettled := h.settled
  unfold Finished at hsettled
  unfold Flow.finAckState
  cases hfin : r.flow.localFinSequence with
  | none =>
    rw [hfin] at hsettled
    simp [hsettled]
  | some fin =>
    cases hnamespace : r.flow.namespaceFin with
    | false =>
      rw [hnamespace] at hsettled
      simp [hsettled]
    | true =>
      rw [hfin, hnamespace] at hsettled
      simp only [Bool.and_true, Option.isSome_some, true_and]
      by_cases hidle : r.flow.localUnacked = r.flow.localNext
      · have hdone : r.flow.state = .timeWait := hsettled.mpr ⟨rfl, rfl, hidle⟩
        simp [hdone, h.tracked.ackedTo_of_idle hcorner hidle]
      · have hgoing : r.flow.state ≠ .timeWait := fun hdone => hidle (hsettled.mp hdone).2.2
        rw [h.tracked.ackedTo_of_flight ack hidle]
        have hwithin : ¬(after ack r.flow.localNext = true ∧ before ack r.flow.localNext = false) :=
          fun hbeyond => hoverrun ⟨hnamespace, by simp [hfin], hidle, ack, rfl, hbeyond⟩
        have hafter := h.tracked.after_fin hfin ack
        have hzero := gap_eq_zero_iff r.flow.localNext ack
        rw [after_iff_gap, Bool.eq_false_iff, ne_eq, before_iff] at hwithin
        have hexact : after ack fin = true ↔ ack = r.flow.localNext := by
          rw [hafter, eq_comm, ← hzero]
          omega
        rw [← hexact]
        cases after ack fin <;> simp [hgoing]

theorem Settled.ackState (h : Settled r) {acknowledgment : Option Seq}
    (hcorner : ¬Corner r.flow acknowledgment) (hoverrun : ¬Overrun r.flow acknowledgment) :
    r.flow.ackState acknowledgment = .timeWait ↔ r.flow.namespaceFin = true ∧
      r.flow.localFinSequence.isSome ∧ r.flow.ackedTo acknowledgment = r.flow.localNext := by
  cases acknowledgment with
  | none => exact h.settled
  | some ack =>
    rw [← h.finAckState hcorner hoverrun]
    unfold Flow.ackState
    dsimp only
    split
    · rename_i hsyn
      simp [hsyn.1]
    · exact Iff.rfl

theorem Settled.receive (h : Settled r) {sequence : Seq} {acknowledgment : Option Seq} {window : UInt16}
    {payloadLen : ℕ} {fin : Bool}
    (hhonest : r.Honest (.receive sequence acknowledgment window payloadLen fin false)) :
    Settled (r.step (.receive sequence acknowledgment window payloadLen fin false)) := by
  obtain ⟨hcorner, hoverrun⟩ := hhonest
  have hack := h.ackState hcorner hoverrun
  have hheard := r.flow.heard_receive sequence acknowledgment window payloadLen fin false
  refine ⟨h.tracked.receive (.inr hcorner), ?_, ?_⟩
  · change (r.flow.receive _ _ _ _ _ _).1.socketFin = (r.flow.receive _ _ _ _ _ _).1.localFinSequence.isSome
    rw [hheard.socketFin, hheard.fin, h.fins]
  · change (r.flow.receive _ _ _ _ _ _).1.state = _ ↔ Finished (r.moved (r.flow.receive _ _ _ _ _ _).1)
    unfold Finished moved
    rcases r.flow.receive_cases sequence acknowledgment window.toNat payloadLen fin false with
      ⟨hreset, -⟩ | ⟨-, disposition, -, -, heq⟩ | ⟨-, -, -, -, heq⟩
    · cases hreset
    · rw [heq, Flow.receiveAck_eq]
      exact hack
    · rw [heq]
      cases fin with
      | false =>
        rw [Flow.advance_payload, Flow.receiveAck_eq]
        exact hack
      | true =>
        rw [Flow.advance_fin, Flow.receiveAck_eq]
        -- the FIN of the namespace settles the state from the acknowledgment point alone
        change Flow.finState _ = .timeWait ↔ true = true ∧ r.flow.localFinSequence.isSome = true ∧
          r.flow.ackedTo acknowledgment = r.flow.localNext
        unfold Flow.finState
        dsimp only
        rw [h.fins]
        cases r.flow.localFinSequence with
        | none => simp
        | some localFin =>
          by_cases hdone : r.flow.ackedTo acknowledgment = r.flow.localNext
          · simp [hdone]
          · simp [hdone]

theorem Settled.commit (h : Settled r) : Settled (r.step .commit) := by
  have htracked := h.tracked.commit
  cases hplanned : r.planned with
  | none =>
    have hstep : r.step .commit = r := by
      unfold FlowRun.step
      rw [hplanned]
    rw [hstep]
    exact h
  | some plan =>
    have hopen := h.tracked.unfinished hplanned
    have hgoing : r.flow.state ≠ .timeWait := by
      intro hdone
      have hfin := (h.settled.mp hdone).2.1
      rw [hopen] at hfin
      cases hfin
    have hstep : (r.step .commit).flow = r.flow.commitSend plan := by
      unfold FlowRun.step
      rw [hplanned]
    refine ⟨htracked, ?_, ?_⟩
    · rw [hstep]
      cases hfin : plan.fin with
      | false =>
        rw [Flow.commitSend_data hfin]
        exact h.fins
      | true =>
        rw [Flow.commitSend_fin hfin]
        rfl
    · unfold Finished
      rw [hstep]
      cases hfin : plan.fin with
      | false =>
        rw [Flow.commitSend_data hfin]
        simp [hgoing, hopen]
      | true =>
        -- the FIN itself is in flight
        have hpending : (r.flow.commitSend plan).localUnacked ≠ (r.flow.commitSend plan).localNext := by
          rw [← hstep]
          intro hsame
          have hnext := htracked.gap_next
          have hlt := htracked.flight_lt
          rw [hsame, gap_self] at hnext
          have hsent : (r.step .commit).sent = r.sent + (plan.length + plan.fin.toNat) := by
            unfold FlowRun.step
            rw [hplanned]
          have hacked : (r.step .commit).acked = r.acked := by
            unfold FlowRun.step
            rw [hplanned]
          have hle := h.tracked.acked_le
          rw [hfin] at hsent
          simp only [Bool.toNat_true] at hsent
          omega
        rw [Flow.commitSend_fin hfin] at hpending ⊢
        simp only [hpending, and_false, iff_false]
        split <;> simp

theorem Settled.step {op : FlowOp} (h : Settled r) (hliving : r.Living op) (hhonest : r.Honest op) :
    Settled (r.step op) := by
  cases op with
  | plan length fin => exact ⟨h.tracked.plan hliving.1, h.fins, h.settled⟩
  | commit => exact h.commit
  | receive sequence acknowledgment window payloadLen fin rst =>
    cases hliving.2
    exact h.receive hhonest
  | submitted length => exact ⟨h.tracked.step trivial trivial, h.fins, h.settled⟩
  | upstreamAck bytesAcked =>
    have htracked : Tracked (r.step (.upstreamAck bytesAcked)) := h.tracked.step trivial trivial
    change Settled { r with flow := (r.flow.recordUpstreamAck bytesAcked).1 }
    change Tracked { r with flow := (r.flow.recordUpstreamAck bytesAcked).1 } at htracked
    unfold Flow.recordUpstreamAck at htracked ⊢
    dsimp only at htracked ⊢
    split
    · exact h
    · rename_i hmore
      rw [if_neg hmore] at htracked
      exact ⟨htracked, h.fins, h.settled⟩
  | widen budget =>
    have htracked : Tracked (r.step (.widen budget)) := h.tracked.step trivial trivial
    change Settled { r with flow := (r.flow.setAdvertisedWindow budget).1 }
    change Tracked { r with flow := (r.flow.setAdvertisedWindow budget).1 } at htracked
    unfold Flow.setAdvertisedWindow at htracked ⊢
    dsimp only at htracked ⊢
    split
    · rename_i hwider
      rw [if_pos hwider] at htracked
      exact ⟨htracked, h.fins, h.settled⟩
    · exact h
  | connect bytesAcked => exact hliving.1.elim
  | markSocketFin => exact hliving.1.elim
  | close => exact hliving.1.elim

/-- `TimeWait` is exactly the end of both directions, along every run whose acknowledgments
do not run past what was sent. -/
theorem timeWait_iff_finished (namespaceInitial localInitial : Seq)
    (mss peerShift localShift bytesAcked : ℕ) (hshift : peerShift ≤ 14) {r : FlowRun}
    (hrun : Reaches (fun r op => r.Living op ∧ r.Honest op)
      (connected (Flow.new namespaceInitial localInitial mss peerShift localShift) bytesAcked) r) :
    r.flow.state = .timeWait ↔ r.flow.namespaceFin = true ∧ r.flow.localFinSequence.isSome ∧
      r.flow.localUnacked = r.flow.localNext := by
  have hwindow : u16Max ≤ widest := by decide
  suffices hsettled : Settled r from hsettled.settled
  induction hrun with
  | refl =>
    refine ⟨tracked_connected bytesAcked rfl hshift hwindow rfl, rfl, ?_⟩
    constructor
    · intro h
      cases h
    · rintro ⟨h, -⟩
      cases h
  | next _ hstep ih => exact ih.step hstep.1 hstep.2

def bothClose : List FlowOp :=
  [.receive 1 (some 1) 65535 0 false false, .plan 0 true, .commit, .receive 1 (some 2) 65535 0 true false]

theorem bothClose_plays : (play (fun r op => r.Living op ∧ r.Honest op)
    (connected (Flow.new 0 0 1460 7 7) 0) bothClose).isSome := by
  decide +kernel

theorem timeWait_iff_finished_close : ∃ r : FlowRun,
    Reaches (fun r op => r.Living op ∧ r.Honest op) (connected (Flow.new 0 0 1460 7 7) 0) r ∧
      r.Finished ∧ r.flow.state = .timeWait := by
  have hrun := reaches_play _ .refl (Option.some_get bothClose_plays).symm
  have hfinished : ((play (fun r op => r.Living op ∧ r.Honest op)
      (connected (Flow.new 0 0 1460 7 7) 0) bothClose).get bothClose_plays).Finished := by decide +kernel
  exact ⟨_, hrun, hfinished, (timeWait_iff_finished 0 0 1460 7 7 0 (by decide) hrun).mpr hfinished⟩

/-- Both FINs with the local one unacknowledged, and then an acknowledgment of a number that was
never sent. -/
def overrunClose : List FlowOp :=
  [.receive 1 (some 1) 65535 0 false false, .plan 0 true, .commit, .receive 1 (some 1) 65535 0 true false,
    .receive 2 (some 100) 65535 0 false false]

theorem overrunClose_plays : (play Living (connected (Flow.new 0 0 1460 7 7) 0) overrunClose).isSome := by
  decide +kernel

theorem timeWait_overrun : ∃ r : FlowRun, Reaches Living (connected (Flow.new 0 0 1460 7 7) 0) r ∧
    r.flow.state = .timeWait ∧ r.flow.localUnacked = 1 ∧ r.flow.localNext = 2 := by
  refine ⟨_, reaches_play Living .refl (Option.some_get overrunClose_plays).symm, ?_⟩
  decide +kernel

/-! ## The namespace FIN -/

/-- A segment that `receive` takes in order: it starts at the next number and fits the window. -/
def Continues (f : Flow) : FlowOp → Prop
  | .receive sequence _ _ payloadLen fin rst =>
    rst = false ∧ sequence = f.namespaceNext ∧ payloadLen ≤ f.advertisedWindow ∧ (0 < payloadLen ∨ fin = true)
  | _ => False

instance (f : Flow) (op : FlowOp) : Decidable (Continues f op) :=
  match op with
  | .receive .. => inferInstanceAs (Decidable (_ ∧ _ ∧ _ ∧ (_ ∨ _)))
  | .connect _ | .plan .. | .commit | .submitted _ | .upstreamAck _ | .widen _ | .markSocketFin | .close =>
    inferInstanceAs (Decidable False)

theorem advertisedWindow_le (f : Flow) : f.advertisedWindow ≤ 2 ^ 31 := by
  unfold Flow.advertisedWindow
  split
  · rename_i hafter
    exact ((after_iff_gap _ _).mp hafter).2
  · exact Nat.zero_le _

theorem receive_of_continues {f : Flow} {sequence : Seq} {acknowledgment : Option Seq} {window : UInt16}
    {payloadLen : ℕ} {fin rst : Bool}
    (h : Continues f (.receive sequence acknowledgment window payloadLen fin rst)) :
    (f.receive sequence acknowledgment window.toNat payloadLen fin rst).2 = .inOrder payloadLen fin := by
  obtain ⟨rfl, rfl, hfits, hsome⟩ := h
  have hsmall := advertisedWindow_le f
  have hwindow : (f.receiveAck acknowledgment window.toNat).advertisedWindow = f.advertisedWindow := by
    rw [Flow.receiveAck_eq]
    rfl
  have hnext : (f.receiveAck acknowledgment window.toNat).namespaceNext = f.namespaceNext := by
    rw [Flow.receiveAck_eq]
  have hnonempty : ¬(payloadLen = 0 ∧ fin = false) := by
    rintro ⟨rfl, rfl⟩
    simp at hsome
  unfold Flow.receive
  simp only [Bool.false_eq_true, if_false, hnext, hwindow, ne_eq, not_true_eq_false]
  rw [if_neg (Nat.not_lt.mpr hfits), if_neg hnonempty, if_pos (by omega)]

/-- The receive point moves over a segment that is taken in order, and only over those. -/
theorem receive_moves_iff (f : Flow) (sequence : Seq) (acknowledgment : Option Seq) (window : UInt16)
    (payloadLen : ℕ) (fin rst : Bool) :
    ((f.receive sequence acknowledgment window.toNat payloadLen fin rst).1.namespaceNext = f.namespaceNext ∧
      ∀ n b, (f.receive sequence acknowledgment window.toNat payloadLen fin rst).2 = .inOrder n b →
        n = 0 ∧ b = false) ↔
      ¬Continues f (.receive sequence acknowledgment window payloadLen fin rst) := by
  unfold Continues
  dsimp only
  rcases f.receive_cases sequence acknowledgment window.toNat payloadLen fin rst with
    ⟨rfl, heq⟩ | ⟨rfl, disposition, -, hdisposition, heq⟩ | ⟨rfl, hseq, hfits, hsome, heq⟩
  · rw [heq]
    simp
  · have hnext : (f.receiveAck acknowledgment window.toNat).namespaceNext = f.namespaceNext := by
      rw [Flow.receiveAck_eq]
    constructor
    · rintro ⟨-, hnothing⟩ hcontinues
      obtain ⟨hlen, hfin⟩ := hnothing payloadLen fin (receive_of_continues hcontinues)
      obtain ⟨-, -, -, hsome⟩ := hcontinues
      rw [hlen, hfin] at hsome
      simp at hsome
    · intro _
      rw [heq]
      refine ⟨hnext, ?_⟩
      intro n b htaken
      obtain ⟨hn, hb, -⟩ := hdisposition n b htaken
      exact ⟨hn, hb⟩
  · rw [heq]
    constructor
    · rintro ⟨-, hnothing⟩
      obtain ⟨hlen, hfin⟩ := hnothing payloadLen fin rfl
      rw [hlen, hfin] at hsome
      simp at hsome
    · intro hnot
      exact absurd ⟨rfl, hseq, hfits, hsome⟩ hnot

theorem step_keeps_namespace {op : FlowOp} (h : ¬Continues r.flow op) :
    (r.step op).flow.namespaceNext = r.flow.namespaceNext ∧
      (r.step op).flow.namespaceFin = r.flow.namespaceFin := by
  cases op with
  | connect bytesAcked => exact ⟨rfl, rfl⟩
  | plan length fin => exact ⟨rfl, rfl⟩
  | commit =>
    unfold step
    cases r.planned with
    | none => exact ⟨rfl, rfl⟩
    | some plan =>
      dsimp only
      unfold Flow.commitSend
      dsimp only
      split <;> exact ⟨rfl, rfl⟩
  | receive sequence acknowledgment window payloadLen fin rst =>
    refine ⟨((receive_moves_iff r.flow sequence acknowledgment window payloadLen fin rst).mpr h).1, ?_⟩
    change (r.flow.receive sequence acknowledgment window.toNat payloadLen fin rst).1.namespaceFin = _
    rcases r.flow.receive_cases sequence acknowledgment window.toNat payloadLen fin rst with
      ⟨-, heq⟩ | ⟨-, disposition, -, -, heq⟩ | ⟨hrst, hseq, hfits, hsome, heq⟩
    · rw [heq]
    · rw [heq, Flow.receiveAck_eq]
    · exact absurd ⟨hrst, hseq, hfits, hsome⟩ h
  | submitted length => exact ⟨rfl, rfl⟩
  | upstreamAck bytesAcked =>
    change (r.flow.recordUpstreamAck bytesAcked).1.namespaceNext = _ ∧
      (r.flow.recordUpstreamAck bytesAcked).1.namespaceFin = _
    unfold Flow.recordUpstreamAck
    dsimp only
    split <;> exact ⟨rfl, rfl⟩
  | widen budget =>
    change (r.flow.setAdvertisedWindow budget).1.namespaceNext = _ ∧
      (r.flow.setAdvertisedWindow budget).1.namespaceFin = _
    unfold Flow.setAdvertisedWindow
    dsimp only
    split <;> exact ⟨rfl, rfl⟩
  | markSocketFin => exact ⟨rfl, rfl⟩
  | close => exact ⟨rfl, rfl⟩

theorem receive_takes_fin {f : Flow} {sequence : Seq} {acknowledgment : Option Seq} {window : UInt16}
    {payloadLen n : ℕ} {fin rst : Bool}
    (h : (f.receive sequence acknowledgment window.toNat payloadLen fin rst).2 = .inOrder n true) :
    (f.receive sequence acknowledgment window.toNat payloadLen fin rst).1.namespaceFin = true := by
  rcases f.receive_cases sequence acknowledgment window.toNat payloadLen fin rst with
    ⟨-, heq⟩ | ⟨-, disposition, -, hdisposition, heq⟩ | ⟨-, -, -, -, heq⟩
  · rw [heq] at h
    cases h
  · rw [heq] at h
    have hfalse := (hdisposition n true h).2.1
    cases hfalse
  · rw [heq] at h ⊢
    cases h
    rw [Flow.advance_fin]

/-- Once a FIN was taken in order the receive point rests, and a segment is taken for nothing,
exactly as long as no segment continues the stream after the FIN. -/
theorem namespaceFin_final (r : FlowRun) (sequence : Seq) (acknowledgment : Option Seq) (window : UInt16)
    (payloadLen n : ℕ) (fin rst : Bool)
    (hfin : (r.flow.receive sequence acknowledgment window.toNat payloadLen fin rst).2 = .inOrder n true)
    {s : FlowRun} (hrun : Reaches (fun s op => ¬Continues s.flow op)
      (r.step (.receive sequence acknowledgment window payloadLen fin rst)) s) :
    s.flow.namespaceFin = true ∧
      s.flow.namespaceNext =
        (r.step (.receive sequence acknowledgment window payloadLen fin rst)).flow.namespaceNext ∧
      ∀ (sequence : Seq) (acknowledgment : Option Seq) (window : UInt16) (payloadLen : ℕ) (fin rst : Bool),
        ((s.flow.receive sequence acknowledgment window.toNat payloadLen fin rst).1.namespaceNext =
            s.flow.namespaceNext ∧
          ∀ n b, (s.flow.receive sequence acknowledgment window.toNat payloadLen fin rst).2 = .inOrder n b →
            n = 0 ∧ b = false) ↔
          ¬Continues s.flow (.receive sequence acknowledgment window payloadLen fin rst) := by
  suffices hkept : s.flow.namespaceFin = true ∧ s.flow.namespaceNext =
      (r.step (.receive sequence acknowledgment window payloadLen fin rst)).flow.namespaceNext from
    ⟨hkept.1, hkept.2, receive_moves_iff s.flow⟩
  induction hrun with
  | refl => exact ⟨receive_takes_fin hfin, rfl⟩
  | next _ hquiet ih =>
    obtain ⟨hnext, hended⟩ := step_keeps_namespace hquiet
    exact ⟨hended.trans ih.1, hnext.trans ih.2⟩

/-- The FIN of the namespace, its retransmission, and an acknowledgment. -/
theorem namespaceFin_final_retransmitted :
    let r := connected (Flow.new 0 0 1460 7 7) 0
    let fin := FlowOp.receive 1 (some 1) 65535 0 true false
    (((r.step fin).step fin).step (.receive 2 (some 1) 65535 0 false false)).flow.namespaceNext = 2 := by
  intro r fin
  have hrun : Reaches (fun s op => ¬Continues s.flow op) (r.step fin)
      (((r.step fin).step fin).step (.receive 2 (some 1) 65535 0 false false)) :=
    .next (.next .refl (by decide)) (by decide)
  exact (namespaceFin_final r 1 (some 1) 65535 0 0 true false (by decide) hrun).2.1

/-- Payload after the FIN is taken in order, and so is a second FIN. -/
theorem namespaceFin_continued : ∃ r : FlowRun,
    Reaches Living (connected (Flow.new 0 0 1460 7 7) 0) r ∧
      (r.flow.receive 1 (some 1) 65535 0 true false).2 = .inOrder 0 true ∧
      ∃ s, s = r.step (.receive 1 (some 1) 65535 0 true false) ∧
        (s.flow.receive 2 (some 1) 65535 5 true false).2 = .inOrder 5 true ∧
        (s.flow.receive 2 (some 1) 65535 5 true false).1.namespaceNext ≠ s.flow.namespaceNext := by
  refine ⟨_, .refl, by decide +kernel, _, rfl, ?_⟩
  decide +kernel

end FlowRun

end Yayatht
