import Yayatht.UpstreamBytes

set_option autoImplicit false

/-!
# The segments tile what is unacknowledged

The planned frame that waits for the TAP and the segments that were sent stand for
consecutive ranges of sequence numbers: together they begin at the acknowledgment
point and end at the next number, however sends, deferred writes, repetitions and
partial acknowledgments interleave and wherever the numbers wrap.
-/
namespace Yayatht
open Sequence SerialArithmetic EffectLogic

/-- The largest window a peer can open. -/
def widestWindow : ℕ := u16Max * 2 ^ maxPeerWindowShift

namespace SentSegment

def size (s : SentSegment) : ℕ := s.payloadLen + s.syn.toNat + s.fin.toNat

def range (s : SentSegment) : Seq × ℕ := (s.sequence, s.size)

/-- An acknowledgment inside a segment takes its SYN first, then payload, and leaves the FIN. -/
theorem acknowledge_cut {s : SentSegment} {ack : Seq} (hafter : after ack s.sequence = true)
    (hbefore : before ack s.endSequence = true) (hpos : 0 < gap s.sequence ack)
    (hlt : gap s.sequence ack < s.size) :
    (s.acknowledge ack).2 = false ∧ (s.acknowledge ack).1.range = (ack, s.size - gap s.sequence ack) := by
  have hdistance : (distance s.sequence ack).toNat = gap s.sequence ack := rfl
  unfold acknowledge
  rw [hafter, hbefore, hdistance]
  refine ⟨rfl, Prod.ext rfl ?_⟩
  dsimp only [range, size] at hlt ⊢
  cases hsyn : s.syn <;> cases hfin : s.fin <;>
    simp only [hsyn, hfin, Bool.not_true, Bool.not_false, Bool.false_eq_true, if_false, Bool.true_and,
      Bool.false_and, Bool.and_true, Bool.toNat_true, Bool.toNat_false, hpos, if_true, decide_true] at hlt ⊢
  · omega
  · rw [Nat.min_eq_left (by omega), decide_eq_false (by omega)]
    simp only [Bool.not_false, Bool.toNat_true]
    omega
  · omega
  · rw [Nat.min_eq_left (by omega), decide_eq_false (by omega)]
    simp only [Bool.not_false, Bool.toNat_true]
    omega

end SentSegment

def SendPlan.size (plan : SendPlan) : ℕ := plan.length + plan.syn.toNat + plan.fin.toNat

/-- What an acknowledgment within the sent range leaves of its segments. -/
theorem Tiles.acknowledged {first next ack : Seq} {segments : List SentSegment}
    (h : Tiles first next (segments.map SentSegment.range))
    (hspan : span (segments.map SentSegment.range) ≤ 2 ^ 30)
    (hack : gap first ack ≤ span (segments.map SentSegment.range)) :
    Tiles ack next ((acknowledgeSegments ack segments).map SentSegment.range) ∧
      span ((acknowledgeSegments ack segments).map SentSegment.range) =
        span (segments.map SentSegment.range) - gap first ack := by
  induction segments generalizing first with
  | nil =>
    rw [List.map_nil, span_nil] at hack
    have heq : first = ack := (gap_eq_zero_iff first ack).mp (by omega)
    subst heq
    rw [gap_self]
    exact ⟨h, rfl⟩
  | cons segment segments ih =>
    obtain ⟨hstart, hpos, hrest⟩ := h
    rw [List.map_cons] at hspan hack
    change segment.size + span (segments.map SentSegment.range) ≤ 2 ^ 30 at hspan
    change gap first ack ≤ segment.size + span (segments.map SentSegment.range) at hack
    change segment.sequence = first at hstart
    change 0 < segment.size at hpos
    have hend : segment.endSequence = first + BitVec.ofNat 32 segment.size := by
      unfold SentSegment.endSequence SentSegment.sequenceLen
      rw [hstart]
      rfl
    have hlength : gap first segment.endSequence = segment.size := by
      rw [hend]
      exact gap_add_left first _ (by omega)
    have hbefore : before ack segment.endSequence = true ↔ gap first ack < segment.size := by
      have hiff := after_of_gap first ack segment.endSequence (by omega) (by omega)
      rwa [hlength] at hiff
    unfold acknowledgeSegments
    by_cases hafter : after ack first = true
    · have hgap : 0 < gap first ack := ((after_iff_gap ack first).mp hafter).1
      by_cases hin : before ack segment.endSequence = true
      · have hlt := hbefore.mp hin
        obtain ⟨hkept, hrange⟩ := @SentSegment.acknowledge_cut segment ack (by rwa [hstart]) hin
          (by rwa [hstart]) (by rwa [hstart])
        rw [hstart] at hrange
        have hpair : segment.acknowledge ack = ((segment.acknowledge ack).1, false) := Prod.ext rfl hkept
        rw [hpair]
        dsimp only
        rw [List.map_cons, hrange, List.map_cons]
        have hnext : ack + BitVec.ofNat 32 (segment.size - gap first ack) =
            first + BitVec.ofNat 32 segment.size := by
          have hsum : gap first ack + (segment.size - gap first ack) = segment.size := by omega
          calc
            ack + BitVec.ofNat 32 (segment.size - gap first ack)
              = first + BitVec.ofNat 32 (gap first ack) + BitVec.ofNat 32 (segment.size - gap first ack) := by
                rw [add_gap]
            _ = first + BitVec.ofNat 32 segment.size := by
                rw [BitVec.add_assoc, ← BitVec.ofNat_add, hsum]
        refine ⟨⟨rfl, by omega, ?_⟩, ?_⟩
        · rw [hnext]
          exact hrest
        · change segment.size - gap first ack + span (segments.map SentSegment.range) =
            segment.size + span (segments.map SentSegment.range) - gap first ack
          omega
      · have hge : segment.size ≤ gap first ack := Nat.le_of_not_lt fun hlt => hin (hbefore.mpr hlt)
        have hdone : segment.acknowledge ack = (segment, true) := by
          unfold SentSegment.acknowledge
          rw [hstart, hafter, Bool.eq_false_iff.mpr hin]
          simp
        have hgap' : gap (first + BitVec.ofNat 32 segment.size) ack = gap first ack - segment.size := by
          have hsplit := gap_split first segment.endSequence ack (by omega)
          rw [← hend, hsplit, hlength]
        rw [hdone]
        dsimp only
        obtain ⟨htiles, hspan'⟩ := ih hrest (by omega) (by omega)
        refine ⟨htiles, ?_⟩
        rw [hspan', hgap', List.map_cons]
        change _ = segment.size + span (segments.map SentSegment.range) - gap first ack
        omega
    · have hzero : gap first ack = 0 := by
        by_contra hne
        exact hafter ((after_iff_gap ack first).mpr ⟨by omega, by omega⟩)
      have heq : first = ack := (gap_eq_zero_iff first ack).mp hzero
      have hkept : segment.acknowledge ack = (segment, false) := by
        unfold SentSegment.acknowledge
        rw [hstart, Bool.eq_false_iff.mpr hafter]
        rfl
      rw [hkept]
      dsimp only
      subst heq
      rw [hzero]
      exact ⟨⟨hstart, hpos, hrest⟩, rfl⟩

/-- What the sequence numbers of a flow depend on. -/
structure Sending where
  state : State
  initial : Seq
  unacked : Seq
  next : Seq
  fin : Option Seq
  window : ℕ
  shift : ℕ
  segments : List (Seq × ℕ)

def FlowEntry.sending (e : FlowEntry) : Sending where
  state := e.flow.state
  initial := e.flow.localInitial
  unacked := e.flow.localUnacked
  next := e.flow.localNext
  fin := e.flow.localFinSequence
  window := e.flow.peerWindow
  shift := e.flow.peerWindowShift
  segments := e.sentSegments.map SentSegment.range

namespace Sending

/-- The flow is open and its upstream connection stands. -/
def Opened (x : Sending) : Prop := x.state ≠ .connecting ∧ x.state ≠ .closed

/-- Where a flow stands, with the planned frames that wait. -/
inductive Stage (x : Sending) : List SendPlan → Prop
  | connecting (hstate : x.state = .connecting) (hunacked : x.unacked = x.initial) (hnext : x.next = x.initial)
      (hfin : x.fin = none) (hsegments : x.segments = []) : Stage x []
  | opening (plan : SendPlan) (hopened : x.Opened) (hunacked : x.unacked = x.initial)
      (hnext : x.next = x.initial + 1) (hsegments : x.segments = []) (hsequence : plan.sequence = x.initial)
      (hlength : plan.length = 0) (hsyn : plan.syn = true) (hfin : plan.fin = false) : Stage x [plan]
  | idle (hopened : x.Opened) (htiles : Tiles x.unacked x.next x.segments) (hspan : span x.segments ≤ 2 ^ 30) :
      Stage x []
  | planned (plan : SendPlan) (hopened : x.Opened) (htiles : Tiles x.unacked x.next x.segments)
      (hsequence : plan.sequence = x.next) (hsyn : plan.syn = false) (hpos : 0 < plan.size)
      (hspan : span x.segments + plan.size ≤ 2 ^ 30) : Stage x [plan]
  | closed (hstate : x.state = .closed) : Stage x []

/-- The window is one a peer can open. -/
structure Bounded (x : Sending) : Prop where
  window : x.window ≤ widestWindow
  shift : x.shift ≤ maxPeerWindowShift

end Sending

/-- The acknowledgment, if there is one, covers nothing that was not sent: it is old, or within
the segments on record. -/
def FlowEntry.acksTransmitted (e : FlowEntry) (segment : TcpSegment) : Bool :=
  !segment.flags.ack ||
    decide (gap e.flow.localUnacked segment.acknowledgment ≤ span (e.sentSegments.map SentSegment.range) ∨
      2 ^ 31 < gap e.flow.localUnacked segment.acknowledgment)

/-- A FIN that arrives in order while the upstream connection is not there yet. -/
def FlowEntry.finsEarly (e : FlowEntry) (segment : TcpSegment) : Bool :=
  decide (e.flow.state = .connecting) &&
    match (e.received segment).2 with
    | .inOrder _ fin => fin
    | _ => false

/-- Nothing went wrong for the sequence numbers of the flow. What counts as wrong: an acknowledgment
beyond what is on record, a FIN in order while the upstream connection is not there yet, an activation
of a flow that is not connecting, a window clamp that fails, a discard that fails or takes another
count than asked, a timer that finds the closed flow with a retransmission or a probe due, a SYN-ACK
that gets no frame, a close that fails midway, and a planned frame that the TAP does not take. -/
def Notice.steady : Notice → Bool
  | .segment _ e s => e.acksTransmitted s && !e.finsEarly s
  | .activated _ e _ => decide (e.flow.state = .connecting)
  | .clamped _ (.error _) => false
  | .discarded _ asked (.ok count) => count = asked
  | .discarded _ _ (.error _) => false
  | .serviced _ e now => e.open? || !(e.retransmitDue now || e.probeDue now)
  | .synLost _ => false
  | .closeFailed _ => false
  | .tapFailed _ _ => false
  | _ => true

theorem AckFault.unsteady {id : FlowId} {fault : Notice} (h : AckFault id fault) : fault.steady = false := by
  cases h with
  | clamp error => rfl
  | discard asked result h =>
    cases result with
    | error error => rfl
    | ok count => exact decide_eq_false fun heq => h (congrArg Except.ok heq)

namespace FlowEntry

variable {e f : FlowEntry}

theorem sending_touched (h : Touched e f) : f.sending = e.sending := by
  obtain ⟨edge, acked, point, hflow⟩ := h.flow
  have hranges : f.sentSegments.map SentSegment.range = e.sentSegments.map SentSegment.range := by
    have hlayout := congrArg (List.map fun l : Seq × ℕ × Bool × Bool =>
      (l.1, l.2.1 + l.2.2.1.toNat + l.2.2.2.toNat)) h.segments
    rwa [List.map_map, List.map_map] at hlayout
  unfold sending
  rw [hranges, hflow]

theorem sending_submit {payload : Bytes} {answer : Except IoError ℕ} (h : e.submit payload answer = some f) :
    f.sending = e.sending := by
  unfold submit at h
  split at h
  · split at h
    · obtain ⟨queue, -, rfl⟩ := Option.map_eq_some_iff.mp h
      rfl
    · cases h
      rfl
  · obtain ⟨queue, -, rfl⟩ := Option.map_eq_some_iff.mp h
    rfl
  · cases h

theorem sending_finForwarded (e : FlowEntry) : e.finForwarded.sending = e.sending := by
  unfold finForwarded
  split <;> rfl

theorem sending_drained (h : Drained e f) : f.sending = e.sending := by
  cases h <;> rfl

theorem sending_delivered {id : FlowId} {payload : Bytes} {disposition : ReceiveDisposition}
    {notices : List Notice} (h : Delivered id payload disposition e notices f) : f.sending = e.sending := by
  cases h with
  | nothing h => rfl
  | payload answer hn hf => exact sending_submit hf
  | fin => exact sending_finForwarded e
  | payloadFin answer hn hf => exact (sending_finForwarded _).trans (sending_submit hf)

theorem sending_lost {id : FlowId} {payload : Bytes} {disposition : ReceiveDisposition}
    {notices : List Notice} (h : Lost id payload disposition e notices f) : f.sending = e.sending := by
  cases h with
  | send error hn he => rfl
  | refused answer hn hf =>
    rcases hf with rfl | ⟨count, rfl⟩
    · rfl
    · rfl
  | shutdown error hf => exact sending_delivered hf

end FlowEntry

namespace Flow

theorem ackState_connected {f : Flow} (acknowledgment : Option Seq) (h : f.state ≠ .connecting) :
    f.ackState acknowledgment ≠ .connecting := by
  unfold ackState finAckState
  cases acknowledgment with
  | none => exact h
  | some ack =>
    dsimp only
    cases f.localFinSequence with
    | none =>
      dsimp only
      split
      · simp
      · exact h
    | some finSequence =>
      dsimp only
      split
      · simp
      · split
        · simp
        · exact h

theorem ackState_connecting {f : Flow} (acknowledgment : Option Seq) (h : f.state = .connecting)
    (hfin : f.localFinSequence = none) : f.ackState acknowledgment = .connecting := by
  unfold ackState finAckState
  cases acknowledgment with
  | none => exact h
  | some ack =>
    rw [hfin]
    dsimp only
    rw [h]
    simp

theorem finState_open (f : Flow) : f.finState ≠ .connecting ∧ f.finState ≠ .closed := by
  unfold finState
  split
  · simp
  · split <;> simp

end Flow

namespace FlowEntry

variable {e : FlowEntry} {segment : TcpSegment}

def ackOf (segment : TcpSegment) : Option Seq := if segment.flags.ack then some segment.acknowledgment else none

theorem received_sending (hrst : segment.flags.rst = false) :
    (e.received segment).1.sending =
      { e.sending with
        state := (e.received segment).1.flow.state
        unacked := e.flow.ackedTo (ackOf segment)
        window := segment.window.toNat * 2 ^ e.flow.peerWindowShift % 2 ^ 32 } := by
  unfold received
  dsimp only
  rcases e.flow.receive_cases segment.sequence
    (if segment.flags.ack then some segment.acknowledgment else none) segment.window.toNat
    segment.payload.length segment.flags.fin segment.flags.rst with
    ⟨hr, -⟩ | ⟨-, d, -, -, h⟩ | ⟨-, -, -, -, h⟩
  · rw [hrst] at hr
    cases hr
  · rw [h]
    unfold sending
    dsimp only
    rw [Flow.receiveAck_eq]
    rfl
  · rw [h, Flow.receiveAck_eq]
    unfold sending
    dsimp only
    cases segment.flags.fin with
    | false => rfl
    | true =>
      rw [Flow.advance_fin]
      rfl

/-- The state afterwards is that of the acknowledgment part, unless a FIN arrived in order. -/
theorem received_state (hrst : segment.flags.rst = false) :
    (e.received segment).1.flow.state = e.flow.ackState (ackOf segment) ∨
      ((∃ n, (e.received segment).2 = .inOrder n true) ∧
        (e.received segment).1.flow.state ≠ .connecting ∧ (e.received segment).1.flow.state ≠ .closed) := by
  unfold received
  dsimp only
  rcases e.flow.receive_cases segment.sequence
    (if segment.flags.ack then some segment.acknowledgment else none) segment.window.toNat
    segment.payload.length segment.flags.fin segment.flags.rst with
    ⟨hr, -⟩ | ⟨-, d, -, -, h⟩ | ⟨-, -, -, -, h⟩
  · rw [hrst] at hr
    cases hr
  · rw [h, Flow.receiveAck_eq]
    exact .inl rfl
  · rw [h]
    cases segment.flags.fin with
    | false =>
      rw [Flow.receiveAck_eq]
      exact .inl rfl
    | true =>
      refine .inr ⟨⟨_, rfl⟩, ?_⟩
      rw [Flow.advance_fin]
      exact Flow.finState_open _

theorem ackedTo_cases (h : e.acksTransmitted segment = true) :
    e.flow.ackedTo (ackOf segment) = e.flow.localUnacked ∨
      gap e.flow.localUnacked (e.flow.ackedTo (ackOf segment)) ≤ span (e.sentSegments.map SentSegment.range) := by
  unfold acksTransmitted at h
  unfold ackOf
  cases hack : segment.flags.ack with
  | false => exact .inl rfl
  | true =>
    rw [hack] at h
    simp only [Bool.not_true, Bool.false_or, decide_eq_true_eq] at h
    rw [if_pos rfl]
    unfold Flow.ackedTo
    dsimp only
    split
    · rename_i hmoved
      rw [Bool.and_eq_true] at hmoved
      obtain ⟨-, hnear⟩ := (after_iff_gap _ _).mp hmoved.1
      exact .inr (h.resolve_right (by omega))
    · exact .inl rfl

theorem settled_sending (hrst : segment.flags.rst = false) :
    (e.settled segment).sending =
      { e.sending with
        state := (e.received segment).1.flow.state
        unacked := e.flow.ackedTo (ackOf segment)
        window := segment.window.toNat * 2 ^ e.flow.peerWindowShift % 2 ^ 32
        segments :=
          if e.flow.ackedTo (ackOf segment) = e.flow.localUnacked then e.sending.segments
          else (acknowledgeSegments (e.flow.ackedTo (ackOf segment)) e.sentSegments).map SentSegment.range } := by
  have hreceived := received_sending (e := e) hrst
  have hunacked : (e.received segment).1.flow.localUnacked = e.flow.ackedTo (ackOf segment) :=
    congrArg Sending.unacked hreceived
  have hwith : (e.settled segment).sending =
      { (e.received segment).1.sending with segments := (e.settled segment).sentSegments.map SentSegment.range } := rfl
  rw [hwith, hreceived]
  unfold settled
  dsimp only
  rw [hunacked]
  split <;> rfl

end FlowEntry

/-- A segment that acknowledges only what was sent leaves the flow at a stage. -/
theorem Sending.Stage.segment {e : FlowEntry} {segment : TcpSegment} {lane : List SendPlan}
    (h : e.sending.Stage lane) (hopen : e.open? = true) (hrst : segment.flags.rst = false)
    (hack : e.acksTransmitted segment = true) (hearly : e.finsEarly segment = false) :
    (e.settled segment).sending.Stage lane := by
  have hstate : e.flow.state ≠ .closed := by simpa [FlowEntry.open?] using hopen
  have hstill : e.sending.segments = [] → e.flow.ackedTo (FlowEntry.ackOf segment) = e.flow.localUnacked := by
    intro hsegments
    rcases FlowEntry.ackedTo_cases hack with heq | hle
    · exact heq
    · change e.sentSegments.map SentSegment.range = [] at hsegments
      rw [hsegments, span_nil] at hle
      exact ((gap_eq_zero_iff _ _).mp (by omega)).symm
  have hopened : e.sending.Opened →
      (e.received segment).1.flow.state ≠ .connecting ∧ (e.received segment).1.flow.state ≠ .closed := by
    rintro ⟨hconnected, -⟩
    rcases FlowEntry.received_state (e := e) hrst with heq | ⟨-, hstates⟩
    · rw [heq]
      exact ⟨Flow.ackState_connected _ hconnected, Flow.ackState_open _ hstate⟩
    · exact hstates
  -- the ranges that are left, in either case
  have hranges : Tiles e.sending.unacked e.sending.next e.sending.segments → span e.sending.segments ≤ 2 ^ 30 →
      Tiles (e.settled segment).sending.unacked e.sending.next (e.settled segment).sending.segments ∧
        span (e.settled segment).sending.segments ≤ span e.sending.segments := by
    intro htiles hspan
    rw [FlowEntry.settled_sending hrst]
    dsimp only
    split
    · rename_i heq
      rw [heq]
      exact ⟨htiles, Nat.le_refl _⟩
    · rename_i hmoved
      have hle := (FlowEntry.ackedTo_cases hack).resolve_left hmoved
      obtain ⟨htiles', hspan'⟩ := Tiles.acknowledged htiles hspan hle
      refine ⟨htiles', ?_⟩
      rw [hspan']
      exact Nat.sub_le _ _
  have hsending := FlowEntry.settled_sending (e := e) hrst
  cases h with
  | connecting hconnecting hunacked hnext hfin hsegments =>
    have hkept := hstill hsegments
    have hconnecting' : (e.received segment).1.flow.state = .connecting := by
      rcases FlowEntry.received_state (e := e) hrst with heq | ⟨⟨n, hn⟩, -⟩
      · rw [heq]
        exact Flow.ackState_connecting _ hconnecting hfin
      · have hdecide : decide (e.flow.state = .connecting) = true := decide_eq_true hconnecting
        unfold FlowEntry.finsEarly at hearly
        rw [hn, hdecide] at hearly
        cases hearly
    rw [hsending, hkept, if_pos rfl]
    exact .connecting hconnecting' hunacked hnext hfin hsegments
  | opening plan hopen' hunacked hnext hsegments hsequence hlength hsyn hfin =>
    have hkept := hstill hsegments
    have hopen'' := hopened hopen'
    rw [hsending, hkept, if_pos rfl]
    exact .opening plan hopen'' hunacked hnext hsegments hsequence hlength hsyn hfin
  | idle hopen' htiles hspan =>
    obtain ⟨htiles', hspan'⟩ := hranges htiles hspan
    refine .idle ?_ ?_ (hspan'.trans hspan)
    · rw [hsending]
      exact hopened hopen'
    · rw [hsending] at htiles' ⊢
      exact htiles'
  | planned plan hopen' htiles hsequence hsyn hpos hspan =>
    obtain ⟨htiles', hspan'⟩ := hranges htiles (by omega)
    refine .planned plan ?_ ?_ ?_ hsyn hpos (by omega)
    · rw [hsending]
      exact hopened hopen'
    · rw [hsending] at htiles' ⊢
      exact htiles'
    · rw [hsending]
      exact hsequence
  | closed hclosed => exact absurd hclosed hstate

theorem Strand.Spared.steady {id : FlowId} {a : Strand} (h : a.Spared id)
    (hsteady : ∀ n ∈ a.story, n.steady = true) : a.entry.open? = true := by
  rcases h with h | h | ⟨e, now, h, hclosed, hdue⟩
  · exact h
  · exact absurd (hsteady _ h) (by simp [Notice.steady])
  · have hquiet := hsteady _ h
    unfold Notice.steady at hquiet
    rcases hdue with hdue | hdue
    · simp [hclosed, hdue] at hquiet
    · simp [hclosed, hdue] at hquiet

namespace Sending.Stage

variable {e : FlowEntry} {lane : List SendPlan}

theorem sendable (h : e.sending.Stage []) (hstate : e.sendable = true) :
    e.sending.Opened ∧ Tiles e.flow.localUnacked e.flow.localNext (e.sentSegments.map SentSegment.range) ∧
      span (e.sentSegments.map SentSegment.range) ≤ 2 ^ 30 := by
  have hstates : e.flow.state = .established ∨ e.flow.state = .namespaceFinReceived := of_decide_eq_true hstate
  cases h with
  | connecting hconnecting =>
    rw [show e.flow.state = .connecting from hconnecting] at hstates
    simp at hstates
  | idle hopened htiles hspan => exact ⟨hopened, htiles, hspan⟩
  | closed hclosed =>
    rw [show e.flow.state = .closed from hclosed] at hstates
    simp at hstates

theorem within (h : e.sending.Stage []) (hstate : e.sendable = true) (hbounded : e.sending.Bounded) {length : ℕ}
    (hpos : 0 < length) (hwindow : length ≤ e.flow.availableNamespaceWindow) :
    span (e.sentSegments.map SentSegment.range) + length ≤ 2 ^ 30 := by
  obtain ⟨-, htiles, hspan⟩ := h.sendable hstate
  have hgap := htiles.gap_eq (by omega)
  have hwide : e.flow.peerWindow ≤ 2 ^ 30 := hbounded.window.trans (by decide)
  unfold Flow.availableNamespaceWindow Flow.unackedToNamespace at hwindow
  change length ≤ e.flow.peerWindow - gap e.flow.localUnacked e.flow.localNext at hwindow
  omega

theorem plan (h : e.sending.Stage []) (hstate : e.sendable = true) (hbounded : e.sending.Bounded)
    {plan : SendPlan} (hsequence : plan.sequence = e.flow.localNext) (hsyn : plan.syn = false)
    (hpos : 0 < plan.size) (hwindow : plan.size ≤ e.flow.availableNamespaceWindow) :
    e.sending.Stage [plan] := by
  obtain ⟨hopened, htiles, -⟩ := h.sendable hstate
  exact .planned plan hopened htiles hsequence hsyn hpos (h.within hstate hbounded hpos hwindow)

theorem advanced_next {plan : SendPlan} (hpos : 0 < plan.size) (hsyn : plan.syn = false) :
    (e.advanced plan).flow.localNext = e.flow.localNext + BitVec.ofNat 32 plan.size := by
  unfold SendPlan.size at hpos ⊢
  rw [hsyn, Bool.toNat_false, Nat.add_zero] at hpos ⊢
  unfold FlowEntry.advanced Flow.commitSend
  dsimp only
  cases hfin : plan.fin with
  | false =>
    rw [hfin, Bool.toNat_false] at hpos
    rw [if_pos (.inl (by omega))]
    simp
  | true =>
    rw [if_pos (.inr rfl)]
    dsimp only [if_true, Bool.toNat_true]
    rw [BitVec.ofNat_add, ← BitVec.add_assoc]
    rfl

theorem commitMatches {plan : SendPlan} {rest : List SendPlan} (h : e.sending.Stage (plan :: rest)) :
    e.commitMatches plan = true := by
  unfold FlowEntry.commitMatches
  have hexpected : FlowEntry.expectedLen plan = BitVec.ofNat 32 plan.size := rfl
  have hnonzero : ∀ n : ℕ, 0 < n → n ≤ 2 ^ 30 → BitVec.ofNat 32 n ≠ 0 := by
    intro n hpos hle heq
    have hnat := congrArg BitVec.toNat heq
    rw [BitVec.toNat_ofNat, Nat.mod_eq_of_lt (by omega)] at hnat
    change n = 0 at hnat
    omega
  rw [hexpected]
  cases h with
  | opening _ hopened hunacked hnext hsegments hsequence hlength hsyn hfin =>
    have hsize : plan.size = 1 := by
      unfold SendPlan.size
      rw [hlength, hsyn, hfin]
      rfl
    have hsame : (e.advanced plan).flow.localNext = e.flow.localInitial + 1 := by
      unfold FlowEntry.advanced
      rw [hlength, hfin, if_neg (by simp)]
      exact hnext
    rw [hsame, show plan.sequence = e.flow.localInitial from hsequence, hsize]
    refine decide_eq_true ⟨?_, hnonzero 1 (by omega) (by omega)⟩
    unfold distance
    rw [BitVec.add_comm, BitVec.add_sub_cancel]
    rfl
  | planned _ hopened htiles hsequence hsyn hpos hspan =>
    rw [advanced_next hpos hsyn, show plan.sequence = e.flow.localNext from hsequence]
    refine decide_eq_true ⟨?_, hnonzero _ hpos (by omega)⟩
    unfold distance
    rw [BitVec.add_comm, BitVec.add_sub_cancel]

theorem advanced_opened {plan : SendPlan} (h : e.sending.Opened) : (e.advanced plan).sending.Opened := by
  unfold FlowEntry.advanced
  split
  · unfold Flow.commitSend
    dsimp only
    split
    · unfold Opened FlowEntry.sending
      dsimp only
      split <;> simp
    · exact h
  · exact h

theorem commit {plan : SendPlan} {rest : List SendPlan} (h : e.sending.Stage (plan :: rest)) (now : Millis) :
    (e.committed plan now).sending.Stage rest := by
  have hopen : e.sending.Opened → (e.committed plan now).sending.Opened := fun ho => @advanced_opened e plan ho
  have hsegments' : (e.committed plan now).sending.segments = e.sending.segments ++ [(plan.sequence, plan.size)] := by
    unfold FlowEntry.committed FlowEntry.sending
    dsimp only
    rw [List.map_append]
    rfl
  have hunacked' : (e.committed plan now).sending.unacked = e.sending.unacked := by
    change (e.advanced plan).flow.localUnacked = e.flow.localUnacked
    unfold FlowEntry.advanced Flow.commitSend
    split
    · dsimp only
      split <;> rfl
    · rfl
  cases h with
  | opening _ hopened hunacked hnext hsegments hsequence hlength hsyn hfin =>
    have hsize : plan.size = 1 := by
      unfold SendPlan.size
      rw [hlength, hsyn, hfin]
      rfl
    have hnext' : (e.committed plan now).sending.next = e.sending.initial + 1 := by
      change (e.advanced plan).flow.localNext = _
      unfold FlowEntry.advanced
      rw [hlength, hfin, if_neg (by simp)]
      exact hnext
    refine .idle (hopen hopened) ?_ ?_
    · rw [hsegments', hunacked', hnext', hunacked, hsegments, hsequence, hsize]
      exact ⟨rfl, Nat.one_pos, rfl⟩
    · rw [hsegments', hsegments, hsize]
      change 1 ≤ 2 ^ 30
      omega
  | planned _ hopened htiles hsequence hsyn hpos hspan =>
    have hnext' : (e.committed plan now).sending.next = e.sending.next + BitVec.ofNat 32 plan.size :=
      advanced_next hpos hsyn
    refine .idle (hopen hopened) ?_ ?_
    · rw [hsegments', hunacked', hnext']
      exact htiles.append ⟨hsequence, hpos, rfl⟩
    · have hsum : span (e.sending.segments ++ [(plan.sequence, plan.size)]) = span e.sending.segments + plan.size := by
        unfold span
        rw [List.map_append, List.sum_append]
        rfl
      rw [hsegments', hsum]
      exact hspan

end Sending.Stage

structure Tiled (id : FlowId) (a : Strand) : Prop where
  stage : a.entry.sending.Stage a.lane
  bounded : a.entry.sending.Bounded
  matched : ∀ n ∈ a.story, n ≠ .commitFailed id

section Notices

variable {id : FlowId} {payload : Bytes} {disposition : ReceiveDisposition} {e f : FlowEntry} {notices : List Notice}

theorem FlowEntry.finNotices_matched (e : FlowEntry) (id : FlowId) : ∀ n ∈ e.finNotices id, n ≠ .commitFailed id := by
  unfold finNotices
  split <;> simp

theorem Delivered.matched (h : Delivered id payload disposition e notices f) : ∀ n ∈ notices, n ≠ .commitFailed id := by
  cases h with
  | nothing h => simp
  | payload answer hn hf => simp
  | fin => exact e.finNotices_matched id
  | payloadFin answer hn hf =>
    simp only [List.mem_append, List.mem_singleton]
    rintro n (h | rfl)
    · exact FlowEntry.finNotices_matched _ id n h
    · simp

theorem Lost.matched (h : Lost id payload disposition e notices f) : ∀ n ∈ notices, n ≠ .commitFailed id := by
  cases h with
  | send error hn he => simp
  | refused answer hn hf => simp
  | shutdown error hf =>
    simp only [List.mem_cons]
    rintro n (rfl | h)
    · simp
    · exact hf.matched n h

theorem segment_matched {acked clamps : ℕ} {segment : TcpSegment} {story : List Notice}
    (hnew : ∀ n ∈ notices, n ≠ .commitFailed id) (hold : ∀ n ∈ story, n ≠ .commitFailed id) :
    ∀ n ∈ notices ++ settleStory id acked clamps ++ .segment id e segment :: story, n ≠ .commitFailed id := by
  intro n hn
  simp only [settleStory, List.mem_append, List.mem_cons] at hn
  rcases hn with (hn | hn | hn) | rfl | hn
  · exact hnew n hn
  · split at hn
    · rw [List.mem_singleton] at hn
      simp [hn]
    · cases hn
  · simp [(List.mem_replicate.mp hn).2]
  · simp
  · exact hold n hn

end Notices

theorem Sending.Bounded.received {e : FlowEntry} {segment : TcpSegment} (h : e.sending.Bounded)
    (hrst : segment.flags.rst = false) : (e.settled segment).sending.Bounded := by
  rw [FlowEntry.settled_sending hrst]
  refine ⟨?_, h.shift⟩
  change segment.window.toNat * 2 ^ e.flow.peerWindowShift % 2 ^ 32 ≤ widestWindow
  have hwindow : segment.window.toNat ≤ u16Max := Nat.le_of_lt_succ segment.window.toNat_lt
  have hshift : 2 ^ e.flow.peerWindowShift ≤ 2 ^ maxPeerWindowShift := Nat.pow_le_pow_right (by omega) h.shift
  exact (Nat.mod_le _ _).trans (Nat.mul_le_mul hwindow hshift)

namespace Tiled

variable {cfg : Config} {id : FlowId} {a b : Strand}

theorem of_sending (h : Tiled id a) (hsending : b.entry.sending = a.entry.sending) (hlane : b.lane = a.lane)
    (hmatched : ∀ n ∈ b.story, n ≠ .commitFailed id) : Tiled id b :=
  ⟨by rw [hsending, hlane]; exact h.stage, by rw [hsending]; exact h.bounded, hmatched⟩

theorem matched_cons (h : Tiled id a) {n : Notice} (hn : n ≠ .commitFailed id) :
    ∀ m ∈ n :: a.story, m ≠ .commitFailed id := by
  intro m hm
  rcases List.mem_cons.mp hm with rfl | hm
  · exact hn
  · exact h.matched m hm

theorem born {key : FlowKey} {segment : TcpSegment} (h : Born cfg id a key segment) : Tiled id a := by
  obtain ⟨ni, li, mss, ps, ls, hflow, -, hshift⟩ := h.fresh.flow
  have hsending : a.entry.sending = ⟨.connecting, li, li, li, none, u16Max, ps, []⟩ := by
    unfold FlowEntry.sending
    rw [hflow, h.fresh.sentSegments]
    rfl
  refine ⟨?_, ?_, ?_⟩
  · rw [hsending, h.lane]
    exact .connecting rfl rfl rfl rfl rfl
  · rw [hsending]
    exact ⟨by change u16Max ≤ widestWindow; decide, hshift⟩
  · rw [h.story]
    simp

theorem closes (hbounded : a.entry.sending.Bounded) (hmatched : ∀ n ∈ a.story, n ≠ .commitFailed id)
    (h : Strand.Closes id a b) (hsteady : ∀ n ∈ b.story, n.steady = true) : Tiled id b := by
  cases h with
  | done =>
    refine ⟨.closed rfl, ⟨hbounded.window, hbounded.shift⟩, ?_⟩
    intro n hn
    rcases List.mem_cons.mp hn with rfl | hn
    · simp
    · exact hmatched n hn
  | stuck => exact absurd (hsteady _ List.mem_cons_self) (by simp [Notice.steady])
  | broken => exact absurd (hsteady _ List.mem_cons_self) (by simp [Notice.steady])

theorem turn (ha : Tiled id a) (h : Turn cfg id a b) (hsteady : ∀ n ∈ b.story, n.steady = true) : Tiled id b := by
  cases h with
  | idle => exact ha
  | synLost => exact absurd (hsteady _ List.mem_cons_self) (by simp [Notice.steady])
  | serviced now => exact ha.of_sending rfl rfl (ha.matched_cons (by simp))
  | timeWait h => exact ha.of_sending rfl rfl (ha.matched_cons (by simp))
  | touch f h => exact ha.of_sending (FlowEntry.sending_touched h) rfl ha.matched
  | replyConsumed count h => exact ha.of_sending rfl rfl ha.matched
  | built body hspared h => exact ha.of_sending rfl rfl (ha.matched_cons (by simp))
  | planData spec payload hlane hstate hne hwindow hpayload hsequence =>
    have hstage := ha.stage
    rw [hlane] at hstage
    have hsize : 0 < payload.length := List.length_pos_of_ne_nil hne
    refine ⟨?_, ha.bounded, ha.matched_cons (by simp)⟩
    exact hstage.plan hstate ha.bounded rfl rfl hsize hwindow
  | planFin hlane hstate hwindow hretained hqueued heof =>
    have hstage := ha.stage
    rw [hlane] at hstage
    exact ⟨hstage.plan hstate ha.bounded rfl rfl Nat.one_pos hwindow, ha.bounded, ha.matched⟩
  | commit plan rest now hlane hmatch =>
    have hstage := ha.stage
    rw [hlane] at hstage
    refine ⟨hstage.commit now, ?_, ha.matched⟩
    have hflow : (a.entry.advanced plan).flow.peerWindow = a.entry.flow.peerWindow ∧
        (a.entry.advanced plan).flow.peerWindowShift = a.entry.flow.peerWindowShift := by
      unfold FlowEntry.advanced Flow.commitSend
      dsimp only
      split
      · split <;> exact ⟨rfl, rfl⟩
      · exact ⟨rfl, rfl⟩
    exact ⟨hflow.1.trans_le ha.bounded.window, hflow.2.trans_le ha.bounded.shift⟩
  | commitMismatched plan rest hlane hmatch =>
    have hstage := ha.stage
    rw [hlane] at hstage
    exact absurd (hstage.commitMatches.symm.trans hmatch) (by simp)
  | drop plan rest hlane => exact absurd (hsteady _ List.mem_cons_self) (by simp [Notice.steady])
  | flush f hspared h hrest => exact ha.of_sending (FlowEntry.sending_drained h) rfl ha.matched
  | flushFin f hspared h hempty hshut =>
    have hsending : f.sending = a.entry.sending := FlowEntry.sending_drained h
    exact ha.of_sending hsending rfl (ha.matched_cons (by simp))
  | flushFinFailed f error hspared h =>
    exact ha.of_sending (FlowEntry.sending_drained h) rfl (ha.matched_cons (by simp))
  | handled f g segment clamps notices hspared hrst hf hg =>
    have hold : ∀ n ∈ a.story, n.steady = true := fun n hn =>
      hsteady n (List.mem_append_right _ (List.mem_cons_of_mem _ hn))
    have hown := hsteady (.segment id a.entry segment) (List.mem_append_right _ List.mem_cons_self)
    simp only [Notice.steady, Bool.and_eq_true, Bool.not_eq_true'] at hown
    have hsending : g.sending = (a.entry.settled segment).sending :=
      (FlowEntry.sending_delivered hg).trans (FlowEntry.sending_touched hf)
    refine ⟨?_, ?_, segment_matched hg.matched ha.matched⟩
    · change g.sending.Stage a.lane
      rw [hsending]
      exact ha.stage.segment (hspared.steady hold) hrst hown.1 hown.2
    · change g.sending.Bounded
      rw [hsending]
      exact ha.bounded.received hrst
  | lost f g segment clamps notices hspared hrst hf hg =>
    have hold : ∀ n ∈ a.story, n.steady = true := fun n hn =>
      hsteady n (List.mem_append_right _ (List.mem_cons_of_mem _ hn))
    have hown := hsteady (.segment id a.entry segment) (List.mem_append_right _ List.mem_cons_self)
    simp only [Notice.steady, Bool.and_eq_true, Bool.not_eq_true'] at hown
    have hsending : g.sending = (a.entry.settled segment).sending :=
      (FlowEntry.sending_lost hg).trans (FlowEntry.sending_touched hf)
    refine ⟨?_, ?_, segment_matched hg.matched ha.matched⟩
    · change g.sending.Stage a.lane
      rw [hsending]
      exact ha.stage.segment (hspared.steady hold) hrst hown.1 hown.2
    · change g.sending.Bounded
      rw [hsending]
      exact ha.bounded.received hrst
  | ackAborted f segment clamps count fault hspared hrst hf hfault =>
    exact absurd (hsteady fault List.mem_cons_self) (by simp [hfault.unsteady])
  | reset segment b hspared hrst h =>
    obtain ⟨-, hentry⟩ := FlowEntry.received_reset (e := a.entry) hrst
    refine closes ?_ (ha.matched_cons (by simp)) h hsteady
    rw [hentry]
    exact ⟨ha.bounded.window, ha.bounded.shift⟩
  | close b hspared h => exact closes ha.bounded ha.matched h hsteady
  | activate bytesAcked busy body hspared hbusy hhandshake hbody =>
    have hown := hsteady (.activated id a.entry busy) (List.mem_cons_of_mem _ List.mem_cons_self)
    have hconnecting : a.entry.flow.state = .connecting := of_decide_eq_true hown
    have hstage : a.entry.flow.localUnacked = a.entry.flow.localInitial ∧ a.entry.sending.segments = [] ∧
        a.lane = [] := by
      have hstage := ha.stage
      generalize a.lane = lane at hstage
      cases hstage with
      | connecting _ hunacked _ _ hsegments => exact ⟨hunacked, hsegments, rfl⟩
      | opening _ hopened => exact absurd hconnecting hopened.1
      | idle hopened => exact absurd hconnecting hopened.1
      | planned _ hopened => exact absurd hconnecting hopened.1
      | closed hclosed =>
        rw [show a.entry.flow.state = .closed from hclosed] at hconnecting
        cases hconnecting
    obtain ⟨hunacked, hsegments, hlane⟩ := hstage
    refine ⟨?_, ⟨ha.bounded.window, ha.bounded.shift⟩, ?_⟩
    · rw [hlane]
      exact .opening _
        ⟨by simp [FlowEntry.sending, Flow.socketConnected], by simp [FlowEntry.sending, Flow.socketConnected]⟩
        hunacked rfl hsegments rfl rfl rfl rfl
    · intro n hn
      simp only [List.mem_cons] at hn
      rcases hn with rfl | rfl | hn
      · simp
      · simp
      · exact ha.matched n hn
  | activateLost bytesAcked busy hspared hbusy hhandshake =>
    exact absurd (hsteady _ List.mem_cons_self) (by simp [Notice.steady])

end Tiled

theorem Lived.tiled {cfg : Config} {id : FlowId} {a : Strand} (h : Lived cfg id a)
    (hsteady : ∀ n ∈ a.story, n.steady = true) : Tiled id a := by
  induction h with
  | born h => exact Tiled.born h
  | turn ha hturn ih =>
    obtain ⟨notices, hstory⟩ := hturn.story
    exact (ih fun n hn => hsteady n (hstory ▸ List.mem_append_right _ hn)).turn hturn hsteady

/-- The SYN of a SYN-ACK among the planned frames. -/
def waitingSyn (lane : List SendPlan) : List (Seq × ℕ) :=
  (lane.filter SendPlan.syn).map fun plan => (plan.sequence, plan.size)

/-- What waits and what was sent is exactly what is unacknowledged. -/
structure Covered (e : FlowEntry) (lane : List SendPlan) : Prop where
  single : lane.length ≤ 1
  tiles : Tiles e.flow.localUnacked e.flow.localNext (waitingSyn lane ++ e.sentSegments.map SentSegment.range)
  span_le : span (waitingSyn lane ++ e.sentSegments.map SentSegment.range) ≤ 2 ^ 30
  planned : ∀ plan ∈ lane, plan.syn = false → plan.sequence = e.flow.localNext

theorem Sending.Stage.covered {e : FlowEntry} {lane : List SendPlan} (h : e.sending.Stage lane)
    (hopen : e.open? = true) : Covered e lane := by
  have hstate : e.flow.state ≠ .closed := by simpa [FlowEntry.open?] using hopen
  cases h with
  | connecting hstate hunacked hnext hfin hsegments =>
    have hempty : e.sentSegments.map SentSegment.range = [] := hsegments
    refine ⟨Nat.zero_le _, ?_, ?_, by simp⟩
    · rw [hempty]
      exact hunacked.trans hnext.symm
    · rw [hempty]
      exact Nat.zero_le _
  | opening plan hopened hunacked hnext hsegments hsequence hlength hsyn hfin =>
    have hempty : e.sentSegments.map SentSegment.range = [] := hsegments
    have hsize : plan.size = 1 := by
      unfold SendPlan.size
      rw [hlength, hsyn, hfin]
      rfl
    have hwaits : waitingSyn [plan] = [(e.flow.localInitial, 1)] := by
      have hrange : (plan.sequence, plan.size) = (e.flow.localInitial, 1) := Prod.ext hsequence hsize
      unfold waitingSyn
      rw [List.filter_cons, if_pos hsyn]
      simp [hrange]
    refine ⟨Nat.le_refl _, ?_, ?_, ?_⟩
    · rw [hwaits, hempty, show e.flow.localUnacked = e.flow.localInitial from hunacked,
        show e.flow.localNext = e.flow.localInitial + 1 from hnext]
      exact ⟨rfl, Nat.one_pos, rfl⟩
    · rw [hwaits, hempty]
      change 1 ≤ 2 ^ 30
      omega
    · intro other ho hother
      rw [List.mem_singleton] at ho
      rw [ho, hsyn] at hother
      cases hother
  | idle hopened htiles hspan => exact ⟨Nat.zero_le _, htiles, hspan, by simp⟩
  | planned plan hopened htiles hsequence hsyn hpos hspan =>
    have hwaits : waitingSyn [plan] = [] := by
      unfold waitingSyn
      rw [List.filter_cons, hsyn]
      rfl
    refine ⟨Nat.le_refl _, ?_, ?_, ?_⟩
    · rw [hwaits]
      exact htiles
    · rw [hwaits]
      exact Nat.le_trans (Nat.le_add_right _ _) hspan
    · intro other ho _
      rw [List.mem_singleton] at ho
      rw [ho]
      exact hsequence
  | closed hclosed => exact absurd hclosed hstate

namespace Reactor

/-- A run that is steady for a flow leaves nothing that excuses a frame of a closed one. -/
theorem not_excused_of_steady {journal : List Notice} {id : FlowId}
    (hsteady : ∀ n ∈ journal, n.about = some id → n.steady = true) : ¬ Excused journal id := by
  rintro (hfailed | ⟨e, now, hserviced, hclosed, hdue⟩)
  · exact absurd (hsteady _ hfailed rfl) (by simp [Notice.steady])
  · have hlate : (e.retransmitDue now || e.probeDue now) = true := Bool.or_eq_true_iff.mpr hdue
    have hvisit : (e.open? || !(e.retransmitDue now || e.probeDue now)) = true := hsteady _ hserviced rfl
    rw [hclosed, hlate] at hvisit
    cases hvisit

/-- In every run that is steady for a flow the write of a planned frame never finds the sequence
numbers moved, not even in a handler that fails; and between two handlers at most one planned frame
of the open flow waits, and with the segments on record it covers exactly what is unacknowledged. -/
theorem segments_cover (cfg : Config) (id : FlowId) :
    (∀ s, Visited cfg s → (∀ n ∈ s.journal, n.about = some id → n.steady = true) →
      Notice.commitFailed id ∉ s.journal) ∧
    ∀ s e, Reachable cfg s → s.flows.get id = some e → e.open? = true →
      (∀ n ∈ s.journal, n.about = some id → n.steady = true) → Covered e (lane id s.tapQueue) := by
  have hstory : ∀ {journal : List Notice}, (∀ n ∈ journal, n.about = some id → n.steady = true) →
      ∀ n ∈ story id journal, n.steady = true := fun hsteady n hn => by
    obtain ⟨hmem, habout⟩ := mem_story.mp hn
    exact hsteady n hmem habout
  refine ⟨fun s hs hsteady hfailed => ?_, fun s e hs hget hopen hsteady => ?_⟩
  · obtain ⟨ghosts, tail, htold, hghosts, htail⟩ := hs.told id
    have hmem : Notice.commitFailed id ∈ ghosts ++ tail := htold ▸ mem_story.mpr ⟨hfailed, rfl⟩
    rcases List.mem_append.mp hmem with hghost | hlived
    · cases hghosts _ hghost with
      | commitFailed hexcused => exact not_excused_of_steady hsteady hexcused
    · rcases htail with rfl | ⟨a, ha, rfl⟩
      · cases hlived
      · have hsteady' : ∀ n ∈ a.story, n.steady = true := fun n hn =>
          hstory hsteady n (htold ▸ List.mem_append_right _ hn)
        exact (ha.tiled hsteady').matched _ hlived rfl
  · exact ((hs.lived hget).tiled (hstory hsteady)).stage.covered hopen

def acknowledging (acknowledgment : Seq) : TapFrame :=
  .tcpV4 0xc0000202#32 0x08080808#32
    { sourcePort := 40000, destinationPort := 80, sequence := 8, acknowledgment := acknowledgment,
      flags := { ack := true }, window := 1000 }

def delivering (bytes : Bytes) : Kernel :=
  { Kernel.quiet with peek := Stream'.cons (.ok { arrived := bytes }) Kernel.quiet.peek }

/-- Three bytes are sent and one of them is acknowledged; the TAP blocks when two more arrive. -/
def partlyAcknowledged : List (Event × Kernel) :=
  [(.tap readable, Kernel.quiet.reads (segmentTo { syn := true } 7)),
    (.tap readable, Kernel.quiet.reads (acknowledging 1)),
    (.socket ⟨0, 1⟩ readable, delivering [1, 2, 3]),
    (.tap readable, Kernel.quiet.reads (acknowledging 2)),
    (.socket ⟨0, 1⟩ readable, { delivering [4, 5] with tapWrite := Stream'.const (.error .wouldBlock) })]

theorem segments_cover_blocked :
    ∃ s e, Reachable (.sample (.direct false)) s ∧ s.flows.get ⟨0, 1⟩ = some e ∧
      e.sentSegments.map SentSegment.range = [(2, 2)] ∧
      (lane ⟨0, 1⟩ s.tapQueue).map SendPlan.sequence = [4] ∧ Covered e (lane ⟨0, 1⟩ s.tapQueue) := by
  have hrun : (replay (.sample (.direct false)) partlyAcknowledged
      (Reactor.new (.sample (.direct false)) .quiet {} 0 0)).map (fun s =>
        ((s.flows.get ⟨0, 1⟩).map fun e => (e.sentSegments.map SentSegment.range, e.open?),
          noticesPass Notice.steady ⟨0, 1⟩ s, (lane ⟨0, 1⟩ s.tapQueue).map SendPlan.sequence)) =
      some (some ([(2, 2)], true), true, [4]) := by decide +kernel
  obtain ⟨s, hs, hfields⟩ := Option.map_eq_some_iff.mp hrun
  simp only [Prod.mk.injEq] at hfields
  obtain ⟨hentry, hsteady, hlane⟩ := hfields
  obtain ⟨e, hget, hvalues⟩ := Option.map_eq_some_iff.mp hentry
  obtain ⟨hsegments, hopen⟩ := Prod.mk.inj hvalues
  have hreachable := reachable_of_replay _ partlyAcknowledged (.start .quiet {} 0 0) hs
  exact ⟨s, e, hreachable, hget, hsegments, hlane,
    (segments_cover _ _).2 s e hreachable hget hopen (of_noticesPass hsteady)⟩

end Reactor

end Yayatht
