import Yayatht.OutstandingSegments

set_option autoImplicit false

/-!
# The bytes of a flow on their way to the namespace

The head of the upstream socket is the first byte the namespace has not acknowledged,
and a frame carries the stretch of the stream that its sequence number stands for: a
first transmission, a repetition and a probe of a closed window alike.
-/
namespace Yayatht
open Sequence SerialArithmetic

/-- What the bytes towards the namespace depend on. -/
structure Inbound where
  state : State
  initial : Seq
  unacked : Seq
  next : Seq
  fin : Option Seq
  segments : List SentSegment
  stream : Bytes
  consumed : ℕ
  eof : Bool
  waiting : Bool
  last : Option UInt8
  ended : Bool

def FlowEntry.inbound (e : FlowEntry) : Inbound where
  state := e.flow.state
  initial := e.flow.localInitial
  unacked := e.flow.localUnacked
  next := e.flow.localNext
  fin := e.flow.localFinSequence
  segments := e.sentSegments
  stream := e.socket.stream
  consumed := e.socket.consumed
  eof := e.socket.eof
  waiting := e.handshake.isSome
  last := e.lastNamespaceByte
  ended := e.flow.socketFin

/-- The position after the planned payload that waits, if there is any. -/
inductive Reaches (next : Seq) (p : ℕ) : List SendPlan → ℕ → Prop
  | idle : Reaches next p [] p
  | planned (plan : SendPlan) (hsequence : plan.sequence = next) (hsyn : plan.syn = false) (hfin : plan.fin = false)
      (hlength : 0 < plan.length) : Reaches next p [plan] (p + plan.length)

namespace Inbound

/-- All payload is acknowledged; the FIN, behind number `n`, waits or is out. -/
inductive Ending (start : ℕ) (x : Inbound) : List SendPlan → Prop
  | waits (p : ℕ) (plan : SendPlan) (hfin : x.fin = none) (hunacked : x.unacked = x.initial + BitVec.ofNat 32 p)
      (hsegments : Outstanding x.initial p x.segments) (hall : p + SentSegment.total x.segments = max p 1)
      (hnext : x.next = x.initial + BitVec.ofNat 32 (max p 1)) (hlength : plan.length = 0) (hplan : plan.fin = true)
      (hread : 1 < max p 1 → start + (max p 1 - 1) ≤ x.stream.length) : Ending start x [plan]
  | sent (p n : ℕ) (hfin : x.fin = some (x.initial + BitVec.ofNat 32 n)) (hended : x.ended = true)
      (hstate : x.state ≠ .synReceived ∧ x.state ≠ .established ∧ x.state ≠ .namespaceFinReceived)
      (hunacked : x.unacked = x.initial + BitVec.ofNat 32 p) (hp : n = max p 1 ∨ p = n + 1)
      (hnext : x.next = x.initial + BitVec.ofNat 32 (n + 1)) (hsegments : payloadTotal x.segments = 0)
      (hread : 1 < n → start + (n - 1) ≤ x.stream.length) : Ending start x []

/-- Where the payload of a flow stands: its first byte is number `start` of the socket's stream. -/
inductive Aligned (start : ℕ) (x : Inbound) : List SendPlan → Prop
  | connecting (hstate : x.state = .connecting) (hlast : x.last = none) : Aligned start x []
  | opening (plan : SendPlan) (hstate : x.state ≠ .connecting) (hwaiting : x.waiting = false) (hfin : x.fin = none)
      (hlast : x.last = none) (hconsumed : x.consumed = start) (hunacked : x.unacked = x.initial)
      (hsegments : x.segments = []) (hnext : x.next = x.initial + 1) (hsequence : plan.sequence = x.initial)
      (hlength : plan.length = 0) (hsyn : plan.syn = true) (hplan : plan.fin = false) : Aligned start x [plan]
  | flowing (p r : ℕ) (lane : List SendPlan) (hstate : x.state ≠ .connecting) (hwaiting : x.waiting = false)
      (hfin : x.fin = none) (hunacked : x.unacked = x.initial + BitVec.ofNat 32 p)
      (hconsumed : x.consumed = start + (p - 1)) (hsegments : Outstanding x.initial p x.segments)
      (hpos : 1 ≤ p + SentSegment.total x.segments)
      (hnext : x.next = x.initial + BitVec.ofNat 32 (p + SentSegment.total x.segments))
      (hlane : Reaches x.next (p + SentSegment.total x.segments) lane r)
      (hread : 1 < r → start + (r - 1) ≤ x.stream.length)
      (hlast : x.last = if r = 1 then none else x.stream[start + (r - 2)]?) : Aligned start x lane
  | finishing (lane : List SendPlan) (hstate : x.state ≠ .connecting) (hwaiting : x.waiting = false)
      (heof : x.eof = true) (hempty : x.stream.length ≤ x.consumed) (hending : x.Ending start lane) :
      Aligned start x lane
  | closed (lane : List SendPlan) (hstate : x.state = .closed) : Aligned start x lane

end Inbound

namespace FlowEntry

variable {e f : FlowEntry}

theorem inbound_submit {payload : Bytes} {answer : Except IoError ℕ} (h : e.submit payload answer = some f) :
    f.inbound = e.inbound := by
  unfold submit at h
  split at h
  · split at h
    · obtain ⟨queue, -, rfl⟩ := Option.map_eq_some_iff.mp h
      rfl
    · cases h
      rfl
  · obtain ⟨queue, -, rfl⟩ := Option.map_eq_some_iff.mp h
    rfl
  · cases h

theorem inbound_finForwarded (e : FlowEntry) : e.finForwarded.inbound = e.inbound := by
  unfold finForwarded
  split <;> rfl

theorem inbound_drained (h : Drained e f) : f.inbound = e.inbound := by
  cases h <;> rfl

theorem inbound_delivered {id : FlowId} {payload : Bytes} {disposition : ReceiveDisposition}
    {N : List Notice} (h : Delivered id payload disposition e N f) : f.inbound = e.inbound := by
  cases h with
  | nothing h => rfl
  | payload answer hn hf => exact inbound_submit hf
  | fin => exact inbound_finForwarded e
  | payloadFin answer hn hf => exact (inbound_finForwarded _).trans (inbound_submit hf)

theorem inbound_lost {id : FlowId} {payload : Bytes} {disposition : ReceiveDisposition}
    {N : List Notice} (h : Lost id payload disposition e N f) : f.inbound = e.inbound := by
  cases h with
  | send error hn he => rfl
  | refused answer hn hf =>
    rcases hf with rfl | ⟨count, rfl⟩
    · rfl
    · rfl
  | shutdown error hf => exact inbound_delivered hf

end FlowEntry

theorem payloadTotal_of_layout {segments others : List SentSegment}
    (hlayout : others.map SentSegment.layout = segments.map SentSegment.layout) :
    payloadTotal others = payloadTotal segments := by
  have hlengths := congrArg (List.map fun l : Seq × ℕ × Bool × Bool => l.2.1) hlayout
  rw [List.map_map, List.map_map] at hlengths
  exact congrArg List.sum hlengths

theorem Inbound.Ending.of_layout {start : ℕ} {lane : List SendPlan} {x y : Inbound} {segments : List SentSegment}
    {more : Bytes} {eof waiting : Bool} (h : x.Ending start lane)
    (hlayout : segments.map SentSegment.layout = x.segments.map SentSegment.layout)
    (hy : y = { x with segments := segments, stream := x.stream ++ more, eof := eof, waiting := waiting }) :
    y.Ending start lane := by
  have hgrown : x.stream.length ≤ (x.stream ++ more).length := by
    rw [List.length_append]
    omega
  subst hy
  cases h with
  | waits p plan hfin hunacked hsegments hall hnext hlength hplan hread =>
    refine .waits p plan hfin hunacked (hsegments.of_layout hlayout) ?_ hnext hlength hplan
      fun hp => (hread hp).trans hgrown
    dsimp only
    rw [Outstanding.total_of_layout hlayout]
    exact hall
  | sent p n hfin hended hstate hunacked hp hnext hsegments hread =>
    refine .sent p n hfin hended hstate hunacked hp hnext ?_ fun hn => (hread hn).trans hgrown
    exact (payloadTotal_of_layout hlayout).trans hsegments

namespace Inbound.Aligned

variable {start : ℕ} {lane : List SendPlan} {e f : FlowEntry}

theorem touched (h : e.inbound.Aligned start lane) (ht : Touched e f) : f.inbound.Aligned start lane := by
  obtain ⟨edge, acked, point, hflow⟩ := ht.flow
  obtain ⟨more, hstream, heofs⟩ := ht.stream
  have hwaits : e.inbound.waiting = false → f.inbound.waiting = false := fun hw => by
    have hnone : e.handshake = none := Option.not_isSome_iff_eq_none.mp (Bool.eq_false_iff.mp hw)
    change f.handshake.isSome = false
    rw [ht.handshake hnone]
    rfl
  have hinbound : f.inbound =
      { e.inbound with
        segments := f.sentSegments, stream := e.socket.stream ++ more, eof := f.socket.eof
        waiting := f.handshake.isSome } := by
    unfold FlowEntry.inbound
    rw [hflow, hstream, ht.consumed, ht.lastByte]
  cases h with
  | connecting hstate hlast =>
    rw [hinbound]
    exact .connecting hstate hlast
  | opening plan hstate hwaiting hfin hlast hconsumed hunacked hsegments hnext hsequence hlength hsyn hplan =>
    have hnone : f.sentSegments = [] := by
      have hlayout := ht.segments
      rw [show e.sentSegments = [] from hsegments] at hlayout
      exact List.map_eq_nil_iff.mp hlayout
    have hw := hwaits hwaiting
    rw [hinbound] at hw ⊢
    exact .opening plan hstate hw hfin hlast hconsumed hunacked hnone hnext hsequence hlength hsyn hplan
  | flowing p r lane hstate hwaiting hfin hunacked hconsumed hsegments hpos hnext hlane hread hlast =>
    have htotal : SentSegment.total f.sentSegments = SentSegment.total e.inbound.segments :=
      Outstanding.total_of_layout ht.segments
    have hw := hwaits hwaiting
    rw [hinbound] at hw ⊢
    have hgrown : e.socket.stream.length ≤ (e.socket.stream ++ more).length := by
      rw [List.length_append]
      omega
    refine .flowing p r lane hstate hw hfin hunacked hconsumed (hsegments.of_layout ht.segments) ?_ ?_ ?_ ?_ ?_
    · rw [htotal]
      exact hpos
    · rw [htotal]
      exact hnext
    · rw [htotal]
      exact hlane
    · intro hr
      exact (hread hr).trans hgrown
    · change e.inbound.last = if r = 1 then none else (e.socket.stream ++ more)[start + (r - 2)]?
      rw [hlast]
      split
      · rfl
      · rename_i hr
        have hone : 1 ≤ r := by
          cases hlane with
          | idle => exact hpos
          | planned plan _ _ _ hlength => omega
        have hlong := hread (by omega)
        change start + (r - 1) ≤ e.socket.stream.length at hlong
        rw [List.getElem?_append_left (by omega)]
        rfl
  | finishing lane hstate hwaiting heof hempty hending =>
    obtain ⟨hmore, heof'⟩ := heofs heof
    have hw := hwaits hwaiting
    have hending' : f.inbound.Ending start lane := hending.of_layout ht.segments hinbound
    rw [hinbound] at hw hending' ⊢
    refine .finishing lane hstate hw heof' ?_ hending'
    change (e.socket.stream ++ more).length ≤ e.socket.consumed
    rw [hmore, List.append_nil]
    exact hempty
  | closed lane hstate =>
    rw [hinbound]
    exact .closed lane hstate

/-- A state in which only the position of the first unacknowledged number is known to be small. -/
theorem reach_small {p r n : ℕ} {next : Seq} {x : Inbound} (hlane : Reaches next n lane r)
    (hread : 1 < r → start + (r - 1) ≤ x.stream.length) (hshort : x.stream.length < 2 ^ 31 - 1)
    (hp : p ≤ n) : p < 2 ^ 31 ∧ n < 2 ^ 31 := by
  have hle : n ≤ r := by
    cases hlane with
    | idle => exact Nat.le_refl _
    | planned plan _ _ _ _ => exact Nat.le_add_right _ _
  rcases Nat.lt_or_ge 1 r with hr | hr
  · have hlong := hread hr
    omega
  · omega

end Inbound.Aligned

theorem Flow.newlyAckedPayload_near {f : Flow} {p q n : ℕ} (hfin : f.localFinSequence = none)
    (hnext : f.localNext = f.localInitial + BitVec.ofNat 32 n)
    (hunacked : f.localUnacked = f.localInitial + BitVec.ofNat 32 q) (hpq : p < q) (hqn : q ≤ n)
    (hn : n < 2 ^ 31) : f.newlyAckedPayload (f.localInitial + BitVec.ofNat 32 p) = q - max p 1 := by
  have hone : f.localInitial + 1 = f.localInitial + BitVec.ofNat 32 1 := rfl
  have hstop : after f.localUnacked (f.localFinSequence.getD f.localNext) = false := by
    rw [hfin, Option.getD_none, hunacked, hnext, Bool.eq_false_iff]
    intro h
    have hlt := (after_position f.localInitial hn (by omega)).mp h
    omega
  have hbefore : before (f.localInitial + BitVec.ofNat 32 p) (f.localInitial + 1) = decide (p = 0) := by
    rw [hone, Bool.eq_iff_iff, decide_eq_true_eq]
    exact (after_position f.localInitial (x := p) (y := 1) (by omega) (by omega)).trans (by omega)
  unfold newlyAckedPayload
  dsimp only
  rw [hstop, hbefore]
  have hfrom : (if decide (p = 0) = true then f.localInitial + 1 else f.localInitial + BitVec.ofNat 32 p) =
      f.localInitial + BitVec.ofNat 32 (max p 1) := by
    rcases Nat.eq_zero_or_pos p with rfl | hpos
    · rfl
    · rw [if_neg (by simp; omega), Nat.max_eq_left hpos]
  rw [hfrom]
  simp only [Bool.false_eq_true, if_false]
  rw [hunacked]
  have hdistance : (distance (f.localInitial + BitVec.ofNat 32 (max p 1)) (f.localInitial + BitVec.ofNat 32 q)).toNat =
      q - max p 1 := by
    rw [distance_toNat, gap_positions _ (by omega), Nat.mod_eq_of_lt (by omega)]
  rw [hdistance]
  by_cases hlt : max p 1 < q
  · rw [if_pos ((after_position _ (by omega) (by omega)).mpr hlt)]
  · rw [if_neg fun h => hlt ((after_position _ (by omega) (by omega)).mp h)]
    omega

namespace FlowEntry

variable {e : FlowEntry} {segment : TcpSegment}

theorem received_socketFin (hrst : segment.flags.rst = false) :
    (e.received segment).1.flow.socketFin = e.flow.socketFin := by
  unfold received
  dsimp only
  rcases e.flow.receive_cases segment.sequence
    (if segment.flags.ack then some segment.acknowledgment else none) segment.window.toNat
    segment.payload.length segment.flags.fin segment.flags.rst with
    ⟨hr, -⟩ | ⟨-, d, -, -, h⟩ | ⟨-, -, -, -, h⟩
  · rw [hrst] at hr
    cases hr
  · rw [h, Flow.receiveAck_eq]
  · rw [h, Flow.receiveAck_eq]
    cases segment.flags.fin with
    | false => rfl
    | true => rw [Flow.advance_fin]

/-- No segment takes a flow back to a state before its FIN. -/
theorem received_ended (hrst : segment.flags.rst = false) (hended : e.flow.socketFin = true)
    (hstate : e.flow.state ≠ .synReceived ∧ e.flow.state ≠ .established ∧ e.flow.state ≠ .namespaceFinReceived) :
    (e.received segment).1.flow.state ≠ .synReceived ∧ (e.received segment).1.flow.state ≠ .established ∧
      (e.received segment).1.flow.state ≠ .namespaceFinReceived := by
  have hack : ∀ ack, e.flow.ackState ack ≠ .synReceived ∧ e.flow.ackState ack ≠ .established ∧
      e.flow.ackState ack ≠ .namespaceFinReceived := by
    intro ack
    have hfin : ∀ ack, e.flow.finAckState ack = .timeWait ∨ e.flow.finAckState ack = e.flow.state := by
      intro ack
      unfold Flow.finAckState
      split
      · split
        · exact .inl rfl
        · exact .inr rfl
      · exact .inr rfl
    unfold Flow.ackState
    cases ack with
    | none => exact hstate
    | some ack =>
      dsimp only
      rcases hfin ack with h | h
      · rw [h]
        simp
      · rw [h, if_neg fun hsyn => hstate.1 hsyn.1]
        exact hstate
  unfold received
  dsimp only
  rcases e.flow.receive_cases segment.sequence
    (if segment.flags.ack then some segment.acknowledgment else none) segment.window.toNat
    segment.payload.length segment.flags.fin segment.flags.rst with
    ⟨hr, -⟩ | ⟨-, d, -, -, h⟩ | ⟨-, -, -, -, h⟩
  · rw [hrst] at hr
    cases hr
  · rw [h, Flow.receiveAck_eq]
    exact hack _
  · rw [h, Flow.receiveAck_eq]
    cases segment.flags.fin with
    | false => exact hack _
    | true =>
      rw [Flow.advance_fin]
      dsimp only
      unfold Flow.finState
      dsimp only
      rw [hended]
      simp only [Bool.true_and, if_true]
      generalize (e.flow.ackedTo _ == e.flow.localNext) = reached
      cases reached <;> simp

theorem settled_inbound (hrst : segment.flags.rst = false) :
    (e.settled segment).inbound =
      { e.inbound with
        state := (e.received segment).1.flow.state
        unacked := e.flow.ackedTo (ackOf segment)
        consumed := e.socket.consumed + e.ackedBy segment
        segments :=
          if e.flow.ackedTo (ackOf segment) = e.flow.localUnacked then e.sentSegments
          else acknowledgeSegments (e.flow.ackedTo (ackOf segment)) e.sentSegments } := by
  have hreceived := received_sending (e := e) hrst
  have hunacked : (e.received segment).1.flow.localUnacked = e.flow.ackedTo (ackOf segment) :=
    congrArg Sending.unacked hreceived
  have hinitial : (e.received segment).1.flow.localInitial = e.flow.localInitial :=
    congrArg Sending.initial hreceived
  have hnext : (e.received segment).1.flow.localNext = e.flow.localNext := congrArg Sending.next hreceived
  have hfin : (e.received segment).1.flow.localFinSequence = e.flow.localFinSequence :=
    congrArg Sending.fin hreceived
  unfold settled inbound
  dsimp only
  rw [hunacked, hinitial, hnext, hfin, received_socketFin hrst]

/-- Acknowledged payload is taken off the socket, byte for byte. -/
theorem ackedBy_near {p q n : ℕ} (hrst : segment.flags.rst = false) (hfin : e.flow.localFinSequence = none)
    (hnext : e.flow.localNext = e.flow.localInitial + BitVec.ofNat 32 n)
    (hunacked : e.flow.localUnacked = e.flow.localInitial + BitVec.ofNat 32 p)
    (hacked : e.flow.ackedTo (ackOf segment) = e.flow.localInitial + BitVec.ofNat 32 q) (hpq : p ≤ q) (hqn : q ≤ n)
    (hn : n < 2 ^ 31) : e.ackedBy segment = (q - 1) - (p - 1) := by
  have hreceived := received_sending (e := e) hrst
  have hafter : (e.received segment).1.flow.localUnacked = e.flow.localInitial + BitVec.ofNat 32 q :=
    (congrArg Sending.unacked hreceived).trans hacked
  have hinitial : (e.received segment).1.flow.localInitial = e.flow.localInitial :=
    congrArg Sending.initial hreceived
  have hkept : (e.received segment).1.flow.localNext = e.flow.localNext := congrArg Sending.next hreceived
  have hnofin : (e.received segment).1.flow.localFinSequence = e.flow.localFinSequence :=
    congrArg Sending.fin hreceived
  unfold ackedBy
  dsimp only
  rw [hafter, hunacked]
  rcases Nat.eq_or_lt_of_le hpq with rfl | hlt
  · rw [if_pos rfl]
    omega
  · have hne : e.flow.localInitial + BitVec.ofNat 32 q ≠ e.flow.localInitial + BitVec.ofNat 32 p := by
      intro heq
      have hgap := gap_positions e.flow.localInitial hlt.le
      rw [heq, gap_self, Nat.mod_eq_of_lt (by omega)] at hgap
      omega
    rw [if_neg hne, ← hinitial]
    rw [Flow.newlyAckedPayload_near (hnofin.trans hfin) (by rw [hkept, hinitial]; exact hnext)
      (by rw [hinitial]; exact hafter) hlt hqn hn]
    omega

end FlowEntry

theorem payloadTotal_acknowledged (ack : Seq) (segments : List SentSegment) :
    payloadTotal (acknowledgeSegments ack segments) ≤ payloadTotal segments := by
  induction segments with
  | nil => exact Nat.le_refl _
  | cons s rest ih =>
    have hcut : (s.acknowledge ack).1.payloadLen ≤ s.payloadLen := by
      unfold SentSegment.acknowledge
      split
      · exact Nat.le_refl _
      split
      · exact Nat.le_refl _
      · exact Nat.sub_le _ _
    unfold acknowledgeSegments
    change _ ≤ s.payloadLen + payloadTotal rest
    split
    · omega
    · rename_i t hdone
      rw [hdone] at hcut
      exact Nat.add_le_add_right hcut _

theorem FlowEntry.ackedTo_position {e : FlowEntry} {segment : TcpSegment} {p : ℕ}
    (hack : e.acksTransmitted segment = true)
    (hunacked : e.flow.localUnacked = e.flow.localInitial + BitVec.ofNat 32 p) :
    ∃ q, p ≤ q ∧ q ≤ p + SentSegment.total e.sentSegments ∧
      e.flow.ackedTo (FlowEntry.ackOf segment) = e.flow.localInitial + BitVec.ofNat 32 q := by
  rcases FlowEntry.ackedTo_cases hack with heq | hle
  · exact ⟨p, Nat.le_refl _, Nat.le_add_right _ _, heq.trans hunacked⟩
  · rw [Outstanding.span_eq] at hle
    refine ⟨p + gap e.flow.localUnacked (e.flow.ackedTo (FlowEntry.ackOf segment)), by omega, by omega, ?_⟩
    rw [BitVec.ofNat_add, ← BitVec.add_assoc]
    exact (add_gap _ _).symm.trans (congrArg (· + _) hunacked)

theorem Outstanding.settled {initial : Seq} {p q : ℕ} {segments : List SentSegment} {unacked acked : Seq}
    (h : Outstanding initial p segments) (hpq : p ≤ q) (hq : q < 2 ^ 31)
    (hunacked : unacked = initial + BitVec.ofNat 32 p) (hacked : acked = initial + BitVec.ofNat 32 q) :
    (if acked = unacked then segments else acknowledgeSegments acked segments) =
      acknowledgeSegments (initial + BitVec.ofNat 32 q) segments := by
  rw [hacked]
  split
  · rename_i heq
    have hsame : q = p := by
      have hgap := gap_positions initial hpq
      rw [heq, hunacked, gap_self, Nat.mod_eq_of_lt (by omega)] at hgap
      omega
    subst hsame
    exact (h.acknowledged_none hq).symm
  · rfl

theorem Flow.newlyAckedPayload_end {f : Flow} {p n : ℕ}
    (hfin : f.localFinSequence = some (f.localInitial + BitVec.ofNat 32 n)) (hn : n = max p 1)
    (hsmall : n < 2 ^ 31) : f.newlyAckedPayload (f.localInitial + BitVec.ofNat 32 p) = 0 := by
  have hone : f.localInitial + 1 = f.localInitial + BitVec.ofNat 32 1 := rfl
  have hfrom : (if before (f.localInitial + BitVec.ofNat 32 p) (f.localInitial + 1) = true then f.localInitial + 1
      else f.localInitial + BitVec.ofNat 32 p) = f.localInitial + BitVec.ofNat 32 n := by
    split
    · rename_i hbefore
      rw [hone] at hbefore ⊢
      have hlt := (after_position f.localInitial (x := p) (y := 1) (by omega) (by omega)).mp hbefore
      rw [hn, Nat.max_eq_right (by omega)]
    · rename_i hbefore
      rw [hone] at hbefore
      have hge : ¬ p < 1 := fun h =>
        hbefore ((after_position f.localInitial (x := p) (y := 1) (by omega) (by omega)).mpr h)
      rw [hn, Nat.max_eq_left (by omega)]
  have hself : after (f.localInitial + BitVec.ofNat 32 n) (f.localInitial + BitVec.ofNat 32 n) = false := by
    rw [Bool.eq_false_iff]
    intro h
    exact Nat.lt_irrefl n ((after_position f.localInitial hsmall hsmall).mp h)
  unfold newlyAckedPayload
  dsimp only
  rw [hfrom, hfin, Option.getD_some]
  rw [if_neg]
  split
  · rw [hself]
    exact Bool.false_ne_true
  · assumption

theorem Inbound.Ending.segment {start : ℕ} {lane : List SendPlan} {e : FlowEntry} {segment : TcpSegment}
    (h : e.inbound.Ending start lane) (htiled : e.sending.Stage lane) (hopen : e.flow.state ≠ .closed)
    (hs : e.flow.state ≠ .connecting) (hrst : segment.flags.rst = false) (hack : e.acksTransmitted segment = true)
    (hshort : e.socket.stream.length < 2 ^ 31 - 1) :
    (e.settled segment).inbound.Ending start lane ∧
      (e.settled segment).retained + e.ackedBy segment = e.retained := by
  have hinbound := FlowEntry.settled_inbound (e := e) hrst
  have hleft := congrArg Inbound.segments hinbound
  change (e.settled segment).sentSegments = if _ then _ else _ at hleft
  cases h with
  | waits p plan hfin hunacked hsegments hall hnext hlength hplan hread =>
    have hsmall : max p 1 < 2 ^ 31 := by
      rcases Nat.lt_or_ge 1 (max p 1) with hp | hp
      · have hlong : start + (max p 1 - 1) ≤ e.socket.stream.length := hread hp
        omega
      · omega
    change p + SentSegment.total e.sentSegments = max p 1 at hall
    change e.flow.localUnacked = e.flow.localInitial + BitVec.ofNat 32 p at hunacked
    change Outstanding e.flow.localInitial p e.sentSegments at hsegments
    obtain ⟨q, hpq, hqn, hacked⟩ := FlowEntry.ackedTo_position hack hunacked
    have hcount := FlowEntry.ackedBy_near hrst hfin hnext hunacked hacked hpq (by omega) hsmall
    rw [hsegments.settled hpq (by omega) hunacked hacked] at hleft hinbound
    obtain ⟨hrest, htotal⟩ := hsegments.acknowledged hpq hqn (by omega)
    have hbefore : e.retained = p + SentSegment.total e.sentSegments - max p 1 := hsegments.payloadTotal_eq (by omega)
    have hafter : (e.settled segment).retained = _ :=
      (congrArg payloadTotal hleft).trans (hrest.payloadTotal_eq (by omega))
    refine ⟨?_, by omega⟩
    rw [hinbound]
    refine .waits q plan hfin hacked hrest ?_ ?_ hlength hplan ?_
    · dsimp only
      omega
    · dsimp only
      rw [show max q 1 = max p 1 by omega]
      exact hnext
    · rw [show max q 1 = max p 1 by omega]
      exact hread
  | sent p n hfin hended hstate hunacked hp hnext hsegments hread =>
    change e.flow.localUnacked = e.flow.localInitial + BitVec.ofNat 32 p at hunacked
    have hsmall : n < 2 ^ 31 := by
      rcases Nat.lt_or_ge 1 n with hn | hn
      · have hlong : start + (n - 1) ≤ e.socket.stream.length := hread hn
        omega
      · omega
    have hspan : SentSegment.total e.sentSegments = n + 1 - p := by
      cases htiled with
      | connecting hc => exact absurd hc hs
      | closed hc => exact absurd hc hopen
      | idle hopened htiles hspan =>
        have hgap := htiles.gap_eq (by omega)
        change gap e.flow.localUnacked e.flow.localNext = span (e.sentSegments.map SentSegment.range) at hgap
        rw [hunacked, show e.flow.localNext = _ from hnext, Outstanding.span_eq] at hgap
        rw [← hgap]
        refine (gap_positions _ (by omega)).trans (Nat.mod_eq_of_lt ?_)
        omega
    obtain ⟨q, hpq, hqn, hacked⟩ := FlowEntry.ackedTo_position hack hunacked
    have hreceived := FlowEntry.received_sending (e := e) hrst
    have hnothing : e.ackedBy segment = 0 := by
      have hinitial : (e.received segment).1.flow.localInitial = e.flow.localInitial :=
        congrArg Sending.initial hreceived
      have hkept : (e.received segment).1.flow.localFinSequence = e.flow.localFinSequence :=
        congrArg Sending.fin hreceived
      have hafter : (e.received segment).1.flow.localUnacked = e.flow.localInitial + BitVec.ofNat 32 q :=
        (congrArg Sending.unacked hreceived).trans hacked
      unfold FlowEntry.ackedBy
      dsimp only
      split
      · rfl
      · rename_i hmoved
        rcases hp with hp | hp
        · rw [hunacked, ← hinitial]
          exact Flow.newlyAckedPayload_end (hkept.trans (hfin.trans (by rw [hinitial]; rfl))) hp hsmall
        · refine absurd (hafter.trans ?_) hmoved
          rw [show q = p by omega]
          exact hunacked.symm
    have hnone : e.retained = 0 := hsegments
    have hless : payloadTotal (e.settled segment).sentSegments = 0 := by
      rw [hleft]
      split
      · exact hsegments
      · exact Nat.le_zero.mp ((payloadTotal_acknowledged _ _).trans (Nat.le_of_eq hsegments))
    refine ⟨?_, by rw [hnothing, hnone]; exact hless⟩
    have hstate' := FlowEntry.received_ended hrst hended hstate
    change payloadTotal (e.settled segment).inbound.segments = 0 at hless
    rw [hinbound] at hless ⊢
    exact .sent q n hfin hended hstate' hacked (by omega) hnext hless hread

namespace Inbound.Aligned

variable {start : ℕ} {lane : List SendPlan} {e : FlowEntry}

theorem nothing_acked {segment : TcpSegment} (hnone : e.sentSegments = []) (hrst : segment.flags.rst = false)
    (hack : e.acksTransmitted segment = true) :
    e.flow.ackedTo (FlowEntry.ackOf segment) = e.flow.localUnacked ∧ e.ackedBy segment = 0 ∧
      (e.settled segment).sentSegments = [] := by
  have hkept : e.flow.ackedTo (FlowEntry.ackOf segment) = e.flow.localUnacked := by
    rcases FlowEntry.ackedTo_cases hack with heq | hle
    · exact heq
    · rw [hnone, List.map_nil, span_nil] at hle
      exact ((gap_eq_zero_iff _ _).mp (by omega)).symm
  have hafter : (e.received segment).1.flow.localUnacked = e.flow.localUnacked :=
    (congrArg Sending.unacked (FlowEntry.received_sending (e := e) hrst)).trans hkept
  refine ⟨hkept, if_pos hafter, ?_⟩
  unfold FlowEntry.settled
  dsimp only
  rw [if_pos hafter, hnone]

theorem segment {segment : TcpSegment} (h : e.inbound.Aligned start lane) (htiled : e.sending.Stage lane)
    (hopen : e.open? = true) (hrst : segment.flags.rst = false) (hack : e.acksTransmitted segment = true)
    (hearly : e.finsEarly segment = false) (hshort : e.socket.stream.length < 2 ^ 31 - 1) :
    (e.settled segment).inbound.Aligned start lane ∧
      (e.settled segment).retained + e.ackedBy segment = e.retained := by
  have hstate : e.flow.state ≠ .closed := by simpa [FlowEntry.open?] using hopen
  have hstage := htiled.segment hopen hrst hack hearly
  have hinbound := FlowEntry.settled_inbound (e := e) hrst
  have hconnected : e.flow.state ≠ .connecting → (e.received segment).1.flow.state ≠ .connecting := by
    intro hc
    rcases FlowEntry.received_state (e := e) hrst with heq | ⟨-, hne, -⟩
    · rw [heq]
      exact Flow.ackState_connected _ hc
    · exact hne
  have hempty : e.sentSegments = [] → (e.settled segment).retained + e.ackedBy segment = e.retained := by
    intro hnone
    obtain ⟨-, hnothing, hleft⟩ := nothing_acked hnone hrst hack
    unfold FlowEntry.retained
    rw [hnothing, hleft, hnone]
    rfl
  cases h with
  | connecting hconnecting hlast =>
    have hstill : (e.settled segment).flow.state = .connecting := by
      cases hstage with
      | connecting hs => exact hs
      | idle hopened =>
        cases htiled with
        | connecting hc hunacked hnext hfin hsegments =>
          rcases FlowEntry.received_state (e := e) hrst with heq | ⟨⟨n, hn⟩, -⟩
          · exact heq.trans (Flow.ackState_connecting _ hc hfin)
          · have hdecide : decide (e.flow.state = .connecting) = true := decide_eq_true hc
            unfold FlowEntry.finsEarly at hearly
            rw [hn, hdecide] at hearly
            cases hearly
        | idle hopened' => exact absurd hconnecting hopened'.1
        | closed hclosed => exact absurd hclosed hstate
      | closed hclosed =>
        rcases FlowEntry.received_state (e := e) hrst with heq | ⟨-, -, hne⟩
        · exact absurd (heq.symm.trans hclosed) (Flow.ackState_open _ hstate)
        · exact absurd hclosed hne
    refine ⟨?_, hempty ?_⟩
    · rw [hinbound]
      exact .connecting hstill hlast
    · cases htiled with
      | connecting hc hunacked hnext hfin hsegments => exact List.map_eq_nil_iff.mp hsegments
      | idle hopened => exact absurd hconnecting hopened.1
      | closed hclosed => exact absurd hclosed hstate
  | opening plan hs hwaiting hfin hlast hconsumed hunacked hsegments hnext hsequence hlength hsyn hplan =>
    obtain ⟨hkept, hnothing, -⟩ := nothing_acked hsegments hrst hack
    refine ⟨?_, hempty hsegments⟩
    rw [hinbound, hkept, if_pos rfl, hnothing]
    exact .opening plan (hconnected hs) hwaiting hfin hlast hconsumed hunacked hsegments hnext hsequence hlength
      hsyn hplan
  | flowing p r lane hs hwaiting hfin hunacked hconsumed hsegments hpos hnext hlane hread hlast =>
    obtain ⟨hp, hsmall⟩ : p < 2 ^ 31 ∧ p + SentSegment.total e.sentSegments < 2 ^ 31 :=
      reach_small hlane hread hshort (Nat.le_add_right p _)
    change e.flow.localUnacked = e.flow.localInitial + BitVec.ofNat 32 p at hunacked
    change Outstanding e.flow.localInitial p e.sentSegments at hsegments
    change 1 ≤ p + SentSegment.total e.sentSegments at hpos
    obtain ⟨q, hpq, hqn, hacked⟩ := FlowEntry.ackedTo_position hack hunacked
    have hcount := FlowEntry.ackedBy_near hrst hfin hnext hunacked hacked hpq hqn hsmall
    obtain ⟨hleft, htotal⟩ := hsegments.acknowledged hpq hqn hsmall
    have hkept := hsegments.settled hpq (by omega) hunacked hacked
    have hbefore : e.retained = p + SentSegment.total e.sentSegments - max p 1 := hsegments.payloadTotal_eq hpos
    have hafter : (e.settled segment).retained = _ :=
      (congrArg payloadTotal ((congrArg Inbound.segments hinbound).trans hkept)).trans
        (hleft.payloadTotal_eq (by omega))
    refine ⟨?_, by omega⟩
    rw [hinbound, hkept]
    refine .flowing q r lane (hconnected hs) hwaiting hfin hacked ?_ hleft ?_ ?_ ?_ hread hlast
    · change e.socket.consumed + e.ackedBy segment = start + (q - 1)
      rw [hcount, show e.socket.consumed = start + (p - 1) from hconsumed]
      omega
    · dsimp only
      rw [htotal]
      exact hpos
    · dsimp only
      rw [htotal]
      exact hnext
    · dsimp only
      rw [htotal]
      exact hlane
  | finishing lane hs hwaiting heof hdrained hending =>
    obtain ⟨hending', hcount⟩ := hending.segment htiled hstate hs hrst hack hshort
    refine ⟨?_, hcount⟩
    rw [hinbound] at hending' ⊢
    exact .finishing lane (hconnected hs) hwaiting heof (hdrained.trans (Nat.le_add_right _ _)) hending'
  | closed lane hclosed => exact absurd hclosed hstate

end Inbound.Aligned

namespace FlowEntry

/-- The payload is the stretch of the stream from the byte its sequence number stands for. -/
def InPlace (e : FlowEntry) (start : ℕ) (sequence : Seq) (payload : Bytes) : Prop :=
  ∃ k, sequence = e.flow.localInitial + 1 + BitVec.ofNat 32 k ∧
    start + k + payload.length ≤ e.socket.stream.length ∧
    payload = (e.socket.stream.drop (start + k)).take payload.length

/-- A probe before any payload was sent: its number is none of payload. -/
def Blank (e : FlowEntry) (sequence : Seq) (payload : Bytes) : Prop :=
  e.lastNamespaceByte = none ∧ payload.length = 1 ∧
    (sequence = e.flow.localInitial ∨ sequence = e.flow.localInitial - 1)

/-- A frame without a byte of the stream. -/
def Mute (e : FlowEntry) (body : FrameBody) : Prop :=
  ∀ spec payload, body = .tcp spec payload → payload = [] ∨ e.Blank spec.plan.sequence payload

def Carries (e : FlowEntry) (start : ℕ) (body : FrameBody) : Prop :=
  ∀ spec payload, body = .tcp spec payload →
    payload = [] ∨ e.Blank spec.plan.sequence payload ∨ e.InPlace start spec.plan.sequence payload

/-- The head of the socket is the first byte that is not acknowledged, or the stream is over. -/
def Heads (e : FlowEntry) (start : ℕ) : Prop :=
  (∃ k, e.socket.consumed = start + k ∧
    (e.flow.localUnacked = e.flow.localInitial + 1 + BitVec.ofNat 32 k ∨
      k = 0 ∧ e.flow.localUnacked = e.flow.localInitial)) ∨
  (e.socket.eof = true ∧ e.socket.queued 0 = [])

variable {e : FlowEntry} {start : ℕ} {body : FrameBody}

theorem Mute.carries (h : e.Mute body) (start : ℕ) : e.Carries start body := fun spec payload hbody =>
  (h spec payload hbody).imp_right .inl

theorem Mute.of_payload (h : body.payload = []) : e.Mute body := by
  rintro spec payload rfl
  exact .inl h

theorem position_succ (initial : Seq) {n : ℕ} (h : 1 ≤ n) :
    initial + BitVec.ofNat 32 n = initial + 1 + BitVec.ofNat 32 (n - 1) := by
  rw [BitVec.add_assoc]
  have hsplit : BitVec.ofNat 32 n = BitVec.ofNat 32 1 + BitVec.ofNat 32 (n - 1) := by
    rw [← BitVec.ofNat_add, Nat.add_sub_cancel' h]
  rw [hsplit]
  rfl

theorem InPlace.of_position {sequence : Seq} {payload : Bytes} {n : ℕ} (hn : 1 ≤ n)
    (hsequence : sequence = e.flow.localInitial + BitVec.ofNat 32 n)
    (hlength : start + (n - 1) + payload.length ≤ e.socket.stream.length)
    (hpayload : payload = (e.socket.stream.drop (start + (n - 1))).take payload.length) :
    e.InPlace start sequence payload :=
  ⟨n - 1, hsequence.trans (position_succ _ hn), hlength, hpayload⟩

theorem queued_stretch {offset : ℕ} {payload : Bytes} (hne : payload ≠ [])
    (hpayload : payload = (e.socket.queued offset).take payload.length) :
    e.socket.consumed + offset + payload.length ≤ e.socket.stream.length := by
  have hlength := congrArg List.length hpayload
  rw [List.length_take] at hlength
  unfold Socket.queued at hlength
  rw [List.length_drop] at hlength
  have hpos := List.length_pos_of_ne_nil hne
  omega

end FlowEntry

namespace Inbound.Aligned

variable {start : ℕ} {lane : List SendPlan} {e : FlowEntry}

theorem connecting_idle (h : e.sending.Stage lane) (hstate : e.flow.state = .connecting) :
    e.flow.localNext = e.flow.localInitial ∧ e.sentSegments = [] := by
  cases h with
  | connecting _ _ hnext _ hsegments => exact ⟨hnext, List.map_eq_nil_iff.mp hsegments⟩
  | opening _ hopened => exact absurd hstate hopened.1
  | idle hopened => exact absurd hstate hopened.1
  | planned _ hopened => exact absurd hstate hopened.1
  | closed hclosed =>
    rw [show e.flow.state = .closed from hclosed] at hstate
    cases hstate

theorem planData {payload : Bytes} (h : e.inbound.Aligned start []) (hsendable : e.sendable = true)
    (hne : payload ≠ []) (hpayload : payload = (e.socket.queued e.retained).take payload.length) :
    ({ e with lastNamespaceByte := payload.getLast? } : FlowEntry).inbound.Aligned start
        [⟨e.flow.localNext, e.flow.namespaceAcked, payload.length, false, false⟩] ∧
      e.InPlace start e.flow.localNext payload := by
  have hstates : e.flow.state = .established ∨ e.flow.state = .namespaceFinReceived := of_decide_eq_true hsendable
  have hlong := FlowEntry.queued_stretch hne hpayload
  have hlength := List.length_pos_of_ne_nil hne
  cases h with
  | connecting hstate hlast =>
    rw [show e.flow.state = .connecting from hstate] at hstates
    simp at hstates
  | flowing p r _ hstate hwaiting hfin hunacked hconsumed hsegments hpos hnext hlane hread hlast =>
    have hretained : e.retained = p + SentSegment.total e.sentSegments - max p 1 := hsegments.payloadTotal_eq hpos
    have hhead : e.socket.consumed = start + (p - 1) := hconsumed
    change 1 ≤ p + SentSegment.total e.sentSegments at hpos
    have hwhere : e.socket.consumed + e.retained = start + (p + SentSegment.total e.sentSegments - 1) := by omega
    have hplace : payload =
        (e.socket.stream.drop (start + (p + SentSegment.total e.sentSegments - 1))).take payload.length := by
      rw [← hwhere]
      exact hpayload
    refine ⟨?_, .of_position hpos hnext (by omega) hplace⟩
    refine .flowing p (p + SentSegment.total e.sentSegments + payload.length) _ hstate hwaiting hfin hunacked
      hconsumed hsegments hpos hnext (.planned _ rfl rfl rfl hlength) ?_ ?_
    · intro _
      change start + (p + SentSegment.total e.sentSegments + payload.length - 1) ≤ e.socket.stream.length
      omega
    · change payload.getLast? = if _ = 1 then none else e.socket.stream[_]?
      rw [if_neg (by omega), List.getLast?_eq_getElem?]
      have hbyte : payload[payload.length - 1]? = ((e.socket.stream.drop
          (start + (p + SentSegment.total e.sentSegments - 1))).take payload.length)[payload.length - 1]? :=
        congrArg (fun bytes : Bytes => bytes[payload.length - 1]?) hplace
      rw [hbyte, List.getElem?_take_of_lt (by omega), List.getElem?_drop]
      congr 1
      omega
  | finishing _ hstate hwaiting heof hempty =>
    change e.socket.stream.length ≤ e.socket.consumed at hempty
    omega
  | closed _ hstate =>
    rw [show e.flow.state = .closed from hstate] at hstates
    simp at hstates

theorem planFin {plan : SendPlan} (h : e.inbound.Aligned start []) (hsendable : e.sendable = true)
    (hretained : e.retained = 0) (hqueued : e.socket.queued 0 = []) (heof : e.socket.eof = true)
    (hlength : plan.length = 0) (hplan : plan.fin = true) : e.inbound.Aligned start [plan] := by
  have hstates : e.flow.state = .established ∨ e.flow.state = .namespaceFinReceived := of_decide_eq_true hsendable
  have hempty : e.socket.stream.length ≤ e.socket.consumed := List.drop_eq_nil_iff.mp hqueued
  cases h with
  | connecting hstate hlast =>
    rw [show e.flow.state = .connecting from hstate] at hstates
    simp at hstates
  | flowing p r _ hstate hwaiting hfin hunacked hconsumed hsegments hpos hnext hlane hread =>
    have hpayload : e.retained = p + SentSegment.total e.sentSegments - max p 1 := hsegments.payloadTotal_eq hpos
    change 1 ≤ p + SentSegment.total e.sentSegments at hpos
    have hall : p + SentSegment.total e.sentSegments = max p 1 := by omega
    cases hlane
    refine .finishing _ hstate hwaiting heof hempty (.waits p plan hfin hunacked hsegments hall ?_ hlength hplan ?_)
    · rw [← hall]
      exact hnext
    · rw [← hall]
      exact hread
  | finishing _ hstate hwaiting heof hempty hending =>
    cases hending with
    | sent p n hfin hended hlate =>
      rcases hstates with h | h
      · exact absurd h hlate.2.1
      · exact absurd h hlate.2.2
  | closed _ hstate =>
    rw [show e.flow.state = .closed from hstate] at hstates
    simp at hstates

theorem committed_syn {plan : SendPlan} (hsegments : e.sentSegments = []) (hlength : plan.length = 0)
    (hfin : plan.fin = false) (now : Millis) :
    (e.committed plan now).inbound = { e.inbound with segments := [SentSegment.ofPlan plan now] } := by
  have hadvanced : e.advanced plan = e := by
    unfold FlowEntry.advanced
    rw [if_neg (by rw [hlength, hfin]; simp)]
  unfold FlowEntry.committed
  rw [hadvanced, hsegments]
  rfl

theorem committed_data {plan : SendPlan} (hlength : 0 < plan.length) (hfin : plan.fin = false) (now : Millis) :
    (e.committed plan now).inbound =
      { e.inbound with
        next := e.flow.localNext + BitVec.ofNat 32 plan.length
        segments := e.sentSegments ++ [SentSegment.ofPlan plan now] } := by
  have hadvanced : (e.advanced plan).flow =
      { e.flow with localNext := e.flow.localNext + BitVec.ofNat 32 plan.length } := by
    unfold FlowEntry.advanced Flow.commitSend
    rw [if_pos (.inl hlength), hfin]
    rfl
  unfold FlowEntry.committed FlowEntry.inbound
  dsimp only
  rw [hadvanced]
  rfl

theorem committed_fin {plan : SendPlan} (hlength : plan.length = 0) (hfin : plan.fin = true) (now : Millis) :
    (e.committed plan now).inbound =
      { e.inbound with
        state := if e.flow.namespaceFin then .closing else .socketFinReceived
        next := e.flow.localNext + 1
        fin := some e.flow.localNext
        segments := e.sentSegments ++ [SentSegment.ofPlan plan now]
        ended := true } := by
  have hadvanced : (e.advanced plan).flow =
      { e.flow with
        localFinSequence := some e.flow.localNext
        localNext := e.flow.localNext + 1
        socketFin := true
        state := if e.flow.namespaceFin then .closing else .socketFinReceived } := by
    unfold FlowEntry.advanced Flow.commitSend
    rw [if_pos (.inr hfin), hlength, hfin]
    dsimp only
    simp only [if_true, BitVec.ofNat_eq_ofNat, BitVec.add_zero]
  unfold FlowEntry.committed FlowEntry.inbound
  dsimp only
  rw [hadvanced]
  rfl

theorem commit {plan : SendPlan} {rest : List SendPlan} (h : e.inbound.Aligned start (plan :: rest))
    (htiled : e.sending.Stage (plan :: rest)) (now : Millis) :
    (e.committed plan now).inbound.Aligned start rest := by
  have hstate' : e.flow.state ≠ .connecting → (e.committed plan now).inbound.state ≠ .connecting := by
    intro hs
    change (e.advanced plan).flow.state ≠ .connecting
    unfold FlowEntry.advanced Flow.commitSend
    dsimp only
    split
    · split
      · dsimp only
        split <;> simp
      · exact hs
    · exact hs
  cases h with
  | opening _ hstate hwaiting hfin hlast hconsumed hunacked hsegments hnext hsequence hlength hsyn hplan =>
    have hsize : SentSegment.total [SentSegment.ofPlan plan now] = 1 := by
      change plan.length + plan.syn.toNat + plan.fin.toNat + 0 = 1
      rw [hlength, hsyn, hplan]
      rfl
    have hsegment : Outstanding e.flow.localInitial 0 [SentSegment.ofPlan plan now] :=
      .syn _ [] hsequence hsyn hlength hplan (.nothing 1)
    rw [committed_syn hsegments hlength hplan]
    refine .flowing 0 1 [] hstate hwaiting hfin ?_ hconsumed hsegment ?_ ?_ ?_ (by omega) ?_
    · exact hunacked.trans (BitVec.add_zero _).symm
    · dsimp only
      rw [hsize]
    · dsimp only
      rw [hsize]
      exact hnext
    · dsimp only
      rw [hsize]
      exact .idle
    · exact hlast
  | flowing p r _ hstate hwaiting hfin hunacked hconsumed hsegments hpos hnext hlane hread hlast =>
    cases hlane with
    | planned _ hsequence hsyn hplan hlength =>
      have hlast' : SentSegment.total [SentSegment.ofPlan plan now] = plan.length := by
        change plan.length + plan.syn.toNat + plan.fin.toNat + 0 = plan.length
        rw [hsyn, hplan]
        rfl
      have htotal : p + SentSegment.total (e.sentSegments ++ [SentSegment.ofPlan plan now]) =
          p + SentSegment.total e.sentSegments + plan.length := by
        rw [Outstanding.total_append, hlast', Nat.add_assoc]
      have hsegment : Outstanding e.flow.localInitial (p + SentSegment.total e.sentSegments)
          [SentSegment.ofPlan plan now] :=
        .payload _ _ [] hpos (hsequence.trans hnext) hsyn hlength hplan (.nothing _)
      rw [committed_data hlength hplan]
      refine .flowing p _ [] hstate hwaiting hfin hunacked hconsumed (hsegments.append hsegment) ?_ ?_ ?_ hread hlast
      · dsimp only
        rw [htotal]
        omega
      · dsimp only
        rw [htotal, BitVec.ofNat_add, ← BitVec.add_assoc]
        exact congrArg (· + BitVec.ofNat 32 plan.length) hnext
      · dsimp only
        rw [htotal]
        exact .idle
  | finishing _ hstate hwaiting heof hempty hending =>
    refine .finishing rest (hstate' hstate) hwaiting heof hempty ?_
    cases hending with
    | waits p _ hfin hunacked hsegments hall hnext hlength hplan hread =>
      have hpayload : payloadTotal (e.sentSegments ++ [SentSegment.ofPlan plan now]) = 0 := by
        have hnone : payloadTotal e.sentSegments = p + SentSegment.total e.sentSegments - max p 1 :=
          hsegments.payloadTotal_eq (by rw [hall]; omega)
        have hlast : payloadTotal [SentSegment.ofPlan plan now] = 0 := hlength
        change p + SentSegment.total e.sentSegments = max p 1 at hall
        have happend : payloadTotal (e.sentSegments ++ [SentSegment.ofPlan plan now]) =
            payloadTotal e.sentSegments + payloadTotal [SentSegment.ofPlan plan now] := by
          unfold payloadTotal
          rw [List.map_append, List.sum_append]
        omega
      rw [committed_fin hlength hplan]
      refine .sent p (max p 1) ?_ rfl ?_ hunacked (.inl rfl) ?_ hpayload hread
      · exact congrArg some hnext
      · dsimp only
        split <;> simp
      · dsimp only
        rw [BitVec.ofNat_add, ← BitVec.add_assoc]
        exact congrArg (· + BitVec.ofNat 32 1) hnext
  | closed _ hclosed =>
    cases htiled with
    | opening _ hopened => exact absurd hclosed hopened.2
    | planned _ hopened => exact absurd hclosed hopened.2

/-- A repetition starts at the head of the socket, which the first segment begins with. -/
theorem again {spec : TcpFrameSpec} {payload : Bytes} {segment : SentSegment} {rest : List SentSegment}
    (h : e.inbound.Aligned start []) (htiled : e.sending.Stage []) (hopen : e.flow.state ≠ .closed)
    (hsegments : e.sentSegments = segment :: rest) (hsequence : spec.plan.sequence = segment.sequence)
    (hlength : payload.length ≤ segment.payloadLen)
    (hpayload : payload = (e.socket.queued 0).take payload.length) :
    e.flow.state ≠ .connecting ∧ e.Carries start (.tcp spec payload) := by
  have hconnected : e.flow.state ≠ .connecting := by
    intro hconnecting
    rw [(connecting_idle htiled hconnecting).2] at hsegments
    cases hsegments
  refine ⟨hconnected, ?_⟩
  rintro spec' payload' heq
  cases heq
  by_cases hne : payload = []
  · exact .inl hne
  · have hlong := FlowEntry.queued_stretch hne hpayload
    have hpos := List.length_pos_of_ne_nil hne
    cases h with
    | connecting hconnecting => exact absurd hconnecting hconnected
    | flowing p r _ hstate hwaiting hfin hunacked hconsumed houtstanding =>
      have hhead : e.socket.consumed = start + (p - 1) := hconsumed
      change Outstanding e.flow.localInitial p e.sentSegments at houtstanding
      rw [hsegments] at houtstanding
      cases houtstanding with
      | syn _ _ hfirst hsyn hnone => omega
      | payload _ _ _ hp hfirst =>
        refine .inr (.inr (.of_position hp (hsequence.trans hfirst) ?_ ?_))
        · rw [← hhead]
          exact hlong
        · rw [← hhead]
          exact hpayload
    | finishing _ hstate hwaiting heof hempty =>
      change e.socket.stream.length ≤ e.socket.consumed at hempty
      omega
    | closed _ hclosed => exact absurd hclosed hopen

/-- A probe of one byte below the next number repeats the last byte sent. -/
theorem stale {spec : TcpFrameSpec} {head byte : UInt8} {rest : Bytes} (h : e.inbound.Aligned start [])
    (htiled : e.sending.Stage []) (hopen : e.flow.state ≠ .closed) (hqueued : e.socket.queued 0 = head :: rest)
    (hbyte : byte = e.lastNamespaceByte.getD head) (hsequence : spec.plan.sequence = e.flow.localNext - 1) :
    e.Carries start (.tcp spec [byte]) ∧ (e.flow.state = .connecting → e.Mute (.tcp spec [byte])) := by
  cases h with
  | connecting hconnecting hlast =>
    have hmute : e.Mute (.tcp spec [byte]) := by
      rintro spec' payload' heq
      cases heq
      rw [(connecting_idle htiled hconnecting).1] at hsequence
      exact .inr ⟨hlast, rfl, .inr hsequence⟩
    exact ⟨hmute.carries start, fun _ => hmute⟩
  | flowing p r _ hstate hwaiting hfin hunacked hconsumed houtstanding hpos hnext hlane hread hlast =>
    refine ⟨?_, fun hc => absurd hc hstate⟩
    rintro spec' payload' heq
    cases heq
    cases hlane
    change 1 ≤ p + SentSegment.total e.sentSegments at hpos
    change e.flow.localNext = e.flow.localInitial + BitVec.ofNat 32 (p + SentSegment.total e.sentSegments) at hnext
    change 1 < p + SentSegment.total e.sentSegments →
      start + (p + SentSegment.total e.sentSegments - 1) ≤ e.socket.stream.length at hread
    change e.lastNamespaceByte = if p + SentSegment.total e.sentSegments = 1 then none
      else e.socket.stream[start + (p + SentSegment.total e.sentSegments - 2)]? at hlast
    generalize p + SentSegment.total e.sentSegments = n at hpos hnext hread hlast
    have hbefore : spec.plan.sequence = e.flow.localInitial + BitVec.ofNat 32 (n - 1) := by
      rw [hsequence, hnext, FlowEntry.position_succ _ hpos, BitVec.add_assoc, BitVec.add_comm 1, ← BitVec.add_assoc]
      exact BitVec.add_sub_cancel _ _
    by_cases hone : n = 1
    · subst hone
      exact .inr (.inl ⟨hlast, rfl, .inl (hbefore.trans (BitVec.add_zero _))⟩)
    · rw [if_neg hone] at hlast
      have hlong := hread (by omega)
      obtain ⟨last, hsome⟩ : ∃ last, e.socket.stream[start + (n - 2)]? = some last :=
        ⟨_, List.getElem?_eq_getElem (by omega)⟩
      have hrepeated : byte = last := by
        rw [hbyte, hlast.trans hsome]
        rfl
      refine .inr (.inr (.of_position (by omega) hbefore ?_ ?_))
      · change start + (n - 1 - 1) + 1 ≤ _
        omega
      · change [byte] = (e.socket.stream.drop _).take 1
        rw [hrepeated, List.take_one, List.head?_drop, Nat.sub_sub, hsome]
        rfl
  | finishing _ hstate hwaiting heof hempty =>
    have hdrop : e.socket.queued 0 = [] := List.drop_eq_nil_iff.mpr hempty
    rw [hdrop] at hqueued
    cases hqueued
  | closed _ hclosed => exact absurd hclosed hopen

theorem builds {a : Strand} {body : FrameBody} (h : a.entry.inbound.Aligned start a.lane)
    (htiled : a.entry.sending.Stage a.lane) (hopen : a.entry.open? = true) (hb : a.Builds body) :
    a.entry.Carries start body ∧ (a.entry.flow.state = .connecting → a.entry.Mute body) := by
  have hstate : a.entry.flow.state ≠ .closed := by simpa [FlowEntry.open?] using hopen
  cases hb with
  | plain body hplain => exact ⟨(FlowEntry.Mute.of_payload hplain).carries start, fun _ => .of_payload hplain⟩
  | again spec payload segment rest hlane hsegments hsequence hlength hpayload =>
    rw [hlane] at h htiled
    obtain ⟨hconnected, hcarries⟩ := again h htiled hstate hsegments hsequence hlength hpayload
    exact ⟨hcarries, fun hc => absurd hc hconnected⟩
  | stale spec head byte rest hlane hhead hqueued hbyte hsequence =>
    rw [hlane] at h htiled
    exact stale h htiled hstate hqueued hbyte hsequence

theorem heads (h : e.inbound.Aligned start lane) (hopen : e.open? = true) (hstate : e.flow.state ≠ .connecting) :
    e.Heads start := by
  have hstate' : e.flow.state ≠ .closed := by simpa [FlowEntry.open?] using hopen
  cases h with
  | connecting hconnecting => exact absurd hconnecting hstate
  | opening plan hs hwaiting hfin hlast hconsumed hunacked => exact .inl ⟨0, hconsumed, .inr ⟨rfl, hunacked⟩⟩
  | flowing p r _ hs hwaiting hfin hunacked hconsumed =>
    refine .inl ⟨p - 1, hconsumed, ?_⟩
    rcases Nat.eq_zero_or_pos p with rfl | hp
    · exact .inr ⟨rfl, hunacked.trans (BitVec.add_zero _)⟩
    · exact .inl (hunacked.trans (FlowEntry.position_succ _ hp))
  | finishing _ hs hwaiting heof hempty => exact .inr ⟨heof, List.drop_eq_nil_iff.mpr hempty⟩
  | closed _ hclosed => exact absurd hclosed hstate'

end Inbound.Aligned

/-- Where the payload begins in the stream of the socket, as the activation of the flow found it. -/
def Notice.opens (id : FlowId) : Notice → Option ℕ
  | .activated own e _ => if own = id then some e.socket.consumed else none
  | _ => none

def payloadStart (id : FlowId) (journal : List Notice) : ℕ := (journal.findSome? (Notice.opens id)).getD 0

theorem payloadStart_append {id : FlowId} {N : List Notice} (h : ∀ n ∈ N, n.opens id = none)
    (journal : List Notice) : payloadStart id (N ++ journal) = payloadStart id journal := by
  unfold payloadStart
  rw [List.findSome?_append, List.findSome?_eq_none_iff.mpr h, Option.none_or]

theorem payloadStart_activated (id : FlowId) (e f : FlowEntry) (body : FrameBody) (busy : Bool)
    (journal : List Notice) :
    payloadStart id (.built id f body :: .activated id e busy :: journal) = e.socket.consumed := by
  have hopens : (Notice.activated id e busy).opens id = some e.socket.consumed := if_pos rfl
  unfold payloadStart
  rw [List.findSome?_cons, List.findSome?_cons, hopens]
  rfl

theorem payloadStart_story (id : FlowId) (journal : List Notice) :
    payloadStart id (story id journal) = payloadStart id journal := by
  induction journal with
  | nil => rfl
  | cons n journal ih =>
    rw [story_cons]
    split
    · unfold payloadStart at ih ⊢
      rw [List.findSome?_cons, List.findSome?_cons]
      cases n.opens id with
      | none => exact ih
      | some start => rfl
    · rename_i hother
      have hquiet : n.opens id = none := by
        unfold Notice.opens
        split
        · exact if_neg fun heq => hother (congrArg some heq)
        · rfl
      rw [ih]
      exact (payloadStart_append (N := [n]) (by simpa using hquiet) journal).symm

section Stream

variable {cfg : Config} {id : FlowId} {a b : Strand} {e f : FlowEntry}

theorem stream_kept (h : f.inbound = e.inbound) : e.socket.stream <+: f.socket.stream :=
  ⟨[], (List.append_nil _).trans (congrArg Inbound.stream h).symm⟩

theorem Touched.stream_prefix (h : Touched e f) : e.socket.stream <+: f.socket.stream := by
  obtain ⟨more, hstream, -⟩ := h.stream
  exact ⟨more, hstream.symm⟩

theorem Strand.Closes.stream (h : Strand.Closes id a b) : b.entry.socket.stream = a.entry.socket.stream := by
  cases h <;> rfl

theorem Turn.stream (h : Turn cfg id a b) : a.entry.socket.stream <+: b.entry.socket.stream := by
  cases h with
  | idle | synLost | serviced | timeWait | replyConsumed | built | planData | planFin | commit | commitMismatched |
    drop | activate | activateLost => exact List.prefix_rfl
  | touch f h => exact h.stream_prefix
  | flush f hspared h hrest => exact stream_kept (FlowEntry.inbound_drained h)
  | flushFin f hspared h hempty hshut => exact stream_kept (f := f) (FlowEntry.inbound_drained h)
  | flushFinFailed f error hspared h => exact stream_kept (FlowEntry.inbound_drained h)
  | handled f g segment clamps N hspared hrst hf hg =>
    exact hf.stream_prefix.trans (stream_kept (FlowEntry.inbound_delivered hg))
  | lost f g segment clamps N hspared hrst hf hg =>
    exact hf.stream_prefix.trans (stream_kept (FlowEntry.inbound_lost hg))
  | ackAborted f segment clamps count fault hspared hrst hf hfault => exact hf.stream_prefix
  | reset segment b hspared hrst h => exact ⟨[], (List.append_nil _).trans h.stream.symm⟩
  | close b hspared h => exact ⟨[], (List.append_nil _).trans h.stream.symm⟩

end Stream

structure Served (id : FlowId) (a : Strand) : Prop where
  aligned : a.entry.inbound.Aligned (payloadStart id a.story) a.lane
  carried : ∀ f body, Notice.built id f body ∈ a.story →
    f.socket.stream <+: a.entry.socket.stream ∧ f.Carries (payloadStart id a.story) body
  early : a.entry.flow.state = .connecting → ∀ f body, Notice.built id f body ∈ a.story → f.Mute body

def Notice.still (id : FlowId) : Notice → Prop
  | .activated own _ _ => own ≠ id
  | .built own _ _ => own ≠ id
  | _ => True

theorem Notice.still.opens {id : FlowId} {n : Notice} (h : n.still id) : n.opens id = none := by
  unfold Notice.opens
  split
  · exact if_neg h
  · rfl

section Notices

variable {id : FlowId} {payload : Bytes} {disposition : ReceiveDisposition} {e f : FlowEntry} {N : List Notice}

theorem FlowEntry.finNotices_still (e : FlowEntry) (id : FlowId) : ∀ n ∈ e.finNotices id, n.still id := by
  unfold finNotices
  split
  · simp [Notice.still]
  · simp

theorem Delivered.still (h : Delivered id payload disposition e N f) : ∀ n ∈ N, n.still id := by
  cases h with
  | nothing h => simp
  | payload answer hn hf => simp [Notice.still]
  | fin => exact e.finNotices_still id
  | payloadFin answer hn hf =>
    simp only [List.mem_append, List.mem_singleton]
    rintro n (h | rfl)
    · exact FlowEntry.finNotices_still _ id n h
    · trivial

theorem Lost.still (h : Lost id payload disposition e N f) : ∀ n ∈ N, n.still id := by
  cases h with
  | send error hn he => simp [Notice.still]
  | refused answer hn hf => simp [Notice.still]
  | shutdown error hf =>
    simp only [List.mem_cons]
    rintro n (rfl | h)
    · trivial
    · exact hf.still n h

theorem segment_still {acked clamps : ℕ} {segment : TcpSegment} (h : ∀ n ∈ N, n.still id) :
    ∀ n ∈ N ++ settleStory id acked clamps ++ [.segment id e segment], n.still id := by
  intro n hn
  simp only [settleStory, List.mem_append, List.mem_singleton] at hn
  rcases hn with (hn | hn | hn) | rfl
  · exact h n hn
  · split at hn
    · rw [List.mem_singleton] at hn
      rw [hn]
      trivial
    · cases hn
  · rw [(List.mem_replicate.mp hn).2]
    trivial
  · trivial

end Notices

namespace Served

variable {cfg : Config} {id : FlowId} {a b : Strand} {N : List Notice}

theorem still (ha : Served id a) (hstory : b.story = N ++ a.story) (hstill : ∀ n ∈ N, n.still id)
    (hstream : a.entry.socket.stream <+: b.entry.socket.stream)
    (haligned : b.entry.inbound.Aligned (payloadStart id a.story) b.lane)
    (hstate : b.entry.flow.state = .connecting → a.entry.flow.state = .connecting) : Served id b := by
  have hstart : payloadStart id b.story = payloadStart id a.story := by
    rw [hstory]
    exact payloadStart_append (fun n hn => (hstill n hn).opens) _
  have hold : ∀ f body, Notice.built id f body ∈ b.story → Notice.built id f body ∈ a.story := by
    intro f body hmem
    rw [hstory, List.mem_append] at hmem
    exact hmem.resolve_left fun hnew => hstill _ hnew rfl
  refine ⟨by rw [hstart]; exact haligned, fun f body hmem => ?_, fun hs f body hmem => ?_⟩
  · obtain ⟨hleading, hcarries⟩ := ha.carried f body (hold f body hmem)
    rw [hstart]
    exact ⟨hleading.trans hstream, hcarries⟩
  · exact ha.early (hstate hs) f body (hold f body hmem)

theorem shown {e : FlowEntry} {body : FrameBody} (ha : Served id a) (hstory : b.story = .built id e body :: a.story)
    (he : e.socket.stream = b.entry.socket.stream)
    (hstream : a.entry.socket.stream = b.entry.socket.stream)
    (haligned : b.entry.inbound.Aligned (payloadStart id a.story) b.lane)
    (hcarries : e.Carries (payloadStart id a.story) body)
    (hstate : b.entry.flow.state = .connecting → a.entry.flow.state = .connecting ∧ e.Mute body) : Served id b := by
  have hstart : payloadStart id b.story = payloadStart id a.story := by
    rw [hstory]
    exact payloadStart_append (N := [.built id e body]) (by simp [Notice.opens]) _
  refine ⟨by rw [hstart]; exact haligned, fun f other hmem => ?_, fun hs f other hmem => ?_⟩
  · rw [hstart]
    rw [hstory, List.mem_cons] at hmem
    rcases hmem with heq | hmem
    · cases heq
      exact ⟨he ▸ List.prefix_rfl, hcarries⟩
    · obtain ⟨hleading, hold⟩ := ha.carried f other hmem
      exact ⟨hstream ▸ hleading, hold⟩
  · rw [hstory, List.mem_cons] at hmem
    rcases hmem with heq | hmem
    · cases heq
      exact (hstate hs).2
    · exact ha.early (hstate hs).1 f other hmem

theorem born {key : FlowKey} {segment : TcpSegment} (h : Born cfg id a key segment) : Served id a := by
  obtain ⟨ni, li, mss, ps, ls, hflow, -, -⟩ := h.fresh.flow
  have hstate : a.entry.flow.state = .connecting := by
    rw [hflow]
    rfl
  have hnone : ∀ f body, Notice.built id f body ∉ a.story := by
    intro f body
    rw [h.story]
    simp
  refine ⟨?_, fun f body hmem => absurd hmem (hnone f body), fun _ f body hmem => absurd hmem (hnone f body)⟩
  rw [h.lane]
  exact .connecting hstate h.fresh.lastByte

theorem closes {story : List Notice} (ha : Served id a) (hstory : story = N ++ a.story)
    (hstill : ∀ n ∈ N, n.still id) {e : FlowEntry} (hstream : e.socket.stream = a.entry.socket.stream)
    (h : Strand.Closes id ⟨e, a.lane, story⟩ b) (hsteady : ∀ n ∈ b.story, n.steady = true) : Served id b := by
  cases h with
  | done =>
    refine ha.still (N := .released id e :: N) ?_ ?_ ?_ (.closed _ rfl) (by simp [Flow.close])
    · dsimp only
      rw [hstory]
      rfl
    · simpa [Notice.still] using hstill
    · exact ⟨[], (List.append_nil _).trans hstream.symm⟩
  | stuck => exact absurd (hsteady _ List.mem_cons_self) (by simp [Notice.steady])
  | broken => exact absurd (hsteady _ List.mem_cons_self) (by simp [Notice.steady])

theorem segment {g : FlowEntry} {segment : TcpSegment} {clamps : ℕ} (ha : Served id a) (htiled : Tiled id a)
    (hspared : a.Spared id) (hrst : segment.flags.rst = false) {f : FlowEntry}
    (hf : Touched (a.entry.settled segment) f) (hg : g.inbound = f.inbound) (hstill : ∀ n ∈ N, n.still id)
    (hsteady : ∀ n ∈ N ++ settleStory id (a.entry.ackedBy segment) clamps ++
      .segment id a.entry segment :: a.story, n.steady = true)
    (hshort : a.entry.socket.stream.length < 2 ^ 31 - 1) :
    Served id
      { a with
        entry := g
        story :=
          N ++ settleStory id (a.entry.ackedBy segment) clamps ++ .segment id a.entry segment :: a.story } := by
  have hold : ∀ n ∈ a.story, n.steady = true := fun n hn =>
    hsteady n (List.mem_append_right _ (List.mem_cons_of_mem _ hn))
  have hown := hsteady (.segment id a.entry segment) (List.mem_append_right _ List.mem_cons_self)
  simp only [Notice.steady, Bool.and_eq_true, Bool.not_eq_true'] at hown
  obtain ⟨haligned, -⟩ := ha.aligned.segment htiled.stage (hspared.steady hold) hrst hown.1 hown.2 hshort
  refine ha.still (N := N ++ settleStory id (a.entry.ackedBy segment) clamps ++
    [.segment id a.entry segment]) (by simp [List.append_assoc]) (segment_still hstill)
    (hf.stream_prefix.trans (stream_kept hg)) ?_ ?_
  · dsimp only
    rw [hg]
    exact haligned.touched hf
  · intro hs
    have hstate : g.flow.state = (a.entry.received segment).1.flow.state :=
      (congrArg Inbound.state hg).trans hf.state
    by_contra hconnected
    rcases FlowEntry.received_state (e := a.entry) hrst with heq | ⟨-, hne, -⟩
    · exact Flow.ackState_connected _ hconnected ((heq.symm.trans hstate.symm).trans hs)
    · exact hne (hstate.symm.trans hs)

theorem kept {f : FlowEntry} (ha : Served id a) (hf : f.inbound = a.entry.inbound) (hstill : ∀ n ∈ N, n.still id) :
    Served id { a with entry := f, story := N ++ a.story } := by
  refine ha.still rfl hstill (stream_kept hf) ?_ fun hs => (congrArg Inbound.state hf).symm.trans hs
  dsimp only
  rw [hf]
  exact ha.aligned

theorem replyConsumed (ha : Served id a) (count : ℕ) (h : a.entry.handshake.isSome = true) :
    Served id
      { a with
        entry :=
          { a.entry with
            socket := { a.entry.socket with consumed := a.entry.socket.consumed + count } } } := by
  refine ha.still (N := []) rfl (by simp) List.prefix_rfl ?_ fun hs => hs
  have haligned := ha.aligned
  have hwaits : a.entry.inbound.waiting = true := h
  generalize a.lane = lane at haligned
  cases haligned with
  | connecting hstate hlast => exact .connecting hstate hlast
  | opening _ _ hwaiting => exact absurd (hwaits.symm.trans hwaiting) (by simp)
  | flowing _ _ _ _ hwaiting => exact absurd (hwaits.symm.trans hwaiting) (by simp)
  | finishing _ _ hwaiting => exact absurd (hwaits.symm.trans hwaiting) (by simp)
  | closed _ hclosed => exact .closed lane hclosed

theorem planData {spec : TcpFrameSpec} {payload : Bytes} {plan : SendPlan} (ha : Served id a) (hlane : a.lane = [])
    (hstate : a.entry.sendable = true) (hne : payload ≠ [])
    (hpayload : payload = (a.entry.socket.queued a.entry.retained).take payload.length)
    (hsequence : spec.plan.sequence = a.entry.flow.localNext)
    (hplan : plan = ⟨a.entry.flow.localNext, a.entry.flow.namespaceAcked, payload.length, false, false⟩) :
    Served id
      ⟨{ a.entry with lastNamespaceByte := payload.getLast? }, [plan],
        .built id { a.entry with lastNamespaceByte := payload.getLast? } (.tcp spec payload) :: a.story⟩ := by
  subst hplan
  have hidle := ha.aligned
  rw [hlane] at hidle
  obtain ⟨haligned, hplace⟩ := hidle.planData hstate hne hpayload
  refine ha.shown rfl rfl rfl haligned ?_ fun hs => ?_
  · rintro spec' payload' heq
    cases heq
    rw [hsequence]
    exact .inr (.inr hplace)
  · have hstates : a.entry.flow.state = .established ∨ a.entry.flow.state = .namespaceFinReceived :=
      of_decide_eq_true hstate
    rw [show a.entry.flow.state = .connecting from hs] at hstates
    simp at hstates

theorem advanced_connecting {e : FlowEntry} {plan : SendPlan} (h : (e.advanced plan).flow.state = .connecting) :
    e.flow.state = .connecting := by
  by_contra hconnected
  unfold FlowEntry.advanced Flow.commitSend at h
  dsimp only at h
  split at h
  · split at h
    · dsimp only at h
      split at h <;> simp at h
    · exact hconnected h
  · exact hconnected h

theorem commit {plan : SendPlan} {rest : List SendPlan} (ha : Served id a) (htiled : Tiled id a)
    (hlane : a.lane = plan :: rest) (now : Millis) :
    Served id { a with entry := a.entry.committed plan now, lane := rest } := by
  have hnext := ha.aligned
  have hstage := htiled.stage
  rw [hlane] at hnext hstage
  exact ha.still (N := []) rfl (by simp) List.prefix_rfl (hnext.commit hstage now) advanced_connecting

theorem activated_aligned {bytesAcked start : ℕ} (ha : a.entry.inbound.Aligned start a.lane) (htiled : Tiled id a)
    (hconnecting : a.entry.flow.state = .connecting) (hhandshake : a.entry.handshake = none) :
    ({ a.entry with flow := (a.entry.flow.socketConnected bytesAcked).1 } : FlowEntry).inbound.Aligned
      a.entry.socket.consumed (a.lane ++ [(a.entry.flow.socketConnected bytesAcked).2]) := by
  have hidle := htiled.stage
  generalize a.lane = lane at hidle ha
  cases hidle with
  | connecting hstate hunacked hnext hfin hsegments =>
    cases ha with
    | connecting _ hlast =>
      refine .opening _ ?_ ?_ hfin hlast rfl hunacked (List.map_eq_nil_iff.mp hsegments) rfl rfl rfl rfl rfl
      · simp [FlowEntry.inbound, Flow.socketConnected]
      · simp [FlowEntry.inbound, hhandshake]
    | flowing _ _ _ hs => exact absurd hconnecting hs
    | finishing _ hs => exact absurd hconnecting hs
    | closed _ hclosed => exact absurd (hclosed.symm.trans hconnecting) (by simp)
  | opening _ hopened => exact absurd hconnecting hopened.1
  | idle hopened => exact absurd hconnecting hopened.1
  | planned _ hopened => exact absurd hconnecting hopened.1
  | closed hclosed => exact absurd (hclosed.symm.trans hconnecting) (by simp)

theorem activate {bytesAcked : ℕ} {busy : Bool} {body : FrameBody} (ha : Served id a) (htiled : Tiled id a)
    (hconnecting : a.entry.flow.state = .connecting) (hhandshake : a.entry.handshake = none)
    (hbody : body.payload = []) :
    Served id
      ⟨{ a.entry with flow := (a.entry.flow.socketConnected bytesAcked).1 },
        a.lane ++ [(a.entry.flow.socketConnected bytesAcked).2],
        .built id { a.entry with flow := (a.entry.flow.socketConnected bytesAcked).1 } body ::
          .activated id a.entry busy :: a.story⟩ := by
  have hstart : payloadStart id
      (.built id { a.entry with flow := (a.entry.flow.socketConnected bytesAcked).1 } body ::
        .activated id a.entry busy :: a.story) = a.entry.socket.consumed := payloadStart_activated ..
  have hplain : ({ a.entry with flow := (a.entry.flow.socketConnected bytesAcked).1 } : FlowEntry).Mute body :=
    .of_payload hbody
  refine ⟨?_, ?_, ?_⟩
  · dsimp only
    rw [hstart]
    exact activated_aligned ha.aligned htiled hconnecting hhandshake
  · intro f other hmem
    rw [hstart]
    simp only [List.mem_cons, reduceCtorEq, false_or] at hmem
    rcases hmem with heq | hmem
    · cases heq
      exact ⟨List.prefix_rfl, hplain.carries _⟩
    · exact ⟨(ha.carried f other hmem).1, (ha.early hconnecting f other hmem).carries _⟩
  · intro hs
    simp [Flow.socketConnected] at hs

theorem turn (ha : Served id a) (htiled : Tiled id a) (h : Turn cfg id a b)
    (hsteady : ∀ n ∈ b.story, n.steady = true) (hshort : a.entry.socket.stream.length < 2 ^ 31 - 1) :
    Served id b := by
  have hstream := h.stream
  cases h with
  | idle => exact ha
  | synLost => exact absurd (hsteady _ List.mem_cons_self) (by simp [Notice.steady])
  | serviced now => exact ha.kept (N := [_]) rfl (by simp [Notice.still])
  | timeWait h => exact ha.kept (N := [_]) rfl (by simp [Notice.still])
  | touch f h =>
    exact ha.still (N := []) rfl (by simp) hstream (ha.aligned.touched h) fun hs => h.state.symm.trans hs
  | replyConsumed count h => exact ha.replyConsumed count h
  | built body hspared h =>
    have hopen := hspared.steady fun n hn => hsteady n (List.mem_cons_of_mem _ hn)
    obtain ⟨hcarries, hmute⟩ := ha.aligned.builds htiled.stage hopen h
    exact ha.shown rfl rfl rfl ha.aligned hcarries fun hs => ⟨hs, hmute hs⟩
  | planData spec payload hlane hstate hne hwindow hpayload hsequence =>
    exact ha.planData hlane hstate hne hpayload hsequence rfl
  | planFin hlane hstate hwindow hretained hqueued heof =>
    have hidle := ha.aligned
    rw [hlane] at hidle
    exact ha.still (N := []) rfl (by simp) hstream (hidle.planFin hstate hretained hqueued heof rfl rfl)
      fun hs => hs
  | commit plan rest now hlane hmatch => exact ha.commit htiled hlane now
  | commitMismatched plan rest hlane hmatch =>
    have hstage := htiled.stage
    rw [hlane] at hstage
    exact absurd (hstage.commitMatches.symm.trans hmatch) (by simp)
  | drop plan rest hlane => exact absurd (hsteady _ List.mem_cons_self) (by simp [Notice.steady])
  | flush f hspared h hrest => exact ha.kept (N := []) (FlowEntry.inbound_drained h) (by simp)
  | flushFin f hspared h hempty hshut =>
    have hinbound : ({ f.shut with pendingShutdown := false } : FlowEntry).inbound = a.entry.inbound := by
      rw [← FlowEntry.inbound_drained h]
      rfl
    exact ha.kept (N := [_]) hinbound (by simp [Notice.still])
  | flushFinFailed f error hspared h =>
    exact ha.kept (N := [_]) (FlowEntry.inbound_drained h) (by simp [Notice.still])
  | handled f g segment clamps N hspared hrst hf hg =>
    exact ha.segment htiled hspared hrst hf (FlowEntry.inbound_delivered hg) hg.still hsteady hshort
  | lost f g segment clamps N hspared hrst hf hg =>
    exact ha.segment htiled hspared hrst hf (FlowEntry.inbound_lost hg) hg.still hsteady hshort
  | ackAborted f segment clamps count fault hspared hrst hf hfault =>
    exact absurd (hsteady fault List.mem_cons_self) (by simp [hfault.unsteady])
  | reset segment b hspared hrst h =>
    obtain ⟨-, hentry⟩ := FlowEntry.received_reset (e := a.entry) hrst
    refine ha.closes (N := [.segment id a.entry segment]) rfl (by simp [Notice.still]) ?_ h hsteady
    rw [hentry]
  | close b hspared h => exact ha.closes (N := []) rfl (by simp) rfl h hsteady
  | activate bytesAcked busy body hspared hbusy hhandshake hbody =>
    have hown := hsteady (.activated id a.entry busy) (List.mem_cons_of_mem _ List.mem_cons_self)
    exact ha.activate htiled (of_decide_eq_true hown) hhandshake hbody
  | activateLost bytesAcked busy hspared hbusy hhandshake =>
    exact absurd (hsteady _ List.mem_cons_self) (by simp [Notice.steady])

end Served

theorem Lived.served {cfg : Config} {id : FlowId} {a : Strand} (h : Lived cfg id a)
    (hsteady : ∀ n ∈ a.story, n.steady = true) (hshort : a.entry.socket.stream.length < 2 ^ 31 - 1) :
    Served id a := by
  induction h with
  | born h => exact Served.born h
  | @turn a b ha hturn ih =>
    obtain ⟨N, hstory⟩ := hturn.story
    have hold : ∀ n ∈ a.story, n.steady = true := fun n hn => hsteady n (hstory ▸ List.mem_append_right _ hn)
    have hless := hturn.stream.length_le
    exact (ih hold (by omega)).turn (ha.tiled hold) hturn hsteady (by omega)

namespace Reactor

/-- In every run in which every notice about a flow is steady, and while the stream stays below half of
the number space, a frame of the flow carries the bytes its sequence number stands for, and the socket's
head is the first byte not acknowledged. -/
theorem downstream_bytes_placed (cfg : Config) (s : Reactor) (hs : Reachable cfg s) (id : FlowId) (e : FlowEntry)
    (hget : s.flows.get id = some e) (hshort : e.socket.stream.length < 2 ^ 31 - 1)
    (hsteady : ∀ n ∈ s.journal, n.about = some id → n.steady = true) :
    (∀ f body, Notice.built id f body ∈ s.journal →
      f.socket.stream <+: e.socket.stream ∧ f.Carries (payloadStart id s.journal) body) ∧
    (e.open? = true → e.flow.state ≠ .connecting → e.Heads (payloadStart id s.journal)) := by
  have hserved := (hs.lived hget).served (fun n hn => by
    obtain ⟨hmem, habout⟩ := mem_story.mp hn
    exact hsteady n hmem habout) hshort
  have hstart : payloadStart id (story id s.journal) = payloadStart id s.journal := payloadStart_story id _
  refine ⟨fun f body hmem => ?_, fun hopen hstate => ?_⟩
  · rw [← hstart]
    exact hserved.carried f body (mem_story.mpr ⟨hmem, rfl⟩)
  · rw [← hstart]
    exact hserved.aligned.heads hopen hstate

/-- One of three bytes sent is acknowledged and taken off the socket; two more arrive. -/
theorem downstream_bytes_placed_partly :
    ∃ s e, Reachable (.sample (.direct false)) s ∧ s.flows.get ⟨0, 1⟩ = some e ∧
      e.socket.stream = [1, 2, 3, 4, 5] ∧ e.socket.consumed = 1 ∧ e.Heads 0 ∧
      ∀ f body, Notice.built ⟨0, 1⟩ f body ∈ s.journal → f.Carries 0 body := by
  have hrun : (replay (.sample (.direct false)) partlyAcknowledged
      (Reactor.new (.sample (.direct false)) .quiet {} 0 0)).map (fun s =>
        ((s.flows.get ⟨0, 1⟩).map fun e => (e.socket.stream, e.socket.consumed, e.sendable),
          noticesPass Notice.steady ⟨0, 1⟩ s, payloadStart ⟨0, 1⟩ s.journal)) =
      some (some ([1, 2, 3, 4, 5], 1, true), true, 0) := by decide +kernel
  obtain ⟨s, hs, hfields⟩ := Option.map_eq_some_iff.mp hrun
  simp only [Prod.mk.injEq] at hfields
  obtain ⟨hentry, hsteady, hstart⟩ := hfields
  obtain ⟨e, hget, hvalues⟩ := Option.map_eq_some_iff.mp hentry
  simp only [Prod.mk.injEq] at hvalues
  obtain ⟨hstream, hconsumed, hsendable⟩ := hvalues
  have hreachable := reachable_of_replay _ partlyAcknowledged (.start .quiet {} 0 0) hs
  have hshort : e.socket.stream.length < 2 ^ 31 - 1 := by
    rw [hstream]
    decide
  obtain ⟨hcarries, hheads⟩ := downstream_bytes_placed _ s hreachable _ e hget hshort (of_noticesPass hsteady)
  rw [hstart] at hcarries hheads
  have hstates : e.flow.state = .established ∨ e.flow.state = .namespaceFinReceived := of_decide_eq_true hsendable
  refine ⟨s, e, hreachable, hget, hstream, hconsumed, hheads ?_ ?_, fun f body hmem => (hcarries f body hmem).2⟩
  · rcases hstates with h | h <;> simp [FlowEntry.open?, h]
  · rcases hstates with h | h <;> simp [h]

end Reactor

end Yayatht
