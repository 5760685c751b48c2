import Yayatht.FlowRunSteps
import Yayatht.FlowWindowPromise
import Yayatht.PendingLedger

set_option autoImplicit false

/-!
# What backs an advertised window

A window is advertised from the room of the flow's own queue and from the room all
flows share, and it is not taken back when another flow uses up that room.
`awaiting` is the payload that `receive` accepted and the handler did not submit yet.
-/
namespace Yayatht
open EffectLogic Sequence SerialArithmetic

namespace Flow

variable {f : Flow}

/-- A FIN is taken in order while the receive point is as far past the edge as the
comparison can tell; one further, and the edge counts as ahead again. -/
def Wraps (f : Flow) (segment : TcpSegment) : Prop :=
  segment.flags.rst = false ∧ segment.flags.fin = true ∧ segment.sequence = f.namespaceNext ∧
    segment.payload.length ≤ f.advertisedWindow ∧ gap f.receiveEdge f.namespaceNext = 2 ^ 31 - 1

theorem gap_succ (a b : Seq) (h : 0 < gap a b) : gap (a + 1) b = gap a b - 1 := by
  have hone : gap a (a + 1) = 1 := gap_add_left a 1 (by decide)
  have hsplit := gap_split a (a + 1) b (by omega)
  omega

theorem advertisedWindow_payload {n : ℕ} (hn : n ≤ f.advertisedWindow) (g : Flow)
    (hnext : g.namespaceNext = f.namespaceNext + BitVec.ofNat 32 n) (hedge : g.receiveEdge = f.receiveEdge) :
    g.advertisedWindow + n = f.advertisedWindow ∧
      gap g.namespaceNext g.receiveEdge + n = gap f.namespaceNext f.receiveEdge := by
  rw [advertisedWindow_eq] at hn ⊢
  rw [advertisedWindow_eq, hnext, hedge]
  have hlt := gap_lt f.namespaceNext f.receiveEdge
  have hstep : gap f.namespaceNext (f.namespaceNext + BitVec.ofNat 32 n) = n := by
    apply gap_add_left
    split at hn <;> omega
  have hle : n ≤ gap f.namespaceNext f.receiveEdge := by split at hn <;> omega
  have hsplit := gap_split f.namespaceNext (f.namespaceNext + BitVec.ofNat 32 n) f.receiveEdge (by omega)
  rw [hstep] at hsplit
  constructor
  · rw [hsplit]
    split at hn
    · rw [if_pos (by omega), if_pos (by omega)]
      omega
    · have hzero : n = 0 := by omega
      subst hzero
      simp
  · omega

/-- A FIN narrows the window, unless it wraps. -/
theorem advertisedWindow_fin (g h : Flow) (hnext : h.namespaceNext = g.namespaceNext + 1)
    (hedge : h.receiveEdge = g.receiveEdge) (hwrap : gap g.receiveEdge g.namespaceNext ≠ 2 ^ 31 - 1) :
    h.advertisedWindow ≤ g.advertisedWindow := by
  rw [advertisedWindow_eq, advertisedWindow_eq, hnext, hedge]
  by_cases hsame : g.namespaceNext = g.receiveEdge
  · have hone : gap g.receiveEdge (g.receiveEdge + 1) = 1 := gap_add_left _ 1 (by decide)
    have hback : gap (g.receiveEdge + 1) g.receiveEdge = 2 ^ 32 - 1 := by
      rw [gap_swap g.receiveEdge (g.receiveEdge + 1) (fun he => by rw [← he, gap_self] at hone; omega), hone]
    rw [hsame, hback, if_neg (by omega)]
    exact Nat.zero_le _
  · have hpos : 0 < gap g.namespaceNext g.receiveEdge :=
      Nat.pos_of_ne_zero fun hzero => hsame ((gap_eq_zero_iff _ _).mp hzero)
    have hback := gap_swap g.namespaceNext g.receiveEdge hsame
    rw [gap_succ _ _ hpos]
    split
    · rw [if_pos (by omega)]
      omega
    · exact Nat.zero_le _

theorem advertisedWindow_widened (f : Flow) (budget : ℕ) :
    (f.setAdvertisedWindow budget).1.advertisedWindow ≤ max f.advertisedWindow budget := by
  unfold setAdvertisedWindow
  dsimp only
  split
  · refine Nat.le_trans ?_ (Nat.le_max_right _ _)
    rw [advertisedWindow_eq]
    dsimp only
    have hgap : gap f.namespaceNext (f.namespaceNext + BitVec.ofNat 32 (min budget f.maxAdvertisedWindow)) ≤
        min budget f.maxAdvertisedWindow := by
      unfold gap
      rw [BitVec.add_comm, BitVec.add_sub_cancel, BitVec.toNat_ofNat]
      exact Nat.mod_le _ _
    split <;> omega
  · exact Nat.le_max_left _ _

end Flow

/-- The payload a segment leaves to be submitted. -/
def ReceiveDisposition.accepted (payload : Bytes) : ReceiveDisposition → Bytes
  | .inOrder n _ => if n > 0 then payload else []
  | _ => []

theorem FlowEntry.received_window (e : FlowEntry) (segment : TcpSegment) (hwrap : ¬e.flow.Wraps segment) :
    (e.received segment).1.flow.advertisedWindow +
      ((e.received segment).2.accepted segment.payload).length ≤ e.flow.advertisedWindow := by
  unfold received
  dsimp only
  rcases e.flow.receive_cases segment.sequence (if segment.flags.ack then some segment.acknowledgment else none)
      segment.window.toNat segment.payload.length segment.flags.fin segment.flags.rst with
    ⟨-, heq⟩ | ⟨-, disposition, -, hdisposition, heq⟩ | ⟨hrst, hseq, hfits, hsome, heq⟩
  · rw [heq]
    exact Nat.le_refl _
  · rw [heq, Flow.receiveAck_eq]
    cases disposition with
    | inOrder n b =>
      obtain ⟨rfl, -⟩ := hdisposition n b rfl
      exact Nat.le_refl _
    | duplicate => exact Nat.le_refl _
    | outOfOrder => exact Nat.le_refl _
    | outsideWindow => exact Nat.le_refl _
    | reset => exact Nat.le_refl _
    | invalid => exact Nat.le_refl _
  · rw [heq]
    have hlen : ((ReceiveDisposition.inOrder segment.payload.length segment.flags.fin).accepted
        segment.payload).length = segment.payload.length := by
      change (if segment.payload.length > 0 then segment.payload else []).length = _
      split
      · rfl
      · exact (Nat.eq_zero_of_not_pos ‹_›).symm
    rw [hlen]
    have hpayload := Flow.advertisedWindow_payload hfits
    cases hfin : segment.flags.fin with
    | false =>
      rw [Flow.advance_payload, Flow.receiveAck_eq]
      refine (Eq.le ?_ : _ ≤ e.flow.advertisedWindow)
      exact (hpayload { e.flow with
        namespaceNext := e.flow.namespaceNext + BitVec.ofNat 32 segment.payload.length } rfl rfl).1
    | true =>
      rw [Flow.advance_fin, Flow.receiveAck_eq]
      obtain ⟨hwindow, hgap⟩ := hpayload
        { e.flow with namespaceNext := e.flow.namespaceNext + BitVec.ofNat 32 segment.payload.length } rfl rfl
      rw [← hwindow]
      apply Nat.add_le_add_right
      apply Flow.advertisedWindow_fin
      · rfl
      · rfl
      · intro hfar
        dsimp only at hfar hgap
        -- past the edge the window is closed and the segment carries nothing but the FIN
        have hne : e.flow.receiveEdge ≠ e.flow.namespaceNext + BitVec.ofNat 32 segment.payload.length := by
          intro he
          rw [← he, gap_self] at hfar
          omega
        have hback := gap_swap _ _ hne
        have hclosed : e.flow.advertisedWindow = 0 := by
          rw [Flow.advertisedWindow_eq, if_neg (by omega)]
        have hempty : segment.payload.length = 0 := by omega
        rw [hempty] at hfar
        exact hwrap ⟨hrst, hfin, hseq, hfits, by simpa using hfar⟩

namespace Reactor

variable {s t : Reactor} {id : FlowId} {e f : FlowEntry}

def openEntryAt (s : Reactor) (id : FlowId) : Option FlowEntry :=
  if id ∈ s.flows.deferred then none else s.flows.get id

theorem openEntryAt_eq_some : s.openEntryAt id = some e ↔ id ∉ s.flows.deferred ∧ s.flows.get id = some e := by
  unfold openEntryAt
  split <;> simp_all

theorem queuedBytes_eq (s : Reactor) (id : FlowId) :
    s.queuedBytes id = ((s.openEntryAt id).map fun e => e.pendingSocket.bytes).getD 0 := by
  unfold queuedBytes queue? openEntryAt
  split
  · rfl
  · rw [Option.map_map]
    rfl

theorem queuedBytes_of_openEntryAt (h : s.openEntryAt id = some e) : s.queuedBytes id = e.pendingSocket.bytes := by
  rw [queuedBytes_eq, h]
  rfl

theorem queuedBytes_of_closed (h : s.openEntryAt id = none) : s.queuedBytes id = 0 := by
  rw [queuedBytes_eq, h]
  rfl

/-- One open entry was replaced. -/
structure Replaced (id : FlowId) (f : FlowEntry) (s t : Reactor) : Prop where
  wf : s.flows.Wf → t.flows.Wf
  slots : t.flows.slots.length = s.flows.slots.length
  entry : t.openEntryAt id = some f
  others : ∀ other, other ≠ id → t.openEntryAt other = s.openEntryAt other

theorem Replaced.of_modify {g : FlowEntry → FlowEntry} (h : s.openEntryAt id = some e)
    (hflows : t.flows = s.flows.modify id g) : Replaced id (g e) s t := by
  obtain ⟨hopen, hget⟩ := openEntryAt_eq_some.mp h
  refine ⟨fun hwf => ?_, ?_, ?_, ?_⟩
  · rw [hflows]
    exact hwf.modify id g
  · rw [hflows]
    exact List.length_modify _ _ _
  · rw [openEntryAt_eq_some, hflows, FlowTable.modify_deferred, FlowTable.get_modify_self, hget]
    exact ⟨hopen, rfl⟩
  · intro other hne
    unfold openEntryAt
    rw [hflows, FlowTable.modify_deferred, FlowTable.get_modify_of_ne _ _ _ _ hne]

theorem queuedBytes_of_openEntryAt_eq {other : FlowId} (h : t.openEntryAt other = s.openEntryAt other) :
    t.queuedBytes other = s.queuedBytes other := by
  rw [queuedBytes_eq, queuedBytes_eq, h]

theorem mem_activeIds (h : s.openEntryAt id = some e) : id ∈ s.flows.activeIds := by
  rw [FlowTable.mem_activeIds, (openEntryAt_eq_some.mp h).2]
  rfl

/-- With every queue of at most `limit` bytes, the room of one is left over from all. -/
theorem openBytes_room {limit : ℕ} (h : s.openEntryAt id = some e)
    (hlimit : ∀ other, s.queuedBytes other ≤ limit) :
    s.openBytes + (limit - e.pendingSocket.bytes) ≤ s.flows.slots.length * limit := by
  have hbytes := queuedBytes_of_openEntryAt h
  have hactive : id ∈ s.flows.activeIds.toFinset := List.mem_toFinset.mpr (mem_activeIds h)
  have hsum := s.openBytes_eq_sum s.flows.activeIds.toFinset fun other hm => List.mem_toFinset.mpr hm
  have hothers : ∑ other ∈ s.flows.activeIds.toFinset.erase id, s.queuedBytes other ≤
      (s.flows.activeIds.toFinset.erase id).card * limit := by
    have hle := Finset.sum_le_card_nsmul (s.flows.activeIds.toFinset.erase id) s.queuedBytes limit
      fun other _ => hlimit other
    exact hle
  have hcard : (s.flows.activeIds.toFinset.erase id).card + 1 ≤ s.flows.slots.length := by
    rw [Finset.card_erase_add_one hactive]
    exact (List.toFinset_card_le _).trans (FlowTable.length_activeFrom_le _ _)
  have hown := hlimit id
  rw [hsum, ← Finset.add_sum_erase _ _ hactive, hbytes]
  have hmul := Nat.mul_le_mul_right limit hcard
  rw [Nat.add_mul, Nat.one_mul] at hmul
  omega

/-- There is no second flow in a table of one slot. -/
theorem only_active (hone : s.flows.slots.length = 1) {other : FlowId} (hid : id ∈ s.flows.activeIds)
    (hother : other ∈ s.flows.activeIds) : other = id := by
  have hle := FlowTable.length_activeFrom_le s.flows.slots 0
  unfold FlowTable.activeIds at hid hother
  generalize FlowTable.activeFrom 0 s.flows.slots = ids at hle hid hother
  cases ids with
  | nil => cases hid
  | cons first rest =>
    have hrest : rest = [] := List.eq_nil_of_length_eq_zero (by rw [List.length_cons] at hle; omega)
    subst hrest
    rw [List.mem_singleton] at hid hother
    rw [hid, hother]

theorem openBytes_of_lone (hone : s.flows.slots.length = 1) (h : s.openEntryAt id = some e) :
    s.openBytes = e.pendingSocket.bytes := by
  rw [s.openBytes_eq_sum {id} fun other hm => Finset.mem_singleton.mpr (only_active hone (mem_activeIds h) hm),
    Finset.sum_singleton, queuedBytes_of_openEntryAt h]

end Reactor

/-- Every window, with the payload still to be submitted, has its bytes left in the queue of its
flow; the shared count is at most the queued bytes; and a lone flow is backed by the shared limit. -/
structure Backed (cfg : Config) (awaiting : FlowId → ℕ) (s : Reactor) : Prop where
  wf : s.flows.Wf
  slots : s.flows.slots.length = cfg.maxTcpFlows
  limits : ∀ id e, s.openEntryAt id = some e → e.pendingSocket.limit = maxPendingSocketBytes
  rooms : ∀ id e, s.openEntryAt id = some e →
    e.flow.advertisedWindow + e.pendingSocket.bytes + awaiting id ≤ maxPendingSocketBytes
  total : s.pendingSocketBytes ≤ s.openBytes
  lone : cfg.maxTcpFlows = 1 → u16Max ≤ cfg.maxPendingTcpBytes → ∀ id e, s.openEntryAt id = some e →
    e.flow.advertisedWindow + awaiting id + s.pendingSocketBytes ≤ cfg.maxPendingTcpBytes

namespace Backed
open Reactor

variable {cfg : Config} {awaiting awaiting' : FlowId → ℕ} {s t : Reactor} {id : FlowId} {e f : FlowEntry}

theorem replaced (h : Backed cfg awaiting s) (he : s.openEntryAt id = some e) (hr : Replaced id f s t)
    {a b : ℕ} (hqueue : f.pendingSocket.bytes = e.pendingSocket.bytes - a + b)
    (hcount : t.pendingSocketBytes = s.pendingSocketBytes - a + b)
    (hlimit : f.pendingSocket.limit = e.pendingSocket.limit)
    (hawaiting : ∀ other, other ≠ id → awaiting' other ≤ awaiting other)
    (hroom : f.flow.advertisedWindow + f.pendingSocket.bytes + awaiting' id ≤ maxPendingSocketBytes)
    (hlone : cfg.maxTcpFlows = 1 → u16Max ≤ cfg.maxPendingTcpBytes →
      f.flow.advertisedWindow + awaiting' id + t.pendingSocketBytes ≤ cfg.maxPendingTcpBytes) :
    Backed cfg awaiting' t := by
  have hcases : ∀ other g, t.openEntryAt other = some g →
      (other = id ∧ g = f) ∨ (other ≠ id ∧ s.openEntryAt other = some g) := by
    intro other g hg
    by_cases hsame : other = id
    · subst hsame
      rw [hr.entry] at hg
      exact .inl ⟨rfl, (Option.some.inj hg).symm⟩
    · rw [hr.others other hsame] at hg
      exact .inr ⟨hsame, hg⟩
  refine ⟨hr.wf h.wf, hr.slots.trans h.slots, ?_, ?_, ?_, ?_⟩
  · intro other g hg
    rcases hcases other g hg with ⟨rfl, rfl⟩ | ⟨-, hold⟩
    · exact hlimit.trans (h.limits _ e he)
    · exact h.limits other g hold
  · intro other g hg
    rcases hcases other g hg with ⟨rfl, rfl⟩ | ⟨hne, hold⟩
    · exact hroom
    · have hold' := h.rooms other g hold
      have hless := hawaiting other hne
      omega
  · have hsum := openBytes_changed (s := s) (t := t) id
      fun other hne => queuedBytes_of_openEntryAt_eq (hr.others other hne)
    rw [queuedBytes_of_openEntryAt he, queuedBytes_of_openEntryAt hr.entry] at hsum
    have hle := s.queuedBytes_le id
    rw [queuedBytes_of_openEntryAt he] at hle
    have htotal := h.total
    omega
  · intro hone hwide other g hg
    rcases hcases other g hg with ⟨rfl, rfl⟩ | ⟨hne, hold⟩
    · exact hlone hone hwide
    · exact absurd (only_active (h.slots.trans hone) (mem_activeIds he) (mem_activeIds hold)) hne

theorem weaken (h : Backed cfg awaiting s) (hle : ∀ id, awaiting' id ≤ awaiting id) : Backed cfg awaiting' s := by
  refine ⟨h.wf, h.slots, h.limits, ?_, h.total, ?_⟩
  · intro id e he
    have hroom := h.rooms id e he
    have hless := hle id
    omega
  · intro hone hwide id e he
    have hlone := h.lone hone hwide id e he
    have hless := hle id
    omega

theorem counted (h : Backed cfg awaiting s) (hflows : t.flows = s.flows)
    (hcount : t.pendingSocketBytes ≤ s.pendingSocketBytes) : Backed cfg awaiting t := by
  have hentry : ∀ id, t.openEntryAt id = s.openEntryAt id := by
    intro id
    unfold openEntryAt
    rw [hflows]
  have hbytes : t.openBytes = s.openBytes := openBytes_same fun id => queuedBytes_of_openEntryAt_eq (hentry id)
  refine ⟨?_, ?_, ?_, ?_, ?_, ?_⟩
  · rw [hflows]
    exact h.wf
  · rw [hflows]
    exact h.slots
  · intro id e he
    exact h.limits id e ((hentry id).symm.trans he)
  · intro id e he
    exact h.rooms id e ((hentry id).symm.trans he)
  · have htotal := h.total
    omega
  · intro hone hwide id e he
    have hlone := h.lone hone hwide id e ((hentry id).symm.trans he)
    omega

theorem of_flowSide (h : Backed cfg awaiting s) (hside : flowSide t = flowSide s) : Backed cfg awaiting t := by
  simp only [flowSide, Prod.mk.injEq] at hside
  exact h.counted hside.1 hside.2.1.le

theorem retired (h : Backed cfg awaiting s) (he : s.openEntryAt id = some e)
    (hflows : t.flows = (s.flows.modify id fun e => { e with flow := e.flow.close }).deferRemove id)
    (hcount : t.pendingSocketBytes = s.pendingSocketBytes - e.pendingSocket.bytes) : Backed cfg awaiting t := by
  obtain ⟨hopen, hget⟩ := openEntryAt_eq_some.mp he
  have hgone : t.openEntryAt id = none := by
    unfold openEntryAt
    rw [hflows, if_pos]
    rw [FlowTable.mem_deferred_deferRemove, FlowTable.get_modify_self, hget]
    exact .inr ⟨rfl, rfl⟩
  have hothers : ∀ other, other ≠ id → t.openEntryAt other = s.openEntryAt other := by
    intro other hne
    have hdeferred : other ∈ t.flows.deferred ↔ other ∈ s.flows.deferred := by
      rw [hflows, FlowTable.mem_deferred_deferRemove, FlowTable.modify_deferred]
      simp [hne]
    have hsame : t.flows.get other = s.flows.get other := by
      rw [hflows, FlowTable.get_deferRemove, FlowTable.get_modify_of_ne _ _ _ _ hne]
    unfold openEntryAt
    rw [hsame]
    simp only [hdeferred]
  have hback : ∀ other g, t.openEntryAt other = some g → s.openEntryAt other = some g := by
    intro other g hg
    by_cases hsame : other = id
    · subst hsame
      rw [hgone] at hg
      cases hg
    · exact (hothers other hsame).symm.trans hg
  have hless : t.pendingSocketBytes ≤ s.pendingSocketBytes := by omega
  refine ⟨?_, ?_, ?_, ?_, ?_, ?_⟩
  · rw [hflows]
    exact (h.wf.modify _ _).deferRemove _
  · rw [hflows]
    exact (FlowTable.length_slots_deferRemove _ _).trans ((FlowTable.length_slots_modify _ _ _).trans h.slots)
  · exact fun other g hg => h.limits other g (hback other g hg)
  · exact fun other g hg => h.rooms other g (hback other g hg)
  · have hsum := openBytes_changed (s := s) (t := t) id
      fun other hne => queuedBytes_of_openEntryAt_eq (hothers other hne)
    rw [queuedBytes_of_openEntryAt he, queuedBytes_of_closed hgone] at hsum
    have htotal := h.total
    omega
  · intro hone hwide other g hg
    have hlone := h.lone hone hwide other g (hback other g hg)
    omega

theorem closeFlow (h : Backed cfg awaiting s) (he : s.openEntryAt id = some e) :
    Ends (Reactor.closeFlow cfg id) s (fun _ t => Backed cfg awaiting t) fun _ t => Backed cfg awaiting t := by
  obtain ⟨hopen, hget⟩ := openEntryAt_eq_some.mp he
  have hnoted : ∀ (t : Reactor) (notice : Notice), Backed cfg awaiting t →
      Backed cfg awaiting { t with journal := notice :: t.journal } :=
    fun t notice ht => ht.counted rfl (Nat.le_refl _)
  unfold Reactor.closeFlow
  refine Ends.bind (R := fun a t => s = a ∧ s = t) (Ends.get ⟨rfl, rfl⟩) ?_
  rintro _ _ ⟨rfl, rfl⟩
  rw [hget]
  dsimp only
  refine Ends.bind (R := fun _ t => s = t) (noteFailure_noted ?_ fun t ht => hnoted t _ ht) ?_
  · cases e.construction.activeSides with
    | some sides => exact Ends.pure rfl
    | none => exact Ends.throw h
  rintro sides _ rfl
  refine Ends.bind (R := fun _ t => flowSide t = flowSide s) (noteFailure_noted ?_ fun t ht => hnoted t _ ht) ?_
  · exact Ends.mono (flowSide_epollDelete s) (fun _ _ ht => ht) fun _ _ ht => h.of_flowSide ht
  intro _ t hside
  simp only [flowSide, Prod.mk.injEq] at hside
  obtain ⟨hflows, hbytes, -, -⟩ := hside
  refine Ends.bind (Ends.mono (releaseAccounting_ends cfg id sides.namespaceKey e t) (fun _ _ h => h)
    fun _ _ h => h.elim) ?_
  rintro _ u ⟨hflows', -, -, -, hbytes', -, -⟩
  have hsame : u.flows = s.flows := hflows'.trans hflows
  have hcount : u.pendingSocketBytes = s.pendingSocketBytes - e.pendingSocket.bytes := by rw [hbytes', hbytes]
  -- the count is given back before the last call that can fail
  have hbacked : Backed cfg awaiting u := h.counted hsame (by omega)
  refine Ends.bind (R := fun _ v => flowSide v = flowSide u) (noteFailure_noted ?_ fun t ht => hnoted t _ ht) ?_
  · exact Ends.mono (flowSide_updateTapInterest u) (fun _ _ ht => ht) fun _ _ ht => hbacked.of_flowSide ht
  intro _ v hside
  simp only [flowSide, Prod.mk.injEq] at hside
  obtain ⟨hv, hvbytes, -, -⟩ := hside
  have hgetv : v.flows.get id = some e := by rw [hv, hsame]; exact hget
  refine Ends.bind (Ends.mono (modifyEntry_ends hgetv _) (fun _ _ h => h) fun _ _ h => h.elim) ?_
  rintro _ _ rfl
  refine Ends.modify (h.retired he ?_ ?_)
  · dsimp only
    rw [hv, hsame]
  · exact hvbytes.trans hcount

theorem failTcpFlow (h : Backed cfg awaiting s) (he : s.openEntryAt id = some e) :
    Ends (Reactor.failTcpFlow cfg id) s (fun _ t => Backed cfg awaiting t) fun _ t => Backed cfg awaiting t := by
  unfold Reactor.failTcpFlow
  refine Ends.bind (R := fun _ t => flowSide t = flowSide s)
    (Ends.mono (flowSide_sendResetForFlow cfg id s) (fun _ _ ht => ht) fun _ _ ht => h.of_flowSide ht) ?_
  intro _ t hside
  have he' : t.openEntryAt id = some e := by
    simp only [flowSide, Prod.mk.injEq] at hside
    unfold openEntryAt
    rw [hside.1]
    exact he
  exact (h.of_flowSide hside).closeFlow he'

theorem enqueuePendingPayload (h : Backed cfg awaiting s) (he : s.openEntryAt id = some e) {payload : Bytes}
    (hlen : payload.length ≤ awaiting id) :
    Ends (Reactor.enqueuePendingPayload cfg id payload) s (fun _ t => Backed cfg (fun _ => 0) t)
      fun _ t => Backed cfg (fun _ => 0) t := by
  obtain ⟨hopen, hget⟩ := openEntryAt_eq_some.mp he
  have hsettled : Backed cfg (fun _ => 0) s := h.weaken fun _ => Nat.zero_le _
  unfold Reactor.enqueuePendingPayload
  refine Ends.bind (R := fun a t => s = a ∧ s = t) (Ends.get ⟨rfl, rfl⟩) ?_
  rintro _ _ ⟨rfl, rfl⟩
  refine Ends.bind (Ends.mono (flowEntry_ends hget) (fun _ _ h => h) fun _ _ h => h.elim) ?_
  rintro _ _ ⟨rfl, rfl⟩
  split
  · refine Ends.bind (R := fun _ t => flowSide t = flowSide s) (Ends.modify rfl) ?_
    intro _ t hside
    refine Ends.bind (R := fun _ u => flowSide u = flowSide s) (Ends.modify hside) ?_
    intro _ u hside
    have he' : u.openEntryAt id = some e := by
      simp only [flowSide, Prod.mk.injEq] at hside
      unfold openEntryAt
      rw [hside.1]
      exact he
    exact Ends.bind ((hsettled.of_flowSide hside).failTcpFlow he') fun _ _ ht => Ends.pure ht
  · rename_i hroom
    obtain ⟨hlocal, hglobal⟩ := not_or.mp hroom
    obtain ⟨queue, hqueue⟩ := Option.isSome_iff_exists.mp (PendingSocketQueue.push_isSome (Nat.le_of_not_gt hlocal))
    have hfits : e.pendingSocket.bytes ≤ e.pendingSocket.limit := by
      have hlimit := h.limits id e he
      have hrooms := h.rooms id e he
      omega
    obtain ⟨hbytes, hlimit, -⟩ := PendingSocketQueue.push_bytes hqueue hfits
    refine Ends.bind (R := fun a t => queue = a ∧ s = t) ?_ ?_
    · rw [hqueue]
      exact Ends.pure ⟨rfl, rfl⟩
    rintro _ _ ⟨rfl, rfl⟩
    refine Ends.bind (Ends.mono (modifyEntry_ends hget _) (fun _ _ h => h) fun _ _ h => h.elim) ?_
    rintro _ _ rfl
    refine Ends.bind (R := fun _ t => t.flows = s.flows.modify id (fun e => { e with pendingSocket := queue }) ∧
      t.pendingSocketBytes = s.pendingSocketBytes + payload.length) (Ends.modify ⟨rfl, rfl⟩) ?_
    rintro _ t ⟨hflows, hcount⟩
    refine Ends.bind (Ends.mono (updatePendingPressureState_ends cfg t) (fun _ _ h => h) fun _ _ h => h.elim) ?_
    rintro _ u ⟨hflows', hcount', -⟩
    refine Ends.pure (h.replaced (a := 0) (b := payload.length) he
      (.of_modify he (hflows'.trans hflows)) hbytes (hcount'.trans hcount) hlimit (fun _ _ => Nat.zero_le _) ?_ ?_)
    · have hrooms := h.rooms id e he
      change e.flow.advertisedWindow + queue.bytes + 0 ≤ _
      omega
    · intro hone hwide
      have hlone := h.lone hone hwide id e he
      change e.flow.advertisedWindow + 0 + u.pendingSocketBytes ≤ _
      rw [hcount', hcount]
      omega

theorem touched (h : Backed cfg awaiting s) (he : s.openEntryAt id = some e) {g : FlowEntry → FlowEntry}
    (hflows : t.flows = s.flows.modify id g) (hcount : t.pendingSocketBytes = s.pendingSocketBytes)
    (hnext : (g e).flow.namespaceNext = e.flow.namespaceNext) (hedge : (g e).flow.receiveEdge = e.flow.receiveEdge)
    (hqueue : (g e).pendingSocket = e.pendingSocket) : Backed cfg awaiting t := by
  have hwindow : (g e).flow.advertisedWindow = e.flow.advertisedWindow := by
    unfold Flow.advertisedWindow
    rw [hnext, hedge]
  refine h.replaced (a := 0) (b := 0) he (.of_modify he hflows) (by rw [hqueue]; rfl) hcount (by rw [hqueue])
    (fun _ _ => Nat.le_refl _) ?_ ?_
  · rw [hwindow, hqueue]
    exact h.rooms id e he
  · intro hone hwide
    rw [hwindow, hcount]
    exact h.lone hone hwide id e he

theorem submitNamespacePayload (h : Backed cfg awaiting s) (he : s.openEntryAt id = some e) {payload : Bytes}
    (hlen : payload.length ≤ awaiting id) :
    Ends (Reactor.submitNamespacePayload cfg id payload) s (fun _ t => Backed cfg (fun _ => 0) t)
      fun _ t => Backed cfg (fun _ => 0) t := by
  obtain ⟨hopen, hget⟩ := openEntryAt_eq_some.mp he
  unfold Reactor.submitNamespacePayload
  refine Ends.bind (Ends.mono (flowEntry_ends hget) (fun _ _ h => h) fun _ _ h => h.elim) ?_
  rintro _ _ ⟨rfl, rfl⟩
  refine Ends.bind (R := fun _ t => flowSide t = flowSide s) (E := fun _ t => Backed cfg (fun _ => 0) t) ?_ ?_
  · exact Ends.bind (R := fun _ t => flowSide t = flowSide s) rfl fun _ _ ht => ht
  intro answer t hside
  refine Ends.bind (R := fun _ u => flowSide u = flowSide s) (Ends.modify hside) ?_
  intro _ u hside
  have hu := h.of_flowSide hside
  have he' : u.openEntryAt id = some e := by
    simp only [flowSide, Prod.mk.injEq] at hside
    unfold openEntryAt
    rw [hside.1]
    exact he
  cases answer with
  | ok sent =>
    refine Ends.bind (Ends.mono (modifyEntry_ends (openEntryAt_eq_some.mp he').2 _) (fun _ _ h => h)
      fun _ _ h => h.elim) ?_
    rintro _ _ rfl
    have hv : Backed cfg awaiting { u with flows := u.flows.modify id fun e => e.submitted payload sent } :=
      hu.touched he' rfl rfl rfl rfl rfl
    have hev := (Replaced.of_modify (t := { u with flows := u.flows.modify id fun e => e.submitted payload sent })
      he' rfl).entry
    split
    · refine hv.enqueuePendingPayload hev (Nat.le_trans ?_ hlen)
      rw [List.length_drop]
      exact Nat.sub_le _ _
    · exact Ends.pure (hv.weaken fun _ => Nat.zero_le _)
  | error error =>
    cases error with
    | wouldBlock => exact hu.enqueuePendingPayload he' hlen
    | unexpectedEof => exact Ends.throw (hu.weaken fun _ => Nat.zero_le _)
    | os code => exact Ends.throw (hu.weaken fun _ => Nat.zero_le _)

def Standing (cfg : Config) (id : FlowId) (s : Reactor) : Prop :=
  Backed cfg (fun _ => 0) s ∧ ∃ e, s.openEntryAt id = some e

theorem Standing.of_flowSide (h : Standing cfg id s) (hside : flowSide t = flowSide s) : Standing cfg id t := by
  refine ⟨h.1.of_flowSide hside, ?_⟩
  simp only [flowSide, Prod.mk.injEq] at hside
  unfold openEntryAt
  rw [hside.1]
  exact h.2

theorem Standing.modifyEntry (h : Standing cfg id s) {g : FlowEntry → FlowEntry}
    (hnext : ∀ e, (g e).flow.namespaceNext = e.flow.namespaceNext)
    (hedge : ∀ e, (g e).flow.receiveEdge = e.flow.receiveEdge)
    (hqueue : ∀ e, (g e).pendingSocket = e.pendingSocket) :
    Ends (Yayatht.modifyEntry id g) s (fun _ t => Standing cfg id t) fun _ t => Standing cfg id t := by
  obtain ⟨hbacked, e, he⟩ := h
  refine Ends.mono (modifyEntry_ends (openEntryAt_eq_some.mp he).2 g) ?_ fun _ _ h => h.elim
  rintro _ _ rfl
  refine ⟨hbacked.touched he rfl rfl (hnext e) (hedge e) (hqueue e), g e, ?_⟩
  exact (Replaced.of_modify he rfl).entry

theorem Standing.consumePendingPayload (h : Standing cfg id s) (length : ℕ) :
    Ends (Reactor.consumePendingPayload cfg id length) s (fun _ t => Standing cfg id t)
      fun _ t => Standing cfg id t := by
  obtain ⟨hbacked, e, he⟩ := h
  obtain ⟨hopen, hget⟩ := openEntryAt_eq_some.mp he
  have hconsumed : (e.pendingSocket.consume length).1.bytes =
      e.pendingSocket.bytes - (e.pendingSocket.consume length).2 ∧
      (e.pendingSocket.consume length).1.limit = e.pendingSocket.limit := by
    unfold PendingSocketQueue.consume
    cases e.pendingSocket.chunks with
    | nil => exact ⟨rfl, rfl⟩
    | cons chunk chunks => exact ⟨rfl, rfl⟩
  unfold Reactor.consumePendingPayload
  refine Ends.bind (Ends.mono (flowEntry_ends hget) (fun _ _ h => h) fun _ _ h => h.elim) ?_
  rintro _ _ ⟨rfl, rfl⟩
  refine Ends.bind (Ends.mono (modifyEntry_ends hget _) (fun _ _ h => h) fun _ _ h => h.elim) ?_
  rintro _ _ rfl
  refine Ends.bind (R := fun _ t =>
    t.flows = s.flows.modify id (fun f => { f with pendingSocket := (e.pendingSocket.consume length).1 }) ∧
    t.pendingSocketBytes = s.pendingSocketBytes - (e.pendingSocket.consume length).2) (Ends.modify ⟨rfl, rfl⟩) ?_
  rintro _ t ⟨hflows, hcount⟩
  refine Ends.mono (updatePendingPressureState_ends cfg t) ?_ fun _ _ h => h.elim
  rintro _ u ⟨hflows', hcount', -⟩
  have hreplaced := Replaced.of_modify he (hflows'.trans hflows)
  refine ⟨hbacked.replaced (a := (e.pendingSocket.consume length).2) (b := 0) he hreplaced hconsumed.1
    (hcount'.trans hcount) hconsumed.2 (fun _ _ => Nat.le_refl _) ?_ ?_, _, hreplaced.entry⟩
  · have hrooms := hbacked.rooms id e he
    change e.flow.advertisedWindow + (e.pendingSocket.consume length).1.bytes + 0 ≤ _
    omega
  · intro hone hwide
    have hlone := hbacked.lone hone hwide id e he
    change e.flow.advertisedWindow + 0 + u.pendingSocketBytes ≤ _
    rw [hcount', hcount]
    omega

theorem Standing.flushSocketChunks (chunks : ℕ) : ∀ {s : Reactor}, Standing cfg id s →
    Ends (Reactor.flushSocketChunks cfg id chunks) s (fun _ t => Standing cfg id t)
      fun _ t => Standing cfg id t := by
  induction chunks with
  | zero => exact fun h => Ends.pure h
  | succ chunks ih =>
    intro s h
    obtain ⟨hbacked, e, he⟩ := h
    have hget := (openEntryAt_eq_some.mp he).2
    unfold Reactor.flushSocketChunks
    refine Ends.bind (Ends.mono (flowEntry_ends hget) (fun _ _ h => h) fun _ _ h => h.elim) ?_
    rintro _ _ ⟨rfl, rfl⟩
    have hs : Standing cfg id s := ⟨hbacked, e, he⟩
    cases e.pendingSocket.front with
    | none => exact Ends.pure hs
    | some bytes =>
      refine Ends.bind (R := fun _ t => flowSide t = flowSide s) (E := fun _ t => Standing cfg id t) ?_ ?_
      · exact Ends.bind (R := fun _ t => flowSide t = flowSide s) rfl fun _ _ ht => ht
      intro answer t hside
      have ht := hs.of_flowSide hside
      cases answer with
      | ok sent =>
        cases sent with
        | zero => exact Ends.throw ht
        | succ sent =>
          refine Ends.bind (ht.consumePendingPayload (sent + 1)) fun _ u hu => ?_
          refine Ends.bind (hu.modifyEntry (fun _ => rfl) (fun _ => rfl) fun _ => rfl) fun _ v hv => ?_
          obtain ⟨g, hg⟩ := hv.2
          refine Ends.bind (Ends.mono (flowEntry_ends (openEntryAt_eq_some.mp hg).2) (fun _ _ h => h)
            fun _ _ h => h.elim) ?_
          rintro _ _ ⟨rfl, rfl⟩
          split
          · exact ih hv
          · exact Ends.pure hv
      | error error =>
        cases error with
        | wouldBlock => exact Ends.pure ht
        | unexpectedEof => exact Ends.throw ht
        | os code => exact Ends.throw ht

theorem Standing.flushSocketQueue (h : Standing cfg id s) :
    Ends (Reactor.flushSocketQueue cfg id) s (fun _ t => Standing cfg id t) fun _ t => Standing cfg id t := by
  obtain ⟨e, he⟩ := h.2
  unfold Reactor.flushSocketQueue
  refine Ends.bind (Ends.mono (flowEntry_ends (openEntryAt_eq_some.mp he).2) (fun _ _ h => h) fun _ _ h => h.elim) ?_
  rintro _ _ ⟨rfl, rfl⟩
  refine Ends.bind (Standing.flushSocketChunks _ h) fun _ t ht => ?_
  obtain ⟨g, hg⟩ := ht.2
  refine Ends.bind (Ends.mono (flowEntry_ends (openEntryAt_eq_some.mp hg).2) (fun _ _ h => h) fun _ _ h => h.elim) ?_
  rintro _ _ ⟨rfl, rfl⟩
  split
  · refine Ends.bind (R := fun _ u => Standing cfg id u) ?_ fun _ u hu =>
      hu.modifyEntry (fun _ => rfl) (fun _ => rfl) fun _ => rfl
    unfold Yayatht.shutdownWrite
    refine Ends.bind (R := fun _ u => flowSide u = flowSide t) rfl fun answer u hside => ?_
    refine Ends.bind (R := fun _ v => flowSide v = flowSide t) (Ends.modify hside) fun _ v hside => ?_
    have hv := ht.of_flowSide hside
    cases answer with
    | ok _ => exact hv.modifyEntry (fun _ => rfl) (fun _ => rfl) fun _ => rfl
    | error error => exact Ends.throw hv
  · exact Ends.pure ht

theorem Standing.updateNamespaceWindow (h : Standing cfg id s) :
    Ends (Reactor.updateNamespaceWindow cfg id) s (fun _ t => Standing cfg id t) fun _ t => Standing cfg id t := by
  obtain ⟨hbacked, e, he⟩ := h
  obtain ⟨hopen, hget⟩ := openEntryAt_eq_some.mp he
  unfold Reactor.updateNamespaceWindow
  refine Ends.bind (R := fun a t => s = a ∧ s = t) (Ends.get ⟨rfl, rfl⟩) ?_
  rintro _ _ ⟨rfl, rfl⟩
  refine Ends.bind (Ends.mono (flowEntry_ends hget) (fun _ _ h => h) fun _ _ h => h.elim) ?_
  rintro _ _ ⟨rfl, rfl⟩
  refine Ends.bind (Ends.mono (modifyEntry_ends hget _) (fun _ _ h => h) fun _ _ h => h.elim) ?_
  rintro _ _ rfl
  have hwindow := e.flow.advertisedWindow_widened (windowBudget cfg s e)
  have hlimit := hbacked.limits id e he
  have hrooms := hbacked.rooms id e he
  have hqueue : windowBudget cfg s e ≤ e.pendingSocket.remaining := by
    unfold windowBudget
    dsimp only
    omega
  unfold PendingSocketQueue.remaining at hqueue
  refine Ends.pure ⟨hbacked.replaced (a := 0) (b := 0) he (.of_modify he rfl) rfl rfl rfl
    (fun _ _ => Nat.le_refl _) ?_ ?_, _, (Replaced.of_modify he rfl).entry⟩
  · change (e.flow.setAdvertisedWindow (windowBudget cfg s e)).1.advertisedWindow + e.pendingSocket.bytes + 0 ≤ _
    omega
  · intro hone hwide
    have hlone := hbacked.lone hone hwide id e he
    have hshared : windowBudget cfg s e ≤ cfg.maxPendingTcpBytes - s.pendingSocketBytes := by
      unfold windowBudget
      dsimp only
      split <;> omega
    change (e.flow.setAdvertisedWindow (windowBudget cfg s e)).1.advertisedWindow + 0 + s.pendingSocketBytes ≤ _
    omega

theorem received (h : Backed cfg (fun _ => 0) s) (he : s.openEntryAt id = some e) {segment : TcpSegment}
    (hwrap : ¬e.flow.Wraps segment) (hflows : t.flows = s.flows.modify id fun e => (e.received segment).1)
    (hcount : t.pendingSocketBytes = s.pendingSocketBytes) :
    Backed cfg (fun other => if other = id then ((e.received segment).2.accepted segment.payload).length else 0) t := by
  have hwindow := e.received_window segment hwrap
  refine h.replaced (a := 0) (b := 0) he (.of_modify he hflows) rfl hcount rfl ?_ ?_ ?_
  · intro other hne
    rw [if_neg hne]
  · have hrooms := h.rooms id e he
    rw [if_pos rfl]
    change (e.received segment).1.flow.advertisedWindow + e.pendingSocket.bytes + _ ≤ _
    omega
  · intro hone hwide
    have hlone := h.lone hone hwide id e he
    rw [if_pos rfl, hcount]
    omega

theorem registered (h : Backed cfg (fun _ => 0) s) {key : FlowKey} {entry : FlowEntry} (hfresh : Fresh key entry)
    {u : FlowTable FlowEntry} (hinsert : s.flows.insert entry = (u, .ok id)) (hflows : t.flows = u)
    (hcount : t.pendingSocketBytes = s.pendingSocketBytes) : Backed cfg (fun _ => 0) t := by
  obtain ⟨ni, li, mss, ps, ls, hflow, -, -⟩ := hfresh.flow
  have hwindow : entry.flow.advertisedWindow = u16Max := by
    rw [hflow, Flow.advertisedWindow_eq]
    have hgap : gap (ni + 1) (ni + 1 + BitVec.ofNat 32 u16Max) = u16Max := gap_add_left _ _ (by decide)
    change (if gap (ni + 1) (ni + 1 + BitVec.ofNat 32 u16Max) ≤ 2 ^ 31 then _ else 0) = _
    rw [hgap, if_pos (by decide)]
    exact hgap
  have hempty : entry.pendingSocket.bytes = 0 := by
    rw [hfresh.pendingSocket]
    rfl
  have hslots : t.flows.slots.length = s.flows.slots.length := by
    have hlength := FlowTable.length_slots_insert s.flows entry
    rw [hinsert] at hlength
    rw [hflows]
    exact hlength
  rcases h.wf.insert_cases entry with hfull | ⟨v, other, hok, hwf, hdeferred, hunused, hget, -⟩
  · rw [hfull] at hinsert
    cases hinsert
  rw [hok] at hinsert
  cases hinsert
  have hentry : ∀ other, t.openEntryAt other =
      if other = id then (if id ∈ s.flows.deferred then none else some entry) else s.openEntryAt other := by
    intro other
    unfold openEntryAt
    rw [hflows, hdeferred, hget]
    by_cases hsame : other = id
    · subst hsame
      rw [if_pos rfl, if_pos rfl]
    · rw [if_neg hsame, if_neg hsame]
  have hcases : ∀ other g, t.openEntryAt other = some g →
      (other = id ∧ g = entry) ∨ (other ≠ id ∧ s.openEntryAt other = some g) := by
    intro other g hg
    rw [hentry] at hg
    split at hg
    · split at hg
      · cases hg
      · exact .inl ⟨‹_›, (Option.some.inj hg).symm⟩
    · exact .inr ⟨‹_›, hg⟩
  have hfree : s.openEntryAt id = none := by
    cases hs : s.openEntryAt id with
    | none => rfl
    | some e => exact absurd (FlowTable.used_of_get (openEntryAt_eq_some.mp hs).2) hunused
  have hbytes : t.openBytes = s.openBytes := by
    apply openBytes_same
    intro other
    by_cases hsame : other = id
    · subst hsame
      have hzero : ∀ w : Reactor, w.openEntryAt other = none ∨ w.openEntryAt other = some entry →
          w.queuedBytes other = 0 := by
        rintro w (hw | hw)
        · exact queuedBytes_of_closed hw
        · rw [queuedBytes_of_openEntryAt hw, hempty]
      rw [hzero s (.inl hfree), hzero t]
      rw [hentry, if_pos rfl]
      split
      · exact .inl rfl
      · exact .inr rfl
    · exact queuedBytes_of_openEntryAt_eq (by rw [hentry, if_neg hsame])
  have hshape : t.flows.Wf ∧ t.flows.slots.length = cfg.maxTcpFlows := by
    refine ⟨?_, hslots.trans h.slots⟩
    rw [hflows]
    exact hwf
  refine ⟨hshape.1, hshape.2, ?_, ?_, ?_, ?_⟩
  · intro other g hg
    rcases hcases other g hg with ⟨-, rfl⟩ | ⟨-, hold⟩
    · rw [hfresh.pendingSocket]
      rfl
    · exact h.limits other g hold
  · intro other g hg
    rcases hcases other g hg with ⟨-, rfl⟩ | ⟨-, hold⟩
    · rw [hwindow, hempty]
      decide
    · exact h.rooms other g hold
  · rw [hbytes, hcount]
    exact h.total
  · intro hone hwide other g hg
    rcases hcases other g hg with ⟨rfl, rfl⟩ | ⟨-, hold⟩
    · -- the table has one slot, so no other queue is counted
      have hlone := openBytes_of_lone (hshape.2.trans hone) hg
      rw [hempty, hbytes] at hlone
      have htotal := h.total
      rw [hwindow, hcount]
      omega
    · rw [hcount]
      exact h.lone hone hwide other g hold

theorem reaped (h : Backed cfg awaiting s) (hflows : t.flows = s.flows.flushDeferred.1)
    (hcount : t.pendingSocketBytes = s.pendingSocketBytes) : Backed cfg awaiting t := by
  have hentry : ∀ id, t.openEntryAt id = s.openEntryAt id := by
    intro id
    unfold openEntryAt
    rw [hflows, FlowTable.flushDeferred_deferred, FlowTable.get_flushDeferred, if_neg List.not_mem_nil]
  have hslots : t.flows.slots.length = s.flows.slots.length := by
    rw [hflows]
    exact FlowTable.length_slots_flushDeferred _
  have hbytes : t.openBytes = s.openBytes := openBytes_same fun id => queuedBytes_of_openEntryAt_eq (hentry id)
  refine ⟨?_, hslots.trans h.slots, ?_, ?_, ?_, ?_⟩
  · rw [hflows]
    exact h.wf.flushDeferred
  · intro id e he
    exact h.limits id e ((hentry id).symm.trans he)
  · intro id e he
    exact h.rooms id e ((hentry id).symm.trans he)
  · rw [hbytes, hcount]
    exact h.total
  · intro hone hwide id e he
    rw [hcount]
    exact h.lone hone hwide id e ((hentry id).symm.trans he)

end Backed

structure Aside (s t : Reactor) : Prop where
  wf : t.flows.Wf
  slots : t.flows.slots.length = s.flows.slots.length
  deferred : t.flows.deferred = s.flows.deferred
  entries : ∀ id, (t.flows.get id).map (fun e => (e.flow.namespaceNext, e.flow.receiveEdge, e.pendingSocket)) =
    (s.flows.get id).map fun e => (e.flow.namespaceNext, e.flow.receiveEdge, e.pendingSocket)
  count : t.pendingSocketBytes = s.pendingSocketBytes

namespace Aside
open Reactor

variable {cfg : Config} {awaiting : FlowId → ℕ} {s t : Reactor} {id : FlowId} {e : FlowEntry}

theorem entry (h : Aside s t) (he : t.openEntryAt id = some e) : ∃ f, s.openEntryAt id = some f ∧
    f.flow.advertisedWindow = e.flow.advertisedWindow ∧ f.pendingSocket = e.pendingSocket := by
  obtain ⟨hopen, hget⟩ := openEntryAt_eq_some.mp he
  have hsame := h.entries id
  rw [hget] at hsame
  obtain ⟨f, hf, hfields⟩ := Option.map_eq_some_iff.mp hsame.symm
  simp only [Prod.mk.injEq] at hfields
  obtain ⟨hnext, hedge, hqueue⟩ := hfields
  refine ⟨f, openEntryAt_eq_some.mpr ⟨by rw [← h.deferred]; exact hopen, hf⟩, ?_, hqueue⟩
  unfold Flow.advertisedWindow
  rw [hnext, hedge]

theorem isOpen (h : Aside s t) (he : s.openEntryAt id = some e) : ∃ f, t.openEntryAt id = some f := by
  obtain ⟨hopen, hget⟩ := openEntryAt_eq_some.mp he
  have hsame := h.entries id
  rw [hget] at hsame
  obtain ⟨f, hf, -⟩ := Option.map_eq_some_iff.mp hsame
  exact ⟨f, openEntryAt_eq_some.mpr ⟨by rw [h.deferred]; exact hopen, hf⟩⟩

theorem backed (h : Aside s t) (hs : Backed cfg awaiting s) : Backed cfg awaiting t := by
  have hbytes : t.openBytes = s.openBytes := by
    apply openBytes_same
    intro id
    cases ht : t.openEntryAt id with
    | some e =>
      obtain ⟨f, hf, -, hqueue⟩ := h.entry ht
      rw [queuedBytes_of_openEntryAt ht, queuedBytes_of_openEntryAt hf, hqueue]
    | none =>
      rw [queuedBytes_of_closed ht]
      cases hold : s.openEntryAt id with
      | none => exact (queuedBytes_of_closed hold).symm
      | some e =>
        obtain ⟨f, hf⟩ := h.isOpen hold
        rw [ht] at hf
        cases hf
  refine ⟨h.wf, h.slots.trans hs.slots, ?_, ?_, ?_, ?_⟩
  · intro id e he
    obtain ⟨f, hf, -, hqueue⟩ := h.entry he
    rw [← hqueue]
    exact hs.limits id f hf
  · intro id e he
    obtain ⟨f, hf, hwindow, hqueue⟩ := h.entry he
    rw [← hqueue, ← hwindow]
    exact hs.rooms id f hf
  · rw [hbytes, h.count]
    exact hs.total
  · intro hone hwide id e he
    obtain ⟨f, hf, hwindow, -⟩ := h.entry he
    rw [← hwindow, h.count]
    exact hs.lone hone hwide id f hf

end Aside

end Yayatht
