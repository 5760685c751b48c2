import Mathlib.Algebra.BigOperators.Group.Finset.Basic
import Mathlib.Algebra.Order.BigOperators.Group.Finset
import Yayatht.ReactorRun

set_option autoImplicit false

/-!
# The ledger of pending bytes

Payload the socket of a flow does not take waits in the flow's queue. The
reactor counts the bytes of all queues and, from that count, tells whether the
flows are under pressure. A flow is open until `closeFlow` retires it.
-/
namespace Yayatht
open EffectLogic

def flowSide (s : Reactor) : FlowTable FlowEntry × ℕ × Bool × Bool :=
  (s.flows, s.pendingSocketBytes, s.pendingPressure, s.pendingPressureDirty)

section Frames

variable (cfg : Config)

theorem flowSide_ask {α : Type} (answers : Kernel → Stream' α) (advance : Kernel → Kernel) :
    Inert flowSide (ask answers advance) := fun _ => (rfl : flowSide _ = flowSide _)

theorem flowSide_note (notice : Notice) : Inert flowSide (note notice) := Inert.modify fun _ => rfl

theorem flowSide_orThrow {α : Type} (r : Except IoError α) : Inert flowSide (orThrow r) := by
  cases r with
  | ok a => exact Inert.pure a
  | error e => exact Inert.throw (Error.io e)

theorem flowSide_ensure {α : Type} (text : String) (o : Option α) : Inert flowSide (ensure text o) := by
  cases o with
  | some a => exact Inert.pure a
  | none => exact Inert.throw (Error.invariant text)

theorem flowSide_expect {α : Type} (text : String) (o : Option α) : Inert flowSide (expect text o) := by
  cases o with
  | some a => exact Inert.pure a
  | none => exact Inert.throw (Error.panic text)

theorem flowSide_epollModify : Inert flowSide Call.epollModify := (flowSide_ask _ _).bind flowSide_orThrow

theorem flowSide_epollDelete : Inert flowSide Call.epollDelete := (flowSide_ask _ _).bind flowSide_orThrow

theorem flowSide_flowEntry (id : FlowId) : Inert flowSide (flowEntry id) :=
  Inert.get.bind fun _ => flowSide_expect _ _

namespace Reactor

theorem flowSide_releaseFrame (slot : FrameSlot) : Inert flowSide (releaseFrame slot) := by
  refine Inert.modify fun s => ?_
  cases slot.tier <;> rfl

theorem flowSide_releaseRetainedBytes (length : ℕ) : Inert flowSide (releaseRetainedBytes length) :=
  Inert.modify fun _ => rfl

theorem flowSide_updateTapInterest : Inert flowSide updateTapInterest := by
  refine Inert.get_bind fun s => ?_
  split
  · exact (rfl : flowSide _ = flowSide _)
  · exact flowSide_epollModify s

theorem flowSide_acquireFrame : Inert flowSide acquireFrame := by
  refine Inert.get_bind fun s => ?_
  refine Ends.bind (R := fun _ t => flowSide t = flowSide s) rfl fun _ t ht => ?_
  cases s.framePool.acquire.2 with
  | some index => exact Ends.pure ht
  | none => exact ht

theorem flowSide_queueTap (frame : PooledFrame) (plan : Option SendPlan) :
    Inert flowSide (queueTap cfg none frame plan) := by
  have hpush : ∀ queued, Inert flowSide (pushTapQueue queued) := fun queued =>
    Inert.bind (Inert.modify fun _ => rfl) fun _ => flowSide_updateTapInterest
  have hcommit : Inert flowSide (commitTapSend none frame plan) :=
    Inert.bind (Inert.pure ()) fun _ => flowSide_releaseFrame frame.slot
  have habandon : ∀ reserved, Inert flowSide (abandonFrame none frame plan reserved) := fun reserved =>
    (flowSide_note _).bind fun _ => (flowSide_releaseRetainedBytes reserved).bind fun _ =>
      flowSide_releaseFrame frame.slot
  have hdrop : Inert flowSide (injectedDrop plan) := by
    refine Inert.get_bind fun s => ?_
    cases plan with
    | none => exact (rfl : flowSide s = flowSide s)
    | some plan =>
      dsimp only
      repeat' split
      all_goals exact (rfl : flowSide _ = flowSide _)
  unfold queueTap
  refine Inert.bind ?_ fun reserved => ?_
  · refine Inert.get_bind fun s => ?_
    split <;> exact (rfl : flowSide _ = flowSide _)
  cases reserved with
  | false => exact (flowSide_releaseFrame _).bind fun _ => Inert.throw _
  | true =>
    refine Inert.bind Inert.get fun s => ?_
    split
    · refine hdrop.bind fun dropped => ?_
      cases dropped with
      | true => exact hcommit
      | false =>
        refine Inert.bind ((flowSide_ask _ _).bind fun _ => Inert.pure _) fun answer => ?_
        split
        · split
          · exact Inert.bind (Inert.modify fun _ => rfl) fun _ => hcommit
          · exact (habandon _).bind fun _ => Inert.throw _
        · exact hpush _
        · exact (habandon _).bind fun _ => Inert.throw _
    · exact hpush _

theorem flowSide_buildTcpFrame (key : FlowKey) (plan : SendPlan) (payload : Bytes) (flags : TcpFlags)
    (mss windowScale : Option ℕ) (window : ℕ) :
    Inert flowSide (buildTcpFrame cfg key plan payload flags mss windowScale window) := by
  unfold buildTcpFrame
  refine flowSide_acquireFrame.bind fun slot => ?_
  split
  · exact (flowSide_releaseFrame slot).bind fun _ => Inert.throw _
  unfold finalizeTcpFrame
  dsimp only
  split
  · exact Inert.throw _
  split
  · exact (flowSide_releaseFrame slot).bind fun _ => Inert.throw _
  · refine Inert.bind (Inert.modify fun s => ?_) fun _ => Inert.pure _
    split <;> rfl

theorem flowSide_sendResetForFlow (id : FlowId) : Inert flowSide (sendResetForFlow cfg id) := by
  refine (flowSide_flowEntry id).bind fun e => (flowSide_ensure _ _).bind fun sides => ?_
  refine (flowSide_buildTcpFrame cfg _ _ _ _ _ _ _).bind fun frame => (flowSide_note _).bind fun _ => ?_
  exact Inert.bind (Inert.modify fun _ => rfl) fun _ => flowSide_queueTap cfg frame none

theorem flowSide_sendAckKind (id : FlowId) (finAck : Bool) : Inert flowSide (sendAckKind cfg id finAck) := by
  unfold sendAckKind
  refine (flowSide_flowEntry id).bind fun e => ?_
  refine Inert.bind ?_ fun frame => ?_
  · unfold buildFlowFrame flowFrameParameters
    refine Inert.bind (Inert.get.bind fun s => (flowSide_ensure _ _).bind fun _ =>
      (flowSide_ensure _ _).bind fun _ => Inert.pure _) fun parameters => ?_
    exact (flowSide_buildTcpFrame cfg _ _ _ _ _ _ _).bind fun _ => (flowSide_note _).bind fun _ => Inert.pure _
  refine Inert.get_bind fun s => ?_
  split
  · refine Ends.bind (R := fun _ t => flowSide t = flowSide s) rfl fun _ t ht => ?_
    exact Ends.mono (flowSide_releaseFrame frame.slot t) (fun _ _ hu => hu.trans ht) fun _ _ hu => hu.trans ht
  · exact flowSide_queueTap cfg frame _ s

end Reactor

end Frames

def Reactor.queue? (s : Reactor) (id : FlowId) : Option PendingSocketQueue :=
  if id ∈ s.flows.deferred then none else (s.flows.get id).map FlowEntry.pendingSocket

def Reactor.queuedBytes (s : Reactor) (id : FlowId) : ℕ := ((s.queue? id).map PendingSocketQueue.bytes).getD 0

def Reactor.openBytes (s : Reactor) : ℕ := (s.flows.activeIds.map s.queuedBytes).sum

namespace Reactor

variable {s t : Reactor} {id : FlowId}

theorem queue?_eq_some {q : PendingSocketQueue} : s.queue? id = some q ↔
    id ∉ s.flows.deferred ∧ ∃ e, s.flows.get id = some e ∧ e.pendingSocket = q := by
  unfold queue?
  split
  · rename_i h
    simp [h]
  · rename_i h
    rw [Option.map_eq_some_iff]
    simp [h]

theorem queuedBytes_of_queue? {q : PendingSocketQueue} (h : s.queue? id = some q) : s.queuedBytes id = q.bytes := by
  unfold queuedBytes
  rw [h]
  rfl

theorem queuedBytes_inactive (h : id ∉ s.flows.activeIds) : s.queuedBytes id = 0 := by
  rw [FlowTable.mem_activeIds, Bool.not_eq_true, Option.isSome_eq_false_iff, Option.isNone_iff_eq_none] at h
  unfold queuedBytes queue?
  rw [h]
  split <;> rfl

theorem openBytes_eq_sum (s : Reactor) (ids : Finset FlowId) (h : ∀ id ∈ s.flows.activeIds, id ∈ ids) :
    s.openBytes = ∑ id ∈ ids, s.queuedBytes id := by
  have hlist : s.openBytes = ∑ id ∈ s.flows.activeIds.toFinset, s.queuedBytes id := by
    unfold openBytes
    exact (List.sum_toFinset _ (FlowTable.nodup_activeIds s.flows)).symm
  rw [hlist]
  refine Finset.sum_subset (fun id hid => h id (List.mem_toFinset.mp hid)) fun id _ hid => ?_
  exact queuedBytes_inactive fun hm => hid (List.mem_toFinset.mpr hm)

theorem openBytes_changed (id : FlowId) (hother : ∀ other, other ≠ id → t.queuedBytes other = s.queuedBytes other) :
    t.openBytes + s.queuedBytes id = s.openBytes + t.queuedBytes id := by
  let ids : Finset FlowId := insert id (s.flows.activeIds.toFinset ∪ t.flows.activeIds.toFinset)
  have hid : id ∈ ids := Finset.mem_insert_self _ _
  have hs := s.openBytes_eq_sum ids fun other h =>
    Finset.mem_insert_of_mem (Finset.mem_union_left _ (List.mem_toFinset.mpr h))
  have ht := t.openBytes_eq_sum ids fun other h =>
    Finset.mem_insert_of_mem (Finset.mem_union_right _ (List.mem_toFinset.mpr h))
  have hrest : ∑ other ∈ ids.erase id, t.queuedBytes other = ∑ other ∈ ids.erase id, s.queuedBytes other :=
    Finset.sum_congr rfl fun other h => hother other (Finset.ne_of_mem_erase h)
  rw [hs, ht, ← Finset.add_sum_erase _ _ hid, ← Finset.add_sum_erase (f := s.queuedBytes) _ hid, hrest]
  omega

theorem openBytes_same (h : ∀ other, t.queuedBytes other = s.queuedBytes other) : t.openBytes = s.openBytes := by
  have hchanged := openBytes_changed ⟨0, 0⟩ fun other _ => h other
  rw [h] at hchanged
  omega

theorem queuedBytes_le (s : Reactor) (id : FlowId) : s.queuedBytes id ≤ s.openBytes := by
  have hs := s.openBytes_eq_sum (insert id s.flows.activeIds.toFinset) fun other h =>
    Finset.mem_insert_of_mem (List.mem_toFinset.mpr h)
  rw [hs]
  exact Finset.single_le_sum (fun _ _ => Nat.zero_le _) (Finset.mem_insert_self _ _)

/-- Nothing of the ledger changed. -/
structure Still (s t : Reactor) : Prop where
  queue : ∀ id, t.queue? id = s.queue? id
  bytes : t.pendingSocketBytes = s.pendingSocketBytes
  pressure : t.pendingPressure = s.pendingPressure
  dirty : t.pendingPressureDirty = s.pendingPressureDirty

/-- One queue changed, the count became `total` and the pressure was taken from it. -/
structure Moved (cfg : Config) (id : FlowId) (left : Option PendingSocketQueue) (total : ℕ) (s t : Reactor) :
    Prop where
  queue : t.queue? id = left
  others : ∀ other, other ≠ id → t.queue? other = s.queue? other
  bytes : t.pendingSocketBytes = total
  pressure : t.pendingPressure = pendingPressureState s.pendingPressure total cfg.maxPendingTcpBytes
  dirty : t.pendingPressureDirty = (s.pendingPressureDirty || (t.pendingPressure != s.pendingPressure))

theorem queue?_of_flows (h : t.flows = s.flows) (id : FlowId) : t.queue? id = s.queue? id := by
  unfold queue?
  rw [h]

theorem Still.of_flowSide (h : flowSide t = flowSide s) : Still s t := by
  simp only [flowSide, Prod.mk.injEq] at h
  obtain ⟨hflows, hbytes, hpressure, hdirty⟩ := h
  exact ⟨queue?_of_flows hflows, hbytes, hpressure, hdirty⟩

theorem Moved.after {cfg : Config} {u : Reactor} {left : Option PendingSocketQueue} {total : ℕ}
    (h : Still s t) (h' : Moved cfg id left total t u) : Moved cfg id left total s u where
  queue := h'.queue
  others other hne := (h'.others other hne).trans (h.queue other)
  bytes := h'.bytes
  pressure := by rw [h'.pressure, h.pressure]
  dirty := by rw [h'.dirty, h.dirty, h.pressure]

theorem updatePendingPressureState_ends (cfg : Config) (s : Reactor) :
    Ends (updatePendingPressureState cfg) s (fun _ t =>
      t.flows = s.flows ∧ t.pendingSocketBytes = s.pendingSocketBytes ∧ t.tapQueue = s.tapQueue ∧
        t.framePool = s.framePool ∧ t.kernel = s.kernel ∧
        t.pendingPressure = pendingPressureState s.pendingPressure s.pendingSocketBytes cfg.maxPendingTcpBytes ∧
        t.pendingPressureDirty = (s.pendingPressureDirty || (t.pendingPressure != s.pendingPressure)))
      fun _ _ => False := by
  refine Ends.modify ?_
  dsimp only
  split
  · rename_i hne
    refine ⟨rfl, rfl, rfl, rfl, rfl, rfl, ?_⟩
    dsimp only
    rw [bne_iff_ne.mpr hne, Bool.or_true]
  · rename_i heq
    refine ⟨rfl, rfl, rfl, rfl, rfl, (not_not.mp heq).symm, ?_⟩
    rw [bne_self_eq_false, Bool.or_false]

theorem flowEntry_ends {e : FlowEntry} (h : s.flows.get id = some e) :
    Ends (flowEntry id) s (fun a t => e = a ∧ s = t) fun _ _ => False := by
  refine Ends.bind (R := fun a t => s = a ∧ s = t) (Ends.get ⟨rfl, rfl⟩) ?_
  rintro _ _ ⟨rfl, rfl⟩
  rw [h]
  exact Ends.pure ⟨rfl, rfl⟩

theorem modifyEntry_ends {e : FlowEntry} (h : s.flows.get id = some e) (f : FlowEntry → FlowEntry) :
    Ends (modifyEntry id f) s (fun _ t => t = { s with flows := s.flows.modify id f }) fun _ _ => False := by
  refine Ends.bind (flowEntry_ends h) ?_
  rintro _ _ ⟨rfl, rfl⟩
  exact Ends.modify rfl

theorem queue?_modified {e : FlowEntry} {q : PendingSocketQueue} {f : FlowEntry → FlowEntry}
    (hflows : t.flows = s.flows.modify id f) (hq : s.queue? id = some q) (hget : s.flows.get id = some e) :
    t.queue? id = some (f e).pendingSocket ∧ ∀ other, other ≠ id → t.queue? other = s.queue? other := by
  obtain ⟨hopen, -⟩ := queue?_eq_some.mp hq
  constructor
  · rw [queue?_eq_some, hflows, FlowTable.modify_deferred, FlowTable.get_modify_self, hget]
    exact ⟨hopen, f e, rfl, rfl⟩
  · intro other hne
    unfold queue?
    rw [hflows, FlowTable.modify_deferred, FlowTable.get_modify_of_ne _ _ _ _ hne]

theorem consumePendingPayload_ends (cfg : Config) {q : PendingSocketQueue} (hq : s.queue? id = some q)
    (length : ℕ) :
    Ends (consumePendingPayload cfg id length) s
      (fun _ t => Moved cfg id (some (q.consume length).1) (s.pendingSocketBytes - (q.consume length).2) s t)
      fun _ _ => False := by
  obtain ⟨hopen, e, hget, rfl⟩ := queue?_eq_some.mp hq
  unfold consumePendingPayload
  refine Ends.bind (flowEntry_ends hget) ?_
  rintro _ _ ⟨rfl, rfl⟩
  refine Ends.bind (modifyEntry_ends hget _) ?_
  rintro _ _ rfl
  refine Ends.bind (R := fun _ t => t.flows = s.flows.modify id _ ∧
    t.pendingSocketBytes = s.pendingSocketBytes - (e.pendingSocket.consume length).2 ∧
    t.pendingPressure = s.pendingPressure ∧ t.pendingPressureDirty = s.pendingPressureDirty)
    (Ends.modify ⟨rfl, rfl, rfl, rfl⟩) ?_
  rintro _ t ⟨hflows, hbytes, hpressure, hdirty⟩
  obtain ⟨hqueue, hothers⟩ := queue?_modified hflows hq hget
  refine Ends.mono (updatePendingPressureState_ends cfg t) ?_ fun _ _ h => h
  rintro _ u ⟨hflows', hbytes', -, -, -, hpressure', hdirty'⟩
  rw [hbytes, hpressure] at hpressure'
  rw [hdirty, hpressure] at hdirty'
  refine ⟨?_, fun other hne => ?_, hbytes'.trans hbytes, hpressure', hdirty'⟩
  · rw [queue?_of_flows hflows', hqueue]
    rfl
  · rw [queue?_of_flows hflows', hothers other hne]

/-- Room is left to arm the TAP once the frames of the flow are gone, and the call that
arms it succeeds. -/
def TapCapacity (s : Reactor) (id : FlowId) : Prop :=
  (s.framePool.available ≠ 0 ∨
      ∃ queued ∈ s.tapQueue, queued.flow ≠ some id ∨ queued.frame.slot.tier = .mtu) ∧
    s.kernel.epollModify.head = .ok ()

theorem dropFlowFrames_ends (frames : List QueuedFrame) (s : Reactor) :
    Ends (dropFlowFrames frames) s (fun _ t =>
      flowSide t = flowSide s ∧ t.tapQueue = s.tapQueue ∧ t.kernel = s.kernel ∧
        t.framePool.available =
          s.framePool.available + frames.countP fun queued => queued.frame.slot.tier = .mtu)
      fun _ _ => False := by
  induction frames generalizing s with
  | nil => exact ⟨rfl, rfl, rfl, rfl⟩
  | cons queued frames ih =>
    unfold dropFlowFrames
    refine Ends.bind (R := fun _ t => t.tapQueue = s.tapQueue ∧ t.kernel = s.kernel ∧
      t.framePool = s.framePool ∧ flowSide t = flowSide s) (Ends.modify ⟨rfl, rfl, rfl, rfl⟩) ?_
    rintro _ t ⟨hqueue, hkernel, hpool, hside⟩
    refine Ends.bind (R := fun _ u => u.tapQueue = t.tapQueue ∧ u.kernel = t.kernel ∧
      flowSide u = flowSide t ∧ u.framePool.available =
        t.framePool.available + (decide (queued.frame.slot.tier = .mtu)).toNat) (Ends.modify ?_) ?_
    · cases hslot : queued.frame.slot.tier with
      | mtu => exact ⟨rfl, rfl, rfl, rfl⟩
      | gso => exact ⟨rfl, rfl, rfl, rfl⟩
    rintro _ u ⟨hqueue', hkernel', hside', havailable⟩
    refine Ends.mono (ih u) ?_ fun _ _ h => h
    rintro _ v ⟨hside'', hqueue'', hkernel'', havailable'⟩
    refine ⟨hside''.trans (hside'.trans hside), hqueue''.trans (hqueue'.trans hqueue),
      hkernel''.trans (hkernel'.trans hkernel), ?_⟩
    rw [havailable', havailable, hpool, List.countP_cons]
    cases queued.frame.slot.tier <;> simp
    omega

theorem releaseAccounting_ends (cfg : Config) (id : FlowId) (key : FlowKey) (e : FlowEntry) (s : Reactor) :
    Ends (releaseAccounting cfg id key e) s (fun _ t =>
      t.flows = s.flows ∧ t.kernel = s.kernel ∧
        t.tapQueue = s.tapQueue.filter (fun queued => queued.flow ≠ some id) ∧
        t.framePool.available = s.framePool.available +
          (s.tapQueue.filter fun queued => queued.flow = some id).countP
            (fun queued => queued.frame.slot.tier = .mtu) ∧
        t.pendingSocketBytes = s.pendingSocketBytes - e.pendingSocket.bytes ∧
        t.pendingPressure = pendingPressureState s.pendingPressure
          (s.pendingSocketBytes - e.pendingSocket.bytes) cfg.maxPendingTcpBytes ∧
        t.pendingPressureDirty = (s.pendingPressureDirty || (t.pendingPressure != s.pendingPressure)))
      fun _ _ => False := by
  unfold releaseAccounting
  refine Ends.bind (R := fun _ t => t = { s with journal := .released id e :: s.journal }) (Ends.modify rfl) ?_
  rintro _ _ rfl
  refine Ends.bind (R := fun a t => t = a ∧ a = { s with journal := .released id e :: s.journal })
    (Ends.get ⟨rfl, rfl⟩) ?_
  rintro _ _ ⟨rfl, rfl⟩
  refine Ends.bind (R := fun _ t => flowSide t = flowSide s ∧ t.kernel = s.kernel ∧ t.framePool = s.framePool ∧
    t.tapQueue = s.tapQueue.filter fun queued => queued.flow ≠ some id) ⟨rfl, rfl, rfl, rfl⟩ ?_
  rintro _ t ⟨hside, hkernel, hpool, hqueue⟩
  refine Ends.bind (dropFlowFrames_ends _ t) ?_
  rintro _ u ⟨hside', hqueue', hkernel', havailable⟩
  have hsame := hside'.trans hside
  simp only [flowSide, Prod.mk.injEq] at hsame
  obtain ⟨hflows, hbytes, hpressure, hdirty⟩ := hsame
  rw [hqueue] at hqueue'
  rw [hkernel] at hkernel'
  rw [hpool] at havailable
  refine Ends.bind (R := fun _ v => v.flows = s.flows ∧ v.kernel = s.kernel ∧ v.framePool = u.framePool ∧
    v.tapQueue = u.tapQueue ∧ v.pendingSocketBytes = s.pendingSocketBytes - e.pendingSocket.bytes ∧
    v.pendingPressure = s.pendingPressure ∧ v.pendingPressureDirty = s.pendingPressureDirty)
    (Ends.modify ⟨hflows, hkernel', rfl, rfl, by dsimp only; rw [hbytes], hpressure, hdirty⟩) ?_
  rintro _ v ⟨hflows, hkernel, hpool, hqueue, hbytes, hpressure, hdirty⟩
  refine Ends.bind (updatePendingPressureState_ends cfg v) ?_
  rintro _ w ⟨hflows', hbytes', hqueue'', hpool', hkernel'', hpressure', hdirty'⟩
  rw [hbytes, hpressure] at hpressure'
  rw [hdirty, hpressure] at hdirty'
  refine Ends.bind (R := fun _ x => flowSide x = flowSide w ∧ x.kernel = w.kernel ∧ x.framePool = w.framePool ∧
    x.tapQueue = w.tapQueue) (Ends.modify ⟨rfl, rfl, rfl, rfl⟩) ?_
  rintro _ x ⟨hside, hkernel''', hpool'', hqueue'''⟩
  simp only [flowSide, Prod.mk.injEq] at hside
  obtain ⟨hx1, hx2, hx3, hx4⟩ := hside
  refine Ends.modify ⟨?_, ?_, ?_, ?_, ?_, ?_, ?_⟩
  · exact hx1.trans (hflows'.trans hflows)
  · exact hkernel'''.trans (hkernel''.trans hkernel)
  · exact hqueue'''.trans (hqueue''.trans (hqueue.trans hqueue'))
  · dsimp only
    rw [hpool'', hpool', hpool]
    exact havailable
  · exact hx2.trans (hbytes'.trans hbytes)
  · exact hx3.trans hpressure'
  · dsimp only
    rw [hx4, hx3, hdirty']

theorem queue?_retired {e : FlowEntry} {f : FlowEntry → FlowEntry}
    (hflows : t.flows = (s.flows.modify id f).deferRemove id) (hget : s.flows.get id = some e) :
    t.queue? id = none ∧ ∀ other, other ≠ id → t.queue? other = s.queue? other := by
  constructor
  · unfold queue?
    rw [hflows, if_pos]
    rw [FlowTable.mem_deferred_deferRemove, FlowTable.get_modify_self, hget]
    exact .inr ⟨rfl, rfl⟩
  · intro other hne
    have hdeferred : other ∈ ((s.flows.modify id f).deferRemove id).deferred ↔ other ∈ s.flows.deferred := by
      rw [FlowTable.mem_deferred_deferRemove, FlowTable.modify_deferred]
      simp [hne]
    unfold queue?
    rw [hflows, FlowTable.get_deferRemove, FlowTable.get_modify_of_ne _ _ _ _ hne]
    simp only [hdeferred]

theorem noteFailure_noted {α : Type} {m : Io α} {notice : Notice} {Q : α → Reactor → Prop} {E : Reactor → Prop}
    (h : Ends m s Q fun _ t => E t) (hE : ∀ t, E t → E { t with journal := notice :: t.journal }) :
    Ends (noteFailure notice m) s Q fun _ t => E t :=
  Ends.tryCatch h fun _ t ht => hE t ht

theorem Still.noted (h : Still s t) (notice : Notice) : Still s { t with journal := notice :: t.journal } :=
  ⟨h.queue, h.bytes, h.pressure, h.dirty⟩

theorem Moved.noted {cfg : Config} {left : Option PendingSocketQueue} {total : ℕ} (h : Moved cfg id left total s t)
    (notice : Notice) : Moved cfg id left total s { t with journal := notice :: t.journal } :=
  ⟨h.queue, h.others, h.bytes, h.pressure, h.dirty⟩

theorem tap_room
    (hroom : s.framePool.available ≠ 0 ∨
      ∃ queued ∈ s.tapQueue, queued.flow ≠ some id ∨ queued.frame.slot.tier = .mtu)
    (hqueue : t.tapQueue = s.tapQueue.filter fun queued => queued.flow ≠ some id)
    (havailable : t.framePool.available = s.framePool.available +
      (s.tapQueue.filter fun queued => queued.flow = some id).countP fun queued => queued.frame.slot.tier = .mtu) :
    ¬(t.framePool.available = 0 ∧ t.tapQueue = []) := by
  rintro ⟨hempty, hnone⟩
  rw [hqueue, List.filter_eq_nil_iff] at hnone
  rw [havailable] at hempty
  rcases hroom with hfree | ⟨queued, hm, hkind⟩
  · omega
  · by_cases howner : queued.flow = some id
    · have hcount := List.countP_eq_zero.mp (Nat.eq_zero_of_add_eq_zero_left hempty) queued
        (List.mem_filter.mpr ⟨hm, by simpa using howner⟩)
      rcases hkind with hkind | hkind
      · exact hkind howner
      · exact hcount (by simpa using hkind)
    · exact hnone queued hm (by simpa using howner)

/-- A close that takes bytes off the ledger goes on to arm the TAP, and can. -/
def ArmsTap (s : Reactor) (id : FlowId) : Prop :=
  s.kernel.epollDelete.head = .ok () → ∀ q, s.queue? id = some q → q.bytes ≠ 0 → TapCapacity s id

theorem updateTapInterest_ends (hroom : ¬(s.framePool.available = 0 ∧ s.tapQueue = []))
    (hanswer : s.kernel.epollModify.head = .ok ()) :
    Ends updateTapInterest s (fun _ t => flowSide t = flowSide s) fun _ _ => False := by
  unfold updateTapInterest
  refine Ends.bind (R := fun a t => s = a ∧ s = t) (Ends.get ⟨rfl, rfl⟩) ?_
  rintro _ _ ⟨rfl, rfl⟩
  rw [if_neg hroom]
  unfold Call.epollModify
  refine Ends.bind (R := fun a t => a = .ok () ∧ flowSide t = flowSide s) ⟨hanswer, rfl⟩ ?_
  rintro _ t ⟨rfl, ht⟩
  exact Ends.pure ht

theorem epollDelete_ends (s : Reactor) :
    Ends Call.epollDelete s (fun _ t => s.kernel.epollDelete.head = .ok () ∧ flowSide t = flowSide s ∧
      t.tapQueue = s.tapQueue ∧ t.framePool = s.framePool ∧ t.kernel.epollModify = s.kernel.epollModify)
      fun _ t => Still s t := by
  unfold Call.epollDelete
  refine Ends.bind (R := fun a t => a = s.kernel.epollDelete.head ∧ flowSide t = flowSide s ∧
    t.tapQueue = s.tapQueue ∧ t.framePool = s.framePool ∧ t.kernel.epollModify = s.kernel.epollModify)
    ⟨rfl, rfl, rfl, rfl, rfl⟩ ?_
  rintro answer t ⟨hanswer, ht⟩
  cases answer with
  | ok _ => exact Ends.pure ⟨hanswer.symm, ht⟩
  | error error => exact Ends.throw (.of_flowSide ht.1)

/-- A close takes the flow off the ledger or leaves its queue; it fails with the count taken
off only where there was nothing to take. -/
theorem closeFlow_ends (cfg : Config) {q : PendingSocketQueue} (hq : s.queue? id = some q)
    (harms : ArmsTap s id) :
    Ends (closeFlow cfg id) s (fun _ t => Moved cfg id none (s.pendingSocketBytes - q.bytes) s t)
      fun _ t => Still s t ∨ (q.bytes = 0 ∧ Moved cfg id (some q) s.pendingSocketBytes s t) := by
  obtain ⟨hopen, e, hget, rfl⟩ := queue?_eq_some.mp hq
  unfold closeFlow
  refine Ends.bind (R := fun a t => s = a ∧ s = t) (Ends.get ⟨rfl, rfl⟩) ?_
  rintro _ _ ⟨rfl, rfl⟩
  rw [hget]
  dsimp only
  refine Ends.bind (R := fun _ t => s = t) (noteFailure_noted (E := fun t => _ ∨ _) ?_ fun _ h => ?_) ?_
  · cases e.construction.activeSides with
    | some sides => exact Ends.pure rfl
    | none => exact Ends.throw (.inl ⟨fun _ => rfl, rfl, rfl, rfl⟩)
  · exact h.imp (·.noted _) fun h => ⟨h.1, h.2.noted _⟩
  rintro sides _ rfl
  refine Ends.bind (Ends.mono (noteFailure_noted (epollDelete_ends s) fun _ h => h.noted _) (fun _ _ h => h)
    fun _ _ h => .inl h) ?_
  rintro _ t ⟨hdelete, hside, hqueue, hpool, hkernel⟩
  refine Ends.bind (Ends.mono (releaseAccounting_ends cfg id sides.namespaceKey e t) (fun _ _ h => h)
    fun _ _ h => h.elim) ?_
  rintro _ u ⟨hflows, hkernel', hqueue', havailable, hbytes, hpressure, hdirty⟩
  simp only [flowSide, Prod.mk.injEq] at hside
  obtain ⟨hs1, hs2, hs3, hs4⟩ := hside
  have hget' : u.flows.get id = some e := by rw [hflows, hs1]; exact hget
  have harmed : Ends updateTapInterest u (fun _ v => flowSide v = flowSide u) fun _ v =>
      flowSide v = flowSide u ∧ e.pendingSocket.bytes = 0 := by
    by_cases hnone : e.pendingSocket.bytes = 0
    · exact Ends.mono (flowSide_updateTapInterest u) (fun _ _ h => h) fun _ _ h => ⟨h, hnone⟩
    · obtain ⟨hcapacity, hanswer⟩ := harms hdelete _ hq hnone
      rw [hqueue, hpool] at havailable
      rw [hqueue] at hqueue'
      refine Ends.mono (updateTapInterest_ends (tap_room hcapacity hqueue' havailable) ?_) (fun _ _ h => h)
        fun _ _ h => h.elim
      rw [hkernel', hkernel]
      exact hanswer
  refine Ends.bind (Ends.mono (noteFailure_noted harmed fun _ h => h) (fun _ _ h => h) ?_) ?_
  · rintro _ v ⟨hside, hnone⟩
    simp only [flowSide, Prod.mk.injEq] at hside
    obtain ⟨hv1, hv2, hv3, hv4⟩ := hside
    have hsame := queue?_of_flows (hv1.trans (hflows.trans hs1))
    have htotal : t.pendingSocketBytes - e.pendingSocket.bytes = s.pendingSocketBytes := by
      rw [hs2, hnone, Nat.sub_zero]
    rw [htotal] at hbytes hpressure
    refine .inr ⟨hnone, (hsame id).trans hq, fun other _ => hsame other, hv2.trans hbytes, ?_, ?_⟩
    · exact hv3.trans (hpressure.trans (by rw [hs3]))
    · rw [hv4, hdirty, hs4, hs3, hv3]
  rintro _ v hside
  simp only [flowSide, Prod.mk.injEq] at hside
  obtain ⟨hv1, hv2, hv3, hv4⟩ := hside
  refine Ends.bind (Ends.mono (modifyEntry_ends (hv1 ▸ hget') _) (fun _ _ h => h) fun _ _ h => h.elim) ?_
  rintro _ _ rfl
  have hflows' : v.flows = s.flows := hv1.trans (hflows.trans hs1)
  obtain ⟨hgone, hothers⟩ := @queue?_retired s
    { v with flows := (v.flows.modify id fun e => { e with flow := e.flow.close }).deferRemove id } id e
    (fun e => { e with flow := e.flow.close }) (by dsimp only; rw [hflows']) hget
  refine Ends.modify ⟨hgone, hothers, ?_, ?_, ?_⟩
  · exact hv2.trans (hbytes.trans (by rw [hs2]))
  · exact hv3.trans (hpressure.trans (by rw [hs2, hs3]))
  · dsimp only
    rw [hv4, hdirty, hs4, hs3, hv3]

/-- What a refused payload comes to before the flow is closed. -/
def refuse (cfg : Config) (id : FlowId) : Io Unit := do
  modify fun s =>
    { s with metrics := { s.metrics with pendingLimitHits := s.metrics.pendingLimitHits + 1 } }
  note (.refused id)
  sendResetForFlow cfg id

theorem flowSide_refuse (cfg : Config) (id : FlowId) : Inert flowSide (refuse cfg id) :=
  Inert.bind (Inert.modify fun _ => rfl) fun _ => (flowSide_note _).bind fun _ => flowSide_sendResetForFlow cfg id

/-- An accepted payload joins its queue; a refused one at most closes the flow. -/
theorem enqueuePendingPayload_ends (cfg : Config) {q : PendingSocketQueue} (hq : s.queue? id = some q)
    (payload : Bytes)
    (hclear : payload.length > q.remaining ∨ payload.length > cfg.maxPendingTcpBytes - s.pendingSocketBytes →
      ∀ t, refuse cfg id s = .ok () t → ArmsTap t id) :
    Ends (enqueuePendingPayload cfg id payload) s
      (fun _ t => Moved cfg id none (s.pendingSocketBytes - q.bytes) s t ∨
        ∃ r, q.push payload = some r ∧ payload.length ≤ cfg.maxPendingTcpBytes - s.pendingSocketBytes ∧
          Moved cfg id (some r) (s.pendingSocketBytes + payload.length) s t)
      fun _ t => Still s t ∨ (q.bytes = 0 ∧ Moved cfg id (some q) s.pendingSocketBytes s t) := by
  obtain ⟨hopen, e, hget, rfl⟩ := queue?_eq_some.mp hq
  unfold enqueuePendingPayload
  refine Ends.bind (R := fun a t => s = a ∧ s = t) (Ends.get ⟨rfl, rfl⟩) ?_
  rintro _ _ ⟨rfl, rfl⟩
  refine Ends.bind (Ends.mono (flowEntry_ends hget) (fun _ _ h => h) fun _ _ h => h.elim) ?_
  rintro _ _ ⟨rfl, rfl⟩
  split
  · rename_i hrefused
    have hsplit : (do
        modify fun s => { s with metrics := { s.metrics with pendingLimitHits := s.metrics.pendingLimitHits + 1 } }
        note (.refused id)
        failTcpFlow cfg id
        pure false) = (refuse cfg id >>= fun _ => closeFlow cfg id >>= fun _ => pure false : Io Bool) := by
      unfold refuse failTcpFlow
      simp only [bind_assoc]
    rw [hsplit]
    refine Ends.bind (R := fun _ t => Still s t ∧ ArmsTap t id) ?_ ?_
    · refine Ends.mono ((Ends.self (refuse cfg id) s).and (flowSide_refuse cfg id s)) ?_ ?_
      · rintro _ t ⟨hrun, hside⟩
        exact ⟨.of_flowSide hside, hclear hrefused t hrun⟩
      · rintro _ t ⟨-, hside⟩
        exact .inl (.of_flowSide hside)
    · rintro _ t ⟨hstill, harms⟩
      have hclose := closeFlow_ends cfg ((hstill.queue id).trans hq) harms
      rw [hstill.bytes] at hclose
      refine Ends.bind (Ends.mono hclose (fun _ _ h => h) ?_) fun _ u hu => Ends.pure (.inl (hu.after hstill))
      rintro _ u (hu | ⟨hnone, hu⟩)
      · exact .inl ⟨fun other => (hu.queue other).trans (hstill.queue other), hu.bytes.trans hstill.bytes,
          hu.pressure.trans hstill.pressure, hu.dirty.trans hstill.dirty⟩
      · exact .inr ⟨hnone, hu.after hstill⟩
  · rename_i hroom
    obtain ⟨hlocal, hglobal⟩ := not_or.mp hroom
    obtain ⟨r, hr⟩ := Option.isSome_iff_exists.mp (PendingSocketQueue.push_isSome (Nat.le_of_not_gt hlocal))
    refine Ends.bind (R := fun a t => r = a ∧ s = t) ?_ ?_
    · rw [hr]
      exact Ends.pure ⟨rfl, rfl⟩
    rintro _ _ ⟨rfl, rfl⟩
    refine Ends.bind (Ends.mono (modifyEntry_ends hget _) (fun _ _ h => h) fun _ _ h => h.elim) ?_
    rintro _ _ rfl
    refine Ends.bind (R := fun _ t => t.flows = s.flows.modify id (fun e => { e with pendingSocket := r }) ∧
      t.pendingSocketBytes = s.pendingSocketBytes + payload.length ∧ t.pendingPressure = s.pendingPressure ∧
      t.pendingPressureDirty = s.pendingPressureDirty) (Ends.modify ⟨rfl, rfl, rfl, rfl⟩) ?_
    rintro _ t ⟨hflows, hbytes, hpressure, hdirty⟩
    obtain ⟨hqueue, hothers⟩ := queue?_modified hflows hq hget
    refine Ends.bind (Ends.mono (updatePendingPressureState_ends cfg t) (fun _ _ h => h) fun _ _ h => h.elim) ?_
    rintro _ u ⟨hflows', hbytes', -, -, -, hpressure', hdirty'⟩
    rw [hbytes, hpressure] at hpressure'
    rw [hdirty, hpressure] at hdirty'
    refine Ends.pure (.inr ⟨r, hr, Nat.le_of_not_gt hglobal, ?_, fun other hne => ?_, hbytes'.trans hbytes,
      hpressure', hdirty'⟩)
    · rw [queue?_of_flows hflows', hqueue]
    · rw [queue?_of_flows hflows', hothers other hne]

/-- What the queues, the count and the pressure come to. -/
def ledger (s : Reactor) : (FlowId → Option PendingSocketQueue) × ℕ × Bool × Bool :=
  (s.queue?, s.pendingSocketBytes, s.pendingPressure, s.pendingPressureDirty)

/-- What applying the pressure leaves alone. -/
def tally (s : Reactor) : (FlowId → Option PendingSocketQueue) × ℕ × Bool :=
  (s.queue?, s.pendingSocketBytes, s.pendingPressure)

theorem ledger_of_flowSide {α : Type} {m : Io α} (h : Inert flowSide m) : Inert ledger m := by
  have hof : ∀ s t, flowSide t = flowSide s → ledger t = ledger s := by
    intro s t hst
    have hstill := Still.of_flowSide hst
    unfold ledger
    rw [hstill.bytes, hstill.pressure, hstill.dirty, show t.queue? = s.queue? from funext hstill.queue]
  intro s
  exact Ends.mono (h s) (fun _ t => hof s t) fun _ t => hof s t

theorem tally_of_ledger {α : Type} {m : Io α} (h : Inert ledger m) : Inert tally m := by
  have hof : ∀ s t, ledger t = ledger s → tally t = tally s := by
    intro s t hst
    simp only [ledger, Prod.mk.injEq] at hst
    obtain ⟨hqueue, hbytes, hpressure, -⟩ := hst
    unfold tally
    rw [hqueue, hbytes, hpressure]
  intro s
  exact Ends.mono (h s) (fun _ t => hof s t) fun _ t => hof s t

theorem ledger_modifyEntry (id : FlowId) {f : FlowEntry → FlowEntry}
    (hf : ∀ e, (f e).pendingSocket = e.pendingSocket) : Inert ledger (modifyEntry id f) := by
  refine (ledger_of_flowSide (flowSide_flowEntry id)).bind fun _ => Inert.modify fun s => ?_
  unfold ledger
  refine congrArg (fun queue => (queue, s.pendingSocketBytes, s.pendingPressure, s.pendingPressureDirty))
    (funext fun other => ?_)
  unfold queue?
  dsimp only
  rw [FlowTable.modify_deferred, FlowTable.get_modify]
  by_cases he : other = id
  · subst he
    rw [if_pos rfl, Option.map_map]
    exact congrArg _ (congrArg (fun g => Option.map g _) (funext hf))
  · rw [if_neg he]

theorem tally_updateNamespaceWindow (cfg : Config) (id : FlowId) :
    Inert tally (updateNamespaceWindow cfg id) := by
  refine tally_of_ledger (Inert.get.bind fun s => (ledger_of_flowSide (flowSide_flowEntry id)).bind fun e => ?_)
  refine Inert.bind ?_ fun _ => Inert.pure _
  exact ledger_modifyEntry id fun _ => rfl

theorem tally_pressFlows (cfg : Config) (ids : List FlowId) : Inert tally (pressFlows cfg ids) := by
  induction ids with
  | nil => exact Inert.pure ()
  | cons id ids ih =>
    unfold pressFlows
    refine Inert.bind (Inert.get.bind fun _ => Inert.pure _) fun closed => ?_
    split
    · exact ih
    refine Inert.bind (Inert.get.bind fun _ => Inert.pure _) fun available => ?_
    split
    · exact Inert.bind (Inert.modify fun _ => rfl) fun _ => Inert.modify fun _ => rfl
    refine (tally_updateNamespaceWindow cfg id).bind fun changed => ?_
    split
    · exact (tally_of_ledger (ledger_of_flowSide (flowSide_sendAckKind cfg id false))).bind fun _ => ih
    · exact Inert.bind (Inert.pure ()) fun _ => ih

theorem tally_applyPendingPressure (cfg : Config) : Inert tally (applyPendingPressure cfg) := by
  refine Inert.get_bind fun s => ?_
  split
  · refine Ends.bind (R := fun _ t => tally t = tally s) rfl fun _ t ht => ?_
    exact Ends.mono (tally_pressFlows cfg _ t) (fun _ _ h => h.trans ht) fun _ _ h => h.trans ht
  · exact Ends.pure rfl

end Reactor

namespace PendingSocketQueue

variable {q r : PendingSocketQueue}

theorem push_bytes {bytes : Bytes} (h : q.push bytes = some r) (hle : q.bytes ≤ q.limit) :
    r.bytes = q.bytes + bytes.length ∧ r.limit = q.limit ∧ r.bytes ≤ r.limit := by
  unfold push at h
  split at h
  · cases h
  rename_i hroom
  unfold remaining at hroom
  split at h
  · rename_i hnil
    cases h
    rw [hnil]
    exact ⟨rfl, rfl, hle⟩
  · cases h
    refine ⟨rfl, rfl, ?_⟩
    dsimp only
    omega

theorem Wf.consume_bytes (hq : q.Wf) (length : ℕ) :
    (q.consume length).1.bytes + (q.consume length).2 = q.bytes ∧ (q.consume length).1.limit = q.limit := by
  have hbytes := hq.bytes_eq
  unfold content at hbytes
  unfold PendingSocketQueue.consume
  cases hc : q.chunks with
  | nil => exact ⟨rfl, rfl⟩
  | cons front chunks =>
    rw [hc, List.flatten_cons, List.length_append] at hbytes
    refine ⟨?_, rfl⟩
    dsimp only
    omega

end PendingSocketQueue

/-- Whether a count reached the high mark since one was last at or below the low mark; newest first. -/
def pressed (limit : ℕ) (totals : List ℕ) : Bool :=
  (totals.takeWhile fun total => limit * 3 / 4 < total).any fun total => limit * 7 / 8 ≤ total

theorem pressed_cons (limit total : ℕ) (past : List ℕ) :
    pressed limit (total :: past) =
      (decide (limit * 3 / 4 < total) && (decide (limit * 7 / 8 ≤ total) || pressed limit past)) := by
  unfold pressed
  by_cases h : limit * 3 / 4 < total
  · rw [List.takeWhile_cons_of_pos (by simpa using h)]
    simp [h]
  · rw [List.takeWhile_cons_of_neg (by simpa using h)]
    simp [h]

/-- The flag follows the counts. -/
theorem pendingPressureState_pressed {limit : ℕ} (hlimit : 16384 ≤ limit) (total : ℕ) (past : List ℕ) :
    pendingPressureState (pressed limit past) total limit = pressed limit (total :: past) := by
  rw [pressed_cons]
  unfold pendingPressureState
  cases pressed limit past with
  | true => simp
  | false =>
    have hmarks : limit * 3 / 4 < limit * 7 / 8 := by omega
    by_cases h : limit * 7 / 8 ≤ total
    · have hlow : limit * 3 / 4 < total := by omega
      simp [h, hlow]
    · simp [h]

theorem pressed_again (limit total : ℕ) (past : List ℕ) :
    pressed limit (total :: total :: past) = pressed limit (total :: past) := by
  rw [pressed_cons, pressed_cons]
  cases decide (limit * 3 / 4 < total) <;> cases decide (limit * 7 / 8 ≤ total) <;> simp

structure PendingRun where
  reactor : Reactor
  past : List ℕ
  changed : Bool

inductive PendingOp where
  | enqueue (id : FlowId) (payload : Bytes)
  | consume (id : FlowId) (length : ℕ)
  | close (id : FlowId)
  | apply
  | elsewhere (t : Reactor)

/-- The queues, the count and the pressure are the same, flows with empty queues apart. -/
structure Undisturbed (s t : Reactor) : Prop where
  kept : ∀ id q, s.queue? id = some q → t.queue? id = some q
  fresh : ∀ id, s.queue? id = none →
    t.queue? id = none ∨ t.queue? id = some (PendingSocketQueue.new maxPendingSocketBytes)
  bytes : t.pendingSocketBytes = s.pendingSocketBytes
  pressure : t.pendingPressure = s.pendingPressure

/-- Other work leaves the ledger alone; it may add flows and remove retired ones. -/
structure Elsewhere (s t : Reactor) : Prop extends Undisturbed s t where
  dirty : t.pendingPressureDirty = s.pendingPressureDirty

namespace Elsewhere

variable {s t : Reactor}

theorem of_queues (h : ∀ id, t.queue? id = s.queue? id) (hbytes : t.pendingSocketBytes = s.pendingSocketBytes)
    (hpressure : t.pendingPressure = s.pendingPressure) (hdirty : t.pendingPressureDirty = s.pendingPressureDirty) :
    Elsewhere s t :=
  ⟨⟨fun id _ hq => (h id).trans hq, fun id hq => .inl ((h id).trans hq), hbytes, hpressure⟩, hdirty⟩

theorem inert {α : Type} {m : Io α} (h : Inert Reactor.ledger m) (s : Reactor) : Elsewhere s (final (m s)) := by
  have hledger := Ends.final (P := fun t => Reactor.ledger t = Reactor.ledger s) (h s)
  simp only [Reactor.ledger, Prod.mk.injEq] at hledger
  obtain ⟨hqueue, hbytes, hpressure, hdirty⟩ := hledger
  exact of_queues (fun id => congrFun hqueue id) hbytes hpressure hdirty

theorem registerFlow (hwf : s.flows.Wf) (key : FlowKey) {entry : FlowEntry}
    (hentry : entry.pendingSocket = PendingSocketQueue.new maxPendingSocketBytes) :
    Elsewhere s (final (Reactor.registerFlow key entry s)) := by
  rcases hwf.insert_cases entry with hfull | ⟨flows, id, hinsert, -, hdeferred, hunused, hget, -⟩
  · have hrun : Reactor.registerFlow key entry s = .ok none s := by
      rw [Reactor.registerFlow, get_bind_apply, hfull]
      rfl
    rw [hrun]
    exact of_queues (fun _ => rfl) rfl rfl rfl
  · have hrun : ∃ t, final (Reactor.registerFlow key entry s) = t ∧ t.flows = flows ∧
        t.pendingSocketBytes = s.pendingSocketBytes ∧ t.pendingPressure = s.pendingPressure ∧
        t.pendingPressureDirty = s.pendingPressureDirty := by
      refine ⟨_, rfl, ?_⟩
      rw [Reactor.registerFlow, get_bind_apply, hinsert]
      exact ⟨rfl, rfl, rfl, rfl⟩
    obtain ⟨t, hfinal, hflows, hbytes, hpressure, hdirty⟩ := hrun
    rw [hfinal]
    have hfree : s.flows.get id = none := by
      cases hs : s.flows.get id with
      | none => rfl
      | some e => exact absurd (FlowTable.used_of_get hs) hunused
    have hqueue : ∀ other, other ≠ id → t.queue? other = s.queue? other := by
      intro other hne
      unfold Reactor.queue?
      rw [hflows, hdeferred, hget, if_neg hne]
    refine ⟨⟨fun other q hq => ?_, fun other hq => ?_, hbytes, hpressure⟩, hdirty⟩
    · rw [hqueue other]
      · exact hq
      · rintro rfl
        obtain ⟨-, e, he, -⟩ := Reactor.queue?_eq_some.mp hq
        rw [hfree] at he
        cases he
    · by_cases he : other = id
      · subst he
        unfold Reactor.queue?
        rw [hflows, hget, if_pos rfl]
        split
        · exact .inl rfl
        · exact .inr (congrArg some hentry)
      · exact .inl ((hqueue other he).trans hq)

end Elsewhere

theorem Elsewhere.startFlow (id : FlowId) (s : Reactor) : Elsewhere s (final (Reactor.startFlow id s)) := by
  refine Elsewhere.inert ?_ s
  unfold Reactor.startFlow
  split
  · refine (Reactor.ledger_of_flowSide (flowSide_flowEntry id)).bind fun _ => ?_
    refine Inert.bind (Reactor.ledger_of_flowSide ((flowSide_ask _ _).bind flowSide_orThrow)) fun _ => ?_
    refine (Reactor.ledger_of_flowSide (flowSide_flowEntry id)).bind fun e => ?_
    refine (Reactor.ledger_of_flowSide (flowSide_ensure _ _)).bind fun active => ?_
    refine Inert.bind (Reactor.ledger_modifyEntry id fun _ => ?_) fun _ => Inert.modify fun _ => ?_
    · rfl
    · rfl
  · exact Inert.throw _

namespace PendingRun

variable (cfg : Config)

def act : PendingOp → Io Unit
  | .enqueue id payload => do
    let _ ← Reactor.enqueuePendingPayload cfg id payload
    pure ()
  | .consume id length => Reactor.consumePendingPayload cfg id length
  | .close id => Reactor.closeFlow cfg id
  | .apply => Reactor.applyPendingPressure cfg
  | .elsewhere t => set t

def given (r : PendingRun) (answers : Kernel) : Reactor := { r.reactor with kernel := answers }

/-- The operation may fail; applying the pressure settles its changes unless it is left dirty. -/
def step (r : PendingRun) (op : PendingOp) (answers : Kernel) : PendingRun :=
  let s := r.given answers
  let t := final (act cfg op s)
  { reactor := t
    past := s.pendingSocketBytes :: r.past
    changed :=
      match op with
      | .apply => r.changed && t.pendingPressureDirty
      | _ => r.changed || (t.pendingPressure != s.pendingPressure) }

/-- Operations are on open flows; a failure to apply the pressure ends the run. -/
def Allowed (r : PendingRun) (answers : Kernel) : PendingOp → Prop
  | .enqueue id _ => (r.reactor.queue? id).isSome = true
  | .consume id _ => (r.reactor.queue? id).isSome = true
  | .close id => (r.reactor.queue? id).isSome = true
  | .apply => ∃ t, Reactor.applyPendingPressure cfg (r.given answers) = .ok () t
  | .elsewhere t => Elsewhere r.reactor t

/-- The TAP can be armed whenever the close of a flow with queued bytes comes to that. -/
def Armed (r : PendingRun) (answers : Kernel) : PendingOp → Prop
  | .close id => Reactor.ArmsTap (r.given answers) id
  | .enqueue id payload => ∀ q, r.reactor.queue? id = some q →
    payload.length > q.remaining ∨ payload.length > cfg.maxPendingTcpBytes - r.reactor.pendingSocketBytes →
      ∀ t, Reactor.refuse cfg id (r.given answers) = .ok () t → Reactor.ArmsTap t id
  | _ => True

/-- Runs whose steps all satisfy `cond`. -/
inductive Run (cond : PendingRun → Kernel → PendingOp → Prop) : PendingRun → Prop
  | start (kernel : Kernel) (test : TestHooks) (queryTimeout now : Millis) :
      Run cond ⟨Reactor.new cfg kernel test queryTimeout now, [], false⟩
  | step {r : PendingRun} (op : PendingOp) (answers : Kernel) :
      Run cond r → Allowed cfg r answers op → cond r answers op → Run cond (step cfg r op answers)

variable {cfg} in
theorem Run.mono {cond weaker : PendingRun → Kernel → PendingOp → Prop} {r : PendingRun} (h : Run cfg cond r)
    (hw : ∀ r answers op, cond r answers op → weaker r answers op) : Run cfg weaker r := by
  induction h with
  | start kernel test queryTimeout now => exact .start kernel test queryTimeout now
  | step op answers _ hallowed hcond ih => exact .step op answers ih hallowed (hw _ _ _ hcond)

/-- The ledger adds up and the pressure follows it. -/
structure Balanced (r : PendingRun) : Prop where
  queues : ∀ id q, r.reactor.queue? id = some q → q.Wf ∧ q.bytes ≤ q.limit
  total : r.reactor.pendingSocketBytes = r.reactor.openBytes
  bounded : r.reactor.pendingSocketBytes ≤ cfg.maxPendingTcpBytes
  pressure : r.reactor.pendingPressure =
    pressed cfg.maxPendingTcpBytes (r.reactor.pendingSocketBytes :: r.past)
  dirty : r.changed = true → r.reactor.pendingPressureDirty = true

namespace Balanced

variable {cfg : Config} {r : PendingRun}

theorem moved (hb : Balanced cfg r) {answers : Kernel} {id : FlowId} {left : Option PendingSocketQueue}
    {total : ℕ} {t : Reactor} (h : Reactor.Moved cfg id left total (r.given answers) t)
    (hleft : ∀ q, left = some q → q.Wf ∧ q.bytes ≤ q.limit)
    (htotal : total + r.reactor.queuedBytes id =
      r.reactor.pendingSocketBytes + (left.map PendingSocketQueue.bytes).getD 0)
    (hbounded : total ≤ cfg.maxPendingTcpBytes) :
    Balanced cfg ⟨t, r.reactor.pendingSocketBytes :: r.past,
      r.changed || (t.pendingPressure != r.reactor.pendingPressure)⟩ := by
  have hbytes : ∀ other, other ≠ id → t.queuedBytes other = r.reactor.queuedBytes other := by
    intro other hne
    unfold Reactor.queuedBytes
    rw [h.others other hne]
    rfl
  have hid : t.queuedBytes id = (left.map PendingSocketQueue.bytes).getD 0 := by
    unfold Reactor.queuedBytes
    rw [h.queue]
  refine ⟨fun other q hq => ?_, ?_, ?_, ?_, fun hchanged => ?_⟩
  · dsimp only at hq
    by_cases he : other = id
    · subst he
      rw [h.queue] at hq
      exact hleft q hq
    · rw [h.others other he] at hq
      exact hb.queues other q hq
  · have hsum := Reactor.openBytes_changed id hbytes
    have hold := hb.total
    dsimp only
    rw [h.bytes]
    omega
  · dsimp only
    rw [h.bytes]
    exact hbounded
  · dsimp only
    rw [h.pressure, h.bytes]
    change pendingPressureState r.reactor.pendingPressure total _ = _
    rw [hb.pressure]
    exact pendingPressureState_pressed cfg.maxPendingTcpBytes_ge total _
  · dsimp only at hchanged ⊢
    rw [h.dirty]
    change (r.reactor.pendingPressureDirty || (t.pendingPressure != r.reactor.pendingPressure)) = true
    rcases Bool.or_eq_true_iff.mp hchanged with hc | hc
    · rw [hb.dirty hc, Bool.true_or]
    · rw [hc, Bool.or_true]

theorem undisturbed (hb : Balanced cfg r) {t : Reactor} (h : Undisturbed r.reactor t) {changed : Bool}
    (hchanged : changed = true → t.pendingPressureDirty = true) :
    Balanced cfg ⟨t, r.reactor.pendingSocketBytes :: r.past, changed⟩ := by
  have hqueue : ∀ id q, t.queue? id = some q → r.reactor.queue? id = some q ∨
      (r.reactor.queue? id = none ∧ q = PendingSocketQueue.new maxPendingSocketBytes) := by
    intro id q hq
    cases hold : r.reactor.queue? id with
    | some p =>
      rw [h.kept id p hold] at hq
      exact .inl hq
    | none =>
      rcases h.fresh id hold with hnone | hnew
      · rw [hnone] at hq
        cases hq
      · rw [hnew] at hq
        exact .inr ⟨rfl, (Option.some.inj hq).symm⟩
  have hbytes : ∀ id, t.queuedBytes id = r.reactor.queuedBytes id := by
    intro id
    unfold Reactor.queuedBytes
    cases hold : r.reactor.queue? id with
    | some p => rw [h.kept id p hold]
    | none =>
      rcases h.fresh id hold with hnone | hnew
      · rw [hnone]
      · rw [hnew]
        rfl
  refine ⟨fun id q hq => ?_, ?_, ?_, ?_, hchanged⟩
  · rcases hqueue id q hq with hold | ⟨-, rfl⟩
    · exact hb.queues id q hold
    · exact ⟨PendingSocketQueue.wf_new _, Nat.zero_le _⟩
  · dsimp only
    rw [h.bytes, hb.total, Reactor.openBytes_same hbytes]
  · dsimp only
    rw [h.bytes]
    exact hb.bounded
  · dsimp only
    rw [h.pressure, h.bytes, pressed_again]
    exact hb.pressure

theorem still (hb : Balanced cfg r) {answers : Kernel} {t : Reactor} (h : Reactor.Still (r.given answers) t) :
    Balanced cfg ⟨t, r.reactor.pendingSocketBytes :: r.past,
      r.changed || (t.pendingPressure != r.reactor.pendingPressure)⟩ := by
  have hpressure : t.pendingPressure = r.reactor.pendingPressure := h.pressure
  refine hb.undisturbed ⟨fun id q hq => (h.queue id).trans hq, fun id hq => .inl ((h.queue id).trans hq), h.bytes,
    h.pressure⟩ fun hchanged => ?_
  rw [hpressure, bne_self_eq_false, Bool.or_false] at hchanged
  exact h.dirty.trans (hb.dirty hchanged)

theorem unclosed (hb : Balanced cfg r) {answers : Kernel} {id : FlowId} {q : PendingSocketQueue} {t : Reactor}
    (hq : r.reactor.queue? id = some q)
    (h : Reactor.Still (r.given answers) t ∨
      (q.bytes = 0 ∧ Reactor.Moved cfg id (some q) r.reactor.pendingSocketBytes (r.given answers) t)) :
    Balanced cfg ⟨t, r.reactor.pendingSocketBytes :: r.past,
      r.changed || (t.pendingPressure != r.reactor.pendingPressure)⟩ := by
  rcases h with hstill | ⟨-, hmoved⟩
  · exact hb.still hstill
  · refine hb.moved hmoved ?_ ?_ hb.bounded
    · rintro _ ⟨⟩
      exact hb.queues id q hq
    · rw [Reactor.queuedBytes_of_queue? hq]
      rfl

theorem exact (hb : Balanced cfg r) {id : FlowId} {q : PendingSocketQueue} (hq : r.reactor.queue? id = some q) :
    q.bytes ≤ r.reactor.pendingSocketBytes := by
  have hle := r.reactor.queuedBytes_le id
  rw [Reactor.queuedBytes_of_queue? hq, ← hb.total] at hle
  exact hle

theorem closed (hb : Balanced cfg r) {answers : Kernel} {id : FlowId} {q : PendingSocketQueue} {t : Reactor}
    (hq : r.reactor.queue? id = some q)
    (h : Reactor.Moved cfg id none (r.reactor.pendingSocketBytes - q.bytes) (r.given answers) t) :
    Balanced cfg ⟨t, r.reactor.pendingSocketBytes :: r.past,
      r.changed || (t.pendingPressure != r.reactor.pendingPressure)⟩ := by
  have hle := hb.exact hq
  have hbounded := hb.bounded
  refine hb.moved h (fun _ hnone => by cases hnone) ?_ (by omega)
  rw [Reactor.queuedBytes_of_queue? hq]
  change _ = r.reactor.pendingSocketBytes + 0
  omega

theorem initial (cfg : Config) (kernel : Kernel) (test : TestHooks) (queryTimeout now : Millis) :
    Balanced cfg ⟨Reactor.new cfg kernel test queryTimeout now, [], false⟩ := by
  have hnone : ∀ id, (Reactor.new cfg kernel test queryTimeout now).queue? id = none := by
    intro id
    unfold Reactor.queue? Reactor.new
    dsimp only
    rw [FlowTable.get_withCapacity]
    split <;> rfl
  refine ⟨fun id q hq => ?_, ?_, Nat.zero_le _, ?_, fun h => by cases h⟩
  · dsimp only at hq
    rw [hnone] at hq
    cases hq
  · have hempty : (Reactor.new cfg kernel test queryTimeout now).flows.activeIds = [] := by
      apply List.eq_nil_iff_forall_not_mem.mpr
      intro id hid
      rw [FlowTable.mem_activeIds] at hid
      unfold Reactor.new at hid
      dsimp only at hid
      rw [FlowTable.get_withCapacity] at hid
      cases hid
    unfold Reactor.openBytes
    dsimp only
    rw [hempty]
    rfl
  · change false = pressed cfg.maxPendingTcpBytes [0]
    rw [pressed_cons]
    simp

theorem step (hb : Balanced cfg r) (op : PendingOp) (answers : Kernel) (hallowed : Allowed cfg r answers op)
    (harmed : Armed cfg r answers op) : Balanced cfg (step cfg r op answers) := by
  cases op with
  | enqueue id payload =>
    obtain ⟨q, hq⟩ := Option.isSome_iff_exists.mp hallowed
    obtain ⟨hwf, hlimit⟩ := hb.queues id q hq
    have hends := Reactor.enqueuePendingPayload_ends cfg (s := r.given answers) hq payload (harmed q hq)
    refine Ends.final (P := fun t => Balanced cfg ⟨t, r.reactor.pendingSocketBytes :: r.past,
      r.changed || (t.pendingPressure != r.reactor.pendingPressure)⟩) (Ends.bind (Ends.mono hends (fun _ _ h => h)
        fun _ _ h => hb.unclosed hq h) ?_)
    rintro _ t (hmoved | ⟨p, hpush, hroom, hmoved⟩)
    · exact Ends.pure (hb.closed hq hmoved)
    · obtain ⟨hbytes, -, hle⟩ := PendingSocketQueue.push_bytes hpush hlimit
      have hbounded := hb.bounded
      have hroom' : payload.length ≤ cfg.maxPendingTcpBytes - r.reactor.pendingSocketBytes := hroom
      refine Ends.pure (hb.moved hmoved ?_ ?_ ?_)
      · rintro _ ⟨⟩
        exact ⟨hwf.push hpush, hle⟩
      · rw [Reactor.queuedBytes_of_queue? hq]
        change r.reactor.pendingSocketBytes + payload.length + q.bytes = r.reactor.pendingSocketBytes + p.bytes
        omega
      · change r.reactor.pendingSocketBytes + payload.length ≤ _
        omega
  | consume id length =>
    obtain ⟨q, hq⟩ := Option.isSome_iff_exists.mp hallowed
    obtain ⟨hwf, hlimit⟩ := hb.queues id q hq
    obtain ⟨hbytes, hsame⟩ := hwf.consume_bytes length
    have hle := hb.exact hq
    have hbounded := hb.bounded
    have hends := Reactor.consumePendingPayload_ends cfg (s := r.given answers) hq length
    refine Ends.final (P := fun t => Balanced cfg ⟨t, r.reactor.pendingSocketBytes :: r.past,
      r.changed || (t.pendingPressure != r.reactor.pendingPressure)⟩)
      (Ends.mono hends (fun _ t hmoved => hb.moved hmoved ?_ ?_ ?_) fun _ _ h => h.elim)
    · rintro _ ⟨⟩
      exact ⟨hwf.consume length, by omega⟩
    · rw [Reactor.queuedBytes_of_queue? hq]
      change r.reactor.pendingSocketBytes - (q.consume length).2 + q.bytes =
        r.reactor.pendingSocketBytes + (q.consume length).1.bytes
      omega
    · change r.reactor.pendingSocketBytes - (q.consume length).2 ≤ _
      omega
  | close id =>
    obtain ⟨q, hq⟩ := Option.isSome_iff_exists.mp hallowed
    have hends := Reactor.closeFlow_ends cfg (s := r.given answers) hq harmed
    exact Ends.final (P := fun t => Balanced cfg ⟨t, r.reactor.pendingSocketBytes :: r.past,
      r.changed || (t.pendingPressure != r.reactor.pendingPressure)⟩)
      (Ends.mono hends (fun _ t hmoved => hb.closed hq hmoved) fun _ _ h => hb.unclosed hq h)
  | apply =>
    obtain ⟨t, ht⟩ := hallowed
    have htally := Ends.ok (Reactor.tally_applyPendingPressure cfg (r.given answers)) ht
    simp only [Reactor.tally, Prod.mk.injEq] at htally
    obtain ⟨hqueue, hbytes, hpressure⟩ := htally
    have hfinal : final (act cfg .apply (r.given answers)) = t := by
      change final (Reactor.applyPendingPressure cfg (r.given answers)) = t
      rw [ht]
      rfl
    have hundisturbed : Undisturbed r.reactor t := by
      refine ⟨fun id q hq => ?_, fun id hq => .inl ?_, hbytes, hpressure⟩
      · rw [hqueue]
        exact hq
      · rw [hqueue]
        exact hq
    unfold PendingRun.step
    dsimp only
    rw [hfinal]
    exact hb.undisturbed hundisturbed fun hchanged => (Bool.and_eq_true_iff.mp hchanged).2
  | elsewhere t =>
    have hpressure : t.pendingPressure = r.reactor.pendingPressure := hallowed.pressure
    refine hb.undisturbed hallowed.toUndisturbed fun hchanged => ?_
    change (r.changed || (t.pendingPressure != r.reactor.pendingPressure)) = true at hchanged
    rw [hpressure, bne_self_eq_false, Bool.or_false] at hchanged
    exact hallowed.dirty.trans (hb.dirty hchanged)

end Balanced

end PendingRun

/-- In every run whose closes find the TAP armed the ledger adds up, no subtraction clamps
and the pressure follows the counts. -/
theorem pending_balanced (cfg : Config) (r : PendingRun) (h : PendingRun.Run cfg (PendingRun.Armed cfg) r) :
    PendingRun.Balanced cfg r ∧ ∀ id q, r.reactor.queue? id = some q →
      q.bytes ≤ r.reactor.pendingSocketBytes ∧ ∀ length, (q.consume length).2 ≤ q.bytes := by
  have hb : PendingRun.Balanced cfg r := by
    induction h with
    | start kernel test queryTimeout now => exact PendingRun.Balanced.initial cfg kernel test queryTimeout now
    | step op answers _ hallowed harmed ih => exact ih.step op answers hallowed harmed
  refine ⟨hb, fun id q hq => ⟨hb.exact hq, fun length => ?_⟩⟩
  have hbytes := (hb.queues id q hq).1.consume_bytes length
  omega

namespace PendingRun

def sampleConfig : Config := .sample (.direct false)

def sampleKey : FlowKey := ⟨.v4 0xc0000202#32 40000, .v4 0x5db8d822#32 80⟩

def sampleEntry : FlowEntry :=
  Reactor.newEntry sampleConfig sampleKey
    { sourcePort := 40000, destinationPort := 80, sequence := 7, acknowledgment := 0,
      flags := { syn := true }, window := 1000 }
    { state := .typed
      initiating := some ⟨.namespaceTap, sampleKey.target, sampleKey.namespaceEnd, sampleKey.namespaceEnd⟩
      target := some ⟨.hostSocket, .v4 0x0a000002#32 40000, sampleKey.target, sampleKey.target⟩
      flowType := some .tcp }
    0 sampleKey.target (65536, 65536)

def sampleStart : PendingRun := ⟨Reactor.new sampleConfig .quiet {} 0 0, [], false⟩

def sampleRegistered : PendingRun :=
  step sampleConfig sampleStart (.elsewhere (final (Reactor.registerFlow sampleKey sampleEntry sampleStart.reactor)))
    .quiet

def sampleStarted : PendingRun :=
  step sampleConfig sampleRegistered (.elsewhere (final (Reactor.startFlow ⟨0, 1⟩ sampleRegistered.reactor))) .quiet

def sampleQueued : PendingRun := step sampleConfig sampleStarted (.enqueue ⟨0, 1⟩ [1, 2, 3]) .quiet

theorem run_sampleQueued : Run sampleConfig (Armed sampleConfig) sampleQueued := by
  have hempty : sampleStarted.reactor.queue? ⟨0, 1⟩ = some (PendingSocketQueue.new maxPendingSocketBytes) := by
    decide +kernel
  have hregistered : Elsewhere sampleStart.reactor
      (final (Reactor.registerFlow sampleKey sampleEntry sampleStart.reactor)) :=
    .registerFlow (FlowTable.wf_withCapacity _) sampleKey rfl
  refine .step _ _ (.step _ _ (.step _ _ (.start .quiet {} 0 0) hregistered trivial)
    (Elsewhere.startFlow _ _) trivial) ?_ fun q hq hrefused => ?_
  · change (sampleStarted.reactor.queue? ⟨0, 1⟩).isSome = true
    rw [hempty]
    rfl
  · change sampleStarted.reactor.queue? ⟨0, 1⟩ = some q at hq
    rw [hempty] at hq
    cases hq
    exact absurd hrefused (by decide +kernel)

end PendingRun

/-- Two of three queued bytes are consumed and the flow is closed. -/
theorem pending_balanced_sample :
    ∃ r : PendingRun, r.reactor.pendingSocketBytes = 0 ∧ r.past = [1, 3, 0, 0, 0] ∧
      PendingRun.Balanced PendingRun.sampleConfig r := by
  let r₁ := PendingRun.step PendingRun.sampleConfig PendingRun.sampleQueued (.consume ⟨0, 1⟩ 2) .quiet
  let r₂ := PendingRun.step PendingRun.sampleConfig r₁ (.close ⟨0, 1⟩) .quiet
  have hqueued : (PendingRun.sampleQueued.reactor.queue? ⟨0, 1⟩).isSome = true := by decide +kernel
  have hconsumed : (r₁.reactor.queue? ⟨0, 1⟩).isSome = true := by decide +kernel
  have h₁ : PendingRun.Run PendingRun.sampleConfig (PendingRun.Armed PendingRun.sampleConfig) r₁ :=
    .step _ _ PendingRun.run_sampleQueued hqueued trivial
  have h₂ : PendingRun.Run PendingRun.sampleConfig (PendingRun.Armed PendingRun.sampleConfig) r₂ :=
    .step _ _ h₁ hconsumed fun _ _ _ _ => ⟨.inl (by decide +kernel), rfl⟩
  exact ⟨r₂, by decide +kernel, by decide +kernel, (pending_balanced PendingRun.sampleConfig r₂ h₂).1⟩

/-- When the TAP cannot be armed, a close gives the bytes of a flow back that stays open. -/
theorem pending_unbalanced_close :
    ¬ ∀ r : PendingRun, PendingRun.Run PendingRun.sampleConfig (fun _ _ _ => True) r →
      PendingRun.Balanced PendingRun.sampleConfig r := by
  intro h
  have hqueued : PendingRun.Run PendingRun.sampleConfig (fun _ _ _ => True) PendingRun.sampleQueued :=
    PendingRun.run_sampleQueued.mono fun _ _ _ _ => trivial
  let answers : Kernel := { Kernel.quiet with epollModify := Stream'.const (.error (.os 12)) }
  have hopen : (PendingRun.sampleQueued.reactor.queue? ⟨0, 1⟩).isSome = true := by decide +kernel
  have hclosed := h _ (.step (.close ⟨0, 1⟩) answers hqueued hopen trivial)
  exact absurd hclosed.total (by decide +kernel)

end Yayatht
