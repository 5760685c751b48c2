import Yayatht.FlowMachine

set_option autoImplicit false

namespace Yayatht
open Sequence EffectLogic

structure Base (c : Core) : Prop where
  table : c.flows.Wf
  mss : ∀ id e, c.flows.get id = some e → 0 < e.flow.mss
  pending : ∀ id e, c.flows.get id = some e → e.pendingSocket.Wf
  keyed : ∀ key id, c.byKey.find? key = some id →
    (∃ e, c.flows.get id = some e ∧ e.open? = true ∧ e.key = some key) ∨ Excused c.journal id
  closed : ∀ id e, c.flows.get id = some e → e.open? = false →
    id ∈ c.flows.deferred ∨ Excused c.journal id
  deferred : ∀ id e, id ∈ c.flows.deferred → c.flows.get id = some e →
    e.open? = false ∨ Excused c.journal id
  planned : ∀ queued ∈ c.tapQueue, ∀ id, queued.flow = some id → queued.plan.isSome = true → Spared c id

namespace Core

theorem dropFrames_journal (frames : List QueuedFrame) (c : Core) :
    ∃ notices, (∀ n ∈ notices, ∃ length available, n = Notice.retainedReleased length available) ∧
      (dropFrames frames c).journal = notices ++ c.journal := by
  induction frames generalizing c with
  | nil => exact ⟨[], by simp, rfl⟩
  | cons queued frames ih =>
    obtain ⟨ns, hkind, hn⟩ := ih (c.release queued.reservedRetained)
    refine ⟨ns ++ [.retainedReleased queued.reservedRetained c.retained], ?_, ?_⟩
    · simp only [List.mem_append, List.mem_singleton]
      rintro n (h | rfl)
      · exact hkind n h
      · exact ⟨_, _, rfl⟩
    · change (dropFrames frames (c.release queued.reservedRetained)).journal = _
      rw [hn, List.append_assoc]
      rfl

theorem dropFrames_byKey (frames : List QueuedFrame) (c : Core) :
    (dropFrames frames c).byKey = c.byKey := by
  induction frames generalizing c with
  | nil => rfl
  | cons queued frames ih => exact ih _

theorem dropFrames_flows (frames : List QueuedFrame) (c : Core) : (dropFrames frames c).flows = c.flows := by
  induction frames generalizing c with
  | nil => rfl
  | cons queued frames ih => exact ih _

theorem dropFrames_tapQueue (frames : List QueuedFrame) (c : Core) :
    (dropFrames frames c).tapQueue = c.tapQueue := by
  induction frames generalizing c with
  | nil => rfl
  | cons queued frames ih => exact ih _

variable (c : Core) (id : FlowId) (key : FlowKey) (e : FlowEntry)

theorem unregister_flows : (c.unregister id key e).flows = c.flows := dropFrames_flows _ _

theorem unregister_byKey : (c.unregister id key e).byKey = c.byKey.erase key := dropFrames_byKey _ _

theorem unregister_tapQueue :
    (c.unregister id key e).tapQueue = c.tapQueue.filter fun queued => queued.flow ≠ some id :=
  dropFrames_tapQueue _ _

theorem dropFrames_refresh (frames : List QueuedFrame) (c : Core) :
    (dropFrames frames c).refresh = c.refresh := by
  induction frames generalizing c with
  | nil => rfl
  | cons queued frames ih => exact ih _

theorem dropFrames_socks (frames : List QueuedFrame) (c : Core) : (dropFrames frames c).socks = c.socks := by
  induction frames generalizing c with
  | nil => rfl
  | cons queued frames ih => exact ih _

theorem unregister_socks : (c.unregister id key e).socks = c.socks := dropFrames_socks _ _

theorem unregister_refresh : (c.unregister id key e).refresh = c.refresh := dropFrames_refresh _ _

theorem unregister_journal :
    ∃ notices, (∀ n ∈ notices, ∃ length available, n = Notice.retainedReleased length available) ∧
      (c.unregister id key e).journal = notices ++ .released id e :: c.journal := by
  obtain ⟨ns, hkind, hn⟩ := dropFrames_journal (c.tapQueue.filter fun queued => queued.flow = some id)
    { c with
      journal := .released id e :: c.journal
      byKey := c.byKey.erase key
      tapQueue := c.tapQueue.filter fun queued => queued.flow ≠ some id }
  unfold unregister
  generalize dropFrames _ _ = d at hn ⊢
  refine ⟨.retainedReleased e.retained d.retained :: ns, ?_, ?_⟩
  · simp only [List.mem_cons]
    rintro n (rfl | h)
    · exact ⟨_, _, rfl⟩
    · exact hkind n h
  · change Notice.retainedReleased e.retained d.retained :: d.journal = _
    rw [hn]
    rfl

theorem get_retire_self {c : Core} {id : FlowId} {e : FlowEntry} (f : FlowEntry) (h : c.flows.get id = some e) :
    (c.retire id f).flows.get id = some { f with flow := f.flow.close } := by
  unfold retire
  dsimp only
  rw [FlowTable.get_deferRemove]
  simp [h]

theorem get_retire_of_ne {id other : FlowId} (e : FlowEntry) (h : other ≠ id) :
    (c.retire id e).flows.get other = c.flows.get other := by
  unfold retire
  dsimp only
  rw [FlowTable.get_deferRemove, FlowTable.get_modify_of_ne _ id other _ h]

theorem mem_deferred_retire {c : Core} {id : FlowId} {e : FlowEntry} (f : FlowEntry) (h : c.flows.get id = some e)
    (other : FlowId) : other ∈ (c.retire id f).flows.deferred ↔ other ∈ c.flows.deferred ∨ other = id := by
  unfold retire
  dsimp only
  rw [FlowTable.mem_deferred_deferRemove]
  simp [h]

@[simp] theorem put_get {c : Core} {id : FlowId} {e : FlowEntry} (f : FlowEntry)
    (h : c.flows.get id = some e) : (c.put id f).flows.get id = some f := by
  unfold put
  simp [h]

theorem put_get_of_ne {c : Core} {id other : FlowId} (f : FlowEntry) (h : other ≠ id) :
    (c.put id f).flows.get other = c.flows.get other :=
  FlowTable.get_modify_of_ne c.flows id other _ h

@[simp] theorem put_put (c : Core) (id : FlowId) (e f : FlowEntry) :
    (c.put id e).put id f = c.put id f := by
  unfold put
  simp [Function.comp_def]

theorem log_put (c : Core) (id : FlowId) (e : FlowEntry) (notices : List Notice) :
    (c.log notices).put id e = (c.put id e).log notices := rfl

theorem log_log (c : Core) (first second : List Notice) :
    (c.log first).log second = c.log (second ++ first) := by
  unfold log
  rw [List.append_assoc]

theorem put_release (c : Core) (id : FlowId) (e f : FlowEntry) (notices : List Notice) (length : ℕ) :
    (((c.put id e).log notices).release length).put id f =
      { c.put id f with
        retained := c.retained - length
        journal := .retainedReleased length c.retained :: notices ++ c.journal } := by
  change ({ (c.put id e).put id f with
    retained := c.retained - length
    journal := .retainedReleased length c.retained :: notices ++ c.journal } : Core) = _
  rw [put_put]

theorem put_self {c : Core} {id : FlowId} {e : FlowEntry} (h : c.flows.get id = some e) :
    c.put id e = c := by
  unfold put
  rw [FlowTable.modify_self h]

end Core

theorem Closing.journal {c d : Core} {id : FlowId} {e : FlowEntry} (h : Closing c id e d) :
    ∃ notices, d.journal = notices ++ c.journal := by
  cases h with
  | done sides h =>
    obtain ⟨ns, -, hn⟩ := Core.unregister_journal c id sides.namespaceKey e
    exact ⟨ns ++ [.released id e], by rw [List.append_assoc]; exact hn⟩
  | stuck => exact ⟨[_], rfl⟩
  | broken sides h =>
    obtain ⟨ns, -, hn⟩ := Core.unregister_journal c id sides.namespaceKey e
    refine ⟨.closeFailed id :: ns ++ [.released id e], ?_⟩
    change Notice.closeFailed id :: _ = _
    rw [hn, List.append_assoc]
    rfl

theorem Act.journal {cfg : Config} {c d : Core} (h : Act cfg c d) :
    ∃ notices, d.journal = notices ++ c.journal := by
  cases h with
  | engine | associations | touch | replyConsumed | enqueue | planFin | commitPlain | commit | flush | reap =>
    exact ⟨[], rfl⟩
  | create | synLost | mild | dialed | serviced | timeWait | built | commitMissed | commitMismatched | flushFin | flushFinFailed |
    planData | ackAborted | activate | activateLost => exact ⟨_, rfl⟩
  | drop => exact ⟨[_, _], rfl⟩
  | handled id e f g segment clamps notices =>
    exact ⟨notices ++ settleNotices id (e.ackedBy segment) c.retained clamps ++ [.segment id e segment],
      by rw [List.append_assoc]; rfl⟩
  | lost id e f g segment clamps notices =>
    exact ⟨notices ++ settleNotices id (e.ackedBy segment) c.retained clamps ++ [.segment id e segment],
      by rw [List.append_assoc]; rfl⟩
  | reset id e segment d hget hspared hrst h =>
    obtain ⟨ns, hn⟩ := h.journal
    exact ⟨ns ++ [.segment id e segment], by rw [hn, List.append_assoc]; rfl⟩
  | close id e d hget hspared h => exact h.journal

theorem Closing.refresh {c d : Core} {id : FlowId} {e : FlowEntry} (h : Closing c id e d) :
    d.refresh = c.refresh := by
  cases h with
  | done sides h => exact Core.unregister_refresh c id sides.namespaceKey e
  | stuck => rfl
  | broken sides h => exact Core.unregister_refresh c id sides.namespaceKey e

theorem Act.refresh {cfg : Config} {c d : Core} (h : Act cfg c d) : d.refresh = c.refresh := by
  cases h with
  | reset id e segment d hget hspared hrst h => exact h.refresh
  | close id e d hget hspared h => exact h.refresh
  | _ => rfl

theorem Closing.used {c d : Core} {id : FlowId} {e : FlowEntry} (h : Closing c id e d) {other : FlowId}
    (hu : c.flows.Used other) : d.flows.Used other := by
  cases h with
  | done sides h =>
    refine FlowTable.Used.deferRemove (FlowTable.Used.modify ?_ id _) id
    rw [Core.unregister_flows]
    exact hu
  | stuck => exact hu
  | broken sides h =>
    change (c.unregister id sides.namespaceKey e).flows.Used other
    rw [Core.unregister_flows]
    exact hu

/-- An identifier once in use is never free again. -/
theorem Act.used {cfg : Config} {c d : Core} (hwf : c.flows.Wf) (h : Act cfg c d) {other : FlowId}
    (hu : c.flows.Used other) : d.flows.Used other := by
  cases h with
  | reset id e segment d hget hspared hrst h => exact h.used (FlowTable.Used.modify hu id _)
  | close id e d hget hspared h => exact h.used hu
  | create key e flows id hkey hinsert hfresh =>
    rcases hwf.insert_cases e with hnone | ⟨u, new, hinsert', -, -, -, -, hkept⟩
    · rw [hinsert] at hnone
      cases hnone
    · rw [hinsert] at hinsert'
      cases hinsert'
      exact hkept other hu
  | reap => exact FlowTable.Used.flushDeferred hu
  | engine | associations | mild | dialed | synLost | serviced | timeWait | built | enqueue | planFin | commitPlain |
    commitMissed | drop => exact hu
  | _ => exact FlowTable.Used.modify hu _ _

/-- The parts of an entry the bookkeeping looks at are the same. -/
structure Alike (e f : FlowEntry) : Prop where
  mss : f.flow.mss = e.flow.mss
  pending : e.pendingSocket.Wf → f.pendingSocket.Wf
  key : f.key = e.key
  isOpen : f.open? = e.open?

namespace Alike

theorem refl (e : FlowEntry) : Alike e e := ⟨rfl, fun h => h, rfl, rfl⟩

theorem trans {e f g : FlowEntry} (h : Alike e f) (h' : Alike f g) : Alike e g :=
  ⟨h'.mss.trans h.mss, fun hw => h'.pending (h.pending hw), h'.key.trans h.key,
    h'.isOpen.trans h.isOpen⟩

theorem submitted (e : FlowEntry) (payload : Bytes) (count : ℕ) : Alike e (e.submitted payload count) :=
  ⟨rfl, fun h => h, rfl, rfl⟩

theorem submit {e f : FlowEntry} {payload : Bytes} {answer : Except IoError ℕ}
    (h : e.submit payload answer = some f) : Alike e f := by
  unfold FlowEntry.submit at h
  split at h
  · split at h
    · obtain ⟨queue, hqueue, rfl⟩ := Option.map_eq_some_iff.mp h
      exact ⟨rfl, fun hw => hw.push hqueue, rfl, rfl⟩
    · cases h
      exact submitted e payload _
  · obtain ⟨queue, hqueue, rfl⟩ := Option.map_eq_some_iff.mp h
    exact ⟨rfl, fun hw => hw.push hqueue, rfl, rfl⟩
  · cases h

theorem finForwarded (e : FlowEntry) : Alike e e.finForwarded := by
  unfold FlowEntry.finForwarded
  split <;> exact ⟨rfl, fun h => h, rfl, rfl⟩

end Alike

theorem Touched.alike {e f : FlowEntry} (h : Touched e f) : Alike e f where
  mss := by
    obtain ⟨_, _, _, hf⟩ := h.flow
    rw [hf]
  pending := by
    rw [h.pendingSocket]
    exact fun hw => hw
  key := by
    unfold FlowEntry.key
    rw [h.sides]
  isOpen := h.isOpen

theorem Delivered.alike {id : FlowId} {payload : Bytes} {d : ReceiveDisposition} {e f : FlowEntry}
    {notices : List Notice} (h : Delivered id payload d e notices f) : Alike e f := by
  cases h with
  | nothing h => exact Alike.refl _
  | payload answer hn hf => exact Alike.submit hf
  | fin => exact Alike.finForwarded _
  | payloadFin answer hn hf => exact (Alike.submit hf).trans (Alike.finForwarded _)

theorem Lost.alike {id : FlowId} {payload : Bytes} {d : ReceiveDisposition} {e f : FlowEntry}
    {notices : List Notice} (h : Lost id payload d e notices f) : Alike e f := by
  cases h with
  | send error hn he => exact Alike.refl _
  | refused answer hn hf =>
    rcases hf with rfl | ⟨count, rfl⟩
    · exact Alike.refl _
    · exact Alike.submitted _ payload count
  | shutdown error hf => exact hf.alike

theorem Drained.alike {e f : FlowEntry} (h : Drained e f) : Alike e f := by
  cases h with
  | nothing => exact Alike.refl e
  | chunk bytes sent => exact ⟨rfl, fun hw => hw.consume sent, rfl, rfl⟩

namespace Flow

theorem ackState_open {f : Flow} (acknowledgment : Option Seq) (h : f.state ≠ .closed) :
    f.ackState acknowledgment ≠ .closed := by
  unfold ackState finAckState
  cases acknowledgment with
  | none => exact h
  | some ack =>
    dsimp only
    cases f.localFinSequence with
    | none =>
      dsimp only
      split
      · simp
      · exact h
    | some finSequence =>
      dsimp only
      split
      · simp
      · split
        · simp
        · exact h

theorem advance_open {f : Flow} (payloadLen : ℕ) (fin : Bool) (h : f.state ≠ .closed) :
    (f.advance payloadLen fin).state ≠ .closed := by
  cases fin with
  | false => exact h
  | true =>
    rw [advance_fin]
    unfold finState
    dsimp only
    split
    · simp
    · split <;> simp

theorem advance_mss (f : Flow) (payloadLen : ℕ) (fin : Bool) : (f.advance payloadLen fin).mss = f.mss := by
  cases fin with
  | false => rfl
  | true => rw [advance_fin]

end Flow

namespace FlowEntry

theorem received_mss (e : FlowEntry) (segment : TcpSegment) :
    (e.received segment).1.flow.mss = e.flow.mss := by
  unfold received
  dsimp only
  rcases e.flow.receive_cases segment.sequence
    (if segment.flags.ack then some segment.acknowledgment else none) segment.window.toNat
    segment.payload.length segment.flags.fin segment.flags.rst with
    ⟨-, h⟩ | ⟨-, d, -, -, h⟩ | ⟨-, -, -, -, h⟩
  · rw [h]
  · rw [h, Flow.receiveAck_eq]
  · rw [h]
    dsimp only
    rw [Flow.advance_mss, Flow.receiveAck_eq]

theorem received_ne_reset {e : FlowEntry} {segment : TcpSegment} (hrst : segment.flags.rst = false) :
    (e.received segment).2 ≠ .reset := by
  unfold received
  dsimp only
  rcases e.flow.receive_cases segment.sequence
    (if segment.flags.ack then some segment.acknowledgment else none) segment.window.toNat
    segment.payload.length segment.flags.fin segment.flags.rst with
    ⟨hr, -⟩ | ⟨-, d, hd, -, h⟩ | ⟨-, -, -, -, h⟩
  · rw [hrst] at hr
    cases hr
  · rw [h]
    exact hd
  · rw [h]
    simp

theorem received_open {e : FlowEntry} {segment : TcpSegment} (hrst : segment.flags.rst = false)
    (h : e.open? = true) : (e.received segment).1.open? = true := by
  have hstate : e.flow.state ≠ .closed := by simpa [open?] using h
  have hack := Flow.ackState_open (if segment.flags.ack then some segment.acknowledgment else none) hstate
  have hne : (e.received segment).1.flow.state ≠ .closed := by
    unfold received
    dsimp only
    rcases e.flow.receive_cases segment.sequence
      (if segment.flags.ack then some segment.acknowledgment else none) segment.window.toNat
      segment.payload.length segment.flags.fin segment.flags.rst with
      ⟨hr, -⟩ | ⟨-, d, -, -, h⟩ | ⟨-, -, -, -, h⟩
    · rw [hrst] at hr
      cases hr
    · rw [h, Flow.receiveAck_eq]
      exact hack
    · rw [h, Flow.receiveAck_eq]
      exact Flow.advance_open _ _ hack
  simpa [open?] using hne

end FlowEntry

namespace Base

theorem frame {c d : Core} (hb : Base c) (hflows : d.flows = c.flows) (hkeys : d.byKey = c.byKey)
    (hjournal : ∃ notices, d.journal = notices ++ c.journal)
    (hqueue : ∀ queued ∈ d.tapQueue,
      queued ∈ c.tapQueue ∨ queued.flow = none ∨ queued.plan = none ∨
        ∀ id, queued.flow = some id → Spared d id) : Base d := by
  obtain ⟨ns, hn⟩ := hjournal
  have hx : ∀ id, Excused c.journal id → Excused d.journal id := fun id h => hn ▸ h.append ns
  constructor
  · rw [hflows]
    exact hb.table
  · rw [hflows]
    exact hb.mss
  · rw [hflows]
    exact hb.pending
  · intro key id hkey
    rw [hflows]
    rw [hkeys] at hkey
    exact (hb.keyed key id hkey).imp_right (hx id)
  · intro id e hget hopen
    rw [hflows] at hget ⊢
    exact (hb.closed id e hget hopen).imp_right (hx id)
  · intro id e hd hget
    rw [hflows] at hd hget
    exact (hb.deferred id e hd hget).imp_right (hx id)
  · intro queued hq id hid hplan
    rcases hqueue queued hq with hq | hnone | hnone | hs
    · have hs := hb.planned queued hq id hid hplan
      unfold Spared at hs ⊢
      rw [hflows]
      exact hs.imp_right (hx id)
    · rw [hid] at hnone
      cases hnone
    · rw [hnone] at hplan
      cases hplan
    · exact hs id hid

theorem update {c d : Core} (hb : Base c) {id : FlowId} {e f : FlowEntry}
    (hget : c.flows.get id = some e) (hflows : d.flows = c.flows.modify id fun _ => f)
    (hkeys : d.byKey = c.byKey) (hjournal : ∃ notices, d.journal = notices ++ c.journal)
    (hmss : f.flow.mss = e.flow.mss) (hpending : e.pendingSocket.Wf → f.pendingSocket.Wf)
    (hkey : f.key = e.key) (hopen : f.open? = e.open? ∨ Excused d.journal id)
    (hqueue : ∀ queued ∈ d.tapQueue,
      queued ∈ c.tapQueue ∨ queued.flow = none ∨ queued.plan = none ∨
        ∀ id, queued.flow = some id → Spared d id) : Base d := by
  obtain ⟨ns, hn⟩ := hjournal
  have hx : ∀ id, Excused c.journal id → Excused d.journal id := fun id h => hn ▸ h.append ns
  have hself : d.flows.get id = some f := by
    rw [hflows]
    simp [hget]
  have hother : ∀ other, other ≠ id → d.flows.get other = c.flows.get other := fun other h => by
    rw [hflows]
    exact FlowTable.get_modify_of_ne c.flows id other _ h
  have hdeferred : d.flows.deferred = c.flows.deferred := by rw [hflows]; rfl
  have hspared : ∀ other, Spared c other → Spared d other := by
    rintro other (⟨g, hg, ho⟩ | h)
    · by_cases he : other = id
      · subst he
        rw [hget] at hg
        cases hg
        exact hopen.imp (fun h => ⟨f, hself, h.trans ho⟩) fun h => h
      · exact .inl ⟨g, by rw [hother other he]; exact hg, ho⟩
    · exact .inr (hx other h)
  constructor
  · rw [hflows]
    exact hb.table.modify id _
  · intro other g hg
    by_cases he : other = id
    · subst he
      rw [hself] at hg
      cases hg
      rw [hmss]
      exact hb.mss _ e hget
    · rw [hother other he] at hg
      exact hb.mss other g hg
  · intro other g hg
    by_cases he : other = id
    · subst he
      rw [hself] at hg
      cases hg
      exact hpending (hb.pending _ e hget)
    · rw [hother other he] at hg
      exact hb.pending other g hg
  · intro key other hk
    rw [hkeys] at hk
    rcases hb.keyed key other hk with ⟨g, hg, ho, hgk⟩ | h
    · by_cases he : other = id
      · subst he
        rw [hget] at hg
        cases hg
        exact hopen.imp (fun h => ⟨f, hself, h.trans ho, hkey.trans hgk⟩) fun h => h
      · exact .inl ⟨g, by rw [hother other he]; exact hg, ho, hgk⟩
    · exact .inr (hx other h)
  · intro other g hg ho
    rw [hdeferred]
    by_cases he : other = id
    · subst he
      rw [hself] at hg
      cases hg
      rcases hopen with hopen | hopen
      · exact (hb.closed _ e hget (hopen.symm.trans ho)).imp_right (hx _)
      · exact .inr hopen
    · rw [hother other he] at hg
      exact (hb.closed other g hg ho).imp_right (hx other)
  · intro other g hd hg
    rw [hdeferred] at hd
    by_cases he : other = id
    · subst he
      rw [hself] at hg
      cases hg
      rcases hopen with hopen | hopen
      · exact (hb.deferred _ e hd hget).imp (fun h => hopen.trans h) (hx _)
      · exact .inr hopen
    · rw [hother other he] at hg
      exact (hb.deferred other g hd hg).imp_right (hx other)
  · intro queued hq other hid hplan
    rcases hqueue queued hq with hq | hnone | hnone | hs
    · exact hspared other (hb.planned queued hq other hid hplan)
    · rw [hid] at hnone
      cases hnone
    · rw [hnone] at hplan
      cases hplan
    · exact hs other hid

theorem retired {c d : Core} (hb : Base c) {id : FlowId} {e f : FlowEntry} {key : FlowKey}
    (hget : c.flows.get id = some e) (hkey : e.key = some key) (hmss : 0 < f.flow.mss) (hpending : f.pendingSocket.Wf)
    (hclosed : f.open? = false) (htable : d.flows.Wf) (hself : d.flows.get id = some f)
    (hother : ∀ other, other ≠ id → d.flows.get other = c.flows.get other)
    (hdeferred : ∀ other, other ∈ d.flows.deferred ↔ other ∈ c.flows.deferred ∨ other = id)
    (hkeys : d.byKey = c.byKey.erase key) (hqueue : ∀ queued ∈ d.tapQueue, queued ∈ c.tapQueue ∧ queued.flow ≠ some id)
    (hexcused : ∀ other, Excused c.journal other → Excused d.journal other) : Base d := by
  -- an entry is the closed one, or was there before
  have hentry : ∀ other g, d.flows.get other = some g →
      other = id ∧ g = f ∨ other ≠ id ∧ c.flows.get other = some g := by
    intro other g hg
    by_cases ho : other = id
    · subst ho
      exact .inl ⟨rfl, Option.some.inj (hg.symm.trans hself)⟩
    · exact .inr ⟨ho, (hother other ho).symm.trans hg⟩
  have hspared : ∀ other, other ≠ id → Spared c other → Spared d other := by
    rintro other ho (⟨g, hg, hopen⟩ | hex)
    · exact .inl ⟨g, (hother other ho).trans hg, hopen⟩
    · exact .inr (hexcused other hex)
  constructor
  · exact htable
  · intro other g hg
    rcases hentry other g hg with ⟨-, rfl⟩ | ⟨-, hg⟩
    · exact hmss
    · exact hb.mss other g hg
  · intro other g hg
    rcases hentry other g hg with ⟨-, rfl⟩ | ⟨-, hg⟩
    · exact hpending
    · exact hb.pending other g hg
  · intro own other hk
    rw [hkeys, KeyedMap.find?_erase] at hk
    split at hk
    · cases hk
    · rename_i hne
      rcases hb.keyed own other hk with ⟨g, hg, hopen, hgk⟩ | hex
      · by_cases ho : other = id
        · subst ho
          rw [hget] at hg
          cases hg
          exact absurd (Option.some.inj (hgk.symm.trans hkey)) hne
        · exact .inl ⟨g, (hother other ho).trans hg, hopen, hgk⟩
      · exact .inr (hexcused other hex)
  · intro other g hg hopen
    rw [hdeferred]
    rcases hentry other g hg with ⟨rfl, -⟩ | ⟨-, hg⟩
    · exact .inl (.inr rfl)
    · exact (hb.closed other g hg hopen).imp .inl (hexcused other)
  · intro other g hd hg
    rcases hentry other g hg with ⟨-, rfl⟩ | ⟨ho, hg⟩
    · exact .inl hclosed
    · exact (hb.deferred other g (((hdeferred other).mp hd).resolve_right ho) hg).imp_right (hexcused other)
  · intro queued hq other hid hplan
    obtain ⟨hq, hne⟩ := hqueue queued hq
    refine hspared other ?_ (hb.planned queued hq other hid hplan)
    rintro rfl
    exact hne hid

theorem closing {c d : Core} (hb : Base c) {id : FlowId} {e f : FlowEntry} {notices : List Notice}
    (hget : c.flows.get id = some e) (hmss : f.flow.mss = e.flow.mss)
    (hpending : e.pendingSocket.Wf → f.pendingSocket.Wf) (hkey : f.key = e.key)
    (h : Closing ((c.put id f).log notices) id f d) : Base d := by
  have hsub : ∀ (key : FlowKey) (queued : QueuedFrame),
      queued ∈ (((c.put id f).log notices).unregister id key f).tapQueue →
        queued ∈ c.tapQueue ∧ queued.flow ≠ some id := by
    intro key queued hq
    rw [Core.unregister_tapQueue, List.mem_filter] at hq
    exact ⟨hq.1, by simpa using hq.2⟩
  obtain ⟨ns, hn⟩ := h.journal
  have hjournal : d.journal = (ns ++ notices) ++ c.journal := by
    rw [hn, List.append_assoc]
    rfl
  have hx : ∀ other, Excused c.journal other → Excused d.journal other := fun other h =>
    hjournal ▸ h.append _
  cases h with
  | stuck =>
    exact hb.update hget rfl rfl ⟨_, hjournal⟩ hmss hpending hkey (.inr (.inl List.mem_cons_self))
      fun queued hq => .inl hq
  | broken sides hsides =>
    have hexcused : Excused ((((c.put id f).log notices).unregister id sides.namespaceKey f).log
        [.closeFailed id]).journal id := .inl List.mem_cons_self
    have hkeys := Core.unregister_byKey ((c.put id f).log notices) id sides.namespaceKey f
    have hflows := Core.unregister_flows ((c.put id f).log notices) id sides.namespaceKey f
    have hu : Base { ((((c.put id f).log notices).unregister id sides.namespaceKey f).log
        [.closeFailed id]) with byKey := c.byKey } :=
      hb.update hget hflows rfl ⟨_, hjournal⟩ hmss hpending hkey (.inr hexcused)
        fun queued hq => .inl (hsub sides.namespaceKey queued hq).1
    refine ⟨hu.table, hu.mss, hu.pending, ?_, hu.closed, hu.deferred, hu.planned⟩
    intro key other hk
    refine hu.keyed key other ?_
    change KeyedMap.find? (((c.put id f).log notices).unregister id sides.namespaceKey f).byKey key = _ at hk
    rw [hkeys, KeyedMap.find?_erase] at hk
    split at hk
    · cases hk
    · exact hk
  | done sides hsides =>
    have hfkey : e.key = some sides.namespaceKey := by
      rw [← hkey]
      unfold FlowConstruction.activeSides at hsides
      split at hsides
      · rw [FlowEntry.key, hsides]
        rfl
      · cases hsides
    have hflows : (((c.put id f).log notices).unregister id sides.namespaceKey f).flows = c.flows.modify id fun _ => f :=
      Core.unregister_flows _ _ _ _
    have hput : (((c.put id f).log notices).unregister id sides.namespaceKey f).flows.get id = some f := by
      rw [hflows]
      exact Core.put_get f hget
    refine hb.retired hget hfkey (f := { f with flow := f.flow.close }) (hmss ▸ hb.mss _ e hget)
      (hpending (hb.pending _ e hget)) (by simp [FlowEntry.open?, Flow.close]) ?_ (Core.get_retire_self f hput)
      (fun other ho => ?_) (fun other => ?_) (Core.unregister_byKey _ _ _ _) (hsub sides.namespaceKey) hx
    · unfold Core.retire
      dsimp only
      rw [hflows]
      exact ((hb.table.modify id _).modify id _).deferRemove id
    · rw [Core.get_retire_of_ne _ _ ho, hflows]
      exact Core.put_get_of_ne f ho
    · rw [Core.mem_deferred_retire f hput, hflows]
      rfl

theorem create {c : Core} (hb : Base c) {key : FlowKey} {e : FlowEntry} {flows : FlowTable FlowEntry}
    {id : FlowId} (hinsert : c.flows.insert e = (flows, .ok id)) (hfresh : Fresh key e) :
    Base { c with flows := flows, byKey := c.byKey.insert key id } := by
  rcases hb.table.insert_cases e with hnone | ⟨u, other, hu, hwf, hdeferred, hunused, hget, -⟩
  · rw [hinsert] at hnone
    cases hnone
  rw [hinsert] at hu
  cases hu
  obtain ⟨ni, li, mss, ps, ls, hflow, hmss, -⟩ := hfresh.flow
  have hopen : e.open? = true := by
    unfold FlowEntry.open?
    rw [hflow]
    rfl
  have hold : ∀ other g, c.flows.get other = some g → flows.get other = some g := by
    intro other g hg
    rw [hget, if_neg]
    · exact hg
    · rintro rfl
      exact hunused (FlowTable.used_of_get hg)
  have hspared : ∀ other, Spared c other →
      Spared { c with flows := flows, byKey := c.byKey.insert key id } other := by
    rintro other (⟨g, hg, ho⟩ | hx)
    · exact .inl ⟨g, hold other g hg, ho⟩
    · exact .inr hx
  constructor
  · exact hwf
  · intro other g hg
    dsimp only at hg
    rw [hget] at hg
    split at hg
    · cases hg
      rw [hflow]
      exact hmss
    · exact hb.mss other g hg
  · intro other g hg
    dsimp only at hg
    rw [hget] at hg
    split at hg
    · cases hg
      rw [hfresh.pendingSocket]
      exact PendingSocketQueue.wf_new _
    · exact hb.pending other g hg
  · intro k other hk
    dsimp only at hk ⊢
    rw [KeyedMap.find?_insert] at hk
    split at hk
    · rename_i hk'
      cases hk
      subst hk'
      exact .inl ⟨e, by rw [hget, if_pos rfl], hopen, hfresh.key_eq⟩
    · rcases hb.keyed k other hk with ⟨g, hg, ho, hgk⟩ | hx
      · exact .inl ⟨g, hold other g hg, ho, hgk⟩
      · exact .inr hx
  · intro other g hg ho
    dsimp only at hg ⊢
    rw [hdeferred]
    rw [hget] at hg
    split at hg
    · cases hg
      rw [hopen] at ho
      cases ho
    · exact hb.closed other g hg ho
  · intro other g hd hg
    dsimp only at hd hg
    rw [hdeferred] at hd
    obtain ⟨old, hold'⟩ := Option.isSome_iff_exists.mp (hb.table.deferred_present other hd)
    rw [hold other old hold'] at hg
    cases hg
    exact hb.deferred other _ hd hold'
  · intro queued hq other hid hplan
    exact hspared other (hb.planned queued hq other hid hplan)

theorem reap {c : Core} (hb : Base c) : Base { c with flows := c.flows.flushDeferred.1 } := by
  have hget : ∀ other g, c.flows.flushDeferred.1.get other = some g →
      other ∉ c.flows.deferred ∧ c.flows.get other = some g := by
    intro other g hg
    rw [FlowTable.get_flushDeferred] at hg
    split at hg
    · cases hg
    · exact ⟨by assumption, hg⟩
  have hkept : ∀ other g, c.flows.get other = some g → g.open? = true →
      c.flows.flushDeferred.1.get other = some g ∨ Excused c.journal other := by
    intro other g hg ho
    by_cases hd : other ∈ c.flows.deferred
    · rcases hb.deferred other g hd hg with hc | hx
      · rw [ho] at hc
        cases hc
      · exact .inr hx
    · left
      rw [FlowTable.get_flushDeferred, if_neg hd]
      exact hg
  constructor
  · exact hb.table.flushDeferred
  · intro other g hg
    exact hb.mss other g (hget other g hg).2
  · intro other g hg
    exact hb.pending other g (hget other g hg).2
  · intro key other hk
    rcases hb.keyed key other hk with ⟨g, hg, ho, hgk⟩ | hx
    · exact (hkept other g hg ho).imp (fun h => ⟨g, h, ho, hgk⟩) fun h => h
    · exact .inr hx
  · intro other g hg ho
    obtain ⟨hd, hg⟩ := hget other g hg
    exact .inr ((hb.closed other g hg ho).resolve_left hd)
  · intro other g hd _
    dsimp only at hd
    rw [FlowTable.flushDeferred_deferred] at hd
    cases hd
  · intro queued hq other hid hplan
    rcases hb.planned queued hq other hid hplan with ⟨g, hg, ho⟩ | hx
    · exact (hkept other g hg ho).imp (fun h => ⟨g, h, ho⟩) fun h => h
    · exact .inr hx

/-- A step that writes one entry to an alike one. -/
theorem alike {c d : Core} (hb : Base c) {id : FlowId} {e f : FlowEntry}
    (hget : c.flows.get id = some e) (h : Alike e f)
    (hflows : d.flows = c.flows.modify id fun _ => f) (hkeys : d.byKey = c.byKey)
    (hjournal : ∃ notices, d.journal = notices ++ c.journal) (hqueue : d.tapQueue = c.tapQueue) :
    Base d :=
  hb.update hget hflows hkeys hjournal h.mss h.pending h.key (.inl h.isOpen) fun _ hq => .inl (hqueue ▸ hq)

theorem stayOpen {c d : Core} (hb : Base c) {id : FlowId} {e f : FlowEntry}
    (hget : c.flows.get id = some e) (hspared : Spared c id)
    (hflows : d.flows = c.flows.modify id fun _ => f) (hkeys : d.byKey = c.byKey)
    (hjournal : ∃ notices, d.journal = notices ++ c.journal) (hmss : f.flow.mss = e.flow.mss)
    (hpending : e.pendingSocket.Wf → f.pendingSocket.Wf) (hkey : f.key = e.key)
    (hopen : e.open? = true → f.open? = true)
    (hqueue : ∀ queued ∈ d.tapQueue,
      queued ∈ c.tapQueue ∨ queued.flow = none ∨ queued.plan = none ∨ queued.flow = some id) :
    Base d := by
  obtain ⟨ns, hn⟩ := hjournal
  have hself : d.flows.get id = some f := by
    rw [hflows]
    simp [hget]
  have hstill : Spared d id := by
    rcases hspared with ⟨g, hg, ho⟩ | hx
    · rw [hget] at hg
      cases hg
      exact .inl ⟨f, hself, hopen ho⟩
    · exact .inr (hn ▸ hx.append ns)
  refine hb.update hget hflows hkeys ⟨ns, hn⟩ hmss hpending hkey ?_ fun queued hq => ?_
  · rcases hspared with ⟨g, hg, ho⟩ | hx
    · rw [hget] at hg
      cases hg
      exact .inl ((hopen ho).trans ho.symm)
    · exact .inr (hn ▸ hx.append ns)
  · rcases hqueue queued hq with h | h | h | h
    · exact .inl h
    · exact .inr (.inl h)
    · exact .inr (.inr (.inl h))
    · refine .inr (.inr (.inr fun other ho => ?_))
      rw [h] at ho
      cases ho
      exact hstill

theorem settle {c : Core} (hb : Base c) {id : FlowId} {e f g : FlowEntry} {segment : TcpSegment}
    {clamps : ℕ} {notices : List Notice} (hget : c.flows.get id = some e) (hspared : Spared c id)
    (hrst : segment.flags.rst = false) (hf : Touched (e.settled segment) f) (hg : Alike f g) :
    Base (c.settle id e segment clamps notices g) := by
  have hfg := hf.alike.trans hg
  refine hb.stayOpen hget hspared rfl rfl
    ⟨notices ++ settleNotices id (e.ackedBy segment) c.retained clamps ++ [.segment id e segment],
      by rw [List.append_assoc]; rfl⟩ ?_ hfg.pending hfg.key ?_ fun _ hq => .inl hq
  · rw [hfg.mss]
    exact e.received_mss segment
  · intro ho
    rw [hfg.isOpen]
    exact FlowEntry.received_open hrst ho

theorem act {cfg : Config} {c d : Core} (hb : Base c) (h : Act cfg c d) : Base d := by
  have hj := h.journal
  cases h with
  | engine u h => exact hb.frame rfl rfl hj fun _ hq => .inl hq
  | associations u h => exact hb.frame rfl rfl hj fun _ hq => .inl hq
  | dialed transport peer h => exact hb.frame rfl rfl hj fun _ hq => .inl hq
  | mild notice h => exact hb.frame rfl rfl hj fun _ hq => .inl hq
  | synLost id h => exact hb.frame rfl rfl hj fun _ hq => .inl hq
  | serviced id e now hget => exact hb.frame rfl rfl hj fun _ hq => .inl hq
  | timeWait id e hget hstate => exact hb.frame rfl rfl hj fun _ hq => .inl hq
  | touch id e f hget h => exact hb.alike hget h.alike rfl rfl hj rfl
  | replyConsumed id e count hget h =>
    refine hb.alike hget ?_ rfl rfl hj rfl
    exact ⟨rfl, fun h => h, rfl, rfl⟩
  | built id e body hget hspared h => exact hb.frame rfl rfl hj fun _ hq => .inl hq
  | enqueue queued h hr =>
    refine hb.frame rfl rfl hj fun other hq => ?_
    rcases List.mem_append.mp hq with hq | hq
    · exact .inl hq
    · rw [List.mem_singleton] at hq
      subst hq
      exact .inr (h.imp_right .inl)
  | planData id e spec payload frame hget hbusy hstate hne hwindow hretained hpayload hsequence =>
    have hopen : e.open? = true := by
      unfold FlowEntry.sendable FlowEntry.open? at *
      simp only [decide_eq_true_eq] at hstate ⊢
      rcases hstate with h | h <;> simp [h]
    refine hb.stayOpen hget (.inl ⟨e, hget, hopen⟩) rfl rfl hj rfl (fun h => h) rfl (fun h => h) fun other hq => ?_
    rcases List.mem_append.mp hq with hq | hq
    · exact .inl hq
    · rw [List.mem_singleton] at hq
      subst hq
      exact .inr (.inr (.inr rfl))
  | planFin id e frame hget hbusy hstate hwindow hretained hqueued heof =>
    have hopen : e.open? = true := by
      unfold FlowEntry.sendable FlowEntry.open? at *
      simp only [decide_eq_true_eq] at hstate ⊢
      rcases hstate with h | h <;> simp [h]
    refine hb.frame rfl rfl hj fun other hq => ?_
    rcases List.mem_append.mp hq with hq | hq
    · exact .inl hq
    · rw [List.mem_singleton] at hq
      subst hq
      refine .inr (.inr (.inr fun other ho => ?_))
      cases ho
      exact .inl ⟨e, hget, hopen⟩
  | commitPlain queued rest hqueue h =>
    exact hb.frame rfl rfl hj fun other hq => .inl (by rw [hqueue]; exact List.mem_cons_of_mem _ hq)
  | commit queued rest hqueue id plan e now hid hplan hget hmatch =>
    have hspared := hb.planned queued (by rw [hqueue]; exact List.mem_cons_self) id hid (by rw [hplan]; rfl)
    refine hb.stayOpen hget hspared rfl rfl hj ?_ (fun h => h) rfl ?_ fun other hq =>
      .inl (by rw [hqueue]; exact List.mem_cons_of_mem _ hq)
    · unfold FlowEntry.committed FlowEntry.advanced Flow.commitSend
      dsimp only
      split
      · split <;> rfl
      · rfl
    · unfold FlowEntry.committed FlowEntry.advanced Flow.commitSend FlowEntry.open?
      dsimp only
      split
      · split
        · dsimp only
          split <;> simp
        · exact fun h => h
      · exact fun h => h
  | commitMissed queued rest hqueue id plan hid hplan hget =>
    exact hb.frame rfl rfl hj fun other hq => .inl (by rw [hqueue]; exact List.mem_cons_of_mem _ hq)
  | commitMismatched queued rest hqueue id plan e hid hplan hget hmatch =>
    have hspared := hb.planned queued (by rw [hqueue]; exact List.mem_cons_self) id hid (by rw [hplan]; rfl)
    refine hb.stayOpen hget hspared rfl rfl hj ?_ (fun h => h) rfl ?_ fun other hq =>
      .inl (by rw [hqueue]; exact List.mem_cons_of_mem _ hq)
    · unfold FlowEntry.advanced Flow.commitSend
      dsimp only
      split
      · split <;> rfl
      · rfl
    · unfold FlowEntry.advanced Flow.commitSend FlowEntry.open?
      dsimp only
      split
      · split
        · dsimp only
          split <;> simp
        · exact fun h => h
      · exact fun h => h
  | drop queued rest hqueue =>
    exact hb.frame rfl rfl hj fun other hq => .inl (by rw [hqueue]; exact List.mem_cons_of_mem _ hq)
  | flush id e f hget hspared h hrest => exact hb.alike hget h.alike rfl rfl hj rfl
  | flushFin id e f hget hspared h hempty hshut =>
    refine hb.alike hget (h.alike.trans ?_) rfl rfl hj rfl
    exact ⟨rfl, fun h => h, rfl, rfl⟩
  | flushFinFailed id e f error hget hspared h => exact hb.alike hget h.alike rfl rfl hj rfl
  | handled id e f g segment clamps notices hget hspared hrst hf hg =>
    exact hb.settle hget hspared hrst hf hg.alike
  | lost id e f g segment clamps notices hget hspared hrst hf hg =>
    exact hb.settle hget hspared hrst hf hg.alike
  | ackAborted id e f segment clamps count fault hget hspared hrst hf hfault =>
    refine hb.stayOpen hget hspared rfl rfl hj ?_ hf.alike.pending hf.alike.key ?_ fun _ hq => .inl hq
    · rw [hf.alike.mss]
      exact e.received_mss segment
    · intro ho
      rw [hf.alike.isOpen]
      exact FlowEntry.received_open hrst ho
  | reset id e segment d hget hspared hrst h => exact hb.closing hget (e.received_mss segment) (fun h => h) rfl h
  | activate id e bytesAcked frame body hget hspared hhandshake hbody =>
    refine hb.stayOpen hget hspared rfl rfl hj rfl (fun h => h) rfl (fun _ => rfl) fun other hq => ?_
    rcases List.mem_append.mp hq with hq | hq
    · exact .inl hq
    · rw [List.mem_singleton] at hq
      subst hq
      exact .inr (.inr (.inr rfl))
  | activateLost id e bytesAcked dry hget hspared hhandshake =>
    exact hb.stayOpen hget hspared rfl rfl hj rfl (fun h => h) rfl (fun _ => rfl) fun _ hq => .inl hq
  | close id e d hget hspared h =>
    have hsame : (c.put id e).log [] = c := Core.put_self hget
    rw [← hsame] at h
    exact hb.closing hget rfl (fun h => h) rfl h
  | create key e flows id hkey hinsert hfresh =>
    exact (hb.create hinsert hfresh).frame rfl rfl ⟨_, rfl⟩ fun _ hq => .inl hq
  | reap => exact hb.reap

theorem path {cfg : Config} {c d : Core} (hb : Base c) (h : Path (Act cfg) c d) : Base d :=
  Path.invariant (fun _ _ hs hb => hb.act hs) h hb

theorem used {cfg : Config} {c d : Core} (hb : Base c) (h : Path (Act cfg) c d) {id : FlowId}
    (hu : c.flows.Used id) : d.flows.Used id :=
  (Path.invariant (P := fun d => Base d ∧ d.flows.Used id)
    (fun _ _ hs hd => ⟨hd.1.act hs, hs.used hd.1.table hd.2⟩) h ⟨hb, hu⟩).2

end Base

end Yayatht
