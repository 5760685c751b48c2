import Yayatht.FrameCustody

set_option autoImplicit false

namespace Yayatht
open EffectLogic Sequence

theorem FlowEntry.commitMatches_synAck (e : FlowEntry) (bytesAcked : ℕ) :
    FlowEntry.commitMatches { e with flow := (e.flow.socketConnected bytesAcked).1 }
      (e.flow.socketConnected bytesAcked).2 = true := by
  have hdistance : distance e.flow.localInitial (e.flow.localInitial + 1) = 1#32 := by
    unfold distance
    bv_omega
  have hexpected : FlowEntry.expectedLen (e.flow.socketConnected bytesAcked).2 = 1#32 := rfl
  unfold FlowEntry.commitMatches
  rw [decide_eq_true_iff, hexpected]
  exact ⟨hdistance, by decide⟩

namespace Custody

variable {cfg : Config} {I : List FrameSlot → Reactor → Prop} {J : Error → Reactor → Prop}
  {held : List FrameSlot} {s : Reactor} (hI : Custody I J)
include hI

theorem noteFailure {α : Type} {m : Io α} (n : Notice) (h : Keeps (I []) J m)
    (hn : n.Ordinary) : Keeps (I []) J (noteFailure n m) := fun s hs =>
  noteFailure_ends (h s hs) fun _ _ ht => hI.marked n hn ht

theorem updatePendingPressureState : Keeps (I held) J (Reactor.updatePendingPressureState cfg) := by
  refine hI.touch fun s => ?_
  dsimp only
  split <;> rfl

theorem dropFlowFrames (queue : List QueuedFrame) (h : I (queue.map (·.frame.slot) ++ held) s) :
    Ends (Reactor.dropFlowFrames queue) s (fun _ t => I held t) J := by
  induction queue generalizing s with
  | nil => exact Ends.pure h
  | cons queued rest ih =>
    unfold Reactor.dropFlowFrames
    refine Ends.bind (hI.releaseRetainedBytes _ s h) fun _ t ht => ?_
    exact Ends.bind (hI.releaseFrame ht) fun _ t ht => ih ht

theorem releaseAccounting (id : FlowId) (key : FlowKey) (e : FlowEntry) :
    Keeps (I []) J (Reactor.releaseAccounting cfg id key e) := by
  unfold Reactor.releaseAccounting
  refine Keeps.bind (hI.note _ (by trivial)) fun _ => Keeps.get_bind fun s h => ?_
  have hpurged := hI.purged id h
  refine Ends.bind (R := fun _ t => I ((s.tapQueue.filter fun queued => queued.flow = some id).map
    (·.frame.slot) ++ []) t) (hI.hidden hpurged rfl) fun _ t ht => ?_
  refine Ends.bind (hI.dropFlowFrames _ ht) fun _ t ht => ?_
  refine Ends.bind (hI.changed ht rfl) fun _ t ht => ?_
  refine Ends.bind (hI.updatePendingPressureState t ht) fun _ t ht => ?_
  refine Ends.bind (hI.releaseRetainedBytes _ t ht) fun _ t ht => ?_
  exact hI.changed ht rfl

theorem consumeAckRefreshSuppression : Keeps (I held) J Reactor.consumeAckRefreshSuppression := by
  refine Keeps.get_bind fun s h => ?_
  split
  · exact hI.hidden h rfl
  · exact Ends.pure h

theorem registerFlow (key : FlowKey) (entry : FlowEntry) : Keeps (I []) J (Reactor.registerFlow key entry) := by
  refine Keeps.get_bind fun s h => ?_
  split
  · exact Ends.bind (R := fun _ t => I [] t) (hI.hidden h rfl) fun _ _ ht => Ends.pure ht
  · refine Ends.bind (R := fun _ t => I [] t) (hI.hidden h rfl) fun _ t ht => ?_
    exact Ends.bind ((hI.note _ (by trivial)) t ht) fun _ _ ht => Ends.pure ht

theorem constructFlow (key : FlowKey) (targetSide : FlowSide) :
    Keeps (I []) J (Reactor.constructFlow key targetSide) :=
  Keeps.bind (hI.ensure _ _) fun _ => Keeps.bind (hI.ensure _ _) fun _ => hI.ensure _ _

variable (hP : Panicky I J)
include hP

theorem closeFlow (id : FlowId) : Keeps (I []) J (Reactor.closeFlow cfg id) := by
  refine Keeps.get_bind fun s h => ?_
  cases s.flows.get id with
  | none => exact Ends.pure h
  | some e =>
    refine Ends.bind ((hI.noteFailure _ (hI.ensure _ _) (by trivial)) s h) fun sides t ht => ?_
    refine Ends.bind ((hI.noteFailure _ hI.epollDelete (by trivial)) t ht) fun _ t ht => ?_
    refine Ends.bind (hI.releaseAccounting id _ e t ht) fun _ t ht => ?_
    refine Ends.bind ((hI.noteFailure _ hI.updateTapInterest (by trivial)) t ht) fun _ t ht => ?_
    refine Ends.bind (hI.modifyEntry hP id _ t ht) fun _ t ht => ?_
    exact hI.changed ht rfl

theorem resetAndClose (id : FlowId) :
    Keeps (I []) J (do Reactor.sendResetForFlow cfg id; Reactor.closeFlow cfg id) :=
  Keeps.bind (hI.sendResetForFlow hP id) fun _ => hI.closeFlow hP id

theorem enqueuePendingPayload (id : FlowId) (payload : Bytes) :
    Keeps (I []) J (Reactor.enqueuePendingPayload cfg id payload) := by
  refine Keeps.get_bind fun s h => Ends.bind (Custody.flowEntry hP id s h) fun e t ht => ?_
  split
  · refine Ends.bind (hI.changed ht rfl) fun _ t ht => ?_
    refine Ends.bind ((hI.note _ (by trivial)) t ht) fun _ t ht => ?_
    exact Ends.bind (hI.resetAndClose hP id t ht) fun _ t ht => Ends.pure ht
  · refine Ends.bind (hI.ensure _ _ t ht) fun queue t ht => ?_
    refine Ends.bind (hI.modifyEntry hP id _ t ht) fun _ t ht => ?_
    refine Ends.bind (hI.changed ht rfl) fun _ t ht => ?_
    exact Ends.bind (hI.updatePendingPressureState t ht) fun _ t ht => Ends.pure ht

theorem consumePendingPayload (id : FlowId) (length : ℕ) :
    Keeps (I []) J (Reactor.consumePendingPayload cfg id length) := by
  refine Keeps.bind (Custody.flowEntry hP id) fun e => Keeps.bind (hI.modifyEntry hP id _) fun _ => ?_
  exact Keeps.bind (hI.touch fun _ => rfl) fun _ => hI.updatePendingPressureState

theorem submitNamespacePayload (id : FlowId) (payload : Bytes) :
    Keeps (I []) J (Reactor.submitNamespacePayload cfg id payload) := by
  refine Keeps.bind (Custody.flowEntry hP id) fun e => Keeps.bind (hI.send _) fun answer => ?_
  refine Keeps.bind (hI.note _ (by trivial)) fun _ => ?_
  split
  · refine Keeps.bind (hI.modifyEntry hP id _) fun _ => ?_
    split
    · exact hI.enqueuePendingPayload hP id _
    · exact Keeps.pure _
  · exact hI.enqueuePendingPayload hP id _
  · exact hI.throw _

theorem flushSocketChunks (id : FlowId) (chunks : ℕ) :
    Keeps (I []) J (Reactor.flushSocketChunks cfg id chunks) := by
  induction chunks with
  | zero => exact Keeps.pure ()
  | succ chunks ih =>
    unfold Reactor.flushSocketChunks
    refine Keeps.bind (Custody.flowEntry hP id) fun e => ?_
    split
    · exact Keeps.pure ()
    · refine Keeps.bind (hI.send _) fun answer => ?_
      split
      · exact hI.throw _
      · refine Keeps.bind (hI.consumePendingPayload hP id _) fun _ => ?_
        refine Keeps.bind (hI.modifyEntry hP id _) fun _ => Keeps.bind (Custody.flowEntry hP id) fun e => ?_
        split
        · exact ih
        · exact Keeps.pure ()
      · exact Keeps.pure ()
      · exact hI.throw _

theorem flushSocketQueue (id : FlowId) : Keeps (I []) J (Reactor.flushSocketQueue cfg id) := by
  refine Keeps.bind (Custody.flowEntry hP id) fun e => Keeps.bind (hI.flushSocketChunks hP id _) fun _ => ?_
  refine Keeps.bind (Custody.flowEntry hP id) fun e => ?_
  split
  · exact Keeps.bind (hI.shutdownWrite hP id) fun _ => hI.modifyEntry hP id _
  · exact Keeps.pure ()

theorem updateSocketInterest (id : FlowId) : Keeps (I []) J (Reactor.updateSocketInterest id) := by
  refine Keeps.bind (Custody.flowIsClosed id) fun closed => ?_
  split
  · exact Keeps.pure ()
  refine Keeps.bind (Custody.flowEntry hP id) fun e => ?_
  split
  · exact Keeps.pure ()
  split
  · exact Keeps.bind hI.epollModify fun _ => hI.modifyEntry hP id _
  · exact hI.throw _

theorem updateNamespaceWindow (id : FlowId) : Keeps (I []) J (Reactor.updateNamespaceWindow cfg id) := by
  refine Keeps.get_bind fun s h => Ends.bind (Custody.flowEntry hP id s h) fun e t ht => ?_
  exact Ends.bind (hI.modifyEntry hP id _ t ht) fun _ t ht => Ends.pure ht

theorem refreshUpstreamAck (id : FlowId) : Keeps (I []) J (Reactor.refreshUpstreamAck cfg id) := by
  refine Keeps.bind (Custody.flowEntry hP id) fun e => Keeps.bind (hI.ask _ _) fun answer => ?_
  refine Keeps.bind (hI.orThrow answer) fun acknowledged => Keeps.bind (Custody.flowEntry hP id) fun e => ?_
  obtain ⟨flow, advanced⟩ := e.flow.recordUpstreamAck acknowledged
  refine Keeps.bind (hI.modifyEntry hP id _) fun _ => ?_
  refine Keeps.bind (hI.updateNamespaceWindow hP id) fun changed => ?_
  split
  · exact Keeps.bind (hI.sendAckKind hP id false) fun _ => Keeps.pure _
  · exact Keeps.pure _

theorem refreshWindowClamp (id : FlowId) : Keeps (I []) J (Reactor.refreshWindowClamp id) := by
  refine Keeps.bind (Custody.flowEntry hP id) fun e => ?_
  split
  · exact Keeps.pure ()
  · refine Keeps.bind (hI.ask _ _) fun answer => Keeps.bind (hI.note _ (by trivial)) fun _ => ?_
    exact Keeps.bind (hI.orThrow answer) fun _ => hI.modifyEntry hP id _

theorem refreshZeroWindowProbe (id : FlowId) (now : Millis) :
    Keeps (I []) J (Reactor.refreshZeroWindowProbe id now) := by
  refine Keeps.bind (Custody.flowEntry hP id) fun e => Keeps.bind (hI.modifyEntry hP id _) fun _ => ?_
  refine hI.touch fun s => ?_
  split <;> rfl

theorem settleAcknowledgment (id : FlowId) (previousAck : Seq) :
    Keeps (I []) J (Reactor.settleAcknowledgment id previousAck) := by
  refine Keeps.bind (Custody.flowEntry hP id) fun e => ?_
  split
  · exact Keeps.pure ()
  dsimp only
  split
  · refine Keeps.bind (hI.discardSocket hP id _) fun answer => Keeps.bind (hI.note _ (by trivial)) fun _ => ?_
    refine Keeps.bind (hI.orThrow answer) fun discarded => ?_
    exact Keeps.either_bind (hI.throw _) (hI.releaseRetainedBytes _) fun _ => hI.modifyEntry hP id _
  · exact hI.modifyEntry hP id _

theorem forwardFin (id : FlowId) : Keeps (I []) J (Reactor.forwardFin id) := by
  refine Keeps.bind (Custody.flowEntry hP id) fun e => ?_
  split
  · exact hI.shutdownWrite hP id
  · exact hI.modifyEntry hP id _

theorem touchFront (id : FlowId) (f : SentSegment → SentSegment) :
    Keeps (I []) J (Reactor.touchFront id f) := by
  refine Keeps.bind (Custody.flowEntry hP id) fun e => ?_
  split
  · exact hI.throw _
  · exact hI.modifyEntry hP id _

theorem queueRetransmit (id : FlowId) (frame : PooledFrame) (backoff : Bool) (h : I [frame.slot] s) :
    Ends (Reactor.queueRetransmit cfg id frame backoff) s (fun _ t => I [] t) J := by
  refine Ends.bind (hI.queueTap h (.inl commits_unplanned)) fun _ t ht => ?_
  refine Ends.bind (hI.ask _ _ t ht) fun now t ht => ?_
  refine Ends.bind (hI.touchFront hP id _ t ht) fun _ t ht => ?_
  exact hI.changed ht rfl

theorem retransmitOldest (id : FlowId) (backoff : Bool) :
    Keeps (I []) J (Reactor.retransmitOldest cfg id backoff) := by
  refine Keeps.bind (Custody.flowBusy id) fun busy => ?_
  split
  · exact Keeps.pure ()
  refine Keeps.bind (Custody.flowEntry hP id) fun e => ?_
  split
  · exact Keeps.pure ()
  refine Keeps.bind (hI.ensure _ _) fun sides => ?_
  split
  · intro s h
    refine Ends.bind (hI.peekSocketFrame hP id _ _ h) fun peeked t ht => ?_
    split
    · dsimp only
      split
      · exact Ends.bind (hI.releaseFrame ht) fun _ t ht => hI.resetAndClose hP id t ht
      · refine Ends.bind (hI.finalizeFlowPayloadFrame hP id _ _ _ ht) fun frame t ht => ?_
        exact hI.queueRetransmit hP id frame backoff ht
    · exact hI.resetAndClose hP id t ht
    · exact hI.resetAndClose hP id t ht
  · intro s h
    refine Ends.bind (hI.buildFlowFrame hP id _ _ _ h) fun frame t ht => ?_
    exact hI.queueRetransmit hP id frame backoff ht.1

theorem queueSynAck {id : FlowId} {plan : SendPlan} (h : I [] s) (hc : Commits s.flows (some id) (some plan)) :
    Ends (Reactor.queueSynAck cfg id plan) s (fun _ t => I [] t) J := by
  refine Ends.bind (hI.buildFlowFrame hP id _ _ _ h) ?_
  rintro frame t ⟨ht, hflows⟩
  rw [← hflows] at hc
  exact hI.queueTap ht (.inl hc)

theorem activateFlow (id : FlowId) : Keeps (I []) J (Reactor.activateFlow cfg id) := by
  unfold Reactor.activateFlow
  refine Keeps.bind (Custody.flowEntry hP id) fun _ => Keeps.bind (hI.setPeekOffset hP id _) fun answer => ?_
  split
  · exact hI.resetAndClose hP id
  refine Keeps.bind (hI.ask _ _) fun answer => ?_
  split
  · exact hI.resetAndClose hP id
  refine Keeps.bind (hI.ask _ _) fun answer => ?_
  split
  · exact hI.resetAndClose hP id
  rename_i bytesAcked
  refine Keeps.bind (hI.updateNamespaceWindow hP id) fun _ s h => ?_
  refine Ends.bind (R := fun e t => I [] t ∧ t.flows.get id = some e) ?_ ?_
  · refine Ends.get_bind ?_
    cases hget : s.flows.get id with
    | some e => exact ⟨h, hget⟩
    | none => exact Ends.throw (hP _ _ _ h)
  rintro e t ⟨ht, hget⟩
  refine Ends.bind (R := fun _ u => t = u) rfl ?_
  rintro busy _ rfl
  refine Ends.bind (R := fun _ u => I [] u ∧ u.flows.get id = some e)
    ⟨hI.noted (.activated id e busy) trivial ht, hget⟩ ?_
  rintro _ u ⟨hu, hget⟩
  refine Ends.bind (hI.modifyEntry_found hget _ hu) ?_
  rintro _ v ⟨hv, hflows⟩
  have hcommits : Commits v.flows (some id) (some (e.flow.socketConnected bytesAcked).2) := by
    rintro _ _ ⟨⟩ ⟨⟩
    rw [hflows, FlowTable.get_modify_self, hget]
    exact ⟨_, rfl, e.commitMatches_synAck bytesAcked⟩
  exact noteFailure_ends (hI.queueSynAck hP hv hcommits) fun _ _ hw => hI.marked _ trivial hw

theorem failProxyHandshake (id : FlowId) : Keeps (I []) J (Reactor.failProxyHandshake cfg id) :=
  Keeps.bind (hI.touch fun _ => rfl) fun _ => hI.resetAndClose hP id

theorem flushProxyRounds (id : FlowId) (rounds : ℕ) :
    Keeps (I []) J (Reactor.flushProxyRounds cfg id rounds) := by
  induction rounds with
  | zero => exact Keeps.pure ()
  | succ rounds ih =>
    unfold Reactor.flushProxyRounds
    refine Keeps.bind (Custody.flowEntry hP id) fun e => Keeps.bind (hI.expect _ _) fun h => ?_
    split
    · exact Keeps.pure ()
    refine Keeps.bind (hI.send _) fun answer => ?_
    split
    · exact hI.failProxyHandshake hP id
    · refine Keeps.bind (hI.modifyEntry hP id _) fun _ => ?_
      split
      · exact ih
      · exact hI.throw _
    · exact Keeps.pure ()
    · exact hI.failProxyHandshake hP id

theorem flushProxyOutput (id : FlowId) : Keeps (I []) J (Reactor.flushProxyOutput cfg id) := by
  refine Keeps.bind (Custody.flowEntry hP id) fun e => Keeps.bind (hI.expect _ _) fun h => ?_
  exact hI.flushProxyRounds hP id _

theorem finishTransportConnect (id : FlowId) : Keeps (I []) J (Reactor.finishTransportConnect cfg id) := by
  refine Keeps.bind (Custody.flowEntry hP id) fun _ => Keeps.bind (hI.asked _ _) fun answer => ?_
  split
  · exact hI.resetAndClose hP id
  refine Keeps.bind (hI.modifyEntry hP id _) fun _ => Keeps.bind (Custody.flowEntry hP id) fun e => ?_
  split
  · exact hI.flushProxyOutput hP id
  · exact hI.activateFlow hP id

theorem continueHandshake (id : FlowId) : Keeps (I []) J (Reactor.continueHandshake cfg id) := by
  refine Keeps.bind (Custody.flowEntry hP id) fun e => Keeps.bind (hI.expect _ _) fun h => ?_
  split
  · refine Keeps.bind (hI.modifyEntry hP id _) fun _ => Keeps.bind (hI.touch fun _ => rfl) fun _ => ?_
    exact hI.activateFlow hP id
  · exact hI.flushProxyOutput hP id

theorem receiveProxyInput (id : FlowId) : Keeps (I []) J (Reactor.receiveProxyInput cfg id) := by
  refine Keeps.bind (Custody.flowEntry hP id) fun _ => Keeps.bind (hI.peekSocket hP id _) fun answer => ?_
  split
  · exact Keeps.pure ()
  · exact hI.failProxyHandshake hP id
  · exact hI.failProxyHandshake hP id
  refine Keeps.bind (Custody.flowEntry hP id) fun e => Keeps.bind (hI.expect _ _) fun h => ?_
  refine Keeps.bind (hI.modifyEntry hP id _) fun _ => ?_
  split
  · exact hI.failProxyHandshake hP id
  · exact hI.continueHandshake hP id
  · refine Keeps.bind (hI.discardSocket hP id _) fun answer => ?_
    split
    · exact hI.failProxyHandshake hP id
    · split
      · exact hI.failProxyHandshake hP id
      · exact hI.continueHandshake hP id

theorem flushAckRefreshes (count : ℕ) : Keeps (I []) J (Reactor.flushAckRefreshes cfg count) := by
  induction count with
  | zero => exact Keeps.pure ()
  | succ count ih =>
    unfold Reactor.flushAckRefreshes
    refine Keeps.get_bind fun s h => ?_
    split
    · exact Ends.pure h
    · rename_i id _
      refine Ends.bind (R := fun _ t => I [] t) (hI.hidden h rfl) fun _ t ht => ?_
      refine Keeps.bind (Custody.flowIsClosed id) (fun closed => ?_) t ht
      split
      · exact ih
      refine Keeps.bind (hI.consumeAckRefreshSuppression) fun suppressed => ?_
      have hrest : Keeps (I []) J (do Reactor.updateSocketInterest id; Reactor.flushAckRefreshes cfg count) :=
        Keeps.bind (hI.updateSocketInterest hP id) fun _ => ih
      split
      · exact hrest
      · exact Keeps.bind (hI.refreshUpstreamAck hP id) fun _ => hrest

theorem flushAckRefresh : Keeps (I []) J (Reactor.flushAckRefresh cfg) :=
  Keeps.get_bind fun s h => hI.flushAckRefreshes hP _ s h

theorem receiveSegment (id : FlowId) (segment : TcpSegment) :
    Keeps (I []) J (Reactor.receiveSegment id segment) := by
  refine Keeps.get_bind fun s h => ?_
  refine Keeps.bind (hI.ensure _ _) (fun e => Keeps.bind (hI.note _ (by trivial)) fun _ => ?_) s h
  obtain ⟨received, disposition⟩ := e.received segment
  refine Keeps.bind (hI.modifyEntry hP id _) fun _ => ?_
  split
  · exact Keeps.pure _
  refine Keeps.bind (hI.refreshWindowClamp hP id) fun _ => Keeps.bind (hI.ask _ _) fun now => ?_
  refine Keeps.bind (hI.refreshZeroWindowProbe hP id now) fun _ => ?_
  exact Keeps.bind (hI.settleAcknowledgment hP id _) fun _ => Keeps.pure _

theorem closeIfTimeWait (id : FlowId) : Keeps (I []) J (Reactor.closeIfTimeWait cfg id) := by
  refine Keeps.get_bind fun s h => ?_
  split
  · exact Ends.pure h
  split
  · exact Ends.bind ((hI.note _ (by trivial)) s h) fun _ t ht => hI.closeFlow hP id t ht
  · exact Ends.pure h

theorem finishSegment (id : FlowId) : Keeps (I []) J (Reactor.finishSegment cfg id) := by
  refine Keeps.bind (hI.touch fun s => ?_) fun _ => hI.closeIfTimeWait hP id
  split <;> rfl

theorem handleExistingTcp (id : FlowId) (segment : TcpSegment) :
    Keeps (I []) J (Reactor.handleExistingTcp cfg id segment) := by
  have hanswer : Keeps (I []) J (do Reactor.sendAck cfg id; Reactor.finishSegment cfg id) :=
    Keeps.bind (hI.sendAckKind hP id false) fun _ => hI.finishSegment hP id
  refine Keeps.bind (Custody.flowEntry hP id) fun e => ?_
  split
  · exact Keeps.pure ()
  split
  · exact hI.retransmitOldest hP id false
  refine Keeps.bind (hI.receiveSegment hP id segment) fun disposition => ?_
  cases disposition with
  | reset => exact hI.closeFlow hP id
  | inOrder payloadLen fin =>
    dsimp only
    have hrest : ∀ delivered : Bool, Keeps (I []) J (do
        if delivered then
          if fin then
            Reactor.forwardFin id
            Reactor.sendFinAck cfg id
          else pure ()
          Reactor.finishSegment cfg id
        else pure ()) := by
      intro delivered
      split
      · split
        · refine Keeps.bind (hI.forwardFin hP id) fun _ => ?_
          exact Keeps.bind (hI.sendAckKind hP id true) fun _ => hI.finishSegment hP id
        · exact hI.finishSegment hP id
      · exact Keeps.pure ()
    exact Keeps.either_bind (hI.submitNamespacePayload hP id _) (Keeps.pure true) hrest
  | duplicate => exact hanswer
  | outOfOrder => exact hanswer
  | outsideWindow => exact hanswer
  | invalid => exact Keeps.bind (hI.closeFlow hP id) fun _ => hI.finishSegment hP id

theorem startFlow (id : FlowId) : Keeps (I []) J (Reactor.startFlow id) := by
  unfold Reactor.startFlow
  split
  · refine Keeps.bind (Custody.flowEntry hP id) fun _ => Keeps.bind (hI.asked _ _) fun _ => ?_
    refine Keeps.bind (Custody.flowEntry hP id) fun e => Keeps.bind (hI.ensure _ _) fun active => ?_
    exact Keeps.bind (hI.modifyEntry hP id _) fun _ => hI.touch fun _ => rfl
  · exact hI.throw _

theorem connectFlow (key : FlowKey) (segment : TcpSegment) (logicalTarget : SocketAddr)
    (hdial : ∀ s, I [] s →
      I [] { s with journal := .dialed .stream (Reactor.routeTarget cfg logicalTarget).2 :: s.journal }) :
    Keeps (I []) J (Reactor.connectFlow cfg key segment logicalTarget) := by
  unfold Reactor.connectFlow
  generalize Reactor.routeTarget cfg logicalTarget = route at hdial
  obtain ⟨targetInterface, transportPeer⟩ := route
  refine Keeps.bind (Keeps.bind (Keeps.modify hdial) fun _ => hI.ask _ _) fun answer => ?_
  split
  · exact hI.refuseSyn hP key _
  rename_i connected
  refine Keeps.bind (hI.ask _ _) fun answer => Keeps.bind (hI.orThrow answer) fun localEndpoint => ?_
  refine Keeps.bind (hI.asked _ _) fun buffers => Keeps.bind (hI.asked _ _) fun random => ?_
  refine Keeps.get_bind fun s h => Keeps.bind (hI.constructFlow key _) (fun construction => ?_) s h
  refine Keeps.bind (hI.registerFlow key _) fun registered => ?_
  split
  · exact hI.refuseSyn hP key _
  rename_i id
  refine Keeps.bind (hI.note _ (by trivial)) fun _ => Keeps.bind (hI.startFlow hP id) fun _ => ?_
  refine Keeps.either_bind (Keeps.pure true) (hI.asked _ _) fun connected => ?_
  dsimp only
  split
  · exact Keeps.bind (hI.finishTransportConnect hP id) fun _ => hI.updateSocketInterest hP id
  · exact Keeps.pure ()

theorem handleTcp (key : FlowKey) (segment : TcpSegment)
    (hdial : ∀ logicalTarget s, (Reactor.dnsProxyTcpIntercepts cfg key.target = false → logicalTarget = key.target) →
      I [] s →
      I [] { s with journal := .dialed .stream (Reactor.routeTarget cfg logicalTarget).2 :: s.journal }) :
    Keeps (I []) J (Reactor.handleTcp cfg key segment) := by
  refine Keeps.get_bind fun s h => ?_
  split
  · exact hI.handleExistingTcp hP _ segment s h
  split
  · exact Ends.pure h
  split
  · rename_i hdns
    split
    · rename_i resolver _
      exact hI.connectFlow hP key segment resolver (fun s => hdial resolver s (by simp [hdns])) s h
    · refine Ends.bind (hI.buildTcpFrame hP _ _ _ _ _ _ _ h) fun frame t ht => ?_
      refine Ends.bind (hI.countReset t ht.1) fun _ t ht => ?_
      refine Ends.bind (hI.changed ht rfl) fun _ t ht => ?_
      exact hI.queueTap ht (.inl commits_none)
  · exact hI.connectFlow hP key segment key.target (fun s => hdial _ s fun _ => rfl) s h

theorem advanceProbe (id : FlowId) (now : Millis) : Keeps (I []) J (Reactor.advanceProbe id now) :=
  hI.modifyEntry hP id _

theorem sendZeroWindowProbe (id : FlowId) (now : Millis) :
    Keeps (I []) J (Reactor.sendZeroWindowProbe cfg id now) := by
  refine Keeps.bind (Custody.flowBusy id) fun busy => ?_
  split
  · exact Keeps.pure ()
  refine Keeps.bind (Custody.flowEntry hP id) fun e => Keeps.bind (hI.setPeekOffset hP id 0) fun answer => ?_
  refine Keeps.bind (hI.orThrow answer) fun _ => Keeps.bind (hI.peekSocket hP id 1) fun answer => ?_
  have hrest : Keeps (I []) J (do
      Reactor.advanceProbe id now
      modify fun s : Reactor =>
        { s with
          metrics := { s.metrics with tcpZeroWindowProbes := s.metrics.tcpZeroWindowProbes + 1 } }) :=
    Keeps.bind (hI.advanceProbe hP id now) fun _ => hI.touch fun _ => rfl
  split
  · intro s h
    refine Ends.bind (hI.buildFlowFrame hP id _ _ _ h) ?_
    rintro frame t ⟨ht, -⟩
    refine Ends.get_bind ?_
    split
    · refine Ends.bind (R := fun _ u => I [frame.slot] u) (hI.hidden ht rfl) fun _ u hu => ?_
      exact Ends.bind (hI.releaseFrame hu) fun _ v hv => hrest v hv
    · exact Ends.bind (hI.queueTap ht (.inl commits_unplanned)) fun _ u hu => hrest u hu
  · exact hI.advanceProbe hP id now
  · exact hI.advanceProbe hP id now
  · exact hI.throw _

theorem handleHandshakeEvents (id : FlowId) (events : UInt32) :
    Keeps (I []) J (Reactor.handleHandshakeEvents cfg id events) := by
  unfold Reactor.handleHandshakeEvents
  refine Keeps.when_bind (hI.flushProxyOutput hP id) ?_
  refine Keeps.bind (Custody.flowIsClosed id) fun closed => ?_
  split
  · exact Keeps.pure _
  refine Keeps.when_bind (hI.receiveProxyInput hP id) ?_
  refine Keeps.bind (Custody.flowIsClosed id) fun closed => ?_
  split
  · exact Keeps.pure _
  · exact Keeps.get_bind fun s h => Ends.pure h

theorem handleErrorEvent (id : FlowId) (events : UInt32) :
    Keeps (I []) J (Reactor.handleErrorEvent cfg id events) := by
  have hreset : Keeps (I []) J (do
      Reactor.sendResetForFlow cfg id
      Reactor.closeFlow cfg id
      pure false) :=
    Keeps.bind (hI.sendResetForFlow hP id) fun _ => Keeps.bind (hI.closeFlow hP id) fun _ => Keeps.pure _
  unfold Reactor.handleErrorEvent
  split
  · refine Keeps.bind (Custody.flowEntry hP id) fun _ => Keeps.bind (hI.asked _ _) fun pending => ?_
    split
    · exact hreset
    refine Keeps.bind (hI.asked _ _) fun drain => ?_
    split
    · exact hreset
    · exact Keeps.pure _
  · exact Keeps.pure _

theorem confirmTailRecovery (id : FlowId) : Keeps (I []) J (Reactor.confirmTailRecovery cfg id) := by
  refine Keeps.bind (hI.asked _ _) fun redrain => ?_
  split
  · exact hI.resetAndClose hP id
  split
  · exact hI.touch fun _ => rfl
  · exact Keeps.pure ()

theorem watchdogRefresh (id : FlowId) (notified : Bool) :
    Keeps (I []) J (Reactor.watchdogRefresh cfg id notified) := by
  refine Keeps.bind (hI.refreshUpstreamAck hP id) fun advanced => ?_
  split
  · refine Keeps.bind (hI.touch fun _ => rfl) fun _ => ?_
    split
    · exact Keeps.pure ()
    refine Keeps.bind (Custody.flowIsClosed id) fun closed => ?_
    split
    · exact Keeps.pure ()
    refine Keeps.bind (Custody.flowEntry hP id) fun e => ?_
    split
    · exact Keeps.pure ()
    · exact hI.confirmTailRecovery hP id
  · exact Keeps.pure ()

theorem watchdogUpstreamAck (id : FlowId) : Keeps (I []) J (Reactor.watchdogUpstreamAck cfg id) := by
  refine Keeps.bind Custody.framesAvailable fun available => ?_
  split
  · exact Keeps.pure ()
  refine Keeps.bind (Custody.flowIsClosed id) fun closed => ?_
  split
  · exact Keeps.pure ()
  refine Keeps.bind (Custody.flowEntry hP id) fun e => ?_
  split
  · exact Keeps.pure ()
  refine Keeps.bind (hI.asked _ _) fun drain => ?_
  split
  · exact hI.resetAndClose hP id
  · exact hI.watchdogRefresh hP id _

theorem serviceProbe (id : FlowId) (now : Millis) : Keeps (I []) J (Reactor.serviceProbe cfg id now) := by
  refine Keeps.get_bind fun s h => ?_
  split
  · exact Ends.bind (hI.sendZeroWindowProbe hP id now s h) fun _ t ht => hI.watchdogUpstreamAck hP id t ht
  · exact hI.watchdogUpstreamAck hP id s h

theorem serviceFlow (id : FlowId) (now : Millis) : Keeps (I []) J (Reactor.serviceFlow cfg id now) := by
  refine Keeps.bind (Custody.flowEntry hP id) fun e => Keeps.bind (hI.note _ (by trivial)) fun _ => ?_
  split
  · split
    · exact hI.resetAndClose hP id
    · exact Keeps.bind (hI.retransmitOldest hP id true) fun _ => hI.serviceProbe hP id now
  · exact hI.serviceProbe hP id now

theorem serviceFlows (now : Millis) (ids : List FlowId) :
    Keeps (I []) J (Reactor.serviceFlows cfg now ids) := by
  induction ids with
  | nil => exact Keeps.pure ()
  | cons id ids ih =>
    unfold Reactor.serviceFlows
    refine Keeps.bind Custody.framesAvailable fun available => ?_
    split
    · exact Keeps.bind hI.noteFramePoolExhaustion fun _ => hI.touch fun _ => rfl
    · exact Keeps.bind (hI.serviceFlow hP id now) fun _ => ih

theorem handleFlowTimers (now : Millis) : Keeps (I []) J (Reactor.handleFlowTimers cfg now) :=
  Keeps.get_bind fun s h => hI.serviceFlows hP now _ s h

theorem pressFlows (ids : List FlowId) : Keeps (I []) J (Reactor.pressFlows cfg ids) := by
  induction ids with
  | nil => exact Keeps.pure ()
  | cons id ids ih =>
    unfold Reactor.pressFlows
    refine Keeps.bind (Custody.flowIsClosed id) fun closed => ?_
    split
    · exact ih
    refine Keeps.bind Custody.framesAvailable fun available => ?_
    split
    · exact Keeps.bind hI.noteFramePoolExhaustion fun _ => hI.touch fun _ => rfl
    · refine Keeps.bind (hI.updateNamespaceWindow hP id) fun changed => ?_
      exact Keeps.when_bind (hI.sendAckKind hP id false) ih

theorem applyPendingPressure : Keeps (I []) J (Reactor.applyPendingPressure cfg) := by
  refine Keeps.get_bind fun s h => ?_
  split
  · exact Ends.bind (R := fun _ t => I [] t) (hI.hidden h rfl) fun _ t ht => hI.pressFlows hP _ t ht
  · exact Ends.pure h

theorem closeFlows (ids : List FlowId) : Keeps (I []) J (Reactor.closeFlows cfg ids) := by
  induction ids with
  | nil => exact Keeps.pure ()
  | cons id ids ih => exact Keeps.bind (hI.closeFlow hP id) fun _ => ih

end Custody

theorem Wasteful.panicky {I : List FrameSlot → Reactor → Prop} {J : Error → Reactor → Prop} (hW : Wasteful I J) :
    Panicky I J := fun held s text h => hW held s (.panic text) h

namespace Custody

variable {cfg : Config} {I : List FrameSlot → Reactor → Prop} {J : Error → Reactor → Prop}
  {s : Reactor} (hI : Custody I J) (hW : Wasteful I J)
include hI hW

theorem fetchSocketData (id : FlowId) (budget : ℕ) :
    Keeps (I []) J (Reactor.fetchSocketData cfg id budget) := by
  have hP := hW.panicky
  induction budget with
  | zero => exact Keeps.pure ()
  | succ budget ih =>
    unfold Reactor.fetchSocketData
    refine Keeps.bind Custody.framesAvailable fun available => ?_
    split
    · exact hI.noteFramePoolExhaustion
    refine Keeps.bind (Custody.flowBusy id) fun busy => ?_
    split
    · exact Keeps.pure ()
    refine Keeps.bind (Custody.flowEntry hP id) fun e => Keeps.bind (hI.ensure _ _) fun sides => ?_
    dsimp only
    split
    · exact Keeps.pure ()
    refine Keeps.get_bind fun s h => ?_
    split
    · exact hI.changed h rfl
    refine Ends.bind (hI.peekSocketFrame hP id _ _ h) fun peeked t ht => ?_
    cases peeked with
    | eof =>
      refine Ends.bind (Custody.flowEntry hP id t ht) fun e t ht => ?_
      refine Ends.bind (hI.ensure _ _ t ht) fun plan t ht => ?_
      refine Ends.bind (hI.buildFlowFrame hP id _ _ _ ht) fun frame t ht => ?_
      exact Ends.bind (hI.queueTap ht.1 (.inr hW)) fun _ t ht => ih t ht
    | data slot bytes =>
      refine Ends.bind (Custody.flowEntry hP id t ht) fun e t ht => ?_
      refine Ends.bind (R := fun _ u => I [slot] u) ?_ fun plan t ht => ?_
      · cases e.flow.planSend bytes.length false with
        | some plan => exact Ends.pure ht
        | none => exact Ends.throw (hW _ _ _ ht)
      refine Ends.bind (hI.modifyEntry hP id _ t ht) fun _ t ht => ?_
      refine Ends.bind (hI.finalizeFlowPayloadFrame hP id _ _ _ ht) fun frame t ht => ?_
      exact Ends.bind (hI.queueTap ht (.inr hW)) fun _ t ht => ih t ht
    | wouldBlock => exact Ends.pure ht

theorem handleStreamEvents (id : FlowId) (events : UInt32) :
    Keeps (I []) J (Reactor.handleStreamEvents cfg id events) := by
  unfold Reactor.handleStreamEvents
  have hP := hW.panicky
  have hread : Keeps (I []) J
      (if has events (readable ||| readHangup) then Reactor.sendSocketData cfg id else pure ()) := by
    split
    · exact hI.fetchSocketData hW id _
    · exact Keeps.pure ()
  refine Keeps.when_bind (hI.flushSocketQueue hP id) ?_
  refine Keeps.bind (hI.consumeAckRefreshSuppression) fun suppressed => ?_
  cases suppressed with
  | true => exact hread
  | false => exact Keeps.bind (hI.refreshUpstreamAck hP id) fun _ => hread

theorem handleSocketEvents (id : FlowId) (events : UInt32) :
    Keeps (I []) J (Reactor.handleSocketEvents cfg id events) := by
  have hP := hW.panicky
  refine Keeps.bind (Custody.flowIsClosed id) fun closed => ?_
  split
  · exact Keeps.pure ()
  refine Keeps.bind (hI.handleErrorEvent hP id events) fun alive => ?_
  split
  · refine Keeps.bind (Custody.flowEntry hP id) fun e => ?_
    dsimp only
    refine Keeps.when_bind (hI.finishTransportConnect hP id) ?_
    refine Keeps.bind (Custody.flowIsClosed id) fun closed => ?_
    split
    · exact Keeps.pure ()
    refine Keeps.bind (Custody.flowEntry hP id) fun e => ?_
    split
    · refine Keeps.bind (hI.handleHandshakeEvents hP id events) fun ready => ?_
      split
      · exact hI.handleStreamEvents hW id events
      · exact Keeps.pure ()
    · exact hI.handleStreamEvents hW id events
  · exact Keeps.pure ()

theorem handleSocket (id : FlowId) (events : UInt32) : Keeps (I []) J (Reactor.handleSocket cfg id events) :=
  Keeps.bind (hI.handleSocketEvents hW id events) fun _ => hI.updateSocketInterest (hW.panicky) id

theorem flushTapFrames (budget : ℕ) : Keeps (I []) J (Reactor.flushTapFrames budget) := by
  induction budget with
  | zero => exact Keeps.pure ()
  | succ budget ih =>
    unfold Reactor.flushTapFrames
    refine Keeps.get_bind fun s h => ?_
    split
    · exact Ends.pure h
    · rename_i queued rest hqueue
      refine Ends.bind (R := fun _ t => I [] t ∧ t.tapQueue = queued :: rest) ⟨hI.hidden h rfl, hqueue⟩ ?_
      rintro answer t ⟨ht, hqueue⟩
      split
      · refine Ends.bind (R := fun _ u => I [queued.frame.slot] u) (Ends.modify (hI.popped hqueue ht)) ?_
        intro _ u hu
        split
        · refine Ends.bind (hI.countTapTx u hu) fun _ u hu => ?_
          exact Ends.bind (hI.commitTapSend hu (.inr hW)) fun _ v hv => ih v hv
        · exact Ends.bind (hI.abandonFrame _ _ _ _ hu) fun _ _ hv => Ends.throw (hI.failed _ hv)
      · exact Ends.pure ht
      · refine Ends.bind (R := fun _ u => I [queued.frame.slot] u) (Ends.modify (hI.popped hqueue ht)) ?_
        intro _ u hu
        exact Ends.bind (hI.abandonFrame _ _ _ _ hu) fun _ _ hv => Ends.throw (hI.failed _ hv)

theorem flushTapQueue : Keeps (I []) J Reactor.flushTapQueue :=
  Keeps.bind (hI.flushTapFrames hW _) fun _ => hI.updateTapInterest

end Custody

end Yayatht
