import Yayatht.ReactorRun

set_option autoImplicit false

namespace Yayatht
open EffectLogic Sequence

def missingTexts : List String :=
  ["SOCKS association table exhausted", "SOCKS association disappeared", "ready SOCKS association has no relay",
    "SOCKS association has no relay socket", "SOCKS association has no handshake",
    "SOCKS association has no control socket", "SOCKS ASSOCIATE response has no BND address",
    "SOCKS association without proxy", "SOCKS rebuild without SOCKS upstream", "pending association has relay",
    "ready association has relay", "flow was found by key"]

def Error.Other : Error → Prop
  | .invariant text => text ∉ missingTexts
  | .panic text => text ∉ missingTexts
  | _ => True

def relays (s : Reactor) :
    Udp.Engine × KeyedMap FlowId UdpSocketEntry × FlowTable SocksAssociation × KeyedMap Udp.AssociationKey FlowId :=
  (s.udpEngine, s.udpSockets, s.socksAssociations, s.socksByKey)

def resolver (s : Reactor) : DnsConnection × Bytes × Bytes := (s.dnsConnection, s.dnsWriteBuffer, s.dnsReadBuffer)

def Notice.serviced? : Notice → Option FlowId
  | .serviced id _ _ => some id
  | _ => none

/-- What the TAP and the counters do not show in. -/
def footing (s : Reactor) :=
  (s.flows, s.ackRefreshQueue, relays s, resolver s, s.timerCursorSlot, s.journal)

/-- The parts of an entry that the interest in its socket follows, with its construction. -/
def FlowEntry.bearing (e : FlowEntry) :=
  (e.construction, e.transportConnected, e.armedSocketInterest, e.handshake, e.pendingSocket)

/-- An edit that leaves the bearing alone and does not close the flow. -/
def Slight (e f : FlowEntry) : Prop := f.bearing = e.bearing ∧ (e.open? = true → f.open? = true)

/-- An edit that leaves the construction alone and does not close the flow. -/
def Broad (e f : FlowEntry) : Prop := f.construction = e.construction ∧ (e.open? = true → f.open? = true)

/-- Relations the handlers of TCP flows respect, when their edits of entries are in `kin`. -/
structure Conduct (kin : FlowId → FlowEntry → FlowEntry → Prop) (E : Error → Prop)
    (P : Reactor → Reactor → Prop) : Prop where
  hidden : ∀ s t, footing t = footing s → P s t
  noted : ∀ s notice, notice.serviced? = none → P s { s with journal := notice :: s.journal }
  edited : ∀ s id e g, s.flows.get id = some e → kin id e (g e) → P s { s with flows := s.flows.modify id g }
  retired : ∀ s id, P s
    { s with flows := (s.flows.modify id fun e => { e with flow := e.flow.close }).deferRemove id }
  listed : ∀ s id, P s { s with ackRefreshQueue := s.ackRefreshQueue ++ [id] }
  errors : ∀ e, e.Other → E e
  slight : ∀ id e f, Slight e f → kin id e f

/-- Every edit of the flow that keeps its construction and does not close it is allowed. -/
def Wide (kin : FlowId → FlowEntry → FlowEntry → Prop) (id : FlowId) : Prop := ∀ e f, Broad e f → kin id e f

theorem slight_probed (e : FlowEntry) (now : Millis) : Slight e (e.probed now) := by
  unfold FlowEntry.probed
  split <;> exact ⟨rfl, fun h => h⟩

theorem slight_advanced (e : FlowEntry) (plan : SendPlan) : Slight e (e.advanced plan) := by
  refine ⟨rfl, fun h => ?_⟩
  unfold FlowEntry.advanced FlowEntry.open? Flow.commitSend at *
  dsimp only
  repeat' split
  all_goals first | exact h | simp

theorem slight_window (e : FlowEntry) (budget : ℕ) :
    Slight e { e with flow := (e.flow.setAdvertisedWindow budget).1 } := by
  refine ⟨rfl, fun h => ?_⟩
  unfold Flow.setAdvertisedWindow
  dsimp only
  split <;> exact h

theorem slight_upstreamAck (e : FlowEntry) (acked : ℕ) :
    Slight e { e with flow := (e.flow.recordUpstreamAck acked).1 } := by
  refine ⟨rfl, fun h => ?_⟩
  unfold Flow.recordUpstreamAck
  dsimp only
  split <;> exact h

/-- Relations that also allow the timer scan. -/
structure Rounds (kin : FlowId → FlowEntry → FlowEntry → Prop) (E : Error → Prop)
    (P : Reactor → Reactor → Prop) : Prop extends Conduct kin E P where
  serviced : ∀ s id e now, P s { s with journal := .serviced id e now :: s.journal }
  scanned : ∀ s slot, P s { s with timerCursorSlot := slot }

namespace Conduct

variable {kin : FlowId → FlowEntry → FlowEntry → Prop} {E : Error → Prop} {P : Reactor → Reactor → Prop}
  (cfg : Config)

section

variable [IsPreorder Reactor P]

theorem flowIsClosed (id : FlowId) : Heeds P E (flowIsClosed id) := Heeds.get.bind fun _ => Heeds.pure _

theorem flowBusy (id : FlowId) : Heeds P E (Reactor.flowBusy id) := Heeds.get.bind fun _ => Heeds.pure _

theorem framesAvailable : Heeds P E Reactor.framesAvailable := Heeds.get.bind fun _ => Heeds.pure _

end

variable (hP : Conduct kin E P)
include hP

theorem ask {α : Type} (answers : Kernel → Stream' α) (advance : Kernel → Kernel) :
    Heeds P E (ask answers advance) := fun _ => hP.hidden _ _ rfl

theorem note {notice : Notice} (hn : notice.serviced? = none) : Heeds P E (note notice) :=
  Heeds.modify fun s => hP.noted s notice hn

theorem noteFramePoolExhaustion : Heeds P E Reactor.noteFramePoolExhaustion := Heeds.modify fun _ => hP.hidden _ _ rfl

theorem releaseFrame (slot : FrameSlot) : Heeds P E (Reactor.releaseFrame slot) := by
  refine Heeds.modify fun s => ?_
  cases slot.tier <;> exact hP.hidden _ _ rfl

theorem countTapTx : Heeds P E Reactor.countTapTx := Heeds.modify fun _ => hP.hidden _ _ rfl

theorem countReset : Heeds P E Reactor.countReset := Heeds.modify fun _ => hP.hidden _ _ rfl

theorem updatePendingPressureState : Heeds P E (Reactor.updatePendingPressureState cfg) := by
  refine Heeds.modify fun s => ?_
  dsimp only
  split <;> exact hP.hidden _ _ rfl

variable [IsPreorder Reactor P]

theorem noteFailure {α : Type} {m : Io α} {notice : Notice} (hn : notice.serviced? = none)
    (h : Heeds P E m) : Heeds P E (noteFailure notice m) :=
  Heeds.tryCatch h fun _ he => (hP.note hn).bind fun _ => Heeds.throw he

theorem throw {α : Type} {e : Error} (h : e.Other) : Heeds P E (throw e : Io α) := Heeds.throw (hP.errors e h)

theorem orThrow {α : Type} (r : Except IoError α) : Heeds P E (orThrow r) := by
  cases r with
  | ok a => exact Heeds.pure a
  | error e => exact hP.throw (e := Error.io e) trivial

theorem asked {α : Type} (answers : Kernel → Stream' (Except IoError α)) (advance : Kernel → Kernel) :
    Heeds P E (do Yayatht.orThrow (← Yayatht.ask answers advance)) := (hP.ask _ _).bind hP.orThrow

theorem invariant {α : Type} {text : String} (h : text ∉ missingTexts) :
    Heeds P E (MonadExcept.throw (Error.invariant text) : Io α) := hP.throw h

theorem ensure {α : Type} {text : String} (o : Option α) (h : text ∉ missingTexts) :
    Heeds P E (ensure text o) := by
  cases o with
  | some a => exact Heeds.pure a
  | none => exact hP.invariant h

theorem expect {α : Type} {text : String} (o : Option α) (h : text ∉ missingTexts) :
    Heeds P E (expect text o) := by
  cases o with
  | some a => exact Heeds.pure a
  | none => exact hP.throw (e := Error.panic text) h

theorem flowEntry (id : FlowId) : Heeds P E (flowEntry id) :=
  Heeds.get.bind fun _ => hP.expect _ (by simp [missingTexts])

theorem modifyEntry (id : FlowId) (g : FlowEntry → FlowEntry) (hg : ∀ e, kin id e (g e)) :
    Heeds P E (modifyEntry id g) := by
  intro s
  unfold Yayatht.modifyEntry Yayatht.flowEntry
  simp only [bind_assoc]
  refine Tracks.get_bind ?_
  cases hget : s.flows.get id with
  | none => exact hP.throw (e := Error.panic "flow exists") (by simp [Error.Other, missingTexts]) s
  | some e => exact hP.edited s id e g hget (hg e)

theorem revise {β : Type} {id : FlowId} {g : FlowEntry → FlowEntry → FlowEntry} {f : FlowEntry → Io β}
    (hg : ∀ e, kin id e (g e e)) (hf : ∀ e, Heeds P E (f e)) :
    Heeds P E (do
      let e ← Yayatht.flowEntry id
      Yayatht.modifyEntry id (g e)
      f e) := by
  intro s
  unfold Yayatht.modifyEntry Yayatht.flowEntry
  simp only [bind_assoc]
  refine Tracks.get_bind ?_
  cases hget : s.flows.get id with
  | none => exact hP.throw (e := Error.panic "flow exists") (by simp [Error.Other, missingTexts]) s
  | some e =>
    refine Ends.bind (R := fun a t => e = a ∧ s = t) (Ends.pure ⟨rfl, rfl⟩) ?_
    rintro _ _ ⟨rfl, rfl⟩
    refine Ends.get_bind ?_
    rw [hget]
    refine Ends.bind (R := fun _ t => s = t) (Ends.pure rfl) ?_
    rintro _ _ rfl
    refine Ends.bind (R := fun _ t => P s t) (Ends.modify (hP.edited s id e (g e) hget (hg e))) fun _ t ht => ?_
    exact Tracks.after ht (hf e t)

theorem touch (id : FlowId) (g : FlowEntry → FlowEntry) (hg : ∀ e, Slight e (g e)) :
    Heeds P E (Yayatht.modifyEntry id g) := hP.modifyEntry id g fun e => hP.slight id e (g e) (hg e)

theorem setPeekOffset (id : FlowId) (offset : ℕ) : Heeds P E (setPeekOffset id offset) := by
  refine (hP.ask _ _).bind fun answer => ?_
  cases answer with
  | ok a => exact Heeds.bind (hP.touch id _ fun _ => ⟨rfl, fun h => h⟩) fun _ => Heeds.pure _
  | error e => exact Heeds.pure _

theorem peekSocket (id : FlowId) (capacity : ℕ) : Heeds P E (peekSocket id capacity) := by
  refine (hP.ask _ _).bind fun answer => ?_
  cases answer with
  | ok inflow =>
    exact (hP.flowEntry id).bind fun e => Heeds.bind (hP.touch id _ fun _ => ⟨rfl, fun h => h⟩) fun _ => Heeds.pure _
  | error e => exact Heeds.pure _

theorem discardSocket (id : FlowId) (asked : ℕ) : Heeds P E (discardSocket id asked) := by
  refine (hP.ask _ _).bind fun answer => ?_
  cases answer with
  | ok inflow =>
    exact (hP.flowEntry id).bind fun e => Heeds.bind (hP.touch id _ fun _ => ⟨rfl, fun h => h⟩) fun _ => Heeds.pure _
  | error e => exact Heeds.pure _

theorem shutdownWrite (id : FlowId) : Heeds P E (shutdownWrite id) := by
  refine (hP.ask _ _).bind fun answer => (hP.note rfl).bind fun _ => ?_
  cases answer with
  | ok a => exact hP.touch id _ fun _ => ⟨rfl, fun h => h⟩
  | error e => exact hP.throw trivial

theorem send (length : ℕ) : Heeds P E (Call.send length) := (hP.ask _ _).bind fun _ => Heeds.pure _

theorem recv (capacity : ℕ) : Heeds P E (Call.recv capacity) := (hP.ask _ _).bind fun _ => Heeds.pure _

theorem connect (peer : SocketAddr) : Heeds P E (Call.connect peer) := (hP.note rfl).bind fun _ => hP.ask _ _

/-! ## Frames -/

theorem acquireFrame : Heeds P E Reactor.acquireFrame := by
  refine Heeds.get_bind fun s => Heeds.set_bind (hP.hidden _ _ rfl) ?_
  cases s.framePool.acquire.2 with
  | some index => exact Heeds.pure _
  | none =>
    refine (hP.note rfl).bind fun _ => hP.noteFramePoolExhaustion.bind fun _ => ?_
    exact hP.invariant (by simp [missingTexts])

theorem acquirePayloadFrame (required : ℕ) : Heeds P E (Reactor.acquirePayloadFrame cfg required) := by
  refine Heeds.get_bind fun s => ?_
  split
  · refine Heeds.set_bind (hP.hidden _ _ rfl) ?_
    cases s.gsoPool.acquire.2 with
    | some index => exact Heeds.pure _
    | none => exact Heeds.bind (Heeds.modify fun _ => hP.hidden _ _ rfl) fun _ => hP.acquireFrame
  · exact hP.acquireFrame s

theorem reserveRetainedBytes (length : ℕ) : Heeds P E (Reactor.reserveRetainedBytes cfg length) := by
  refine Heeds.get_bind fun s => ?_
  split
  · exact Heeds.set_bind (hP.hidden _ _ rfl) (Heeds.pure _)
  · exact Heeds.set_bind (hP.hidden _ _ rfl) (Heeds.pure _)

theorem releaseRetainedBytes (length : ℕ) : Heeds P E (Reactor.releaseRetainedBytes length) := by
  refine Heeds.modify fun s => ?_
  exact IsTrans.trans _ _ _ (hP.noted s (.retainedReleased length s.retainedSocketBytes) rfl) (hP.hidden _ _ rfl)

theorem updateTapInterest : Heeds P E Reactor.updateTapInterest := by
  refine Heeds.get_bind fun s => ?_
  split
  · exact Heeds.set_bind (hP.hidden _ _ rfl) (hP.invariant (by simp [missingTexts]))
  · exact hP.asked _ _ s

theorem commitPlan (id : FlowId) (plan : SendPlan) : Heeds P E (Reactor.commitPlan id plan) := by
  refine Heeds.get.bind fun s => ?_
  cases s.flows.get id with
  | none => exact (hP.note rfl).bind fun _ => hP.invariant (by simp [missingTexts])
  | some e =>
    dsimp only
    split
    · exact (hP.ask _ _).bind fun now => hP.touch id _ fun e => slight_advanced e plan
    · refine Heeds.bind (hP.touch id _ fun e => slight_advanced e plan) fun _ => ?_
      exact (hP.note rfl).bind fun _ => hP.invariant (by simp [missingTexts])

theorem commitTapSend (flow : Option FlowId) (frame : PooledFrame) (plan : Option SendPlan) :
    Heeds P E (Reactor.commitTapSend flow frame plan) := by
  unfold Reactor.commitTapSend
  cases flow with
  | none => exact hP.releaseFrame _
  | some id =>
    cases plan with
    | none => exact hP.releaseFrame _
    | some plan => exact (hP.commitPlan id plan).bind fun _ => hP.releaseFrame _

theorem injectedDrop (plan : Option SendPlan) : Heeds P E (Reactor.injectedDrop plan) := by
  refine Heeds.get_bind fun s => ?_
  cases plan with
  | none => exact Tracks.pure _
  | some plan =>
    dsimp only
    repeat' split
    · exact hP.hidden _ _ rfl
    · exact hP.hidden _ _ rfl
    · exact hP.hidden _ _ rfl
    · exact hP.hidden _ _ rfl
    · exact Tracks.pure _

theorem abandonFrame (flow : Option FlowId) (frame : PooledFrame) (plan : Option SendPlan) (reserved : ℕ) :
    Heeds P E (Reactor.abandonFrame flow frame plan reserved) :=
  (hP.note rfl).bind fun _ => (hP.releaseRetainedBytes _).bind fun _ => hP.releaseFrame _

theorem pushTapQueue (queued : QueuedFrame) : Heeds P E (Reactor.pushTapQueue queued) :=
  Heeds.bind (Heeds.modify fun _ => hP.hidden _ _ rfl) fun _ => hP.updateTapInterest

theorem tapWrite (length : ℕ) : Heeds P E (Call.tapWrite length) := (hP.ask _ _).bind fun _ => Heeds.pure _

theorem queueTap (flow : Option FlowId) (frame : PooledFrame) (plan : Option SendPlan) :
    Heeds P E (Reactor.queueTap cfg flow frame plan) := by
  unfold Reactor.queueTap
  refine (hP.reserveRetainedBytes cfg _).bind fun reserved => ?_
  cases reserved with
  | false => exact (hP.releaseFrame _).bind fun _ => hP.invariant (by simp [missingTexts])
  | true =>
    refine Heeds.get.bind fun s => ?_
    split
    · refine (hP.injectedDrop plan).bind fun dropped => ?_
      cases dropped with
      | true => exact hP.commitTapSend flow frame plan
      | false =>
        refine (hP.tapWrite _).bind fun answer => ?_
        split
        · split
          · exact hP.countTapTx.bind fun _ => hP.commitTapSend flow frame plan
          · exact (hP.abandonFrame _ _ _ _).bind fun _ => hP.invariant (by simp [missingTexts])
        · exact hP.pushTapQueue _
        · exact (hP.abandonFrame _ _ _ _).bind fun _ => hP.throw trivial
    · exact hP.pushTapQueue _

theorem flushTapFrames (budget : ℕ) : Heeds P E (Reactor.flushTapFrames budget) := by
  induction budget with
  | zero => exact Heeds.pure _
  | succ budget ih =>
    refine Heeds.get.bind fun s => ?_
    cases s.tapQueue with
    | nil => exact Heeds.pure _
    | cons queued rest =>
      refine (hP.tapWrite _).bind fun answer => ?_
      split
      · refine Heeds.bind (Heeds.modify fun _ => hP.hidden _ _ rfl) fun _ => ?_
        split
        · exact hP.countTapTx.bind fun _ => (hP.commitTapSend _ _ _).bind fun _ => ih
        · exact (hP.abandonFrame _ _ _ _).bind fun _ => hP.invariant (by simp [missingTexts])
      · exact Heeds.pure _
      · exact Heeds.bind (Heeds.modify fun _ => hP.hidden _ _ rfl) fun _ => (hP.abandonFrame _ _ _ _).bind fun _ =>
          hP.throw trivial

theorem flushTapQueue : Heeds P E Reactor.flushTapQueue :=
  (hP.flushTapFrames _).bind fun _ => hP.updateTapInterest

theorem finalizeTcpFrame (slot : FrameSlot) (spec : TcpFrameSpec) (payload : Bytes) :
    Heeds P E (Reactor.finalizeTcpFrame cfg slot spec payload) := by
  unfold Reactor.finalizeTcpFrame
  dsimp only
  split
  · exact hP.throw (e := Error.panic _) (by simp [Error.Other, missingTexts])
  split
  · exact (hP.releaseFrame slot).bind fun _ => hP.invariant (by simp [missingTexts])
  · refine Heeds.bind (Heeds.modify fun s => ?_) fun _ => Heeds.pure _
    split <;> exact hP.hidden _ _ rfl

theorem buildTcpFrame (key : FlowKey) (plan : SendPlan) (payload : Bytes) (flags : TcpFlags)
    (mss windowScale : Option ℕ) (window : ℕ) :
    Heeds P E (Reactor.buildTcpFrame cfg key plan payload flags mss windowScale window) := by
  refine hP.acquireFrame.bind fun slot => ?_
  split
  · exact (hP.releaseFrame slot).bind fun _ => hP.invariant (by simp [missingTexts])
  · exact hP.finalizeTcpFrame cfg slot _ payload

theorem flowFrameParameters (id : FlowId) (syn : Bool) : Heeds P E (Reactor.flowFrameParameters id syn) :=
  Heeds.get.bind fun _ => (hP.ensure _ (by simp [missingTexts])).bind fun _ =>
    (hP.ensure _ (by simp [missingTexts])).bind fun _ => Heeds.pure _

theorem buildFlowFrame (id : FlowId) (plan : SendPlan) (payload : Bytes) (flags : TcpFlags) :
    Heeds P E (Reactor.buildFlowFrame cfg id plan payload flags) :=
  (hP.flowFrameParameters id _).bind fun _ => (hP.buildTcpFrame cfg _ _ _ _ _ _ _).bind fun _ =>
    (hP.note rfl).bind fun _ => Heeds.pure _

theorem finalizeFlowPayloadFrame (id : FlowId) (slot : FrameSlot) (plan : SendPlan) (flags : TcpFlags)
    (payload : Bytes) : Heeds P E (Reactor.finalizeFlowPayloadFrame cfg id slot plan flags payload) := by
  refine (Heeds.tryCatch (hP.flowFrameParameters id false) fun _ he =>
    (hP.releaseFrame slot).bind fun _ => Heeds.throw he).bind fun _ => ?_
  exact (hP.finalizeTcpFrame cfg slot _ payload).bind fun _ => (hP.note rfl).bind fun _ => Heeds.pure _

theorem sendResetForFlow (id : FlowId) : Heeds P E (Reactor.sendResetForFlow cfg id) :=
  (hP.flowEntry id).bind fun _ => (hP.ensure _ (by simp [missingTexts])).bind fun _ =>
    (hP.buildTcpFrame cfg _ _ _ _ _ _ _).bind fun _ => (hP.note rfl).bind fun _ =>
      hP.countReset.bind fun _ => hP.queueTap cfg _ _ _

theorem refuseSyn (key : FlowKey) (sequence : Seq) : Heeds P E (Reactor.refuseSyn cfg key sequence) :=
  (hP.buildTcpFrame cfg _ _ _ _ _ _ _).bind fun _ => hP.countReset.bind fun _ => hP.queueTap cfg _ _ _

theorem sendAckKind (id : FlowId) (finAck : Bool) : Heeds P E (Reactor.sendAckKind cfg id finAck) := by
  refine (hP.flowEntry id).bind fun e => (hP.buildFlowFrame cfg id _ _ _).bind fun frame => ?_
  refine Heeds.get_bind fun s => ?_
  split
  · exact Heeds.set_bind (hP.hidden _ _ rfl) (hP.releaseFrame _)
  · exact hP.queueTap cfg _ _ _ s

/-! ## Flows -/

theorem dropFlowFrames (frames : List QueuedFrame) : Heeds P E (Reactor.dropFlowFrames frames) := by
  induction frames with
  | nil => exact Heeds.pure _
  | cons queued rest ih => exact (hP.releaseRetainedBytes _).bind fun _ => (hP.releaseFrame _).bind fun _ => ih

theorem releaseAccounting (id : FlowId) (key : FlowKey) (e : FlowEntry) :
    Heeds P E (Reactor.releaseAccounting cfg id key e) := by
  refine (hP.note rfl).bind fun _ => Heeds.get_bind fun s => Heeds.set_bind (hP.hidden _ _ rfl) ?_
  refine (hP.dropFlowFrames _).bind fun _ => Heeds.bind (Heeds.modify fun _ => hP.hidden _ _ rfl) fun _ => ?_
  refine (hP.updatePendingPressureState cfg).bind fun _ => (hP.releaseRetainedBytes _).bind fun _ => ?_
  exact Heeds.modify fun _ => hP.hidden _ _ rfl

theorem closeFlow (id : FlowId) : Heeds P E (Reactor.closeFlow cfg id) := by
  refine Heeds.get.bind fun s => ?_
  cases s.flows.get id with
  | none => exact Heeds.pure _
  | some e =>
    refine (hP.noteFailure rfl (hP.ensure _ (by simp [missingTexts]))).bind fun sides => ?_
    refine (hP.noteFailure rfl (hP.asked _ _)).bind fun _ => (hP.releaseAccounting cfg _ _ _).bind fun _ => ?_
    refine (hP.noteFailure rfl hP.updateTapInterest).bind fun _ => ?_
    -- the entry is closed and its removal deferred at once
    intro t
    unfold Yayatht.modifyEntry Yayatht.flowEntry
    simp only [bind_assoc]
    refine Tracks.get_bind ?_
    cases t.flows.get id with
    | none => exact hP.throw (e := Error.panic "flow exists") (by simp [Error.Other, missingTexts]) t
    | some e => exact hP.retired t id

theorem failTcpFlow (id : FlowId) : Heeds P E (Reactor.failTcpFlow cfg id) :=
  (hP.sendResetForFlow cfg id).bind fun _ => hP.closeFlow cfg id

theorem enqueuePendingPayload {id : FlowId} (hwide : Wide kin id) (payload : Bytes) :
    Heeds P E (Reactor.enqueuePendingPayload cfg id payload) := by
  refine Heeds.get.bind fun s => (hP.flowEntry id).bind fun e => ?_
  split
  · exact Heeds.bind (Heeds.modify fun _ => hP.hidden _ _ rfl) fun _ => (hP.note rfl).bind fun _ =>
      (hP.failTcpFlow cfg id).bind fun _ => Heeds.pure _
  · refine (hP.ensure _ (by simp [missingTexts])).bind fun queue => ?_
    refine Heeds.bind (hP.modifyEntry id _ fun _ => hwide _ _ ⟨rfl, fun h => h⟩) fun _ => Heeds.bind (Heeds.modify fun _ => hP.hidden _ _ rfl) fun _ => ?_
    exact (hP.updatePendingPressureState cfg).bind fun _ => Heeds.pure _

theorem consumePendingPayload {id : FlowId} (hwide : Wide kin id) (length : ℕ) :
    Heeds P E (Reactor.consumePendingPayload cfg id length) :=
  (hP.flowEntry id).bind fun _ => Heeds.bind (hP.modifyEntry id _ fun _ => hwide _ _ ⟨rfl, fun h => h⟩) fun _ =>
    Heeds.bind (Heeds.modify fun _ => hP.hidden _ _ rfl) fun _ => hP.updatePendingPressureState cfg

theorem submitNamespacePayload {id : FlowId} (hwide : Wide kin id) (payload : Bytes) :
    Heeds P E (Reactor.submitNamespacePayload cfg id payload) := by
  refine (hP.flowEntry id).bind fun e => (hP.send _).bind fun answer => (hP.note rfl).bind fun _ => ?_
  split
  · refine Heeds.bind (hP.touch id _ fun _ => ⟨rfl, fun h => h⟩) fun _ => ?_
    split
    · exact hP.enqueuePendingPayload cfg hwide _
    · exact Heeds.pure _
  · exact hP.enqueuePendingPayload cfg hwide _
  · exact hP.throw trivial

theorem flushSocketChunks {id : FlowId} (hwide : Wide kin id) (chunks : ℕ) :
    Heeds P E (Reactor.flushSocketChunks cfg id chunks) := by
  induction chunks with
  | zero => exact Heeds.pure _
  | succ chunks ih =>
    refine (hP.flowEntry id).bind fun e => ?_
    cases e.pendingSocket.front with
    | none => exact Heeds.pure _
    | some bytes =>
      refine (hP.send _).bind fun answer => ?_
      split
      · exact hP.invariant (by simp [missingTexts])
      · refine (hP.consumePendingPayload cfg hwide _).bind fun _ => ?_
        refine Heeds.bind (hP.touch id _ fun _ => ⟨rfl, fun h => h⟩) fun _ => (hP.flowEntry id).bind fun e => ?_
        split
        · exact ih
        · exact Heeds.pure _
      · exact Heeds.pure _
      · exact hP.throw trivial

theorem flushSocketQueue {id : FlowId} (hwide : Wide kin id) : Heeds P E (Reactor.flushSocketQueue cfg id) := by
  refine (hP.flowEntry id).bind fun e => (hP.flushSocketChunks cfg hwide _).bind fun _ => ?_
  refine (hP.flowEntry id).bind fun e => ?_
  split
  · exact (hP.shutdownWrite id).bind fun _ => hP.touch id _ fun _ => ⟨rfl, fun h => h⟩
  · exact Heeds.pure _

theorem updateSocketInterest {id : FlowId} (hwide : Wide kin id) : Heeds P E (Reactor.updateSocketInterest id) := by
  refine (Conduct.flowIsClosed id).bind fun closed => ?_
  cases closed with
  | true => exact Heeds.pure _
  | false =>
    refine (hP.flowEntry id).bind fun e => ?_
    split
    · exact Heeds.pure _
    split
    · exact (hP.asked _ _).bind fun _ => hP.modifyEntry id _ fun _ => hwide _ _ ⟨rfl, fun h => h⟩
    · exact hP.invariant (by simp [missingTexts])

theorem updateNamespaceWindow (id : FlowId) : Heeds P E (Reactor.updateNamespaceWindow cfg id) :=
  Heeds.get.bind fun s => hP.revise (g := fun e entry =>
    { entry with flow := (e.flow.setAdvertisedWindow (Reactor.windowBudget cfg s e)).1 })
    (fun e => hP.slight id e _ (slight_window e _)) fun _ => Heeds.pure _

theorem refreshUpstreamAck (id : FlowId) : Heeds P E (Reactor.refreshUpstreamAck cfg id) := by
  have hrest : ∀ advanced : Bool, Heeds P E (do
      let windowChanged ← Reactor.updateNamespaceWindow cfg id
      if advanced ∨ windowChanged then
        Reactor.sendAck cfg id
        pure advanced
      else pure advanced : Io Bool) := by
    intro advanced
    refine (hP.updateNamespaceWindow cfg id).bind fun changed => ?_
    split
    · exact (hP.sendAckKind cfg id false).bind fun _ => Heeds.pure _
    · exact Heeds.pure _
  refine (hP.flowEntry id).bind fun _ => (hP.ask _ _).bind fun answer => (hP.orThrow answer).bind fun acked => ?_
  exact hP.revise (g := fun e entry => { entry with flow := (e.flow.recordUpstreamAck acked).1 })
    (fun e => hP.slight id e _ (slight_upstreamAck e acked)) fun e => hrest _

theorem refreshWindowClamp (id : FlowId) : Heeds P E (Reactor.refreshWindowClamp id) := by
  refine (hP.flowEntry id).bind fun e => ?_
  split
  · exact Heeds.pure _
  · exact (hP.ask _ _).bind fun answer => (hP.note rfl).bind fun _ => (hP.orThrow answer).bind fun _ =>
      hP.touch id _ fun _ => ⟨rfl, fun h => h⟩

theorem refreshZeroWindowProbe (id : FlowId) (now : Millis) : Heeds P E (Reactor.refreshZeroWindowProbe id now) := by
  refine (hP.flowEntry id).bind fun e =>
    (hP.touch id _ fun e => slight_probed e now).bind fun _ => Heeds.modify fun s => ?_
  dsimp only
  split <;> exact hP.hidden _ _ rfl

theorem settleAcknowledgment (id : FlowId) (previousAck : Seq) :
    Heeds P E (Reactor.settleAcknowledgment id previousAck) := by
  refine (hP.flowEntry id).bind fun e => ?_
  split
  · exact Heeds.pure _
  dsimp only
  split
  · refine (hP.discardSocket id _).bind fun answer => (hP.note rfl).bind fun _ => (hP.orThrow answer).bind fun n => ?_
    split
    · exact Heeds.bind (hP.invariant (by simp [missingTexts])) fun _ => hP.touch id _ fun _ => ⟨rfl, fun h => h⟩
    · exact (hP.releaseRetainedBytes _).bind fun _ => hP.touch id _ fun _ => ⟨rfl, fun h => h⟩
  · exact hP.touch id _ fun _ => ⟨rfl, fun h => h⟩

theorem forwardFin (id : FlowId) : Heeds P E (Reactor.forwardFin id) := by
  refine (hP.flowEntry id).bind fun e => ?_
  split
  · exact hP.shutdownWrite id
  · exact hP.touch id _ fun _ => ⟨rfl, fun h => h⟩

theorem peekSocketFrame (id : FlowId) (offset capacity : ℕ) : Heeds P E (Reactor.peekSocketFrame cfg id offset capacity) := by
  refine (hP.flowEntry id).bind fun e => (hP.ensure _ (by simp [missingTexts])).bind fun sides => ?_
  dsimp only
  split
  · exact hP.invariant (by simp [missingTexts])
  refine (hP.acquirePayloadFrame cfg _).bind fun slot => ?_
  refine (hP.noteFailure rfl ((hP.setPeekOffset id _).bind fun answer => hP.orThrow answer)).bind fun _ => ?_
  refine (hP.peekSocket id _).bind fun answer => ?_
  split
  · exact (hP.releaseFrame _).bind fun _ => Heeds.pure _
  · exact Heeds.pure _
  · exact (hP.releaseFrame _).bind fun _ => Heeds.pure _
  · exact (hP.releaseFrame _).bind fun _ => hP.throw trivial

theorem touchFront (id : FlowId) (f : SentSegment → SentSegment) : Heeds P E (Reactor.touchFront id f) := by
  refine (hP.flowEntry id).bind fun e => ?_
  cases e.sentSegments with
  | nil => exact hP.invariant (by simp [missingTexts])
  | cons segment segments => exact hP.touch id _ fun _ => ⟨rfl, fun h => h⟩

theorem queueRetransmit (id : FlowId) (frame : PooledFrame) (backoff : Bool) :
    Heeds P E (Reactor.queueRetransmit cfg id frame backoff) :=
  (hP.queueTap cfg _ _ _).bind fun _ => (hP.ask _ _).bind fun _ => (hP.touchFront id _).bind fun _ =>
    Heeds.modify fun _ => hP.hidden _ _ rfl

theorem retransmitOldest (id : FlowId) (backoff : Bool) : Heeds P E (Reactor.retransmitOldest cfg id backoff) := by
  refine (Conduct.flowBusy id).bind fun busy => ?_
  cases busy with
  | true => exact Heeds.pure _
  | false =>
    refine (hP.flowEntry id).bind fun e => ?_
    cases e.sentSegments with
    | nil => exact Heeds.pure _
    | cons segment rest =>
      refine (hP.ensure _ (by simp [missingTexts])).bind fun sides => ?_
      split
      · refine (hP.peekSocketFrame cfg id _ _).bind fun peeked => ?_
        cases peeked with
        | data slot bytes =>
          dsimp only
          split
          · exact (hP.releaseFrame _).bind fun _ => hP.failTcpFlow cfg id
          · exact (hP.finalizeFlowPayloadFrame cfg id _ _ _ _).bind fun _ => hP.queueRetransmit cfg id _ _
        | eof => exact hP.failTcpFlow cfg id
        | wouldBlock => exact hP.failTcpFlow cfg id
      · exact (hP.buildFlowFrame cfg id _ _ _).bind fun _ => hP.queueRetransmit cfg id _ _

theorem advanceProbe (id : FlowId) (now : Millis) : Heeds P E (Reactor.advanceProbe id now) :=
  hP.touch id _ fun _ => ⟨rfl, fun h => h⟩

theorem sendZeroWindowProbe (id : FlowId) (now : Millis) : Heeds P E (Reactor.sendZeroWindowProbe cfg id now) := by
  refine (Conduct.flowBusy id).bind fun busy => ?_
  cases busy with
  | true => exact Heeds.pure _
  | false =>
    refine (hP.flowEntry id).bind fun e => (hP.setPeekOffset id _).bind fun answer => ?_
    refine (hP.orThrow answer).bind fun _ => (hP.peekSocket id _).bind fun answer => ?_
    split
    · refine (hP.buildFlowFrame cfg id _ _ _).bind fun frame => Heeds.get_bind fun s => ?_
      have hrest : Heeds P E (do
          Reactor.advanceProbe id now
          modify fun s =>
            { s with
              metrics := { s.metrics with tcpZeroWindowProbes := s.metrics.tcpZeroWindowProbes + 1 } } : Io Unit) :=
        (hP.advanceProbe id now).bind fun _ => Heeds.modify fun _ => hP.hidden _ _ rfl
      split
      · exact Heeds.set_bind (hP.hidden _ _ rfl) ((hP.releaseFrame _).bind fun _ => hrest)
      · exact (hP.queueTap cfg _ _ _).bind (fun _ => hrest) s
    · exact hP.advanceProbe id now
    · exact hP.advanceProbe id now
    · exact hP.throw trivial

theorem fetchSocketData (id : FlowId) (budget : ℕ) : Heeds P E (Reactor.fetchSocketData cfg id budget) := by
  induction budget with
  | zero => exact Heeds.pure _
  | succ budget ih =>
    refine Conduct.framesAvailable.bind fun frames => ?_
    split
    · exact hP.noteFramePoolExhaustion
    refine (Conduct.flowBusy id).bind fun busy => ?_
    cases busy with
    | true => exact Heeds.pure _
    | false =>
      refine (hP.flowEntry id).bind fun e => (hP.ensure _ (by simp [missingTexts])).bind fun sides => ?_
      dsimp only
      split
      · exact Heeds.pure _
      refine Heeds.get.bind fun s => ?_
      split
      · exact Heeds.modify fun _ => hP.hidden _ _ rfl
      refine (hP.peekSocketFrame cfg id _ _).bind fun peeked => ?_
      cases peeked with
      | eof =>
        refine (hP.flowEntry id).bind fun e => (hP.ensure _ (by simp [missingTexts])).bind fun plan => ?_
        exact (hP.buildFlowFrame cfg id _ _ _).bind fun _ => (hP.queueTap cfg _ _ _).bind fun _ => ih
      | data slot bytes =>
        refine (hP.flowEntry id).bind fun e => (hP.ensure _ (by simp [missingTexts])).bind fun plan => ?_
        refine Heeds.bind (hP.touch id _ fun _ => ⟨rfl, fun h => h⟩) fun _ => ?_
        exact (hP.finalizeFlowPayloadFrame cfg id _ _ _ _).bind fun _ => (hP.queueTap cfg _ _ _).bind fun _ => ih
      | wouldBlock => exact Heeds.pure _

theorem queueSynAck (id : FlowId) (plan : SendPlan) : Heeds P E (Reactor.queueSynAck cfg id plan) :=
  (hP.buildFlowFrame cfg id _ _ _).bind fun _ => hP.queueTap cfg _ _ _

theorem activateFlow (id : FlowId) : Heeds P E (Reactor.activateFlow cfg id) := by
  refine (hP.flowEntry id).bind fun _ => (hP.setPeekOffset id _).bind fun answer => ?_
  cases answer with
  | error e => exact hP.failTcpFlow cfg id
  | ok a =>
    refine (hP.ask _ _).bind fun answer => ?_
    cases answer with
    | error e => exact hP.failTcpFlow cfg id
    | ok a =>
      refine (hP.ask _ _).bind fun answer => ?_
      cases answer with
      | error e => exact hP.failTcpFlow cfg id
      | ok acked =>
        refine (hP.updateNamespaceWindow cfg id).bind fun _ => (hP.flowEntry id).bind fun e => ?_
        refine (Conduct.flowBusy id).bind fun busy => (hP.note rfl).bind fun _ => ?_
        refine Heeds.bind (hP.touch id _ fun _ => ⟨rfl, fun _ => rfl⟩) fun _ => ?_
        exact hP.noteFailure rfl (hP.queueSynAck cfg id _)

theorem failProxyHandshake (id : FlowId) : Heeds P E (Reactor.failProxyHandshake cfg id) :=
  Heeds.bind (Heeds.modify fun _ => hP.hidden _ _ rfl) fun _ => hP.failTcpFlow cfg id

theorem handshakeSent {id : FlowId} (hwide : Wide kin id) (h : Proxy.Handshake) (bytes : Bytes) :
    Heeds P E (Reactor.handshakeSent id h bytes) := hP.modifyEntry id _ fun _ => hwide _ _ ⟨rfl, fun h => h⟩

theorem flushProxyRounds {id : FlowId} (hwide : Wide kin id) (rounds : ℕ) :
    Heeds P E (Reactor.flushProxyRounds cfg id rounds) := by
  induction rounds with
  | zero => exact Heeds.pure _
  | succ rounds ih =>
    refine (hP.flowEntry id).bind fun e => (hP.expect _ (by simp [missingTexts])).bind fun h => ?_
    split
    · exact Heeds.pure _
    refine (hP.send _).bind fun answer => ?_
    split
    · exact hP.failProxyHandshake cfg id
    · obtain ⟨advanced, result⟩ := h.advanceOutput _
      refine (hP.handshakeSent hwide _ _).bind fun _ => ?_
      cases result with
      | ok a => exact ih
      | error e => exact hP.throw trivial
    · exact Heeds.pure _
    · exact hP.failProxyHandshake cfg id

theorem flushProxyOutput {id : FlowId} (hwide : Wide kin id) : Heeds P E (Reactor.flushProxyOutput cfg id) :=
  (hP.flowEntry id).bind fun _ => (hP.expect _ (by simp [missingTexts])).bind fun _ =>
    hP.flushProxyRounds cfg hwide _

theorem finishTransportConnect {id : FlowId} (hwide : Wide kin id) : Heeds P E (Reactor.finishTransportConnect cfg id) := by
  refine (hP.flowEntry id).bind fun _ => (hP.asked _ _).bind fun error => ?_
  split
  · exact hP.failTcpFlow cfg id
  refine Heeds.bind (hP.modifyEntry id _ fun _ => hwide _ _ ⟨rfl, fun h => h⟩) fun _ => (hP.flowEntry id).bind fun e => ?_
  split
  · exact hP.flushProxyOutput cfg hwide
  · exact hP.activateFlow cfg id

theorem continueHandshake {id : FlowId} (hwide : Wide kin id) : Heeds P E (Reactor.continueHandshake cfg id) := by
  refine (hP.flowEntry id).bind fun e => (hP.expect _ (by simp [missingTexts])).bind fun h => ?_
  split
  · exact Heeds.bind (hP.modifyEntry id _ fun _ => hwide _ _ ⟨rfl, fun h => h⟩) fun _ => Heeds.bind (Heeds.modify fun _ => hP.hidden _ _ rfl) fun _ =>
      hP.activateFlow cfg id
  · exact hP.flushProxyOutput cfg hwide

theorem receiveProxyInput {id : FlowId} (hwide : Wide kin id) : Heeds P E (Reactor.receiveProxyInput cfg id) := by
  refine (hP.flowEntry id).bind fun _ => (hP.peekSocket id _).bind fun answer => ?_
  split
  · exact Heeds.pure _
  · exact hP.failProxyHandshake cfg id
  · exact hP.failProxyHandshake cfg id
  · refine (hP.flowEntry id).bind fun e => (hP.expect _ (by simp [missingTexts])).bind fun h => ?_
    obtain ⟨received, result⟩ := h.receive _
    refine Heeds.bind (hP.modifyEntry id _ fun _ => hwide _ _ ⟨rfl, fun h => h⟩) fun _ => ?_
    split
    · exact hP.failProxyHandshake cfg id
    · exact hP.continueHandshake cfg hwide
    · refine (hP.discardSocket id _).bind fun answer => ?_
      cases answer with
      | error e => exact hP.failProxyHandshake cfg id
      | ok discarded =>
        dsimp only
        split
        · exact hP.failProxyHandshake cfg id
        · exact hP.continueHandshake cfg hwide

theorem consumeAckRefreshSuppression : Heeds P E Reactor.consumeAckRefreshSuppression := by
  refine Heeds.get_bind fun s => ?_
  split
  · exact Heeds.set_bind (hP.hidden _ _ rfl) (Heeds.pure _)
  · exact Tracks.pure _

theorem refreshUnlessSuppressed (id : FlowId) {k : Io Unit} (hk : Heeds P E k) :
    Heeds P E (do
      if ← Reactor.consumeAckRefreshSuppression then pure ()
      else
        let _ ← Reactor.refreshUpstreamAck cfg id
        pure ()
      k) := by
  refine hP.consumeAckRefreshSuppression.bind fun suppressed => ?_
  cases suppressed with
  | true => exact hk
  | false => exact (hP.refreshUpstreamAck cfg id).bind fun _ => hk

theorem handleStreamEvents {id : FlowId} (hwide : Wide kin id) (events : UInt32) :
    Heeds P E (Reactor.handleStreamEvents cfg id events) := by
  unfold Reactor.handleStreamEvents
  refine Heeds.when_bind (hP.flushSocketQueue cfg hwide) ?_
  refine hP.refreshUnlessSuppressed cfg id ?_
  split
  · exact hP.fetchSocketData cfg id _
  · exact Heeds.pure _

theorem handleHandshakeEvents {id : FlowId} (hwide : Wide kin id) (events : UInt32) :
    Heeds P E (Reactor.handleHandshakeEvents cfg id events) := by
  unfold Reactor.handleHandshakeEvents
  refine Heeds.when_bind (hP.flushProxyOutput cfg hwide) ?_
  refine (Conduct.flowIsClosed id).bind fun closed => ?_
  cases closed with
  | true => exact Heeds.pure _
  | false =>
    rw [if_neg Bool.false_ne_true]
    refine Heeds.when_bind (hP.receiveProxyInput cfg hwide) ?_
    refine (Conduct.flowIsClosed id).bind fun closed => ?_
    cases closed with
    | true => exact Heeds.pure _
    | false => exact Heeds.get.bind fun _ => Heeds.pure _

theorem handleErrorEvent (id : FlowId) (events : UInt32) : Heeds P E (Reactor.handleErrorEvent cfg id events) := by
  have hreset : Heeds P E (do Reactor.sendResetForFlow cfg id; Reactor.closeFlow cfg id; pure false : Io Bool) :=
    (hP.sendResetForFlow cfg id).bind fun _ => (hP.closeFlow cfg id).bind fun _ => Heeds.pure _
  unfold Reactor.handleErrorEvent
  split
  · refine (hP.flowEntry id).bind fun _ => (hP.asked _ _).bind fun error => ?_
    split
    · exact hreset
    refine (hP.asked _ _).bind fun drain => ?_
    split
    · exact hreset
    · exact Heeds.pure _
  · exact Heeds.pure _

theorem handleSocketEvents {id : FlowId} (hwide : Wide kin id) (events : UInt32) :
    Heeds P E (Reactor.handleSocketEvents cfg id events) := by
  refine (Conduct.flowIsClosed id).bind fun closed => ?_
  cases closed with
  | true => exact Heeds.pure _
  | false =>
    refine (hP.handleErrorEvent cfg id events).bind fun going => ?_
    cases going with
    | false => exact Heeds.pure _
    | true =>
      refine (hP.flowEntry id).bind fun e => Heeds.when_bind (hP.finishTransportConnect cfg hwide) ?_
      refine (Conduct.flowIsClosed id).bind fun closed => ?_
      cases closed with
      | true => exact Heeds.pure _
      | false =>
        refine (hP.flowEntry id).bind fun e => ?_
        split
        · refine (hP.handleHandshakeEvents cfg hwide events).bind fun going => ?_
          cases going with
          | true => exact hP.handleStreamEvents cfg hwide events
          | false => exact Heeds.pure _
        · exact hP.handleStreamEvents cfg hwide events

theorem handleSocket {id : FlowId} (hwide : Wide kin id) (events : UInt32) : Heeds P E (Reactor.handleSocket cfg id events) :=
  (hP.handleSocketEvents cfg hwide events).bind fun _ => hP.updateSocketInterest hwide

theorem queueAckRefresh (id : FlowId) : Heeds P E (Reactor.queueAckRefresh id) := by
  refine Heeds.modify fun s => ?_
  split
  · exact Std.Refl.refl s
  · exact hP.listed s id

theorem receiveSegment {id : FlowId} {segment : TcpSegment} (hreceived : ∀ e, kin id e (e.received segment).1) :
    Heeds P E (Reactor.receiveSegment id segment) := by
  refine Heeds.get_bind fun s => ?_
  cases hget : s.flows.get id with
  | none => exact hP.invariant (by simp [missingTexts]) s
  | some e =>
    refine Ends.bind (R := fun a t => e = a ∧ s = t) ⟨rfl, rfl⟩ ?_
    rintro _ _ ⟨rfl, rfl⟩
    refine Ends.bind (R := fun _ t => t.flows.get id = some e ∧ P s t)
      (Ends.modify ⟨hget, hP.noted s (.segment id e segment) rfl⟩) ?_
    rintro _ t ⟨hgett, ht⟩
    rcases hdisposition : e.received segment with ⟨received, disposition⟩
    have hkin : kin id e received := by
      have hkin := hreceived e
      rw [hdisposition] at hkin
      exact hkin
    refine Ends.bind (R := fun _ u => P s u) ?_ fun _ u hu => Tracks.after (P := P) (E := E) hu ?_
    · unfold Yayatht.modifyEntry Yayatht.flowEntry
      refine Ends.bind (R := fun _ u => t = u) ?_ ?_
      · exact Ends.get_bind (by rw [hgett]; exact Ends.pure rfl)
      rintro _ _ rfl
      exact Ends.modify (IsTrans.trans _ _ _ ht (hP.edited t id e _ hgett hkin))
    · split
      · exact Tracks.pure _
      · exact (hP.refreshWindowClamp id).bind (fun _ => (hP.ask _ _).bind fun now =>
          (hP.refreshZeroWindowProbe id now).bind fun _ => (hP.settleAcknowledgment id _).bind fun _ =>
            Heeds.pure _) u

theorem closeIfTimeWait (id : FlowId) : Heeds P E (Reactor.closeIfTimeWait cfg id) := by
  refine Heeds.get.bind fun s => ?_
  cases s.flows.get id with
  | none => exact Heeds.pure _
  | some e =>
    dsimp only
    split
    · exact (hP.note rfl).bind fun _ => hP.closeFlow cfg id
    · exact Heeds.pure _

theorem finishSegment (id : FlowId) : Heeds P E (Reactor.finishSegment cfg id) :=
  (hP.queueAckRefresh id).bind fun _ => hP.closeIfTimeWait cfg id

theorem handleExistingTcp {id : FlowId} (hwide : Wide kin id) {segment : TcpSegment}
    (hreceived : ∀ e, kin id e (e.received segment).1) : Heeds P E (Reactor.handleExistingTcp cfg id segment) := by
  refine (hP.flowEntry id).bind fun e => ?_
  split
  · exact Heeds.pure _
  split
  · exact hP.retransmitOldest cfg id false
  refine (hP.receiveSegment hreceived).bind fun disposition => ?_
  have hacked : Heeds P E (do Reactor.sendAck cfg id; Reactor.finishSegment cfg id : Io Unit) :=
    (hP.sendAckKind cfg id false).bind fun _ => hP.finishSegment cfg id
  cases disposition with
  | reset => exact hP.closeFlow cfg id
  | inOrder payloadLen fin =>
    have hfinish : ∀ delivered, Heeds P E (if delivered = true then (do
        if fin = true then
          Reactor.forwardFin id
          Reactor.sendFinAck cfg id
        else pure ()
        Reactor.finishSegment cfg id) else pure () : Io Unit) := by
      intro delivered
      cases delivered with
      | false => exact Heeds.pure _
      | true =>
        cases fin with
        | false => exact hP.finishSegment cfg id
        | true =>
          exact (hP.forwardFin id).bind fun _ => (hP.sendAckKind cfg id true).bind fun _ =>
            hP.finishSegment cfg id
    dsimp only
    split
    · exact (hP.submitNamespacePayload cfg hwide _).bind hfinish
    · exact hfinish true
  | duplicate => exact hacked
  | outOfOrder => exact hacked
  | outsideWindow => exact hacked
  | invalid => exact (hP.closeFlow cfg id).bind fun _ => hP.finishSegment cfg id

/-! ## Timers -/

theorem confirmTailRecovery (id : FlowId) : Heeds P E (Reactor.confirmTailRecovery cfg id) := by
  refine (hP.asked _ _).bind fun redrain => ?_
  split
  · exact hP.failTcpFlow cfg id
  split
  · exact Heeds.modify fun _ => hP.hidden _ _ rfl
  · exact Heeds.pure _

theorem watchdogRefresh (id : FlowId) (notified : Bool) : Heeds P E (Reactor.watchdogRefresh cfg id notified) := by
  refine (hP.refreshUpstreamAck cfg id).bind fun advanced => ?_
  cases advanced with
  | false => exact Heeds.pure _
  | true =>
    refine Heeds.bind (Heeds.modify fun _ => hP.hidden _ _ rfl) fun _ => ?_
    split
    · exact Heeds.pure _
    refine (Conduct.flowIsClosed id).bind fun closed => ?_
    cases closed with
    | true => exact Heeds.pure _
    | false =>
      refine (hP.flowEntry id).bind fun e => ?_
      split
      · exact Heeds.pure _
      · exact hP.confirmTailRecovery cfg id

theorem watchdogUpstreamAck (id : FlowId) : Heeds P E (Reactor.watchdogUpstreamAck cfg id) := by
  refine Conduct.framesAvailable.bind fun frames => ?_
  split
  · exact Heeds.pure _
  refine (Conduct.flowIsClosed id).bind fun closed => ?_
  cases closed with
  | true => exact Heeds.pure _
  | false =>
    refine (hP.flowEntry id).bind fun e => ?_
    split
    · exact Heeds.pure _
    refine (hP.asked _ _).bind fun drain => ?_
    split
    · exact hP.failTcpFlow cfg id
    · exact hP.watchdogRefresh cfg id _

theorem serviceProbe (id : FlowId) (now : Millis) : Heeds P E (Reactor.serviceProbe cfg id now) :=
  Heeds.get.bind fun _ => Heeds.when_bind (hP.sendZeroWindowProbe cfg id now) (hP.watchdogUpstreamAck cfg id)

theorem pressFlows (ids : List FlowId) : Heeds P E (Reactor.pressFlows cfg ids) := by
  induction ids with
  | nil => exact Heeds.pure _
  | cons id ids ih =>
    refine (Conduct.flowIsClosed id).bind fun closed => ?_
    cases closed with
    | true => exact ih
    | false =>
      refine Conduct.framesAvailable.bind fun frames => ?_
      split
      · exact hP.noteFramePoolExhaustion.bind fun _ => Heeds.modify fun _ => hP.hidden _ _ rfl
      refine (hP.updateNamespaceWindow cfg id).bind fun changed => ?_
      cases changed with
      | true => exact (hP.sendAckKind cfg id false).bind fun _ => ih
      | false => exact ih

theorem applyPendingPressure : Heeds P E (Reactor.applyPendingPressure cfg) := by
  refine Heeds.get_bind fun s => ?_
  split
  · exact Heeds.set_bind (hP.hidden _ _ rfl) (hP.pressFlows cfg _)
  · exact Tracks.pure _

theorem closeFlows (ids : List FlowId) : Heeds P E (Reactor.closeFlows cfg ids) := by
  induction ids with
  | nil => exact Heeds.pure _
  | cons id ids ih => exact (hP.closeFlow cfg id).bind fun _ => ih

/-! ## Replies to the namespace -/

theorem queueUdpFrame (client gateway : SocketAddr) (payload : Bytes) :
    Heeds P E (Reactor.queueUdpFrame cfg client gateway payload) := by
  refine (hP.note rfl).bind fun _ => Heeds.get_bind fun s => Heeds.set_bind (hP.hidden _ _ rfl) ?_
  cases s.framePool.acquire.2 with
  | none => exact hP.noteFramePoolExhaustion.bind fun _ => Heeds.pure _
  | some index =>
    dsimp only
    split
    · exact (hP.releaseFrame _).bind fun _ => hP.invariant (by simp [missingTexts])
    split
    · exact (hP.releaseFrame _).bind fun _ => hP.throw trivial
    split
    · exact (hP.releaseFrame _).bind fun _ => hP.throw trivial
    · exact (hP.queueTap cfg _ _ _).bind fun _ => Heeds.pure _

theorem queueUdpIcmpFor (key : Udp.FlowKey) (payload : Bytes) (originalLen : ℕ) (error : UdpError) :
    Heeds P E (Reactor.queueUdpIcmpFor cfg key payload originalLen error) := by
  refine Heeds.get_bind fun s => Heeds.set_bind (hP.hidden _ _ rfl) ?_
  cases s.framePool.acquire.2 with
  | none => exact hP.noteFramePoolExhaustion.bind fun _ => Heeds.modify fun _ => hP.hidden _ _ rfl
  | some index =>
    dsimp only
    split
    · exact (hP.releaseFrame _).bind fun _ => hP.throw trivial
    · exact Heeds.bind (Heeds.modify fun _ => hP.hidden _ _ rfl) fun _ => hP.queueTap cfg _ _ _

theorem handleArp (target : BitVec 32) : Heeds P E (Reactor.handleArp cfg target) := by
  unfold Reactor.handleArp
  split
  · exact hP.acquireFrame.bind fun _ => hP.queueTap cfg _ _ _
  · exact Heeds.pure _

theorem handleNeighborSolicitation (target source : BitVec 128) :
    Heeds P E (Reactor.handleNeighborSolicitation cfg target source) := by
  unfold Reactor.handleNeighborSolicitation
  split
  · exact hP.acquireFrame.bind fun _ => hP.queueTap cfg _ _ _
  · exact Heeds.pure _

theorem constructFlow (key : FlowKey) (targetSide : FlowSide) : Heeds P E (Reactor.constructFlow key targetSide) := by
  refine (hP.ensure _ (by simp [missingTexts])).bind fun _ => ?_
  refine (hP.ensure _ (by simp [missingTexts])).bind fun _ => ?_
  exact hP.ensure _ (by simp [missingTexts])
theorem handleControl : Heeds P E Reactor.handleControl := by
  refine (hP.ask _ _).bind fun answer => ?_
  split
  · exact Heeds.modify fun _ => hP.hidden _ _ rfl
  · exact Heeds.pure _
  · exact Heeds.pure _
  · exact Heeds.pure _
  · exact Heeds.modify fun _ => hP.hidden _ _ rfl
  · exact hP.throw trivial

end Conduct

namespace Rounds

variable {kin : FlowId → FlowEntry → FlowEntry → Prop} {E : Error → Prop} {P : Reactor → Reactor → Prop}
  [IsPreorder Reactor P] (hP : Rounds kin E P) (cfg : Config)
include hP

theorem serviceFlow (id : FlowId) (now : Millis) : Heeds P E (Reactor.serviceFlow cfg id now) := by
  refine (hP.flowEntry id).bind fun e => Heeds.bind (Heeds.modify fun s => hP.serviced s id e now) fun _ => ?_
  split
  · split
    · exact hP.failTcpFlow cfg id
    · exact (hP.retransmitOldest cfg id true).bind fun _ => hP.serviceProbe cfg id now
  · exact hP.serviceProbe cfg id now

theorem serviceFlows (now : Millis) (ids : List FlowId) : Heeds P E (Reactor.serviceFlows cfg now ids) := by
  induction ids with
  | nil => exact Heeds.pure _
  | cons id ids ih =>
    refine Conduct.framesAvailable.bind fun frames => ?_
    split
    · exact hP.noteFramePoolExhaustion.bind fun _ => Heeds.modify fun s => hP.scanned s id.slot
    · exact (hP.serviceFlow cfg id now).bind fun _ => ih

theorem handleFlowTimers (now : Millis) : Heeds P E (Reactor.handleFlowTimers cfg now) :=
  Heeds.get.bind fun _ => hP.serviceFlows cfg now _

end Rounds

end Yayatht
