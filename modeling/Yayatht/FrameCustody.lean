import Yayatht.ReactorDatagrams
import Yayatht.EffectLogic

set_option autoImplicit false

/-!
# Custody of frames

A frame is free, queued for the TAP, or held by the code that took it from its
pool. `Custody` collects what a predicate on states and held frames has to allow;
one walk over the TCP code then shows that every function returns with no frame
held, whatever the predicate says about the pools, the queue and the journal.
-/
namespace Yayatht
open EffectLogic Sequence

def frames (s : Reactor) : BufferPool × BufferPool × Bool × List QueuedFrame × List Notice :=
  (s.framePool, s.gsoPool, s.tapStarved, s.tapQueue, s.journal)

/-- Notices other than a dial and a lost frame. -/
def Notice.Ordinary : Notice → Prop
  | .dialed .. => False
  | .frameLost _ => False
  | _ => True

/-- What a predicate on states and the frames held outside of the pools and the queue allows. A
failure with no frame in hand is always allowed. -/
structure Custody (I : List FrameSlot → Reactor → Prop) (J : Error → Reactor → Prop) : Prop where
  hidden : ∀ {held s t}, I held s → frames t = frames s → I held t
  noted : ∀ {held s} n, Notice.Ordinary n → I held s → I held { s with journal := n :: s.journal }
  acquired : ∀ {held s index}, s.framePool.acquire.2 = some index → I held s →
    I (⟨.mtu, index⟩ :: held) { s with framePool := s.framePool.acquire.1 }
  dry : ∀ {held s}, s.framePool.acquire.2 = none → I held s →
    I held { s with framePool := s.framePool.acquire.1 }
  acquiredGso : ∀ {held s index}, s.gsoPool.acquire.2 = some index → I held s →
    I (⟨.gso, index⟩ :: held) { s with gsoPool := s.gsoPool.acquire.1 }
  dryGso : ∀ {held s}, s.gsoPool.acquire.2 = none → I held s →
    I held { s with gsoPool := s.gsoPool.acquire.1 }
  released : ∀ {held s} slot, I (slot :: held) s →
    Ends (Reactor.releaseFrame slot) s (fun _ t => I held t) fun _ _ => False
  pushed : ∀ {held s queued}, I (queued.frame.slot :: held) s →
    I held { s with tapQueue := s.tapQueue ++ [queued] }
  popped : ∀ {held s queued rest}, s.tapQueue = queued :: rest → I held s →
    I (queued.frame.slot :: held) { s with tapQueue := rest }
  purged : ∀ {held s} id, I held s →
    I ((s.tapQueue.filter fun queued => queued.flow = some id).map (·.frame.slot) ++ held)
      { s with tapQueue := s.tapQueue.filter fun queued => queued.flow ≠ some id }
  lost : ∀ {held s slot}, I (slot :: held) s → I held { s with journal := .frameLost slot :: s.journal }
  starved : ∀ {s}, s.framePool.available = 0 → s.tapQueue = [] → I [] s → I [] { s with tapStarved := true }
  failed : ∀ {s} e, I [] s → J e s
  marked : ∀ {e s} n, Notice.Ordinary n → J e s → J e { s with journal := n :: s.journal }

/-- The flow a plan belongs to can commit it. -/
def Commits (flows : FlowTable FlowEntry) (flow : Option FlowId) (plan : Option SendPlan) : Prop :=
  ∀ id p, flow = some id → plan = some p → ∃ e, flows.get id = some e ∧ e.commitMatches p = true

theorem commits_none {flows : FlowTable FlowEntry} {plan : Option SendPlan} : Commits flows none plan := by
  intro id p h
  cases h

theorem commits_unplanned {flows : FlowTable FlowEntry} {flow : Option FlowId} : Commits flows flow none := by
  intro id p _ h
  cases h

/-- Failures are allowed to keep frames. -/
def Wasteful (I : List FrameSlot → Reactor → Prop) (J : Error → Reactor → Prop) : Prop :=
  ∀ held s e, I held s → J e s

/-- A panic is allowed at any time. -/
def Panicky (I : List FrameSlot → Reactor → Prop) (J : Error → Reactor → Prop) : Prop :=
  ∀ held s text, I held s → J (.panic text) s

theorem noteFailure_ends {α : Type} {m : Io α} {notice : Notice} {s : Reactor} {Q : α → Reactor → Prop}
    {E F : Error → Reactor → Prop} (h : Ends m s Q E)
    (hE : ∀ e t, E e t → F e { t with journal := notice :: t.journal }) :
    Ends (noteFailure notice m) s Q F :=
  Ends.tryCatch h fun e t ht => hE e t ht

namespace Custody

variable {cfg : Config} {I : List FrameSlot → Reactor → Prop} {J : Error → Reactor → Prop}
  {held : List FrameSlot} {s : Reactor}

theorem flowIsClosed (id : FlowId) : Keeps (I held) J (flowIsClosed id) :=
  Keeps.get_bind fun _ hs => Ends.pure hs

theorem flowBusy (id : FlowId) : Keeps (I held) J (Reactor.flowBusy id) :=
  Keeps.get_bind fun _ hs => Ends.pure hs

theorem framesAvailable : Keeps (I held) J Reactor.framesAvailable :=
  Keeps.get_bind fun _ hs => Ends.pure hs

variable (hI : Custody I J)
include hI

theorem touch {f : Reactor → Reactor} (h : ∀ s, frames (f s) = frames s) :
    Keeps (I held) J (modify f : Io PUnit) := fun s hs => hI.hidden hs (h s)

theorem changed {f : Reactor → Reactor} (h : I held s) (hf : frames (f s) = frames s) :
    Ends (modify f : Io PUnit) s (fun _ t => I held t) J := hI.hidden h hf

theorem note (n : Notice) (h : n.Ordinary) : Keeps (I held) J (note n) := fun _ hs => hI.noted n h hs

theorem ask {α : Type} (answers : Kernel → Stream' α) (advance : Kernel → Kernel) :
    Keeps (I held) J (ask answers advance) := fun _ hs => hI.hidden hs rfl

theorem throw {α : Type} (e : Error) : Keeps (I []) J (throw e : Io α) := fun _ hs => hI.failed e hs

theorem orThrow {α : Type} (r : Except IoError α) : Keeps (I []) J (orThrow r) := by
  cases r with
  | ok a => exact Keeps.pure a
  | error e => exact hI.throw (.io e)

theorem asked {α : Type} (answers : Kernel → Stream' (Except IoError α)) (advance : Kernel → Kernel) :
    Keeps (I []) J (do Yayatht.orThrow (← Yayatht.ask answers advance)) :=
  Keeps.bind (hI.ask _ _) fun r => hI.orThrow r

theorem ensure {α : Type} (text : String) (o : Option α) : Keeps (I []) J (ensure text o) := by
  cases o with
  | some a => exact Keeps.pure a
  | none => exact hI.throw (.invariant text)

theorem expect {α : Type} (text : String) (o : Option α) : Keeps (I []) J (expect text o) := by
  cases o with
  | some a => exact Keeps.pure a
  | none => exact hI.throw (.panic text)

theorem epollModify : Keeps (I []) J Call.epollModify := hI.asked _ _

theorem epollDelete : Keeps (I []) J Call.epollDelete := hI.asked _ _

theorem send (length : ℕ) : Keeps (I held) J (Call.send length) :=
  Keeps.bind (hI.ask _ _) fun _ => Keeps.pure _

/-! ### Frames -/

theorem releaseFrame {slot : FrameSlot} (h : I (slot :: held) s) :
    Ends (Reactor.releaseFrame slot) s (fun _ t => I held t) J :=
  Ends.mono (hI.released slot h) (fun _ _ ht => ht) fun _ _ ht => ht.elim

theorem release_throw {α : Type} {slot : FrameSlot} (e : Error) {Q : α → Reactor → Prop} (h : I [slot] s) :
    Ends (Reactor.releaseFrame slot >>= fun _ => (MonadExcept.throw e : Io α)) s Q J :=
  Ends.bind (hI.releaseFrame h) fun _ _ ht => Ends.throw (hI.failed e ht)

theorem noteFramePoolExhaustion : Keeps (I held) J Reactor.noteFramePoolExhaustion := hI.touch fun _ => rfl

theorem acquireFrame (h : I [] s) :
    Ends Reactor.acquireFrame s (fun slot t => I [slot] t ∧ t.flows = s.flows) J := by
  unfold Reactor.acquireFrame
  refine Ends.get_bind ?_
  cases ha : s.framePool.acquire.2 with
  | some index =>
    refine Ends.bind (R := fun _ t => I [⟨.mtu, index⟩] t ∧ t.flows = s.flows) ⟨hI.acquired ha h, rfl⟩ ?_
    exact fun _ t ht => Ends.pure ht
  | none =>
    refine Ends.bind (R := fun _ t => I [] t) (hI.dry ha h) fun _ t ht => ?_
    refine Ends.bind ((hI.note _ (by trivial)) t ht) fun _ t ht => ?_
    exact Ends.bind (hI.noteFramePoolExhaustion t ht) fun _ t ht => Ends.throw (hI.failed _ ht)

theorem acquirePayloadFrame (required : ℕ) (h : I [] s) :
    Ends (Reactor.acquirePayloadFrame cfg required) s (fun slot t => I [slot] t) J := by
  unfold Reactor.acquirePayloadFrame
  refine Ends.get_bind ?_
  split
  · cases ha : s.gsoPool.acquire.2 with
    | some index =>
      refine Ends.bind (R := fun _ t => I [⟨.gso, index⟩] t) (hI.acquiredGso ha h) fun _ t ht => ?_
      exact Ends.pure ht
    | none =>
      refine Ends.bind (R := fun _ t => I [] t) (hI.dryGso ha h) fun _ t ht => ?_
      refine Ends.bind (R := fun _ t => I [] t) (Ends.modify (hI.hidden ht rfl)) fun _ t ht => ?_
      exact Ends.mono (hI.acquireFrame ht) (fun _ _ hu => hu.1) fun _ _ hu => hu
  · exact Ends.mono (hI.acquireFrame h) (fun _ _ hu => hu.1) fun _ _ hu => hu

theorem countTapTx : Keeps (I held) J Reactor.countTapTx := hI.touch fun _ => rfl

theorem countReset : Keeps (I held) J Reactor.countReset := hI.touch fun _ => rfl

theorem reserveRetainedBytes (length : ℕ) (h : I held s) :
    Ends (Reactor.reserveRetainedBytes cfg length) s (fun _ t => I held t ∧ t.flows = s.flows) J := by
  unfold Reactor.reserveRetainedBytes
  refine Ends.get_bind ?_
  split
  · exact ⟨hI.hidden h rfl, rfl⟩
  · exact ⟨hI.hidden h rfl, rfl⟩

theorem releaseRetainedBytes (length : ℕ) : Keeps (I held) J (Reactor.releaseRetainedBytes length) :=
  fun _ h => hI.hidden (hI.noted (.retainedReleased length _) trivial h) rfl

theorem updateTapInterest : Keeps (I []) J Reactor.updateTapInterest := by
  refine Keeps.get_bind fun s h => ?_
  split
  · rename_i hdry
    refine Ends.bind (R := fun _ t => I [] t) (hI.starved hdry.1 hdry.2 h) fun _ t ht => ?_
    exact Ends.throw (hI.failed _ ht)
  · exact hI.epollModify s h

theorem pushTapQueue (queued : QueuedFrame) (h : I [queued.frame.slot] s) :
    Ends (Reactor.pushTapQueue queued) s (fun _ t => I [] t) J :=
  Ends.bind (R := fun _ t => I [] t) (Ends.modify (hI.pushed h)) fun _ t ht => hI.updateTapInterest t ht

theorem injectedDrop (plan : Option SendPlan) (h : I held s) :
    Ends (Reactor.injectedDrop plan) s (fun _ t => I held t ∧ t.flows = s.flows) J := by
  unfold Reactor.injectedDrop
  refine Ends.get_bind ?_
  cases plan with
  | none => exact ⟨h, rfl⟩
  | some plan =>
    dsimp only
    repeat' split
    all_goals exact ⟨hI.hidden h rfl, rfl⟩

theorem abandonFrame (flow : Option FlowId) (frame : PooledFrame) (plan : Option SendPlan) (reserved : ℕ)
    (h : I [frame.slot] s) : Ends (Reactor.abandonFrame flow frame plan reserved) s (fun _ t => I [] t) J := by
  refine Ends.bind ((hI.note _ (by trivial)) s h) fun _ t ht => ?_
  refine Ends.bind (hI.releaseRetainedBytes reserved t ht) fun _ t ht => ?_
  exact hI.releaseFrame ht

theorem modifyEntry_found {id : FlowId} {e : FlowEntry} (hget : s.flows.get id = some e)
    (f : FlowEntry → FlowEntry) (h : I held s) :
    Ends (Yayatht.modifyEntry id f) s (fun _ t => I held t ∧ t.flows = s.flows.modify id f) J := by
  unfold Yayatht.modifyEntry Yayatht.flowEntry
  rw [bind_assoc]
  refine Ends.get_bind ?_
  rw [hget]
  exact ⟨hI.hidden h rfl, rfl⟩

theorem commitPlan {id : FlowId} {plan : SendPlan} (h : I held s)
    (hc : (∃ e, s.flows.get id = some e ∧ e.commitMatches plan = true) ∨ Wasteful I J) :
    Ends (Reactor.commitPlan id plan) s (fun _ t => I held t) J := by
  unfold Reactor.commitPlan
  refine Ends.get_bind ?_
  cases hget : s.flows.get id with
  | none =>
    obtain ⟨e, he, -⟩ | hwaste := hc
    · rw [hget] at he
      cases he
    · refine Ends.bind ((hI.note _ (by trivial)) s h) fun _ t ht => Ends.throw (hwaste _ _ _ ht)
  | some e =>
    dsimp only
    split
    · refine Ends.bind (R := fun _ t => I held t ∧ t.flows = s.flows) ⟨hI.hidden h rfl, rfl⟩ ?_
      rintro now t ⟨ht, hflows⟩
      exact Ends.mono (hI.modifyEntry_found (hflows ▸ hget) _ ht) (fun _ _ hu => hu.1) fun _ _ hu => hu
    · rename_i hmatch
      obtain ⟨f, hf, hok⟩ | hwaste := hc
      · rw [hget] at hf
        cases hf
        exact absurd hok hmatch
      · refine Ends.bind (hI.modifyEntry_found hget _ h) fun _ t ht => ?_
        exact Ends.bind ((hI.note _ (by trivial)) t ht.1) fun _ t ht => Ends.throw (hwaste _ _ _ ht)

theorem commitTapSend {flow : Option FlowId} {frame : PooledFrame} {plan : Option SendPlan}
    (h : I [frame.slot] s) (hc : Commits s.flows flow plan ∨ Wasteful I J) :
    Ends (Reactor.commitTapSend flow frame plan) s (fun _ t => I [] t) J := by
  unfold Reactor.commitTapSend
  cases flow with
  | none => exact hI.releaseFrame h
  | some id =>
    cases plan with
    | none => exact hI.releaseFrame h
    | some plan =>
      refine Ends.bind (hI.commitPlan h (hc.imp_left fun hc => hc id plan rfl rfl)) fun _ t ht => ?_
      exact hI.releaseFrame ht

theorem queueTap {flow : Option FlowId} {frame : PooledFrame} {plan : Option SendPlan}
    (h : I [frame.slot] s) (hc : Commits s.flows flow plan ∨ Wasteful I J) :
    Ends (Reactor.queueTap cfg flow frame plan) s (fun _ t => I [] t) J := by
  unfold Reactor.queueTap
  refine Ends.bind (hI.reserveRetainedBytes _ h) ?_
  rintro reserved t ⟨ht, hflows⟩
  rw [← hflows] at hc
  cases reserved with
  | false => exact hI.release_throw _ ht
  | true =>
    refine Ends.get_bind ?_
    split
    · refine Ends.bind (hI.injectedDrop plan ht) ?_
      rintro dropped u ⟨hu, hflows⟩
      rw [← hflows] at hc
      cases dropped with
      | true => exact hI.commitTapSend hu hc
      | false =>
        refine Ends.bind (R := fun _ t => I [frame.slot] t ∧ t.flows = u.flows) ⟨hI.hidden hu rfl, rfl⟩ ?_
        rintro answer v ⟨hv, hflows⟩
        rw [← hflows] at hc
        split
        · split
          · refine Ends.bind (R := fun _ t => I [frame.slot] t ∧ t.flows = v.flows) ⟨hI.hidden hv rfl, rfl⟩ ?_
            rintro _ w ⟨hw, hflows⟩
            rw [← hflows] at hc
            exact hI.commitTapSend hw hc
          · exact Ends.bind (hI.abandonFrame _ _ _ _ hv) fun _ _ hw => Ends.throw (hI.failed _ hw)
        · exact hI.pushTapQueue _ hv
        · exact Ends.bind (hI.abandonFrame _ _ _ _ hv) fun _ _ hw => Ends.throw (hI.failed _ hw)
    · exact hI.pushTapQueue _ ht

theorem queueUdpFrame (client gateway : SocketAddr) (payload : Bytes) :
    Keeps (I []) J (Reactor.queueUdpFrame cfg client gateway payload) := by
  unfold Reactor.queueUdpFrame
  refine Keeps.bind (hI.note _ (by trivial)) fun _ => Keeps.get_bind fun s h => ?_
  cases ha : s.framePool.acquire.2 with
  | none =>
    refine Ends.bind (R := fun _ t => I [] t) (hI.dry ha h) fun _ t ht => ?_
    exact Ends.bind (hI.noteFramePoolExhaustion t ht) fun _ _ ht => Ends.pure ht
  | some index =>
    refine Ends.bind (R := fun _ t => I [⟨.mtu, index⟩] t) (hI.acquired ha h) fun _ t ht => ?_
    dsimp only
    split
    · exact hI.release_throw _ ht
    split
    · exact hI.release_throw _ ht
    split
    · exact hI.release_throw _ ht
    · exact Ends.bind (hI.queueTap ht (.inl commits_none)) fun _ _ ht => Ends.pure ht

theorem queueUdpIcmpFor (key : Udp.FlowKey) (payload : Bytes) (originalLen : ℕ) (error : UdpError) :
    Keeps (I []) J (Reactor.queueUdpIcmpFor cfg key payload originalLen error) := by
  unfold Reactor.queueUdpIcmpFor
  refine Keeps.get_bind fun s h => ?_
  cases ha : s.framePool.acquire.2 with
  | none =>
    refine Ends.bind (R := fun _ t => I [] t) (hI.dry ha h) fun _ t ht => ?_
    exact Ends.bind (hI.noteFramePoolExhaustion t ht) fun _ _ ht => hI.changed ht rfl
  | some index =>
    refine Ends.bind (R := fun _ t => I [⟨.mtu, index⟩] t) (hI.acquired ha h) fun _ t ht => ?_
    dsimp only
    split
    · exact hI.release_throw _ ht
    · exact Ends.bind (hI.changed ht rfl) fun _ _ ht => hI.queueTap ht (.inl commits_none)

end Custody

/-! ### Sockets -/

theorem frames_flowEntry (id : FlowId) : Inert frames (flowEntry id) := by
  refine Inert.bind Inert.get fun s => ?_
  cases s.flows.get id with
  | some e => exact Inert.pure e
  | none => exact Inert.throw (Error.panic _)

theorem frames_modifyEntry (id : FlowId) (f : FlowEntry → FlowEntry) : Inert frames (modifyEntry id f) :=
  (frames_flowEntry id).bind fun _ => Inert.modify fun _ => rfl

theorem frames_setPeekOffset (id : FlowId) (offset : ℕ) : Inert frames (setPeekOffset id offset) := by
  refine Inert.bind (fun _ => (rfl : frames _ = frames _)) fun answer => ?_
  cases answer with
  | ok _ => exact (frames_modifyEntry id _).bind fun _ => Inert.pure _
  | error e => exact Inert.pure _

theorem frames_orThrow {α : Type} (r : Except IoError α) : Inert frames (orThrow r) := by
  cases r with
  | ok a => exact Inert.pure a
  | error e => exact Inert.throw (Error.io e)

/-- The frame the function found a use for. -/
def PeekedFrame.slots : PeekedFrame → List FrameSlot
  | .data slot _ => [slot]
  | .eof => []
  | .wouldBlock => []

namespace Custody

variable {cfg : Config} {I : List FrameSlot → Reactor → Prop} {J : Error → Reactor → Prop}
  {held : List FrameSlot} {s : Reactor}

theorem flowFrameParameters (id : FlowId) (syn : Bool) :
    Ends (Reactor.flowFrameParameters id syn) s (fun _ t => t = s) fun _ t => t = s := by
  unfold Reactor.flowFrameParameters
  refine Ends.get_bind ?_
  cases s.flows.get id with
  | none => exact Ends.throw rfl
  | some e =>
    refine Ends.bind (R := fun _ t => t = s) (Ends.pure rfl) ?_
    rintro e _ rfl
    cases e.construction.activeSides with
    | none => exact Ends.throw rfl
    | some sides => exact rfl

variable (hP : Panicky I J)
include hP

theorem flowEntry (id : FlowId) : Keeps (I held) J (flowEntry id) := by
  refine Keeps.get_bind fun s h => ?_
  cases s.flows.get id with
  | some e => exact Ends.pure h
  | none => exact Ends.throw (hP _ _ _ h)

variable (hI : Custody I J)
include hI

theorem modifyEntry (id : FlowId) (f : FlowEntry → FlowEntry) : Keeps (I held) J (modifyEntry id f) :=
  Keeps.bind (Custody.flowEntry hP id) fun _ => hI.touch fun _ => rfl

theorem setPeekOffset (id : FlowId) (offset : ℕ) : Keeps (I held) J (setPeekOffset id offset) := by
  refine Keeps.bind (hI.ask _ _) fun answer => ?_
  cases answer with
  | ok _ => exact Keeps.bind (hI.modifyEntry hP id _) fun _ => Keeps.pure _
  | error e => exact Keeps.pure _

theorem peekSocket (id : FlowId) (capacity : ℕ) : Keeps (I held) J (peekSocket id capacity) := by
  refine Keeps.bind (hI.ask _ _) fun answer => ?_
  cases answer with
  | ok inflow =>
    refine Keeps.bind (Custody.flowEntry hP id) fun e => ?_
    exact Keeps.bind (hI.modifyEntry hP id _) fun _ => Keeps.pure _
  | error e => exact Keeps.pure _

theorem discardSocket (id : FlowId) (asked : ℕ) : Keeps (I held) J (discardSocket id asked) := by
  refine Keeps.bind (hI.ask _ _) fun answer => ?_
  cases answer with
  | ok inflow =>
    refine Keeps.bind (Custody.flowEntry hP id) fun e => ?_
    exact Keeps.bind (hI.modifyEntry hP id _) fun _ => Keeps.pure _
  | error e => exact Keeps.pure _

theorem shutdownWrite (id : FlowId) : Keeps (I []) J (shutdownWrite id) := by
  refine Keeps.bind (hI.ask _ _) fun answer => Keeps.bind (hI.note _ (by trivial)) fun _ => ?_
  cases answer with
  | ok _ => exact hI.modifyEntry hP id _
  | error e => exact hI.throw _

/-! ### Built frames -/

theorem finalizeTcpFrame {slot : FrameSlot} (spec : TcpFrameSpec) (payload : Bytes) (h : I [slot] s) :
    Ends (Reactor.finalizeTcpFrame cfg slot spec payload) s
      (fun frame t => I [frame.slot] t ∧ t.flows = s.flows) J := by
  unfold Reactor.finalizeTcpFrame
  dsimp only
  split
  · exact Ends.throw (hP _ _ _ h)
  split
  · exact hI.release_throw _ h
  · refine Ends.bind (R := fun _ t => I [slot] t ∧ t.flows = s.flows) (Ends.modify ?_) fun _ t ht => Ends.pure ht
    split
    · exact ⟨hI.hidden h rfl, rfl⟩
    · exact ⟨h, rfl⟩

theorem buildTcpFrame (key : FlowKey) (plan : SendPlan) (payload : Bytes) (flags : TcpFlags)
    (mss windowScale : Option ℕ) (window : ℕ) (h : I [] s) :
    Ends (Reactor.buildTcpFrame cfg key plan payload flags mss windowScale window) s
      (fun frame t => I [frame.slot] t ∧ t.flows = s.flows) J := by
  unfold Reactor.buildTcpFrame
  refine Ends.bind (hI.acquireFrame h) ?_
  rintro slot t ⟨ht, hflows⟩
  split
  · exact hI.release_throw _ ht
  · rw [← hflows]
    exact hI.finalizeTcpFrame hP _ payload ht

theorem buildFlowFrame (id : FlowId) (plan : SendPlan) (payload : Bytes) (flags : TcpFlags) (h : I [] s) :
    Ends (Reactor.buildFlowFrame cfg id plan payload flags) s
      (fun frame t => I [frame.slot] t ∧ t.flows = s.flows) J := by
  unfold Reactor.buildFlowFrame
  refine Ends.bind (Ends.mono (Custody.flowFrameParameters id flags.syn) (fun _ _ ht => ht) ?_) ?_
  · rintro _ _ rfl
    exact hI.failed _ h
  rintro ⟨key, e, window⟩ u rfl
  refine Ends.bind (hI.buildTcpFrame hP _ _ _ _ _ _ _ h) ?_
  rintro frame t ⟨ht, hflows⟩
  exact Ends.bind (R := fun _ v => I [frame.slot] v ∧ v.flows = u.flows)
    ⟨hI.noted (.built id e frame.body) trivial ht, hflows⟩ fun _ _ hu => Ends.pure hu

theorem finalizeFlowPayloadFrame (id : FlowId) {slot : FrameSlot} (plan : SendPlan) (flags : TcpFlags)
    (payload : Bytes) (h : I [slot] s) :
    Ends (Reactor.finalizeFlowPayloadFrame cfg id slot plan flags payload) s
      (fun frame t => I [frame.slot] t) J := by
  unfold Reactor.finalizeFlowPayloadFrame
  refine Ends.bind (R := fun _ t => t = s) (Ends.tryCatch (Custody.flowFrameParameters id false) ?_) ?_
  · rintro error _ rfl
    exact hI.release_throw _ h
  rintro ⟨key, e, window⟩ _ rfl
  refine Ends.bind (hI.finalizeTcpFrame hP _ payload h) fun frame t ht => ?_
  exact Ends.bind ((hI.note _ (by trivial)) t ht.1) fun _ _ hu => Ends.pure hu

theorem sendResetForFlow (id : FlowId) : Keeps (I []) J (Reactor.sendResetForFlow cfg id) := by
  refine Keeps.bind (Custody.flowEntry hP id) fun e => Keeps.bind (hI.ensure _ _) fun sides s h => ?_
  refine Ends.bind (hI.buildTcpFrame hP _ _ _ _ _ _ _ h) fun frame t ht => ?_
  refine Ends.bind ((hI.note _ (by trivial)) t ht.1) fun _ t ht => ?_
  refine Ends.bind (hI.countReset t ht) fun _ t ht => ?_
  exact hI.queueTap ht (.inl commits_none)

theorem refuseSyn (key : FlowKey) (sequence : Seq) : Keeps (I []) J (Reactor.refuseSyn cfg key sequence) := by
  intro s h
  refine Ends.bind (hI.buildTcpFrame hP _ _ _ _ _ _ _ h) fun frame t ht => ?_
  refine Ends.bind (hI.countReset t ht.1) fun _ t ht => ?_
  exact hI.queueTap ht (.inl commits_none)

theorem sendAckKind (id : FlowId) (finAck : Bool) : Keeps (I []) J (Reactor.sendAckKind cfg id finAck) := by
  unfold Reactor.sendAckKind
  refine Keeps.bind (Custody.flowEntry hP id) fun e s h => ?_
  refine Ends.bind (hI.buildFlowFrame hP id _ _ _ h) ?_
  rintro frame t ⟨ht, -⟩
  refine Ends.get_bind ?_
  split
  · refine Ends.bind (R := fun _ u => I [frame.slot] u) (hI.hidden ht rfl) fun _ u hu => ?_
    exact hI.releaseFrame hu
  · exact hI.queueTap ht (.inl commits_none)

theorem peekSocketFrame (id : FlowId) (offset capacity : ℕ) (h : I [] s) :
    Ends (Reactor.peekSocketFrame cfg id offset capacity) s (fun peeked t => I peeked.slots t) J := by
  unfold Reactor.peekSocketFrame
  refine Ends.bind (Custody.flowEntry hP id s h) fun e t ht => ?_
  refine Ends.bind (hI.ensure _ _ t ht) fun sides t ht => ?_
  dsimp only
  split
  · exact Ends.throw (hI.failed _ ht)
  refine Ends.bind (hI.acquirePayloadFrame _ ht) fun slot t ht => ?_
  -- a failed call leaves the frame with nobody
  refine Ends.bind (R := fun _ u => I [slot] u) (noteFailure_ends (E := fun _ u => I [slot] u) ?_ ?_) ?_
  · have hinert : Inert frames (do Yayatht.orThrow (← Yayatht.setPeekOffset id offset)) :=
      (frames_setPeekOffset id offset).bind frames_orThrow
    exact Ends.mono (hinert t) (fun _ _ hu => hI.hidden ht hu) fun _ _ hu => hI.hidden ht hu
  · exact fun e u hu => hI.failed e (hI.lost hu)
  intro _ u hu
  refine Ends.bind (hI.peekSocket hP id _ u hu) fun answer u hu => ?_
  split
  · refine Ends.bind (hI.releaseFrame hu) fun _ v hv => Ends.pure ?_
    split <;> exact hv
  · exact Ends.pure hu
  · exact Ends.bind (hI.releaseFrame hu) fun _ v hv => Ends.pure hv
  · exact hI.release_throw _ hu

end Custody

end Yayatht
