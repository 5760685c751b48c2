import Yayatht.PendingLedger
import Yayatht.PoolConservation

set_option autoImplicit false

/-!
# What becomes of accepted payload

`receive` moves the receive point first; then the window clamp is set, acknowledged bytes
are taken off the socket and the payload is offered to it, and each of these may end
the handler. The payload is kept when the socket and the queue have all of it, or when
the flow is reset and closed.
-/
namespace Yayatht
open EffectLogic Sequence

namespace Reactor

/-- The bytes of a flow that wait for its socket, and those the socket took. -/
def carried (id : FlowId) (s : Reactor) : Option (PendingSocketQueue × Bytes) :=
  (s.flows.get id).map fun e => (e.pendingSocket, e.socket.payloadSent)

/-- What the handler finds when it comes to submit. -/
def surroundings (id : FlowId) (s : Reactor) :=
  ((s.flows.get id).map fun e => (e.pendingSocket, e.socket.payloadSent, e.construction),
    s.flows.deferred, s.pendingSocketBytes, s.framePool, s.tapQueue, s.metrics.tcpResets,
    s.kernel.send, s.kernel.tapWrite, s.kernel.epollModify, s.kernel.epollDelete)

end Reactor

/-- The clamp is set and the acknowledged bytes are taken off the socket. -/
def Settles (s : Reactor) (e : FlowEntry) (segment : TcpSegment) : Prop :=
  let f := (e.received segment).1.flow
  let acked := f.newlyAckedPayload e.flow.localUnacked
  (e.upstreamWindowClamp = some f.peerWindow ∨ s.kernel.windowClamp.head = .ok ()) ∧
    (f.localUnacked = e.flow.localUnacked ∨ acked = 0 ∨
      ∃ inflow, s.kernel.discard.head = .ok inflow ∧ (e.socket.discard inflow acked).2 = .ok acked)

section Receive
open Reactor

variable {s t : Reactor} {id : FlowId} {e f : FlowEntry}

theorem surroundings_modify (hget : s.flows.get id = some e) (g : FlowEntry → FlowEntry)
    (hqueue : (g e).pendingSocket = e.pendingSocket) (hsent : (g e).socket.payloadSent = e.socket.payloadSent)
    (hconstruction : (g e).construction = e.construction) :
    surroundings id { s with flows := s.flows.modify id g } = surroundings id s := by
  unfold surroundings
  dsimp only
  rw [FlowTable.get_modify_self, hget, FlowTable.modify_deferred]
  simp only [Option.map_some, hqueue, hsent, hconstruction]

/-- The entry has the flow and the socket of `e` still. -/
structure Going (id : FlowId) (e : FlowEntry) (s t : Reactor) : Prop where
  entry : ∃ f, t.flows.get id = some f ∧ f.flow = e.flow ∧ f.socket = e.socket
  discard : t.kernel.discard = s.kernel.discard
  around : surroundings id t = surroundings id s

theorem Going.modify (h : Going id e s t) {f : FlowEntry} (hget : t.flows.get id = some f) (hflow : f.flow = e.flow)
    (hsocket : f.socket = e.socket) {g : FlowEntry → FlowEntry} (hqueue : (g f).pendingSocket = f.pendingSocket)
    (hconstruction : (g f).construction = f.construction) (hgflow : (g f).flow = f.flow)
    (hgsocket : (g f).socket = f.socket) : Going id e s { t with flows := t.flows.modify id g } := by
  refine ⟨⟨g f, ?_, hgflow.trans hflow, hgsocket.trans hsocket⟩, h.discard, ?_⟩
  · dsimp only
    rw [FlowTable.get_modify_self, hget]
    rfl
  · rw [surroundings_modify hget g hqueue (by rw [hgsocket]) hconstruction]
    exact h.around

theorem refreshWindowClamp_going (h : Going id e s t) {f : FlowEntry} (hget : t.flows.get id = some f)
    (hflow : f.flow = e.flow) (hsocket : f.socket = e.socket) (hclamp : f.upstreamWindowClamp = e.upstreamWindowClamp)
    (hanswer : t.kernel.windowClamp = s.kernel.windowClamp) :
    Ends (refreshWindowClamp id) t
      (fun _ u => (e.upstreamWindowClamp = some e.flow.peerWindow ∨ s.kernel.windowClamp.head = .ok ()) ∧ Going id e s u)
      fun _ u => ¬(e.upstreamWindowClamp = some e.flow.peerWindow ∨ s.kernel.windowClamp.head = .ok ()) ∧
        surroundings id u = surroundings id s := by
  unfold refreshWindowClamp
  refine Ends.bind (Ends.mono (flowEntry_ends hget) (fun _ _ h => h) fun _ _ h => h.elim) ?_
  rintro _ _ ⟨rfl, rfl⟩
  rw [hclamp, hflow]
  split
  · rename_i hset
    exact Ends.pure ⟨.inl hset, h⟩
  · rename_i hunset
    refine Ends.bind (R := fun answer u => answer = s.kernel.windowClamp.head ∧ u.flows = t.flows ∧
      u.kernel.discard = t.kernel.discard ∧ surroundings id u = surroundings id t) ?_ ?_
    · refine ⟨?_, rfl, rfl, rfl⟩
      change t.kernel.windowClamp.head = _
      rw [hanswer]
    rintro answer u ⟨rfl, hflows, hdiscard, haround⟩
    refine Ends.bind (R := fun _ v => v.flows = t.flows ∧ v.kernel.discard = t.kernel.discard ∧
      surroundings id v = surroundings id t) (Ends.modify ⟨hflows, hdiscard, haround⟩) ?_
    rintro _ v ⟨hflows, hdiscard, haround⟩
    cases hhead : s.kernel.windowClamp.head with
    | error error =>
      refine Ends.throw ⟨?_, haround.trans h.around⟩
      rintro (hset | hok)
      · exact hunset hset
      · cases hok
    | ok a =>
      refine Ends.bind (R := fun _ w => v = w) (Ends.pure rfl) ?_
      rintro _ _ rfl
      have hgetv : v.flows.get id = some f := by
        rw [hflows]
        exact hget
      have hgoing : Going id e s v := ⟨⟨f, hgetv, hflow, hsocket⟩, hdiscard.trans h.discard, haround.trans h.around⟩
      refine Ends.mono (modifyEntry_ends hgetv _) ?_ fun _ _ h => h.elim
      rintro _ _ rfl
      exact ⟨.inr rfl, hgoing.modify hgetv hflow hsocket rfl rfl rfl rfl⟩

theorem probed_fields (f : FlowEntry) (now : Millis) : (f.probed now).pendingSocket = f.pendingSocket ∧
    (f.probed now).construction = f.construction ∧ (f.probed now).flow = f.flow ∧
    (f.probed now).socket = f.socket := by
  unfold FlowEntry.probed
  split <;> exact ⟨rfl, rfl, rfl, rfl⟩

theorem refreshZeroWindowProbe_going (h : Going id e s t) (now : Millis) :
    Ends (refreshZeroWindowProbe id now) t (fun _ u => Going id e s u) fun _ _ => False := by
  obtain ⟨f, hget, hflow, hsocket⟩ := h.entry
  obtain ⟨hqueue, hconstruction, hpflow, hpsocket⟩ := probed_fields f now
  unfold refreshZeroWindowProbe
  refine Ends.bind (flowEntry_ends hget) ?_
  rintro _ _ ⟨rfl, rfl⟩
  refine Ends.bind (modifyEntry_ends hget _) ?_
  rintro _ _ rfl
  have hgoing := h.modify hget hflow hsocket (g := fun e => e.probed now) hqueue hconstruction hpflow hpsocket
  refine Ends.modify ?_
  dsimp only
  split <;> exact ⟨hgoing.entry, hgoing.discard, hgoing.around⟩

theorem payloadSent_discard (socket : Socket) (inflow : Inflow) (asked : ℕ) :
    (socket.discard inflow asked).1.payloadSent = socket.payloadSent := by
  have harrive : (socket.arrive inflow).payloadSent = socket.payloadSent := by
    unfold Socket.arrive
    split <;> rfl
  unfold Socket.discard
  dsimp only
  split
  · exact harrive
  · exact harrive

/-- What a discard of `asked` bytes returns. -/
def discardAnswer (s : Reactor) (e : FlowEntry) (asked : ℕ) : Except IoError ℕ :=
  match s.kernel.discard.head with
  | .ok inflow => (e.socket.discard inflow asked).2
  | .error error => .error error

theorem discardAnswer_eq_ok {asked count : ℕ} : discardAnswer s e asked = .ok count ↔
    ∃ inflow, s.kernel.discard.head = .ok inflow ∧ (e.socket.discard inflow asked).2 = .ok count := by
  unfold discardAnswer
  cases s.kernel.discard.head with
  | ok inflow => simp
  | error error => simp

theorem discardSocket_going (h : Going id e s t) (asked : ℕ) :
    Ends (discardSocket id asked) t
      (fun answer u => answer = discardAnswer s e asked ∧ (∃ g, u.flows.get id = some g) ∧
        surroundings id u = surroundings id s)
      fun _ _ => False := by
  obtain ⟨f, hget, hflow, hsocket⟩ := h.entry
  unfold discardSocket
  refine Ends.bind (R := fun answer u => answer = s.kernel.discard.head ∧ u.flows = t.flows ∧
    surroundings id u = surroundings id s) ⟨?_, rfl, h.around⟩ ?_
  · change t.kernel.discard.head = _
    rw [h.discard]
  rintro _ u ⟨rfl, hflows, haround⟩
  have hgetu : u.flows.get id = some f := by
    rw [hflows]
    exact hget
  unfold discardAnswer
  cases s.kernel.discard.head with
  | error error => exact Ends.pure ⟨rfl, ⟨f, hgetu⟩, haround⟩
  | ok inflow =>
    refine Ends.bind (flowEntry_ends hgetu) ?_
    rintro _ _ ⟨rfl, rfl⟩
    refine Ends.bind (modifyEntry_ends hgetu _) ?_
    rintro _ _ rfl
    refine Ends.pure ⟨congrArg (fun socket => (Socket.discard socket inflow asked).2) hsocket, ⟨{ f with socket := (f.socket.discard inflow asked).1 }, ?_⟩, ?_⟩
    · dsimp only
      rw [FlowTable.get_modify_self, hgetu]
      rfl
    · exact (surroundings_modify hgetu _ rfl (payloadSent_discard _ _ _) rfl).trans haround

theorem settleAcknowledgment_going (h : Going id e s t) (previousAck : Seq) :
    Ends (settleAcknowledgment id previousAck) t
      (fun _ u => (e.flow.localUnacked = previousAck ∨ e.flow.newlyAckedPayload previousAck = 0 ∨
          ∃ inflow, s.kernel.discard.head = .ok inflow ∧
            (e.socket.discard inflow (e.flow.newlyAckedPayload previousAck)).2 =
              .ok (e.flow.newlyAckedPayload previousAck)) ∧
        surroundings id u = surroundings id s)
      fun _ u => ¬(e.flow.localUnacked = previousAck ∨ e.flow.newlyAckedPayload previousAck = 0 ∨
          ∃ inflow, s.kernel.discard.head = .ok inflow ∧
            (e.socket.discard inflow (e.flow.newlyAckedPayload previousAck)).2 =
              .ok (e.flow.newlyAckedPayload previousAck)) ∧
        surroundings id u = surroundings id s := by
  obtain ⟨f, hget, hflow, hsocket⟩ := h.entry
  unfold settleAcknowledgment
  refine Ends.bind (Ends.mono (flowEntry_ends hget) (fun _ _ h => h) fun _ _ h => h.elim) ?_
  rintro _ _ ⟨rfl, rfl⟩
  rw [hflow]
  split
  · rename_i hsame
    exact Ends.pure ⟨.inl hsame, h.around⟩
  · rename_i hmoved
    dsimp only
    generalize hacked : e.flow.newlyAckedPayload previousAck = acked
    -- the segments are trimmed in the end
    have htrim : ∀ {u : Reactor} {g : FlowEntry} {P : Prop}, P → u.flows.get id = some g →
        surroundings id u = surroundings id s →
        Ends (modifyEntry id fun entry =>
          { entry with sentSegments := acknowledgeSegments e.flow.localUnacked entry.sentSegments }) u
          (fun _ v => P ∧ surroundings id v = surroundings id s) fun _ v => ¬P ∧ surroundings id v = surroundings id s := by
      intro u g P hP hg hu
      refine Ends.mono (modifyEntry_ends hg _) ?_ fun _ _ h => h.elim
      rintro _ _ rfl
      exact ⟨hP, (surroundings_modify hg _ rfl rfl rfl).trans hu⟩
    split
    · rename_i hpos
      refine Ends.bind (Ends.mono (discardSocket_going h acked) (fun _ _ h => h) fun _ _ h => h.elim) ?_
      rintro _ u ⟨rfl, ⟨g, hg⟩, hu⟩
      refine Ends.bind (R := fun _ v => v.flows = u.flows ∧ surroundings id v = surroundings id s)
        (Ends.modify ⟨rfl, hu⟩) ?_
      rintro _ v ⟨hv, haround⟩
      rw [← hv] at hg
      rw [← discardAnswer_eq_ok]
      cases discardAnswer s e acked with
      | error error =>
        refine Ends.throw ⟨?_, haround⟩
        rintro (hsame | hzero | hok)
        · exact hmoved hsame
        · omega
        · cases hok
      | ok count =>
        refine Ends.bind (R := fun a w => a = count ∧ v = w) (Ends.pure ⟨rfl, rfl⟩) ?_
        rintro _ _ ⟨rfl, rfl⟩
        split
        · rename_i hdiffers
          refine Ends.bind (R := fun _ _ => False) (Ends.throw ⟨?_, haround⟩) fun _ _ h => h.elim
          rintro (hsame | hzero | hok)
          · exact hmoved hsame
          · omega
          · exact hdiffers (Except.ok.inj hok)
        · rename_i hequal
          refine Ends.bind (R := fun _ w => w.flows = v.flows ∧ surroundings id w = surroundings id s)
            (Ends.modify ⟨rfl, haround⟩) ?_
          rintro _ w ⟨hw, haround'⟩
          rw [← hw] at hg
          exact htrim (.inr (.inr (congrArg Except.ok (not_not.mp hequal)))) hg haround'
    · rename_i hzero
      exact htrim (.inr (.inl (Nat.eq_zero_of_not_pos hzero))) hget h.around

theorem receiveSegment_ends (segment : TcpSegment) (hget : s.flows.get id = some e)
    (hreset : (e.received segment).2 ≠ .reset) :
    Ends (receiveSegment id segment) s
      (fun disposition t => disposition = (e.received segment).2 ∧ Settles s e segment ∧
        surroundings id t = surroundings id s)
      fun _ t => ¬Settles s e segment ∧ surroundings id t = surroundings id s := by
  unfold receiveSegment
  refine Ends.bind (R := fun a t => s = a ∧ s = t) (Ends.get ⟨rfl, rfl⟩) ?_
  rintro _ _ ⟨rfl, rfl⟩
  refine Ends.bind (R := fun a t => e = a ∧ s = t) ?_ ?_
  · rw [hget]
    exact Ends.pure ⟨rfl, rfl⟩
  rintro _ _ ⟨rfl, rfl⟩
  refine Ends.bind (R := fun _ t => t.flows = s.flows ∧ t.kernel = s.kernel ∧ surroundings id t = surroundings id s)
    (Ends.modify ⟨rfl, rfl, rfl⟩) ?_
  rintro _ t ⟨hflows, hkernel, haround⟩
  rw [← hflows] at hget
  dsimp only
  refine Ends.bind (Ends.mono (modifyEntry_ends hget _) (fun _ _ h => h) fun _ _ h => h.elim) ?_
  rintro _ _ rfl
  rw [if_neg hreset]
  set f := (e.received segment).1 with hf
  have hentry : (t.flows.modify id fun _ => f).get id = some f := by
    rw [FlowTable.get_modify_self, hget]
    rfl
  have hgoing : Going id f s { t with flows := t.flows.modify id fun _ => f } := by
    refine ⟨⟨f, hentry, rfl, rfl⟩, congrArg Kernel.discard hkernel, ?_⟩
    exact (surroundings_modify hget (fun _ => f) rfl rfl rfl).trans haround
  have hclamp := refreshWindowClamp_going hgoing hentry rfl rfl rfl (congrArg Kernel.windowClamp hkernel)
  refine Ends.bind (Ends.mono hclamp (fun _ _ h => h) ?_) ?_
  · rintro _ u ⟨hfails, haround⟩
    exact ⟨fun h => hfails h.1, haround⟩
  rintro _ u ⟨hclamped, hu⟩
  refine Ends.bind (R := fun _ v => Going id f s v) ⟨hu.entry, hu.discard, hu.around⟩ ?_
  intro now v hv
  refine Ends.bind (Ends.mono (refreshZeroWindowProbe_going hv now) (fun _ _ h => h) fun _ _ h => h.elim) ?_
  intro _ w hw
  refine Ends.bind (Ends.mono (settleAcknowledgment_going hw e.flow.localUnacked) (fun _ _ h => h) ?_) ?_
  · rintro _ x ⟨hfails, haround⟩
    exact ⟨fun h => hfails h.2, haround⟩
  · rintro _ x ⟨hsettled, haround⟩
    exact Ends.pure ⟨rfl, ⟨hclamped, hsettled⟩, haround⟩

end Receive

/-! ## Resetting a flow -/

/-- What becomes of a frame that is handed to the TAP. -/
inductive Handover where
  | written
  | queued
  | failed
  deriving DecidableEq, Repr

def handover (s : Reactor) (len : ℕ) : Handover :=
  if s.tapQueue = [] then
    match s.kernel.tapWrite.head with
    | .ok taken => if taken.of len = len then .written else .failed
    | .error .wouldBlock => .queued
    | .error _ => .failed
  else .queued

/-- A frame is free, the TAP takes the reset or queues it, and the epoll calls succeed. -/
def Resettable (cfg : Config) (s : Reactor) (construction : FlowConstruction) : Prop :=
  ∃ sides, construction.activeSides = some sides ∧
    sides.namespaceKey.target.isIpv4 = sides.namespaceKey.namespaceEnd.isIpv4 ∧
    s.framePool.acquire.2.isSome = true ∧ s.kernel.epollDelete.head = .ok () ∧ s.kernel.epollModify.head = .ok () ∧
    (handover s (Reactor.tcpPayloadOffset cfg sides.namespaceKey none none) = .written ∨
      handover s (Reactor.tcpPayloadOffset cfg sides.namespaceKey none none) = .queued ∧
        s.kernel.epollModify.tail.head = .ok ())

section Reset
open Reactor

variable {cfg : Config} {s t u : Reactor} {id : FlowId} {e f : FlowEntry}

theorem payloadOffset_le (cfg : Config) (key : FlowKey) (mss windowScale : Option ℕ) :
    tcpPayloadOffset cfg key mss windowScale ≤ cfg.mtuFrameCapacity := by
  have hmtu := cfg.tapMtu_ge
  have hip : ipHeaderLen key.target ≤ 40 := by
    unfold ipHeaderLen
    split <;> decide
  have hmss : (if mss.isSome then 4 else 0) ≤ 4 := by split <;> omega
  have hscale : (if windowScale.isSome then 4 else 0) ≤ 4 := by split <;> omega
  unfold tcpPayloadOffset Config.mtuFrameCapacity tcpMinHeaderLen
  omega

/-- What a frame does not touch on its way to the TAP. -/
def beside (s : Reactor) := (s.flows, s.metrics.tcpResets, s.kernel.epollDelete)

theorem buildTcpFrame_ends (cfg : Config) (key : FlowKey) (plan : SendPlan) (flags : TcpFlags)
    (mss windowScale : Option ℕ) (window : ℕ) (s : Reactor) :
    Ends (buildTcpFrame cfg key plan [] flags mss windowScale window) s
      (fun frame t => key.target.isIpv4 = key.namespaceEnd.isIpv4 ∧ s.framePool.acquire.2.isSome = true ∧
        frame.slot.tier = .mtu ∧ frame.len = tcpPayloadOffset cfg key mss windowScale ∧ beside t = beside s ∧
        t.tapQueue = s.tapQueue ∧ t.kernel = s.kernel)
      fun _ t => ¬(key.target.isIpv4 = key.namespaceEnd.isIpv4 ∧ s.framePool.acquire.2.isSome = true) ∧
        t.flows = s.flows := by
  unfold buildTcpFrame acquireFrame
  simp only [bind_assoc]
  refine Ends.bind (R := fun a t => s = a ∧ s = t) (Ends.get ⟨rfl, rfl⟩) ?_
  rintro _ _ ⟨rfl, rfl⟩
  refine Ends.bind (R := fun _ t => beside t = beside s ∧ t.tapQueue = s.tapQueue ∧ t.kernel = s.kernel)
    ⟨rfl, rfl, rfl⟩ ?_
  rintro _ t ⟨hbeside, hqueue, hkernel⟩
  have hlen := payloadOffset_le cfg key mss windowScale
  cases hacquire : s.framePool.acquire.2 with
  | none =>
    refine Ends.bind (R := fun _ _ => False) ?_ fun _ _ h => h.elim
    refine Ends.bind (R := fun _ u => u.flows = s.flows) (Ends.modify (congrArg Prod.fst hbeside)) fun _ u hu => ?_
    refine Ends.bind (R := fun _ u => u.flows = s.flows) (Ends.modify hu) fun _ v hv => Ends.throw ⟨?_, hv⟩
    rintro ⟨-, hfree⟩
    cases hfree
  | some index =>
    refine Ends.bind (R := fun slot u => slot = ⟨.mtu, index⟩ ∧ t = u) (Ends.pure ⟨rfl, rfl⟩) ?_
    rintro _ _ ⟨rfl, rfl⟩
    have hfits : ¬(tcpPayloadOffset cfg key mss windowScale + ([] : Bytes).length > cfg.capacity .mtu) :=
      Nat.not_lt.mpr hlen
    dsimp only
    rw [if_neg hfits]
    unfold finalizeTcpFrame
    dsimp only
    rw [if_neg hfits]
    split
    · rename_i hmixed
      refine Ends.bind (R := fun _ u => u.flows = s.flows) (Ends.modify (congrArg Prod.fst hbeside)) ?_
      exact fun _ v hv => Ends.throw ⟨fun h => hmixed h.1, hv⟩
    · rename_i hfamily
      refine Ends.bind (R := fun _ u => beside u = beside s ∧ u.tapQueue = s.tapQueue ∧ u.kernel = s.kernel)
        (Ends.modify ?_) ?_
      · split
        · exact ⟨hbeside, hqueue, hkernel⟩
        · exact ⟨hbeside, hqueue, hkernel⟩
      rintro _ u ⟨hbeside', hqueue', hkernel'⟩
      exact Ends.pure ⟨not_not.mp hfamily, rfl, rfl, rfl, hbeside', hqueue', hkernel'⟩

/-- The TAP has the frame or its queue does, and either a frame is free or one is queued. -/
def OnTap (s : Reactor) (len : ℕ) (t : Reactor) : Prop :=
  handover s len = .written ∧ t.kernel.epollModify = s.kernel.epollModify ∧ 0 < t.framePool.available ∨
    handover s len = .queued ∧ s.kernel.epollModify.head = .ok () ∧
      t.kernel.epollModify = s.kernel.epollModify.tail ∧ ∃ queued ∈ t.tapQueue, queued.flow = none

def Handed (s : Reactor) (len : ℕ) (t : Reactor) : Prop := beside t = beside s ∧ OnTap s len t

theorem handover_eq (hqueue : t.tapQueue = s.tapQueue) (hkernel : t.kernel = s.kernel) (len : ℕ) :
    handover t len = handover s len := by
  unfold handover
  rw [hqueue, hkernel]

theorem OnTap.of_eq {len : ℕ} (h : OnTap t len u) (hqueue : t.tapQueue = s.tapQueue) (hkernel : t.kernel = s.kernel) :
    OnTap s len u := by
  unfold OnTap at h ⊢
  rw [handover_eq hqueue hkernel, hkernel] at h
  exact h

/-- The frame is lost, or the interest in the TAP was not changed. -/
def Unhanded (s : Reactor) (len : ℕ) (t : Reactor) : Prop :=
  ¬(s.kernel.epollModify.head = .ok () ∧ (handover s len = .written ∨ handover s len = .queued)) ∧ t.flows = s.flows

theorem pushTapQueue_handed {len : ℕ} {queued : QueuedFrame} (hflow : queued.flow = none)
    (hhandover : handover s len = .queued) (hbeside : beside t = beside s)
    (hanswers : t.kernel.epollModify = s.kernel.epollModify) :
    Ends (pushTapQueue queued) t (fun _ u => Handed s len u) fun _ u => Unhanded s len u := by
  unfold pushTapQueue updateTapInterest
  refine Ends.bind (R := fun _ u => beside u = beside s ∧ u.kernel.epollModify = s.kernel.epollModify ∧
    queued ∈ u.tapQueue) (Ends.modify ⟨hbeside, hanswers, by simp⟩) ?_
  rintro _ u ⟨hbeside, hanswers, hmem⟩
  refine Ends.bind (R := fun a v => u = a ∧ u = v) (Ends.get ⟨rfl, rfl⟩) ?_
  rintro _ _ ⟨rfl, rfl⟩
  rw [if_neg fun h => List.ne_nil_of_mem hmem h.2]
  unfold Call.epollModify
  refine Ends.bind (R := fun answer v => answer = s.kernel.epollModify.head ∧ beside v = beside s ∧
    v.kernel.epollModify = s.kernel.epollModify.tail ∧ queued ∈ v.tapQueue) ⟨?_, hbeside, ?_, hmem⟩ ?_
  · change u.kernel.epollModify.head = _
    rw [hanswers]
  · change u.kernel.epollModify.tail = _
    rw [hanswers]
  rintro _ v ⟨rfl, hbeside', htail, hmem'⟩
  cases hhead : s.kernel.epollModify.head with
  | ok a => exact Ends.pure ⟨hbeside', .inr ⟨hhandover, hhead, htail, queued, hmem', hflow⟩⟩
  | error error =>
    refine Ends.throw ⟨fun h => ?_, congrArg Prod.fst hbeside'⟩
    rw [hhead] at h
    cases h.1

/-- A frame that no flow waits for is written, queued, or lost with an error. -/
theorem queueTap_handed (cfg : Config) (frame : PooledFrame) (htier : frame.slot.tier = .mtu) (s : Reactor) :
    Ends (queueTap cfg none frame none) s (fun _ t => Handed s frame.len t) fun _ t => Unhanded s frame.len t := by
  unfold queueTap
  dsimp only
  refine Ends.bind (R := fun reserved t => reserved = true ∧ beside t = beside s ∧ t.tapQueue = s.tapQueue ∧
    t.kernel = s.kernel) ?_ ?_
  · unfold reserveRetainedBytes
    refine Ends.bind (R := fun a t => s = a ∧ s = t) (Ends.get ⟨rfl, rfl⟩) ?_
    rintro _ _ ⟨rfl, rfl⟩
    have hzero : ¬((none : Option SendPlan).elim 0 SendPlan.length > cfg.maxRetainedTcpBytes - s.retainedSocketBytes) :=
      Nat.not_lt_zero _
    rw [if_neg hzero]
    exact ⟨rfl, rfl, rfl, rfl⟩
  rintro _ t ⟨rfl, hbeside, hqueue, hkernel⟩
  rw [if_pos rfl]
  refine Ends.bind (R := fun a u => t = a ∧ t = u) (Ends.get ⟨rfl, rfl⟩) ?_
  rintro _ _ ⟨rfl, rfl⟩
  by_cases hempty : s.tapQueue = []
  · rw [hqueue, if_pos hempty]
    refine Ends.bind (R := fun dropped u => dropped = false ∧ t = u) ⟨rfl, rfl⟩ ?_
    rintro _ _ ⟨rfl, rfl⟩
    rw [if_neg (by decide)]
    refine Ends.bind (R := fun answer u => answer = s.kernel.tapWrite.head.map (·.of frame.len) ∧ beside u = beside s ∧
      u.kernel.epollModify = s.kernel.epollModify) ?_ ?_
    · refine Ends.bind (R := fun answer u => answer = s.kernel.tapWrite.head ∧ beside u = beside s ∧
        u.kernel.epollModify = s.kernel.epollModify) ⟨?_, hbeside, ?_⟩ ?_
      · change t.kernel.tapWrite.head = _
        rw [hkernel]
      · change t.kernel.epollModify = _
        rw [hkernel]
      rintro _ u ⟨rfl, hu⟩
      exact Ends.pure ⟨rfl, hu⟩
    rintro _ u ⟨rfl, hbeside, hanswers⟩
    -- the frame is lost where the TAP takes less than all of it or fails
    have hlost : ∀ {v : Reactor} {error : Error}, handover s frame.len = .failed → beside v = beside s →
        Ends (do abandonFrame none frame none 0; throw error : Io Unit) v (fun _ w => Handed s frame.len w)
          fun _ w => Unhanded s frame.len w := by
      intro v error hfailed hv
      refine Ends.bind (R := fun _ w => w.flows = s.flows) ?_ fun _ w hw => Ends.throw ⟨?_, hw⟩
      · unfold abandonFrame
        refine Ends.bind (R := fun _ w => w.flows = s.flows) (Ends.modify (congrArg Prod.fst hv)) fun _ w hw => ?_
        refine Ends.bind (R := fun _ w => w.flows = s.flows) (Ends.modify hw) fun _ x hx => Ends.modify ?_
        cases frame.slot.tier <;> exact hx
      · rw [hfailed]
        rintro ⟨-, h | h⟩ <;> cases h
    have hcase : handover s frame.len = match s.kernel.tapWrite.head with
        | .ok taken => if taken.of frame.len = frame.len then .written else .failed
        | .error .wouldBlock => .queued
        | .error _ => .failed := by
      unfold handover
      rw [if_pos hempty]
    cases hhead : s.kernel.tapWrite.head with
    | ok taken =>
      rw [hhead] at hcase
      dsimp only [Except.map]
      split
      · rename_i hall
        refine Ends.bind (R := fun _ v => beside v = beside s ∧ v.kernel.epollModify = s.kernel.epollModify)
          (Ends.modify ⟨hbeside, hanswers⟩) ?_
        rintro _ v ⟨hbeside, hanswers⟩
        change Ends (releaseFrame frame.slot) v _ _
        unfold releaseFrame
        rw [htier]
        exact Ends.modify ⟨hbeside, .inl ⟨hcase.trans (if_pos hall), hanswers, Nat.succ_pos _⟩⟩
      · rename_i hshort
        exact hlost (hcase.trans (if_neg hshort)) hbeside
    | error error =>
      rw [hhead] at hcase
      dsimp only [Except.map]
      cases error with
      | wouldBlock => exact pushTapQueue_handed rfl hcase hbeside hanswers
      | unexpectedEof => exact hlost hcase hbeside
      | os code => exact hlost hcase hbeside
  · rw [hqueue, if_neg hempty]
    refine pushTapQueue_handed rfl ?_ hbeside (congrArg Kernel.epollModify hkernel)
    unfold handover
    rw [if_neg hempty]

theorem sendResetForFlow_handed (cfg : Config) (hget : s.flows.get id = some e) :
    Ends (sendResetForFlow cfg id) s
      (fun _ t => ∃ sides, e.construction.activeSides = some sides ∧
        sides.namespaceKey.target.isIpv4 = sides.namespaceKey.namespaceEnd.isIpv4 ∧
        s.framePool.acquire.2.isSome = true ∧ t.flows = s.flows ∧ t.metrics.tcpResets = s.metrics.tcpResets + 1 ∧
        t.kernel.epollDelete = s.kernel.epollDelete ∧ OnTap s (tcpPayloadOffset cfg sides.namespaceKey none none) t)
      fun _ t => ¬Resettable cfg s e.construction ∧ t.flows = s.flows := by
  unfold sendResetForFlow
  refine Ends.bind (Ends.mono (flowEntry_ends hget) (fun _ _ h => h) fun _ _ h => h.elim) ?_
  rintro _ _ ⟨rfl, rfl⟩
  cases hsides : e.construction.activeSides with
  | none =>
    refine Ends.bind (R := fun _ _ => False) (Ends.throw ⟨?_, rfl⟩) fun _ _ h => h.elim
    rintro ⟨sides, hactive, -⟩
    rw [hsides] at hactive
    cases hactive
  | some sides =>
    refine Ends.bind (R := fun a t => sides = a ∧ s = t) (Ends.pure ⟨rfl, rfl⟩) ?_
    rintro _ _ ⟨rfl, rfl⟩
    refine Ends.bind (Ends.mono (buildTcpFrame_ends cfg sides.namespaceKey _ _ none none _ s) (fun _ _ h => h) ?_) ?_
    · rintro _ t ⟨hfails, hflows⟩
      refine ⟨?_, hflows⟩
      rintro ⟨sides', hactive, hfamily, hfree, -⟩
      rw [hsides] at hactive
      cases hactive
      exact hfails ⟨hfamily, hfree⟩
    rintro frame t ⟨hfamily, hfree, htier, hlen, hbeside, hqueue, hkernel⟩
    refine Ends.bind (R := fun _ u => beside u = beside s ∧ u.tapQueue = s.tapQueue ∧ u.kernel = s.kernel)
      (Ends.modify ⟨hbeside, hqueue, hkernel⟩) ?_
    rintro _ u ⟨hbeside, hqueue, hkernel⟩
    simp only [beside, Prod.mk.injEq] at hbeside
    refine Ends.bind (R := fun _ v => v.flows = s.flows ∧ v.metrics.tcpResets = s.metrics.tcpResets + 1 ∧
      v.tapQueue = s.tapQueue ∧ v.kernel = s.kernel)
      (Ends.modify ⟨hbeside.1, congrArg (· + 1) hbeside.2.1, hqueue, hkernel⟩) ?_
    rintro _ v ⟨hflows, hresets, hqueue, hkernel⟩
    refine Ends.mono (queueTap_handed cfg frame htier v) ?_ ?_
    · rintro _ w ⟨hbeside, htap⟩
      simp only [beside, Prod.mk.injEq] at hbeside
      rw [hlen] at htap
      exact ⟨sides, rfl, hfamily, hfree, hbeside.1.trans hflows, hbeside.2.1.trans hresets,
        by rw [hbeside.2.2, hkernel], htap.of_eq hqueue hkernel⟩
    · rintro _ w ⟨hfails, hw⟩
      refine ⟨?_, hw.trans hflows⟩
      rintro ⟨sides', hactive, -, -, -, hmodify, hhandover⟩
      rw [hsides] at hactive
      cases hactive
      apply hfails
      rw [hlen, handover_eq hqueue hkernel, hkernel]
      exact ⟨hmodify, hhandover.imp (fun h => h) And.left⟩

def resets (s : Reactor) : ℕ := s.metrics.tcpResets

theorem resets_noteFailure {α : Type} {m : Io α} (notice : Notice) (h : Inert resets m) :
    Inert resets (noteFailure notice m) := fun s =>
  noteFailure_noted (E := fun t => resets t = resets s) (h s) fun _ ht => ht

theorem resets_orThrow {α : Type} (answer : Except IoError α) : Inert resets (orThrow answer) := by
  cases answer with
  | ok a => exact Inert.pure a
  | error error => exact Inert.throw _

theorem resets_ensure {α : Type} (text : String) (o : Option α) : Inert resets (ensure text o) := by
  cases o with
  | some a => exact Inert.pure a
  | none => exact Inert.throw _

theorem resets_ask {α : Type} (answers : Kernel → Stream' α) (advance : Kernel → Kernel) :
    Inert resets (ask answers advance) := fun _ => rfl

theorem resets_updateTapInterest : Inert resets updateTapInterest := by
  refine Inert.get_bind fun s => ?_
  split
  · rfl
  · exact ((resets_ask _ _).bind fun answer => resets_orThrow answer) s

theorem resets_modifyEntry (id : FlowId) (g : FlowEntry → FlowEntry) : Inert resets (modifyEntry id g) := by
  refine Inert.bind (Inert.get.bind fun s => ?_) fun _ => Inert.modify fun _ => rfl
  cases s.flows.get id with
  | some e => exact Inert.pure e
  | none => exact Inert.throw _

theorem resets_dropFlowFrames (frames : List QueuedFrame) : Inert resets (dropFlowFrames frames) := by
  induction frames with
  | nil => exact Inert.pure ()
  | cons queued frames ih =>
    refine Inert.bind (Inert.modify fun _ => rfl) fun _ => Inert.bind (Inert.modify fun _ => ?_) fun _ => ih
    cases queued.frame.slot.tier <;> rfl

theorem resets_closeFlow (cfg : Config) (id : FlowId) : Inert resets (closeFlow cfg id) := by
  refine Inert.get_bind fun s => ?_
  cases s.flows.get id with
  | none => rfl
  | some e =>
    refine ((resets_noteFailure _ (resets_ensure _ _)).bind fun sides => ?_) s
    refine (resets_noteFailure _ ((resets_ask _ _).bind fun answer => resets_orThrow answer)).bind fun _ => ?_
    refine Inert.bind ?_ fun _ => (resets_noteFailure _ resets_updateTapInterest).bind fun _ =>
      (resets_modifyEntry _ _).bind fun _ => Inert.modify fun _ => rfl
    refine Inert.bind (Inert.modify fun _ => rfl) fun _ => Inert.get_bind fun t => ?_
    refine Ends.bind (R := fun _ u => resets u = resets t) rfl fun _ u hu => ?_
    have hrest : Inert resets (do
        dropFlowFrames (t.tapQueue.filter fun queued => queued.flow = some id)
        modify fun s =>
          let pending := s.pendingSocketBytes - e.pendingSocket.bytes
          { s with
            pendingSocketBytes := pending
            metrics := { s.metrics with pendingTcpBytes := pending } }
        updatePendingPressureState cfg
        releaseRetainedBytes e.retained
        modify fun s =>
          { s with
            metrics :=
              { s.metrics with
                activeTcpFlows := s.metrics.activeTcpFlows - 1
                socketReceiveBufferBytes := s.metrics.socketReceiveBufferBytes - e.socketReceiveBufferBytes
                socketSendBufferBytes := s.metrics.socketSendBufferBytes - e.socketSendBufferBytes
                zeroWindowFlows :=
                  if e.zeroWindowProbe.isSome then s.metrics.zeroWindowFlows - 1
                  else s.metrics.zeroWindowFlows } } : Io Unit) := by
      refine (resets_dropFlowFrames _).bind fun _ => Inert.bind (Inert.modify fun _ => rfl) fun _ => ?_
      refine Inert.bind (Inert.modify fun s => ?_) fun _ => Inert.bind (Inert.modify fun _ => rfl) fun _ =>
        Inert.modify fun _ => rfl
      dsimp only
      split
      · unfold resets
        dsimp only
        split <;> rfl
      · rfl
    exact Ends.mono (hrest u) (fun _ _ hv => hv.trans hu) fun _ _ hv => hv.trans hu

theorem closeFlow_closed (cfg : Config) (hget : s.flows.get id = some e)
    (hactive : e.construction.activeSides.isSome = true)
    (hroom : s.framePool.available ≠ 0 ∨
      ∃ queued ∈ s.tapQueue, queued.flow ≠ some id ∨ queued.frame.slot.tier = .mtu) :
    Ends (closeFlow cfg id) s
      (fun _ t => s.kernel.epollDelete.head = .ok () ∧ s.kernel.epollModify.head = .ok () ∧ id ∈ t.flows.deferred)
      fun _ t => ¬(s.kernel.epollDelete.head = .ok () ∧ s.kernel.epollModify.head = .ok ()) ∧ t.flows = s.flows := by
  unfold closeFlow
  refine Ends.bind (R := fun a t => s = a ∧ s = t) (Ends.get ⟨rfl, rfl⟩) ?_
  rintro _ _ ⟨rfl, rfl⟩
  rw [hget]
  dsimp only
  obtain ⟨sides, hsides⟩ := Option.isSome_iff_exists.mp hactive
  rw [hsides]
  refine Ends.bind (R := fun a t => sides = a ∧ s = t) ⟨rfl, rfl⟩ ?_
  rintro _ _ ⟨rfl, rfl⟩
  refine Ends.bind (R := fun _ t => s.kernel.epollDelete.head = .ok () ∧ t.flows = s.flows ∧ t.tapQueue = s.tapQueue ∧
    t.framePool = s.framePool ∧ t.kernel.epollModify = s.kernel.epollModify) (noteFailure_noted ?_ fun _ h => h) ?_
  · unfold Call.epollDelete
    refine Ends.bind (R := fun answer t => answer = s.kernel.epollDelete.head ∧ t.flows = s.flows ∧
      t.tapQueue = s.tapQueue ∧ t.framePool = s.framePool ∧ t.kernel.epollModify = s.kernel.epollModify)
      ⟨rfl, rfl, rfl, rfl, rfl⟩ ?_
    rintro _ t ⟨rfl, ht⟩
    cases hhead : s.kernel.epollDelete.head with
    | ok a => exact Ends.pure ⟨rfl, ht⟩
    | error error => exact Ends.throw ⟨fun h => (nomatch h.1), ht.1⟩
  rintro _ t ⟨hdelete, hflows, hqueue, hpool, hanswers⟩
  refine Ends.bind (Ends.mono (releaseAccounting_ends cfg id sides.namespaceKey e t) (fun _ _ h => h)
    fun _ _ h => h.elim) ?_
  rintro _ u ⟨hflows', hkernel, hqueue', havailable, -, -, -⟩
  have hopen : ¬(u.framePool.available = 0 ∧ u.tapQueue = []) := by
    rw [hqueue, hpool] at havailable
    rw [hqueue] at hqueue'
    exact tap_room hroom hqueue' havailable
  refine Ends.bind (R := fun _ v => s.kernel.epollModify.head = .ok () ∧ v.flows = s.flows)
    (noteFailure_noted ?_ fun _ h => h) ?_
  · unfold updateTapInterest
    refine Ends.bind (R := fun a v => u = a ∧ u = v) (Ends.get ⟨rfl, rfl⟩) ?_
    rintro _ _ ⟨rfl, rfl⟩
    rw [if_neg hopen]
    unfold Call.epollModify
    refine Ends.bind (R := fun answer v => answer = s.kernel.epollModify.head ∧ v.flows = s.flows)
      ⟨?_, hflows'.trans hflows⟩ ?_
    · change u.kernel.epollModify.head = _
      rw [hkernel, hanswers]
    rintro _ v ⟨rfl, hv⟩
    cases hhead : s.kernel.epollModify.head with
    | ok a => exact Ends.pure ⟨rfl, hv⟩
    | error error => exact Ends.throw ⟨fun h => (nomatch h.2), hv⟩
  rintro _ v ⟨hmodify, hv⟩
  have hgetv : v.flows.get id = some e := by
    rw [hv]
    exact hget
  refine Ends.bind (Ends.mono (modifyEntry_ends hgetv _) (fun _ _ h => h) fun _ _ h => h.elim) ?_
  rintro _ _ rfl
  refine Ends.modify ⟨hdelete, hmodify, ?_⟩
  dsimp only
  rw [FlowTable.mem_deferred_deferRemove, FlowTable.get_modify_self, hgetv]
  exact .inr ⟨rfl, rfl⟩

/-- A flow that is given up is reset and closed exactly where it is resettable, and not
touched otherwise. -/
theorem failTcpFlow_ends (cfg : Config) (hget : s.flows.get id = some e) :
    Ends (failTcpFlow cfg id) s
      (fun _ t => Resettable cfg s e.construction ∧ id ∈ t.flows.deferred ∧ s.metrics.tcpResets < t.metrics.tcpResets)
      fun _ t => ¬Resettable cfg s e.construction ∧ t.flows = s.flows := by
  unfold failTcpFlow
  refine Ends.bind (sendResetForFlow_handed cfg hget) ?_
  rintro _ t ⟨sides, hsides, hfamily, hfree, hflows, hresets, hdelete, htap⟩
  have hgett : t.flows.get id = some e := by
    rw [hflows]
    exact hget
  have hroom : t.framePool.available ≠ 0 ∨
      ∃ queued ∈ t.tapQueue, queued.flow ≠ some id ∨ queued.frame.slot.tier = .mtu := by
    rcases htap with ⟨-, -, hfree⟩ | ⟨-, -, -, queued, hmem, hflow⟩
    · exact .inl (Nat.pos_iff_ne_zero.mp hfree)
    · exact .inr ⟨queued, hmem, .inl (by simp [hflow])⟩
  have hclose := closeFlow_closed cfg hgett (by rw [hsides]; rfl) hroom
  refine Ends.mono (hclose.and (resets_closeFlow cfg id t)) ?_ ?_
  · rintro _ u ⟨⟨hdeleted, hmodified, hclosed⟩, hsame⟩
    rw [hdelete] at hdeleted
    refine ⟨⟨sides, hsides, hfamily, hfree, hdeleted, ?_⟩, hclosed, ?_⟩
    · rcases htap with ⟨hwritten, hanswers, -⟩ | ⟨hqueued, hhead, hanswers, -⟩
      · rw [hanswers] at hmodified
        exact ⟨hmodified, .inl hwritten⟩
      · rw [hanswers] at hmodified
        exact ⟨hhead, .inr ⟨hqueued, hmodified⟩⟩
    · change u.metrics.tcpResets = t.metrics.tcpResets at hsame
      omega
  · rintro _ u ⟨⟨hfails, hu⟩, -⟩
    refine ⟨?_, hu.trans hflows⟩
    rintro ⟨sides', hsides', -, -, hdeleted, hmodified, hhandover⟩
    rw [hsides] at hsides'
    cases hsides'
    apply hfails
    rw [hdelete]
    refine ⟨hdeleted, ?_⟩
    rcases htap with ⟨hwritten, hanswers, -⟩ | ⟨hqueued, -, hanswers, -⟩
    · rw [hanswers]
      exact hmodified
    · rw [hanswers]
      rcases hhandover with hwritten | ⟨-, hnext⟩
      · rw [hqueued] at hwritten
        cases hwritten
      · exact hnext

end Reset

/-! ## Submitting -/

/-- All of `payload` is with the socket and the queue of the flow, or the flow was reset and closed. -/
def PayloadKept (id : FlowId) (e : FlowEntry) (payload : Bytes) (s t : Reactor) : Prop :=
  (∃ g sent, t.flows.get id = some g ∧ g.socket.payloadSent = e.socket.payloadSent ++ payload.take sent ∧
      g.pendingSocket.content = e.pendingSocket.content ++ payload.drop sent) ∨
    (id ∈ t.flows.deferred ∧ s.metrics.tcpResets < t.metrics.tcpResets)

/-- An open flow with a hole in its upstream stream. -/
def Holed (id : FlowId) (e : FlowEntry) (payload : Bytes) (t : Reactor) : Prop :=
  id ∉ t.flows.deferred ∧ ∃ g sent, t.flows.get id = some g ∧ sent < payload.length ∧
    g.socket.payloadSent = e.socket.payloadSent ++ payload.take sent ∧ g.pendingSocket = e.pendingSocket

theorem Holed.not_kept {id : FlowId} {e : FlowEntry} {payload : Bytes} {s t : Reactor} (h : Holed id e payload t) :
    ¬PayloadKept id e payload s t := by
  obtain ⟨hopen, g, sent, hget, hlt, hsent, hqueue⟩ := h
  rintro (⟨g', sent', hget', hsent', hqueue'⟩ | ⟨hclosed, -⟩)
  · rw [hget] at hget'
    cases hget'
    rw [hsent] at hsent'
    rw [hqueue] at hqueue'
    have htake := congrArg List.length (List.append_cancel_left hsent')
    have hdrop := congrArg List.length hqueue'
    simp only [List.length_take, List.length_append, List.length_drop] at htake hdrop
    omega
  · exact hopen hclosed

def taken (s : Reactor) (payload : Bytes) : ℕ :=
  match s.kernel.send.head with
  | .ok taken => taken.of payload.length
  | .error _ => 0

/-- The socket takes payload or blocks, and the rest has room in the queue or the flow can be reset. -/
def Submits (cfg : Config) (s : Reactor) (e : FlowEntry) (payload : Bytes) : Prop :=
  (∀ error, s.kernel.send.head = .error error → error = .wouldBlock) ∧
    (((payload.drop (taken s payload)).length ≤ e.pendingSocket.remaining ∧
        (payload.drop (taken s payload)).length ≤ cfg.maxPendingTcpBytes - s.pendingSocketBytes) ∨
      Resettable cfg s e.construction)

section Submit
open Reactor

variable {cfg : Config} {s t u : Reactor} {id : FlowId} {e f : FlowEntry} {payload : Bytes}

theorem Resettable.of_surroundings {construction : FlowConstruction} (h : surroundings id t = surroundings id s) :
    Resettable cfg t construction ↔ Resettable cfg s construction := by
  simp only [surroundings, Prod.mk.injEq] at h
  obtain ⟨-, -, -, hpool, hqueue, -, -, hwrite, hmodify, hdelete⟩ := h
  unfold Resettable handover
  rw [hpool, hqueue, hwrite, hmodify, hdelete]

theorem enqueuePendingPayload_kept {sent : ℕ} (hsent : sent < payload.length) (hopen : id ∉ t.flows.deferred)
    (hget : t.flows.get id = some f) (hpayload : f.socket.payloadSent = e.socket.payloadSent ++ payload.take sent)
    (hqueue : f.pendingSocket = e.pendingSocket) :
    Ends (enqueuePendingPayload cfg id (payload.drop sent)) t
      (fun delivered u => ((payload.drop sent).length ≤ e.pendingSocket.remaining ∧
          (payload.drop sent).length ≤ cfg.maxPendingTcpBytes - t.pendingSocketBytes ∧ delivered = true ∧
          (∃ g, u.flows.get id = some g ∧ g.socket.payloadSent = e.socket.payloadSent ++ payload.take sent ∧
            g.pendingSocket.content = e.pendingSocket.content ++ payload.drop sent)) ∨
        (Resettable cfg t f.construction ∧ delivered = false ∧ id ∈ u.flows.deferred ∧
          t.metrics.tcpResets < u.metrics.tcpResets))
      fun _ u => ¬(((payload.drop sent).length ≤ e.pendingSocket.remaining ∧
          (payload.drop sent).length ≤ cfg.maxPendingTcpBytes - t.pendingSocketBytes) ∨
        Resettable cfg t f.construction) ∧ Holed id e payload u := by
  unfold enqueuePendingPayload
  refine Ends.bind (R := fun a u => t = a ∧ t = u) (Ends.get ⟨rfl, rfl⟩) ?_
  rintro _ _ ⟨rfl, rfl⟩
  refine Ends.bind (Ends.mono (flowEntry_ends hget) (fun _ _ h => h) fun _ _ h => h.elim) ?_
  rintro _ _ ⟨rfl, rfl⟩
  rw [hqueue]
  split
  · rename_i hfull
    refine Ends.bind (R := fun _ u => surroundings id u = surroundings id t ∧ u.flows = t.flows)
      (Ends.modify ⟨rfl, rfl⟩) ?_
    rintro _ u ⟨haround, hflows⟩
    refine Ends.bind (R := fun _ v => surroundings id v = surroundings id t ∧ v.flows = t.flows)
      (Ends.modify ⟨haround, hflows⟩) ?_
    rintro _ v ⟨haround, hflows⟩
    have hgetv : v.flows.get id = some f := by
      rw [hflows]
      exact hget
    have hresets : v.metrics.tcpResets = t.metrics.tcpResets := by
      simp only [surroundings, Prod.mk.injEq] at haround
      exact haround.2.2.2.2.2.1
    have hfail := failTcpFlow_ends cfg hgetv
    rw [Resettable.of_surroundings haround] at hfail
    refine Ends.bind (Ends.mono hfail (fun _ _ h => h) ?_) ?_
    · rintro _ w ⟨hstuck, hw⟩
      refine ⟨?_, ?_, f, sent, ?_, hsent, hpayload, hqueue⟩
      · rintro (hroom | hreset)
        · omega
        · exact hstuck hreset
      · rw [hw, hflows]
        exact hopen
      · rw [hw]
        exact hgetv
    · rintro _ w ⟨hreset, hclosed, hmore⟩
      exact Ends.pure (.inr ⟨hreset, rfl, hclosed, by omega⟩)
  · rename_i hroom
    obtain ⟨hlocal, hshared⟩ := not_or.mp hroom
    obtain ⟨queue, hpush⟩ := Option.isSome_iff_exists.mp (PendingSocketQueue.push_isSome (Nat.le_of_not_gt hlocal))
    refine Ends.bind (R := fun a u => queue = a ∧ t = u) ?_ ?_
    · rw [hpush]
      exact Ends.pure ⟨rfl, rfl⟩
    rintro _ _ ⟨rfl, rfl⟩
    refine Ends.bind (Ends.mono (modifyEntry_ends hget _) (fun _ _ h => h) fun _ _ h => h.elim) ?_
    rintro _ _ rfl
    have hentry : (t.flows.modify id fun e => { e with pendingSocket := queue }).get id =
        some { f with pendingSocket := queue } := by
      rw [FlowTable.get_modify_self, hget]
      rfl
    refine Ends.bind (R := fun _ u => u.flows.get id = some { f with pendingSocket := queue })
      (Ends.modify hentry) fun _ u hu => ?_
    refine Ends.bind (R := fun _ v => v.flows.get id = some { f with pendingSocket := queue }) (Ends.modify ?_)
      fun _ v hv => ?_
    · dsimp only
      split <;> exact hu
    refine Ends.pure (.inl ⟨Nat.le_of_not_gt hlocal, Nat.le_of_not_gt hshared, rfl, _, hv, hpayload, ?_⟩)
    exact PendingSocketQueue.push_content hpush

/-- The payload is kept exactly where the submission meets no error. -/
theorem submitNamespacePayload_kept (hget : s.flows.get id = some e) (hopen : id ∉ s.flows.deferred)
    (hpayload : payload ≠ []) (haround : surroundings id t = surroundings id s) :
    Ends (submitNamespacePayload cfg id payload) t
      (fun delivered u => Submits cfg s e payload ∧
        ((delivered = true ∧ ∃ g sent, u.flows.get id = some g ∧
            g.socket.payloadSent = e.socket.payloadSent ++ payload.take sent ∧
            g.pendingSocket.content = e.pendingSocket.content ++ payload.drop sent) ∨
          (delivered = false ∧ id ∈ u.flows.deferred ∧ s.metrics.tcpResets < u.metrics.tcpResets)))
      fun _ u => ¬Submits cfg s e payload ∧ Holed id e payload u := by
  have hfields := haround
  simp only [surroundings, Prod.mk.injEq, hget, Option.map_some] at hfields
  obtain ⟨hmap, hdeferred, hcount, hpool, hqueue, hresets, hsend, hwrite, hmodify, hdelete⟩ := hfields
  obtain ⟨f, hf, hfields⟩ := Option.map_eq_some_iff.mp hmap
  simp only [Prod.mk.injEq] at hfields
  obtain ⟨hfqueue, hfsent, hfconstruction⟩ := hfields
  have hlen : 0 < payload.length := List.length_pos_iff.mpr hpayload
  unfold submitNamespacePayload
  refine Ends.bind (Ends.mono (flowEntry_ends hf) (fun _ _ h => h) fun _ _ h => h.elim) ?_
  rintro _ _ ⟨rfl, rfl⟩
  refine Ends.bind (R := fun answer u => answer = s.kernel.send.head.map (·.of payload.length) ∧
    u.flows = t.flows ∧ u.pendingSocketBytes = t.pendingSocketBytes ∧ u.metrics = t.metrics ∧
    (Resettable cfg u f.construction ↔ Resettable cfg s e.construction)) ?_ ?_
  · refine Ends.bind (R := fun answer u => answer = s.kernel.send.head ∧ u.flows = t.flows ∧
      u.pendingSocketBytes = t.pendingSocketBytes ∧ u.metrics = t.metrics ∧
      (Resettable cfg u f.construction ↔ Resettable cfg s e.construction)) ⟨?_, rfl, rfl, rfl, ?_⟩ ?_
    · change t.kernel.send.head = _
      rw [hsend]
    · change Resettable cfg t f.construction ↔ _
      rw [hfconstruction]
      exact Resettable.of_surroundings haround
    rintro _ u ⟨rfl, hu⟩
    exact Ends.pure ⟨rfl, hu⟩
  rintro _ u ⟨rfl, hu⟩
  refine Ends.bind (R := fun _ v => v.flows = t.flows ∧ v.pendingSocketBytes = t.pendingSocketBytes ∧
    v.metrics = t.metrics ∧ (Resettable cfg v f.construction ↔ Resettable cfg s e.construction))
    (Ends.modify hu) ?_
  rintro _ v ⟨hflows, hbytes, hmetrics, hreset⟩
  have hgetv : v.flows.get id = some f := by
    rw [hflows]
    exact hf
  have hopenv : id ∉ v.flows.deferred := by
    rw [hflows, hdeferred]
    exact hopen
  -- the rest is left to the queue
  have hrest : ∀ {w : Reactor} {g : FlowEntry} {sent : ℕ}, taken s payload = sent →
      (∀ error, s.kernel.send.head = .error error → error = .wouldBlock) → sent < payload.length →
      w.flows.get id = some g → id ∉ w.flows.deferred →
      g.socket.payloadSent = e.socket.payloadSent ++ payload.take sent → g.pendingSocket = e.pendingSocket →
      w.pendingSocketBytes = t.pendingSocketBytes → w.metrics = t.metrics →
      (Resettable cfg w g.construction ↔ Resettable cfg s e.construction) →
      Ends (enqueuePendingPayload cfg id (payload.drop sent)) w
        (fun delivered u => Submits cfg s e payload ∧
          ((delivered = true ∧ ∃ g sent, u.flows.get id = some g ∧
              g.socket.payloadSent = e.socket.payloadSent ++ payload.take sent ∧
              g.pendingSocket.content = e.pendingSocket.content ++ payload.drop sent) ∨
            (delivered = false ∧ id ∈ u.flows.deferred ∧ s.metrics.tcpResets < u.metrics.tcpResets)))
        fun _ u => ¬Submits cfg s e payload ∧ Holed id e payload u := by
    rintro w g _ rfl hsends hlt hg hwopen hgsent hgqueue hwbytes hwmetrics hwreset
    refine Ends.mono (enqueuePendingPayload_kept hlt hwopen hg hgsent hgqueue) ?_ ?_
    · rintro delivered u (⟨hlocal, hshared, hdelivered, g, hkept⟩ | ⟨hreset, hdelivered, hclosed, hmore⟩)
      · rw [hwbytes, hcount] at hshared
        exact ⟨⟨hsends, .inl ⟨hlocal, hshared⟩⟩, .inl ⟨hdelivered, g, _, hkept⟩⟩
      · rw [hwmetrics, hresets] at hmore
        exact ⟨⟨hsends, .inr (hwreset.mp hreset)⟩, .inr ⟨hdelivered, hclosed, hmore⟩⟩
    · rintro _ u ⟨hfails, hholed⟩
      refine ⟨fun h => hfails ?_, hholed⟩
      rw [hwreset, hwbytes, hcount]
      exact h.2
  cases hhead : s.kernel.send.head with
  | ok answer =>
    have htaken : taken s payload = answer.of payload.length := by
      unfold taken
      rw [hhead]
    have hsends : ∀ error, s.kernel.send.head = .error error → error = .wouldBlock := by
      intro error herror
      rw [hhead] at herror
      cases herror
    dsimp only [Except.map]
    refine Ends.bind (Ends.mono (modifyEntry_ends hgetv _) (fun _ _ h => h) fun _ _ h => h.elim) ?_
    rintro _ _ rfl
    have hentry : (v.flows.modify id fun e => e.submitted payload (answer.of payload.length)).get id =
        some (f.submitted payload (answer.of payload.length)) := by
      rw [FlowTable.get_modify_self, hgetv]
      rfl
    have hsubmitted : (f.submitted payload (answer.of payload.length)).socket.payloadSent =
        e.socket.payloadSent ++ payload.take (answer.of payload.length) :=
      congrArg (· ++ payload.take (answer.of payload.length)) hfsent
    split
    · rename_i hshort
      refine hrest htaken hsends hshort hentry ?_ hsubmitted hfqueue hbytes hmetrics hreset
      dsimp only
      rw [FlowTable.modify_deferred]
      exact hopenv
    · rename_i hall
      have hdrop : payload.drop (answer.of payload.length) = [] := List.drop_eq_nil_of_le (Nat.le_of_not_lt hall)
      refine Ends.pure ⟨⟨hsends, .inl ?_⟩, .inl ⟨rfl, _, _, hentry, hsubmitted, ?_⟩⟩
      · rw [htaken, hdrop]
        exact ⟨Nat.zero_le _, Nat.zero_le _⟩
      · rw [hdrop, List.append_nil]
        exact congrArg PendingSocketQueue.content hfqueue
  | error error =>
    have htaken : taken s payload = 0 := by
      unfold taken
      rw [hhead]
    -- a hard error ends the handler with nothing queued
    have hhard : error ≠ .wouldBlock → ∀ {w : Reactor}, w.flows = v.flows →
        ¬Submits cfg s e payload ∧ Holed id e payload w := by
      intro hne w hw
      refine ⟨fun h => hne (h.1 error hhead), ?_, f, 0, ?_, hlen, ?_, hfqueue⟩
      · rw [hw]
        exact hopenv
      · rw [hw]
        exact hgetv
      · rw [List.take_zero, List.append_nil]
        exact hfsent
    dsimp only [Except.map]
    cases error with
    | wouldBlock =>
      have hsends : ∀ error, s.kernel.send.head = .error error → error = .wouldBlock := by
        intro error herror
        rw [hhead] at herror
        cases herror
        rfl
      have hblocked := hrest htaken hsends hlen hgetv hopenv (by rw [List.take_zero, List.append_nil]; exact hfsent)
        hfqueue hbytes hmetrics hreset
      rw [List.drop_zero] at hblocked
      exact hblocked
    | unexpectedEof => exact Ends.throw (hhard (by simp) rfl)
    | os code => exact Ends.throw (hhard (by simp) rfl)

end Submit

/-! ## The handler -/

section Handler
open Reactor

variable {cfg : Config} {s t : Reactor} {id : FlowId} {e : FlowEntry}

theorem carried_of_flowSide {α : Type} {m : Io α} (h : Inert flowSide m) (id : FlowId) : Inert (carried id) m := by
  have hof : ∀ s t, flowSide t = flowSide s → carried id t = carried id s := by
    intro s t hst
    have hflows : t.flows = s.flows := congrArg Prod.fst hst
    unfold carried
    rw [hflows]
  intro s
  exact Ends.mono (h s) (fun _ t => hof s t) fun _ t => hof s t

theorem carried_modifyEntry (id other : FlowId) (g : FlowEntry → FlowEntry)
    (hg : ∀ e, (g e).pendingSocket = e.pendingSocket ∧ (g e).socket.payloadSent = e.socket.payloadSent) :
    Inert (carried id) (modifyEntry other g) := by
  refine Inert.bind (carried_of_flowSide (flowSide_flowEntry other) id) fun _ => Inert.modify fun s => ?_
  unfold carried
  dsimp only
  by_cases hsame : id = other
  · subst hsame
    rw [FlowTable.get_modify_self]
    cases s.flows.get id with
    | none => rfl
    | some e =>
      obtain ⟨hqueue, hsent⟩ := hg e
      simp [hqueue, hsent]
  · rw [FlowTable.get_modify_of_ne _ _ _ _ hsame]

theorem carried_noteFailure {α : Type} {m : Io α} (id : FlowId) (notice : Notice) (h : Inert (carried id) m) :
    Inert (carried id) (noteFailure notice m) := fun s =>
  noteFailure_noted (E := fun t => carried id t = carried id s) (h s) fun _ ht => ht

theorem carried_closeFlow (cfg : Config) (id other : FlowId) : Inert (carried id) (closeFlow cfg other) := by
  refine Inert.get_bind fun s => ?_
  cases s.flows.get other with
  | none => rfl
  | some e =>
    refine ((carried_noteFailure id _ (carried_of_flowSide (flowSide_ensure _ _) id)).bind fun sides => ?_) s
    refine (carried_noteFailure id _ (carried_of_flowSide flowSide_epollDelete id)).bind fun _ => ?_
    refine Inert.bind (fun t => ?_) fun _ =>
      (carried_noteFailure id _ (carried_of_flowSide flowSide_updateTapInterest id)).bind fun _ => Inert.bind
        (carried_modifyEntry id other (fun e => { e with flow := e.flow.close }) fun _ => ⟨rfl, rfl⟩)
        fun _ => Inert.modify fun t => ?_
    · refine Ends.mono (releaseAccounting_ends cfg other sides.namespaceKey e t) (fun _ u hu => ?_) fun _ _ h => h.elim
      unfold carried
      rw [hu.1]
    · unfold carried
      dsimp only
      rw [FlowTable.get_deferRemove]

theorem carried_finishSegment (cfg : Config) (id : FlowId) : Inert (carried id) (finishSegment cfg id) := by
  refine Inert.bind (Inert.modify fun s => ?_) fun _ => Inert.get_bind fun s => ?_
  · split <;> rfl
  cases s.flows.get id with
  | none => rfl
  | some e =>
    dsimp only
    split
    · exact ((carried_of_flowSide (flowSide_note _) id).bind fun _ => carried_closeFlow cfg id id) s
    · rfl

theorem carried_forwardFin (id : FlowId) : Inert (carried id) (forwardFin id) := by
  refine (carried_of_flowSide (flowSide_flowEntry id) id).bind fun e => ?_
  split
  · refine (carried_of_flowSide (flowSide_ask _ _) id).bind fun answer => ?_
    refine (carried_of_flowSide (flowSide_note _) id).bind fun _ => ?_
    cases answer with
    | ok a => exact carried_modifyEntry id id _ fun _ => ⟨rfl, rfl⟩
    | error error => exact Inert.throw _
  · exact carried_modifyEntry id id _ fun _ => ⟨rfl, rfl⟩

theorem carried_delivered (cfg : Config) (id : FlowId) (fin : Bool) :
    Inert (carried id) (do
      if fin then
        forwardFin id
        sendFinAck cfg id
      else pure ()
      finishSegment cfg id : Io Unit) := by
  cases fin with
  | false => exact carried_finishSegment cfg id
  | true =>
    refine (carried_forwardFin id).bind fun _ => ?_
    exact (carried_of_flowSide (flowSide_sendAckKind cfg id true) id).bind fun _ => carried_finishSegment cfg id

theorem inOrder_length {segment : TcpSegment} {n : ℕ} {fin : Bool} (h : (e.received segment).2 = .inOrder n fin)
    (hn : 0 < n) : segment.payload.length = n := by
  unfold FlowEntry.received at h
  dsimp only at h
  rcases e.flow.receive_cases segment.sequence (if segment.flags.ack then some segment.acknowledgment else none)
      segment.window.toNat segment.payload.length segment.flags.fin segment.flags.rst with
    ⟨-, heq⟩ | ⟨-, disposition, -, hempty, heq⟩ | ⟨-, -, -, -, heq⟩
  · rw [heq] at h
    cases h
  · rw [heq] at h
    have hzero := (hempty n fin h).1
    omega
  · rw [heq] at h
    cases h
    rfl

theorem holed_of_surroundings {payload : Bytes} (hget : s.flows.get id = some e) (hopen : id ∉ s.flows.deferred)
    (hpayload : payload ≠ []) (haround : surroundings id t = surroundings id s) : Holed id e payload t := by
  simp only [surroundings, Prod.mk.injEq, hget, Option.map_some] at haround
  obtain ⟨hmap, hdeferred, -⟩ := haround
  obtain ⟨g, hg, hfields⟩ := Option.map_eq_some_iff.mp hmap
  simp only [Prod.mk.injEq] at hfields
  refine ⟨by rw [hdeferred]; exact hopen, g, 0, hg, List.length_pos_iff.mpr hpayload, ?_, hfields.1⟩
  rw [List.take_zero, List.append_nil]
  exact hfields.2.1

theorem kept_of_carried {payload : Bytes} {sent : ℕ} {g : FlowEntry} (hget : s.flows.get id = some g)
    (hsent : g.socket.payloadSent = e.socket.payloadSent ++ payload.take sent)
    (hqueue : g.pendingSocket.content = e.pendingSocket.content ++ payload.drop sent)
    (hcarried : carried id t = carried id s) (u : Reactor) : PayloadKept id e payload u t := by
  unfold carried at hcarried
  rw [hget] at hcarried
  obtain ⟨f, hf, hfields⟩ := Option.map_eq_some_iff.mp hcarried
  simp only [Prod.mk.injEq] at hfields
  refine .inl ⟨f, sent, hf, ?_, ?_⟩
  · rw [hfields.2]
    exact hsent
  · rw [hfields.1]
    exact hqueue

end Handler

open Reactor in
/-- Payload that `receive` accepted is kept exactly where the clamp is set, the acknowledged
bytes are taken off the socket, the socket takes payload or blocks, and what it leaves has
room in the queues or the flow can be reset. -/
theorem accepted_payload_kept (cfg : Config) (s : Reactor) (id : FlowId) (e : FlowEntry) (segment : TcpSegment)
    (n : ℕ) (fin : Bool) (hget : s.flows.get id = some e) (hopen : id ∉ s.flows.deferred)
    (hreceives : ¬(segment.flags.syn = true ∧ segment.flags.ack = false ∧
      (e.flow.state = .connecting ∨ e.flow.state = .synReceived)))
    (hinOrder : (e.received segment).2 = .inOrder n fin) (hn : 0 < n) :
    PayloadKept id e segment.payload s (final (handleExistingTcp cfg id segment s)) ↔
      Settles s e segment ∧ Submits cfg s e segment.payload := by
  have hpayload : segment.payload ≠ [] := by
    rw [← List.length_pos_iff, inOrder_length hinOrder hn]
    exact hn
  have hnot : ∀ {t}, Holed id e segment.payload t → ¬(Settles s e segment ∧ Submits cfg s e segment.payload) →
      (PayloadKept id e segment.payload s t ↔ Settles s e segment ∧ Submits cfg s e segment.payload) :=
    fun hholed hfails => iff_of_false hholed.not_kept hfails
  refine Ends.final (P := fun t => PayloadKept id e segment.payload s t ↔
    Settles s e segment ∧ Submits cfg s e segment.payload) ?_
  unfold handleExistingTcp
  refine Ends.bind (Ends.mono (flowEntry_ends hget) (fun _ _ h => h) fun _ _ h => h.elim) ?_
  rintro _ _ ⟨rfl, rfl⟩
  rw [if_neg fun h => hreceives ⟨h.1, h.2.1, .inl h.2.2⟩, if_neg fun h => hreceives ⟨h.1, h.2.1, .inr h.2.2⟩]
  refine Ends.bind (Ends.mono (receiveSegment_ends segment hget (by rw [hinOrder]; simp)) (fun _ _ h => h) ?_) ?_
  · rintro _ t ⟨hfails, haround⟩
    exact hnot (holed_of_surroundings hget hopen hpayload haround) fun h => hfails h.1
  rintro _ t ⟨rfl, hsettles, haround⟩
  rw [hinOrder]
  dsimp only
  rw [if_pos hn]
  refine Ends.bind (Ends.mono (submitNamespacePayload_kept hget hopen hpayload haround) (fun _ _ h => h) ?_) ?_
  · rintro _ u ⟨hfails, hholed⟩
    exact hnot hholed fun h => hfails h.2
  rintro delivered u ⟨hsubmits, ⟨rfl, g, sent, hg, hsent, hqueue⟩ | ⟨rfl, hclosed, hmore⟩⟩
  · have hkept : ∀ {v}, carried id v = carried id u → (PayloadKept id e segment.payload s v ↔
        Settles s e segment ∧ Submits cfg s e segment.payload) :=
      fun hv => iff_of_true (kept_of_carried hg hsent hqueue hv s) ⟨hsettles, hsubmits⟩
    exact Ends.mono (carried_delivered cfg id fin u) (fun _ _ hv => hkept hv) fun _ _ hv => hkept hv
  · exact Ends.pure (iff_of_true (.inr ⟨hclosed, hmore⟩) ⟨hsettles, hsubmits⟩)

namespace Reactor

def openedScript : List (Event × Kernel) := [(.tap readable, Kernel.quiet.reads (segmentTo { syn := true } 7))]

def firstPayload : TcpSegment where
  sourcePort := 40000
  destinationPort := 80
  sequence := 8
  acknowledgment := 0
  flags := {}
  window := 1000
  payload := [1, 2, 3]

def clampRefused : Kernel := { Kernel.quiet with windowClamp := Stream'.const (.error (.os 22)) }

def heldBytes (s : Reactor) : List FlowId × Option (Bytes × Bytes) :=
  (s.flows.deferred, (s.flows.get ⟨0, 1⟩).map fun e => (e.socket.payloadSent, e.pendingSocket.content))

def firstReceived (s : Reactor) : Option (ReceiveDisposition × Seq × Seq) :=
  (s.flows.get ⟨0, 1⟩).map fun e =>
    ((e.received firstPayload).2, (e.received firstPayload).1.flow.localUnacked, e.flow.localUnacked)

theorem exists_opened : ∃ s e, Reachable (.sample (.direct false)) s ∧ s.flows.get ⟨0, 1⟩ = some e ∧
    s.flows.deferred = [] ∧ (e.received firstPayload).2 = .inOrder 3 false ∧
    (e.received firstPayload).1.flow.localUnacked = e.flow.localUnacked ∧
    heldBytes (final (handleExistingTcp (.sample (.direct false)) ⟨0, 1⟩ firstPayload
      { s with kernel := clampRefused })) = ([], some ([], [])) := by
  have hrun : (replay (.sample (.direct false)) openedScript
      (Reactor.new (.sample (.direct false)) .quiet {} 0 0)).map
      (fun s => (s.flows.deferred, firstReceived s)) = some ([], some (.inOrder 3 false, 0, 0)) := by decide +kernel
  have hafter : (replay (.sample (.direct false)) openedScript
      (Reactor.new (.sample (.direct false)) .quiet {} 0 0)).map (fun s =>
        heldBytes (final (handleExistingTcp (.sample (.direct false)) ⟨0, 1⟩ firstPayload
          { s with kernel := clampRefused }))) = some ([], some ([], [])) := by decide +kernel
  obtain ⟨s, hs, hfields⟩ := Option.map_eq_some_iff.mp hrun
  rw [hs] at hafter
  simp only [Prod.mk.injEq] at hfields
  obtain ⟨hdeferred, hreceived⟩ := hfields
  obtain ⟨e, hget, hfirst⟩ := Option.map_eq_some_iff.mp hreceived
  simp only [Prod.mk.injEq] at hfirst
  exact ⟨s, e, reachable_of_replay _ openedScript (.start .quiet {} 0 0) hs, hget, hdeferred, hfirst.1,
    hfirst.2.1.trans hfirst.2.2.symm, Option.some.inj hafter⟩

end Reactor

open Reactor in
/-- The server's socket takes the first payload whole. -/
theorem accepted_payload_kept_sent : ∃ s e, Reachable (.sample (.direct false)) s ∧
    PayloadKept ⟨0, 1⟩ e firstPayload.payload { s with kernel := .quiet }
      (final (handleExistingTcp (.sample (.direct false)) ⟨0, 1⟩ firstPayload { s with kernel := .quiet })) := by
  obtain ⟨s, e, hs, hget, hdeferred, hfirst, hunacked, -⟩ := exists_opened
  refine ⟨s, e, hs, (accepted_payload_kept (.sample (.direct false)) { s with kernel := .quiet } ⟨0, 1⟩ e firstPayload
    3 false hget ?_ (fun h => Bool.false_ne_true h.1) hfirst (by decide)).mpr ⟨⟨.inr rfl, .inl hunacked⟩, ?_, .inl ?_⟩⟩
  · change _ ∉ s.flows.deferred
    rw [hdeferred]
    exact List.not_mem_nil
  · intro error h
    cases h
  · change 0 ≤ _ ∧ 0 ≤ _
    exact ⟨Nat.zero_le _, Nat.zero_le _⟩

open Reactor in
/-- The clamp fails after `receive` took the payload: it reaches neither the socket nor the queue, and the
flow stays open. -/
theorem accepted_payload_dropped :
    ¬∀ (cfg : Config) (s : Reactor) (answers : Kernel) (id : FlowId) (e : FlowEntry) (segment : TcpSegment) (n : ℕ)
      (fin : Bool), Reachable cfg s → s.flows.get id = some e → id ∉ s.flows.deferred →
      segment.flags.syn = false → (e.received segment).2 = .inOrder n fin → 0 < n →
      PayloadKept id e segment.payload s (final (handleExistingTcp cfg id segment { s with kernel := answers })) := by
  intro h
  obtain ⟨s, e, hs, hget, hdeferred, hfirst, -, hafter⟩ := exists_opened
  have hopen : (⟨0, 1⟩ : FlowId) ∉ s.flows.deferred := by
    rw [hdeferred]
    exact List.not_mem_nil
  have hkept := h _ s clampRefused ⟨0, 1⟩ e firstPayload 3 false hs hget hopen rfl hfirst (by decide)
  simp only [heldBytes, Prod.mk.injEq] at hafter
  obtain ⟨g, hg, hfields⟩ := Option.map_eq_some_iff.mp hafter.2
  simp only [Prod.mk.injEq] at hfields
  obtain ⟨g', sent, hg', hsent, hqueue⟩ | ⟨hclosed, -⟩ := hkept
  · rw [hg] at hg'
    cases hg'
    rw [hfields.1] at hsent
    rw [hfields.2] at hqueue
    have htake := (List.append_eq_nil_iff.mp hsent.symm).2
    have hdrop := (List.append_eq_nil_iff.mp hqueue.symm).2
    have hall := List.take_append_drop sent firstPayload.payload
    rw [htake, hdrop] at hall
    cases hall
  · rw [hafter.1] at hclosed
    exact List.not_mem_nil hclosed

end Yayatht
