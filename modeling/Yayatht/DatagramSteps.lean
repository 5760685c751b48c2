import Yayatht.ReactorRun
import Yayatht.FlowRunSteps
import Yayatht.RelayRecords

set_option autoImplicit false

namespace Yayatht
open EffectLogic

/-- The frame around the datagram fits and the addresses are of one family. -/
structure Fits (cfg : Config) (client gateway : SocketAddr) (payload : Bytes) : Prop where
  capacity : Reactor.udpFrameLen cfg client payload.length ≤ cfg.mtuFrameCapacity
  length : udpHeaderLen + payload.length ≤ u16Max
  family : gateway.isIpv4 = client.isIpv4

def pools (s : Reactor) : BufferPool × BufferPool × Bool := (s.framePool, s.gsoPool, s.tapStarved)

def Error.exhausted : Error := .invariant "TAP frame pool exhausted"

def Error.oversize : Error := .invariant "DNS reply exceeds frame capacity"

/-- Relations the datagram handlers respect while they dial nobody, when the datagrams they send
are allowed. -/
structure Neutral (cfg : Config) (allowed : SocketAddr → SocketAddr → Bytes → Prop) (E : Error → Prop)
    (P : Reactor → Reactor → Prop) : Prop where
  hidden : ∀ s t, core t = core s → pools t = pools s → t.timerCursorSlot = s.timerCursorSlot → P s t
  engine : ∀ s u, EngineStep s.udpEngine u → P s { s with udpEngine := u }
  associations : ∀ s u, (Recorded s.journal s.socksAssociations → Recorded s.journal u) →
    P s { s with socksAssociations := u }
  replied : ∀ s h response, P s { s with journal := .socksReply h response :: s.journal }
  errors : ∀ e, e ≠ .exhausted → e ≠ .oversize → E e
  fits : ∀ client gateway payload, Fits cfg client gateway payload → allowed client gateway payload
  reply : ∀ client gateway payload s, allowed client gateway payload →
    Tracks P E (Reactor.queueUdpFrame cfg client gateway payload) s
  icmp : ∀ key payload originalLen error s,
    Tracks P E (Reactor.queueUdpIcmpFor cfg key payload originalLen error) s

/-- Relations that also allow the peers the handlers dial. -/
structure Tolerant (cfg : Config) (allowed : SocketAddr → SocketAddr → Bytes → Prop) (E : Error → Prop)
    (P : Reactor → Reactor → Prop) : Prop extends Neutral cfg allowed E P where
  dialed : ∀ s transport peer,
    (Recorded s.journal s.socksAssociations → Dialable cfg s.journal transport peer) →
    P s { s with journal := .dialed transport peer :: s.journal }

def Attempt (opened : Option (Bool × Proxy.Handshake)) : Prop :=
  ∀ connected h, opened = some (connected, h) → h.command = .udpAssociate ∧ h.boundAddress = none

namespace Neutral

variable {cfg : Config} {allowed : SocketAddr → SocketAddr → Bytes → Prop} {E : Error → Prop}
  {P : Reactor → Reactor → Prop} (hP : Neutral cfg allowed E P)
include hP

theorem io (error : IoError) : E (.io error) := hP.errors _ (by simp [Error.exhausted]) (by simp [Error.oversize])

theorem ask {α : Type} (answers : Kernel → Stream' α) (advance : Kernel → Kernel) (s : Reactor) :
    Tracks P E (ask answers advance) s := hP.hidden s _ rfl rfl rfl

theorem refreshUdpMetrics (s : Reactor) : Tracks P E Reactor.refreshUdpMetrics s :=
  Tracks.modify (hP.hidden _ _ rfl rfl rfl)

theorem fits_udpRx {datagram : Bytes} (flow : Udp.Flow) (h : datagram.length ≤ cfg.udpRxCapacity) :
    allowed flow.key.source flow.replySource datagram := by
  refine hP.fits _ _ _ ⟨?_, ?_, flow.sameFamily.symm⟩
  · have hmtu := cfg.tapMtu_ge
    have hip : ipHeaderLen flow.key.source ≤ 40 := by
      unfold ipHeaderLen
      split <;> omega
    unfold Config.udpRxCapacity udpHeaderLen at h
    unfold Reactor.udpFrameLen Config.mtuFrameCapacity udpHeaderLen
    omega
  · have hmtu := cfg.tapMtu_le
    unfold Config.udpRxCapacity udpHeaderLen at h
    unfold u16Max udpHeaderLen
    omega

theorem countAcceptError (error : Udp.AcceptError) (s : Reactor) :
    Tracks P E (Reactor.countAcceptError error) s := by
  refine Tracks.modify ?_
  cases error <;> exact hP.hidden _ _ rfl rfl rfl

variable [IsPreorder Reactor P]

theorem orThrow {α : Type} (r : Except IoError α) (s : Reactor) : Tracks P E (orThrow r) s := by
  cases r with
  | ok a => exact Tracks.pure a
  | error e => exact Tracks.throw (hP.io e)

theorem asked {α : Type} (answers : Kernel → Stream' (Except IoError α)) (advance : Kernel → Kernel)
    (s : Reactor) : Tracks P E (do Yayatht.orThrow (← Yayatht.ask answers advance)) s :=
  Tracks.bind (hP.ask _ _ s) fun r t _ => hP.orThrow r t

theorem ensure {α : Type} (text : String) (o : Option α) (s : Reactor)
    (h : text ≠ "TAP frame pool exhausted") (h' : text ≠ "DNS reply exceeds frame capacity") :
    Tracks P E (ensure text o) s := by
  cases o with
  | some a => exact Tracks.pure a
  | none =>
    refine Tracks.throw (e := Error.invariant text) (hP.errors _ ?_ ?_)
    · simpa [Error.exhausted] using h
    · simpa [Error.oversize] using h'

theorem expect {α : Type} (text : String) (o : Option α) (s : Reactor) : Tracks P E (expect text o) s := by
  cases o with
  | some a => exact Tracks.pure a
  | none => exact Tracks.throw (e := Error.panic text) (hP.errors _ (by simp [Error.exhausted])
      (by simp [Error.oversize]))

theorem ensure_bind {α β : Type} {text : String} {o : Option α} {f : α → Io β} {s : Reactor}
    (h : text ≠ "TAP frame pool exhausted") (h' : text ≠ "DNS reply exceeds frame capacity")
    (hf : ∀ a, o = some a → Tracks P E (f a) s) : Tracks P E (Yayatht.ensure text o >>= f) s := by
  cases o with
  | some a => exact hf a rfl
  | none => exact (hP.ensure text none s h h' : Tracks P E (Yayatht.ensure text (none : Option α)) s)

theorem epollDelete (s : Reactor) : Tracks P E Call.epollDelete s := hP.asked _ _ s

theorem deleteIf (registered : Bool) (s : Reactor) : Tracks P E (Reactor.deleteIf registered) s := by
  unfold Reactor.deleteIf
  split
  · exact hP.epollDelete s
  · exact Tracks.pure ()

theorem dropUdpSocket (id : FlowId) (s : Reactor) : Tracks P E (Reactor.dropUdpSocket id) s := by
  unfold Reactor.dropUdpSocket
  refine Tracks.get_bind ?_
  split
  · exact Tracks.bind (Tracks.set (hP.hidden _ _ rfl rfl rfl)) fun _ t _ => hP.epollDelete t
  · exact Tracks.pure ()

theorem removeSocksAssociation (id : FlowId) (s : Reactor) :
    Tracks P E (Reactor.removeSocksAssociation id) s := by
  unfold Reactor.removeSocksAssociation
  refine Tracks.get_bind ?_
  split
  · exact Tracks.pure ()
  · refine Tracks.bind (Tracks.set ?_) fun _ t _ => ?_
    · exact hP.associations s _ fun hr => hr.modify id fun _ => .inl rfl
    refine Tracks.bind (hP.deleteIf _ t) fun _ t _ => Tracks.bind (hP.deleteIf _ t) fun _ t _ => ?_
    refine Tracks.modify (IsTrans.trans _ _ _ (hP.associations t _ fun hr => hr.remove id) ?_)
    exact hP.hidden _ _ rfl rfl rfl

theorem closeUdpFlow (id : FlowId) (s : Reactor) : Tracks P E (Reactor.closeUdpFlow id) s := by
  unfold Reactor.closeUdpFlow
  refine Tracks.get_bind ?_
  split
  · exact Tracks.pure ()
  · refine Tracks.bind (Tracks.set ?_) fun _ t _ => ?_
    · exact IsTrans.trans _ _ _ (hP.engine s _ (.remove id)) (hP.hidden _ _ rfl rfl rfl)
    refine Tracks.bind (hP.dropUdpSocket id t) fun _ t _ => ?_
    refine Tracks.bind (Tracks.modify (hP.hidden _ _ rfl rfl rfl)) fun _ t _ => Tracks.get_bind ?_
    split
    · exact hP.refreshUdpMetrics t
    · split
      · exact Tracks.bind (hP.removeSocksAssociation _ t) fun _ t _ => hP.refreshUdpMetrics t
      · exact hP.refreshUdpMetrics t

theorem queueUdpIcmpError (id : FlowId) (error : UdpError) (s : Reactor) :
    Tracks P E (Reactor.queueUdpIcmpError cfg id error) s := by
  unfold Reactor.queueUdpIcmpError
  refine Tracks.get_bind ?_
  split
  · exact hP.icmp _ _ _ _ s
  · exact Tracks.pure ()

theorem relayUdpErrors (id : FlowId) (errors : List UdpSocketError) (s : Reactor) :
    Tracks P E (Reactor.relayUdpErrors cfg id errors) s := by
  induction errors generalizing s with
  | nil => exact Tracks.pure true
  | cons error errors ih =>
    unfold Reactor.relayUdpErrors
    refine Tracks.bind (Tracks.modify (hP.hidden _ _ rfl rfl rfl)) fun _ t _ => Tracks.get_bind ?_
    split
    · exact Tracks.pure false
    · split
      · split
        · exact Tracks.bind (hP.queueUdpIcmpError id _ t) fun _ t _ => ih t
        · exact Tracks.bind (Tracks.modify (hP.hidden _ _ rfl rfl rfl)) fun _ t _ => ih t
      · exact Tracks.bind (Tracks.modify (hP.hidden _ _ rfl rfl rfl)) fun _ t _ => ih t

theorem handleUdpErrors (id : FlowId) (s : Reactor) : Tracks P E (Reactor.handleUdpErrors cfg id) s := by
  unfold Reactor.handleUdpErrors
  refine Tracks.get_bind ?_
  split
  · refine Tracks.bind (hP.ask _ _ s) fun answer t _ => ?_
    refine Tracks.bind (hP.relayUdpErrors id _ t) fun alive t _ => ?_
    split
    · split
      · exact Tracks.pure ()
      · exact hP.closeUdpFlow id t
    · exact Tracks.pure ()
  · exact Tracks.pure ()

theorem receiveUdpDatagram (id : FlowId) (datagram : Bytes) (s : Reactor) :
    Tracks P E (Reactor.receiveUdpDatagram cfg id datagram) s := by
  unfold Reactor.receiveUdpDatagram
  split
  · exact Tracks.bind (Tracks.modify (hP.hidden _ _ rfl rfl rfl)) fun _ t _ => Tracks.pure true
  · rename_i hle
    refine Tracks.get_bind ?_
    split
    · exact Tracks.pure false
    · rename_i flow _
      refine Tracks.bind (hP.ask _ _ s) fun now t _ => ?_
      refine Tracks.bind (Tracks.modify ?_) fun _ t _ => ?_
      · exact IsTrans.trans _ _ _ (hP.engine t _ (.inbound id now)) (hP.hidden _ _ rfl rfl rfl)
      refine Tracks.bind (hP.reply _ _ _ t (hP.fits_udpRx flow (Nat.le_of_not_gt hle))) fun queued t _ => ?_
      split
      · exact Tracks.pure true
      · exact Tracks.bind (Tracks.modify (hP.hidden _ _ rfl rfl rfl)) fun _ t _ => Tracks.pure true

theorem receiveUdpDatagrams (id : FlowId) (budget : ℕ) (s : Reactor) :
    Tracks P E (Reactor.receiveUdpDatagrams cfg id budget) s := by
  induction budget generalizing s with
  | zero => exact Tracks.pure ()
  | succ budget ih =>
    unfold Reactor.receiveUdpDatagrams
    refine Tracks.bind (hP.ask _ _ s) fun answer t _ => ?_
    split
    · refine Tracks.bind (hP.receiveUdpDatagram id _ t) fun alive t _ => ?_
      split
      · exact ih t
      · exact Tracks.pure ()
    · exact Tracks.pure ()
    · split
      · exact hP.handleUdpErrors id t
      · exact hP.closeUdpFlow id t

theorem handleUdpSocket (id : FlowId) (events : UInt32) (s : Reactor) :
    Tracks P E (Reactor.handleUdpSocket cfg id events) s := by
  unfold Reactor.handleUdpSocket
  refine Tracks.get_bind ?_
  split
  · exact Tracks.pure ()
  refine Tracks.when_bind (fun _ => hP.handleUdpErrors id s) fun t _ => Tracks.get_bind ?_
  split
  · exact Tracks.pure ()
  split
  · exact hP.receiveUdpDatagrams id _ t
  · exact Tracks.pure ()

theorem sendUdpDatagram (id : FlowId) (source : SocketAddr) (message : Bytes) (s : Reactor) :
    Tracks P E (Reactor.sendUdpDatagram cfg id source message) s := by
  unfold Reactor.sendUdpDatagram
  refine Tracks.get_bind ?_
  split
  · refine Tracks.bind (Tracks.set (hP.hidden _ _ rfl rfl rfl)) fun _ t _ => ?_
    refine Tracks.bind (Tracks.bind (hP.ask _ _ t) fun _ t _ => Tracks.pure _) fun answer t _ => ?_
    split
    · split <;> exact Tracks.modify (hP.hidden _ _ rfl rfl rfl)
    · exact Tracks.modify (hP.hidden _ _ rfl rfl rfl)
    · split
      · exact hP.queueUdpIcmpError id _ t
      · exact hP.closeUdpFlow id t
  · exact Tracks.throw (hP.errors _ (by decide) (by decide))

theorem acceptUdp (key : Udp.FlowKey) (replySource : SocketAddr) (now : Millis) (s : Reactor) :
    Tracks P E (Reactor.acceptUdp key replySource now) s :=
  Tracks.get_bind (Tracks.bind (Tracks.set (hP.engine s _ (.accept key replySource now))) fun _ _ _ =>
    Tracks.pure _)

theorem countUdpCreated (accepted : Udp.Accept) (s : Reactor) :
    Tracks P E (Reactor.countUdpCreated accepted) s :=
  Tracks.bind (Tracks.modify (hP.hidden _ _ rfl rfl rfl)) fun _ t _ => hP.refreshUdpMetrics t

/-- A call that records its peer before the kernel answers. -/
theorem dial {α : Type} (transport : Transport) (peer : SocketAddr) (answers : Kernel → Stream' α)
    (advance : Kernel → Kernel) (s : Reactor)
    (h : P s { s with journal := .dialed transport peer :: s.journal }) :
    Tracks P E (do note (.dialed transport peer); Yayatht.ask answers advance) s :=
  Tracks.bind (Tracks.modify h) fun _ t _ => hP.ask _ _ t

theorem openUdpSocket (accepted : Udp.Accept) (peer : SocketAddr) (s : Reactor)
    (hdial : P s { s with journal := .dialed .datagram peer :: s.journal }) :
    Tracks P E (Reactor.openUdpSocket accepted peer) s := by
  unfold Reactor.openUdpSocket
  refine Tracks.bind (hP.dial _ _ _ _ s hdial) fun answer t _ => ?_
  split
  · refine Tracks.bind (Tracks.modify (hP.engine t _ (.remove accepted.id))) fun _ t _ => ?_
    exact Tracks.bind (hP.refreshUdpMetrics t) fun _ _ _ => Tracks.pure false
  · split
    · refine Tracks.bind (hP.asked _ _ t) fun _ t _ => ?_
      refine Tracks.bind (Tracks.modify (hP.hidden _ _ rfl rfl rfl)) fun _ t _ => ?_
      exact Tracks.bind (hP.countUdpCreated accepted t) fun _ _ _ => Tracks.pure true
    · exact Tracks.throw (hP.errors _ (by decide) (by decide))

theorem forwardDirectUdp (source target transportTarget : SocketAddr) (message : Bytes) (s : Reactor)
    (hdial : ∀ s : Reactor, P s { s with journal := .dialed .datagram transportTarget :: s.journal }) :
    Tracks P E (Reactor.forwardDirectUdp cfg source target transportTarget message) s := by
  unfold Reactor.forwardDirectUdp
  refine Tracks.bind (hP.ask _ _ s) fun now t _ => ?_
  refine Tracks.bind (hP.acceptUdp _ _ now t) fun answer t _ => ?_
  split
  · exact hP.countAcceptError _ t
  · split
    · refine Tracks.bind (hP.openUdpSocket _ _ t (hdial t)) fun ready t _ => ?_
      cases ready with
      | true => exact hP.sendUdpDatagram _ source message t
      | false => exact Tracks.pure ()
    · exact hP.sendUdpDatagram _ source message t

end Neutral

namespace Tolerant

variable {cfg : Config} {allowed : SocketAddr → SocketAddr → Bytes → Prop} {E : Error → Prop}
  {P : Reactor → Reactor → Prop} (hP : Tolerant cfg allowed E P)
include hP

/-- A change of an association that leaves its handshake alone or drops it. -/
theorem modifyAssociation (id : FlowId) {f : SocksAssociation → SocksAssociation} (s : Reactor)
    (hf : ∀ a, (f a).handshake = a.handshake ∨ (f a).handshake = none) :
    Tracks P E (Reactor.modifyAssociation id f) s :=
  Tracks.modify (hP.associations s _ fun hr => hr.modify id hf)

theorem setDnsHandshake (h : Proxy.Handshake) (s : Reactor) : Tracks P E (Reactor.setDnsHandshake h) s := by
  refine Tracks.modify ?_
  split <;> exact hP.hidden _ _ rfl rfl rfl

variable [IsPreorder Reactor P]

theorem scheduleSocksRebuild (id : FlowId) (s : Reactor) :
    Tracks P E (Reactor.scheduleSocksRebuild id) s := by
  unfold Reactor.scheduleSocksRebuild
  refine Tracks.get_bind ?_
  split
  · exact Tracks.pure ()
  refine Tracks.bind (hP.modifyAssociation id s fun _ => .inr rfl) fun _ t _ => ?_
  refine Tracks.bind (hP.deleteIf _ t) fun _ t _ => Tracks.bind (hP.deleteIf _ t) fun _ t _ => ?_
  refine Tracks.bind (hP.asked _ _ t) fun _ t _ => Tracks.bind (hP.ask _ _ t) fun _ t _ => ?_
  refine Tracks.bind (hP.modifyAssociation id t fun _ => .inl rfl) fun _ t _ => ?_
  exact Tracks.modify (hP.hidden _ _ rfl rfl rfl)

theorem association_bind {β : Type} {id : FlowId} {f : SocksAssociation → Io β} {s : Reactor}
    (hf : ∀ a, s.socksAssociations.get id = some a → Tracks P E (f a) s) :
    Tracks P E (Reactor.association id >>= f) s := by
  rw [Reactor.association, bind_assoc]
  exact Tracks.get_bind (hP.ensure_bind (by decide) (by decide) hf)

theorem queueSocksDatagram (id : FlowId) (target : SocketAddr) (payload : Bytes) (s : Reactor) :
    Tracks P E (Reactor.queueSocksDatagram id target payload) s := by
  unfold Reactor.queueSocksDatagram
  refine hP.association_bind fun a _ => ?_
  dsimp only
  split
  · exact Tracks.modify (hP.hidden _ _ rfl rfl rfl)
  · exact hP.modifyAssociation id s fun _ => .inl rfl

theorem send (length : ℕ) (s : Reactor) : Tracks P E (Call.send length) s :=
  Tracks.bind (hP.ask _ _ s) fun _ _ _ => Tracks.pure _

theorem send_bind {β : Type} {length : ℕ} {f : Except IoError ℕ → Io β} {s : Reactor}
    (hf : ∀ answer kernel, Tracks P E (f answer) { s with kernel := kernel }) :
    Tracks P E (Call.send length >>= f) s := by
  refine Ends.bind (R := fun _ t => ∃ kernel, t = { s with kernel := kernel }) ⟨_, rfl⟩ ?_
  rintro answer _ ⟨kernel, rfl⟩
  exact Tracks.after (hP.hidden s { s with kernel := kernel } rfl rfl rfl) (hf answer kernel)

theorem recv (capacity : ℕ) (s : Reactor) : Tracks P E (Call.recv capacity) s :=
  Tracks.bind (hP.ask _ _ s) fun _ _ _ => Tracks.pure _

theorem sendSocksDatagram (id : FlowId) (target : SocketAddr) (payload : Bytes) (s : Reactor) :
    Tracks P E (Reactor.sendSocksDatagram cfg id target payload) s := by
  unfold Reactor.sendSocksDatagram
  refine hP.association_bind fun a _ => ?_
  split
  · exact hP.queueSocksDatagram id target payload s
  split
  · exact Tracks.throw (hP.errors _ (by decide) (by decide))
  refine Tracks.bind (hP.ensure _ _ s (by decide) (by decide)) fun _ t _ => ?_
  refine Tracks.bind (hP.send _ t) fun answer t _ => ?_
  split
  · split <;> exact Tracks.modify (hP.hidden _ _ rfl rfl rfl)
  · exact Tracks.modify (hP.hidden _ _ rfl rfl rfl)
  · exact hP.scheduleSocksRebuild id t

theorem promoteAssociation (id : FlowId) (bound : Proxy.SocksAddress) (proxy : SocketAddr) (s : Reactor)
    (hproxy : Reactor.proxyAddress cfg = some proxy)
    (hbound : Recorded s.journal s.socksAssociations → Answered s.journal bound) :
    Tracks P E (Reactor.promoteAssociation id bound proxy) s := by
  unfold Reactor.promoteAssociation
  split
  · exact hP.scheduleSocksRebuild id s
  rename_i endpoint hendpoint
  refine hP.association_bind fun a _ => ?_
  split
  · exact Tracks.throw (hP.errors _ (by decide) (by decide))
  split
  · exact hP.scheduleSocksRebuild id s
  refine Tracks.bind (hP.dial .datagram endpoint _ _ s (hP.dialed s _ _ ?_)) fun answer t _ => ?_
  · intro hr protocol address credentials hcfg
    unfold Reactor.proxyAddress at hproxy
    rw [hcfg] at hproxy
    cases hproxy
    exact ⟨bound, hbound hr, hendpoint⟩
  split
  · exact hP.scheduleSocksRebuild id t
  · exact Tracks.bind (hP.asked _ _ t) fun _ t _ => hP.modifyAssociation id t fun _ => .inr rfl

theorem consumeSocksRounds (id : FlowId) (rounds : ℕ) (s : Reactor) :
    Tracks P E (Reactor.consumeSocksRounds id rounds) s := by
  induction rounds generalizing s with
  | zero => exact Tracks.pure true
  | succ rounds ih =>
    unfold Reactor.consumeSocksRounds
    refine hP.association_bind fun a ha => hP.ensure_bind (by decide) (by decide) fun h hh => ?_
    split
    · -- the reply is on record before the handshake takes its bound address
      have hreplied := hP.replied s h a.response
      refine Ends.bind (R := fun _ t => t = { s with journal := .socksReply h a.response :: s.journal })
        (Ends.modify rfl) ?_
      rintro _ t rfl
      refine Tracks.after hreplied ?_
      dsimp only
      refine Tracks.bind (Tracks.modify (hP.associations _ _ fun hr => ?_)) fun _ t _ => ?_
      · refine hr.withHandshake id (fun _ => rfl) ?_ fun bound hbound => ?_
        · rw [Proxy.Handshake.receive_command]
          exact (hr id a h ha hh).1
        · exact hr.received ha hh a.response List.mem_cons_self hbound
      split
      · exact Tracks.bind (hP.scheduleSocksRebuild id t) fun _ _ _ => Tracks.pure false
      · exact Tracks.pure true
      · exact Tracks.bind (hP.modifyAssociation id t fun _ => .inl rfl) fun _ t _ => ih t
    · exact Tracks.pure true

theorem consumeSocksResponse (id : FlowId) (s : Reactor) :
    Tracks P E (Reactor.consumeSocksResponse cfg id) s := by
  unfold Reactor.consumeSocksResponse
  refine hP.association_bind fun a _ => ?_
  refine Tracks.bind (hP.consumeSocksRounds id _ s) fun more t _ => ?_
  split
  · refine Tracks.get_bind ?_
    split
    · exact Tracks.pure ()
    rename_i h hh
    obtain ⟨a, ha, hah⟩ := Option.bind_eq_some_iff.mp hh
    split
    · refine hP.ensure_bind (by decide) (by decide) fun bound hbound => ?_
      refine hP.ensure_bind (by decide) (by decide) fun proxy hproxy => ?_
      exact hP.promoteAssociation id bound proxy t hproxy fun hr => (hr id a h ha hah).2 bound hbound
    · exact Tracks.pure ()
  · exact Tracks.pure ()

theorem flushSocksOutput (id : FlowId) (s : Reactor) : Tracks P E (Reactor.flushSocksOutput id) s := by
  have hfail : ∀ t, Tracks P E (Reactor.scheduleSocksRebuild id >>= fun _ => pure false) t := fun t =>
    Tracks.bind (hP.scheduleSocksRebuild id t) fun _ _ _ => Tracks.pure false
  unfold Reactor.flushSocksOutput
  refine hP.association_bind fun a ha => hP.ensure_bind (by decide) (by decide) fun h hh => ?_
  split
  · exact Tracks.pure true
  refine hP.send_bind fun answer k => ?_
  split
  · exact hfail _
  · dsimp only
    refine Tracks.bind (Tracks.modify (hP.associations _ _ fun hr => ?_)) fun _ t _ => ?_
    · obtain ⟨hcommand, hbound⟩ := hr id a h ha hh
      refine hr.withHandshake id (fun _ => rfl) ?_ fun bound hb => ?_
      · rw [Proxy.Handshake.advanceOutput_command]
        exact hcommand
      · rw [Proxy.Handshake.advanceOutput_boundAddress] at hb
        exact hbound bound hb
    split
    · exact Tracks.pure true
    · exact hfail t
  · exact Tracks.pure true
  · exact hfail _

theorem readSocksControl (id : FlowId) (rounds : ℕ) (s : Reactor) :
    Tracks P E (Reactor.readSocksControl id rounds) s := by
  have hfail : ∀ t, Tracks P E (Reactor.scheduleSocksRebuild id >>= fun _ => pure false) t := fun t =>
    Tracks.bind (hP.scheduleSocksRebuild id t) fun _ _ _ => Tracks.pure false
  induction rounds generalizing s with
  | zero => exact Tracks.pure true
  | succ rounds ih =>
    unfold Reactor.readSocksControl
    refine Tracks.bind (hP.recv _ s) fun answer t _ => ?_
    split
    · exact hfail t
    · refine hP.association_bind fun a _ => ?_
      split
      · exact hfail t
      · exact Tracks.bind (hP.modifyAssociation id t fun _ => .inl rfl) fun _ t _ => ih t
    · exact Tracks.pure true
    · exact hfail t

theorem concludeSocksControl (id : FlowId) (s : Reactor) :
    Tracks P E (Reactor.concludeSocksControl cfg id) s := by
  unfold Reactor.concludeSocksControl
  refine Tracks.bind (hP.consumeSocksResponse id s) fun _ t _ => Tracks.get_bind ?_
  split
  · exact hP.asked _ _ t
  · exact Tracks.pure ()

theorem finishSocksConnect (id : FlowId) (events : UInt32) (s : Reactor) :
    Tracks P E (Reactor.finishSocksConnect id events) s := by
  unfold Reactor.finishSocksConnect
  split
  · refine Tracks.bind (hP.asked _ _ s) fun _ t _ => ?_
    split
    · exact Tracks.bind (hP.scheduleSocksRebuild id t) fun _ _ _ => Tracks.pure false
    · exact Tracks.bind (hP.modifyAssociation id t fun _ => .inl rfl) fun _ _ _ => Tracks.pure true
  · exact Tracks.pure false

theorem driveSocksControl (id : FlowId) (events : UInt32) (s : Reactor) :
    Tracks P E (Reactor.driveSocksControl cfg id events) s := by
  unfold Reactor.driveSocksControl
  refine hP.association_bind fun a _ => ?_
  split
  · exact Tracks.throw (hP.errors _ (by decide) (by decide))
  refine Tracks.either_bind (fun _ => hP.finishSocksConnect id events s) (fun _ => Tracks.pure true)
    fun connected t _ => ?_
  cases connected with
  | false => exact Tracks.pure ()
  | true =>
    refine Tracks.either_bind (fun _ => hP.flushSocksOutput id t) (fun _ => Tracks.pure true)
      fun sent t _ => ?_
    cases sent with
    | false => exact Tracks.pure ()
    | true =>
      refine Tracks.either_bind (fun _ => hP.readSocksControl id _ t) (fun _ => Tracks.pure true)
        fun read t _ => ?_
      cases read with
      | false => exact Tracks.pure ()
      | true => exact hP.concludeSocksControl id t

theorem openSocksSockets (proxy : SocketAddr) (credentials : Option Proxy.Credentials) (s : Reactor)
    (hproxy : ∀ journal, Dialable cfg journal .stream proxy) :
    Ends (Reactor.openSocksSockets proxy credentials) s (fun opened t => P s t ∧ Attempt opened)
      fun e t => P s t ∧ E e := by
  have hnone : ∀ {t : Reactor}, P s t →
      Ends (pure none : Io (Option (Bool × Proxy.Handshake))) t (fun opened t => P s t ∧ Attempt opened)
        fun e t => P s t ∧ E e := fun ht => ⟨ht, fun _ _ h => by cases h⟩
  have hnext : ∀ {α β : Type} {m : Io α} {f : α → Io β} {Q : β → Reactor → Prop} {t : Reactor},
      P s t → Tracks P E m t → (∀ a u, P s u → Ends (f a) u Q fun e v => P s v ∧ E e) →
      Ends (m >>= f) t Q fun e v => P s v ∧ E e := fun ht hm hf =>
    Ends.bind (Tracks.after ht hm) fun a u hu => hf a u hu
  unfold Reactor.openSocksSockets
  refine hnext (Std.Refl.refl s) (hP.ask _ _ s) fun bound t ht => ?_
  split
  · exact hnone ht
  refine hnext ht (hP.ask _ _ t) fun relay t ht => ?_
  split
  · exact hnone ht
  refine hnext ht (hP.dial _ _ _ _ t (hP.dialed t _ _ fun _ => hproxy _)) fun connected t ht => ?_
  split
  · exact hnone ht
  refine hnext ht (hP.ask _ _ t) fun control t ht => ?_
  split
  · exact hnone ht
  split
  · exact hnone ht
  rename_i handshake hnew
  refine ⟨ht, fun connected h heq => ?_⟩
  cases heq
  exact Proxy.Handshake.new_fresh hnew

theorem rebuildSocksAssociation (id : FlowId) (s : Reactor) :
    Tracks P E (Reactor.rebuildSocksAssociation cfg id) s := by
  unfold Reactor.rebuildSocksAssociation
  split
  · rename_i address credentials hcfg
    refine Tracks.get_bind
      (Ends.bind (hP.openSocksSockets address credentials s fun _ => Dialable.proxy hcfg) ?_)
    rintro opened t ⟨ht, hopened⟩
    refine Tracks.after ht ?_
    split
    · exact hP.scheduleSocksRebuild id t
    rename_i connected handshake
    obtain ⟨hcommand, hbound⟩ := hopened connected handshake rfl
    split
    · refine Tracks.bind (hP.asked _ _ t) fun _ t _ => hP.association_bind fun a _ => ?_
      refine Tracks.bind (Tracks.modify (hP.associations _ _ fun hr => ?_)) fun _ t _ => ?_
      · refine hr.withHandshake id (fun _ => rfl) hcommand fun bound hb => ?_
        rw [hbound] at hb
        cases hb
      refine Tracks.bind (Tracks.modify (hP.hidden _ _ rfl rfl rfl)) fun _ t _ => ?_
      split
      · exact hP.driveSocksControl id _ t
      · exact Tracks.pure ()
    · exact Tracks.throw (hP.errors _ (by decide) (by decide))
  · exact Tracks.throw (hP.errors _ (by decide) (by decide))

theorem associationFor (source : SocketAddr) (now : Millis) (s : Reactor) :
    Tracks P E (Reactor.associationFor cfg source now) s := by
  unfold Reactor.associationFor
  refine Tracks.get_bind ?_
  split
  · exact Tracks.pure _
  dsimp only
  refine Tracks.bind (Tracks.set (hP.associations s _ fun hr => hr.insert rfl)) fun _ t _ => ?_
  refine Tracks.bind (hP.ensure _ _ t (by decide) (by decide)) fun id t _ => ?_
  refine Tracks.bind (Tracks.modify (hP.hidden _ _ rfl rfl rfl)) fun _ t _ => ?_
  exact Tracks.bind (hP.rebuildSocksAssociation id t) fun _ _ _ => Tracks.pure id

theorem handleSocksUdpRouted (source target replySource : SocketAddr) (message : Bytes) (s : Reactor) :
    Tracks P E (Reactor.handleSocksUdpRouted cfg source target replySource message) s := by
  unfold Reactor.handleSocksUdpRouted
  refine Tracks.bind (hP.ask _ _ s) fun now t _ => ?_
  refine Tracks.bind (hP.acceptUdp _ _ now t) fun answer t _ => ?_
  split
  · exact hP.countAcceptError _ t
  refine Tracks.when_bind (fun _ => hP.countUdpCreated _ t) fun t _ => ?_
  refine Tracks.bind (hP.associationFor source now t) fun id t _ => Tracks.get_bind ?_
  split
  · exact hP.sendSocksDatagram id target message t
  · exact hP.queueSocksDatagram id target message t

theorem handleSocksControl (id : FlowId) (events : UInt32) (s : Reactor) :
    Tracks P E (Reactor.handleSocksControl cfg id events) s := by
  unfold Reactor.handleSocksControl
  refine Tracks.get_bind ?_
  split
  · exact Tracks.pure ()
  split
  · exact Tracks.pure ()
  refine Tracks.either_bind (fun _ => ?_) (fun _ => Tracks.pure false) fun failed t _ => ?_
  · exact Tracks.bind (hP.asked _ _ s) fun _ _ _ => Tracks.pure _
  dsimp only
  split
  · exact hP.scheduleSocksRebuild id t
  split
  · split
    · refine Tracks.bind (hP.recv _ t) fun answer t _ => ?_
      split
      · exact hP.scheduleSocksRebuild id t
      · exact Tracks.pure ()
      · exact Tracks.pure ()
      · exact hP.scheduleSocksRebuild id t
    · exact Tracks.pure ()
  · exact hP.driveSocksControl id events t

theorem sendPendingSocks (id : FlowId) (pending : List (SocketAddr × Bytes)) (s : Reactor) :
    Tracks P E (Reactor.sendPendingSocks cfg id pending) s := by
  induction pending generalizing s with
  | nil => exact Tracks.pure ()
  | cons datagram pending ih =>
    unfold Reactor.sendPendingSocks
    refine Tracks.get_bind ?_
    split
    · exact Tracks.bind (hP.sendSocksDatagram id _ _ s) fun _ t _ => ih t
    · exact Tracks.pure ()

theorem activateEach (ids : List FlowId) (s : Reactor) : Tracks P E (Reactor.activateEach cfg ids) s := by
  induction ids generalizing s with
  | nil => exact Tracks.pure ()
  | cons id ids ih =>
    unfold Reactor.activateEach
    refine Tracks.bind ?_ fun _ t _ => ih t
    unfold Reactor.activateSocksAssociation
    refine Tracks.get_bind (Tracks.bind (hP.expect _ _ s) fun _ t _ => ?_)
    refine Tracks.bind (hP.asked _ _ t) fun _ t _ => ?_
    refine Tracks.bind (hP.modifyAssociation id t fun _ => .inl rfl) fun _ t _ => ?_
    exact hP.sendPendingSocks id _ t

theorem activateSocksAssociations (s : Reactor) : Tracks P E (Reactor.activateSocksAssociations cfg) s :=
  Tracks.get_bind (hP.activateEach _ s)

theorem relayDatagram (source : SocketAddr) (datagram : Bytes) (s : Reactor)
    (hallowed : ∀ id flow target payload, datagram.length ≤ cfg.socksBufferCapacity →
      SocksUdp.decode datagram = .ok ⟨.socket target, payload⟩ →
      s.udpEngine.idForKey ⟨source, target⟩ = some id → s.udpEngine.flow id = some flow →
      allowed source flow.replySource payload) :
    Tracks P E (Reactor.relayDatagram cfg source datagram) s := by
  unfold Reactor.relayDatagram Reactor.relayDatagram.countUnknown
  split
  · exact Tracks.modify (hP.hidden _ _ rfl rfl rfl)
  rename_i hle
  split
  · exact Tracks.modify (hP.hidden _ _ rfl rfl rfl)
  · exact Tracks.modify (hP.hidden _ _ rfl rfl rfl)
  · exact Tracks.modify (hP.hidden _ _ rfl rfl rfl)
  · rename_i target payload hdecode
    refine Tracks.get_bind ?_
    split
    · exact Tracks.modify (hP.hidden _ _ rfl rfl rfl)
    · rename_i id hid
      refine Ends.bind (R := fun _ t => P s t ∧ t.udpEngine = s.udpEngine) ⟨hP.hidden _ _ rfl rfl rfl, rfl⟩ ?_
      rintro now t ⟨ht, hengine⟩
      refine Ends.bind (R := fun _ u => P s u ∧ u.udpEngine = t.udpEngine.recordInbound id now)
        (Ends.modify ⟨?_, rfl⟩) ?_
      · refine IsTrans.trans _ _ _ ht ?_
        exact IsTrans.trans _ _ _ (hP.engine t _ (.inbound id now)) (hP.hidden _ _ rfl rfl rfl)
      rintro _ u ⟨hu, hinbound⟩
      refine Tracks.after hu (Tracks.get_bind ?_)
      cases hflow : u.udpEngine.flow id with
      | none => exact Tracks.throw (hP.errors _ (by decide) (by decide))
      | some flow =>
        rw [show Yayatht.expect "flow was found by key" (some flow) = (pure flow : Io Udp.Flow) from rfl,
          pure_bind]
        rw [hinbound, hengine] at hflow
        obtain ⟨old, hold, -, hreply⟩ := Udp.Engine.flow_recordInbound hflow
        have ha : allowed source flow.replySource payload := by
          rw [hreply]
          exact hallowed id old target payload (Nat.le_of_not_gt hle) hdecode hid hold
        refine Tracks.when_bind (fun _ => Tracks.modify (hP.hidden _ _ rfl rfl rfl)) fun v _ => ?_
        refine Tracks.bind (hP.reply _ _ _ v ha) fun queued v _ => ?_
        split
        · exact Tracks.pure ()
        · exact Tracks.modify (hP.hidden _ _ rfl rfl rfl)

theorem relayDatagrams (id : FlowId) (source : SocketAddr) (budget : ℕ) (s : Reactor)
    (hallowed : ∀ client gateway payload, allowed client gateway payload) :
    Tracks P E (Reactor.relayDatagrams cfg id source budget) s := by
  induction budget generalizing s with
  | zero => exact Tracks.pure ()
  | succ budget ih =>
    unfold Reactor.relayDatagrams
    refine Tracks.bind (hP.ask _ _ s) fun answer t _ => ?_
    split
    · exact Tracks.bind (hP.relayDatagram source _ t fun _ _ _ _ _ _ _ _ => hallowed _ _ _) fun _ t _ => ih t
    · exact Tracks.pure ()
    · exact hP.scheduleSocksRebuild id t

theorem handleSocksRelay (id : FlowId) (events : UInt32) (s : Reactor)
    (hallowed : ∀ client gateway payload, allowed client gateway payload) :
    Tracks P E (Reactor.handleSocksRelay cfg id events) s := by
  unfold Reactor.handleSocksRelay
  refine Tracks.get_bind ?_
  split
  · exact Tracks.pure ()
  split
  · exact Tracks.pure ()
  split
  · exact Tracks.throw (hP.errors _ (by decide) (by decide))
  split
  · refine Tracks.bind (hP.ask _ _ s) fun answer t _ => ?_
    refine Tracks.bind (Tracks.modify (hP.hidden _ _ rfl rfl rfl)) fun _ t _ => ?_
    exact Tracks.bind (hP.orThrow _ t) fun _ t _ => hP.scheduleSocksRebuild id t
  split
  · exact hP.relayDatagrams id _ _ s hallowed
  · exact Tracks.pure ()

theorem queueDnsReply (endpoints : Dns.Endpoints) (payload : Bytes) (s : Reactor)
    (h : payload.length ≤ max (Dns.headerLen + Dns.maxQuestionBytes) (Reactor.dnsFrameLimit cfg)) :
    Tracks P E (Reactor.queueDnsReply cfg endpoints payload) s := by
  have hlen : payload.length ≤ cfg.tapMtu - 48 := by
    have hmtu := cfg.tapMtu_ge
    unfold Reactor.dnsFrameLimit Config.mtuFrameCapacity Dns.headerLen Dns.maxQuestionBytes
      udpHeaderLen at h
    omega
  have hip : ipHeaderLen endpoints.client ≤ 40 := by
    unfold ipHeaderLen
    split <;> omega
  have hmtu := cfg.tapMtu_ge
  have hmax := cfg.tapMtu_le
  have hfits : Fits cfg endpoints.client endpoints.gateway payload := by
    refine ⟨?_, ?_, endpoints.sameFamily.symm⟩
    · unfold Reactor.udpFrameLen Config.mtuFrameCapacity udpHeaderLen
      omega
    · unfold udpHeaderLen u16Max
      omega
  unfold Reactor.queueDnsReply
  refine Tracks.bind (hP.reply _ _ _ s (hP.fits _ _ _ hfits)) fun queued t _ => ?_
  split
  · exact Tracks.pure ()
  · exact Tracks.modify (hP.hidden _ _ rfl rfl rfl)

theorem failTransactions (failed : List (Dns.Transaction × Bytes)) (s : Reactor)
    (h : ∀ entry ∈ failed, entry.2 = entry.1.servfail) :
    Tracks P E (Reactor.failTransactions cfg failed) s := by
  induction failed generalizing s with
  | nil => exact Tracks.pure ()
  | cons entry failed ih =>
    obtain ⟨transaction, reply⟩ := entry
    unfold Reactor.failTransactions
    refine Tracks.bind (Tracks.modify (hP.hidden _ _ rfl rfl rfl)) fun _ t _ => ?_
    refine Tracks.bind (hP.queueDnsReply _ _ t ?_) fun _ t _ =>
      ih t fun entry he => h entry (List.mem_cons_of_mem _ he)
    have hreply : reply = transaction.servfail := h _ List.mem_cons_self
    have hquestion := transaction.question_le
    rw [hreply, Dns.Transaction.servfail, Dns.synthesizeFailure_length]
    omega

theorem failDnsConnection (s : Reactor) : Tracks P E (Reactor.failDnsConnection cfg) s := by
  unfold Reactor.failDnsConnection
  refine Tracks.get_bind (Tracks.bind (Tracks.set (hP.hidden _ _ rfl rfl rfl)) fun _ t _ => ?_)
  refine hP.failTransactions _ t ?_
  intro entry he
  obtain ⟨pair, -, rfl⟩ := List.mem_map.mp he
  rfl

theorem updateDnsInterest (s : Reactor) : Tracks P E Reactor.updateDnsInterest s := by
  unfold Reactor.updateDnsInterest
  refine Tracks.get_bind ?_
  split
  · exact Tracks.pure ()
  · exact hP.asked _ _ s

theorem flushDnsRounds (rounds : ℕ) (s : Reactor) : Tracks P E (Reactor.flushDnsRounds cfg rounds) s := by
  induction rounds generalizing s with
  | zero => exact Tracks.pure ()
  | succ rounds ih =>
    unfold Reactor.flushDnsRounds
    refine Tracks.get_bind ?_
    split
    · exact Tracks.pure ()
    refine Tracks.bind (hP.send _ s) fun answer t _ => ?_
    split
    · exact hP.failDnsConnection t
    · exact Tracks.bind (Tracks.modify (hP.hidden _ _ rfl rfl rfl)) fun _ t _ => ih t
    · exact Tracks.pure ()
    · exact hP.failDnsConnection t

theorem flushDnsWrite (s : Reactor) : Tracks P E (Reactor.flushDnsWrite cfg) s := by
  unfold Reactor.flushDnsWrite
  refine Tracks.get_bind ?_
  split
  · exact hP.flushDnsRounds _ s
  · exact Tracks.pure ()

theorem ensureDnsConnection (s : Reactor) : Tracks P E (Reactor.ensureDnsConnection cfg) s := by
  unfold Reactor.ensureDnsConnection
  refine Tracks.get_bind ?_
  split
  · refine hP.ensure_bind (by decide) (by decide) fun resolver _ => ?_
    split
    · rename_i protocol address credentials hcfg
      cases (Proxy.Handshake.new protocol .connect resolver credentials).toOption with
      | none => exact (hP.expect _ _ s : Tracks P E (Yayatht.expect _ (none : Option Proxy.Handshake)) s)
      | some h =>
        rw [show (fun h => (address, some h)) <$> Yayatht.expect "CONNECT is supported by configured proxy protocols"
          (some h) = (pure (address, some h) : Io (SocketAddr × Option Proxy.Handshake)) from rfl, pure_bind]
        refine Tracks.bind (hP.dial _ _ _ _ s (hP.dialed s _ _ fun _ => Dialable.proxy hcfg)) fun answer t _ => ?_
        split
        · exact Tracks.bind (hP.asked _ _ t) fun _ t _ => Tracks.modify (hP.hidden _ _ rfl rfl rfl)
        · exact hP.failDnsConnection t
    · rename_i hcfg
      rw [pure_bind]
      refine Tracks.bind (hP.dial _ _ _ _ s (hP.dialed s _ _ fun _ => Dialable.direct hcfg)) fun answer t _ => ?_
      split
      · exact Tracks.bind (hP.asked _ _ t) fun _ t _ => Tracks.modify (hP.hidden _ _ rfl rfl rfl)
      · exact hP.failDnsConnection t
  · exact Tracks.pure ()

theorem forwardDnsQuery (upstreamId : UInt16) (message : Bytes) (s : Reactor) :
    Tracks P E (Reactor.forwardDnsQuery cfg upstreamId message) s := by
  unfold Reactor.forwardDnsQuery
  refine Tracks.get_bind ?_
  split
  · refine Tracks.bind (hP.ask _ _ s) fun now t _ => ?_
    refine Tracks.bind (Tracks.modify (hP.hidden _ _ rfl rfl rfl)) fun _ t _ => ?_
    refine Tracks.bind (hP.ensureDnsConnection t) fun _ t _ => ?_
    exact Tracks.bind (hP.flushDnsWrite t) fun _ t _ => hP.updateDnsInterest t
  · refine Tracks.bind (Tracks.set (hP.hidden _ _ rfl rfl rfl)) fun _ t _ => ?_
    refine hP.failTransactions _ t ?_
    intro entry he
    split at he
    · simp at he
    · simp only [Option.toList_some, List.mem_singleton] at he
      subst he
      rfl

theorem handleDnsUdp (endpoints : Dns.Endpoints) (message : Bytes) (s : Reactor) :
    Tracks P E (Reactor.handleDnsUdp cfg endpoints message) s := by
  unfold Reactor.handleDnsUdp
  refine Tracks.bind (Tracks.modify (hP.hidden _ _ rfl rfl rfl)) fun _ t _ => ?_
  refine Tracks.bind (hP.ask _ _ t) fun now t _ => Tracks.get_bind ?_
  refine Tracks.bind (Tracks.set (hP.hidden _ _ rfl rfl rfl)) fun _ u _ => ?_
  split
  · exact Tracks.modify (hP.hidden _ _ rfl rfl rfl)
  · rename_i reply hreply
    refine Tracks.bind (Tracks.modify (hP.hidden _ _ rfl rfl rfl)) fun _ u _ => hP.queueDnsReply _ _ u ?_
    exact (Dns.Engine.acceptQuery_length hreply).trans (Nat.le_max_left _ _)
  · exact hP.forwardDnsQuery _ message u

theorem processDnsFrame (frame : Bytes) (s : Reactor) : Tracks P E (Reactor.processDnsFrame cfg frame) s := by
  unfold Reactor.processDnsFrame
  refine Tracks.get_bind (Tracks.bind (Tracks.set (hP.hidden _ _ rfl rfl rfl)) fun _ t _ => ?_)
  split
  · exact Tracks.pure ()
  · rename_i reply hreply
    refine Tracks.bind (hP.ask _ _ t) fun now t _ => ?_
    refine Tracks.bind (Tracks.modify (hP.hidden _ _ rfl rfl rfl)) fun _ t _ => hP.queueDnsReply _ _ t ?_
    exact Dns.Engine.acceptResponse_length (Prod.ext rfl hreply)

theorem processDnsRounds (rounds : ℕ) (s : Reactor) : Tracks P E (Reactor.processDnsRounds cfg rounds) s := by
  induction rounds generalizing s with
  | zero => exact Tracks.pure ()
  | succ rounds ih =>
    unfold Reactor.processDnsRounds
    refine Tracks.get_bind ?_
    split
    · dsimp only
      split
      · exact Tracks.pure ()
      refine Tracks.bind (Tracks.set (hP.hidden _ _ rfl rfl rfl)) fun _ t _ => ?_
      exact Tracks.bind (hP.processDnsFrame _ t) fun _ t _ => ih t
    · exact Tracks.pure ()

theorem readDnsRounds (rounds : ℕ) (s : Reactor) : Tracks P E (Reactor.readDnsRounds rounds) s := by
  induction rounds generalizing s with
  | zero => exact Tracks.pure true
  | succ rounds ih =>
    unfold Reactor.readDnsRounds
    refine Tracks.bind (hP.recv _ s) fun answer t _ => ?_
    split
    · exact Tracks.pure false
    · refine Tracks.get_bind ?_
      split
      · exact Tracks.pure false
      · exact Tracks.bind (Tracks.set (hP.hidden _ _ rfl rfl rfl)) fun _ t _ => ih t
    · exact Tracks.pure true
    · exact Tracks.pure false

theorem readDnsStream (s : Reactor) : Tracks P E (Reactor.readDnsStream cfg) s := by
  unfold Reactor.readDnsStream
  refine Tracks.get_bind ?_
  split
  · refine Tracks.bind (hP.readDnsRounds _ s) fun alive t _ => ?_
    exact Tracks.bind (Tracks.get_bind (hP.processDnsRounds _ t)) fun _ _ _ => Tracks.pure alive
  · exact Tracks.pure true

theorem sendDnsHandshake (h : Proxy.Handshake) (rounds : ℕ) (s : Reactor) :
    Tracks P E (Reactor.sendDnsHandshake h rounds) s := by
  induction rounds generalizing h s with
  | zero => exact Tracks.pure _
  | succ rounds ih =>
    unfold Reactor.sendDnsHandshake
    split
    · exact Tracks.pure _
    refine Tracks.bind (hP.send _ s) fun answer t _ => ?_
    split
    · exact Tracks.pure _
    · refine Tracks.bind (hP.setDnsHandshake _ t) fun _ t _ => ?_
      split
      · exact ih _ t
      · exact Tracks.pure _
    · exact Tracks.pure _
    · exact Tracks.pure _

theorem readDnsHandshake (h : Proxy.Handshake) (s : Reactor) :
    Tracks P E (Reactor.readDnsHandshake h) s := by
  unfold Reactor.readDnsHandshake
  refine Tracks.bind (hP.recv _ s) fun answer t _ => ?_
  split
  · exact Tracks.pure _
  · refine Tracks.bind (hP.setDnsHandshake _ t) fun _ t _ => ?_
    split
    · exact Tracks.pure _
    · refine Tracks.bind (hP.ask _ _ t) fun discarded t _ => ?_
      split
      · exact Tracks.throw (hP.io _)
      · split <;> exact Tracks.pure _
    · exact Tracks.pure _
  · exact Tracks.pure _
  · exact Tracks.pure _

theorem driveDnsRounds (rounds : ℕ) (s : Reactor) : Tracks P E (Reactor.driveDnsRounds cfg rounds) s := by
  have hpromote : ∀ t, Tracks P E (Reactor.promoteDns cfg) t := fun t =>
    Tracks.bind (Tracks.modify (hP.hidden _ _ rfl rfl rfl)) fun _ t _ => hP.flushDnsWrite t
  induction rounds generalizing s with
  | zero => exact Tracks.pure ()
  | succ rounds ih =>
    unfold Reactor.driveDnsRounds
    refine Tracks.get_bind ?_
    split
    · split
      · exact hpromote s
      refine Tracks.bind (hP.sendDnsHandshake _ _ s) fun stage t _ => ?_
      split
      · exact hP.failDnsConnection t
      · exact Tracks.pure ()
      split
      · refine Tracks.bind (hP.readDnsHandshake _ t) fun stage t _ => ?_
        split
        · exact hP.failDnsConnection t
        · exact Tracks.pure ()
        · exact ih t
      · exact ih t
    · exact hpromote s
    · exact Tracks.pure ()

theorem finishDnsConnect (events : UInt32) (s : Reactor) :
    Tracks P E (Reactor.finishDnsConnect cfg events) s := by
  unfold Reactor.finishDnsConnect
  split
  · refine Tracks.bind (hP.asked _ _ s) fun _ t _ => ?_
    split
    · exact Tracks.bind (hP.failDnsConnection t) fun _ _ _ => Tracks.pure false
    · refine Tracks.bind (Tracks.modify ?_) fun _ _ _ => Tracks.pure true
      split <;> exact hP.hidden _ _ rfl rfl rfl
  · exact Tracks.pure false

theorem driveDnsConnect (events : UInt32) (s : Reactor) :
    Tracks P E (Reactor.driveDnsConnect cfg events) s := by
  unfold Reactor.driveDnsConnect
  refine Tracks.get_bind ?_
  split
  · refine Tracks.either_bind (fun _ => Tracks.pure true) (fun _ => hP.finishDnsConnect events s)
      fun ready t _ => ?_
    cases ready with
    | true => exact Tracks.bind (hP.driveDnsRounds _ t) fun _ _ _ => Tracks.pure true
    | false => exact Tracks.pure false
  · exact Tracks.pure true

theorem driveDnsStream (events : UInt32) (s : Reactor) :
    Tracks P E (Reactor.driveDnsStream cfg events) s := by
  unfold Reactor.driveDnsStream
  refine Tracks.get_bind ?_
  split
  · refine Tracks.when_bind (fun _ => hP.flushDnsWrite s) fun t _ => ?_
    split
    · refine Tracks.bind (hP.readDnsStream t) fun alive t _ => ?_
      split
      · exact Tracks.pure true
      · exact Tracks.bind (hP.failDnsConnection t) fun _ _ _ => Tracks.pure false
    · exact Tracks.pure true
  · exact Tracks.pure true

theorem handleDnsUpstream (events : UInt32) (s : Reactor) :
    Tracks P E (Reactor.handleDnsUpstream cfg events) s := by
  unfold Reactor.handleDnsUpstream
  refine Tracks.get_bind ?_
  split
  · exact Tracks.pure ()
  refine Tracks.either_bind (fun _ => ?_) (fun _ => Tracks.pure false) fun failed t _ => ?_
  · exact Tracks.bind (hP.asked _ _ s) fun _ _ _ => Tracks.pure _
  dsimp only
  split
  · exact hP.failDnsConnection t
  refine Tracks.bind (hP.driveDnsConnect events t) fun go t _ => ?_
  split
  · refine Tracks.bind (hP.driveDnsStream events t) fun go t _ => ?_
    split
    · exact hP.updateDnsInterest t
    · exact Tracks.pure ()
  · exact Tracks.pure ()

theorem handleDnsTimers (now : Millis) (s : Reactor) : Tracks P E (Reactor.handleDnsTimers cfg now) s := by
  unfold Reactor.handleDnsTimers
  refine Tracks.get_bind (Tracks.bind (Tracks.set (hP.hidden _ _ rfl rfl rfl)) fun _ t _ => ?_)
  refine Tracks.bind (hP.failTransactions _ t ?_) fun _ t _ => Tracks.modify ?_
  · intro entry he
    obtain ⟨pair, -, rfl⟩ := List.mem_map.mp he
    rfl
  · split
    · exact hP.hidden _ _ rfl rfl rfl
    · split <;> exact hP.hidden _ _ rfl rfl rfl

theorem dropUdpSockets (ids : List FlowId) (s : Reactor) : Tracks P E (Reactor.dropUdpSockets ids) s := by
  induction ids generalizing s with
  | nil => exact Tracks.pure ()
  | cons id ids ih => exact Tracks.bind (hP.dropUdpSocket id s) fun _ t _ => ih t

theorem rebuildEach (ids : List FlowId) (s : Reactor) : Tracks P E (Reactor.rebuildEach cfg ids) s := by
  induction ids generalizing s with
  | nil => exact Tracks.pure ()
  | cons id ids ih => exact Tracks.bind (hP.rebuildSocksAssociation id s) fun _ t _ => ih t

theorem removeEach (ids : List FlowId) (s : Reactor) : Tracks P E (Reactor.removeEach ids) s := by
  induction ids generalizing s with
  | nil => exact Tracks.pure ()
  | cons id ids ih => exact Tracks.bind (hP.removeSocksAssociation id s) fun _ t _ => ih t

theorem closeUdpFlows (ids : List FlowId) (s : Reactor) : Tracks P E (Reactor.closeUdpFlows ids) s := by
  induction ids generalizing s with
  | nil => exact Tracks.pure ()
  | cons id ids ih => exact Tracks.bind (hP.closeUdpFlow id s) fun _ t _ => ih t

theorem handleUdpTimers (now : Millis) (s : Reactor) : Tracks P E (Reactor.handleUdpTimers cfg now) s := by
  unfold Reactor.handleUdpTimers
  refine Tracks.get_bind (Tracks.bind (Tracks.set ?_) fun _ t _ => ?_)
  · exact IsTrans.trans _ _ _ (hP.engine s _ (.expire now)) (hP.hidden _ _ rfl rfl rfl)
  refine Tracks.bind (hP.dropUdpSockets _ t) fun _ t _ => ?_
  refine Tracks.bind (Tracks.modify (hP.hidden _ _ rfl rfl rfl)) fun _ t _ => Tracks.get_bind ?_
  refine Tracks.bind (hP.rebuildEach _ t) fun _ t _ => Tracks.get_bind ?_
  exact Tracks.bind (hP.removeEach _ t) fun _ t _ => hP.refreshUdpMetrics t

theorem handleUdp (endpoints : Dns.Endpoints) (message : Bytes) (s : Reactor) :
    Tracks P E (Reactor.handleUdp cfg endpoints message) s := by
  unfold Reactor.handleUdp
  dsimp only
  split
  · exact hP.handleDnsUdp endpoints message s
  split
  · split
    · exact hP.handleDnsUdp endpoints message s
    · refine Tracks.bind (Tracks.modify (hP.hidden _ _ rfl rfl rfl)) fun _ t _ => ?_
      exact hP.handleSocksUdpRouted _ _ _ message t
  · unfold Reactor.handleForwardUdp
    split
    · exact Tracks.pure ()
    split
    · exact hP.handleSocksUdpRouted _ _ _ message s
    · exact hP.icmp _ _ _ _ s
    · rename_i hcfg
      exact hP.forwardDirectUdp _ _ _ message s fun t => hP.dialed t _ _ fun _ => .direct hcfg

end Tolerant

end Yayatht
