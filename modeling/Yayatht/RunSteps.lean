import Yayatht.DatagramSteps

set_option autoImplicit false

namespace Yayatht
open EffectLogic

/-- The states before and after are joined by a path. -/
def Steps (cfg : Config) (s t : Reactor) : Prop := Path (Act cfg) (core s) (core t)

instance (cfg : Config) : IsPreorder Reactor (Steps cfg) where
  refl _ := .refl
  trans _ _ _ h h' := Relation.ReflTransGen.trans h h'

section Bridge

variable {cfg : Config} {α : Type} {m : Io α}

theorem Along.tracks {Q : α → Core → Prop} {s : Reactor} (h : Along core (Act cfg) m (core s) Q) :
    Tracks (Steps cfg) (fun _ => True) m s :=
  Ends.mono (h s rfl) (fun _ _ hd => hd.1) fun _ _ hd => ⟨hd, trivial⟩

theorem Tracks.along {E : Error → Prop} {c : Core} (h : ∀ s, Tracks (Steps cfg) E m s) :
    Along core (Act cfg) m c fun _ _ => True := by
  rintro s rfl
  exact Ends.mono (h s) (fun _ _ hd => ⟨hd, trivial⟩) fun _ _ hd => hd.1

end Bridge

namespace Reactor

variable (cfg : Config) {c : Core}

theorem queueUdpFrame_along (client gateway : SocketAddr) (payload : Bytes) :
    Along core (Act cfg) (queueUdpFrame cfg client gateway payload) c fun _ _ => True := by
  unfold queueUdpFrame
  have hp : Path (Act cfg) c (c.log [.datagram client gateway payload]) := .single (.mild _ (.datagram _ _ _))
  refine Seen.note_bind (Seen.get_bind fun s hs => ?_)
  refine Seen.bind (R := fun _ d => d = c.log [.datagram client gateway payload]) (Seen.set hs) ?_
  rintro _ _ rfl
  cases s.framePool.acquire.2 with
  | none =>
    refine Seen.silent_bind silent_noteFramePoolExhaustion fun _ => ?_
    exact (Along.pure trivial).onward hp
  | some taken =>
    dsimp only
    split
    · exact Seen.silent_bind (silent_releaseFrame _) fun _ => Seen.throw hp
    split
    · exact Seen.silent_bind (silent_releaseFrame _) fun _ => Seen.throw hp
    split
    · exact Seen.silent_bind (silent_releaseFrame _) fun _ => Seen.throw hp
    refine Onward.bind ((queueTap_plain cfg _ (.inl rfl) rfl).onward hp) fun _ d hpd _ => ?_
    exact (Along.pure trivial).onward hpd

theorem queueUdpIcmpFor_along (key : Udp.FlowKey) (payload : Bytes) (originalLen : ℕ) (error : UdpError) :
    Along core (Act cfg) (queueUdpIcmpFor cfg key payload originalLen error) c fun _ _ => True := by
  unfold queueUdpIcmpFor
  refine Seen.get_bind fun s hs => Seen.bind (R := fun _ d => d = c) (Seen.set hs) ?_
  rintro _ _ rfl
  cases s.framePool.acquire.2 with
  | none =>
    refine Seen.silent_bind silent_noteFramePoolExhaustion fun _ => ?_
    refine Along.still (Inert.modify fun _ => ?_) fun _ => trivial
    rfl
  | some taken =>
    dsimp only
    split
    · exact Seen.silent_bind (silent_releaseFrame _) fun _ => Seen.throw .refl
    · refine Seen.silent_bind (Silent.modify fun _ => ?_) fun _ => ?_
      · rfl
      · exact (queueTap_plain cfg _ (.inl rfl) rfl).mono fun _ _ _ => trivial

theorem tolerant_steps : Tolerant cfg (fun _ _ _ => True) (fun _ => True) (Steps cfg) where
  hidden s t hc _ _ := by
    unfold Steps
    rw [hc]
  engine s u h := .single (.engine u h)
  associations s u h := .single (.associations u h)
  dialed s transport peer h := .single (.dialed transport peer h)
  replied s h response := .single (.mild _ (.socksReply h response))
  errors _ _ _ := trivial
  fits _ _ _ _ := trivial
  reply client gateway payload s _ := Along.tracks (queueUdpFrame_along cfg client gateway payload)
  icmp key payload originalLen error s := Along.tracks (queueUdpIcmpFor_along cfg key payload originalLen error)

theorem handleFrame_along (frame : TapFrame) (hb : Base c) :
    Along core (TapAct cfg) (handleFrame cfg frame) c fun _ _ => True := by
  have hreply : ∀ (body : FrameBody) (len : ℕ), Along core (TapAct cfg)
      (acquireFrame >>= fun slot => queueTap cfg none ⟨slot, body, len⟩ none) c fun _ _ => True := by
    intro body len
    refine Along.tap (Seen.bind (Seen.mono acquireFrame_seen (fun _ _ hd => hd) fun _ hd =>
      path_of_dry cfg .refl (.inr hd)) ?_)
    rintro slot _ rfl
    exact (queueTap_plain cfg _ (.inl rfl) rfl).mono fun _ _ _ => trivial
  unfold handleFrame
  cases frame with
  | malformed error => exact Seen.throw .refl
  | ignored => exact Along.pure trivial
  | arpRequest target =>
    dsimp only [handleArp]
    split
    · exact hreply _ _
    · exact Along.pure trivial
  | neighborSolicitation target source =>
    dsimp only [handleNeighborSolicitation]
    split
    · exact hreply _ _
    · exact Along.pure trivial
  | tcpV4 source destination segment => exact handleTcp_along cfg _ segment hb
  | tcpV6 source destination segment => exact handleTcp_along cfg _ segment hb
  | udpV4 source destination sourcePort destinationPort payload =>
    exact Along.tap (Tracks.along ((tolerant_steps cfg).handleUdp _ payload))
  | udpV6 source destination sourcePort destinationPort payload =>
    exact Along.tap (Tracks.along ((tolerant_steps cfg).handleUdp _ payload))

theorem absorb_along {m : Io Unit} (h : Along core (TapAct cfg) m c fun _ _ => True) :
    Along core (TapAct cfg) (absorb m) c fun _ _ => True := by
  refine Seen.tryCatch h fun error d hd => ?_
  cases error with
  | panic text => exact Seen.throw hd
  | io x =>
    refine Along.onward (Along.still (Inert.modify fun _ => ?_) fun _ => trivial) hd
    rfl
  | packet x =>
    refine Along.onward (Along.still (Inert.modify fun _ => ?_) fun _ => trivial) hd
    rfl
  | invariant text =>
    refine Along.onward (Along.still (Inert.modify fun _ => ?_) fun _ => trivial) hd
    rfl

theorem base_tapAct {d : Core} (hb : Base c) (h : TapAct cfg c d) : Base d := by
  rcases h with h | ⟨refresh, rfl⟩
  · exact hb.act h
  · exact ⟨hb.table, hb.mss, hb.pending, hb.keyed, hb.closed, hb.deferred, hb.planned⟩

theorem base_path {d : Core} (hb : Base c) (h : Path (TapAct cfg) c d) : Base d :=
  Path.invariant (P := Base) (fun _ _ hs hb => base_tapAct cfg hb hs) h hb

theorem readTap_along (budget : ℕ) (hb : Base c) :
    Along core (TapAct cfg) (readTap cfg budget) c fun _ _ => True := by
  induction budget generalizing c with
  | zero => exact Along.pure trivial
  | succ budget ih =>
    unfold readTap
    refine Seen.silent_bind silent_framesAvailable fun available => ?_
    split
    · refine Seen.silent_bind silent_noteFramePoolExhaustion fun _ => ?_
      exact Along.still inert_updateTapInterest fun _ => trivial
    refine Seen.silent_bind Call.silent_tapRead fun answer => ?_
    split
    · exact Seen.throw .refl
    · refine Seen.silent_bind (Silent.modify fun _ => ?_) fun _ => ?_
      · rfl
      refine Seen.bind (absorb_along cfg (handleFrame_along cfg _ hb)) ?_
      rintro _ d ⟨hp, -⟩
      exact (ih (base_path cfg hb hp)).onward hp
    · exact Along.pure trivial
    · exact Seen.throw .refl

theorem handleTap_along (hb : Base c) :
    Along core (TapAct cfg) (handleTap cfg) c fun _ d => d.refresh = [] := by
  unfold handleTap
  refine Along.bind (readTap_along cfg tapBudget hb) fun _ d _ => Seen.get_bind fun s hs => ?_
  have hqueue : s.ackRefreshQueue = d.refresh := by
    rw [show s.ackRefreshQueue = (core s).refresh from rfl, hs]
  rw [hqueue]
  exact flushAckRefreshes_along cfg _ rfl

theorem handleTimers_along : Along core (Act cfg) (handleTimers cfg) c fun _ _ => True := by
  unfold handleTimers
  refine Seen.inert_bind Call.inert_timer .refl fun _ => Seen.silent_bind Call.silent_now fun now => ?_
  refine Along.bind (Tracks.along ((tolerant_steps cfg).handleDnsTimers now)) fun _ _ _ => ?_
  refine Along.bind (Tracks.along ((tolerant_steps cfg).handleUdpTimers now)) fun _ _ _ => ?_
  exact handleFlowTimers_along cfg now

theorem inert_handleControl : Inert core handleControl := by
  unfold handleControl
  refine Inert.bind Call.silent_control.inert fun answer => ?_
  split
  · exact Inert.modify fun _ => rfl
  · exact Inert.pure ()
  · exact Inert.pure ()
  · exact Inert.pure ()
  · exact Inert.modify fun _ => rfl
  · exact Inert.throw _

theorem shutdownFlows_along (hb : Base c) (hdeferred : c.flows.deferred = []) :
    Along core (Act cfg) (shutdownFlows cfg) c fun _ _ => True := by
  unfold shutdownFlows
  refine Seen.get_bind fun s hs => ?_
  have hflows : s.flows = c.flows := by rw [show s.flows = (core s).flows from rfl, hs]
  rw [hflows]
  split
  · refine Along.bind (closeFlows_along cfg _ (FlowTable.nodup_activeIds c.flows) ?_) fun _ d _ => ?_
    · intro id hid
      obtain ⟨e, hget⟩ := Option.isSome_iff_exists.mp ((FlowTable.mem_activeIds c.flows id).mp hid)
      cases ho : e.open? with
      | true => exact .of_open hget ho
      | false =>
        rcases hb.closed id e hget ho with h | hx
        · rw [hdeferred] at h
          cases h
        · exact .inr hx
    refine Seen.get_bind fun t _ => ?_
    refine Along.bind (Tracks.along ((tolerant_steps cfg).closeUdpFlows _)) fun _ _ _ => ?_
    exact Seen.get_bind fun t _ => Tracks.along ((tolerant_steps cfg).removeEach _)
  · exact Along.pure trivial

theorem endOfBatch_along (hb : Base c) : Along core (Act cfg) (endOfBatch cfg) c fun _ _ => True := by
  unfold endOfBatch
  refine Seen.bind (Tracks.along (tolerant_steps cfg).activateSocksAssociations) ?_
  rintro _ d ⟨hp, -⟩
  refine Onward.bind ((applyPendingPressure_along cfg).onward hp) fun _ d hp _ => ?_
  refine Onward.bind ((cleanupClosed_along cfg).onward hp) ?_
  rintro _ _ hp rfl
  exact (shutdownFlows_along cfg (hb.path hp) (FlowTable.flushDeferred_deferred _)).onward hp

end Reactor

/-- The state of the machine a run starts from. -/
def Core.initial (cfg : Config) : Core where
  flows := FlowTable.withCapacity cfg.maxTcpFlows
  byKey := {}
  tapQueue := []
  retained := 0
  journal := []
  socks := FlowTable.withCapacity cfg.maxUdpAssociations
  refresh := []
  udpEngine := Udp.Engine.new cfg.maxUdpFlows cfg.maxUdpAssociations

theorem Base.initial (cfg : Config) : Base (Core.initial cfg) where
  table := FlowTable.wf_withCapacity _
  mss id e h := by simp [Core.initial] at h
  pending id e h := by simp [Core.initial] at h
  keyed key id h := by simp [Core.initial] at h
  closed id e h := by simp [Core.initial] at h
  deferred id e h := by simp [Core.initial, FlowTable.withCapacity] at h
  planned queued h := by simp [Core.initial] at h

namespace Reactor

variable (cfg : Config)

/-- What handling one event does, seen in the machine. -/
theorem handle_seen (event : Event) {c : Core} (hb : Base c) (hrefresh : c.refresh = []) :
    Seen core (handle cfg event) c (fun _ d => Path (TapAct cfg) c d ∧ d.refresh = [])
      fun d => ∃ e, Path (TapAct cfg) c e ∧ e.journal = d.journal := by
  have hquiet : ∀ {m : Io Unit}, Along core (Act cfg) m c (fun _ _ => True) →
      Seen core m c (fun _ d => Path (TapAct cfg) c d ∧ d.refresh = [])
        fun d => ∃ e, Path (TapAct cfg) c e ∧ e.journal = d.journal := fun h =>
    Seen.mono h (fun _ _ hd => ⟨Path.tap hd.1, (Path.refresh hd.1).trans hrefresh⟩) fun d hd =>
      ⟨d, Path.tap hd, rfl⟩
  cases event with
  | tap events =>
    have hflush : ∀ d, Path (TapAct cfg) c d → d.refresh = [] →
        Seen core (if has events writable then flushTapQueue else pure ()) d
          (fun _ d => Path (TapAct cfg) c d ∧ d.refresh = [])
          fun d => ∃ e, Path (TapAct cfg) c e ∧ e.journal = d.journal := by
      intro d hp hr
      split
      · exact Seen.mono (flushTapQueue_along cfg)
          (fun _ _ hd => ⟨hp.trans (Path.tap hd.1), (Path.refresh hd.1).trans hr⟩) fun e he =>
          ⟨e, hp.trans (Path.tap he), rfl⟩
      · exact Seen.pure ⟨hp, hr⟩
    unfold handle
    refine Seen.when_bind (R := fun d => Path (TapAct cfg) c d ∧ d.refresh = []) (fun _ => ?_)
      (fun _ => ⟨.refl, hrefresh⟩) fun d hd => hflush d hd.1 hd.2
    exact Seen.mono (handleTap_along cfg hb) (fun _ _ hd => hd) fun d hd => ⟨d, hd, rfl⟩
  | timer => exact hquiet (handleTimers_along cfg)
  | control => exact hquiet (Along.still inert_handleControl fun _ => trivial)
  | dnsUpstream events => exact hquiet (Tracks.along ((tolerant_steps cfg).handleDnsUpstream events))
  | socket id events =>
    refine Seen.mono (handleSocket_seen cfg events hb)
      (fun _ _ hd => ⟨Path.tap hd, (Path.refresh hd).trans hrefresh⟩) ?_
    rintro d ⟨e, he, hj⟩
    exact ⟨e, Path.tap he, hj⟩
  | udpSocket id events => exact hquiet (Tracks.along ((tolerant_steps cfg).handleUdpSocket id events))
  | socksControl id events => exact hquiet (Tracks.along ((tolerant_steps cfg).handleSocksControl id events))
  | socksRelay id events =>
    exact hquiet (Tracks.along fun s => (tolerant_steps cfg).handleSocksRelay id events s fun _ _ _ => trivial)
  | endOfBatch => exact hquiet (endOfBatch_along cfg hb)

/-- The states between handlers lie on a path from the initial one. -/
theorem Reachable.path {s : Reactor} (h : Reachable cfg s) :
    Path (TapAct cfg) (Core.initial cfg) (core s) ∧ (core s).refresh = [] := by
  induction h with
  | start kernel test queryTimeout now => exact ⟨.refl, rfl⟩
  | @step s t event answers hs ho ih =>
    have h := handle_seen cfg event (base_path cfg (Base.initial cfg) ih.1) ih.2
      { s with kernel := answers } rfl
    have ht := Ends.ok h ho
    exact ⟨ih.1.trans ht.1, ht.2⟩

/-- The journal of every state a handler ends in is that of a state on such a path. -/
theorem Visited.path {s : Reactor} (h : Visited cfg s) :
    ∃ d, Path (TapAct cfg) (Core.initial cfg) d ∧ d.journal = s.journal := by
  cases h with
  | start kernel test queryTimeout now => exact ⟨_, .refl, rfl⟩
  | @step s event answers hs =>
    obtain ⟨hp, hr⟩ := hs.path cfg
    have h := handle_seen cfg event (base_path cfg (Base.initial cfg) hp) hr
      { s with kernel := answers } rfl
    refine Ends.final (P := fun t => ∃ d, Path (TapAct cfg) (Core.initial cfg) d ∧ d.journal = t.journal)
      (Ends.mono h (fun _ t ht => ⟨core t, hp.trans ht.1, rfl⟩) ?_)
    rintro _ t ⟨e, he, hj⟩
    exact ⟨e, hp.trans he, hj⟩

end Reactor

end Yayatht
