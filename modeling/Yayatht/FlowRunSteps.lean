import Yayatht.FlowLifeSteps

set_option autoImplicit false

namespace Yayatht
open Sequence EffectLogic

namespace Reactor

variable (cfg : Config) {c : Core} {id : FlowId} {e : FlowEntry}

theorem negotiatedMss_pos (key : FlowKey) (offered : Option UInt16) : 0 < negotiatedMss cfg key offered := by
  have hmtu := cfg.tapMtu_ge
  have hdefault : 0 < cfg.tapMtu - (if key.target.isIpv4 then 40 else 60) := by
    split <;> omega
  unfold negotiatedMss
  dsimp only
  refine Nat.lt_min.mpr ⟨?_, hdefault⟩
  cases h : (offered.map UInt16.toNat).filter fun mss => 536 ≤ mss with
  | none => exact hdefault
  | some mss =>
    have hm := (Option.filter_eq_some_iff.mp h).2
    simp only [decide_eq_true_eq] at hm
    change 0 < mss
    omega

theorem windowShifts_le (offered : Option UInt8) : (windowShifts offered).1 ≤ maxPeerWindowShift := by
  unfold windowShifts
  cases offered with
  | none => exact Nat.zero_le _
  | some shift => exact Nat.min_le_right _ _

theorem constructFlow_seen (key : FlowKey) (side : FlowSide) :
    Seen core (constructFlow key side) c
      (fun construction d => d = c ∧ construction.sides.map FlowSides.namespaceKey = some key)
      fun d => d = c :=
  Seen.pure ⟨rfl, rfl⟩

theorem registerFlow_seen (key : FlowKey) (entry : FlowEntry) (segment : TcpSegment)
    (hkey : c.byKey.find? key = none) (hb : Base c) (hfresh : Fresh key entry)
    (hmss : entry.flow.mss = negotiatedMss cfg key segment.mss) :
    Seen core (registerFlow key entry) c
      (fun result d => (result = none → d = c) ∧ ∀ id, result = some id →
        d.flows.get id = some entry ∧ Act cfg c (d.log [.accepted id segment]))
      fun _ => False := by
  unfold registerFlow
  refine Seen.get_bind fun s hs => ?_
  have hflows : s.flows = c.flows := by rw [show s.flows = (core s).flows from rfl, hs]
  rw [hflows]
  rcases hb.table.insert_cases entry with hfull | ⟨flows, id, hinsert, -, -, -, hget, -⟩
  · rw [hfull]
    refine Seen.bind (R := fun _ d => d = c) (Seen.set ?_) ?_
    · rw [← hs]
      rfl
    · rintro _ _ rfl
      exact Seen.pure ⟨fun _ => rfl, by simp⟩
  · rw [hinsert]
    refine Seen.bind (R := fun _ d => d = { c with flows := flows, byKey := c.byKey.insert key id })
      (Seen.set ?_) ?_
    · rw [← hs]
      rfl
    · rintro _ _ rfl
      refine Seen.note_bind (Seen.pure ⟨by simp, ?_⟩)
      rintro other ho
      cases ho
      exact ⟨(hget id).trans (if_pos rfl), .create key entry flows id hkey hinsert hfresh segment hmss⟩

theorem startFlow_along (hget : c.flows.get id = some e) :
    Along core (Act cfg) (startFlow id) c fun _ d =>
      ∃ f, d.flows.get id = some f ∧ f.open? = e.open? := by
  unfold startFlow
  split
  · refine Seen.flowEntry_known hget (Seen.inert_bind Call.inert_epollAdd .refl fun _ => ?_)
    refine Seen.flowEntry_known hget (Seen.ensure_bind .refl fun active hactive => ?_)
    have ht : Touched e { e with construction := active.1 } := by
      refine { Touched.refl e with sides := ?_ }
      unfold FlowConstruction.activate at hactive
      split at hactive
      · cases hactive
      · cases hactive
        rfl
    refine Seen.modifyEntry_bind hget ?_
    refine Along.onward (Along.still (Inert.modify fun _ => ?_) fun _ => ⟨_, Core.put_get _ hget, rfl⟩)
      (touch_path cfg .refl hget ht)
    rfl
  · exact Seen.throw .refl

theorem fresh_newEntry (key : FlowKey) (segment : TcpSegment) (construction : FlowConstruction)
    (localInitial : Seq) (target : SocketAddr) (buffers : ℕ × ℕ)
    (hkey : construction.sides.map FlowSides.namespaceKey = some key) :
    Fresh key (newEntry cfg key segment construction localInitial target buffers) where
  key_eq := hkey
  flow := ⟨_, _, _, _, _, rfl, negotiatedMss_pos cfg key segment.mss, windowShifts_le segment.windowScale⟩
  socket := rfl
  pendingSocket := rfl
  pendingShutdown := rfl
  sentSegments := rfl
  lastByte := rfl

theorem connectFlow_along (key : FlowKey) (segment : TcpSegment) (target : SocketAddr)
    (hkey : c.byKey.find? key = none) (hb : Base c) :
    Along core (Act cfg) (connectFlow cfg key segment target) c fun _ _ => True := by
  unfold connectFlow
  dsimp only
  have hdial : Act cfg c (c.log [.dialed .stream (routeTarget cfg target).2]) := by
    refine .dialed .stream _ fun _ protocol address credentials hproxy => ?_
    dsimp only [routeTarget]
    rw [hproxy]
  refine Seen.bind (Call.connect_seen (routeTarget cfg target).2) ?_
  rintro answer _ rfl
  refine Along.onward ?_ (.single hdial)
  replace hb := hb.act hdial
  replace hkey : (c.log [.dialed .stream (routeTarget cfg target).2]).byKey.find? key = none := hkey
  generalize c.log [.dialed .stream (routeTarget cfg target).2] = c at hb hkey ⊢
  have hrefuse : Along core (Act cfg) (refuseSyn cfg key segment.sequence) c fun _ _ => True :=
    (refuseSyn_along cfg key segment.sequence).mono fun _ _ _ => trivial
  cases answer with
  | error x => exact hrefuse
  | ok connected =>
    refine Seen.silent_bind Call.silent_localAddress fun address => Seen.orThrow_bind .refl fun own _ => ?_
    refine Seen.inert_bind Call.inert_bufferSizes .refl fun buffers => ?_
    refine Seen.inert_bind Call.inert_random .refl fun random => Seen.get_bind fun s _ => ?_
    refine Seen.bind (Seen.mono (constructFlow_seen key _) (fun _ _ hd => hd) fun d hd => hd ▸ .refl) ?_
    rintro construction _ ⟨rfl, hsides⟩
    refine Seen.bind (Seen.mono (registerFlow_seen cfg key _ segment hkey hb
      (fresh_newEntry cfg key segment construction _ target buffers hsides) rfl) (fun _ _ hd => hd) fun _ hd =>
        hd.elim) ?_
    rintro result d ⟨hnone, hsome⟩
    cases result with
    | none =>
      rw [hnone rfl]
      exact (refuseSyn_along cfg key segment.sequence).mono fun _ _ _ => trivial
    | some id =>
      obtain ⟨hentry, hact⟩ := hsome id rfl
      refine Seen.note_bind (Along.onward ?_ (.single hact))
      refine Along.bind_path (startFlow_along cfg hentry) ?_
      rintro _ e hpe ⟨f, hget, ho⟩
      have hbe : Base e := (hb.act hact).path hpe
      have hspared : Spared e id := .of_open hget ho
      have hfinish : Along core (Act cfg)
          (finishTransportConnect cfg id >>= fun _ => updateSocketInterest id) e fun _ _ => True :=
        Along.bind (finishTransportConnect_along cfg hbe hspared) fun _ _ _ => updateSocketInterest_along cfg
      cases connected with
      | true => exact hfinish
      | false =>
        refine Seen.inert_bind Call.inert_pollWritable .refl fun writable => ?_
        cases writable with
        | true => exact hfinish
        | false => exact Along.pure trivial

theorem handleTcp_along (key : FlowKey) (segment : TcpSegment) (hb : Base c) :
    Along core (TapAct cfg) (handleTcp cfg key segment) c fun _ _ => True := by
  unfold handleTcp
  refine Seen.get_bind fun s hs => ?_
  have hkeys : s.byKey = c.byKey := by rw [show s.byKey = (core s).byKey from rfl, hs]
  rw [hkeys]
  cases hkey : c.byKey.find? key with
  | some id =>
    refine handleExistingTcp_along cfg segment ?_
    exact (hb.keyed key id hkey).imp_left fun ⟨e, hget, ho, _⟩ => ⟨e, hget, ho⟩
  | none =>
    dsimp only
    split
    · exact Along.pure trivial
    split
    · cases cfg.dnsUpstream with
      | some resolver => exact Along.tap (connectFlow_along cfg key segment resolver hkey hb)
      | none =>
        refine Along.tap (Seen.bind (Seen.mono (buildReset_seen cfg key _) (fun _ _ hd => hd) fun _ hd =>
          path_of_dry cfg .refl hd) ?_)
        rintro frame _ ⟨rfl, -⟩
        refine Seen.silent_bind silent_countReset fun _ => ?_
        refine Seen.silent_bind (Silent.modify fun _ => ?_) fun _ => ?_
        · rfl
        · exact (queueTap_plain cfg frame (.inl rfl) rfl).mono fun _ _ _ => trivial
    · exact Along.tap (connectFlow_along cfg key segment key.target hkey hb)

theorem confirmTailRecovery_along (hspared : Spared c id) :
    Along core (Act cfg) (confirmTailRecovery cfg id) c fun _ _ => True := by
  unfold confirmTailRecovery
  refine Seen.inert_bind Call.inert_drainTxTimestamps .refl fun drain => ?_
  split
  · exact (failTcpFlow_along cfg hspared).mono fun _ _ _ => trivial
  split
  · refine Along.still (Inert.modify fun _ => ?_) fun _ => trivial
    rfl
  · exact Along.pure trivial

theorem watchdogRefresh_along (notified : Bool) (hspared : Spared c id) :
    Along core (Act cfg) (watchdogRefresh cfg id notified) c fun _ _ => True := by
  unfold watchdogRefresh
  refine Along.bind (refreshUpstreamAck_along cfg hspared) fun advanced d _ => ?_
  cases advanced with
  | false => exact Along.pure trivial
  | true =>
    rw [if_pos rfl]
    refine Seen.silent_bind (Silent.modify fun _ => ?_) fun _ => ?_
    · rfl
    split
    · exact Along.pure trivial
    refine Seen.flowIsClosed_bind (fun _ => Along.pure trivial) fun e hget ho => ?_
    rw [if_neg (by decide)]
    refine Seen.flowEntry_known hget ?_
    split
    · exact Along.pure trivial
    · exact confirmTailRecovery_along cfg (.of_open hget ho)

theorem watchdogUpstreamAck_along :
    Along core (Act cfg) (watchdogUpstreamAck cfg id) c fun _ _ => True := by
  unfold watchdogUpstreamAck
  refine Seen.silent_bind silent_framesAvailable fun available => ?_
  split
  · exact Along.pure trivial
  refine Seen.flowIsClosed_bind (fun _ => Along.pure trivial) fun e hget ho => ?_
  rw [if_neg (by decide)]
  refine Seen.flowEntry_known hget ?_
  split
  · exact Along.pure trivial
  refine Seen.inert_bind Call.inert_drainTxTimestamps .refl fun drain => ?_
  split
  · exact (failTcpFlow_along cfg (.of_open hget ho)).mono fun _ _ _ => trivial
  · exact watchdogRefresh_along cfg _ (.of_open hget ho)

theorem serviceProbe_along (now : Millis)
    (hdue : ∀ e, c.flows.get id = some e → e.probeDue now = true → Spared c id) :
    Along core (Act cfg) (serviceProbe cfg id now) c fun _ _ => True := by
  unfold serviceProbe
  refine Seen.get_bind fun s hs => ?_
  have hflows : s.flows = c.flows := by rw [show s.flows = (core s).flows from rfl, hs]
  rw [hflows]
  refine Seen.when_bind (R := Path (Act cfg) c) (fun hany => ?_) (fun _ => .refl) fun d hp => ?_
  · obtain ⟨e, hget, hprobe⟩ : ∃ e, c.flows.get id = some e ∧ e.probeDue now = true := by
      cases hget : c.flows.get id with
      | none =>
        rw [hget] at hany
        cases hany
      | some e =>
        rw [hget] at hany
        exact ⟨e, rfl, hany⟩
    exact Seen.mono (sendZeroWindowProbe_along cfg now (hdue e hget hprobe)) (fun _ _ hd => hd.1) fun _ hd => hd
  · exact (watchdogUpstreamAck_along cfg).onward hp

/-- A timer tick of one flow. The retransmission goes out only while no probe is armed. -/
theorem serviceFlow_along (now : Millis) :
    Along core (Act cfg) (serviceFlow cfg id now) c fun _ _ => True := by
  unfold serviceFlow
  refine Seen.flowEntry_bind .refl fun e hget => Seen.note_bind ?_
  have hp : Path (Act cfg) c (c.log [.serviced id e now]) := .single (.serviced id e now hget)
  have hspared : e.retransmitDue now = true ∨ e.probeDue now = true →
      Spared (c.log [.serviced id e now]) id := by
    intro hdue
    cases ho : e.open? with
    | true => exact .of_open hget ho
    | false => exact .inr (.inr ⟨e, now, List.mem_cons_self, ho, hdue⟩)
  cases hdue : e.retransmitDue now with
  | true =>
    rw [if_pos rfl]
    have hs := hspared (.inl hdue)
    split
    · exact ((failTcpFlow_along cfg hs).mono fun _ _ _ => trivial).onward hp
    · refine Onward.bind ((retransmitOldest_along cfg true hs).onward hp) fun _ d hpd hd => ?_
      refine (serviceProbe_along cfg now ?_).onward hpd
      intro g hg hprobe
      obtain ⟨f, hf, hgf⟩ := hd g hg
      have hfe : f = e := Option.some.inj (hf.symm.trans hget)
      subst hfe
      unfold FlowEntry.retransmitDue at hdue
      unfold FlowEntry.probeDue at hprobe
      rw [hgf] at hprobe
      cases hz : f.zeroWindowProbe with
      | none =>
        rw [hz] at hprobe
        cases hprobe
      | some probe =>
        rw [hz] at hdue
        cases hdue
  | false =>
    rw [if_neg (by decide)]
    refine (serviceProbe_along cfg now ?_).onward hp
    intro g hg hprobe
    have hge : g = e := Option.some.inj (hg.symm.trans hget)
    subst hge
    exact hspared (.inr hprobe)

theorem serviceFlows_along (now : Millis) (ids : List FlowId) :
    Along core (Act cfg) (serviceFlows cfg now ids) c fun _ _ => True := by
  induction ids generalizing c with
  | nil => exact Along.pure trivial
  | cons id ids ih =>
    unfold serviceFlows
    refine Seen.silent_bind silent_framesAvailable fun available => ?_
    split
    · refine Seen.silent_bind silent_noteFramePoolExhaustion fun _ => ?_
      refine Along.still (Inert.modify fun _ => ?_) fun _ => trivial
      rfl
    · exact Along.bind (serviceFlow_along cfg now) fun _ _ _ => ih

theorem handleFlowTimers_along (now : Millis) :
    Along core (Act cfg) (handleFlowTimers cfg now) c fun _ _ => True :=
  Seen.get_bind fun _ _ => serviceFlows_along cfg now _

theorem pressFlows_along (ids : List FlowId) :
    Along core (Act cfg) (pressFlows cfg ids) c fun _ _ => True := by
  induction ids generalizing c with
  | nil => exact Along.pure trivial
  | cons id ids ih =>
    unfold pressFlows
    refine Seen.flowIsClosed_bind (fun _ => ih) fun e hget ho => ?_
    rw [if_neg (by decide)]
    refine Seen.silent_bind silent_framesAvailable fun available => ?_
    split
    · refine Seen.silent_bind silent_noteFramePoolExhaustion fun _ => ?_
      refine Along.still (Inert.modify fun _ => ?_) fun _ => trivial
      rfl
    refine Seen.bind (updateNamespaceWindow_seen cfg hget) ?_
    rintro changed _ ⟨f, hf, rfl⟩
    have hp := touch_path cfg .refl hget hf
    refine Seen.when_bind (R := Path (Act cfg) c) (fun _ => ?_) (fun _ => hp) fun d hpd => ih.onward hpd
    exact Seen.mono ((sendAck_along cfg id ((Spared.of_open hget ho).touched hget hf)).onward hp)
      (fun _ _ hd => hd.1) fun _ hd => hd

theorem applyPendingPressure_along :
    Along core (Act cfg) (applyPendingPressure cfg) c fun _ _ => True := by
  unfold applyPendingPressure
  refine Seen.get_bind fun s hs => ?_
  split
  · refine Seen.bind (R := fun _ d => d = c) (Seen.set hs) ?_
    rintro _ _ rfl
    exact pressFlows_along cfg _
  · exact Along.pure trivial

theorem cleanupClosed_along :
    Along core (Act cfg) cleanupClosed c fun _ d => d = { c with flows := c.flows.flushDeferred.1 } := by
  refine Along.modify (d := { c with flows := c.flows.flushDeferred.1 }) ?_ (.single .reap) rfl
  rintro s rfl
  rfl

theorem closeFlows_along (ids : List FlowId) (hnodup : ids.Nodup) (hspared : ∀ id ∈ ids, Spared c id) :
    Along core (Act cfg) (closeFlows cfg ids) c fun _ _ => True := by
  induction ids generalizing c with
  | nil => exact Along.pure trivial
  | cons id ids ih =>
    unfold closeFlows
    obtain ⟨hnot, hrest⟩ := List.nodup_cons.mp hnodup
    refine Along.bind (closeFlow_along cfg (hspared id List.mem_cons_self)) fun _ d hd => ih hrest ?_
    intro other hother
    refine hd.2 other ?_ (hspared other (List.mem_cons_of_mem _ hother))
    rintro rfl
    exact hnot hother

end Reactor

end Yayatht
