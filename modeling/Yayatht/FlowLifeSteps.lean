import Yayatht.FlowSendSteps

set_option autoImplicit false

namespace Yayatht
open Sequence EffectLogic

theorem Spared.of_open {c : Core} {id : FlowId} {e : FlowEntry} (hget : c.flows.get id = some e)
    (h : e.open? = true) : Spared c id := .inl ⟨e, hget, h⟩

theorem Spared.touched {c : Core} {id : FlowId} {e f : FlowEntry} (hs : Spared c id)
    (hget : c.flows.get id = some e) (h : Touched e f) : Spared (c.put id f) id :=
  hs.put hget fun ho => h.isOpen.trans ho

theorem Along.tap {cfg : Config} {α : Type} {m : Io α} {c : Core} {Q : α → Core → Prop}
    (h : Along core (Act cfg) m c Q) : Along core (TapAct cfg) m c Q := Along.widen (fun _ _ => .inl) h

theorem Path.tap {cfg : Config} {c d : Core} (h : Path (Act cfg) c d) : Path (TapAct cfg) c d :=
  Relation.ReflTransGen.mono (fun _ _ => .inl) _ _ h

theorem Path.refresh {cfg : Config} {c d : Core} (h : Path (Act cfg) c d) : d.refresh = c.refresh :=
  Path.invariant (P := fun d => d.refresh = c.refresh) (fun _ _ hs hr => hs.refresh.trans hr) h rfl

theorem Core.settle_put (c : Core) (id : FlowId) (e f g : FlowEntry) (segment : TcpSegment) (clamps : ℕ)
    (first second : List Notice) :
    ((c.settle id e segment clamps first f).put id g).log second =
      c.settle id e segment clamps (second ++ first) g := by
  have hflows := congrArg Core.flows (Core.put_put c id f g)
  change (c.flows.modify id fun _ => f).modify id (fun _ => g) = _ at hflows
  unfold Core.settle Core.log Core.put
  dsimp only
  rw [hflows]
  simp only [List.append_assoc]
  rfl

theorem Core.settle_get {c : Core} {id : FlowId} {e : FlowEntry} (hget : c.flows.get id = some e)
    (f : FlowEntry) (segment : TcpSegment) (clamps : ℕ) (notices : List Notice) :
    (c.settle id e segment clamps notices f).flows.get id = some f := Core.put_get f hget

theorem Spared.settle {c : Core} {id : FlowId} {e f g : FlowEntry} {segment : TcpSegment}
    (hs : Spared c id) (hget : c.flows.get id = some e) (hrst : segment.flags.rst = false)
    (hf : Touched (e.settled segment) f) (hg : Alike f g) (clamps : ℕ) (notices : List Notice) :
    Spared (c.settle id e segment clamps notices g) id := by
  rcases hs with ⟨e', he', ho⟩ | hx
  · rw [hget] at he'
    cases he'
    refine .of_open (Core.settle_get hget g segment clamps notices) ?_
    rw [hg.isOpen, hf.isOpen]
    exact FlowEntry.received_open hrst ho
  · right
    have h := hx.append (notices ++ settleNotices id (e.ackedBy segment) c.retained clamps ++
      [.segment id e segment])
    rw [List.append_assoc] at h
    exact h

namespace Reactor

variable (cfg : Config) {c : Core} {id : FlowId} {e : FlowEntry}

/-- The SYN-ACK is queued, or its loss is on record. -/
theorem queueSynAck_along {plan : SendPlan} (bytesAcked : ℕ) (hb : Base c) (hget : c.flows.get id = some e)
    (hspared : Spared c id) (hhandshake : e.handshake = none)
    (hplan : plan = (e.flow.socketConnected bytesAcked).2) :
    Onward core (Act cfg) c (noteFailure (.synLost id) (queueSynAck cfg id plan))
      ((c.put id { e with flow := (e.flow.socketConnected bytesAcked).1 }).log
        [.activated id e (c.busy id)]) fun _ _ => True := by
  obtain ⟨f, hf⟩ : ∃ f : FlowEntry, f = { e with flow := (e.flow.socketConnected bytesAcked).1 } := ⟨_, rfl⟩
  rw [← hf]
  have hgetf : ((c.put id f).log [.activated id e (c.busy id)]).flows.get id = some f :=
    Core.put_get f hget
  refine Seen.noteFailure (F := fun d =>
    (∃ dry, d = (c.put id f).log (List.replicate dry .poolDry ++ [.activated id e (c.busy id)])) ∨
      Path (Act cfg) c d) ?_ ?_
  · unfold queueSynAck
    refine Seen.bind (Seen.mono (buildFlowFrame_seen cfg id plan [] _) (fun _ _ hd => hd) ?_) ?_
    · rintro d (rfl | rfl)
      · exact .inl ⟨0, rfl⟩
      · exact .inl ⟨1, rfl⟩
    · rintro frame _ ⟨g, spec, hg, hbody, -, rfl⟩
      rw [hgetf] at hg
      cases hg
      have hpayload : frame.body.payload = [] := by
        rw [hbody]
        rfl
      have hact : Act cfg c _ := .activate id e bytesAcked frame frame.body hget hspared hhandshake hpayload
      rw [← hf, ← hplan] at hact
      have hlen : plan.length = 0 := by rw [hplan]; rfl
      have hroom : plan.length ≤ cfg.maxRetainedTcpBytes - c.retained := by
        rw [hlen]
        exact Nat.zero_le _
      rw [← hlen] at hact
      refine Seen.mono (queueTap_planned cfg id frame plan hroom) ?_ ?_
      · intro _ d hd
        exact ⟨Relation.ReflTransGen.head hact hd, trivial⟩
      · intro d hd
        exact .inr (Relation.ReflTransGen.head hact hd)
  · rintro d (⟨dry, rfl⟩ | hp)
    · have hact : Act cfg c _ := .activateLost id e bytesAcked dry hget hspared hhandshake
      rw [← hf] at hact
      exact .single hact
    · exact hp.tail (.synLost id (hb.used hp (FlowTable.used_of_get hget)))

theorem activateFlow_along (hb : Base c) (hget : c.flows.get id = some e) (hspared : Spared c id)
    (hhandshake : e.handshake = none) :
    Along core (Act cfg) (activateFlow cfg id) c fun _ _ => True := by
  unfold activateFlow
  refine Seen.flowEntry_known hget (Seen.bind (setPeekOffset_seen 0 hget) ?_)
  rintro answer _ (⟨⟨x, rfl⟩, rfl⟩ | ⟨rfl, rfl⟩)
  · exact (failTcpFlow_along cfg hspared).mono fun _ _ _ => trivial
  have ht := Touched.peekOffset e (some 0)
  have hp := touch_path cfg .refl hget ht
  have hspared' := hspared.touched hget ht
  have hfail := ((failTcpFlow_along cfg hspared').mono fun _ _ _ => trivial).onward (Q := fun _ _ => True) hp
  refine Seen.silent_bind Call.silent_enableTxAckTimestamps fun enabled => ?_
  cases enabled with
  | error x => exact hfail
  | ok u =>
    refine Seen.silent_bind Call.silent_bytesAcked fun acked => ?_
    cases acked with
    | error x => exact hfail
    | ok bytesAcked =>
      refine Seen.bind (updateNamespaceWindow_seen cfg (Core.put_get _ hget)) ?_
      rintro _ _ ⟨f, hf, rfl⟩
      rw [Core.put_put]
      have hall := ht.trans hf
      have hgetf := Core.put_get f hget
      refine Seen.flowEntry_known hgetf (Seen.flowBusy_bind (Seen.note_bind ?_))
      refine Seen.modifyEntry_bind (e := f) hgetf ?_
      have hpf := touch_path cfg .refl hget hall
      have hsyn := queueSynAck_along cfg bytesAcked (hb.path hpf) hgetf (hspared.touched hget hall)
        (hall.handshake hhandshake) rfl
      exact Seen.mono hsyn (fun _ _ hd => ⟨hpf.trans hd.1, trivial⟩) fun _ hd => hpf.trans hd

theorem failProxyHandshake_along (hspared : Spared c id) :
    Along core (Act cfg) (failProxyHandshake cfg id) c fun _ _ => True := by
  unfold failProxyHandshake
  refine Seen.silent_bind (Silent.modify fun _ => ?_) fun _ => ?_
  · rfl
  · exact (failTcpFlow_along cfg hspared).mono fun _ _ _ => trivial

theorem flushProxyRounds_along (rounds : ℕ) (hspared : Spared c id) :
    Along core (Act cfg) (flushProxyRounds cfg id rounds) c fun _ _ => True := by
  induction rounds generalizing c with
  | zero => exact Along.pure trivial
  | succ rounds ih =>
    unfold flushProxyRounds
    refine Seen.flowEntry_bind .refl fun e hget => Seen.expect_bind .refl fun h hh => ?_
    split
    · exact Along.pure trivial
    refine Seen.silent_bind (Call.silent_send _) fun answer => ?_
    split
    · exact failProxyHandshake_along cfg hspared
    · rename_i sent _
      generalize h.advanceOutput sent = advanced
      obtain ⟨advanced, result⟩ := advanced
      have ht : Touched e
          { e with
            handshake := some advanced
            socket := { e.socket with handshakeSent := e.socket.handshakeSent ++ h.output.take sent } } :=
        { Touched.refl e with handshake := fun hnone => by rw [hh] at hnone; cases hnone }
      refine Seen.modifyEntry_bind hget ?_
      have hp := touch_path cfg .refl hget ht
      cases result with
      | ok u => exact (ih (hspared.touched hget ht)).onward hp
      | error x => exact Seen.throw hp
    · exact Along.pure trivial
    · exact failProxyHandshake_along cfg hspared

theorem flushProxyOutput_along (hspared : Spared c id) :
    Along core (Act cfg) (flushProxyOutput cfg id) c fun _ _ => True := by
  unfold flushProxyOutput
  refine Seen.flowEntry_bind .refl fun e _ => Seen.expect_bind .refl fun h _ => ?_
  exact flushProxyRounds_along cfg _ hspared

theorem finishTransportConnect_along (hb : Base c) (hspared : Spared c id) :
    Along core (Act cfg) (finishTransportConnect cfg id) c fun _ _ => True := by
  unfold finishTransportConnect
  refine Seen.flowEntry_bind .refl fun e hget => ?_
  refine Seen.inert_bind Call.inert_pendingError .refl fun error => ?_
  split
  · exact (failTcpFlow_along cfg hspared).mono fun _ _ _ => trivial
  · have ht : Touched e { e with transportConnected := true } := { Touched.refl e with }
    refine Seen.modifyEntry_bind hget ?_
    have hget' := Core.put_get { e with transportConnected := true } hget
    refine Seen.flowEntry_known hget' ?_
    have hp := touch_path cfg .refl hget ht
    split
    · exact (flushProxyOutput_along cfg (hspared.touched hget ht)).onward hp
    · rename_i hnone
      refine (activateFlow_along cfg (hb.path hp) hget' (hspared.touched hget ht) ?_).onward hp
      simpa using hnone

theorem continueHandshake_along (hb : Base c) (hspared : Spared c id) :
    Along core (Act cfg) (continueHandshake cfg id) c fun _ _ => True := by
  unfold continueHandshake
  refine Seen.flowEntry_bind .refl fun e hget => Seen.expect_bind .refl fun h _ => ?_
  split
  · have ht : Touched e { e with handshake := none } := { Touched.refl e with handshake := fun _ => rfl }
    refine Seen.modifyEntry_bind hget ?_
    refine Seen.silent_bind (Silent.modify fun _ => ?_) fun _ => ?_
    · rfl
    · have hp := touch_path cfg .refl hget ht
      exact (activateFlow_along cfg (hb.path hp) (Core.put_get _ hget) (hspared.touched hget ht) rfl).onward hp
  · exact flushProxyOutput_along cfg hspared

theorem receiveProxyInput_along (hb : Base c) (hspared : Spared c id) :
    Along core (Act cfg) (receiveProxyInput cfg id) c fun _ _ => True := by
  unfold receiveProxyInput
  refine Seen.flowEntry_bind .refl fun e hget => ?_
  refine Seen.bind (peekSocket_seen proxyResponseCapacity hget) ?_
  rintro result _ (⟨⟨x, rfl⟩, rfl⟩ | ⟨inflow, -, rfl⟩)
  · cases x with
    | wouldBlock => exact Along.pure trivial
    | unexpectedEof => exact failProxyHandshake_along cfg hspared
    | os code => exact failProxyHandshake_along cfg hspared
  have ht := Touched.peek e inflow proxyResponseCapacity
  obtain ⟨f, hf⟩ : ∃ f : FlowEntry, f = { e with socket := (e.socket.peek inflow proxyResponseCapacity).1 } :=
    ⟨_, rfl⟩
  rw [← hf] at ht ⊢
  have hp := touch_path cfg .refl hget ht
  have hgetf := Core.put_get f hget
  have hspared' := hspared.touched hget ht
  have hfail := (failProxyHandshake_along cfg hspared').onward hp
  cases result with
  | error x =>
    cases x with
    | wouldBlock => exact (Along.pure trivial).onward hp
    | unexpectedEof => exact hfail
    | os code => exact hfail
  | ok response =>
    cases response with
    | nil => exact hfail
    | cons byte response =>
      refine Seen.flowEntry_known hgetf (Seen.expect_bind hp fun h hh => ?_)
      obtain ⟨received, result, hreceived⟩ : ∃ a r, h.receive (byte :: response) = (a, r) := ⟨_, _, rfl⟩
      dsimp only
      rw [hreceived]
      dsimp only
      have htg : Touched f { f with handshake := some received } :=
        { Touched.refl f with handshake := fun hnone => by rw [hh] at hnone; cases hnone }
      obtain ⟨g, hg⟩ : ∃ g : FlowEntry, g = { f with handshake := some received } := ⟨_, rfl⟩
      refine Seen.modifyEntry_bind hgetf ?_
      rw [← hg] at htg ⊢
      have hgetg := Core.put_get g hgetf
      have hpg := touch_path cfg hp hgetf htg
      have hsparedg := hspared'.touched hgetf htg
      have hfailg := (failProxyHandshake_along cfg hsparedg).onward hpg
      cases result with
      | error x => exact hfailg
      | ok count =>
        cases count with
        | zero => exact (continueHandshake_along cfg (hb.path hpg) hsparedg).onward hpg
        | succ count =>
          refine Seen.bind (discardSocket_seen (count + 1) hgetg) ?_
          rintro answer _ (⟨⟨x, rfl⟩, rfl⟩ | ⟨inflow, -, rfl⟩)
          · exact hfailg
          obtain ⟨taken, offset, hsocket, -⟩ := Socket.discard_cases g.socket inflow (count + 1)
          rw [hsocket]
          have htake : Touched { g with socket := { g.socket with consumed := g.socket.consumed + taken } }
              { g with
                socket :=
                  { g.socket.arrive inflow with
                    consumed := g.socket.consumed + taken
                    peekOffset := offset } } := { Touched.arrive g inflow with consumed := rfl }
          have hsome : g.handshake.isSome = true := by
            rw [hg]
            rfl
          have hpt := hpg.tail (.replyConsumed id g taken hgetg hsome)
          have hpd := touch_path cfg hpt (Core.put_get _ hgetg) htake
          rw [Core.put_put] at hpd
          have hspared_d := hsparedg.put (f := { g with
            socket :=
              { g.socket.arrive inflow with
                consumed := g.socket.consumed + taken
                peekOffset := offset } }) hgetg fun ho => ho
          cases answer with
          | error x => exact (failProxyHandshake_along cfg hspared_d).onward hpd
          | ok discarded =>
            dsimp only
            split
            · exact (failProxyHandshake_along cfg hspared_d).onward hpd
            · exact (continueHandshake_along cfg (hb.path hpd) hspared_d).onward hpd

theorem silent_consumeAckRefreshSuppression : Silent core consumeAckRefreshSuppression := by
  intro s
  refine Ends.bind (R := fun a t => a = s ∧ t = s) (Ends.get ⟨rfl, rfl⟩) ?_
  rintro a t ⟨rfl, rfl⟩
  split
  · exact (rfl : core _ = core _)
  · exact Ends.pure rfl

theorem handleStreamEvents_seen (events : UInt32) (hb : Base c) (hspared : Spared c id) :
    Seen core (handleStreamEvents cfg id events) c (fun _ d => Path (Act cfg) c d) (Traced cfg c) := by
  unfold handleStreamEvents
  refine Seen.when_bind (R := fun d => Path (Act cfg) c d ∧ Spared d id) (fun _ => ?_)
    (fun _ => ⟨.refl, hspared⟩) ?_
  · exact Seen.mono (flushSocketQueue_along cfg hb hspared) (fun _ _ hd => hd) fun _ hd => .path hd
  rintro d ⟨hp, hs⟩
  refine Seen.silent_bind silent_consumeAckRefreshSuppression fun suppressed => ?_
  have hsend : ∀ e, Path (Act cfg) c e →
      Seen core (if has events (readable ||| readHangup) then sendSocketData cfg id else pure ()) e
        (fun _ d => Path (Act cfg) c d) (Traced cfg c) := by
    intro e he
    split
    · exact Seen.mono (fetchSocketData_seen cfg tapTxBudget (hb.path he)) (fun _ _ hd => he.trans hd)
        fun _ hd => .after he hd
    · exact Seen.pure he
  cases suppressed with
  | true => exact hsend d hp
  | false => exact Seen.bind (Along.traced hp (refreshUpstreamAck_along cfg hs)) fun _ e he => hsend e he.1

theorem handleHandshakeEvents_along (events : UInt32) (hb : Base c) (hspared : Spared c id) :
    Along core (Act cfg) (handleHandshakeEvents cfg id events) c fun go d => go = true → Spared d id := by
  unfold handleHandshakeEvents
  refine Seen.when_bind (fun _ => Seen.mono (flushProxyOutput_along cfg hspared) (fun _ _ hd => hd.1)
    fun _ hd => hd) (fun _ => .refl) fun d hp => ?_
  refine Seen.flowIsClosed_bind (fun _ => Seen.pure ⟨hp, by simp⟩) fun e hget ho => ?_
  rw [if_neg (by decide)]
  refine Seen.when_bind (fun _ => Seen.mono ((receiveProxyInput_along cfg (hb.path hp) (.of_open hget ho)).onward hp)
    (fun _ _ hd => hd.1) fun _ hd => hd) (fun _ => hp) fun d hp => ?_
  refine Seen.flowIsClosed_bind (fun _ => Seen.pure ⟨hp, by simp⟩) fun e hget ho => ?_
  rw [if_neg (by decide)]
  exact Seen.get_bind fun s _ => Seen.pure ⟨hp, fun _ => .of_open hget ho⟩

theorem handleErrorEvent_along (events : UInt32) (hspared : Spared c id) :
    Along core (Act cfg) (handleErrorEvent cfg id events) c fun go d => go = true → d = c := by
  have hfail : Along core (Act cfg) (sendResetForFlow cfg id >>= fun _ => closeFlow cfg id >>= fun _ =>
      pure false) c fun go d => go = true → d = c := by
    refine Along.bind (sendResetForFlow_along cfg id hspared) fun _ d hk => ?_
    refine Along.bind (closeFlow_along cfg (hk.spared hspared)) fun _ _ _ => Along.pure (by simp)
  unfold handleErrorEvent
  split
  · refine Seen.flowEntry_bind .refl fun e _ => Seen.inert_bind Call.inert_pendingError .refl fun error => ?_
    split
    · exact hfail
    · refine Seen.inert_bind Call.inert_drainTxTimestamps .refl fun drain => ?_
      split
      · exact hfail
      · exact Along.pure fun _ => rfl
  · exact Along.pure fun _ => rfl

theorem handleSocketEvents_seen (events : UInt32) (hb : Base c) :
    Seen core (handleSocketEvents cfg id events) c (fun _ d => Path (Act cfg) c d) (Traced cfg c) := by
  unfold handleSocketEvents
  refine Seen.flowIsClosed_bind (fun _ => Seen.pure .refl) fun e hget ho => ?_
  rw [if_neg (by decide)]
  have hspared := Spared.of_open hget ho
  refine Seen.bind (Along.traced .refl (handleErrorEvent_along cfg events hspared)) ?_
  rintro go d ⟨hp, hgo⟩
  cases go with
  | false => exact Seen.pure hp
  | true =>
    obtain rfl := hgo rfl
    rw [if_pos rfl]
    refine Seen.flowEntry_known hget ?_
    refine Seen.when_bind (fun _ => Seen.mono (finishTransportConnect_along cfg hb hspared)
      (fun _ _ hd => hd.1) fun _ hd => .path hd) (fun _ => .refl) fun e hp => ?_
    refine Seen.flowIsClosed_bind (fun _ => Seen.pure hp) fun f hgetf hof => ?_
    rw [if_neg (by decide)]
    refine Seen.flowEntry_known hgetf ?_
    have hstream : ∀ g, Path (Act cfg) d g → Spared g id →
        Seen core (handleStreamEvents cfg id events) g (fun _ h => Path (Act cfg) d h) (Traced cfg d) :=
      fun g hg hs => Seen.mono (handleStreamEvents_seen cfg events (hb.path hg) hs)
        (fun _ _ hd => hg.trans hd) fun _ hd => .after hg hd
    split
    · refine Seen.bind (Along.traced hp (handleHandshakeEvents_along cfg events (hb.path hp) (.of_open hgetf hof))) ?_
      rintro go g ⟨hpg, hgo⟩
      cases go with
      | true => exact hstream g hpg (hgo rfl)
      | false => exact Seen.pure hpg
    · exact hstream e hp (.of_open hgetf hof)

theorem handleSocket_seen (events : UInt32) (hb : Base c) :
    Seen core (handleSocket cfg id events) c (fun _ d => Path (Act cfg) c d) (Traced cfg c) := by
  unfold handleSocket
  refine Seen.bind (handleSocketEvents_seen cfg events hb) fun _ d hp => ?_
  exact Seen.mono (updateSocketInterest_along cfg) (fun _ _ hd => hp.trans hd.1) fun _ hd => .path (hp.trans hd)

theorem flushAckRefreshes_along (count : ℕ) (hcount : c.refresh.length = count) :
    Along core (TapAct cfg) (flushAckRefreshes cfg count) c fun _ d => d.refresh = [] := by
  induction count generalizing c with
  | zero => exact Along.pure (List.length_eq_zero_iff.mp hcount)
  | succ count ih =>
    unfold flushAckRefreshes
    refine Seen.get_bind fun s hs => ?_
    have hqueue : s.ackRefreshQueue = c.refresh := by
      rw [show s.ackRefreshQueue = (core s).refresh from rfl, hs]
    rw [hqueue]
    cases hlast : c.refresh.getLast? with
    | none =>
      rw [List.getLast?_eq_none_iff] at hlast
      exact Along.pure hlast
    | some id =>
      dsimp only
      refine Seen.bind (R := fun _ d => d = { c with refresh := c.refresh.dropLast }) (Seen.set ?_) ?_
      · rw [← hs]
        rfl
      rintro _ _ rfl
      have hp : Path (TapAct cfg) c { c with refresh := c.refresh.dropLast } := .single (.inr ⟨_, rfl⟩)
      have hlen : c.refresh.dropLast.length = count := by
        rw [List.length_dropLast]
        omega
      have hrest : ∀ d, Path (TapAct cfg) c d → d.refresh = c.refresh.dropLast →
          Onward core (TapAct cfg) c (flushAckRefreshes cfg count) d fun _ e => e.refresh = [] :=
        fun d hd hr => (ih (by rw [hr, hlen])).onward hd
      have hinterest : ∀ d, Path (TapAct cfg) c d → d.refresh = c.refresh.dropLast →
          Onward core (TapAct cfg) c (updateSocketInterest id >>= fun _ => flushAckRefreshes cfg count) d
            fun _ e => e.refresh = [] := by
        intro d hd hr
        refine Seen.bind (Seen.mono (updateSocketInterest_along cfg) (fun _ _ he => he.1)
          fun _ he => hd.trans (Path.tap he)) fun _ e he => ?_
        exact hrest e (hd.trans (Path.tap he)) ((Path.refresh he).trans hr)
      refine Seen.flowIsClosed_bind (fun _ => hrest _ hp rfl) fun e hget ho => ?_
      rw [if_neg (by decide)]
      refine Seen.silent_bind silent_consumeAckRefreshSuppression fun suppressed => ?_
      cases suppressed with
      | true => exact hinterest _ hp rfl
      | false =>
        refine Seen.bind (Seen.mono (refreshUpstreamAck_along cfg (.of_open hget ho)) (fun _ _ he => he.1)
          fun _ he => hp.trans (Path.tap he)) fun _ d hd => ?_
        exact hinterest d (hp.trans (Path.tap hd)) (Path.refresh hd)

theorem queueAckRefresh_along :
    Along core (TapAct cfg) (queueAckRefresh id) c fun _ d => ∃ refresh, d = { c with refresh := refresh } := by
  intro s hs
  refine Ends.modify ?_
  dsimp only
  split
  · rw [hs]
    exact ⟨.refl, c.refresh, rfl⟩
  · subst hs
    exact ⟨.single (.inr ⟨_, rfl⟩), _, rfl⟩

theorem closeIfTimeWait_along : Along core (Act cfg) (closeIfTimeWait cfg id) c fun _ _ => True := by
  unfold closeIfTimeWait
  refine Seen.get_bind fun s hs => ?_
  have hflows : s.flows = c.flows := by rw [show s.flows = (core s).flows from rfl, hs]
  rw [hflows]
  cases hget : c.flows.get id with
  | none => exact Along.pure trivial
  | some e =>
    dsimp only
    split
    · rename_i hstate
      have ho : e.open? = true := by simp [FlowEntry.open?, hstate]
      refine Seen.note_bind ?_
      have hspared : Spared (c.log [.timeWait id e]) id := .of_open hget ho
      exact ((closeFlow_along cfg hspared).mono fun _ _ _ => trivial).onward
        (.single (.timeWait id e hget hstate))
    · exact Along.pure trivial

theorem finishSegment_along : Along core (TapAct cfg) (finishSegment cfg id) c fun _ _ => True :=
  Along.bind (queueAckRefresh_along cfg) fun _ _ _ => Along.tap (closeIfTimeWait_along cfg)

theorem receiveSegment_reset (segment : TcpSegment) (hget : c.flows.get id = some e)
    (hrst : segment.flags.rst = true) {E : Core → Prop} :
    Seen core (receiveSegment id segment) c
      (fun disposition d => disposition = .reset ∧
        d = (c.put id (e.received segment).1).log [.segment id e segment]) E := by
  have hreset : (e.received segment).2 = .reset := by
    unfold FlowEntry.received Flow.receive
    rw [hrst]
    rfl
  unfold receiveSegment
  refine Seen.get_bind fun s hs => ?_
  have hflows : s.flows = c.flows := by rw [show s.flows = (core s).flows from rfl, hs]
  rw [hflows, hget, show ensure "flow disappeared" (some e) = (pure e : Io FlowEntry) from rfl, pure_bind]
  refine Seen.note_bind ?_
  obtain ⟨received, disposition, hreceived⟩ : ∃ r d, e.received segment = (r, d) := ⟨_, _, rfl⟩
  rw [hreceived] at hreset ⊢
  obtain rfl : disposition = .reset := hreset
  refine Seen.modifyEntry_bind (e := e) hget ?_
  exact Seen.pure ⟨rfl, rfl⟩

theorem deliverFin_along (clamps : ℕ) {f g : FlowEntry} {segment : TcpSegment} {n : ℕ} {fin : Bool}
    {notices : List Notice} (hget : c.flows.get id = some e) (hspared : Spared c id)
    (hrst : segment.flags.rst = false) (hf : Touched (e.settled segment) f)
    (hd : (e.received segment).2 = .inOrder n fin)
    (hfin : fin = true → n = 0 ∧ notices = [] ∧ g = f ∨
      ∃ answer, 0 < n ∧ notices = [.offered id f segment.payload answer] ∧
        f.submit segment.payload answer = some g)
    (hg : Delivered id segment.payload (.inOrder n false) f notices g) :
    Onward core (TapAct cfg) c (do
        if fin then
          forwardFin id
          sendFinAck cfg id
        else pure ()
        finishSegment cfg id)
      (c.settle id e segment clamps notices g) fun _ _ => True := by
  cases fin with
  | false =>
    rw [← hd] at hg
    exact (finishSegment_along cfg).onward
      (Path.tap (.single (.handled id e f g segment clamps notices hget hspared hrst hf hg)))
  | true =>
    have hok : Delivered id segment.payload (.inOrder n true) f (g.finNotices id ++ notices) g.finForwarded := by
      rcases hfin rfl with ⟨rfl, rfl, rfl⟩ | ⟨answer, hn, rfl, hsubmit⟩
      · rw [List.append_nil]
        exact .fin
      · exact .payloadFin answer hn hsubmit
    have hlost : ∀ error, Lost id segment.payload (.inOrder n true) f
        (.shutdown id (.error error) :: notices) g := fun error => .shutdown error hg
    rw [← hd] at hok hlost
    refine Seen.bind (Seen.mono (forwardFin_seen (Core.settle_get hget g segment clamps notices))
      (fun _ _ hd => hd) ?_) ?_
    · rintro _ ⟨error, rfl⟩
      refine Path.tap (.single ?_)
      have hact : Act cfg c _ := .lost id e f g segment clamps _ hget hspared hrst hf (hlost error)
      rw [← List.singleton_append, ← Core.settle_put c id e g g,
        Core.put_self (Core.settle_get hget g segment clamps notices)] at hact
      exact hact
    · rintro _ _ rfl
      rw [Core.settle_put]
      have hp : Path (TapAct cfg) c _ := Path.tap (.single
        (.handled id e f g.finForwarded segment clamps _ hget hspared hrst hf hok))
      have hs := hspared.settle hget hrst hf hok.alike clamps (g.finNotices id ++ notices)
      refine Onward.bind ((Along.tap (sendFinAck_along cfg id hs)).onward hp) fun _ d hpd _ => ?_
      exact (finishSegment_along cfg).onward hpd

theorem answer_along (hspared : Spared c id) :
    Along core (TapAct cfg) (sendAck cfg id >>= fun _ => finishSegment cfg id) c fun _ _ => True :=
  Along.bind (Along.tap (sendAck_along cfg id hspared)) fun _ _ _ => finishSegment_along cfg

theorem handleExistingTcp_along (segment : TcpSegment) (hspared : Spared c id) :
    Along core (TapAct cfg) (handleExistingTcp cfg id segment) c fun _ _ => True := by
  unfold handleExistingTcp
  refine Seen.flowEntry_bind .refl fun e hget => ?_
  split
  · exact Along.pure trivial
  split
  · exact (Along.tap (retransmitOldest_along cfg false hspared)).mono fun _ _ _ => trivial
  cases hrst : segment.flags.rst with
  | true =>
    refine Seen.bind (receiveSegment_reset segment hget hrst) ?_
    rintro disposition _ ⟨rfl, rfl⟩
    have hgetr : ((c.put id (e.received segment).1).log [.segment id e segment]).flows.get id =
        some (e.received segment).1 := Core.put_get _ hget
    refine Seen.mono (closeFlow_seen cfg hgetr) (fun _ d hd => ⟨?_, trivial⟩) fun d hd => ?_
    · exact Path.tap (.single (.reset id e segment d hget hspared hrst hd))
    · exact Path.tap (.single (.reset id e segment d hget hspared hrst hd))
  | false =>
    refine Seen.bind (Seen.mono (receiveSegment_seen cfg segment hget hspared hrst) (fun _ _ hd => hd)
      fun d hd => Path.tap (.single hd)) ?_
    rintro disposition _ ⟨hd, f, clamps, hf, rfl⟩
    have hgetf := Core.settle_get hget f segment clamps []
    have hsettled : ∀ {d}, (e.received segment).2 = d → (∀ n fin, d = .inOrder n fin → n = 0 ∧ fin = false) →
        Path (TapAct cfg) c (c.settle id e segment clamps [] f) := by
      rintro d rfl hnone
      exact Path.tap (.single (.handled id e f f segment clamps [] hget hspared hrst hf (.nothing hnone)))
    have hspared' := hspared.settle hget hrst hf (Alike.refl f) clamps []
    cases disposition with
    | reset => exact absurd hd.symm (FlowEntry.received_ne_reset hrst)
    | duplicate => exact (answer_along cfg hspared').onward (hsettled hd.symm (by simp))
    | outOfOrder => exact (answer_along cfg hspared').onward (hsettled hd.symm (by simp))
    | outsideWindow => exact (answer_along cfg hspared').onward (hsettled hd.symm (by simp))
    | invalid =>
      refine Onward.bind ((Along.tap (closeFlow_along cfg hspared')).onward (hsettled hd.symm (by simp)))
        fun _ d hp _ => ?_
      exact (finishSegment_along cfg).onward hp
    | inOrder n fin =>
      dsimp only
      have hfinal : ∀ (ns : List Notice) (g : FlowEntry),
          Delivered id segment.payload (.inOrder n false) f ns g →
          (n = 0 ∧ ns = [] ∧ g = f ∨ ∃ answer, 0 < n ∧ ns = [.offered id f segment.payload answer] ∧
            f.submit segment.payload answer = some g) → _ := fun ns g hg hcase =>
        deliverFin_along cfg clamps hget hspared hrst hf hd.symm (fun _ => hcase) hg
      by_cases hn : n > 0
      · rw [if_pos hn]
        have hlost : ∀ {ns g}, Lost id segment.payload (.inOrder n fin) f ns g →
            Path (TapAct cfg) c (c.settle id e segment clamps ns g) := fun hl =>
          Path.tap (.single (.lost id e f _ segment clamps _ hget hspared hrst hf (hd ▸ hl)))
        refine Seen.bind (R := fun delivered d =>
          (delivered = true → ∃ g answer, f.submit segment.payload answer = some g ∧
            d = c.settle id e segment clamps [.offered id f segment.payload answer] g) ∧
          (delivered = false → Path (TapAct cfg) c d))
          (submitNamespacePayload_seen cfg segment.payload hgetf ?_ ?_ ?_) ?_
        · intro answer g hg
          refine ⟨fun _ => ⟨g, answer, hg, ?_⟩, by simp⟩
          rw [Core.settle_put]
          rfl
        · intro error he
          have hp := hlost (.send error hn he)
          rw [← List.append_nil [Notice.offered _ _ _ _], ← Core.settle_put c id e f f,
            Core.put_self hgetf] at hp
          exact hp
        · intro answer g hg
          rw [Core.settle_put]
          have hl : Lost id segment.payload (.inOrder n fin) f _ g := .refused answer hn hg
          have hs := hspared.settle hget hrst hf hl.alike clamps
            [.refused id, .offered id f segment.payload answer]
          refine Seen.mono ((Along.tap (failTcpFlow_along cfg hs)).onward (hlost hl)) ?_ fun _ hd => hd
          exact fun _ _ hd => ⟨by simp, fun _ => hd.1⟩
        · rintro delivered d ⟨htrue, hfalse⟩
          cases delivered with
          | false => exact Seen.pure ⟨hfalse rfl, trivial⟩
          | true =>
            obtain ⟨g, answer, hsubmit, rfl⟩ := htrue rfl
            exact hfinal _ g (.payload answer hn hsubmit) (.inr ⟨answer, hn, rfl, hsubmit⟩)
      · rw [if_neg hn]
        obtain rfl : n = 0 := by omega
        exact hfinal [] f (.nothing (by simp)) (.inl ⟨rfl, rfl, rfl⟩)

end Reactor

end Yayatht
