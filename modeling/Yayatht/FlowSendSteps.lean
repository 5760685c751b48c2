import Yayatht.FlowTcpSteps

set_option autoImplicit false

namespace Yayatht
open Sequence EffectLogic

theorem Seen.flowBusy_bind {c : Core} {id : FlowId} {β : Type} {f : Bool → Io β} {Q : β → Core → Prop} {E : Core → Prop}
    (h : Seen core (f (c.busy id)) c Q E) : Seen core (Reactor.flowBusy id >>= f) c Q E := by
  unfold Reactor.flowBusy
  rw [bind_assoc]
  refine Seen.get_bind fun s hs => ?_
  have hqueue : s.tapQueue = c.tapQueue := by rw [show s.tapQueue = (core s).tapQueue from rfl, hs]
  rw [pure_bind, hqueue]
  exact h

theorem Touched.front {e f : FlowEntry} (h : Touched e f) {segment : SentSegment}
    {segments : List SentSegment} (hs : e.sentSegments = segment :: segments) :
    ∃ segment' segments', f.sentSegments = segment' :: segments' ∧ segment'.layout = segment.layout := by
  have hmap := h.segments
  rw [hs, List.map_cons] at hmap
  cases hf : f.sentSegments with
  | nil =>
    rw [hf] at hmap
    cases hmap
  | cons segment' segments' =>
    rw [hf, List.map_cons] at hmap
    exact ⟨segment', segments', rfl, (List.cons.inj hmap).1⟩

/-- The journal of a state is that of a state a path leads to. -/
def Traced (cfg : Config) (c d : Core) : Prop := ∃ e, Path (Act cfg) c e ∧ e.journal = d.journal

theorem Traced.path {cfg : Config} {c d : Core} (h : Path (Act cfg) c d) : Traced cfg c d := ⟨d, h, rfl⟩

theorem Traced.after {cfg : Config} {c d e : Core} (hp : Path (Act cfg) c d) (h : Traced cfg d e) :
    Traced cfg c e := by
  obtain ⟨f, hf, hj⟩ := h
  exact ⟨f, hp.trans hf, hj⟩

theorem Along.traced {cfg : Config} {α : Type} {m : Io α} {c d : Core} {Q : α → Core → Prop}
    (hp : Path (Act cfg) c d) (h : Along core (Act cfg) m d Q) :
    Seen core m d (fun a e => Path (Act cfg) c e ∧ Q a e) (Traced cfg c) :=
  Seen.mono h (fun _ _ he => ⟨hp.trans he.1, he.2⟩) fun _ he => .path (hp.trans he)

theorem Touched.retained {e f : FlowEntry} (h : Touched e f) : f.retained = e.retained := by
  have hlen : ∀ segments : List SentSegment,
      payloadTotal segments = ((segments.map SentSegment.layout).map fun l => l.2.1).sum := by
    intro segments
    rw [List.map_map]
    rfl
  unfold FlowEntry.retained
  rw [hlen, hlen, h.segments]

theorem Touched.window_eq {e f : FlowEntry} (h : Touched e f) :
    f.flow.availableNamespaceWindow = e.flow.availableNamespaceWindow := by
  obtain ⟨_, _, _, hf⟩ := h.flow
  rw [hf]
  rfl

theorem Touched.sendable {e f : FlowEntry} (h : Touched e f) : f.sendable = e.sendable := by
  unfold FlowEntry.sendable
  rw [h.state]

namespace Reactor

variable (cfg : Config) {c : Core} {id : FlowId} {e : FlowEntry}

theorem forwardFin_seen (hget : c.flows.get id = some e) :
    Seen core (forwardFin id) c
      (fun _ d => d = (c.put id e.finForwarded).log (e.finNotices id))
      fun d => ∃ error, d = c.log [.shutdown id (.error error)] := by
  unfold forwardFin FlowEntry.finForwarded FlowEntry.finNotices
  refine Seen.flowEntry_known hget ?_
  split
  · exact shutdownWrite_seen hget
  · exact Seen.modifyEntry hget rfl

theorem touchFront_along {f : SentSegment → SentSegment}
    (hf : ∀ segment, (f segment).layout = segment.layout) :
    Along core (Act cfg) (touchFront id f) c fun _ d => ProbeKept id c d := by
  unfold touchFront
  refine Seen.flowEntry_bind .refl fun e hget => ?_
  cases hsegments : e.sentSegments with
  | nil => exact Seen.throw .refl
  | cons segment segments =>
    have ht : Touched e { e with sentSegments := f segment :: segments } :=
      { Touched.refl e with segments := by rw [hsegments, List.map_cons, List.map_cons, hf] }
    exact Seen.modifyEntry hget ⟨touch_path cfg .refl hget ht, ProbeKept.put hget rfl⟩

theorem queueRetransmit_along (frame : PooledFrame) (backoff : Bool) :
    Along core (Act cfg) (queueRetransmit cfg id frame backoff) c fun _ d => ProbeKept id c d := by
  unfold queueRetransmit
  refine Along.bind (queueTap_plain cfg frame (.inr rfl) rfl) fun _ d hk => ?_
  refine Seen.silent_bind Call.silent_now fun now => ?_
  refine Along.bind (touchFront_along cfg ?_) fun _ d' hd => ?_
  · intro segment
    split <;> rfl
  · refine Along.still (Inert.modify fun _ => ?_) fun _ => (hk.probe id).trans hd
    rfl

theorem retransmitOldest_along (backoff : Bool) (hspared : Spared c id) :
    Along core (Act cfg) (retransmitOldest cfg id backoff) c fun _ d => ProbeKept id c d := by
  have hsame : ProbeKept id c c := (Kept.refl c).probe id
  unfold retransmitOldest
  refine Seen.flowBusy_bind ?_
  cases hbusy : c.busy id with
  | true => exact Along.pure hsame
  | false =>
    rw [if_neg (by decide)]
    refine Seen.flowEntry_bind .refl fun e hget => ?_
    cases hsegments : e.sentSegments with
    | nil => exact Along.pure hsame
    | cons segment segments =>
      refine Seen.ensure_bind .refl fun sides _ => ?_
      split
      · refine Along.bind (peekSocketFrame_along cfg 0 segment.payloadLen hget) ?_
        rintro result _ ⟨f, ht, hprobe, rfl, hresult⟩
        have hget' := Core.put_get f hget
        have hspared' : Spared (c.put id f) id := Spared.put hspared hget fun ho => ht.isOpen.trans ho
        have hput : ProbeKept id c (c.put id f) := ProbeKept.put hget hprobe
        cases result with
        | eof => exact (failTcpFlow_along cfg hspared').mono fun _ _ hd => hput.trans hd
        | wouldBlock => exact (failTcpFlow_along cfg hspared').mono fun _ _ hd => hput.trans hd
        | data slot bytes =>
          obtain ⟨hne, hlength, hbytes⟩ := hresult
          dsimp only
          split
          · refine Seen.silent_bind (silent_releaseFrame slot) fun _ => ?_
            exact (failTcpFlow_along cfg hspared').mono fun _ _ hd => hput.trans hd
          · refine Seen.bind (Seen.mono (finalizeFlowPayloadFrame_seen cfg id slot _ _ bytes)
              (fun _ _ hd => hd) fun d hd => hd ▸ .refl) ?_
            rintro frame _ ⟨g, spec, hg, hbody, hplan, hgso, rfl⟩
            rw [hget'] at hg
            cases hg
            obtain ⟨segment', segments', hf, hlayout⟩ := Touched.front ht hsegments
            have hp : Path (Act cfg) (c.put id f) ((c.put id f).log [.built id f frame.body]) := by
              refine .single (.built id f frame.body hget' hspared' ?_)
              rw [hbody]
              refine .again spec bytes segment' segments' hbusy hf ?_ ?_ hbytes (.inl hgso)
              · rw [hplan]
                exact (congrArg Prod.fst hlayout).symm
              · rw [show segment'.payloadLen = segment.payloadLen from
                  congrArg (fun l => l.2.1) hlayout]
                exact hlength
            refine ((queueRetransmit_along cfg frame backoff).onward hp).mono fun _ _ hd => ?_
            exact hput.trans (((Kept.log _ _).probe id).trans hd)
      · refine Onward.bind (buildFlowFrame_plain cfg .refl id _ _ hspared) fun frame d hp hk => ?_
        refine ((queueRetransmit_along cfg frame backoff).onward hp).mono fun _ _ hd => ?_
        exact (hk.probe id).trans hd

theorem advanceProbe_along (now : Millis) (hget : c.flows.get id = some e) :
    Along core (Act cfg) (advanceProbe id now) c fun _ _ => True := by
  refine Seen.modifyEntry hget ⟨touch_path cfg .refl hget ?_, trivial⟩
  exact { Touched.refl e with }

/-- The byte of a probe repeats the oldest payload, or stands before everything sent. -/
theorem probe_builtFrom (id : FlowId) {f : FlowEntry} {spec : TcpFrameSpec} {plan : SendPlan} {byte : UInt8}
    (hbusy : c.busy id = false) (hbytes : [byte] = (f.socket.queued 0).take 1)
    (hplan : spec.plan = plan)
    (hsequence : plan.sequence =
      ((f.sentSegments.head?.filter fun segment => segment.payloadLen > 0).map
        SentSegment.sequence).getD (f.flow.localNext - 1)) :
    BuiltFrom c id f (.tcp spec
      [if (f.sentSegments.head?.filter fun segment => segment.payloadLen > 0).isSome then byte
        else f.lastNamespaceByte.getD byte]) := by
  have hstale (hhead : ∀ segment ∈ f.sentSegments.head?, segment.payloadLen = 0)
      (hs : plan.sequence = f.flow.localNext - 1) :
      BuiltFrom c id f (.tcp spec [f.lastNamespaceByte.getD byte]) := by
    cases hq : f.socket.queued 0 with
    | nil =>
      rw [hq] at hbytes
      cases hbytes
    | cons head rest =>
      rw [hq] at hbytes
      obtain rfl : byte = head := (List.cons.inj hbytes).1
      exact .stale spec byte _ rest hbusy hhead hq rfl (by rw [hplan, hs])
  cases hsegments : f.sentSegments with
  | nil =>
    rw [hsegments] at hsequence hstale
    exact hstale (by simp) hsequence
  | cons segment segments =>
    rw [hsegments] at hsequence hstale
    by_cases hpos : segment.payloadLen > 0
    · simp only [List.head?_cons, Option.filter_some, hpos, decide_true, if_true, Option.map_some,
        Option.getD_some, Option.isSome_some] at hsequence ⊢
      refine .again spec [byte] segment segments hbusy hsegments ?_ hpos hbytes (.inr (Nat.le_refl 1))
      rw [hplan, hsequence]
    · simp only [List.head?_cons, Option.filter_some, hpos, decide_false, Bool.false_eq_true, if_false,
        Option.map_none, Option.getD_none, Option.isSome_none] at hsequence ⊢
      refine hstale ?_ hsequence
      intro other hother
      cases hother
      omega

theorem sendZeroWindowProbe_along (now : Millis) (hspared : Spared c id) :
    Along core (Act cfg) (sendZeroWindowProbe cfg id now) c fun _ _ => True := by
  unfold sendZeroWindowProbe
  refine Seen.flowBusy_bind ?_
  cases hbusy : c.busy id with
  | true => exact Along.pure trivial
  | false =>
    rw [if_neg (by decide)]
    refine Seen.flowEntry_bind .refl fun e hget => ?_
    refine Seen.bind (setPeekOffset_seen 0 hget) ?_
    rintro answer _ (⟨⟨x, rfl⟩, rfl⟩ | ⟨rfl, rfl⟩)
    · exact Seen.throw (e := Error.io x) .refl
    have ht := Touched.peekOffset e (some 0)
    refine Seen.orThrow_bind (touch_path cfg .refl hget ht) fun _ _ => ?_
    refine Seen.bind (peekSocket_seen 1 (Core.put_get _ hget)) ?_
    rintro result _ (⟨⟨x, rfl⟩, rfl⟩ | ⟨inflow, hresult, rfl⟩)
    · have hp := touch_path cfg .refl hget ht
      cases x with
      | wouldBlock => exact (advanceProbe_along cfg now (Core.put_get _ hget)).onward hp
      | unexpectedEof => exact Seen.throw hp
      | os code => exact Seen.throw hp
    · have hall := ht.trans (Touched.peek { e with socket := { e.socket with peekOffset := some 0 } } inflow 1)
      obtain ⟨f, hf⟩ : ∃ f : FlowEntry,
          f = { e with socket := ({ e.socket with peekOffset := some 0 }.peek inflow 1).1 } := ⟨_, rfl⟩
      rw [Core.put_put]
      change Touched e { e with socket := ({ e.socket with peekOffset := some 0 }.peek inflow 1).1 } at hall
      change Seen core _
        (c.put id { e with socket := ({ e.socket with peekOffset := some 0 }.peek inflow 1).1 }) _ _
      rw [← hf] at hall ⊢
      have hp := touch_path cfg .refl hget hall
      have hget' := Core.put_get f hget
      cases result with
      | error x =>
        cases x with
        | wouldBlock => exact (advanceProbe_along cfg now hget').onward hp
        | unexpectedEof => exact Seen.throw hp
        | os code => exact Seen.throw hp
      | ok bytes =>
        cases bytes with
        | nil => exact (advanceProbe_along cfg now hget').onward hp
        | cons byte bytes =>
          obtain ⟨hbytes, hlength, -⟩ := Socket.peek_ok hresult.symm
          obtain rfl : bytes = [] := List.length_eq_zero_iff.mp (by simpa using hlength)
          have hsocket : [byte] = (f.socket.queued 0).take 1 := by
            rw [hf]
            exact hbytes
          rw [show e.sentSegments = f.sentSegments by rw [hf], show e.flow = f.flow by rw [hf],
            show e.lastNamespaceByte = f.lastNamespaceByte by rw [hf]]
          refine Seen.bind (Seen.mono (buildFlowFrame_seen cfg id _ _ _) (fun _ _ hd => hd) fun _ hd =>
            path_of_dry cfg hp hd) ?_
          rintro frame _ ⟨g, spec, hg, hbody, hplan, rfl⟩
          rw [hget'] at hg
          cases hg
          have hbuilt := probe_builtFrom id (c := c.put id f) hbusy hsocket hplan rfl
          rw [← hbody] at hbuilt
          have hspared' := Spared.put hspared hget fun ho => hall.isOpen.trans ho
          have hp' := hp.tail (.built id f frame.body hget' hspared' hbuilt)
          refine Seen.get_bind fun s hs => ?_
          split
          · refine Seen.bind (Seen.set (Q := fun _ d => d = core s) rfl) ?_
            rintro _ _ rfl
            rw [hs]
            refine Seen.silent_bind (silent_releaseFrame frame.slot) fun _ => ?_
            have hgetd : ((c.put id f).log [.built id f frame.body]).flows.get id = some f := hget'
            refine Onward.bind ((advanceProbe_along cfg now hgetd).onward hp') fun _ d hpd _ => ?_
            refine Along.onward (Along.still (Inert.modify fun _ => ?_) fun _ => trivial) hpd
            rfl
          · refine Onward.bind ((queueTap_plain cfg frame (.inr rfl) rfl).onward hp') fun _ d hpd hk => ?_
            have hgetd : d.flows.get id = some f := by
              rw [hk.flows]
              exact hget'
            refine Onward.bind ((advanceProbe_along cfg now hgetd).onward hpd) fun _ d hpd _ => ?_
            refine Along.onward (Along.still (Inert.modify fun _ => ?_) fun _ => trivial) hpd
            rfl

theorem maxSend_pos {mss : ℕ} (key : FlowKey) (h : 0 < mss) : 0 < maxSend cfg key mss := by
  have hip : ipHeaderLen key.target ≤ 40 := by
    unfold ipHeaderLen
    split <;> omega
  unfold maxSend gsoMaxL3Bytes tcpMinHeaderLen
  split <;> omega

theorem sendable_open {e : FlowEntry} (h : e.sendable = true) : e.open? = true := by
  unfold FlowEntry.sendable at h
  unfold FlowEntry.open?
  simp only [decide_eq_true_eq] at h ⊢
  rcases h with h | h <;> simp [h]

theorem planSend_eq {f : Flow} {length : ℕ} {fin : Bool} {plan : SendPlan}
    (h : f.planSend length fin = some plan) :
    plan = ⟨f.localNext, f.namespaceAcked, length, false, fin⟩ := by
  unfold Flow.planSend at h
  split at h
  · cases h
  · cases h
    rfl

theorem planFin_path {f : FlowEntry} (frame : PooledFrame) (hget : c.flows.get id = some f)
    (hbusy : c.busy id = false) (hstate : f.sendable = true)
    (hwindow : 0 < f.flow.availableNamespaceWindow) (hretained : f.retained = 0)
    (hend : f.socket.queued 0 = [] ∧ f.socket.eof = true) {plan : SendPlan}
    (hplan : f.flow.planSend 0 true = some plan) :
    Path (Act cfg) c (c.push ⟨some id, frame, some plan, plan.length⟩) := by
  rw [planSend_eq hplan]
  exact .single (.planFin id f frame hget hbusy hstate hwindow hretained hend.1 hend.2)

theorem fetchSocketData_seen (budget : ℕ) (hb : Base c) :
    Seen core (fetchSocketData cfg id budget) c (fun _ d => Path (Act cfg) c d) (Traced cfg c) := by
  induction budget generalizing c with
  | zero => exact Seen.pure .refl
  | succ budget ih =>
    have hself : Traced cfg c c := .path .refl
    have hnext : ∀ d, Path (Act cfg) c d →
        Seen core (fetchSocketData cfg id budget) d (fun _ e => Path (Act cfg) c e) (Traced cfg c) :=
      fun d hp => Seen.mono (ih (hb.path hp)) (fun _ _ he => hp.trans he) fun _ he => .after hp he
    unfold fetchSocketData
    refine Seen.silent_bind silent_framesAvailable fun available => ?_
    split
    · exact Seen.mono (E := Traced cfg c) (silent_noteFramePoolExhaustion.seen c)
        (fun _ _ hd => hd ▸ .refl) fun _ hd => hd
    refine Seen.flowBusy_bind ?_
    cases hbusy : c.busy id with
    | true => exact Seen.pure .refl
    | false =>
      rw [if_neg (by decide)]
      refine Seen.flowEntry_bind hself fun e hget => Seen.ensure_bind hself fun sides _ => ?_
      dsimp only
      split
      · exact Seen.pure .refl
      rename_i hgo
      have hstate : e.sendable = true := by
        unfold FlowEntry.sendable
        by_contra h
        exact hgo (.inl (by simpa using h))
      have hstate' : ∀ {f}, Touched e f → f.sendable = true := fun ht => ht.sendable.trans hstate
      have hwindow : 0 < e.flow.availableNamespaceWindow :=
        Nat.pos_of_ne_zero fun h => hgo (.inr h)
      refine Seen.get_bind fun s hs => ?_
      have hretained : s.retainedSocketBytes = c.retained := by
        rw [show s.retainedSocketBytes = (core s).retained from rfl, hs]
      rw [hretained]
      split
      · refine Seen.mono (E := Traced cfg c) (Silent.seen (Silent.modify fun _ => ?_) c)
          (fun _ _ hd => hd ▸ .refl) fun _ hd => hd
        rfl
      rename_i hroom
      refine Seen.bind (Along.traced .refl (peekSocketFrame_along cfg _ _ hget)) ?_
      rintro result _ ⟨hp, f, ht, -, rfl, hresult⟩
      have hgetf := Core.put_get f hget
      cases result with
      | wouldBlock => exact Seen.pure hp
      | eof =>
        obtain ⟨hzero, hend⟩ := hresult
        have hmax := maxSend_pos cfg sides.namespaceKey (hb.mss id e hget)
        have hend := hend (by omega)
        refine Seen.flowEntry_known hgetf (Seen.ensure_bind (.path hp) fun plan hplan => ?_)
        refine Seen.bind (Seen.mono (buildFlowFrame_seen cfg id plan [] _) (fun _ _ hd => hd) fun _ hd =>
          .path (path_of_dry cfg hp hd)) ?_
        rintro frame _ ⟨g, spec, hg, hbody, -, rfl⟩
        rw [hgetf] at hg
        cases hg
        have hplain : BuiltFrom (c.put id f) id f frame.body := by
          rw [hbody]
          exact .plain _ rfl
        have hp' := hp.tail (.built id f frame.body hgetf (.inl ⟨f, hgetf, sendable_open (hstate' ht)⟩) hplain)
        have hpush := hp'.trans (planFin_path cfg (c := (c.put id f).log [.built id f frame.body])
          frame (f := f) hgetf hbusy (hstate' ht)
          (ht.window_eq ▸ hwindow) (ht.retained.trans hzero) hend hplan)
        have hlen : plan.length ≤ cfg.maxRetainedTcpBytes - c.retained := by
          rw [planSend_eq hplan]
          exact Nat.zero_le _
        refine Seen.bind (Seen.mono (queueTap_planned cfg id frame plan hlen)
          (fun _ _ hd => hpush.trans hd) fun _ hd => .path (hpush.trans hd)) fun _ d hd => hnext d hd
      | data slot bytes =>
        obtain ⟨hne, hlength, hbytes⟩ := hresult
        refine Seen.flowEntry_known hgetf (Seen.ensure_bind (.path hp) fun plan hplan => ?_)
        obtain ⟨last, hlast⟩ : ∃ last : FlowEntry, last = { f with lastNamespaceByte := bytes.getLast? } :=
          ⟨_, rfl⟩
        refine Seen.modifyEntry_bind hgetf ?_
        rw [← hlast]
        have hgetl := Core.put_get last hgetf
        refine Seen.bind (Seen.mono (finalizeFlowPayloadFrame_seen cfg id slot plan _ bytes)
          (fun _ _ hd => hd) fun d hd => ⟨_, hp, by rw [hd]; rfl⟩) ?_
        rintro frame _ ⟨g, spec, hg, hbody, hspec, hgso, rfl⟩
        rw [hgetl] at hg
        cases hg
        have hmss : f.flow.mss = e.flow.mss := ht.alike.mss
        have hsize : cfg.tapOffload = false → bytes.length ≤ f.flow.mss := by
          intro hoff
          rw [hmss]
          rw [maxSend, if_neg (by simp [Config.vnetLen, hoff])] at hlength
          omega
        have hgso' : spec.gsoSize = some f.flow.mss := by
          rw [hgso, hlast]
        have hwindow' : bytes.length ≤ f.flow.availableNamespaceWindow := by
          rw [ht.window_eq]
          omega
        have hroom' : bytes.length ≤ cfg.maxRetainedTcpBytes - (c.put id f).retained := by
          change bytes.length ≤ cfg.maxRetainedTcpBytes - c.retained
          omega
        rw [← ht.retained] at hbytes
        have hplan' := planSend_eq hplan
        have hseq : spec.plan.sequence = f.flow.localNext := by rw [hspec, hplan']
        have hact : Act cfg (c.put id f) _ := .planData id f spec bytes frame hgetf hbusy (hstate' ht)
          hne hwindow' hroom' hbytes hseq hsize hgso'
        rw [← hlast, ← hbody, ← hplan'] at hact
        have hpush := hp.tail hact
        have hlen : plan.length = bytes.length := by rw [hplan']
        rw [← hlen] at hpush hroom'
        refine Seen.bind (Seen.mono (queueTap_planned cfg id frame plan hroom')
          (fun _ _ hd => hpush.trans hd) fun _ hd => .path (hpush.trans hd)) fun _ d hd => hnext d hd

end Reactor

end Yayatht
