import Yayatht.RunSteps

set_option autoImplicit false

namespace Yayatht
open EffectLogic Sequence

/-- The flow answers a SYN on record and has the segment size negotiated with it. -/
def Sourced (cfg : Config) (journal : List Notice) (id : FlowId) (e : FlowEntry) : Prop :=
  ∃ segment key, Notice.accepted id segment ∈ journal ∧ e.key = some key ∧
    e.flow.mss = Reactor.negotiatedMss cfg key segment.mss

/-- A frame of the flow carries no payload or is cut to its segment size. -/
def Sized (cfg : Config) (e : FlowEntry) (body : FrameBody) : Prop :=
  body.payload = [] ∨ ∃ spec payload, body = .tcp spec payload ∧
    (cfg.tapOffload = false → payload.length ≤ e.flow.mss) ∧
      (spec.gsoSize = some e.flow.mss ∨ payload.length ≤ 1)

/-- The segments of an entry are within its segment size. -/
def Cut (cfg : Config) (e : FlowEntry) : Prop :=
  cfg.tapOffload = false → ∀ segment ∈ e.sentSegments, segment.payloadLen ≤ e.flow.mss

structure Measured (cfg : Config) (c : Core) : Prop where
  sourced : ∀ id e, c.flows.get id = some e → Sourced cfg c.journal id e
  cut : ∀ id e, c.flows.get id = some e → Cut cfg e
  queued : ∀ queued ∈ c.tapQueue, ∀ id plan, queued.flow = some id → queued.plan = some plan →
    c.flows.Used id ∧ ∀ e, c.flows.get id = some e → cfg.tapOffload = false → plan.length ≤ e.flow.mss
  built : ∀ id e body, Notice.built id e body ∈ c.journal → Sourced cfg c.journal id e ∧ Sized cfg e body
  once : ∀ id segment segment', Notice.accepted id segment ∈ c.journal → Notice.accepted id segment' ∈ c.journal →
    segment = segment'
  used : ∀ id segment, Notice.accepted id segment ∈ c.journal → c.flows.Used id

/-- The entry keeps its segment size, and its segments stay within it. -/
structure Resized (cfg : Config) (e f : FlowEntry) : Prop where
  mss : f.flow.mss = e.flow.mss
  key : f.key = e.key
  cut : Cut cfg e → Cut cfg f

/-- Notices a step other than the creation of a flow may add. -/
def Notice.Fitting (cfg : Config) (c : Core) : Notice → Prop
  | .accepted _ _ => False
  | .built id e body => ∃ f, c.flows.get id = some f ∧ e.flow.mss = f.flow.mss ∧ e.key = f.key ∧ Sized cfg e body
  | _ => True

namespace Resized

variable {cfg : Config} {e f g : FlowEntry}

theorem refl (e : FlowEntry) : Resized cfg e e := ⟨rfl, rfl, fun h => h⟩

theorem trans (h : Resized cfg e f) (h' : Resized cfg f g) : Resized cfg e g :=
  ⟨h'.mss.trans h.mss, h'.key.trans h.key, fun hc => h'.cut (h.cut hc)⟩

theorem of_segments (hmss : f.flow.mss = e.flow.mss) (hkey : f.key = e.key)
    (h : ∀ segment ∈ f.sentSegments, ∃ whole ∈ e.sentSegments, segment.payloadLen ≤ whole.payloadLen) :
    Resized cfg e f := by
  refine ⟨hmss, hkey, fun hc hoff segment hs => ?_⟩
  obtain ⟨whole, hw, hle⟩ := h segment hs
  rw [hmss]
  exact hle.trans (hc hoff whole hw)

theorem of_same (hmss : f.flow.mss = e.flow.mss) (hkey : f.key = e.key)
    (hsegments : f.sentSegments = e.sentSegments) : Resized cfg e f :=
  of_segments hmss hkey fun segment hs => ⟨segment, hsegments ▸ hs, Nat.le_refl _⟩

theorem touched (h : Touched e f) : Resized cfg e f := by
  refine of_segments h.alike.mss h.alike.key fun segment hs => ?_
  have hm : segment.layout ∈ f.sentSegments.map SentSegment.layout := List.mem_map_of_mem hs
  rw [h.segments] at hm
  obtain ⟨whole, hw, heq⟩ := List.mem_map.mp hm
  exact ⟨whole, hw, (congrArg (fun l => l.2.1) heq).symm.le⟩

theorem submit {payload : Bytes} {answer : Except IoError ℕ} (h : e.submit payload answer = some f) :
    Resized cfg e f := by
  refine of_same (Alike.submit h).mss (Alike.submit h).key ?_
  unfold FlowEntry.submit at h
  split at h
  · split at h
    · obtain ⟨queue, -, rfl⟩ := Option.map_eq_some_iff.mp h
      rfl
    · cases h
      rfl
  · obtain ⟨queue, -, rfl⟩ := Option.map_eq_some_iff.mp h
    rfl
  · cases h

theorem finForwarded (e : FlowEntry) : Resized cfg e e.finForwarded := by
  refine of_same (Alike.finForwarded e).mss (Alike.finForwarded e).key ?_
  unfold FlowEntry.finForwarded
  split <;> rfl

end Resized

theorem acknowledge_payloadLen (segment : SentSegment) (acknowledgment : Seq) :
    (segment.acknowledge acknowledgment).1.payloadLen ≤ segment.payloadLen := by
  unfold SentSegment.acknowledge
  split
  · exact Nat.le_refl _
  split
  · exact Nat.le_refl _
  · exact Nat.sub_le _ _

theorem acknowledgeSegments_payloadLen (acknowledgment : Seq) (segments : List SentSegment) :
    ∀ segment ∈ acknowledgeSegments acknowledgment segments,
      ∃ whole ∈ segments, segment.payloadLen ≤ whole.payloadLen := by
  induction segments with
  | nil => simp [acknowledgeSegments]
  | cons first segments ih =>
    intro segment hs
    unfold acknowledgeSegments at hs
    split at hs
    · obtain ⟨whole, hw, hle⟩ := ih segment hs
      exact ⟨whole, List.mem_cons_of_mem _ hw, hle⟩
    · rename_i trimmed htrim
      rcases List.mem_cons.mp hs with rfl | hs
      · refine ⟨first, List.mem_cons_self, ?_⟩
        have hle := acknowledge_payloadLen first acknowledgment
        rwa [htrim] at hle
      · exact ⟨segment, List.mem_cons_of_mem _ hs, Nat.le_refl _⟩

theorem Resized.settled {cfg : Config} (e : FlowEntry) (segment : TcpSegment) :
    Resized cfg e (e.settled segment) := by
  refine of_segments (e.received_mss segment) rfl fun sent hs => ?_
  unfold FlowEntry.settled at hs
  dsimp only at hs
  split at hs
  · exact ⟨sent, hs, Nat.le_refl _⟩
  · exact acknowledgeSegments_payloadLen _ _ sent hs

theorem Delivered.resized {cfg : Config} {id : FlowId} {payload : Bytes} {d : ReceiveDisposition}
    {e f : FlowEntry} {notices : List Notice} (h : Delivered id payload d e notices f) : Resized cfg e f := by
  cases h with
  | nothing h => exact .refl e
  | payload answer hn hf => exact .submit hf
  | fin => exact .finForwarded e
  | payloadFin answer hn hf => exact (Resized.submit hf).trans (.finForwarded _)

theorem Lost.resized {cfg : Config} {id : FlowId} {payload : Bytes} {d : ReceiveDisposition}
    {e f : FlowEntry} {notices : List Notice} (h : Lost id payload d e notices f) : Resized cfg e f := by
  cases h with
  | send error hn he => exact .refl e
  | refused answer hn hf =>
    rcases hf with rfl | ⟨count, rfl⟩
    · exact .refl _
    · exact .of_same rfl rfl rfl
  | shutdown error hf => exact hf.resized

theorem Drained.resized {cfg : Config} {e f : FlowEntry} (h : Drained e f) : Resized cfg e f := by
  cases h with
  | nothing => exact .refl e
  | chunk bytes sent => exact .of_same rfl rfl rfl

theorem Resized.advanced (cfg : Config) (e : FlowEntry) (plan : SendPlan) : Resized cfg e (e.advanced plan) := by
  refine of_same ?_ rfl rfl
  unfold FlowEntry.advanced Flow.commitSend
  dsimp only
  split
  · split <;> rfl
  · rfl

theorem Resized.committed {cfg : Config} {e : FlowEntry} {plan : SendPlan} (now : Millis)
    (h : cfg.tapOffload = false → plan.length ≤ e.flow.mss) : Resized cfg e (e.committed plan now) := by
  have hadvanced := Resized.advanced cfg e plan
  refine ⟨hadvanced.mss, hadvanced.key, fun hc hoff segment hs => ?_⟩
  change segment.payloadLen ≤ (e.advanced plan).flow.mss
  rw [hadvanced.mss]
  rcases List.mem_append.mp hs with hs | hs
  · exact hc hoff segment hs
  · rw [List.mem_singleton] at hs
    subst hs
    exact h hoff

theorem Sourced.append {cfg : Config} {journal : List Notice} {id : FlowId} {e : FlowEntry}
    (h : Sourced cfg journal id e) (notices : List Notice) : Sourced cfg (notices ++ journal) id e := by
  obtain ⟨segment, key, hm, hrest⟩ := h
  exact ⟨segment, key, List.mem_append_right _ hm, hrest⟩

theorem Sourced.of_same {cfg : Config} {journal : List Notice} {id : FlowId} {e f : FlowEntry}
    (h : Sourced cfg journal id e) (hmss : f.flow.mss = e.flow.mss) (hkey : f.key = e.key) :
    Sourced cfg journal id f := by
  obtain ⟨segment, key, hm, hk, hs⟩ := h
  exact ⟨segment, key, hm, hkey.trans hk, hmss.trans hs⟩

theorem Sourced.pos {cfg : Config} {journal : List Notice} {id : FlowId} {e : FlowEntry}
    (h : Sourced cfg journal id e) : 0 < e.flow.mss := by
  obtain ⟨segment, key, -, -, hs⟩ := h
  rw [hs]
  exact Reactor.negotiatedMss_pos cfg key segment.mss

namespace Measured

variable {cfg : Config} {c d : Core}

theorem follow (hc : Measured cfg c) (hused : ∀ id, c.flows.Used id → d.flows.Used id)
    (hflows : ∀ id f, d.flows.get id = some f → ∃ e, c.flows.get id = some e ∧ Resized cfg e f)
    (hqueue : ∀ queued ∈ d.tapQueue, queued ∈ c.tapQueue ∨ queued.flow = none ∨ queued.plan = none ∨
      ∃ id e plan, queued.flow = some id ∧ queued.plan = some plan ∧ c.flows.get id = some e ∧
        (cfg.tapOffload = false → plan.length ≤ e.flow.mss))
    {notices : List Notice} (hjournal : d.journal = notices ++ c.journal)
    (hnotices : ∀ n ∈ notices, n.Fitting cfg c) : Measured cfg d := by
  have haccepted : ∀ id segment, Notice.accepted id segment ∈ d.journal → Notice.accepted id segment ∈ c.journal := by
    intro id segment hm
    rw [hjournal] at hm
    exact (List.mem_append.mp hm).resolve_left fun hn => hnotices _ hn
  refine ⟨fun id f hf => ?_, fun id f hf => ?_, fun queued hq id plan hid hplan => ?_, fun id e body hm => ?_,
    fun id segment segment' h h' => ?_, fun id segment h => ?_⟩
  · obtain ⟨e, he, hr⟩ := hflows id f hf
    rw [hjournal]
    exact ((hc.sourced id e he).of_same hr.mss hr.key).append notices
  · obtain ⟨e, he, hr⟩ := hflows id f hf
    exact hr.cut (hc.cut id e he)
  · have hsame : ∀ {e f}, c.flows.get id = some e → d.flows.get id = some f → f.flow.mss = e.flow.mss := by
      intro e f he hf
      obtain ⟨g, hg, hr⟩ := hflows id f hf
      rw [he] at hg
      cases hg
      exact hr.mss
    rcases hqueue queued hq with hq | hq | hq | ⟨other, e, other', ho, ho', he, hle⟩
    · obtain ⟨hu, hle⟩ := hc.queued queued hq id plan hid hplan
      refine ⟨hused id hu, fun f hf hoff => ?_⟩
      obtain ⟨e, he, -⟩ := hflows id f hf
      rw [hsame he hf]
      exact hle e he hoff
    · rw [hq] at hid
      cases hid
    · rw [hq] at hplan
      cases hplan
    · rw [ho] at hid
      rw [ho'] at hplan
      cases hid
      cases hplan
      refine ⟨hused id (FlowTable.used_of_get he), fun f hf hoff => ?_⟩
      rw [hsame he hf]
      exact hle hoff
  · rw [hjournal] at hm
    rcases List.mem_append.mp hm with hm | hm
    · obtain ⟨f, hf, hmss, hkey, hsized⟩ := hnotices _ hm
      rw [hjournal]
      exact ⟨((hc.sourced id f hf).of_same hmss hkey).append notices, hsized⟩
    · obtain ⟨hsourced, hsized⟩ := hc.built id e body hm
      rw [hjournal]
      exact ⟨hsourced.append notices, hsized⟩
  · exact hc.once id segment segment' (haccepted id segment h) (haccepted id segment' h')
  · exact hused id (hc.used id segment (haccepted id segment h))

theorem follow_silent (hc : Measured cfg c) (hused : ∀ id, c.flows.Used id → d.flows.Used id)
    (hflows : ∀ id f, d.flows.get id = some f → ∃ e, c.flows.get id = some e ∧ Resized cfg e f)
    (hqueue : ∀ queued ∈ d.tapQueue, queued ∈ c.tapQueue ∨ queued.flow = none ∨ queued.plan = none ∨
      ∃ id e plan, queued.flow = some id ∧ queued.plan = some plan ∧ c.flows.get id = some e ∧
        (cfg.tapOffload = false → plan.length ≤ e.flow.mss))
    (hjournal : d.journal = c.journal) : Measured cfg d :=
  hc.follow hused hflows hqueue (show d.journal = [] ++ c.journal from hjournal) fun _ hn => nomatch hn

theorem still (h : d.flows = c.flows) (id : FlowId) (f : FlowEntry) (hf : d.flows.get id = some f) :
    ∃ e, c.flows.get id = some e ∧ Resized cfg e f := ⟨f, h ▸ hf, .refl f⟩

theorem written {id : FlowId} {e f : FlowEntry} (hget : c.flows.get id = some e)
    (hflows : ∀ other, d.flows.get other = (c.flows.modify id fun _ => f).get other) (hr : Resized cfg e f)
    (other : FlowId) (g : FlowEntry) (hg : d.flows.get other = some g) : ∃ e, c.flows.get other = some e ∧ Resized cfg e g := by
  rw [hflows, FlowTable.get_modify] at hg
  split at hg
  · rename_i heq
    rw [hget] at hg
    cases hg
    exact ⟨e, heq ▸ hget, hr⟩
  · exact ⟨g, hg, .refl g⟩

theorem unregister_fitting (cfg : Config) (c : Core) (id : FlowId) (key : FlowKey) (e : FlowEntry) :
    ∃ notices, (c.unregister id key e).journal = notices ++ c.journal ∧ ∀ n ∈ notices, n.Fitting cfg c := by
  obtain ⟨ns, hkind, hn⟩ := Core.unregister_journal c id key e
  refine ⟨ns ++ [.released id e], by rw [List.append_assoc]; exact hn, fun n hm => ?_⟩
  rcases List.mem_append.mp hm with hm | hm
  · obtain ⟨length, available, rfl⟩ := hkind n hm
    trivial
  · rw [List.mem_singleton] at hm
    subst hm
    trivial

theorem closing {id : FlowId} {e : FlowEntry} (hc : Measured cfg c) (hget : c.flows.get id = some e)
    (h : Closing c id e d) : Measured cfg d := by
  have hused : ∀ other, c.flows.Used other → d.flows.Used other := fun other hu => h.used hu
  have hqueue : ∀ key, ∀ queued ∈ (c.unregister id key e).tapQueue, queued ∈ c.tapQueue := by
    intro key queued hq
    rw [Core.unregister_tapQueue] at hq
    exact (List.mem_filter.mp hq).1
  cases h with
  | done sides hsides =>
    obtain ⟨notices, hjournal, hfit⟩ := unregister_fitting cfg c id sides.namespaceKey e
    refine hc.follow hused (written hget (f := { e with flow := e.flow.close }) (fun other => ?_) ?_)
      (fun queued hq => .inl (hqueue _ queued hq)) hjournal hfit
    · unfold Core.retire
      dsimp only
      rw [FlowTable.get_deferRemove, Core.unregister_flows]
    · exact .of_same rfl rfl rfl
  | stuck =>
    have hjournal : (c.log [.closeFailed id]).journal = [.closeFailed id] ++ c.journal := rfl
    exact hc.follow hused (still rfl) (fun _ hq => .inl hq) hjournal (by simp [Notice.Fitting])
  | broken sides hsides =>
    obtain ⟨notices, hjournal, hfit⟩ := unregister_fitting cfg c id sides.namespaceKey e
    refine hc.follow hused (still (Core.unregister_flows c id sides.namespaceKey e))
      (fun queued hq => .inl (hqueue _ queued hq)) (?_ : _ = (.closeFailed id :: notices) ++ c.journal) fun n hn => ?_
    · change Notice.closeFailed id :: _ = _
      rw [hjournal]
      rfl
    · rcases List.mem_cons.mp hn with rfl | hn
      · trivial
      · exact hfit n hn

theorem create {key : FlowKey} {e : FlowEntry} {flows : FlowTable FlowEntry} {id : FlowId} {segment : TcpSegment}
    (hwf : c.flows.Wf) (hc : Measured cfg c) (hinsert : c.flows.insert e = (flows, .ok id)) (hfresh : Fresh key e)
    (hmss : e.flow.mss = Reactor.negotiatedMss cfg key segment.mss) (byKey : KeyedMap FlowKey FlowId) :
    Measured cfg ({ c with flows := flows, byKey := byKey }.log [.accepted id segment, .created id]) := by
  rcases hwf.insert_cases e with hfull | ⟨flows', id', hinsert', -, -, hunused, hget, hkept⟩
  · rw [hfull] at hinsert
    cases hinsert
  rw [hinsert'] at hinsert
  cases hinsert
  have hjournal : ∀ n, n ∈ [Notice.accepted id segment, .created id] ++ c.journal →
      n = .accepted id segment ∨ n = .created id ∨ n ∈ c.journal := by
    intro n hn
    simpa using hn
  have hsplit : ∀ other f, flows.get other = some f → (other = id ∧ f = e) ∨ c.flows.get other = some f := by
    intro other f hf
    rw [hget] at hf
    split at hf
    · cases hf
      exact .inl ⟨by assumption, rfl⟩
    · exact .inr hf
  have hold : ∀ other old, Notice.accepted other old ∈ c.journal → other ≠ id := by
    rintro other old hm rfl
    exact hunused (hc.used _ old hm)
  refine ⟨fun other f hf => ?_, fun other f hf => ?_, fun queued hq other plan ho hplan => ?_,
    fun other f body hm => ?_, fun other old old' h h' => ?_, fun other old h => ?_⟩
  · rcases hsplit other f hf with ⟨rfl, rfl⟩ | hf
    · exact ⟨segment, key, List.mem_cons_self, hfresh.key_eq, hmss⟩
    · exact (hc.sourced other f hf).append _
  · rcases hsplit other f hf with ⟨rfl, rfl⟩ | hf
    · intro _ sent hs
      rw [hfresh.sentSegments] at hs
      cases hs
    · exact hc.cut other f hf
  · obtain ⟨hu, hle⟩ := hc.queued queued hq other plan ho hplan
    refine ⟨hkept other hu, fun f hf => ?_⟩
    rcases hsplit other f hf with ⟨rfl, -⟩ | hf
    · exact absurd hu hunused
    · exact hle f hf
  · rcases hjournal _ hm with h | h | hm
    · cases h
    · cases h
    · obtain ⟨hsourced, hsized⟩ := hc.built other f body hm
      exact ⟨hsourced.append _, hsized⟩
  · rcases hjournal _ h with h | h | h
    · cases h
      rcases hjournal _ h' with h' | h' | h'
      · cases h'
        rfl
      · cases h'
      · exact absurd rfl (hold _ _ h')
    · cases h
    · rcases hjournal _ h' with h' | h' | h'
      · cases h'
        exact absurd rfl (hold _ _ h)
      · cases h'
      · exact hc.once other old old' h h'
  · rcases hjournal _ h with h | h | h
    · cases h
      change flows.Used id
      exact FlowTable.used_of_get ((hget id).trans (if_pos rfl))
    · cases h
    · exact hkept other (hc.used other old h)

/-- What is sent again was cut when it was sent first. -/
theorem sized {id : FlowId} {e : FlowEntry} {body : FrameBody} (hc : Measured cfg c) (hget : c.flows.get id = some e)
    (h : BuiltFrom c id e body) : Sized cfg e body := by
  cases h with
  | plain body h => exact .inl h
  | again spec payload segment rest hbusy hsegments hsequence hlength hpayload hgso =>
    refine .inr ⟨spec, payload, rfl, fun hoff => hlength.trans ?_, hgso⟩
    exact hc.cut id e hget hoff segment (by rw [hsegments]; exact List.mem_cons_self)
  | stale spec first byte rest =>
    exact .inr ⟨spec, [byte], rfl, fun _ => (hc.sourced id e hget).pos, .inr (Nat.le_refl 1)⟩

theorem delivered_fitting {id : FlowId} {payload : Bytes} {disposition : ReceiveDisposition} {e f : FlowEntry}
    {notices : List Notice} (h : Delivered id payload disposition e notices f) :
    ∀ n ∈ notices, n.Fitting cfg c := by
  have hfin : ∀ g : FlowEntry, ∀ n ∈ g.finNotices id, n.Fitting cfg c := by
    intro g n hn
    unfold FlowEntry.finNotices at hn
    split at hn
    · rw [List.mem_singleton] at hn
      subst hn
      trivial
    · cases hn
  cases h with
  | nothing h => simp
  | payload answer hn hf => simp [Notice.Fitting]
  | fin => exact hfin e
  | payloadFin answer hn hf =>
    intro n hm
    rcases List.mem_append.mp hm with hm | hm
    · exact hfin _ n hm
    · rw [List.mem_singleton] at hm
      subst hm
      trivial

theorem lost_fitting {id : FlowId} {payload : Bytes} {disposition : ReceiveDisposition} {e f : FlowEntry}
    {notices : List Notice} (h : Lost id payload disposition e notices f) :
    ∀ n ∈ notices, n.Fitting cfg c := by
  cases h with
  | send error hn he => simp [Notice.Fitting]
  | refused answer hn hf => simp [Notice.Fitting]
  | shutdown error hf =>
    intro n hm
    rcases List.mem_cons.mp hm with rfl | hm
    · trivial
    · exact delivered_fitting hf n hm

theorem settle {id : FlowId} {e f : FlowEntry} {segment : TcpSegment} {clamps : ℕ} {notices : List Notice}
    (hc : Measured cfg c) (hget : c.flows.get id = some e) (hr : Resized cfg e f)
    (hnotices : ∀ n ∈ notices, n.Fitting cfg c) : Measured cfg (c.settle id e segment clamps notices f) := by
  refine hc.follow (fun _ hu => hu.modify _ _) (written hget (fun _ => rfl) hr) (fun _ hq => .inl hq)
    (?_ : _ = (notices ++ settleNotices id (e.ackedBy segment) c.retained clamps ++ [.segment id e segment]) ++ c.journal)
    fun n hn => ?_
  · rw [List.append_assoc]
    rfl
  rcases List.mem_append.mp hn with hn | hn
  · rcases List.mem_append.mp hn with hn | hn
    · exact hnotices n hn
    · rcases List.mem_append.mp hn with hn | hn
      · split at hn
        · simp only [List.mem_cons, List.not_mem_nil, or_false] at hn
          rcases hn with rfl | rfl <;> trivial
        · cases hn
      · rw [(List.mem_replicate.mp hn).2]
        trivial
  · rw [List.mem_singleton] at hn
    subst hn
    trivial

theorem queue_pushed {queued : QueuedFrame} {id : FlowId} {e : FlowEntry} {plan : SendPlan}
    (hget : c.flows.get id = some e) (hid : queued.flow = some id) (hplan : queued.plan = some plan)
    (hle : cfg.tapOffload = false → plan.length ≤ e.flow.mss) :
    ∀ other ∈ c.tapQueue ++ [queued], other ∈ c.tapQueue ∨ other.flow = none ∨ other.plan = none ∨
      ∃ id e plan, other.flow = some id ∧ other.plan = some plan ∧ c.flows.get id = some e ∧
        (cfg.tapOffload = false → plan.length ≤ e.flow.mss) := by
  intro other ho
  rcases List.mem_append.mp ho with ho | ho
  · exact .inl ho
  · rw [List.mem_singleton] at ho
    subst ho
    exact .inr (.inr (.inr ⟨id, e, plan, hid, hplan, hget, hle⟩))

theorem act (hb : Base c) (hc : Measured cfg c) (h : Act cfg c d) : Measured cfg d := by
  have hused : ∀ id, c.flows.Used id → d.flows.Used id := fun id hu => h.used hb.table hu
  cases h with
  | engine u h => exact hc.follow_silent hused (still rfl) (fun _ hq => .inl hq) rfl
  | associations u h => exact hc.follow_silent hused (still rfl) (fun _ hq => .inl hq) rfl
  | mild notice h =>
    refine hc.follow hused (still rfl) (fun _ hq => .inl hq) rfl fun n hn => ?_
    rw [List.mem_singleton] at hn
    subst hn
    cases h <;> trivial
  | dialed transport peer h =>
    exact hc.follow hused (still rfl) (fun _ hq => .inl hq) rfl (by simp [Notice.Fitting])
  | synLost id h => exact hc.follow hused (still rfl) (fun _ hq => .inl hq) rfl (by simp [Notice.Fitting])
  | serviced id e now hget => exact hc.follow hused (still rfl) (fun _ hq => .inl hq) rfl (by simp [Notice.Fitting])
  | timeWait id e hget hstate => exact hc.follow hused (still rfl) (fun _ hq => .inl hq) rfl (by simp [Notice.Fitting])
  | touch id e f hget h =>
    exact hc.follow_silent hused (written hget (fun _ => rfl) (.touched h)) (fun _ hq => .inl hq) rfl
  | replyConsumed id e count hget h =>
    exact hc.follow_silent hused (written hget (fun _ => rfl) (.of_same rfl rfl rfl)) (fun _ hq => .inl hq) rfl
  | built id e body hget hspared h =>
    refine hc.follow hused (still rfl) (fun _ hq => .inl hq) rfl fun n hn => ?_
    rw [List.mem_singleton] at hn
    subst hn
    exact ⟨e, hget, rfl, rfl, hc.sized hget h⟩
  | enqueue queued h hr =>
    refine hc.follow_silent hused (still rfl) (fun other hq => ?_) rfl
    rcases List.mem_append.mp hq with hq | hq
    · exact .inl hq
    · rw [List.mem_singleton] at hq
      subst hq
      exact .inr (h.imp_right .inl)
  | planData id e spec payload frame hget hbusy hstate hne hwindow hretained hpayload hsequence hsize hgso =>
    refine hc.follow hused (written hget (fun _ => rfl) (.of_same rfl rfl rfl)) (queue_pushed hget rfl rfl hsize) rfl
      fun n hn => ?_
    rw [List.mem_singleton] at hn
    subst hn
    exact ⟨e, hget, rfl, rfl, .inr ⟨spec, payload, rfl, hsize, .inl hgso⟩⟩
  | planFin id e frame hget hbusy hstate hwindow hretained hqueued heof =>
    exact hc.follow_silent hused (still rfl) (queue_pushed hget rfl rfl fun _ => Nat.zero_le _) rfl
  | commitPlain queued rest hqueue h =>
    exact hc.follow_silent hused (still rfl) (fun _ hq => .inl (by rw [hqueue]; exact List.mem_cons_of_mem _ hq))
      rfl
  | commit queued rest hqueue id plan e now hid hplan hget hmatch =>
    have hle := (hc.queued queued (by rw [hqueue]; exact List.mem_cons_self) id plan hid hplan).2 e hget
    exact hc.follow_silent hused (written hget (fun _ => rfl) (.committed now hle))
      (fun _ hq => .inl (by rw [hqueue]; exact List.mem_cons_of_mem _ hq)) rfl
  | commitMissed queued rest hqueue id plan hid hplan hget =>
    exact hc.follow hused (still rfl) (fun _ hq => .inl (by rw [hqueue]; exact List.mem_cons_of_mem _ hq)) rfl
      (by simp [Notice.Fitting])
  | commitMismatched queued rest hqueue id plan e hid hplan hget hmatch =>
    exact hc.follow hused (written hget (fun _ => rfl) (.advanced cfg e plan))
      (fun _ hq => .inl (by rw [hqueue]; exact List.mem_cons_of_mem _ hq)) rfl (by simp [Notice.Fitting])
  | drop queued rest hqueue =>
    exact hc.follow hused (still rfl) (fun _ hq => .inl (by rw [hqueue]; exact List.mem_cons_of_mem _ hq))
      (show _ = [_, _] ++ c.journal from rfl) (by simp [Notice.Fitting])
  | flush id e f hget hspared h hrest =>
    exact hc.follow_silent hused (written hget (fun _ => rfl) h.resized) (fun _ hq => .inl hq) rfl
  | flushFin id e f hget hspared h hempty hshut =>
    exact hc.follow hused (written hget (fun _ => rfl) (h.resized.trans (.of_same rfl rfl rfl))) (fun _ hq => .inl hq) rfl
      (by simp [Notice.Fitting])
  | flushFinFailed id e f error hget hspared h =>
    exact hc.follow hused (written hget (fun _ => rfl) h.resized) (fun _ hq => .inl hq) rfl (by simp [Notice.Fitting])
  | handled id e f g segment clamps notices hget hspared hrst hf hg =>
    exact hc.settle hget (((Resized.settled e segment).trans (.touched hf)).trans hg.resized) (delivered_fitting hg)
  | lost id e f g segment clamps notices hget hspared hrst hf hg =>
    exact hc.settle hget (((Resized.settled e segment).trans (.touched hf)).trans hg.resized) (lost_fitting hg)
  | ackAborted id e f segment clamps count fault hget hspared hrst hf hfault =>
    refine hc.follow hused (written hget (fun _ => rfl) (Resized.trans ?_ (.touched hf))) (fun _ hq => .inl hq) rfl
      fun n hn => ?_
    · exact .of_same (e.received_mss segment) rfl rfl
    · simp only [List.cons_append, List.mem_cons, List.mem_append, List.mem_replicate, List.not_mem_nil,
        or_false] at hn
      rcases hn with rfl | ⟨-, rfl⟩ | rfl
      · cases hfault <;> trivial
      · trivial
      · trivial
  | reset id e segment d hget hspared hrst h =>
    have hreceived : Measured cfg ((c.put id (e.received segment).1).log [.segment id e segment]) := by
      refine hc.follow (fun _ hu => hu.modify _ _) (written hget (fun _ => rfl) ?_) (fun _ hq => .inl hq) rfl
        (by simp [Notice.Fitting])
      exact .of_same (e.received_mss segment) rfl rfl
    exact hreceived.closing (Core.put_get _ hget) h
  | activate id e bytesAcked frame body hget hspared hhandshake hbody =>
    refine hc.follow hused (written hget (fun _ => rfl) (.of_same rfl rfl rfl))
      (queue_pushed hget rfl rfl fun _ => Nat.zero_le _) rfl fun n hn => ?_
    simp only [List.mem_cons, List.not_mem_nil, or_false] at hn
    rcases hn with rfl | rfl
    · exact ⟨e, hget, rfl, rfl, .inl hbody⟩
    · trivial
  | activateLost id e bytesAcked dry hget hspared hhandshake =>
    refine hc.follow hused (written hget (fun _ => rfl) (.of_same rfl rfl rfl)) (fun _ hq => .inl hq) rfl fun n hn => ?_
    simp only [List.cons_append, List.mem_cons, List.mem_append, List.mem_replicate, List.not_mem_nil,
      or_false] at hn
    rcases hn with rfl | ⟨-, rfl⟩ | rfl <;> trivial
  | close id e d hget hspared h => exact hc.closing hget h
  | create key e flows id hkey hinsert hfresh segment hmss => exact hc.create hb.table hinsert hfresh hmss _
  | reap =>
    refine hc.follow_silent hused (fun id f hf => ?_) (fun _ hq => .inl hq) rfl
    change c.flows.flushDeferred.1.get id = some f at hf
    rw [FlowTable.get_flushDeferred] at hf
    split at hf
    · cases hf
    · exact ⟨f, hf, .refl f⟩

theorem initial (cfg : Config) : Measured cfg (Core.initial cfg) where
  sourced id e h := by simp [Core.initial] at h
  cut id e h := by simp [Core.initial] at h
  queued queued h := by simp [Core.initial] at h
  built id e body h := by simp [Core.initial] at h
  once id segment segment' h := by simp [Core.initial] at h
  used id segment h := by simp [Core.initial] at h

end Measured

/-- What goes out as one segment: the payload of the frame or, of one longer than its `gsoSize`, the size
the kernel cuts it to. -/
def TcpFrameSpec.segmentLength (cfg : Config) (spec : TcpFrameSpec) (payload : Bytes) : ℕ :=
  match spec.gsoSize.filter fun size => payload.length > size with
  | some size => if cfg.tapOffload then size else payload.length
  | none => payload.length

/-- The largest payload of a packet within the MTU. -/
def mtuPayload (cfg : Config) (key : FlowKey) : ℕ := cfg.tapMtu - if key.target.isIpv4 then 40 else 60

/-- The smaller of the MSS a SYN advertises, unless that is below 536, and of what the MTU leaves. -/
def segmentLimit (cfg : Config) (key : FlowKey) (advertised : Option UInt16) : ℕ :=
  match advertised with
  | none => mtuPayload cfg key
  | some mss => if mss.toNat < 536 then mtuPayload cfg key else min mss.toNat (mtuPayload cfg key)

theorem negotiatedMss_eq_segmentLimit (cfg : Config) (key : FlowKey) (advertised : Option UInt16) :
    Reactor.negotiatedMss cfg key advertised = segmentLimit cfg key advertised := by
  unfold Reactor.negotiatedMss segmentLimit
  cases advertised with
  | none => exact Nat.min_self _
  | some mss =>
    by_cases hsmall : mss.toNat < 536
    · have hnot : decide (536 ≤ mss.toNat) = false := decide_eq_false (by omega)
      simp only [Option.map_some, Option.filter_some, hnot, Bool.false_eq_true, if_false, Option.getD_none, hsmall,
        if_true]
      exact Nat.min_self _
    · have hle : decide (536 ≤ mss.toNat) = true := decide_eq_true (by omega)
      simp only [Option.map_some, Option.filter_some, hle, if_true, Option.getD_some, hsmall, if_false]
      rfl

theorem Sized.segmentLength_le {cfg : Config} {e : FlowEntry} {spec : TcpFrameSpec} {payload : Bytes}
    (h : Sized cfg e (.tcp spec payload)) (hpos : 0 < e.flow.mss) : spec.segmentLength cfg payload ≤ e.flow.mss := by
  rcases h with hempty | ⟨spec', payload', heq, hsize, hgso⟩
  · have hzero : payload = [] := hempty
    subst hzero
    unfold TcpFrameSpec.segmentLength
    split
    · rename_i size hsome
      have hlt := (Option.filter_eq_some_iff.mp hsome).2
      simp at hlt
    · exact Nat.zero_le _
  cases heq
  unfold TcpFrameSpec.segmentLength
  split
  · rename_i size hsome
    obtain ⟨hsize', hlt⟩ := Option.filter_eq_some_iff.mp hsome
    simp only [gt_iff_lt, decide_eq_true_eq] at hlt
    split
    · rcases hgso with hgso | hone
      · rw [hgso] at hsize'
        cases hsize'
        exact Nat.le_refl _
      · omega
    · exact hsize (by simpa using ‹¬ cfg.tapOffload = true›)
  · rename_i hnone
    rcases hgso with hgso | hone
    · rw [hgso, Option.filter_some] at hnone
      split at hnone
      · cases hnone
      · rename_i hle
        simp only [gt_iff_lt, decide_eq_true_eq, not_lt] at hle
        exact hle
    · omega

namespace Reactor

/-- The journal of a run measures what its frames carry. -/
theorem Visited.measured {cfg : Config} {s : Reactor} (h : Visited cfg s) :
    ∃ c, Measured cfg c ∧ c.journal = s.journal := by
  obtain ⟨c, hpath, hjournal⟩ := h.path cfg
  refine ⟨c, ?_, hjournal⟩
  refine (Path.invariant (P := fun c => Base c ∧ Measured cfg c) ?_ hpath ⟨.initial cfg, .initial cfg⟩).2
  rintro c d hstep ⟨hb, hc⟩
  refine ⟨base_tapAct cfg hb hstep, ?_⟩
  rcases hstep with hact | ⟨refresh, rfl⟩
  · exact hc.act hb hact
  · exact ⟨hc.sourced, hc.cut, hc.queued, hc.built, hc.once, hc.used⟩

/-- In every run, whatever goes out as one segment of a flow is within the limit its SYN set. -/
theorem segments_within_limit (cfg : Config) (s : Reactor) (hs : Visited cfg s) (id : FlowId) (e : FlowEntry)
    (spec : TcpFrameSpec) (payload : Bytes) (hbuilt : Notice.built id e (.tcp spec payload) ∈ s.journal) :
    ∃ segment key, (∀ other, Notice.accepted id other ∈ s.journal ↔ other = segment) ∧ e.key = some key ∧
      spec.segmentLength cfg payload ≤ segmentLimit cfg key segment.mss := by
  obtain ⟨c, hc, hjournal⟩ := hs.measured
  rw [← hjournal] at hbuilt ⊢
  obtain ⟨hsourced, hsized⟩ := hc.built id e _ hbuilt
  have hle := hsized.segmentLength_le hsourced.pos
  obtain ⟨segment, key, haccepted, hkey, hmss⟩ := hsourced
  refine ⟨segment, key, fun other => ⟨fun ho => hc.once id other segment ho haccepted, fun ho => ho ▸ haccepted⟩,
    hkey, ?_⟩
  rwa [hmss, negotiatedMss_eq_segmentLimit] at hle

/-- A connection that advertises a segment size, is established and gets two bytes. -/
def advertisedScript (mss : Option UInt16) : List (Event × Kernel) :=
  [(.tap readable, Kernel.quiet.reads (.tcpV4 0xc0000202#32 0x08080808#32
      { sourcePort := 40000, destinationPort := 80, sequence := 7, acknowledgment := 0, flags := { syn := true },
        window := 1000, mss := mss })),
    (.tap readable, Kernel.quiet.reads (.tcpV4 0xc0000202#32 0x08080808#32
      { sourcePort := 40000, destinationPort := 80, sequence := 8, acknowledgment := 1, flags := { ack := true },
        window := 1000 })),
    (.socket ⟨0, 1⟩ readable,
      { Kernel.quiet with peek := Stream'.cons (.ok { arrived := [1, 2] }) Kernel.quiet.peek })]

def sentLengths (cfg : Config) (s : Reactor) : List (FlowId × Option FlowKey × ℕ) :=
  s.journal.filterMap fun
    | .built id e (.tcp spec payload) => some (id, e.key, spec.segmentLength cfg payload)
    | _ => none

def advertisedSizes (s : Reactor) : List (FlowId × Option UInt16) :=
  s.journal.filterMap fun
    | .accepted id segment => some (id, segment.mss)
    | _ => none

theorem mem_sentLengths {cfg : Config} {s : Reactor} {id : FlowId} {key : Option FlowKey} {length : ℕ}
    (h : (id, key, length) ∈ sentLengths cfg s) : ∃ e spec payload, Notice.built id e (.tcp spec payload) ∈ s.journal ∧
      e.key = key ∧ spec.segmentLength cfg payload = length := by
  obtain ⟨n, hn, heq⟩ := List.mem_filterMap.mp h
  split at heq
  · cases heq
    exact ⟨_, _, _, hn, rfl, rfl⟩
  · cases heq

theorem mem_advertisedSizes {s : Reactor} {id : FlowId} {mss : Option UInt16} (h : (id, mss) ∈ advertisedSizes s) :
    ∃ segment, Notice.accepted id segment ∈ s.journal ∧ segment.mss = mss := by
  obtain ⟨n, hn, heq⟩ := List.mem_filterMap.mp h
  split at heq
  · cases heq
    exact ⟨_, hn, rfl⟩
  · cases heq

def scriptKey : FlowKey := ⟨.v4 0xc0000202#32 40000, .v4 0x08080808#32 80⟩

theorem segments_within_limit_advertised :
    ∃ s, Visited (.sample (.direct false)) s ∧ ∃ id e spec payload,
      Notice.built id e (.tcp spec payload) ∈ s.journal ∧
        spec.segmentLength (.sample (.direct false)) payload = 2 ∧ ∃ segment key,
          (∀ other, Notice.accepted id other ∈ s.journal ↔ other = segment) ∧ e.key = some key ∧
            spec.segmentLength (.sample (.direct false)) payload ≤
              segmentLimit (.sample (.direct false)) key segment.mss := by
  have hrun : (replay (.sample (.direct false)) (advertisedScript (some 1000))
      (Reactor.new (.sample (.direct false)) .quiet {} 0 0)).map (sentLengths (.sample (.direct false))) =
        some [(⟨0, 1⟩, some scriptKey, 2), (⟨0, 1⟩, some scriptKey, 0)] := by decide +kernel
  obtain ⟨s, hs, hsent⟩ := Option.map_eq_some_iff.mp hrun
  have hvisited := (reachable_of_replay _ _ (.start .quiet {} 0 0) hs).visited
  obtain ⟨e, spec, payload, hbuilt, -, hlength⟩ := mem_sentLengths (s := s) (by rw [hsent]; exact List.mem_cons_self)
  exact ⟨s, hvisited, _, e, spec, payload, hbuilt, hlength,
    segments_within_limit _ s hvisited _ e spec payload hbuilt⟩

/-- Two bytes go out in one segment where the SYN advertised one. -/
theorem advertised_size_exceeded :
    ∃ s, Visited (.sample (.direct false)) s ∧ ∃ id e spec payload segment key mss,
      Notice.built id e (.tcp spec payload) ∈ s.journal ∧ Notice.accepted id segment ∈ s.journal ∧
        segment.mss = some mss ∧ e.key = some key ∧
          min mss.toNat (mtuPayload (.sample (.direct false)) key) <
            spec.segmentLength (.sample (.direct false)) payload := by
  have hrun : (replay (.sample (.direct false)) (advertisedScript (some 1))
      (Reactor.new (.sample (.direct false)) .quiet {} 0 0)).map
        (fun s => (sentLengths (.sample (.direct false)) s, advertisedSizes s)) =
        some ([(⟨0, 1⟩, some scriptKey, 2), (⟨0, 1⟩, some scriptKey, 0)], [(⟨0, 1⟩, some 1)]) := by decide +kernel
  obtain ⟨s, hs, hnoted⟩ := Option.map_eq_some_iff.mp hrun
  obtain ⟨hsent, hadvertised⟩ := Prod.mk.inj hnoted
  have hvisited := (reachable_of_replay _ _ (.start .quiet {} 0 0) hs).visited
  obtain ⟨e, spec, payload, hbuilt, hkey, hlength⟩ :=
    mem_sentLengths (s := s) (by rw [hsent]; exact List.mem_cons_self)
  obtain ⟨segment, haccepted, hmss⟩ := mem_advertisedSizes (s := s) (by rw [hadvertised]; exact List.mem_cons_self)
  refine ⟨s, hvisited, _, e, spec, payload, segment, scriptKey, 1, hbuilt, haccepted, hmss, hkey, ?_⟩
  rw [hlength]
  decide

end Reactor

end Yayatht
