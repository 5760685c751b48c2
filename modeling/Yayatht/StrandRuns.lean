import Yayatht.FlowStrand

set_option autoImplicit false

namespace Yayatht
open EffectLogic

/-- Notices about a flow that may have left the table. A planned frame outlives its flow only when the
run went wrong for it before. -/
inductive Ghost (journal : List Notice) (id : FlowId) : Notice → Prop
  | synLost : Ghost journal id (.synLost id)
  | commitFailed (h : Excused journal id) : Ghost journal id (.commitFailed id)
  | tapFailed (plan : SendPlan) (h : Excused journal id) : Ghost journal id (.tapFailed (some id) (some plan))

theorem Ghost.append {journal : List Notice} {id : FlowId} {n : Notice} (h : Ghost journal id n)
    (notices : List Notice) : Ghost (notices ++ journal) id n := by
  cases h with
  | synLost => exact .synLost
  | commitFailed h => exact .commitFailed (h.append notices)
  | tapFailed plan h => exact .tapFailed plan (h.append notices)

/-- A flow as the SYN of a connection leaves it. -/
structure Born (cfg : Config) (id : FlowId) (a : Strand) (key : FlowKey) (segment : TcpSegment) : Prop where
  fresh : Fresh key a.entry
  mss : a.entry.flow.mss = Reactor.negotiatedMss cfg key segment.mss
  lane : a.lane = []
  story : a.story = [.accepted id segment, .created id]

/-- The strands a flow can reach. -/
inductive Lived (cfg : Config) (id : FlowId) : Strand → Prop
  | born {a : Strand} {key : FlowKey} {segment : TcpSegment} (h : Born cfg id a key segment) : Lived cfg id a
  | turn {a b : Strand} (ha : Lived cfg id a) (h : Turn cfg id a b) : Lived cfg id b

/-- What a step of the machine does to one flow. -/
inductive Advance (cfg : Config) (id : FlowId) (c d : Core) : Prop
  | turn (e f : FlowEntry) (hc : c.flows.get id = some e) (hd : d.flows.get id = some f)
      (h : Turn cfg id (c.strand id e) (d.strand id f))
  | born (f : FlowEntry) (key : FlowKey) (segment : TcpSegment) (hd : d.flows.get id = some f)
      (h : Born cfg id (d.strand id f) key segment)
  | reaped (e : FlowEntry) (hc : c.flows.get id = some e) (hd : d.flows.get id = none)
      (hdeferred : id ∈ c.flows.deferred) (hstory : story id d.journal = story id c.journal)
  | away (ghosts : List Notice) (hc : c.flows.get id = none) (hd : d.flows.get id = none)
      (hghosts : ∀ n ∈ ghosts, Ghost c.journal id n)
      (hstory : story id d.journal = ghosts ++ story id c.journal)

/-- The part of the state that belongs to the flow is the same. -/
structure Bystander (id : FlowId) (c d : Core) : Prop where
  get : d.flows.get id = c.flows.get id
  lane : lane id d.tapQueue = lane id c.tapQueue
  story : story id d.journal = story id c.journal

namespace Bystander

variable {cfg : Config} {id : FlowId} {c d : Core}

theorem strand (h : Bystander id c d) (e : FlowEntry) : d.strand id e = c.strand id e := by
  unfold Core.strand
  rw [h.lane, h.story]

theorem advance (h : Bystander id c d) : Advance cfg id c d := by
  cases hc : c.flows.get id with
  | none => exact .away [] hc (h.get.trans hc) (by simp) h.story
  | some e =>
    refine .turn e e hc (h.get.trans hc) ?_
    rw [h.strand]
    exact .idle

theorem of_about {other : FlowId} {N : List Notice} (hother : id ≠ other)
    (hget : d.flows.get id = c.flows.get id) (hlane : Yayatht.lane id d.tapQueue = Yayatht.lane id c.tapQueue)
    (hjournal : d.journal = N ++ c.journal)
    (habout : ∀ n ∈ N, n.about = some other ∨ n.about = none) : Bystander id c d := by
  refine ⟨hget, hlane, ?_⟩
  rw [hjournal, story_append, story_of_not_about, List.nil_append]
  intro n hn
  rcases habout n hn with h | h
  · rw [h]
    exact fun heq => hother (Option.some.inj heq).symm
  · rw [h]
    simp

end Bystander

theorem lane_filter_of_ne {id other : FlowId} (h : id ≠ other) (queue : List QueuedFrame) :
    lane id (queue.filter fun queued => queued.flow ≠ some other) = lane id queue := by
  induction queue with
  | nil => rfl
  | cons queued queue ih =>
    rw [List.filter_cons]
    split
    · rw [lane_cons, lane_cons, ih]
    · rename_i hq
      rw [lane_cons, ih]
      have hq : queued.flow = some other := by simpa using hq
      rw [if_neg (fun he => h (Option.some.inj (he.symm.trans hq)))]
      rfl

theorem lane_filter_self (id : FlowId) (queue : List QueuedFrame) :
    lane id (queue.filter fun queued => queued.flow ≠ some id) = [] := by
  unfold lane
  rw [List.filterMap_eq_nil_iff]
  intro queued hq
  have hne : queued.flow ≠ some id := by simpa using (List.mem_filter.mp hq).2
  rw [if_neg hne]

theorem lane_of_plain {id : FlowId} {queued : QueuedFrame} (h : queued.flow ≠ some id ∨ queued.plan = none)
    (queue : List QueuedFrame) : lane id (queued :: queue) = lane id queue := by
  rw [lane_cons]
  split
  · rename_i hid
    rw [h.resolve_left (fun hne => hne hid)]
    rfl
  · rfl

theorem lane_push {id : FlowId} {queued : QueuedFrame} (h : queued.flow ≠ some id ∨ queued.plan = none)
    (queue : List QueuedFrame) : lane id (queue ++ [queued]) = lane id queue := by
  rw [lane_append, lane_of_plain h []]
  exact List.append_nil _

theorem lane_push_planned {id : FlowId} {queued : QueuedFrame} {plan : SendPlan} (hid : queued.flow = some id)
    (hplan : queued.plan = some plan) (queue : List QueuedFrame) :
    lane id (queue ++ [queued]) = lane id queue ++ [plan] := by
  rw [lane_append, lane_cons, if_pos hid, hplan]
  rfl

theorem Base.lane_unused {c : Core} (hb : Base c) (hk : Known c) {id : FlowId} (h : ¬ c.flows.Used id) :
    lane id c.tapQueue = [] := by
  unfold lane
  rw [List.filterMap_eq_nil_iff]
  intro queued hq
  split
  · rename_i hid
    cases hplan : queued.plan with
    | none => rfl
    | some plan =>
      exact absurd ((hb.planned queued hq id hid (by rw [hplan]; rfl)).used hk) h
  · rfl

theorem Known.story_unused {c : Core} (hk : Known c) {id : FlowId} (h : ¬ c.flows.Used id) :
    story id c.journal = [] :=
  List.filter_eq_nil_iff.mpr fun n hn => by simpa using fun habout => h (hk n hn id habout)

namespace Closing

variable {c d : Core} {id : FlowId} {e : FlowEntry}

theorem bystander (h : Closing c id e d) {other : FlowId} (hother : other ≠ id) : Bystander other c d := by
  obtain ⟨N, hjournal, habout⟩ := h.about
  cases h with
  | done sides h =>
    refine .of_about hother ?_ ?_ hjournal habout
    · change (((c.unregister id sides.namespaceKey e).flows.modify id _).deferRemove id).get other = _
      rw [FlowTable.get_deferRemove, FlowTable.get_modify_of_ne _ id other _ hother, Core.unregister_flows]
    · change lane other (c.unregister id sides.namespaceKey e).tapQueue = _
      rw [Core.unregister_tapQueue, lane_filter_of_ne hother]
  | stuck => exact .of_about hother rfl rfl hjournal habout
  | broken sides h =>
    refine .of_about hother ?_ ?_ hjournal habout
    · change (c.unregister id sides.namespaceKey e).flows.get other = _
      rw [Core.unregister_flows]
    · change lane other (c.unregister id sides.namespaceKey e).tapQueue = _
      rw [Core.unregister_tapQueue, lane_filter_of_ne hother]

theorem story_unregister (c : Core) (id : FlowId) (key : FlowKey) (e : FlowEntry) :
    story id (c.unregister id key e).journal = .released id e :: story id c.journal := by
  obtain ⟨N, hkind, hjournal⟩ := Core.unregister_journal c id key e
  rw [hjournal, story_append, story_of_not_about, List.nil_append, story_own rfl]
  · intro n hn
    obtain ⟨length, available, rfl⟩ := hkind n hn
    simp [Notice.about]

theorem closes (hget : c.flows.get id = some e) (h : Closing c id e d) :
    ∃ f, d.flows.get id = some f ∧ Strand.Closes id (c.strand id e) (d.strand id f) := by
  cases h with
  | done sides h =>
    refine ⟨{ e with flow := e.flow.close }, ?_, ?_⟩
    · change (((c.unregister id sides.namespaceKey e).flows.modify id _).deferRemove id).get id = _
      rw [FlowTable.get_deferRemove, Core.unregister_flows]
      simp [hget]
    · have hstrand : ((c.unregister id sides.namespaceKey e).retire id e).strand id
          { e with flow := e.flow.close } =
            ⟨{ e with flow := e.flow.close }, [], .released id e :: story id c.journal⟩ := by
        unfold Core.strand Core.retire
        dsimp only
        rw [Core.unregister_tapQueue, lane_filter_self, story_unregister]
      rw [hstrand]
      exact .done
  | stuck =>
    refine ⟨e, hget, ?_⟩
    have hstrand : (c.log [.closeFailed id]).strand id e =
        { c.strand id e with story := .closeFailed id :: (c.strand id e).story } := by
      unfold Core.strand Core.log
      dsimp only
      rw [List.singleton_append, story_own rfl]
    rw [hstrand]
    exact .stuck
  | broken sides h =>
    refine ⟨e, ?_, ?_⟩
    · change (c.unregister id sides.namespaceKey e).flows.get id = _
      rw [Core.unregister_flows]
      exact hget
    · have hstrand : ((c.unregister id sides.namespaceKey e).log [.closeFailed id]).strand id e =
          ⟨e, [], .closeFailed id :: .released id e :: story id c.journal⟩ := by
        unfold Core.strand Core.log
        dsimp only
        rw [Core.unregister_tapQueue, lane_filter_self, List.singleton_append, story_own rfl,
          story_unregister]
      rw [hstrand]
      exact .broken

end Closing

namespace Advance

variable {cfg : Config} {c d : Core} {own : FlowId} {e f : FlowEntry} {N : List Notice}

theorem of_own (hget : c.flows.get own = some e) (hself : d.flows.get own = some f)
    (hothers : ∀ other, other ≠ own → d.flows.get other = c.flows.get other)
    (hqueue : ∀ other, other ≠ own → lane other d.tapQueue = lane other c.tapQueue)
    (hjournal : d.journal = N ++ c.journal)
    (habout : ∀ n ∈ N, n.about = some own ∨ n.about = none)
    (h : Turn cfg own (c.strand own e) ⟨f, lane own d.tapQueue, story own N ++ story own c.journal⟩)
    (id : FlowId) : Advance cfg id c d := by
  by_cases hid : id = own
  · subst hid
    refine .turn e f hget hself ?_
    have hstrand : d.strand id f = ⟨f, lane id d.tapQueue, story id N ++ story id c.journal⟩ := by
      unfold Core.strand
      rw [hjournal, story_append]
    rw [hstrand]
    exact h
  · exact (Bystander.of_about hid (hothers id hid) (hqueue id hid) hjournal habout).advance

theorem of_put (hget : c.flows.get own = some e) (hflows : d.flows = c.flows.modify own fun _ => f)
    (hqueue : d.tapQueue = c.tapQueue) (hjournal : d.journal = N ++ c.journal)
    (habout : ∀ n ∈ N, n.about = some own ∨ n.about = none)
    (h : Turn cfg own (c.strand own e)
      ⟨f, (c.strand own e).lane, story own N ++ (c.strand own e).story⟩)
    (id : FlowId) : Advance cfg id c d := by
  have hself : d.flows.get own = some f := by
    rw [hflows]
    simp [hget]
  refine of_own hget hself (fun other hother => ?_) (fun _ _ => by rw [hqueue]) hjournal habout ?_ id
  · rw [hflows]
    exact FlowTable.get_modify_of_ne c.flows own other _ hother
  · rw [hqueue]
    exact h

theorem of_log (hget : c.flows.get own = some e) (hflows : d.flows = c.flows) (hqueue : d.tapQueue = c.tapQueue)
    (hjournal : d.journal = N ++ c.journal) (habout : ∀ n ∈ N, n.about = some own)
    (h : Turn cfg own (c.strand own e) { c.strand own e with story := N ++ (c.strand own e).story })
    (id : FlowId) : Advance cfg id c d := by
  refine of_own hget (hflows ▸ hget) (fun _ _ => by rw [hflows]) (fun _ _ => by rw [hqueue]) hjournal
    (fun n hn => .inl (habout n hn)) ?_ id
  rw [hqueue, story_of_about habout]
  exact h

theorem of_bystander (h : ∀ id, Bystander id c d) (id : FlowId) : Advance cfg id c d := (h id).advance

end Advance

theorem settle_journal (c : Core) (id : FlowId) (e : FlowEntry) (segment : TcpSegment) (clamps : ℕ)
    (N : List Notice) (f : FlowEntry) :
    (c.settle id e segment clamps N f).journal =
      (N ++ settleNotices id (e.ackedBy segment) c.retained clamps ++ [.segment id e segment]) ++
        c.journal := by
  rw [List.append_assoc]
  rfl

theorem AckFault.about_story {id : FlowId} {fault : Notice} (h : AckFault id fault) (e : FlowEntry) (segment : TcpSegment)
    (clamps : ℕ) :
    ∀ n ∈ fault :: List.replicate clamps (Notice.clamped id (.ok ())) ++ [.segment id e segment],
      n.about = some id := by
  intro n hn
  simp only [List.cons_append, List.mem_cons, List.mem_append, List.mem_replicate, List.not_mem_nil, or_false] at hn
  rcases hn with rfl | ⟨-, rfl⟩ | rfl
  · exact h.about
  · rfl
  · rfl

theorem Known.act {cfg : Config} {c d : Core} (hb : Base c) (hk : Known c) (h : Act cfg c d) : Known d := by
  have hkept : ∀ id, c.flows.Used id → d.flows.Used id := fun id hu => h.used hb.table hu
  have hgrow : ∀ {N : List Notice}, d.journal = N ++ c.journal →
      (∀ n ∈ N, ∀ id, n.about = some id → d.flows.Used id) → Known d := by
    intro N hjournal hnew n hn id habout
    rw [hjournal] at hn
    rcases List.mem_append.mp hn with hn | hn
    · exact hnew n hn id habout
    · exact hkept id (hk n hn id habout)
  have hown : ∀ {id : FlowId} {N : List Notice}, c.flows.Used id → d.journal = N ++ c.journal →
      (∀ n ∈ N, n.about = some id ∨ n.about = none) → Known d := by
    intro id N hu hjournal habout
    refine hgrow hjournal fun n hn other ho => ?_
    rcases habout n hn with h | h
    · rw [h] at ho
      cases ho
      exact hkept id hu
    · rw [h] at ho
      cases ho
  have hsame : d.journal = c.journal → Known d := fun hjournal =>
    hgrow (show d.journal = [] ++ c.journal from hjournal) (by simp)
  cases h with
  | engine | associations | enqueue | planFin | commitPlain | reap => exact hsame rfl
  | touch id e f hget | replyConsumed id e count hget | flush id e f hget => exact hsame rfl
  | commit => exact hsame rfl
  | mild notice h =>
    refine hgrow (N := [notice]) rfl fun n hn id habout => ?_
    rw [List.mem_singleton] at hn
    subst hn
    cases h <;> cases habout
  | dialed transport peer => exact hgrow (N := [.dialed transport peer]) rfl (by simp [Notice.about])
  | synLost id h => exact hown (N := [_]) h rfl (by simp [Notice.about])
  | serviced id e now hget | timeWait id e hget | built id e body hget =>
    exact hown (N := [_]) (FlowTable.used_of_get hget) rfl (by simp [Notice.about])
  | planData id e spec payload frame hget =>
    exact hown (N := [_]) (FlowTable.used_of_get hget) rfl (by simp [Notice.about])
  | commitMissed queued rest hqueue id plan hid hplan hget =>
    have hspared := hb.planned queued (by rw [hqueue]; exact List.mem_cons_self) id hid (by rw [hplan]; rfl)
    exact hown (N := [_]) (hspared.used hk) rfl (by simp [Notice.about])
  | commitMismatched queued rest hqueue id plan e hid hplan hget =>
    exact hown (N := [_]) (FlowTable.used_of_get hget) rfl (by simp [Notice.about])
  | drop queued rest hqueue =>
    refine hgrow (N := [_, _]) rfl fun n hn id habout => ?_
    simp only [List.mem_cons, List.not_mem_nil, or_false] at hn
    rcases hn with rfl | rfl
    · cases habout
    · cases hplan : queued.plan with
      | none =>
        rw [hplan] at habout
        cases habout
      | some plan =>
        rw [hplan] at habout
        have hspared := hb.planned queued (by rw [hqueue]; exact List.mem_cons_self) id habout (by rw [hplan]; rfl)
        exact hkept id (hspared.used hk)
  | flushFin id e f hget | flushFinFailed id e f error hget =>
    exact hown (N := [_]) (FlowTable.used_of_get hget) rfl (by simp [Notice.about])
  | handled id e f g segment clamps N hget hspared hrst hf hg =>
    exact hown (FlowTable.used_of_get hget) (settle_journal c id e segment clamps N g)
      (segment_about hg.about)
  | lost id e f g segment clamps N hget hspared hrst hf hg =>
    exact hown (FlowTable.used_of_get hget) (settle_journal c id e segment clamps N g)
      (segment_about hg.about)
  | ackAborted id e f segment clamps count fault hget hspared hrst hf hfault =>
    exact hown (N := fault :: List.replicate clamps (.clamped id (.ok ())) ++ [.segment id e segment])
      (FlowTable.used_of_get hget) rfl fun n hn => .inl (hfault.about_story e segment clamps n hn)
  | reset id e segment d hget hspared hrst h =>
    obtain ⟨N, hjournal, habout⟩ := h.about
    refine hown (N := N ++ [.segment id e segment]) (FlowTable.used_of_get hget) ?_ fun n hn => ?_
    · rw [hjournal, List.append_assoc]
      rfl
    · rcases List.mem_append.mp hn with hn | hn
      · exact habout n hn
      · rw [List.mem_singleton] at hn
        subst hn
        exact .inl rfl
  | activate id e bytesAcked frame body hget =>
    exact hown (N := [_, _]) (FlowTable.used_of_get hget) rfl (by simp [Notice.about])
  | activateLost id e bytesAcked dry hget =>
    refine hown (N := .synLost id :: List.replicate dry .poolDry ++ [.activated id e (c.busy id)])
      (FlowTable.used_of_get hget) rfl fun n hn => ?_
    simp only [List.cons_append, List.mem_cons, List.mem_append, List.mem_replicate, List.not_mem_nil,
      or_false] at hn
    rcases hn with rfl | ⟨-, rfl⟩ | rfl
    · exact .inl rfl
    · exact .inr rfl
    · exact .inl rfl
  | close id e d hget hspared h =>
    obtain ⟨N, hjournal, habout⟩ := h.about
    exact hown (FlowTable.used_of_get hget) hjournal habout
  | create key e flows id hkey hinsert hfresh segment =>
    rcases hb.table.insert_cases e with hfull | ⟨flows', id', hinsert', -, -, -, hget, -⟩
    · rw [hfull] at hinsert
      cases hinsert
    rw [hinsert'] at hinsert
    cases hinsert
    have hu : flows.Used id := FlowTable.used_of_get ((hget id).trans (if_pos rfl))
    refine hgrow (N := [.accepted id segment, .created id]) rfl fun n hn other ho => ?_
    simp only [List.mem_cons, List.not_mem_nil, or_false] at hn
    rcases hn with rfl | rfl <;> cases ho <;> exact hu

theorem settle_story {id : FlowId} {e : FlowEntry} {segment : TcpSegment} {acked retained clamps : ℕ}
    {N : List Notice} (h : ∀ n ∈ N, n.about = some id) (journal : List Notice) :
    story id (N ++ settleNotices id acked retained clamps ++ [.segment id e segment]) ++ journal =
      N ++ settleStory id acked clamps ++ .segment id e segment :: journal := by
  rw [story_append, story_append, story_of_about h, story_settleNotices, story_of_about (by simp [Notice.about])]
  simp

theorem lane_head {id : FlowId} {queued : QueuedFrame} {queue rest : List QueuedFrame} {plan : SendPlan}
    (hqueue : queue = queued :: rest) (hid : queued.flow = some id) (hplan : queued.plan = some plan) :
    lane id queue = plan :: lane id rest := by
  rw [hqueue, lane_cons, if_pos hid, hplan]
  rfl

/-- A planned frame of a flow that left the table is there only after the run went wrong for it. -/
theorem Base.excused {c : Core} {id : FlowId} {queued : QueuedFrame} {plan : SendPlan} (hb : Base c)
    (hq : queued ∈ c.tapQueue) (hid : queued.flow = some id) (hplan : queued.plan = some plan)
    (hget : c.flows.get id = none) : Excused c.journal id := by
  rcases hb.planned queued hq id hid (by rw [hplan]; rfl) with ⟨e, he, -⟩ | hexcused
  · rw [hget] at he
    cases he
  · exact hexcused

namespace Advance

variable {cfg : Config} {c : Core} {own : FlowId} {e : FlowEntry}

theorem lane_tail {id : FlowId} {queued : QueuedFrame} {rest : List QueuedFrame}
    (hqueue : c.tapQueue = queued :: rest) (hid : queued.flow = some own) (hother : id ≠ own) :
    lane id rest = lane id c.tapQueue := by
  rw [hqueue, lane_of_plain (.inl (by simpa [hid] using fun h => hother h.symm))]

theorem about_ne {id : FlowId} {n : Notice} (hown : n.about = some own) (hother : id ≠ own) :
    n.about ≠ some id := by
  rw [hown]
  exact fun h => hother (Option.some.inj h).symm

theorem reap (cfg : Config) (c : Core) (id : FlowId) : Advance cfg id c { c with flows := c.flows.flushDeferred.1 } := by
  have hflushed := FlowTable.get_flushDeferred c.flows id
  split at hflushed
  · rename_i hdeferred
    cases hc : c.flows.get id with
    | none => exact .away [] hc hflushed (by simp) rfl
    | some e => exact .reaped e hc hflushed hdeferred rfl
  · exact Bystander.advance ⟨hflushed, rfl, rfl⟩

theorem synLost (cfg : Config) (c : Core) (own : FlowId) : ∀ id, Advance cfg id c (c.log [.synLost own]) := by
  cases hget : c.flows.get own with
  | some e => exact of_log (N := [_]) hget rfl rfl rfl (by simp [Notice.about]) .synLost
  | none =>
    intro id
    by_cases hother : id = own
    · subst hother
      exact .away [_] hget hget (by simpa using Ghost.synLost) (story_own rfl _)
    · exact Bystander.advance ⟨rfl, rfl, story_other (about_ne rfl hother) _⟩

theorem planned {frame : PooledFrame} {plan : SendPlan} {reserved : ℕ} {f : FlowEntry} {n : Notice}
    (hget : c.flows.get own = some e) (hlane : lane own c.tapQueue = []) (habout : n.about = some own)
    (h : Turn cfg own (c.strand own e) ⟨f, [plan], n :: story own c.journal⟩) :
    ∀ id, Advance cfg id c (((c.put own f).log [n]).push ⟨some own, frame, some plan, reserved⟩) := by
  refine of_own (N := [n]) hget (Core.put_get _ hget) (fun other hother => Core.put_get_of_ne _ hother)
    (fun other hother => lane_push (.inl (by simpa using fun h => hother h.symm)) _) rfl
    (by simp [habout]) ?_
  rw [story_own habout]
  change Turn cfg own (c.strand own e) ⟨_, lane own (c.tapQueue ++ [_]), _⟩
  rw [lane_push_planned rfl rfl, hlane]
  exact h

/-- A planned frame is dropped: that of a flow on record, one of a flow that is gone, or none of a flow. -/
theorem drop {queued : QueuedFrame} {rest : List QueuedFrame} (hb : Base c) (hqueue : c.tapQueue = queued :: rest)
    (id : FlowId) :
    Advance cfg id c (({ c with tapQueue := rest }.log [.tapFailed queued.flow queued.plan]).release
      queued.reservedRetained) := by
  by_cases hplanned : queued.flow = some id ∧ queued.plan.isSome = true
  · obtain ⟨hid, hsome⟩ := hplanned
    obtain ⟨plan, hplan⟩ := Option.isSome_iff_exists.mp hsome
    have hown : (Notice.tapFailed queued.flow queued.plan).about = some id := by
      rw [hid, hplan]
      rfl
    cases hget : c.flows.get id with
    | none =>
      refine .away [.tapFailed queued.flow queued.plan] hget hget ?_ ?_
      · have hexcused := hb.excused (by rw [hqueue]; exact List.mem_cons_self) hid hplan hget
        rw [hid, hplan]
        simpa using Ghost.tapFailed plan hexcused
      · exact (story_other (by simp [Notice.about]) _).trans (story_own hown _)
    | some e =>
      refine of_own
        (N := [.retainedReleased queued.reservedRetained c.retained, .tapFailed queued.flow queued.plan])
        hget (by exact hget) (fun _ _ => by rfl) (fun other hother => lane_tail hqueue hid hother) (by rfl) ?_ ?_ id
      · simp [Notice.about, hid, hplan]
      · rw [story_other (by simp [Notice.about]), story_own hown, hid, hplan]
        exact .drop plan (lane id rest) (lane_head hqueue hid hplan)
  · have hplain : queued.flow ≠ some id ∨ queued.plan = none := by
      rcases Decidable.em (queued.flow = some id) with hid | hid
      · exact .inr (by simpa [hid] using hplanned)
      · exact .inl hid
    have hquiet : (Notice.tapFailed queued.flow queued.plan).about ≠ some id := by
      rcases hplain with h | h
      · cases hplan : queued.plan with
        | none => simp [Notice.about]
        | some plan => simpa [Notice.about] using h
      · simp [h, Notice.about]
    refine Bystander.advance ⟨rfl, ?_, ?_⟩
    · rw [hqueue, lane_of_plain hplain]
      rfl
    · exact (story_other (by simp [Notice.about]) _).trans (story_other hquiet _)

theorem commitMissed {queued : QueuedFrame} {rest : List QueuedFrame} {plan : SendPlan} (hb : Base c)
    (hqueue : c.tapQueue = queued :: rest) (hid : queued.flow = some own) (hplan : queued.plan = some plan)
    (hget : c.flows.get own = none) (id : FlowId) :
    Advance cfg id c ({ c with tapQueue := rest }.log [.commitFailed own]) := by
  by_cases hother : id = own
  · subst hother
    have hexcused := hb.excused (by rw [hqueue]; exact List.mem_cons_self) hid hplan hget
    exact .away [_] hget hget (by simpa using Ghost.commitFailed hexcused) (story_own rfl _)
  · exact Bystander.advance ⟨rfl, lane_tail hqueue hid hother, story_other (about_ne rfl hother) _⟩

theorem closing {d : Core} (hget : c.flows.get own = some e) (h : Closing c own e d)
    (hturn : ∀ b, Strand.Closes own (c.strand own e) b → Turn cfg own (c.strand own e) b) (id : FlowId) :
    Advance cfg id c d := by
  by_cases hother : id = own
  · subst hother
    obtain ⟨f, hf, hcloses⟩ := h.closes hget
    exact .turn e f hget hf (hturn _ hcloses)
  · exact (h.bystander hother).advance

theorem reset {d : Core} {segment : TcpSegment} (hget : c.flows.get own = some e) (hspared : Spared c own)
    (hrst : segment.flags.rst = true)
    (h : Closing ((c.put own (e.received segment).1).log [.segment own e segment]) own (e.received segment).1 d)
    (id : FlowId) : Advance cfg id c d := by
  by_cases hother : id = own
  · subst hother
    have hput : ((c.put id (e.received segment).1).log [.segment id e segment]).flows.get id =
        some (e.received segment).1 := Core.put_get _ hget
    obtain ⟨f, hf, hcloses⟩ := h.closes hput
    refine .turn e f hget hf (.reset segment _ (hspared.strand hget) hrst ?_)
    unfold Core.strand Core.log at hcloses
    dsimp only at hcloses
    rw [List.singleton_append, story_own rfl] at hcloses
    exact hcloses
  · have hfar := h.bystander hother
    refine Bystander.advance ⟨hfar.get.trans (Core.put_get_of_ne _ hother), hfar.lane, hfar.story.trans ?_⟩
    exact story_other (about_ne rfl hother) _

theorem activate {bytesAcked : ℕ} {frame : PooledFrame} {body : FrameBody} (hget : c.flows.get own = some e)
    (hspared : Spared c own) (hhandshake : e.handshake = none) (hbody : body.payload = []) :
    ∀ id, Advance cfg id c
      (((c.put own { e with flow := (e.flow.socketConnected bytesAcked).1 }).log
          [.built own { e with flow := (e.flow.socketConnected bytesAcked).1 } body,
            .activated own e (c.busy own)]).push
        ⟨some own, frame, some (e.flow.socketConnected bytesAcked).2, 0⟩) := by
  refine of_own (N := [_, _]) hget (Core.put_get _ hget) (fun other hother => Core.put_get_of_ne _ hother)
    (fun other hother => lane_push (.inl (by simpa using fun h => hother h.symm)) _) rfl
    (by simp [Notice.about]) ?_
  rw [story_own rfl, story_own rfl]
  change Turn cfg own (c.strand own e) ⟨_, lane own (c.tapQueue ++ [_]), _⟩
  rw [lane_push_planned rfl rfl]
  exact .activate bytesAcked (c.busy own) body (hspared.strand hget) lane_nil_of_idle hhandshake hbody

theorem activateLost {bytesAcked dry : ℕ} (hget : c.flows.get own = some e) (hspared : Spared c own)
    (hhandshake : e.handshake = none) :
    ∀ id, Advance cfg id c
      ((c.put own { e with flow := (e.flow.socketConnected bytesAcked).1 }).log
        (.synLost own :: List.replicate dry .poolDry ++ [.activated own e (c.busy own)])) := by
  refine of_put (N := .synLost own :: List.replicate dry .poolDry ++ [.activated own e (c.busy own)])
    hget rfl rfl rfl (fun n hn => ?_) ?_
  · simp only [List.cons_append, List.mem_cons, List.mem_append, List.mem_replicate, List.not_mem_nil,
      or_false] at hn
    rcases hn with rfl | ⟨-, rfl⟩ | rfl
    · exact .inl rfl
    · exact .inr rfl
    · exact .inl rfl
  · rw [List.cons_append, story_own rfl, story_append, story_of_not_about, story_own rfl]
    · exact .activateLost bytesAcked (c.busy own) (hspared.strand hget) lane_nil_of_idle hhandshake
    · intro n hn
      rw [(List.mem_replicate.mp hn).2]
      simp [Notice.about]

theorem create {key : FlowKey} {flows : FlowTable FlowEntry} {segment : TcpSegment} (hb : Base c) (hk : Known c)
    (hinsert : c.flows.insert e = (flows, .ok own)) (hfresh : Fresh key e)
    (hmss : e.flow.mss = Reactor.negotiatedMss cfg key segment.mss) (id : FlowId) :
    Advance cfg id c
      ({ c with flows := flows, byKey := c.byKey.insert key own }.log [.accepted own segment, .created own]) := by
  rcases hb.table.insert_cases e with hfull | ⟨flows', id', hinsert', -, -, hunused, hget, -⟩
  · rw [hfull] at hinsert
    cases hinsert
  rw [hinsert'] at hinsert
  cases hinsert
  by_cases hother : id = own
  · subst hother
    refine .born e key segment ((hget id).trans (if_pos rfl)) ⟨hfresh, hmss, hb.lane_unused hk hunused, ?_⟩
    refine (story_append id [.accepted id segment, .created id] c.journal).trans ?_
    rw [hk.story_unused hunused, List.append_nil]
    exact story_of_about (by simp [Notice.about])
  · exact Bystander.advance (.of_about (N := [.accepted own segment, .created own]) hother
      ((hget id).trans (if_neg hother)) rfl rfl (by simp [Notice.about]))

end Advance

theorem Act.advance {cfg : Config} {c d : Core} (hb : Base c) (hk : Known c) (h : Act cfg c d) :
    ∀ id, Advance cfg id c d := by
  cases h with
  | engine | associations => exact Advance.of_bystander fun id => ⟨rfl, rfl, rfl⟩
  | mild notice h =>
    refine Advance.of_bystander fun id => ⟨rfl, rfl, story_other ?_ _⟩
    cases h <;> simp [Notice.about]
  | dialed => exact Advance.of_bystander fun id => ⟨rfl, rfl, story_other (by simp [Notice.about]) _⟩
  | enqueue queued h =>
    exact Advance.of_bystander fun id => ⟨rfl, lane_push (h.imp (fun hnone => by simp [hnone]) fun h => h) _, rfl⟩
  | commitPlain queued rest hqueue h =>
    refine Advance.of_bystander fun id => ⟨rfl, ?_, rfl⟩
    rw [hqueue, lane_of_plain (h.imp (fun hnone => by simp [hnone]) fun h => h)]
  | reap => exact Advance.reap cfg c
  | synLost id h => exact Advance.synLost cfg c id
  | serviced id e now hget =>
    exact Advance.of_log (N := [_]) hget rfl rfl rfl (by simp [Notice.about]) (.serviced now)
  | timeWait id e hget hstate =>
    exact Advance.of_log (N := [_]) hget rfl rfl rfl (by simp [Notice.about]) (.timeWait hstate)
  | touch id e f hget h =>
    exact Advance.of_put (N := []) hget rfl rfl rfl (by simp) (.touch f h)
  | replyConsumed id e count hget h =>
    exact Advance.of_put (N := []) hget rfl rfl rfl (by simp) (.replyConsumed count h)
  | built id e body hget hspared h =>
    exact Advance.of_log (N := [_]) hget rfl rfl rfl (by simp [Notice.about])
      (.built body (hspared.strand hget) h.strand)
  | planData id e spec payload frame hget hbusy hstate hne hwindow hretained hpayload hsequence =>
    exact Advance.planned hget (lane_nil_of_idle hbusy) rfl
      (.planData spec payload (lane_nil_of_idle hbusy) hstate hne hwindow hpayload hsequence)
  | planFin id e frame hget hbusy hstate hwindow hretained hqueued heof =>
    have hlane := lane_nil_of_idle hbusy
    refine Advance.of_own (N := []) hget hget (fun _ _ => rfl)
      (fun other hother => lane_push (.inl (by simpa using fun h => hother h.symm)) _) rfl (by simp) ?_
    change Turn cfg id (c.strand id e) ⟨e, lane id (c.tapQueue ++ [_]), _⟩
    rw [lane_push_planned rfl rfl, hlane]
    exact .planFin hlane hstate hwindow hretained hqueued heof
  | commit queued rest hqueue id plan e now hid hplan hget hmatch =>
    exact Advance.of_own (N := []) hget (Core.put_get (c := { c with tapQueue := rest }) _ hget)
      (fun other hother => Core.put_get_of_ne (c := { c with tapQueue := rest }) _ hother)
      (fun other hother => Advance.lane_tail hqueue hid hother) rfl (by simp)
      (.commit plan (lane id rest) now (lane_head hqueue hid hplan) hmatch)
  | commitMissed queued rest hqueue id plan hid hplan hget => exact Advance.commitMissed hb hqueue hid hplan hget
  | commitMismatched queued rest hqueue id plan e hid hplan hget hmatch =>
    refine Advance.of_own (N := [_]) hget (Core.put_get (c := { c with tapQueue := rest }) _ hget)
      (fun other hother => Core.put_get_of_ne (c := { c with tapQueue := rest }) _ hother)
      (fun other hother => Advance.lane_tail hqueue hid hother) rfl (by simp [Notice.about]) ?_
    rw [story_own rfl]
    exact .commitMismatched plan (lane id rest) (lane_head hqueue hid hplan) hmatch
  | drop queued rest hqueue => exact Advance.drop hb hqueue
  | flush id e f hget hspared h hrest =>
    exact Advance.of_put (N := []) hget rfl rfl rfl (by simp) (.flush f (hspared.strand hget) h hrest)
  | flushFin id e f hget hspared h hempty hshut =>
    refine Advance.of_put (N := [_]) hget rfl rfl rfl (by simp [Notice.about]) ?_
    rw [story_own rfl]
    exact .flushFin f (hspared.strand hget) h hempty hshut
  | flushFinFailed id e f error hget hspared h =>
    refine Advance.of_put (N := [_]) hget rfl rfl rfl (by simp [Notice.about]) ?_
    rw [story_own rfl]
    exact .flushFinFailed f error (hspared.strand hget) h
  | handled id e f g segment clamps N hget hspared hrst hf hg =>
    refine Advance.of_put hget rfl rfl (settle_journal c id e segment clamps N g)
      (segment_about hg.about) ?_
    rw [settle_story hg.about]
    exact .handled f g segment clamps N (hspared.strand hget) hrst hf hg
  | lost id e f g segment clamps N hget hspared hrst hf hg =>
    refine Advance.of_put hget rfl rfl (settle_journal c id e segment clamps N g)
      (segment_about hg.about) ?_
    rw [settle_story hg.about]
    exact .lost f g segment clamps N (hspared.strand hget) hrst hf hg
  | ackAborted id e f segment clamps count fault hget hspared hrst hf hfault =>
    have habout := hfault.about_story e segment clamps
    refine Advance.of_put hget rfl rfl rfl (fun n hn => .inl (habout n hn)) ?_
    rw [story_of_about habout, List.append_assoc]
    exact .ackAborted f segment clamps count fault (hspared.strand hget) hrst hf hfault
  | reset id e segment d hget hspared hrst h => exact Advance.reset hget hspared hrst h
  | activate id e bytesAcked frame body hget hspared hhandshake hbody =>
    exact Advance.activate hget hspared hhandshake hbody
  | activateLost id e bytesAcked dry hget hspared hhandshake => exact Advance.activateLost hget hspared hhandshake
  | close id e d hget hspared h => exact Advance.closing hget h fun b => .close b (hspared.strand hget)
  | create key e flows id hkey hinsert hfresh segment hmss => exact Advance.create hb hk hinsert hfresh hmss

/-- The part of the journal about a flow is that of a strand, followed by what was noted
after the flow left the table. -/
def Told (cfg : Config) (id : FlowId) (journal : List Notice) : Prop :=
  ∃ ghosts tail, story id journal = ghosts ++ tail ∧ (∀ n ∈ ghosts, Ghost journal id n) ∧
    (tail = [] ∨ ∃ a, Lived cfg id a ∧ a.story = tail)

structure Storied (cfg : Config) (c : Core) : Prop where
  base : Base c
  known : Known c
  lived : ∀ id e, c.flows.get id = some e → Lived cfg id (c.strand id e)
  told : ∀ id, c.flows.get id = none → Told cfg id c.journal

namespace Storied

variable {cfg : Config} {c d : Core}

theorem initial (cfg : Config) : Storied cfg (Core.initial cfg) where
  base := Base.initial cfg
  known n hn := by simp [Core.initial] at hn
  lived id e h := by simp [Core.initial] at h
  told id _ := ⟨[], [], rfl, by simp, .inl rfl⟩

theorem act (hc : Storied cfg c) (h : Act cfg c d) : Storied cfg d := by
  have hadvance := h.advance hc.base hc.known
  refine ⟨hc.base.act h, hc.known.act hc.base h, fun id f hf => ?_, fun id hid => ?_⟩
  · cases hadvance id with
    | turn e g he hg hturn =>
      rw [hg] at hf
      cases hf
      exact (hc.lived id e he).turn hturn
    | born g key segment hg hborn =>
      rw [hg] at hf
      cases hf
      exact .born hborn
    | reaped e he hd => rw [hd] at hf; cases hf
    | away ghosts he hd => rw [hd] at hf; cases hf
  · cases hadvance id with
    | turn e g he hg => rw [hg] at hid; cases hid
    | born g key segment hg => rw [hg] at hid; cases hid
    | reaped e he hd hdeferred hstory =>
      exact ⟨[], story id d.journal, rfl, by simp, .inr ⟨_, hc.lived id e he, hstory.symm⟩⟩
    | away ghosts he hd hghosts hstory =>
      obtain ⟨more, tail, htold, hmore, htail⟩ := hc.told id he
      obtain ⟨N, hgrown⟩ := h.journal
      refine ⟨ghosts ++ more, tail, ?_, fun n hn => ?_, htail⟩
      · rw [hstory, htold, List.append_assoc]
      · rw [hgrown]
        exact (List.mem_append.mp hn).elim (fun hn => (hghosts n hn).append N) fun hn => (hmore n hn).append N

theorem tapAct (hc : Storied cfg c) (h : TapAct cfg c d) : Storied cfg d := by
  rcases h with h | ⟨refresh, rfl⟩
  · exact hc.act h
  · exact ⟨Reactor.base_tapAct cfg hc.base (.inr ⟨refresh, rfl⟩), hc.known, hc.lived, hc.told⟩

theorem path (hc : Storied cfg c) (h : Path (TapAct cfg) c d) : Storied cfg d :=
  Path.invariant (P := Storied cfg) (fun _ _ hs hc => hc.tapAct hs) h hc

theorem story (hc : Storied cfg c) (id : FlowId) : Told cfg id c.journal := by
  cases hget : c.flows.get id with
  | none => exact hc.told id hget
  | some e => exact ⟨[], _, rfl, by simp, .inr ⟨_, hc.lived id e hget, rfl⟩⟩

end Storied

namespace Reactor

variable {cfg : Config} {s : Reactor}

theorem Reachable.storied (h : Reachable cfg s) : Storied cfg (core s) :=
  (Storied.initial cfg).path (h.path cfg).1

/-- A flow between handlers is a strand some run of turns leads to. -/
theorem Reachable.lived (h : Reachable cfg s) {id : FlowId} {e : FlowEntry} (hget : s.flows.get id = some e) :
    Lived cfg id ((core s).strand id e) := h.storied.lived id e hget

theorem Visited.told (h : Visited cfg s) (id : FlowId) : Told cfg id s.journal := by
  obtain ⟨d, hp, hjournal⟩ := h.path cfg
  rw [← hjournal]
  exact ((Storied.initial cfg).path hp).story id

end Reactor

end Yayatht
