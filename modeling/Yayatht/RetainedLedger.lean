import Mathlib.Algebra.BigOperators.Group.Finset.Basic
import Mathlib.Algebra.Order.BigOperators.Group.Finset
import Yayatht.DownstreamBytes

set_option autoImplicit false

/-!
# The ledger of retained bytes

Payload that was sent to the namespace and is not acknowledged is retained: it is reserved
while its frame waits for the TAP, held by a segment of its flow once the frame is written,
and released by acknowledgments and when the flow is closed. The count of the reactor is
the sum of what is reserved and what is held.
-/
namespace Yayatht
open EffectLogic

namespace FlowTable

variable {α : Type} {s t : FlowTable α} {amount : α → ℕ}

/-- What an entry that is not marked for removal holds. -/
def share (t : FlowTable α) (amount : α → ℕ) (id : FlowId) : ℕ :=
  if id ∈ t.deferred then 0 else ((t.get id).map amount).getD 0

def total (t : FlowTable α) (amount : α → ℕ) : ℕ := (t.activeIds.map (t.share amount)).sum

theorem share_inactive {id : FlowId} (h : id ∉ t.activeIds) : t.share amount id = 0 := by
  rw [mem_activeIds, Bool.not_eq_true, Option.isSome_eq_false_iff, Option.isNone_iff_eq_none] at h
  unfold share
  rw [h]
  split <;> rfl

theorem share_of_get {id : FlowId} {a : α} (hget : t.get id = some a) (hopen : id ∉ t.deferred) :
    t.share amount id = amount a := by
  unfold share
  rw [if_neg hopen, hget]
  rfl

theorem total_eq_sum (ids : Finset FlowId) (h : ∀ id ∈ t.activeIds, id ∈ ids) :
    t.total amount = ∑ id ∈ ids, t.share amount id := by
  have hlist : t.total amount = ∑ id ∈ t.activeIds.toFinset, t.share amount id :=
    (List.sum_toFinset _ (nodup_activeIds t)).symm
  rw [hlist]
  refine Finset.sum_subset (fun id hid => h id (List.mem_toFinset.mp hid)) fun id _ hid => ?_
  exact share_inactive fun hm => hid (List.mem_toFinset.mpr hm)

theorem total_changed (id : FlowId) (hothers : ∀ other, other ≠ id → t.share amount other = s.share amount other) :
    t.total amount + s.share amount id = s.total amount + t.share amount id := by
  let ids : Finset FlowId := Insert.insert id (s.activeIds.toFinset ∪ t.activeIds.toFinset)
  have hid : id ∈ ids := Finset.mem_insert_self _ _
  have hs : s.total amount = ∑ other ∈ ids, s.share amount other := total_eq_sum ids fun other h =>
    Finset.mem_insert_of_mem (Finset.mem_union_left _ (List.mem_toFinset.mpr h))
  have ht : t.total amount = ∑ other ∈ ids, t.share amount other := total_eq_sum ids fun other h =>
    Finset.mem_insert_of_mem (Finset.mem_union_right _ (List.mem_toFinset.mpr h))
  have hrest : ∑ other ∈ ids.erase id, t.share amount other = ∑ other ∈ ids.erase id, s.share amount other :=
    Finset.sum_congr rfl fun other h => hothers other (Finset.ne_of_mem_erase h)
  rw [hs, ht, ← Finset.add_sum_erase _ _ hid, ← Finset.add_sum_erase (f := s.share amount) _ hid, hrest]
  omega

theorem total_same (h : ∀ other, t.share amount other = s.share amount other) : t.total amount = s.total amount := by
  have hchanged : t.total amount + s.share amount ⟨0, 0⟩ = s.total amount + t.share amount ⟨0, 0⟩ :=
    total_changed ⟨0, 0⟩ fun other _ => h other
  rw [h] at hchanged
  omega

theorem share_le_total (t : FlowTable α) (amount : α → ℕ) (id : FlowId) : t.share amount id ≤ t.total amount := by
  have ht : t.total amount = ∑ other ∈ Insert.insert id t.activeIds.toFinset, t.share amount other :=
    total_eq_sum _ fun other h => Finset.mem_insert_of_mem (List.mem_toFinset.mpr h)
  rw [ht]
  exact Finset.single_le_sum (fun _ _ => Nat.zero_le _) (Finset.mem_insert_self _ _)

theorem share_modify (amount : α → ℕ) {f : α → α} {id : FlowId} {a : α} (hget : s.get id = some a) :
    (∀ other, other ≠ id → (s.modify id f).share amount other = s.share amount other) ∧
      (id ∉ s.deferred → (s.modify id f).share amount id = amount (f a)) := by
  constructor
  · intro other hne
    unfold share
    rw [modify_deferred, get_modify_of_ne _ _ _ _ hne]
  · intro hopen
    refine share_of_get ?_ ?_
    · rw [get_modify_self, hget]
      rfl
    · rw [modify_deferred]
      exact hopen

end FlowTable

/-- What a waiting frame has reserved. -/
def QueuedFrame.owed (queued : QueuedFrame) : ℕ :=
  match queued.flow, queued.plan with
  | some _, some plan => plan.length
  | _, _ => 0

def reservedTotal (queue : List QueuedFrame) : ℕ := (queue.map QueuedFrame.reservedRetained).sum

theorem reservedTotal_cons (queued : QueuedFrame) (queue : List QueuedFrame) :
    reservedTotal (queued :: queue) = queued.reservedRetained + reservedTotal queue := rfl

theorem reservedTotal_append (first second : List QueuedFrame) :
    reservedTotal (first ++ second) = reservedTotal first + reservedTotal second := by
  unfold reservedTotal
  rw [List.map_append, List.sum_append]

theorem reservedTotal_filter (own : QueuedFrame → Bool) (queue : List QueuedFrame) :
    reservedTotal (queue.filter own) + reservedTotal (queue.filter fun queued => !own queued) =
      reservedTotal queue := by
  induction queue with
  | nil => rfl
  | cons queued queue ih =>
    rw [List.filter_cons, List.filter_cons, reservedTotal_cons]
    cases own queued
    · simp only [Bool.false_eq_true, if_false, Bool.not_false, if_true]
      rw [reservedTotal_cons]
      omega
    · simp only [if_true, Bool.not_true, Bool.false_eq_true, if_false]
      rw [reservedTotal_cons]
      omega

/-- The frames reserve what they will commit, and the count is within its limit. -/
structure Reserving (cfg : Config) (c : Core) : Prop where
  frames : ∀ queued ∈ c.tapQueue, queued.reservedRetained = queued.owed
  bounded : c.retained ≤ cfg.maxRetainedTcpBytes

namespace Reserving

variable {cfg : Config} {c d : Core}

theorem less (hc : Reserving cfg c) (hqueue : ∀ queued ∈ d.tapQueue, queued ∈ c.tapQueue)
    (hretained : d.retained ≤ c.retained) : Reserving cfg d :=
  ⟨fun queued hq => hc.frames queued (hqueue queued hq), hretained.trans hc.bounded⟩

theorem pushed (hc : Reserving cfg c) (queued : QueuedFrame) (hqueue : d.tapQueue = c.tapQueue ++ [queued])
    (howed : queued.reservedRetained = queued.owed) (hbounded : d.retained ≤ cfg.maxRetainedTcpBytes) :
    Reserving cfg d := by
  refine ⟨fun other hother => ?_, hbounded⟩
  rw [hqueue] at hother
  rcases List.mem_append.mp hother with h | h
  · exact hc.frames other h
  · rw [List.mem_singleton.mp h]
    exact howed

theorem dropFrames_retained (frames : List QueuedFrame) (c : Core) :
    (Core.dropFrames frames c).retained = c.retained - reservedTotal frames := by
  induction frames generalizing c with
  | nil => rfl
  | cons queued frames ih =>
    refine (ih (c.release queued.reservedRetained)).trans ?_
    change c.retained - queued.reservedRetained - reservedTotal frames = _
    rw [reservedTotal_cons]
    omega

theorem unregister_retained (c : Core) (id : FlowId) (key : FlowKey) (e : FlowEntry) :
    (c.unregister id key e).retained =
      c.retained - reservedTotal (c.tapQueue.filter fun queued => queued.flow = some id) - e.retained :=
  congrArg (· - e.retained) (dropFrames_retained _ _)

theorem closing {id : FlowId} {e : FlowEntry} (hc : Reserving cfg c) (h : Closing c id e d) : Reserving cfg d := by
  have hless : ∀ key, Reserving cfg (c.unregister id key e) := by
    intro key
    refine hc.less (fun queued hq => ?_) ?_
    · rw [Core.unregister_tapQueue] at hq
      exact (List.mem_filter.mp hq).1
    · rw [unregister_retained]
      omega
  cases h with
  | done sides h => exact (hless sides.namespaceKey).less (fun _ h => h) (Nat.le_refl _)
  | stuck => exact hc.less (fun _ h => h) (Nat.le_refl _)
  | broken sides h => exact (hless sides.namespaceKey).less (fun _ h => h) (Nat.le_refl _)

theorem act (hc : Reserving cfg c) (h : Act cfg c d) : Reserving cfg d := by
  cases h with
  | engine | associations | mild | dialed | synLost | serviced | timeWait | touch | replyConsumed | built | flush |
    flushFin | flushFinFailed | ackAborted | activateLost | create | reap =>
    exact hc.less (fun _ h => h) (Nat.le_refl _)
  | enqueue queued h hr =>
    refine hc.pushed queued rfl ?_ ?_
    · rw [hr]
      unfold QueuedFrame.owed
      rcases h with h | h
      · rw [h]
      · rw [h]
        cases queued.flow <;> rfl
    · change c.retained + queued.reservedRetained ≤ _
      rw [hr]
      exact hc.bounded
  | planData id e spec payload frame hget hbusy hstate hne hwindow hretained =>
    refine hc.pushed _ rfl rfl ?_
    have hbounded := hc.bounded
    change c.retained + payload.length ≤ _
    omega
  | planFin id e frame => exact hc.pushed _ rfl rfl hc.bounded
  | commitPlain queued rest hqueue
  | commit queued rest hqueue
  | commitMissed queued rest hqueue
  | commitMismatched queued rest hqueue =>
    exact hc.less (fun other hother => hqueue ▸ List.mem_cons_of_mem queued hother) (Nat.le_refl _)
  | drop queued rest hqueue =>
    exact hc.less (fun other hother => hqueue ▸ List.mem_cons_of_mem queued hother) (Nat.sub_le _ _)
  | handled | lost => exact hc.less (fun _ h => h) (Nat.sub_le _ _)
  | reset id e segment d hget hspared hrst h =>
    exact closing (hc.less (d := (c.put id (e.received segment).1).log [.segment id e segment]) (fun _ h => h)
      (Nat.le_refl _)) h
  | activate id e bytesAcked frame body => exact hc.pushed _ rfl rfl hc.bounded
  | close id e d hget hspared h => exact hc.closing h

end Reserving

/-- A segment is handled while the stream of its flow is within the first half of the number space. -/
def Notice.near : Notice → Bool
  | .segment _ e _ => decide (e.socket.stream.length < 2 ^ 31 - 1)
  | _ => true

/-- The notice is about no flow, or it is steady and the stream of its flow is not too long. -/
def Notice.orderly (n : Notice) : Bool := n.about.isNone || (n.steady && n.near)

theorem Notice.orderly.steady {n : Notice} {id : FlowId} (h : n.orderly = true) (habout : n.about = some id) :
    n.steady = true ∧ n.near = true := by
  unfold Notice.orderly at h
  rw [habout] at h
  simpa using h

theorem Notice.orderly.graceful {n : Notice} (h : n.orderly = true) : n.graceful = true := by
  cases n with
  | closeFailed id =>
    have hsteady := (orderly.steady h rfl).1
    cases hsteady
  | serviced id e now => exact (orderly.steady h rfl).1
  | _ => rfl

theorem not_excused_of_orderly {journal : List Notice} {id : FlowId} (h : ∀ n ∈ journal, n.orderly = true) :
    ¬ Excused journal id :=
  not_excused_of_graceful fun n hn => Notice.orderly.graceful (h n hn)

/-- Every release found as much as it took off the count. -/
def Notice.settlesExactly : Notice → Prop
  | .retainedReleased length available => length ≤ available
  | _ => True

/-- The count is what the frames have reserved and the open flows hold. -/
structure Accounted (c : Core) : Prop where
  total : c.retained = c.flows.total FlowEntry.retained + reservedTotal c.tapQueue
  exact : ∀ n ∈ c.journal, n.settlesExactly

theorem Notice.settlesExactly_of_about {n : Notice} {id : FlowId} (h : n.about = some id) : n.settlesExactly := by
  cases n with
  | retainedReleased length available => cases h
  | _ => trivial

namespace Accounted

variable {cfg : Config} {c d : Core} {id : FlowId} {e f : FlowEntry} {N : List Notice}

theorem same (ha : Accounted c) (hshare : ∀ other, d.flows.share FlowEntry.retained other =
      c.flows.share FlowEntry.retained other)
    (hqueue : reservedTotal d.tapQueue = reservedTotal c.tapQueue) (hretained : d.retained = c.retained)
    (hjournal : d.journal = N ++ c.journal) (hN : ∀ n ∈ N, n.settlesExactly) : Accounted d := by
  refine ⟨?_, fun n hn => ?_⟩
  · rw [hretained, hqueue, FlowTable.total_same hshare]
    exact ha.total
  · rw [hjournal] at hn
    exact (List.mem_append.mp hn).elim (hN n) (ha.exact n)

theorem of_put (ha : Accounted c) (hget : c.flows.get id = some e) (hflows : d.flows = c.flows.modify id fun _ => f)
    (hheld : f.retained = e.retained) (hqueue : reservedTotal d.tapQueue = reservedTotal c.tapQueue)
    (hretained : d.retained = c.retained) (hjournal : d.journal = N ++ c.journal)
    (hN : ∀ n ∈ N, n.settlesExactly) : Accounted d := by
  refine ha.same (fun other => ?_) hqueue hretained hjournal hN
  rw [hflows]
  obtain ⟨hothers, hown⟩ := FlowTable.share_modify FlowEntry.retained (f := fun _ => f) hget
  by_cases hother : other = id
  · subst hother
    by_cases hdeferred : other ∈ c.flows.deferred
    · unfold FlowTable.share
      rw [FlowTable.modify_deferred, if_pos hdeferred, if_pos hdeferred]
    · rw [hown hdeferred, hheld, FlowTable.share_of_get hget hdeferred]
  · exact hothers other hother

theorem held (ha : Accounted c) (hget : c.flows.get id = some e) (hopen : id ∉ c.flows.deferred) :
    e.retained + reservedTotal c.tapQueue ≤ c.retained := by
  have hshare := c.flows.share_le_total FlowEntry.retained id
  rw [FlowTable.share_of_get hget hopen] at hshare
  have htotal := ha.total
  omega

theorem dropFrames_exact (frames : List QueuedFrame) (c : Core) (h : reservedTotal frames ≤ c.retained)
    (hexact : ∀ n ∈ c.journal, n.settlesExactly) : ∀ n ∈ (Core.dropFrames frames c).journal, n.settlesExactly := by
  induction frames generalizing c with
  | nil => exact hexact
  | cons queued frames ih =>
    rw [reservedTotal_cons] at h
    refine ih (c.release queued.reservedRetained) ?_ fun n hn => ?_
    · change reservedTotal frames ≤ c.retained - queued.reservedRetained
      omega
    · rcases List.mem_cons.mp hn with rfl | hn
      · change queued.reservedRetained ≤ c.retained
        omega
      · exact hexact n hn

theorem closed (ha : Accounted c) (hget : c.flows.get id = some e) (hopen : id ∉ c.flows.deferred) (key : FlowKey) :
    Accounted ((c.unregister id key e).retire id e) := by
  have hsplit := reservedTotal_filter (fun queued => decide (queued.flow = some id)) c.tapQueue
  have hheld := ha.held hget hopen
  have hrest : (c.tapQueue.filter fun queued => !decide (queued.flow = some id)) =
      c.tapQueue.filter fun queued => queued.flow ≠ some id :=
    List.filter_congr fun queued _ => by simp
  rw [hrest] at hsplit
  refine ⟨?_, ?_⟩
  · have hflows : ((c.unregister id key e).retire id e).flows =
        (c.flows.modify id fun _ => { e with flow := e.flow.close }).deferRemove id := by
      unfold Core.retire
      rw [Core.unregister_flows]
    have hgone : ((c.unregister id key e).retire id e).flows.share FlowEntry.retained id = 0 := by
      unfold FlowTable.share
      rw [hflows, if_pos]
      rw [FlowTable.mem_deferred_deferRemove, FlowTable.get_modify_self, hget]
      exact .inr ⟨rfl, rfl⟩
    have hothers : ∀ other, other ≠ id → ((c.unregister id key e).retire id e).flows.share FlowEntry.retained other =
        c.flows.share FlowEntry.retained other := by
      intro other hne
      have hdeferred : other ∈ ((c.flows.modify id fun _ => { e with flow := e.flow.close }).deferRemove id).deferred ↔
          other ∈ c.flows.deferred := by
        rw [FlowTable.mem_deferred_deferRemove, FlowTable.modify_deferred]
        simp [hne]
      unfold FlowTable.share
      rw [hflows, FlowTable.get_deferRemove, FlowTable.get_modify_of_ne _ _ _ _ hne]
      simp only [hdeferred]
    have hchanged := FlowTable.total_changed id hothers
    rw [hgone, FlowTable.share_of_get hget hopen] at hchanged
    have htotal := ha.total
    have hretained : ((c.unregister id key e).retire id e).retained =
        c.retained - reservedTotal (c.tapQueue.filter fun queued => queued.flow = some id) - e.retained :=
      Reserving.unregister_retained c id key e
    have hqueue : ((c.unregister id key e).retire id e).tapQueue =
        c.tapQueue.filter fun queued => queued.flow ≠ some id := Core.unregister_tapQueue c id key e
    rw [hretained, hqueue]
    omega
  · have hframes := dropFrames_exact (c.tapQueue.filter fun queued => queued.flow = some id)
      { c with
        journal := .released id e :: c.journal
        byKey := c.byKey.erase key
        tapQueue := c.tapQueue.filter fun queued => queued.flow ≠ some id } (by dsimp only; omega) fun n hn => by
          rcases List.mem_cons.mp hn with rfl | hn
          · trivial
          · exact ha.exact n hn
    have hleft := Reserving.dropFrames_retained (c.tapQueue.filter fun queued => queued.flow = some id)
      { c with
        journal := .released id e :: c.journal
        byKey := c.byKey.erase key
        tapQueue := c.tapQueue.filter fun queued => queued.flow ≠ some id }
    intro n hn
    change n ∈ (Core.release _ e.retained).journal at hn
    rcases List.mem_cons.mp hn with rfl | hn
    · change e.retained ≤ Core.retained _
      rw [hleft]
      dsimp only
      omega
    · exact hframes n hn

end Accounted

namespace Storied

variable {cfg : Config} {c : Core} {id : FlowId} {e : FlowEntry}

/-- A flow that a handler works on is open, and not marked for removal. -/
theorem spared_open (hc : Storied cfg c) (horderly : ∀ n ∈ c.journal, n.orderly = true) (hspared : Spared c id)
    (hget : c.flows.get id = some e) : e.open? = true ∧ id ∉ c.flows.deferred := by
  have hopen : e.open? = true := by
    rcases hspared with ⟨f, hf, ho⟩ | hexcused
    · rw [hget] at hf
      cases hf
      exact ho
    · exact absurd hexcused (not_excused_of_orderly horderly)
  refine ⟨hopen, fun hdeferred => ?_⟩
  rcases hc.base.deferred id e hdeferred hget with hclosed | hexcused
  · rw [hopen] at hclosed
    cases hclosed
  · exact not_excused_of_orderly horderly hexcused

theorem orderly_story (horderly : ∀ n ∈ c.journal, n.orderly = true) :
    ∀ n ∈ (c.strand id e).story, n.steady = true := by
  intro n hn
  obtain ⟨hmem, habout⟩ := mem_story.mp hn
  exact (Notice.orderly.steady (horderly n hmem) habout).1

/-- An acknowledgment takes as much off the count as off the segments. -/
theorem settles (hc : Storied cfg c) (horderly : ∀ n ∈ c.journal, n.orderly = true) (hget : c.flows.get id = some e)
    (hopen : e.open? = true) {segment : TcpSegment} (hrst : segment.flags.rst = false)
    (hsegment : (Notice.segment id e segment).orderly = true) :
    (e.settled segment).retained + e.ackedBy segment = e.retained := by
  obtain ⟨hsteady, hnear⟩ := Notice.orderly.steady hsegment rfl
  have hshort : e.socket.stream.length < 2 ^ 31 - 1 := of_decide_eq_true hnear
  have hlived := hc.lived id e hget
  have hserved := hlived.served (orderly_story horderly) hshort
  have htiled := hlived.tiled (orderly_story horderly)
  simp only [Notice.steady, Bool.and_eq_true, Bool.not_eq_true'] at hsteady
  exact (hserved.aligned.segment htiled.stage hopen hrst hsteady.1 hsteady.2 hshort).2

end Storied

namespace Accounted

variable {cfg : Config} {c d : Core} {id : FlowId} {e f g : FlowEntry}

theorem retained_committed (e : FlowEntry) (plan : SendPlan) (now : Millis) :
    (e.committed plan now).retained = e.retained + plan.length := by
  change payloadTotal (e.sentSegments ++ [SentSegment.ofPlan plan now]) = _
  unfold payloadTotal
  rw [List.map_append, List.sum_append]
  rfl

theorem push (ha : Accounted c) (queued : QueuedFrame) : Accounted (c.push queued) := by
  refine ⟨?_, ha.exact⟩
  have htotal := ha.total
  have hlast : reservedTotal [queued] = queued.reservedRetained := rfl
  change c.retained + queued.reservedRetained = c.flows.total _ + reservedTotal (c.tapQueue ++ [queued])
  rw [reservedTotal_append]
  omega

/-- The frame was written, and its payload is held by a segment. -/
theorem committed (ha : Accounted c) {queued : QueuedFrame} {rest : List QueuedFrame} {plan : SendPlan} (now : Millis)
    (hqueue : c.tapQueue = queued :: rest) (hget : c.flows.get id = some e) (hopen : id ∉ c.flows.deferred)
    (howed : queued.reservedRetained = plan.length) :
    Accounted ({ c with tapQueue := rest }.put id (e.committed plan now)) := by
  refine ⟨?_, ha.exact⟩
  obtain ⟨hothers, hown⟩ :=
    FlowTable.share_modify FlowEntry.retained (f := fun _ => e.committed plan now) hget
  have hchanged := FlowTable.total_changed id hothers
  rw [hown hopen, FlowTable.share_of_get hget hopen, retained_committed] at hchanged
  have htotal := ha.total
  rw [hqueue, reservedTotal_cons] at htotal
  change c.retained = (c.flows.modify id fun _ => e.committed plan now).total FlowEntry.retained + reservedTotal rest
  omega

theorem dropped (ha : Accounted c) {queued : QueuedFrame} {rest : List QueuedFrame}
    (hqueue : c.tapQueue = queued :: rest) :
    Accounted
      (({ c with tapQueue := rest }.log [.tapFailed queued.flow queued.plan]).release queued.reservedRetained) := by
  have htotal := ha.total
  rw [hqueue, reservedTotal_cons] at htotal
  refine ⟨?_, fun n hn => ?_⟩
  · change c.retained - queued.reservedRetained = c.flows.total _ + reservedTotal rest
    omega
  · rcases List.mem_cons.mp hn with rfl | hn
    · change queued.reservedRetained ≤ c.retained
      omega
    · rcases List.mem_cons.mp hn with rfl | hn
      · trivial
      · exact ha.exact n hn

theorem created (ha : Accounted c) (hwf : c.flows.Wf) {key : FlowKey} {flows : FlowTable FlowEntry}
    (hinsert : c.flows.insert e = (flows, .ok id)) (hfresh : Fresh key e) (N : List Notice)
    (hN : ∀ n ∈ N, n.settlesExactly) :
    Accounted ({ c with flows := flows, byKey := c.byKey.insert key id }.log N) := by
  refine ha.same (fun other => ?_) rfl rfl rfl hN
  rcases hwf.insert_cases e with hfull | ⟨flows', id', hinsert', -, hdeferred, hunused, hget, -⟩
  · rw [hfull] at hinsert
    cases hinsert
  rw [hinsert'] at hinsert
  cases hinsert
  change flows.share FlowEntry.retained other = _
  unfold FlowTable.share
  rw [hdeferred, hget]
  by_cases hother : other = id
  · have hnone : c.flows.get other = none := by
      cases hold : c.flows.get other with
      | none => rfl
      | some old => exact absurd (FlowTable.used_of_get hold) (hother ▸ hunused)
    have hempty : e.retained = 0 := by
      unfold FlowEntry.retained
      rw [hfresh.sentSegments]
      rfl
    rw [if_pos hother, hnone]
    split
    · rfl
    · exact hempty
  · rw [if_neg hother]

theorem settled (ha : Accounted c) (hget : c.flows.get id = some e) (hopen : id ∉ c.flows.deferred)
    {segment : TcpSegment} {clamps : ℕ} {N : List Notice} (hg : g.retained = (e.settled segment).retained)
    (hN : ∀ n ∈ N, n.about = some id) (hcount : (e.settled segment).retained + e.ackedBy segment = e.retained) :
    Accounted (c.settle id e segment clamps N g) := by
  have hheld := ha.held hget hopen
  obtain ⟨hothers, hown⟩ := FlowTable.share_modify FlowEntry.retained (f := fun _ => g) hget
  have hchanged := FlowTable.total_changed id hothers
  rw [hown hopen, FlowTable.share_of_get hget hopen] at hchanged
  refine ⟨?_, fun n hn => ?_⟩
  · have htotal := ha.total
    change c.retained - e.ackedBy segment = (c.flows.modify id fun _ => g).total FlowEntry.retained +
      reservedTotal c.tapQueue
    omega
  · rw [settle_journal] at hn
    rcases List.mem_append.mp hn with hn | hn
    · rcases List.mem_append.mp hn with hn | hn
      · rcases List.mem_append.mp hn with hn | hn
        · exact Notice.settlesExactly_of_about (hN n hn)
        · rcases List.mem_append.mp hn with hn | hn
          · split at hn
            · simp only [List.mem_cons, List.not_mem_nil, or_false] at hn
              rcases hn with rfl | rfl
              · change e.ackedBy segment ≤ c.retained
                omega
              · trivial
            · cases hn
          · rw [(List.mem_replicate.mp hn).2]
            trivial
      · rw [List.mem_singleton.mp hn]
        trivial
    · exact ha.exact n hn

theorem closing (ha : Accounted c) (hget : c.flows.get id = some e) (hopen : id ∉ c.flows.deferred)
    (h : Closing c id e d) (horderly : ∀ n ∈ d.journal, n.orderly = true) : Accounted d := by
  have hfailed : Notice.closeFailed id ∉ d.journal := fun hmem => by
    have hsteady := (Notice.orderly.steady (horderly _ hmem) rfl).1
    cases hsteady
  cases h with
  | done sides h => exact ha.closed hget hopen sides.namespaceKey
  | stuck => exact absurd List.mem_cons_self hfailed
  | broken sides h => exact absurd List.mem_cons_self hfailed

theorem act (ha : Accounted c) (hc : Storied cfg c) (hr : Reserving cfg c) (h : Act cfg c d)
    (horderly : ∀ n ∈ d.journal, n.orderly = true) : Accounted d := by
  obtain ⟨new, hgrown⟩ := h.journal
  have hbefore : ∀ n ∈ c.journal, n.orderly = true := fun n hn =>
    horderly n (hgrown ▸ List.mem_append_right _ hn)
  have hquiet : ∀ notice : Notice, notice.settlesExactly → ∀ n ∈ [notice], n.settlesExactly := by
    intro notice hnotice n hn
    rw [List.mem_singleton.mp hn]
    exact hnotice
  have hdrained : ∀ {e f : FlowEntry}, Drained e f → f.retained = e.retained := fun h =>
    congrArg payloadTotal (congrArg Inbound.segments (FlowEntry.inbound_drained h))
  cases h with
  | engine | associations => exact ha.same (N := []) (fun _ => rfl) rfl rfl rfl (by simp)
  | mild notice h => exact ha.same (N := [notice]) (fun _ => rfl) rfl rfl rfl (hquiet _ (by cases h <;> trivial))
  | dialed | synLost | serviced | timeWait | built =>
    exact ha.same (N := [_]) (fun _ => rfl) rfl rfl rfl (hquiet _ trivial)
  | touch id e f hget h => exact ha.of_put (N := []) hget rfl h.retained rfl rfl rfl (by simp)
  | replyConsumed id e count hget h => exact ha.of_put (N := []) hget rfl rfl rfl rfl rfl (by simp)
  | enqueue queued h hr => exact ha.push queued
  | planData id e spec payload frame hget =>
    refine Accounted.push (c := (c.put id _).log [_]) ?_ _
    exact ha.of_put (N := [_]) hget rfl rfl rfl rfl rfl (hquiet _ trivial)
  | planFin id e frame hget => exact ha.push _
  | commitPlain queued rest hqueue h =>
    have howed := hr.frames queued (by rw [hqueue]; exact List.mem_cons_self)
    have hzero : queued.owed = 0 := by
      unfold QueuedFrame.owed
      rcases h with h | h
      · rw [h]
      · rw [h]
        cases queued.flow <;> rfl
    refine ha.same (N := []) (fun _ => rfl) ?_ rfl rfl (by simp)
    rw [hqueue, reservedTotal_cons, howed, hzero, Nat.zero_add]
  | commit queued rest hqueue id plan e now hid hplan hget hmatch =>
    have hmem : queued ∈ c.tapQueue := by
      rw [hqueue]
      exact List.mem_cons_self
    obtain ⟨-, hlisted⟩ := hc.spared_open hbefore (hc.base.planned queued hmem id hid (by rw [hplan]; rfl)) hget
    have howed : queued.owed = plan.length := by
      unfold QueuedFrame.owed
      rw [hid, hplan]
    exact ha.committed now hqueue hget hlisted ((hr.frames queued hmem).trans howed)
  | commitMissed queued rest hqueue id plan hid hplan hget =>
    have hspared := hc.base.planned queued (by rw [hqueue]; exact List.mem_cons_self) id hid (by rw [hplan]; rfl)
    rcases hspared with ⟨e, he, -⟩ | hexcused
    · rw [hget] at he
      cases he
    · exact absurd hexcused (not_excused_of_orderly hbefore)
  | commitMismatched queued rest hqueue id plan e hid hplan hget hmatch =>
    have htiled := (hc.lived id e hget).tiled (Storied.orderly_story hbefore)
    have hstage := htiled.stage
    change e.sending.Stage (lane id c.tapQueue) at hstage
    rw [lane_head hqueue hid hplan] at hstage
    rw [hstage.commitMatches] at hmatch
    cases hmatch
  | drop queued rest hqueue => exact ha.dropped hqueue
  | flush id e f hget hspared h hrest => exact ha.of_put (N := []) hget rfl (hdrained h) rfl rfl rfl (by simp)
  | flushFin id e f hget hspared h hempty hshut =>
    have hheld : f.retained = e.retained := hdrained h
    exact ha.of_put (N := [_]) hget rfl hheld rfl rfl rfl (hquiet _ trivial)
  | flushFinFailed id e f error hget hspared h =>
    exact ha.of_put (N := [_]) hget rfl (hdrained h) rfl rfl rfl (hquiet _ trivial)
  | handled id e f g segment clamps N hget hspared hrst hf hg =>
    obtain ⟨hopen, hlisted⟩ := hc.spared_open hbefore hspared hget
    have hcount := hc.settles hbefore hget hopen hrst (horderly _ (by rw [settle_journal]; simp))
    have hheld : g.retained = f.retained :=
      congrArg payloadTotal (congrArg Inbound.segments (FlowEntry.inbound_delivered hg))
    exact ha.settled hget hlisted (hheld.trans hf.retained) hg.about hcount
  | lost id e f g segment clamps N hget hspared hrst hf hg =>
    obtain ⟨hopen, hlisted⟩ := hc.spared_open hbefore hspared hget
    have hcount := hc.settles hbefore hget hopen hrst (horderly _ (by rw [settle_journal]; simp))
    have hheld : g.retained = f.retained :=
      congrArg payloadTotal (congrArg Inbound.segments (FlowEntry.inbound_lost hg))
    exact ha.settled hget hlisted (hheld.trans hf.retained) hg.about hcount
  | ackAborted id e f segment clamps count fault hget hspared hrst hf hfault =>
    exact ha.of_put hget rfl hf.retained rfl rfl rfl fun n hn =>
      Notice.settlesExactly_of_about (hfault.about_story e segment clamps n hn)
  | reset id e segment d hget hspared hrst h =>
    obtain ⟨-, hlisted⟩ := hc.spared_open hbefore hspared hget
    have hput : Accounted ((c.put id (e.received segment).1).log [.segment id e segment]) :=
      ha.of_put (N := [_]) hget rfl rfl rfl rfl rfl (hquiet _ trivial)
    refine hput.closing (Core.put_get _ hget) ?_ h horderly
    change id ∉ (c.flows.modify id _).deferred
    rw [FlowTable.modify_deferred]
    exact hlisted
  | activate id e bytesAcked frame body hget =>
    refine Accounted.push (c := (c.put id _).log [_, _]) ?_ _
    refine ha.of_put (N := [_, _]) hget rfl rfl rfl rfl rfl fun n hn => ?_
    simp only [List.mem_cons, List.not_mem_nil, or_false] at hn
    rcases hn with rfl | rfl <;> trivial
  | activateLost id e bytesAcked dry hget =>
    refine ha.of_put hget rfl rfl rfl rfl rfl fun n hn => ?_
    simp only [List.cons_append, List.mem_cons, List.mem_append, List.mem_replicate, List.not_mem_nil,
      or_false] at hn
    rcases hn with rfl | ⟨-, rfl⟩ | rfl <;> trivial
  | close id e d hget hspared h =>
    obtain ⟨-, hlisted⟩ := hc.spared_open hbefore hspared hget
    exact ha.closing hget hlisted h horderly
  | create key e flows id hkey hinsert hfresh segment =>
    refine ha.created hc.base.table hinsert hfresh _ fun n hn => ?_
    simp only [List.mem_cons, List.not_mem_nil, or_false] at hn
    rcases hn with rfl | rfl <;> trivial
  | reap =>
    refine ha.same (N := []) (fun other => ?_) rfl rfl rfl (by simp)
    change c.flows.flushDeferred.1.share FlowEntry.retained other = _
    unfold FlowTable.share
    rw [FlowTable.flushDeferred_deferred, FlowTable.get_flushDeferred, if_neg List.not_mem_nil]
    split <;> rfl

end Accounted

/-- What the count satisfies after every step. -/
structure Ledgered (cfg : Config) (c : Core) : Prop where
  storied : Storied cfg c
  reserving : Reserving cfg c
  accounted : (∀ n ∈ c.journal, n.orderly = true) → Accounted c

namespace Ledgered

variable {cfg : Config} {c d : Core}

theorem initial (cfg : Config) : Ledgered cfg (Core.initial cfg) where
  storied := .initial cfg
  reserving := ⟨fun queued hq => absurd hq List.not_mem_nil, Nat.zero_le _⟩
  accounted _ := by
    refine ⟨?_, fun n hn => absurd hn List.not_mem_nil⟩
    have hnone : (Core.initial cfg).flows.activeIds = [] := by
      refine List.eq_nil_iff_forall_not_mem.mpr fun id hid => ?_
      rw [FlowTable.mem_activeIds] at hid
      unfold Core.initial at hid
      rw [FlowTable.get_withCapacity] at hid
      cases hid
    unfold FlowTable.total
    rw [hnone]
    rfl

theorem tapAct (hc : Ledgered cfg c) (h : TapAct cfg c d) : Ledgered cfg d := by
  refine ⟨hc.storied.tapAct h, ?_, fun horderly => ?_⟩
  · rcases h with h | ⟨refresh, rfl⟩
    · exact hc.reserving.act h
    · exact hc.reserving.less (fun _ h => h) (Nat.le_refl _)
  · rcases h with h | ⟨refresh, rfl⟩
    · obtain ⟨N, hgrown⟩ := h.journal
      have hbefore := hc.accounted fun n hn => horderly n (hgrown ▸ List.mem_append_right _ hn)
      exact hbefore.act hc.storied hc.reserving h horderly
    · exact (hc.accounted horderly).same (N := []) (fun _ => rfl) rfl rfl rfl (by simp)

end Ledgered

namespace Reactor

/-- The count of retained bytes never exceeds its limit. In every orderly run it is what the segments of
the open flows and the waiting frames hold, and no release takes more off it than it has. -/
theorem retained_bytes_accounted (cfg : Config) (s : Reactor) (hs : Reachable cfg s) :
    s.retainedSocketBytes ≤ cfg.maxRetainedTcpBytes ∧
      ((∀ n ∈ s.journal, n.orderly = true) →
        s.retainedSocketBytes = s.flows.total FlowEntry.retained + reservedTotal s.tapQueue ∧
          ∀ length available, Notice.retainedReleased length available ∈ s.journal → length ≤ available) := by
  have hledgered : Ledgered cfg (core s) :=
    Path.invariant (P := Ledgered cfg) (fun _ _ hs hc => hc.tapAct hs) (hs.path cfg).1 (.initial cfg)
  refine ⟨hledgered.reserving.bounded, fun horderly => ?_⟩
  have haccounted := hledgered.accounted horderly
  exact ⟨haccounted.total, fun length available hmem => haccounted.exact _ hmem⟩

/-- Two bytes of the sample connection are sent and two wait. -/
theorem retained_bytes_accounted_partly :
    ∃ s, Reachable (.sample (.direct false)) s ∧ s.retainedSocketBytes = 4 ∧ reservedTotal s.tapQueue = 2 ∧
      s.retainedSocketBytes = s.flows.total FlowEntry.retained + reservedTotal s.tapQueue := by
  have hrun : (replay (.sample (.direct false)) partlyAcknowledged
      (Reactor.new (.sample (.direct false)) .quiet {} 0 0)).map (fun s =>
        (s.retainedSocketBytes, reservedTotal s.tapQueue, s.journal.all Notice.orderly)) =
      some (4, 2, true) := by decide +kernel
  obtain ⟨s, hs, hfields⟩ := Option.map_eq_some_iff.mp hrun
  simp only [Prod.mk.injEq, List.all_eq_true] at hfields
  obtain ⟨hretained, hreserved, horderly⟩ := hfields
  have hreachable := reachable_of_replay _ partlyAcknowledged (.start .quiet {} 0 0) hs
  exact ⟨s, hreachable, hretained, hreserved, ((retained_bytes_accounted _ s hreachable).2 horderly).1⟩

end Reactor

end Yayatht
