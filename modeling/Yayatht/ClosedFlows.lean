import Yayatht.DownstreamBytes

set_option autoImplicit false

namespace Yayatht
open EffectLogic

/-- The accounting of the flow was given back. -/
def Notice.releases (id : FlowId) : Notice → Bool
  | .released own _ => own = id
  | _ => false

/-- What the journal can still hold of a flow after that: visits of the timers, and that its SYN-ACK got
no frame. -/
def Notice.faint : Notice → Bool
  | .serviced _ _ _ => true
  | .synLost _ => true
  | _ => false

/-- In the history of a flow, newest first, its accounting was given back once, when its entry was
`e`, and nothing was done for it afterwards. -/
def ReleasedOnce (id : FlowId) (e : FlowEntry) (story : List Notice) : Prop :=
  ∃ after before, story = after ++ .released id e :: before ∧ (∀ n ∈ after, n.faint = true) ∧
    ∀ n ∈ before, n.releases id = false

/-- What went to the upstream socket of a flow, and what waits for it. -/
def FlowEntry.upstream (e : FlowEntry) : Bytes × Bool × PendingSocketQueue :=
  (e.socket.payloadSent, e.socket.writeShutdown, e.pendingSocket)

inductive Strand.Retiring (id : FlowId) (a : Strand) : Prop
  | running (hopen : a.entry.open? = true) (h : ∀ n ∈ a.story, n.releases id = false)
  | retired (e : FlowEntry) (honce : ReleasedOnce id e a.story) (hclosed : a.entry.open? = false)
      (hlane : a.lane = []) (hupstream : a.entry.upstream = e.upstream)

/-- When every close goes through, a flow that left the table leaves no planned frame behind. -/
theorem Ghost.faint {journal : List Notice} {id : FlowId} {n : Notice} (h : Ghost journal id n)
    (hgraceful : ∀ n ∈ journal, n.graceful = true) : n.faint = true := by
  cases h with
  | synLost => rfl
  | commitFailed hexcused | tapFailed plan hexcused => exact absurd hexcused (not_excused_of_graceful hgraceful)

theorem ReleasedOnce.append {id : FlowId} {e : FlowEntry} {story N : List Notice} (h : ReleasedOnce id e story)
    (hN : ∀ n ∈ N, n.faint = true) : ReleasedOnce id e (N ++ story) := by
  obtain ⟨after, before, hstory, hafter, hbefore⟩ := h
  refine ⟨N ++ after, before, ?_, fun n hn => ?_, hbefore⟩
  · rw [hstory, List.append_assoc]
  · exact (List.mem_append.mp hn).elim (hN n) (hafter n)

section Notices

variable {id : FlowId} {payload : Bytes} {disposition : ReceiveDisposition} {e f : FlowEntry} {N : List Notice}

theorem FlowEntry.finNotices_kept (e : FlowEntry) (id : FlowId) : ∀ n ∈ e.finNotices id, n.releases id = false := by
  unfold finNotices
  split <;> simp [Notice.releases]

theorem Delivered.kept (h : Delivered id payload disposition e N f) : ∀ n ∈ N, n.releases id = false := by
  cases h with
  | nothing h => simp
  | payload answer hn hf => simp [Notice.releases]
  | fin => exact e.finNotices_kept id
  | payloadFin answer hn hf =>
    simp only [List.mem_append, List.mem_singleton]
    rintro n (h | rfl)
    · exact FlowEntry.finNotices_kept _ id n h
    · rfl

theorem Lost.kept (h : Lost id payload disposition e N f) : ∀ n ∈ N, n.releases id = false := by
  cases h with
  | send error hn he => simp [Notice.releases]
  | refused answer hn hf => simp [Notice.releases]
  | shutdown error hf =>
    simp only [List.mem_cons]
    rintro n (rfl | h)
    · rfl
    · exact hf.kept n h

theorem segment_kept {acked clamps : ℕ} {segment : TcpSegment} {story : List Notice}
    (hN : ∀ n ∈ N, n.releases id = false) (h : ∀ n ∈ story, n.releases id = false) :
    ∀ n ∈ N ++ settleStory id acked clamps ++ .segment id e segment :: story, n.releases id = false := by
  intro n hn
  rcases List.mem_append.mp hn with hn | hn
  · rcases List.mem_append.mp hn with hn | hn
    · exact hN n hn
    · rcases List.mem_append.mp hn with hn | hn
      · split at hn
        · rw [List.mem_singleton.mp hn]
          rfl
        · cases hn
      · rw [(List.mem_replicate.mp hn).2]
        rfl
  · rcases List.mem_cons.mp hn with rfl | hn
    · rfl
    · exact h n hn

theorem AckFault.kept {fault : Notice} (h : AckFault id fault) : fault.releases id = false := by
  cases h <;> rfl

end Notices

namespace Strand.Retiring

variable {cfg : Config} {id : FlowId} {a b : Strand} {N : List Notice}

theorem born {key : FlowKey} {segment : TcpSegment} (h : Born cfg id a key segment) : a.Retiring id := by
  refine .running ?_ fun n hn => ?_
  · obtain ⟨ni, li, mss, ps, ls, hflow, -⟩ := h.fresh.flow
    unfold FlowEntry.open?
    rw [hflow]
    rfl
  · rw [h.story] at hn
    simp only [List.mem_cons, List.not_mem_nil, or_false] at hn
    rcases hn with rfl | rfl <;> rfl

theorem faintly (ha : a.Retiring id) (hstory : b.story = N ++ a.story) (hN : ∀ n ∈ N, n.faint = true)
    (hopen : b.entry.open? = a.entry.open?) (hlane : b.lane = a.lane)
    (hupstream : b.entry.upstream = a.entry.upstream) : b.Retiring id := by
  cases ha with
  | running ho h =>
    refine .running (hopen.trans ho) fun n hn => ?_
    rw [hstory] at hn
    rcases List.mem_append.mp hn with hn | hn
    · have hfaint := hN n hn
      unfold Notice.faint at hfaint
      split at hfaint <;> first | rfl | cases hfaint
    · exact h n hn
  | retired e honce hclosed hidle hsame =>
    exact .retired e (hstory ▸ honce.append hN) (hopen.trans hclosed) (hlane.trans hidle) (hupstream.trans hsame)

theorem unreleased (ha : a.Retiring id) (hopen : a.entry.open? = true) : ∀ n ∈ a.story, n.releases id = false := by
  cases ha with
  | running _ h => exact h
  | retired _ _ hclosed =>
    rw [hopen] at hclosed
    cases hclosed

theorem waiting {plan : SendPlan} {rest : List SendPlan} (ha : a.Retiring id) (hlane : a.lane = plan :: rest) :
    a.entry.open? = true := by
  cases ha with
  | running ho h => exact ho
  | retired _ _ _ hidle =>
    rw [hidle] at hlane
    cases hlane

theorem closes {e : FlowEntry} {lane : List SendPlan} {story : List Notice}
    (hstory : ∀ n ∈ story, n.releases id = false) (h : Strand.Closes id ⟨e, lane, story⟩ b)
    (hgraceful : ∀ n ∈ b.story, n.graceful = true) : b.Retiring id := by
  cases h with
  | done => exact .retired e ⟨[], story, rfl, by simp, hstory⟩ (by simp [FlowEntry.open?, Flow.close]) rfl rfl
  | stuck => exact absurd (hgraceful _ List.mem_cons_self) (by simp [Notice.graceful])
  | broken => exact absurd (hgraceful _ List.mem_cons_self) (by simp [Notice.graceful])

theorem advanced_open {e : FlowEntry} (plan : SendPlan) (h : e.open? = true) : (e.advanced plan).open? = true := by
  unfold FlowEntry.advanced Flow.commitSend FlowEntry.open? at *
  dsimp only
  split
  · split
    · dsimp only
      split <;> simp
    · exact h
  · exact h

theorem turn (ha : a.Retiring id) (h : Turn cfg id a b) (hgraceful : ∀ n ∈ b.story, n.graceful = true) :
    b.Retiring id := by
  obtain ⟨new, hgrown⟩ := h.story
  have hbefore : ∀ n ∈ a.story, n.graceful = true := fun n hn => hgraceful n (hgrown ▸ List.mem_append_right _ hn)
  have hopen : a.Spared id → a.entry.open? = true := by
    rintro (h | h)
    · exact h
    · exact absurd h (not_excused_of_graceful hbefore)
  have hsendable : a.entry.sendable = true → a.entry.open? = true := by
    intro h
    have hstates : a.entry.flow.state = .established ∨ a.entry.flow.state = .namespaceFinReceived :=
      of_decide_eq_true h
    rcases hstates with h | h <;> simp [FlowEntry.open?, h]
  have hkept : ∀ {notice : Notice} {story : List Notice}, notice.releases id = false →
      (∀ n ∈ story, n.releases id = false) → ∀ n ∈ notice :: story, n.releases id = false := by
    intro notice story hnotice hstory n hn
    rcases List.mem_cons.mp hn with rfl | hn
    · exact hnotice
    · exact hstory n hn
  cases h with
  | idle => exact ha
  | synLost => exact ha.faintly (N := [_]) rfl (by simp [Notice.faint]) rfl rfl rfl
  | serviced now => exact ha.faintly (N := [_]) rfl (by simp [Notice.faint]) rfl rfl rfl
  | timeWait h =>
    have hstate : a.entry.open? = true := by simp [FlowEntry.open?, h]
    exact .running hstate (hkept rfl (ha.unreleased hstate))
  | touch f h =>
    refine ha.faintly (N := []) rfl (by simp) h.isOpen rfl ?_
    unfold FlowEntry.upstream
    rw [h.payloadSent, h.writeShutdown, h.pendingSocket]
  | replyConsumed count h => exact ha.faintly (N := []) rfl (by simp) rfl rfl rfl
  | built body hspared h => exact .running (hopen hspared) (hkept rfl (ha.unreleased (hopen hspared)))
  | planData spec payload hlane hstate =>
    exact .running (hsendable hstate) (hkept rfl (ha.unreleased (hsendable hstate)))
  | planFin hlane hstate => exact .running (hsendable hstate) (ha.unreleased (hsendable hstate))
  | commit plan rest now hlane hmatch =>
    exact .running (advanced_open plan (ha.waiting hlane)) (ha.unreleased (ha.waiting hlane))
  | commitMismatched plan rest hlane hmatch =>
    exact .running (advanced_open plan (ha.waiting hlane)) (hkept rfl (ha.unreleased (ha.waiting hlane)))
  | drop plan rest hlane => exact .running (ha.waiting hlane) (hkept rfl (ha.unreleased (ha.waiting hlane)))
  | flush f hspared h hrest =>
    exact .running (h.alike.isOpen.trans (hopen hspared)) (ha.unreleased (hopen hspared))
  | flushFin f hspared h hempty hshut =>
    exact .running (h.alike.isOpen.trans (hopen hspared)) (hkept rfl (ha.unreleased (hopen hspared)))
  | flushFinFailed f error hspared h =>
    exact .running (h.alike.isOpen.trans (hopen hspared)) (hkept rfl (ha.unreleased (hopen hspared)))
  | handled f g segment clamps N hspared hrst hf hg =>
    refine .running ?_ (segment_kept hg.kept (ha.unreleased (hopen hspared)))
    exact (hf.alike.trans hg.alike).isOpen.trans (FlowEntry.received_open hrst (hopen hspared))
  | lost f g segment clamps N hspared hrst hf hg =>
    refine .running ?_ (segment_kept hg.kept (ha.unreleased (hopen hspared)))
    exact (hf.alike.trans hg.alike).isOpen.trans (FlowEntry.received_open hrst (hopen hspared))
  | ackAborted f segment clamps count fault hspared hrst hf hfault =>
    refine .running (hf.alike.isOpen.trans (FlowEntry.received_open hrst (hopen hspared))) fun n hn => ?_
    simp only [List.cons_append, List.mem_cons, List.mem_append, List.mem_replicate] at hn
    rcases hn with rfl | ⟨-, rfl⟩ | rfl | hn
    · exact hfault.kept
    · rfl
    · rfl
    · exact ha.unreleased (hopen hspared) n hn
  | reset segment b hspared hrst h => exact closes (hkept rfl (ha.unreleased (hopen hspared))) h hgraceful
  | close b hspared h => exact closes (ha.unreleased (hopen hspared)) h hgraceful
  | activate bytesAcked busy body hspared hbusy hhandshake hbody =>
    exact .running rfl (hkept rfl (hkept rfl (ha.unreleased (hopen hspared))))
  | activateLost bytesAcked busy hspared hbusy hhandshake =>
    exact .running rfl (hkept rfl (hkept rfl (ha.unreleased (hopen hspared))))

end Strand.Retiring

theorem Lived.retiring {cfg : Config} {id : FlowId} {a : Strand} (h : Lived cfg id a)
    (hgraceful : ∀ n ∈ a.story, n.graceful = true) : a.Retiring id := by
  induction h with
  | born h => exact .born h
  | @turn a b ha hturn ih =>
    obtain ⟨N, hstory⟩ := hturn.story
    exact (ih fun n hn => hgraceful n (hstory ▸ List.mem_append_right _ hn)).turn hturn hgraceful

theorem graceful_story {id : FlowId} {journal : List Notice} (h : ∀ n ∈ journal, n.graceful = true) :
    ∀ n ∈ story id journal, n.graceful = true := fun n hn => h n (mem_story.mp hn).1

/-- A flow that left the table was closed before. -/
def Concluded (c : Core) : Prop :=
  ∀ id, c.flows.get id = none →
    (∀ n ∈ story id c.journal, n.faint = true) ∨ ∃ e, ReleasedOnce id e (story id c.journal)

namespace Concluded

variable {cfg : Config} {c d : Core}

theorem act (h : Concluded c) (hc : Storied cfg c) (hact : Act cfg c d)
    (hgraceful : ∀ n ∈ c.journal, n.graceful = true) : Concluded d := by
  intro id hid
  cases hact.advance hc.base hc.known id with
  | turn e f hc hd => rw [hd] at hid; cases hid
  | born f key segment hd => rw [hd] at hid; cases hid
  | reaped e hget hd hdeferred hstory =>
    rw [hstory]
    cases (hc.lived id e hget).retiring (graceful_story hgraceful) with
    | running hopen h =>
      rcases hc.base.deferred id e hdeferred hget with hclosed | hexcused
      · exact absurd (hopen.symm.trans hclosed) (by simp)
      · exact absurd hexcused (not_excused_of_graceful hgraceful)
    | retired f honce => exact .inr ⟨f, honce⟩
  | away ghosts hget hd hghosts hstory =>
    have hfaint : ∀ n ∈ ghosts, n.faint = true := fun n hn => (hghosts n hn).faint hgraceful
    rw [hstory]
    rcases h id hget with hnone | ⟨f, honce⟩
    · exact .inl fun n hn => (List.mem_append.mp hn).elim (hfaint n) (hnone n)
    · exact .inr ⟨f, honce.append hfaint⟩

end Concluded

/-- Every flow has a key, and every open one is found under it. -/
def Listed (c : Core) : Prop :=
  ∀ id e, c.flows.get id = some e →
    ∃ key, e.key = some key ∧ (e.open? = true → c.byKey.find? key = some id)

namespace Listed

variable {cfg : Config} {c d : Core} {id : FlowId} {e f : FlowEntry}

theorem frame (hl : Listed c) (hflows : d.flows = c.flows) (hkeys : d.byKey = c.byKey) : Listed d := by
  intro other g hg
  rw [hflows] at hg
  rw [hkeys]
  exact hl other g hg

theorem of_put (hl : Listed c) (hget : c.flows.get id = some e) (hflows : d.flows = c.flows.modify id fun _ => f)
    (hkeys : d.byKey = c.byKey) (hkey : f.key = e.key) (hopen : f.open? = true → e.open? = true) : Listed d := by
  intro other g hg
  rw [hflows, FlowTable.get_modify] at hg
  rw [hkeys]
  split at hg
  · rename_i hother
    subst hother
    rw [hget] at hg
    cases hg
    obtain ⟨key, hk, hfound⟩ := hl other e hget
    exact ⟨key, hkey.trans hk, fun ho => hfound (hopen ho)⟩
  · exact hl other g hg

theorem closing (hl : Listed c) (hput : c.flows.get id = some e) {key : FlowKey} (hkey : e.key = some key)
    (hfound : c.byKey.find? key = some id) (h : Closing c id e d) (hfailed : Notice.closeFailed id ∉ d.journal) :
    Listed d := by
  cases h with
  | stuck => exact absurd List.mem_cons_self hfailed
  | broken sides h => exact absurd List.mem_cons_self hfailed
  | done sides h =>
    have hsame : sides.namespaceKey = key := by
      unfold FlowConstruction.activeSides at h
      unfold FlowEntry.key at hkey
      split at h
      · rw [h] at hkey
        exact Option.some.inj hkey
      · cases h
    intro other g hg
    change (((c.unregister id sides.namespaceKey e).flows.modify id _).deferRemove id).get other = some g at hg
    change ∃ key, g.key = some key ∧ (g.open? = true →
      (c.unregister id sides.namespaceKey e).byKey.find? key = some other)
    rw [FlowTable.get_deferRemove, Core.unregister_flows, FlowTable.get_modify] at hg
    rw [Core.unregister_byKey, hsame]
    split at hg
    · rename_i hother
      subst hother
      rw [hput] at hg
      cases hg
      exact ⟨key, hkey, fun ho => by simp [FlowEntry.open?, Flow.close] at ho⟩
    · rename_i hother
      obtain ⟨own, hown, hlisted⟩ := hl other g hg
      refine ⟨own, hown, fun ho => ?_⟩
      rw [KeyedMap.find?_erase, if_neg, hlisted ho]
      -- The key of the closed flow leads to that flow and no other.
      rintro rfl
      rw [hlisted ho] at hfound
      exact hother (Option.some.inj hfound)

theorem created (hl : Listed c) (hwf : c.flows.Wf) {key : FlowKey} {flows : FlowTable FlowEntry}
    (hkey : c.byKey.find? key = none) (hinsert : c.flows.insert e = (flows, .ok id)) (hfresh : Fresh key e)
    (hflows : d.flows = flows) (hkeys : d.byKey = c.byKey.insert key id) : Listed d := by
  rcases hwf.insert_cases e with hfull | ⟨flows', id', hinsert', -, -, -, hget, -⟩
  · rw [hfull] at hinsert
    cases hinsert
  rw [hinsert'] at hinsert
  cases hinsert
  intro other g hg
  rw [hflows, hget] at hg
  rw [hkeys]
  split at hg
  · rename_i hother
    cases hg
    exact ⟨key, hfresh.key_eq, fun _ => by rw [KeyedMap.find?_insert, if_pos rfl, hother]⟩
  · obtain ⟨own, hown, hlisted⟩ := hl other g hg
    refine ⟨own, hown, fun ho => ?_⟩
    rw [KeyedMap.find?_insert, if_neg, hlisted ho]
    rintro rfl
    rw [hlisted ho] at hkey
    cases hkey

theorem act (hl : Listed c) (hb : Base c) (h : Act cfg c d) (hgraceful : ∀ n ∈ d.journal, n.graceful = true) :
    Listed d := by
  obtain ⟨new, hgrown⟩ := h.journal
  have hbefore : ∀ n ∈ c.journal, n.graceful = true := fun n hn =>
    hgraceful n (hgrown ▸ List.mem_append_right _ hn)
  have hopen : ∀ {id : FlowId} {e : FlowEntry}, Spared c id → c.flows.get id = some e → e.open? = true := by
    rintro id e (⟨f, hf, ho⟩ | hexcused) hget
    · rw [hget] at hf
      cases hf
      exact ho
    · exact absurd hexcused (not_excused_of_graceful hbefore)
  have hfailed : ∀ id, Notice.closeFailed id ∉ d.journal := fun id hmem => by cases hgraceful _ hmem
  cases h with
  | engine | associations | mild | dialed | synLost | serviced | timeWait | built | enqueue | planFin | commitPlain |
    commitMissed | drop => exact hl.frame rfl rfl
  | touch id e f hget h => exact hl.of_put hget rfl rfl h.alike.key fun ho => h.alike.isOpen ▸ ho
  | replyConsumed id e count hget h => exact hl.of_put hget rfl rfl rfl fun ho => ho
  | planData id e spec payload frame hget => exact hl.of_put hget rfl rfl rfl fun ho => ho
  | commit queued rest hqueue id plan e now hid hplan hget hmatch =>
    have hspared := hb.planned queued (by rw [hqueue]; exact List.mem_cons_self) id hid (by rw [hplan]; rfl)
    exact hl.of_put hget rfl rfl rfl fun _ => hopen hspared hget
  | commitMismatched queued rest hqueue id plan e hid hplan hget hmatch =>
    have hspared := hb.planned queued (by rw [hqueue]; exact List.mem_cons_self) id hid (by rw [hplan]; rfl)
    exact hl.of_put hget rfl rfl rfl fun _ => hopen hspared hget
  | flush id e f hget hspared h hrest => exact hl.of_put hget rfl rfl h.alike.key fun ho => h.alike.isOpen ▸ ho
  | flushFin id e f hget hspared h hempty hshut =>
    exact hl.of_put hget rfl rfl h.alike.key fun ho => h.alike.isOpen ▸ ho
  | flushFinFailed id e f error hget hspared h => exact hl.of_put hget rfl rfl h.alike.key fun ho => h.alike.isOpen ▸ ho
  | handled id e f g segment clamps N hget hspared hrst hf hg =>
    exact hl.of_put hget rfl rfl (hf.alike.trans hg.alike).key fun _ => hopen hspared hget
  | lost id e f g segment clamps N hget hspared hrst hf hg =>
    exact hl.of_put hget rfl rfl (hf.alike.trans hg.alike).key fun _ => hopen hspared hget
  | ackAborted id e f segment clamps count fault hget hspared hrst hf hfault =>
    exact hl.of_put hget rfl rfl hf.alike.key fun _ => hopen hspared hget
  | activate id e bytesAcked frame body hget hspared => exact hl.of_put hget rfl rfl rfl fun _ => hopen hspared hget
  | activateLost id e bytesAcked dry hget hspared => exact hl.of_put hget rfl rfl rfl fun _ => hopen hspared hget
  | reset id e segment d hget hspared hrst h =>
    obtain ⟨key, hkey, hfound⟩ := hl id e hget
    have hput : Listed ((c.put id (e.received segment).1).log [.segment id e segment]) :=
      hl.of_put hget rfl rfl rfl fun _ => hopen hspared hget
    exact hput.closing (Core.put_get _ hget) hkey (hfound (hopen hspared hget)) h (hfailed id)
  | close id e d hget hspared h =>
    obtain ⟨key, hkey, hfound⟩ := hl id e hget
    exact hl.closing hget hkey (hfound (hopen hspared hget)) h (hfailed id)
  | create key e flows id hkey hinsert hfresh segment => exact hl.created hb.table hkey hinsert hfresh rfl rfl
  | reap =>
    intro other g hg
    change c.flows.flushDeferred.1.get other = some g at hg
    rw [FlowTable.get_flushDeferred] at hg
    split at hg
    · cases hg
    · exact hl other g hg

end Listed

structure Tidy (cfg : Config) (c : Core) : Prop where
  storied : Storied cfg c
  listed : (∀ n ∈ c.journal, n.graceful = true) → Listed c
  concluded : (∀ n ∈ c.journal, n.graceful = true) → Concluded c

namespace Tidy

variable {cfg : Config} {c d : Core} {id : FlowId} {e : FlowEntry}

theorem initial (cfg : Config) : Tidy cfg (Core.initial cfg) where
  storied := .initial cfg
  listed _ id e hget := by simp [Core.initial] at hget
  concluded _ id _ := .inl fun n hn => absurd (mem_story.mp hn).1 List.not_mem_nil

theorem tapAct (hc : Tidy cfg c) (h : TapAct cfg c d) : Tidy cfg d := by
  rcases h with h | ⟨refresh, rfl⟩
  · obtain ⟨N, hgrown⟩ := h.journal
    have hbefore : (∀ n ∈ d.journal, n.graceful = true) → ∀ n ∈ c.journal, n.graceful = true :=
      fun hgraceful n hn => hgraceful n (hgrown ▸ List.mem_append_right _ hn)
    exact ⟨hc.storied.act h, fun hgraceful => (hc.listed (hbefore hgraceful)).act hc.storied.base h hgraceful,
      fun hgraceful => (hc.concluded (hbefore hgraceful)).act hc.storied h (hbefore hgraceful)⟩
  · exact ⟨hc.storied.tapAct (.inr ⟨refresh, rfl⟩), fun hgraceful => (hc.listed hgraceful).frame rfl rfl,
      hc.concluded⟩

theorem lane_of_closed (hc : Tidy cfg c) (hgraceful : ∀ n ∈ c.journal, n.graceful = true)
    (hclosed : ∀ e, c.flows.get id = some e → e.open? = false) : lane id c.tapQueue = [] := by
  unfold lane
  rw [List.filterMap_eq_nil_iff]
  intro queued hq
  split
  · rename_i hid
    cases hplan : queued.plan with
    | none => rfl
    | some plan =>
      rcases hc.storied.base.planned queued hq id hid (by rw [hplan]; rfl) with ⟨e, hget, hopen⟩ | hexcused
      · rw [hclosed e hget] at hopen
        cases hopen
      · exact absurd hexcused (not_excused_of_graceful hgraceful)
  · rfl

end Tidy

namespace Reactor

/-- When every close goes through and no timer finds a closed flow with work due: the keys are
exactly those of the open flows, and what a flow has claimed is given back exactly once, when it is
closed; after that no segment is handled for it and no frame built or planned, and as long as it
is in the table nothing more of its stream goes to its socket and its queue stays as it was. -/
theorem flows_closed_once (cfg : Config) (s : Reactor) (hs : Reachable cfg s)
    (hgraceful : ∀ n ∈ s.journal, n.graceful = true) :
    (∀ key id, s.byKey.find? key = some id ↔
      ∃ e, s.flows.get id = some e ∧ e.open? = true ∧ e.key = some key) ∧
    ∀ id, Notice.created id ∈ s.journal →
      (∃ e, s.flows.get id = some e ∧ e.open? = true ∧ ∀ n ∈ story id s.journal, n.releases id = false) ∨
      ∃ f, ReleasedOnce id f (story id s.journal) ∧ lane id s.tapQueue = [] ∧
        ∀ e, s.flows.get id = some e → e.open? = false ∧ e.upstream = f.upstream := by
  have htidy : Tidy cfg (core s) :=
    Path.invariant (P := Tidy cfg) (fun _ _ hs hc => hc.tapAct hs) (hs.path cfg).1 (.initial cfg)
  refine ⟨fun key id => ⟨fun hfound => ?_, ?_⟩, fun id hcreated => ?_⟩
  · rcases htidy.storied.base.keyed key id hfound with h | hexcused
    · exact h
    · exact absurd hexcused (not_excused_of_graceful hgraceful)
  · rintro ⟨e, hget, hopen, hkey⟩
    obtain ⟨own, hown, hlisted⟩ := htidy.listed hgraceful id e hget
    rw [hkey] at hown
    cases hown
    exact hlisted hopen
  · cases hget : s.flows.get id with
    | some e =>
      cases (htidy.storied.lived id e hget).retiring (graceful_story hgraceful) with
      | running hopen h => exact .inl ⟨e, rfl, hopen, h⟩
      | retired f honce hclosed hlane hupstream =>
        refine .inr ⟨f, honce, hlane, fun g hg => ?_⟩
        cases hg
        exact ⟨hclosed, hupstream⟩
    | none =>
      have hclosed : ∀ e, s.flows.get id = some e → e.open? = false := fun e he => by
        rw [hget] at he
        cases he
      rcases htidy.concluded hgraceful id hget with hghosts | ⟨f, honce⟩
      · cases hghosts _ (mem_story.mpr ⟨hcreated, rfl⟩)
      · exact .inr ⟨f, honce, htidy.lane_of_closed hgraceful hclosed, fun e he => (by cases he)⟩

/-- A connection is reset while a byte waits for its socket; the socket becomes writable before the
flow leaves the table, and another connection comes under the same key. -/
def resetScript : List (Event × Kernel) :=
  [(.tap readable, Kernel.quiet.reads (segmentTo { syn := true } 7)),
    (.tap readable, { Kernel.quiet.reads (payloadTo 8 [1, 2]) with
      send := Stream'.cons (.ok (.part 1)) Kernel.quiet.send }),
    (.tap readable, Kernel.quiet.reads (segmentTo { rst := true } 10)),
    (.socket ⟨0, 1⟩ writable, Kernel.quiet),
    (.tap readable, Kernel.quiet.reads (segmentTo { syn := true } 7))]

def isCreation (id : FlowId) : Notice → Bool
  | .created own => own = id
  | _ => false

theorem flows_closed_once_reset :
    ∃ s e f, Reachable (.sample (.direct false)) s ∧ s.flows.get ⟨0, 1⟩ = some e ∧ e.open? = false ∧
      e.upstreamBytes = [1, 2] ∧ e.socket.payloadSent = [1] ∧ e.upstream = f.upstream ∧
      ReleasedOnce ⟨0, 1⟩ f (story ⟨0, 1⟩ s.journal) ∧ ∃ key, s.byKey.find? key = some ⟨1, 1⟩ := by
  have hrun : (replay (.sample (.direct false)) resetScript
      (Reactor.new (.sample (.direct false)) .quiet {} 0 0)).map (fun s =>
        ((s.flows.get ⟨0, 1⟩).map fun e => (e.open?, e.upstreamBytes, e.socket.payloadSent),
          (s.flows.get ⟨1, 1⟩).any fun e => e.open? && e.key.isSome,
          s.journal.any (isCreation ⟨0, 1⟩), s.journal.all Notice.graceful)) =
      some (some (false, [1, 2], [1]), true, true, true) := by decide +kernel
  obtain ⟨s, hs, hfields⟩ := Option.map_eq_some_iff.mp hrun
  simp only [Prod.mk.injEq, List.all_eq_true, List.any_eq_true, Option.any_eq_true, Bool.and_eq_true] at hfields
  obtain ⟨hfirst, ⟨g, hother, hopen, hkeyed⟩, ⟨n, hn, hcreation⟩, hgraceful⟩ := hfields
  have hcreated : Notice.created ⟨0, 1⟩ ∈ s.journal := by
    unfold isCreation at hcreation
    split at hcreation
    · rw [of_decide_eq_true hcreation] at hn
      exact hn
    · cases hcreation
  obtain ⟨e, hget, hvalues⟩ := Option.map_eq_some_iff.mp hfirst
  simp only [Prod.mk.injEq] at hvalues
  obtain ⟨hclosed, hbytes, hsent⟩ := hvalues
  obtain ⟨key, hkey⟩ := Option.isSome_iff_exists.mp hkeyed
  have hreachable := reachable_of_replay _ resetScript (.start .quiet {} 0 0) hs
  obtain ⟨hkeys, honce⟩ := flows_closed_once _ s hreachable hgraceful
  have hlisted := (hkeys key ⟨1, 1⟩).mpr ⟨g, hother, hopen, hkey⟩
  rcases honce ⟨0, 1⟩ hcreated with ⟨f, hf, hlive, -⟩ | ⟨f, hreleased, -, hafter⟩
  · rw [hget] at hf
    cases hf
    rw [hclosed] at hlive
    cases hlive
  · exact ⟨s, e, f, hreachable, hget, hclosed, hbytes, hsent, (hafter e hget).2, hreleased, key, hlisted⟩

end Reactor

end Yayatht
