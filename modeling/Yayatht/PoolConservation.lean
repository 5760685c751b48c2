import Mathlib.Data.List.Perm.Basic
import Mathlib.Data.List.Nodup
import Yayatht.FlowCustody
import Yayatht.RunSteps

set_option autoImplicit false

/-!
# Conservation of frames

Every frame of a pool is free, queued for the TAP or lost. A frame is lost in one
place only: the peek offset of a socket cannot be set after the frame for its
payload was taken.
-/
namespace Yayatht
open EffectLogic

namespace BufferPool

/-- The free buffers and the ones that are out make up the pool. -/
structure Kept (p : BufferPool) (count : ℕ) (out : List ℕ) : Prop where
  perm : (p.free ++ out).Perm (List.range count)
  size : p.buffers.length = count
  home : ∀ i, p.buffers[i]? = some true ↔ i ∈ p.free
  sound : p.faulted = false

namespace Kept

variable {p : BufferPool} {count : ℕ} {out : List ℕ}

theorem new (count : ℕ) : Kept (BufferPool.new count) count [] where
  perm := by
    rw [List.append_nil]
    exact List.Perm.refl _
  size := List.length_replicate
  home i := by simp [BufferPool.new, List.getElem?_replicate]
  sound := rfl

theorem nodup (h : Kept p count out) : (p.free ++ out).Nodup := h.perm.nodup_iff.mpr List.nodup_range

theorem rearrange {out' : List ℕ} (h : Kept p count out) (hperm : out.Perm out') : Kept p count out' :=
  ⟨(hperm.append_left p.free).symm.trans h.perm, h.size, h.home, h.sound⟩

theorem total (h : Kept p count out) : p.available + out.length = count := by
  have hlength := h.perm.length_eq
  rw [List.length_append, List.length_range] at hlength
  exact hlength

theorem index_lt (h : Kept p count out) {i : ℕ} (hi : i ∈ p.free ++ out) : i < p.buffers.length := by
  rw [h.size]
  exact List.mem_range.mp (h.perm.mem_iff.mp hi)

theorem away (h : Kept p count out) {i : ℕ} (hi : i ∈ out) : p.buffers[i]? = some false := by
  have hlt := h.index_lt (List.mem_append_right p.free hi)
  have hfree : i ∉ p.free := fun hf => (List.disjoint_of_nodup_append h.nodup) hf hi
  have hnot := mt (h.home i).mp hfree
  rw [List.getElem?_eq_getElem hlt] at hnot ⊢
  cases hflag : p.buffers[i] with
  | true => exact absurd (congrArg some hflag) hnot
  | false => rfl

theorem acquired (h : Kept p count out) {index : ℕ} (ha : p.acquire.2 = some index) :
    Kept p.acquire.1 count (index :: out) := by
  unfold acquire at ha ⊢
  cases hfree : p.free with
  | nil =>
    rw [hfree] at ha
    cases ha
  | cons head rest =>
    have hhome : p.buffers[head]? = some true := (h.home head).mpr (by rw [hfree]; exact List.mem_cons_self)
    rw [hfree] at ha
    dsimp only at ha ⊢
    rw [if_pos hhome] at ha ⊢
    cases ha
    have hperm := h.perm
    have hnodup := h.nodup
    rw [hfree] at hperm hnodup
    refine ⟨List.perm_middle.trans hperm, ?_, fun i => ?_, h.sound⟩
    · dsimp only
      rw [List.length_set]
      exact h.size
    · dsimp only
      have hhead : index ∉ rest := fun hm =>
        (List.nodup_cons.mp hnodup).1 (List.mem_append_left out hm)
      have hi := h.home i
      rw [hfree, List.mem_cons] at hi
      rw [List.getElem?_set]
      by_cases he : index = i
      · subst he
        simp [hhead, h.index_lt (i := index) (by rw [hfree]; exact List.mem_cons_self)]
      · rw [if_neg he, hi]
        simp [Ne.symm he]

theorem dry (h : Kept p count out) (ha : p.acquire.2 = none) : Kept p.acquire.1 count out := by
  unfold acquire at ha ⊢
  cases hfree : p.free with
  | nil => exact h
  | cons head rest =>
    have hhome : p.buffers[head]? = some true := (h.home head).mpr (by rw [hfree]; exact List.mem_cons_self)
    rw [hfree] at ha
    dsimp only at ha
    rw [if_pos hhome] at ha
    cases ha

theorem released {index : ℕ} (h : Kept p count (index :: out)) : Kept (p.release index) count out where
  perm := List.perm_middle.symm.trans h.perm
  size := by
    unfold release
    rw [List.length_set]
    exact h.size
  home i := by
    have hi := h.home i
    have hlt := h.index_lt (i := index) (List.mem_append_right p.free List.mem_cons_self)
    unfold release
    dsimp only
    rw [List.getElem?_set, List.mem_cons]
    by_cases he : index = i
    · subst he
      simp [hlt]
    · rw [if_neg he, hi]
      simp [Ne.symm he]
  sound := by
    unfold release
    rw [h.sound, h.away List.mem_cons_self]
    rfl

end Kept

end BufferPool

def Notice.lost? : Notice → Option FrameSlot
  | .frameLost slot => some slot
  | _ => none

/-- The frames nobody will give back. -/
def lostSlots (journal : List Notice) : List FrameSlot := journal.filterMap Notice.lost?

def FrameTier.indices (tier : FrameTier) (slots : List FrameSlot) : List ℕ :=
  slots.filterMap fun slot => if slot.tier = tier then some slot.poolIndex else none

namespace Reactor

def pool (s : Reactor) : FrameTier → BufferPool
  | .mtu => s.framePool
  | .gso => s.gsoPool

def queuedSlots (s : Reactor) : List FrameSlot := s.tapQueue.map (·.frame.slot)

end Reactor

def Config.poolFrames (cfg : Config) : FrameTier → ℕ
  | .mtu => cfg.framePoolFrames
  | .gso => cfg.gsoPoolFrames

theorem Config.framePoolFrames_pos (cfg : Config) : 0 < cfg.framePoolFrames := by
  unfold Config.framePoolFrames
  omega

/-- No release found its frame in place, and the TAP runs dry only for want of lost frames. -/
structure Sound (s : Reactor) : Prop where
  released : ∀ tier, (s.pool tier).faulted = false
  starved : s.tapStarved = true → FrameTier.indices .mtu (lostSlots s.journal) ≠ []

/-- Every frame is free, held, queued or lost. -/
structure Whole (cfg : Config) (held : List FrameSlot) (s : Reactor) : Prop where
  kept : ∀ tier, (s.pool tier).Kept (cfg.poolFrames tier)
    (tier.indices (held ++ (s.queuedSlots ++ lostSlots s.journal)))
  starved : s.tapStarved = true → FrameTier.indices .mtu (lostSlots s.journal) ≠ []

namespace Whole

variable {cfg : Config} {held held' : List FrameSlot} {s t : Reactor}

theorem sound (h : Whole cfg held s) : Sound s := ⟨fun tier => (h.kept tier).sound, h.starved⟩

theorem indices_perm (tier : FrameTier) {slots slots' : List FrameSlot} (h : slots.Perm slots') :
    (tier.indices slots).Perm (tier.indices slots') := h.filterMap _

theorem rearranged (h : Whole cfg held s) (hpool : ∀ tier, t.pool tier = s.pool tier)
    (hstarved : t.tapStarved = s.tapStarved) (hlost : lostSlots s.journal ⊆ lostSlots t.journal)
    (hperm : (held ++ (s.queuedSlots ++ lostSlots s.journal)).Perm
      (held' ++ (t.queuedSlots ++ lostSlots t.journal))) : Whole cfg held' t where
  kept tier := by
    rw [hpool]
    exact (h.kept tier).rearrange (indices_perm tier hperm)
  starved hdry := by
    rw [hstarved] at hdry
    obtain ⟨i, hi⟩ := List.exists_mem_of_ne_nil _ (h.starved hdry)
    unfold FrameTier.indices at hi
    obtain ⟨slot, hm, hslot⟩ := List.mem_filterMap.mp hi
    exact List.ne_nil_of_mem (List.mem_filterMap.mpr ⟨slot, hlost hm, hslot⟩)

theorem repooled (h : Whole cfg held s)
    (hpool : ∀ tier, (t.pool tier).Kept (cfg.poolFrames tier)
      (tier.indices (held' ++ (s.queuedSlots ++ lostSlots s.journal))))
    (hstarved : t.tapStarved = s.tapStarved) (hqueue : t.tapQueue = s.tapQueue)
    (hjournal : t.journal = s.journal) : Whole cfg held' t where
  kept tier := by
    unfold Reactor.queuedSlots
    rw [hqueue, hjournal]
    exact hpool tier
  starved hdry := by
    rw [hstarved] at hdry
    rw [hjournal]
    exact h.starved hdry

theorem noted (h : Whole cfg held s) (n : Notice) (hn : n.lost? = none) :
    Whole cfg held { s with journal := n :: s.journal } := by
  have hlost : lostSlots (n :: s.journal) = lostSlots s.journal := List.filterMap_cons_none hn
  refine h.rearranged (fun _ => rfl) rfl ?_ ?_
  · exact fun _ hm => hlost ▸ hm
  · change List.Perm _ (held ++ (s.queuedSlots ++ lostSlots (n :: s.journal)))
    rw [hlost]

theorem hidden (h : Whole cfg held s) (hframes : frames t = frames s) : Whole cfg held t := by
  simp only [frames, Prod.mk.injEq] at hframes
  obtain ⟨hmtu, hgso, hstarved, hqueue, hjournal⟩ := hframes
  refine h.repooled (fun tier => ?_) hstarved hqueue hjournal
  have hkept := h.kept tier
  cases tier with
  | mtu =>
    change t.framePool.Kept _ _
    rw [hmtu]
    exact hkept
  | gso =>
    change t.gsoPool.Kept _ _
    rw [hgso]
    exact hkept

/-- A TAP with neither free nor queued frames has lost them all. -/
theorem starving (h : Whole cfg [] s) (hdry : s.framePool.available = 0) (hqueue : s.tapQueue = []) :
    Whole cfg [] { s with tapStarved := true } where
  kept := h.kept
  starved _ hlost := by
    have htotal := (h.kept .mtu).total
    have hpos := cfg.framePoolFrames_pos
    change s.framePool.available + _ = cfg.framePoolFrames at htotal
    unfold Reactor.queuedSlots at htotal
    rw [hqueue, hdry] at htotal
    change 0 + (FrameTier.indices .mtu (lostSlots s.journal)).length = _ at htotal
    rw [show FrameTier.indices .mtu (lostSlots s.journal) = [] from hlost] at htotal
    change 0 = _ at htotal
    omega

end Whole

theorem FrameTier.indices_self (slot : FrameSlot) (slots : List FrameSlot) :
    slot.tier.indices (slot :: slots) = slot.poolIndex :: slot.tier.indices slots :=
  List.filterMap_cons_some (if_pos rfl)

theorem FrameTier.indices_other {tier : FrameTier} {slot : FrameSlot} (h : slot.tier ≠ tier)
    (slots : List FrameSlot) : tier.indices (slot :: slots) = tier.indices slots :=
  List.filterMap_cons_none (if_neg h)

/-- A failure of a TAP frame's handler keeps the frames together, unless it is a panic. -/
def Absorbed : Error → Prop
  | .panic _ => False
  | _ => True

/-- What a failure leaves behind: a sound state, and a whole one after an error in `F`. -/
def Left (cfg : Config) (F : Error → Prop) (e : Error) (s : Reactor) : Prop :=
  Sound s ∧ (F e → Whole cfg [] s)

theorem Notice.Ordinary.lost? {n : Notice} (h : n.Ordinary) : n.lost? = none := by
  cases n with
  | frameLost => exact h.elim
  | _ => rfl

namespace FrameSlot

variable (slot : FrameSlot) (held queue lost : List FrameSlot)

theorem perm_push : (slot :: held ++ (queue ++ lost)).Perm (held ++ (queue ++ [slot] ++ lost)) := by
  refine List.perm_iff_count.mpr fun a => ?_
  simp only [List.count_append, List.count_cons, List.count_nil]
  omega

theorem perm_lose : (slot :: held ++ (queue ++ lost)).Perm (held ++ (queue ++ slot :: lost)) := by
  refine List.perm_iff_count.mpr fun a => ?_
  simp only [List.count_append, List.count_cons]
  omega

theorem perm_purge (id : FlowId) (frames : List QueuedFrame) :
    (held ++ (frames.map (·.frame.slot) ++ lost)).Perm
      ((frames.filter fun queued => queued.flow = some id).map (·.frame.slot) ++ held ++
        ((frames.filter fun queued => queued.flow ≠ some id).map (·.frame.slot) ++ lost)) := by
  have hsplit := (List.filter_append_perm (fun queued : QueuedFrame => queued.flow = some id) frames).map
    (·.frame.slot)
  simp only [← decide_not, List.map_append] at hsplit
  refine List.perm_iff_count.mpr fun a => ?_
  have hcount := hsplit.count_eq a
  simp only [List.count_append, ne_eq] at hcount ⊢
  omega

end FrameSlot

/-- The pools, the queue and the lost frames stay whole. -/
theorem custody_whole (cfg : Config) (F : Error → Prop) : Custody (Whole cfg) (Left cfg F) where
  hidden h hframes := h.hidden hframes
  noted n hn h := h.noted n hn.lost?
  acquired {held s index} ha h := by
    refine h.repooled (fun tier => ?_) rfl rfl rfl
    cases tier with
    | mtu =>
      rw [List.cons_append, FrameTier.indices_self ⟨.mtu, index⟩]
      exact (h.kept .mtu).acquired ha
    | gso =>
      rw [List.cons_append, FrameTier.indices_other (by simp)]
      exact h.kept .gso
  dry {held s} ha h := by
    refine h.repooled (fun tier => ?_) rfl rfl rfl
    cases tier with
    | mtu => exact (h.kept .mtu).dry ha
    | gso => exact h.kept .gso
  acquiredGso {held s index} ha h := by
    refine h.repooled (fun tier => ?_) rfl rfl rfl
    cases tier with
    | mtu =>
      rw [List.cons_append, FrameTier.indices_other (by simp)]
      exact h.kept .mtu
    | gso =>
      rw [List.cons_append, FrameTier.indices_self ⟨.gso, index⟩]
      exact (h.kept .gso).acquired ha
  dryGso {held s} ha h := by
    refine h.repooled (fun tier => ?_) rfl rfl rfl
    cases tier with
    | mtu => exact h.kept .mtu
    | gso => exact (h.kept .gso).dry ha
  released {held s} slot h := by
    have hself := h.kept slot.tier
    rw [List.cons_append, FrameTier.indices_self] at hself
    have hother : ∀ tier, slot.tier ≠ tier → (s.pool tier).Kept (cfg.poolFrames tier)
        (tier.indices (held ++ (s.queuedSlots ++ lostSlots s.journal))) := by
      intro tier hne
      rw [← FrameTier.indices_other hne]
      exact h.kept tier
    obtain ⟨tier, index⟩ := slot
    cases tier with
    | mtu =>
      refine Ends.modify (h.repooled (fun tier => ?_) rfl rfl rfl)
      cases tier with
      | mtu => exact hself.released
      | gso => exact hother .gso (by simp)
    | gso =>
      refine Ends.modify (h.repooled (fun tier => ?_) rfl rfl rfl)
      cases tier with
      | mtu => exact hother .mtu (by simp)
      | gso => exact hself.released
  pushed {held s queued} h := by
    refine h.rearranged (fun tier => by cases tier <;> rfl) rfl (fun _ hm => hm) ?_
    unfold Reactor.queuedSlots
    rw [List.map_append]
    exact FrameSlot.perm_push _ held _ _
  popped {held s queued rest} hqueue h := by
    refine h.rearranged (fun tier => by cases tier <;> rfl) rfl (fun _ hm => hm) ?_
    unfold Reactor.queuedSlots
    rw [hqueue]
    exact List.perm_middle
  purged {held s} id h := by
    refine h.rearranged (fun tier => by cases tier <;> rfl) rfl (fun _ hm => hm) ?_
    exact FrameSlot.perm_purge held _ id s.tapQueue
  lost {held s slot} h := by
    refine h.rearranged (fun tier => by cases tier <;> rfl) rfl (fun _ hm => List.mem_cons_of_mem _ hm) ?_
    exact FrameSlot.perm_lose slot held _ _
  starved hdry hqueue h := h.starving hdry hqueue
  failed e h := ⟨h.sound, fun _ => h⟩
  marked {e s} n hn h := by
    refine ⟨⟨h.1.released, fun hdry => ?_⟩, fun he => (h.2 he).noted n hn.lost?⟩
    rw [show lostSlots (n :: s.journal) = lostSlots s.journal from List.filterMap_cons_none hn.lost?]
    exact h.1.starved hdry

theorem panicky_whole (cfg : Config) : Panicky (Whole cfg) (Left cfg Absorbed) := fun _ _ _ h =>
  ⟨h.sound, fun hf => hf.elim⟩

theorem wasteful_whole (cfg : Config) : Wasteful (Whole cfg) (Left cfg fun _ => False) := fun _ _ _ h =>
  ⟨h.sound, fun hf => hf.elim⟩

/-- The frames stay together from one state to the other. -/
def Together (cfg : Config) (s t : Reactor) : Prop := Whole cfg [] s → Whole cfg [] t

instance (cfg : Config) : IsPreorder Reactor (Together cfg) where
  refl _ h := h
  trans _ _ _ h h' hs := h' (h hs)

theorem Keeps.together {cfg : Config} {α : Type} {m : Io α} {s : Reactor}
    (h : Keeps (Whole cfg []) (Left cfg fun _ => True) m) : Tracks (Together cfg) (fun _ => True) m s := by
  by_cases hs : Whole cfg [] s
  · exact Ends.mono (h s hs) (fun _ _ ht _ => ht) fun _ _ ht => ⟨fun _ => ht.2 trivial, trivial⟩
  · exact Ends.mono (Ends.self m s) (fun _ _ _ hw => absurd hw hs) fun _ _ _ => ⟨fun hw => absurd hw hs, trivial⟩

theorem Tracks.keeps {cfg : Config} {α : Type} {m : Io α} (F : Error → Prop)
    (h : ∀ s, Tracks (Together cfg) (fun _ => True) m s) : Keeps (Whole cfg []) (Left cfg F) m := fun s hs =>
  Ends.mono (h s) (fun _ _ ht => ht hs) fun _ _ ht => ⟨(ht.1 hs).sound, fun _ => ht.1 hs⟩

namespace Reactor

variable (cfg : Config)

theorem tolerant_together : Tolerant cfg (fun _ _ _ => True) (fun _ => True) (Together cfg) where
  hidden s t hcore hpools _ h := by
    refine h.hidden ?_
    simp only [pools, Prod.mk.injEq] at hpools
    obtain ⟨hmtu, hgso, hstarved⟩ := hpools
    have hqueue : t.tapQueue = s.tapQueue := congrArg Core.tapQueue hcore
    have hjournal : t.journal = s.journal := congrArg Core.journal hcore
    unfold frames
    rw [hmtu, hgso, hstarved, hqueue, hjournal]
  engine s u _ h := h.hidden rfl
  associations s u _ h := h.hidden rfl
  dialed s transport peer _ h := h.noted _ rfl
  replied s handshake response h := h.noted _ rfl
  errors _ _ _ := trivial
  fits _ _ _ _ := trivial
  reply client gateway payload s _ := Keeps.together ((custody_whole cfg _).queueUdpFrame client gateway payload)
  icmp key payload originalLen error s :=
    Keeps.together ((custody_whole cfg _).queueUdpIcmpFor key payload originalLen error)

/-- A frame of the namespace may fail, but takes no frame of the pools with it. -/
theorem handleFrame_whole (frame : TapFrame) :
    Keeps (Whole cfg []) (Left cfg Absorbed) (handleFrame cfg frame) := by
  have hI := custody_whole cfg Absorbed
  have hreply : ∀ (body : FrameBody) (len : ℕ), Keeps (Whole cfg []) (Left cfg Absorbed)
      (acquireFrame >>= fun slot => queueTap cfg none ⟨slot, body, len⟩ none) := fun body len s h =>
    Ends.bind (hI.acquireFrame h) fun slot t ht => hI.queueTap ht.1 (.inl commits_none)
  have htcp : ∀ key segment, Keeps (Whole cfg []) (Left cfg Absorbed) (handleTcp cfg key segment) :=
    fun key segment => hI.handleTcp (panicky_whole cfg) key segment fun _ _ _ h => h.noted _ rfl
  unfold handleFrame
  cases frame with
  | malformed error => exact hI.throw error
  | ignored => exact Keeps.pure ()
  | arpRequest target =>
    dsimp only [handleArp]
    split
    · exact hreply _ _
    · exact Keeps.pure ()
  | neighborSolicitation target source =>
    dsimp only [handleNeighborSolicitation]
    split
    · exact hreply _ _
    · exact Keeps.pure ()
  | tcpV4 source destination segment => exact htcp _ segment
  | tcpV6 source destination segment => exact htcp _ segment
  | udpV4 source destination sourcePort destinationPort payload =>
    exact Tracks.keeps _ ((tolerant_together cfg).handleUdp _ payload)
  | udpV6 source destination sourcePort destinationPort payload =>
    exact Tracks.keeps _ ((tolerant_together cfg).handleUdp _ payload)

theorem absorb_whole {m : Io Unit} (h : Keeps (Whole cfg []) (Left cfg Absorbed) m) :
    Keeps (Whole cfg []) (Left cfg fun _ => False) (absorb m) := by
  intro s hs
  refine Ends.tryCatch (h s hs) ?_
  rintro error t ⟨hsound, hwhole⟩
  cases error with
  | panic text => exact Ends.throw ⟨hsound, fun hf => hf.elim⟩
  | io x => exact Ends.modify ((hwhole trivial).hidden rfl)
  | packet x => exact Ends.modify ((hwhole trivial).hidden rfl)
  | invariant text => exact Ends.modify ((hwhole trivial).hidden rfl)

theorem readTap_whole (budget : ℕ) :
    Keeps (Whole cfg []) (Left cfg fun _ => False) (readTap cfg budget) := by
  have hI := custody_whole cfg fun _ => False
  induction budget with
  | zero => exact Keeps.pure ()
  | succ budget ih =>
    unfold readTap
    refine Keeps.bind Custody.framesAvailable fun available => ?_
    split
    · exact Keeps.bind hI.noteFramePoolExhaustion fun _ => hI.updateTapInterest
    refine Keeps.bind (hI.ask _ _) fun answer => ?_
    split
    · exact hI.throw _
    · refine Keeps.bind (hI.touch fun _ => rfl) fun _ => ?_
      exact Keeps.bind (absorb_whole cfg (handleFrame_whole cfg _)) fun _ => ih
    · exact Keeps.pure ()
    · exact hI.throw _

theorem shutdownFlows_whole : Keeps (Whole cfg []) (Left cfg fun _ => False) (shutdownFlows cfg) := by
  have hI := custody_whole cfg fun _ => False
  refine Keeps.get_bind fun s h => ?_
  split
  · refine Ends.bind (hI.closeFlows (wasteful_whole cfg).panicky _ s h) fun _ t ht => ?_
    refine Keeps.get_bind (fun u hu => ?_) t ht
    refine Ends.bind (Tracks.keeps _ ((tolerant_together cfg).closeUdpFlows _) u hu) fun _ v hv => ?_
    exact Keeps.get_bind (fun w hw => Tracks.keeps _ ((tolerant_together cfg).removeEach _) w hw) v hv
  · exact Ends.pure h

/-- Handling an event keeps the frames together, or fails in a sound state. -/
theorem handle_whole (event : Event) : Keeps (Whole cfg []) (Left cfg fun _ => False) (handle cfg event) := by
  have hI := custody_whole cfg fun _ => False
  have hW := wasteful_whole cfg
  have hP := hW.panicky
  have hT := tolerant_together cfg
  cases event with
  | tap events =>
    have hflush : Keeps (Whole cfg []) (Left cfg fun _ => False)
        (if has events writable then flushTapQueue else pure ()) := by
      split
      · exact hI.flushTapQueue hW
      · exact Keeps.pure ()
    have hread : Keeps (Whole cfg []) (Left cfg fun _ => False) (handleTap cfg) :=
      Keeps.bind (readTap_whole cfg _) fun _ => hI.flushAckRefresh hP
    unfold handle
    exact Keeps.when_bind hread hflush
  | timer =>
    refine Keeps.bind (hI.asked _ _) fun _ => Keeps.bind (hI.ask _ _) fun now => ?_
    refine Keeps.bind (Tracks.keeps _ (hT.handleDnsTimers now)) fun _ => ?_
    exact Keeps.bind (Tracks.keeps _ (hT.handleUdpTimers now)) fun _ => hI.handleFlowTimers hP now
  | control =>
    refine Keeps.bind (hI.ask _ _) fun answer => ?_
    split
    · exact hI.touch fun _ => rfl
    · exact Keeps.pure ()
    · exact Keeps.pure ()
    · exact Keeps.pure ()
    · exact hI.touch fun _ => rfl
    · exact hI.throw _
  | dnsUpstream events => exact Tracks.keeps _ (hT.handleDnsUpstream events)
  | socket id events => exact hI.handleSocket hW id events
  | udpSocket id events => exact Tracks.keeps _ (hT.handleUdpSocket id events)
  | socksControl id events => exact Tracks.keeps _ (hT.handleSocksControl id events)
  | socksRelay id events => exact Tracks.keeps _ fun s => hT.handleSocksRelay id events s fun _ _ _ => trivial
  | endOfBatch =>
    refine Keeps.bind (Tracks.keeps _ hT.activateSocksAssociations) fun _ => ?_
    refine Keeps.bind (hI.applyPendingPressure hP) fun _ => ?_
    exact Keeps.bind (hI.touch fun _ => rfl) fun _ => shutdownFlows_whole cfg

variable {cfg}

theorem Reachable.whole {s : Reactor} (h : Reachable cfg s) : Whole cfg [] s := by
  induction h with
  | start kernel test queryTimeout now =>
    refine ⟨fun tier => ?_, nofun⟩
    cases tier with
    | mtu => exact BufferPool.Kept.new cfg.framePoolFrames
    | gso => exact BufferPool.Kept.new cfg.gsoPoolFrames
  | @step s t event answers _ ho ih =>
    have hends := handle_whole cfg event { s with kernel := answers } (ih.hidden rfl)
    exact Ends.ok (Q := fun _ t => Whole cfg [] t) hends ho

theorem Visited.sound {s : Reactor} (h : Visited cfg s) : Sound s := by
  cases h with
  | start kernel test queryTimeout now => exact (Reachable.start kernel test queryTimeout now).whole.sound
  | @step s event answers hs =>
    refine Ends.final (P := Sound) (Ends.mono (handle_whole cfg event { s with kernel := answers }
      (hs.whole.hidden rfl)) ?_ ?_)
    · exact fun _ _ ht => ht.sound
    · exact fun _ _ ht => ht.1

end Reactor

theorem FrameTier.indices_append (tier : FrameTier) (slots slots' : List FrameSlot) :
    tier.indices (slots ++ slots') = tier.indices slots ++ tier.indices slots' := List.filterMap_append

theorem FrameTier.eq_nil_of_indices {slots : List FrameSlot} (h : ∀ tier : FrameTier, tier.indices slots = []) :
    slots = [] := by
  cases slots with
  | nil => rfl
  | cons slot rest =>
    have hslot := h slot.tier
    rw [FrameTier.indices_self] at hslot
    cases hslot

/-- The free and the queued frames of each tier make up its pool, and nothing went wrong with them. -/
structure Conserved (cfg : Config) (s : Reactor) : Prop where
  count : ∀ tier : FrameTier,
    (s.pool tier).available + (tier.indices s.queuedSlots).length = cfg.poolFrames tier
  distinct : ∀ tier : FrameTier, (tier.indices s.queuedSlots).Nodup
  apart : ∀ tier : FrameTier, ∀ i ∈ tier.indices s.queuedSlots, i ∉ (s.pool tier).free
  released : ∀ tier : FrameTier, (s.pool tier).faulted = false
  armed : s.tapStarved = false

namespace Whole

variable {cfg : Config} {s : Reactor}

theorem conserved (h : Whole cfg [] s) (hlost : lostSlots s.journal = []) : Conserved cfg s := by
  have hkept : ∀ tier : FrameTier,
      (s.pool tier).Kept (cfg.poolFrames tier) (tier.indices s.queuedSlots) := by
    intro tier
    have hkept := h.kept tier
    rw [hlost, List.append_nil, List.nil_append] at hkept
    exact hkept
  refine ⟨fun tier => (hkept tier).total, fun tier => ?_, fun tier i hi hfree => ?_, h.sound.released, ?_⟩
  · exact (hkept tier).nodup.of_append_right
  · exact (List.disjoint_of_nodup_append (hkept tier).nodup) hfree hi
  · by_contra harmed
    refine h.starved (Bool.eq_true_of_not_eq_false harmed) ?_
    rw [hlost]
    rfl

theorem lost_of_conserved (h : Whole cfg [] s) (hc : Conserved cfg s) : lostSlots s.journal = [] := by
  refine FrameTier.eq_nil_of_indices fun tier => ?_
  have htotal := (h.kept tier).total
  have hcount := hc.count tier
  rw [List.nil_append, FrameTier.indices_append, List.length_append] at htotal
  exact List.eq_nil_of_length_eq_zero (by omega)

end Whole

namespace Reactor

/-- Between handlers the frames are conserved exactly while no peek offset call took one with it;
no release ever finds its frame in place, and the TAP loses both capacities only after such a loss, also in
a handler that fails. -/
theorem frames_conserved (cfg : Config) (s : Reactor) (hs : Visited cfg s) :
    (∀ tier, (s.pool tier).faulted = false) ∧
      (s.tapStarved = true → lostSlots s.journal ≠ []) ∧
      (Reachable cfg s → (Conserved cfg s ↔ lostSlots s.journal = [])) := by
  refine ⟨hs.sound.released, fun hdry hlost => hs.sound.starved hdry ?_, fun hr => ⟨?_, ?_⟩⟩
  · rw [hlost]
    rfl
  · exact hr.whole.lost_of_conserved
  · exact hr.whole.conserved

def segmentTo (flags : TcpFlags) (sequence : Sequence.Seq) : TapFrame :=
  .tcpV4 0xc0000202#32 0x08080808#32
    { sourcePort := 40000, destinationPort := 80, sequence := sequence, acknowledgment := 0, flags := flags,
      window := 1000 }

/-- The TAP blocks while the SYN-ACK of a new connection is written. -/
def blockedScript : List (Event × Kernel) :=
  [(.tap readable, { Kernel.quiet.reads (segmentTo { syn := true } 7) with
      tapWrite := Stream'.const (.error .wouldBlock) })]

theorem frames_conserved_blocked :
    ∃ s, Visited (.sample (.direct false)) s ∧ s.queuedSlots = [⟨.mtu, 0⟩] ∧
      Conserved (.sample (.direct false)) s := by
  have hrun : (replay (.sample (.direct false)) blockedScript
      (Reactor.new (.sample (.direct false)) .quiet {} 0 0)).map
      (fun s => (s.queuedSlots, lostSlots s.journal)) = some ([⟨.mtu, 0⟩], []) := by decide +kernel
  obtain ⟨s, hs, hframes⟩ := Option.map_eq_some_iff.mp hrun
  have hreachable := reachable_of_replay _ blockedScript (.start .quiet {} 0 0) hs
  obtain ⟨hqueued, hlost⟩ := Prod.mk.inj hframes
  exact ⟨s, hreachable.visited, hqueued,
    ((frames_conserved _ s hreachable.visited).2.2 hreachable).mpr hlost⟩

/-- The server's data is sent before the connection is activated, so that a repeated SYN
retransmits data; then the peek offset cannot be set. -/
def lossScript : List (Event × Kernel) :=
  [(.tap readable, { Kernel.quiet.reads (segmentTo { syn := true } 7) with
      connect := Stream'.const (.ok false) }),
    (.tap readable, Kernel.quiet.reads (segmentTo { fin := true } 8)),
    (.socket ⟨0, 1⟩ readable, { Kernel.quiet with peek := Stream'.cons (.ok { arrived := [1, 2] }) Kernel.quiet.peek }),
    (.socket ⟨0, 1⟩ writable, Kernel.quiet),
    (.tap readable, { Kernel.quiet.reads (segmentTo { syn := true } 7) with
      setPeekOffset := Stream'.const (.error (.os 22)) })]

/-- The run goes on with a frame less than the pool had. -/
theorem frames_lost :
    ∃ s, Reachable (.sample (.direct false)) s ∧
      s.framePool.available + s.queuedSlots.length + 1 = Config.framePoolFrames (.sample (.direct false)) ∧
      ¬ Conserved (.sample (.direct false)) s := by
  have hrun : (replay (.sample (.direct false)) lossScript
      (Reactor.new (.sample (.direct false)) .quiet {} 0 0)).map
      (fun s => (s.framePool.available, s.queuedSlots)) = some (1, []) := by decide +kernel
  obtain ⟨s, hs, hframes⟩ := Option.map_eq_some_iff.mp hrun
  obtain ⟨havailable, hqueued⟩ := Prod.mk.inj hframes
  have hcount : Config.framePoolFrames (.sample (.direct false)) = 2 := by decide +kernel
  refine ⟨s, reachable_of_replay _ lossScript (.start .quiet {} 0 0) hs, ?_, fun hc => ?_⟩
  · rw [havailable, hqueued, hcount]
    rfl
  · have hmtu := hc.count .mtu
    change s.framePool.available + (FrameTier.indices .mtu s.queuedSlots).length =
      Config.framePoolFrames (.sample (.direct false)) at hmtu
    rw [havailable, hqueued, hcount] at hmtu
    cases hmtu

end Reactor

end Yayatht
