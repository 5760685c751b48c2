import Yayatht.PayloadFate
import Yayatht.RunSteps
import Yayatht.FlowConduct

set_option autoImplicit false

/-!
# The interest in the sockets of the flows

A flow waits for room in its socket while it connects, while handshake output is left and while
payload is queued. The interest that follows is set at the end of a socket event, and after a batch
of TAP frames for the flows the frames enlisted. A frame whose handler fails before it enlists its
flow may leave the interest behind.
-/
namespace Yayatht
open EffectLogic

/-- Whether the flow is open, what the kernel watches its socket for and what it should watch it for. -/
abbrev Stance := Bool × UInt32 × UInt32

def FlowEntry.stance (e : FlowEntry) : Stance := (e.open?, e.armedSocketInterest, e.desiredSocketInterest)

/-- An open flow stays open with the same interests. -/
def Stance.Held (a b : Stance) : Prop := (a.1 = true → b.1 = true) ∧ b.2 = a.2

theorem Stance.Held.refl (a : Stance) : a.Held a := ⟨fun h => h, rfl⟩

theorem Stance.Held.trans {a b c : Stance} (h : a.Held b) (h' : b.Held c) : a.Held c :=
  ⟨fun ha => h'.1 (h.1 ha), h'.2.trans h.2⟩

/-- What a handler may change of the flows. -/
structure Slack where
  allows : FlowId → Stance → Stance → Prop
  held : ∀ id a b, a.Held b → allows id a b
  trans : ∀ id a b c, allows id a b → allows id b c → allows id a c

namespace Slack

theorem refl (slack : Slack) (id : FlowId) (a : Stance) : slack.allows id a a := slack.held id a a (.refl a)

def none : Slack where
  allows _ := Stance.Held
  held _ _ _ h := h
  trans _ _ _ _ := Stance.Held.trans

/-- The interests of one open flow may change in any way. -/
def about (id : FlowId) : Slack where
  allows other a b := a.Held b ∨ other = id ∧ (a.1 = true → b.1 = true)
  held _ _ _ h := .inl h
  trans _ _ _ _ h h' := by
    rcases h with h | ⟨rfl, h⟩
    · rcases h' with h' | ⟨rfl, h'⟩
      · exact .inl (h.trans h')
      · exact .inr ⟨rfl, fun ha => h' (h.1 ha)⟩
    · exact .inr ⟨rfl, fun ha => h'.elim (fun h' => h'.1 (h ha)) fun h' => h'.2 (h ha)⟩

/-- One flow may be closed as well. -/
def free (id : FlowId) : Slack where
  allows other a b := other = id ∨ a.Held b
  held _ _ _ h := .inr h
  trans _ _ _ _ h h' := by
    rcases h with h | h
    · exact .inl h
    · exact h'.imp_right h.trans

end Slack

/-- Edits of an entry that stay within the slack. -/
def Minded (slack : Slack) (id : FlowId) (e f : FlowEntry) : Prop := slack.allows id e.stance f.stance

/-- Flows are retired and enlisted; the others stay within the slack. -/
structure Minds (slack : Slack) (s t : Reactor) : Prop where
  deferred : ∀ id ∈ s.flows.deferred, id ∈ t.flows.deferred
  listed : ∀ id ∈ s.ackRefreshQueue, id ∈ t.ackRefreshQueue
  entries : ∀ id f, t.flows.get id = some f → id ∉ t.flows.deferred →
    ∃ e, s.flows.get id = some e ∧ Minded slack id e f

namespace Minds

variable {slack : Slack} {s t : Reactor}

theorem same (hflows : t.flows = s.flows) (hlisted : ∀ id ∈ s.ackRefreshQueue, id ∈ t.ackRefreshQueue) :
    Minds slack s t where
  deferred id h := by
    rw [hflows]
    exact h
  listed := hlisted
  entries id f hget _ := ⟨f, hflows ▸ hget, slack.refl _ _⟩

instance (slack : Slack) : IsPreorder Reactor (Minds slack) where
  refl _ := same rfl fun _ h => h
  trans _ _ _ h h' :=
    { deferred := fun id hd => h'.deferred id (h.deferred id hd)
      listed := fun id hl => h'.listed id (h.listed id hl)
      entries := fun id g hg hopen => by
        obtain ⟨f, hf, ha'⟩ := h'.entries id g hg hopen
        obtain ⟨e, he, ha⟩ := h.entries id f hf fun hd => hopen (h'.deferred id hd)
        exact ⟨e, he, slack.trans _ _ _ _ ha ha'⟩ }

theorem edited {id : FlowId} {e : FlowEntry} {g : FlowEntry → FlowEntry} (hget : s.flows.get id = some e)
    (hg : Minded slack id e (g e)) : Minds slack s { s with flows := s.flows.modify id g } where
  deferred other h := by
    dsimp only
    rw [FlowTable.modify_deferred]
    exact h
  listed _ h := h
  entries other f hf _ := by
    dsimp only at hf
    rw [FlowTable.get_modify] at hf
    split at hf
    · rename_i heq
      subst heq
      rw [hget] at hf
      cases hf
      exact ⟨e, hget, hg⟩
    · exact ⟨f, hf, slack.refl _ _⟩

theorem retired (s : Reactor) (id : FlowId) (f : FlowEntry → FlowEntry) :
    Minds slack s { s with flows := (s.flows.modify id f).deferRemove id } where
  deferred other h := by
    dsimp only
    rw [FlowTable.mem_deferred_deferRemove, FlowTable.modify_deferred]
    exact .inl h
  listed _ h := h
  entries other g hg hopen := by
    dsimp only at hg hopen
    rw [FlowTable.get_deferRemove, FlowTable.get_modify] at hg
    split at hg
    · rename_i heq
      rw [heq] at hopen
      cases hget : s.flows.get id with
      | none =>
        rw [hget] at hg
        cases hg
      | some e =>
        exfalso
        apply hopen
        rw [FlowTable.mem_deferred_deferRemove, FlowTable.get_modify_self, hget]
        exact .inr ⟨rfl, rfl⟩
    · exact ⟨g, hg, slack.refl _ _⟩

end Minds

theorem Slight.held {e f : FlowEntry} (h : Slight e f) : e.stance.Held f.stance := by
  have hbearing := h.1
  simp only [FlowEntry.bearing, Prod.mk.injEq] at hbearing
  obtain ⟨-, hconnected, harmed, hhandshake, hqueue⟩ := hbearing
  refine ⟨h.2, ?_⟩
  unfold FlowEntry.stance FlowEntry.desiredSocketInterest
  rw [hconnected, harmed, hhandshake, hqueue]

theorem rounds_minds (slack : Slack) : Rounds (Minded slack) (fun _ => True) (Minds slack) where
  hidden s t h := by
    simp only [footing, Prod.mk.injEq] at h
    exact .same h.1 fun id hid => h.2.1 ▸ hid
  noted _ _ _ := .same rfl fun _ h => h
  edited _ _ _ _ hget hg := .edited hget hg
  retired s id := .retired s id _
  listed _ _ := .same rfl fun _ h => List.mem_append_left _ h
  errors _ _ := trivial
  slight id _ _ h := slack.held id _ _ h.held
  serviced _ _ _ _ := .same rfl fun _ h => h
  scanned _ _ := .same rfl fun _ h => h

theorem tolerant_minds (cfg : Config) (slack : Slack) :
    Tolerant cfg (fun _ _ _ => True) (fun _ => True) (Minds slack) where
  hidden s t h _ _ := by
    have hlist : t.ackRefreshQueue = s.ackRefreshQueue := congrArg Core.refresh h
    exact .same (congrArg Core.flows h) fun id hid => hlist ▸ hid
  engine _ _ _ := .same rfl fun _ h => h
  associations _ _ _ := .same rfl fun _ h => h
  replied _ _ _ := .same rfl fun _ h => h
  errors _ _ _ := trivial
  fits _ _ _ _ := trivial
  reply client gateway payload s _ := (rounds_minds slack).queueUdpFrame cfg client gateway payload s
  icmp key payload originalLen error s := (rounds_minds slack).queueUdpIcmpFor cfg key payload originalLen error s
  dialed _ _ _ _ := .same rfl fun _ h => h

theorem wide_about (id : FlowId) : Wide (Minded (.about id)) id := fun _ _ h => .inr ⟨rfl, h.2⟩

theorem wide_free (id : FlowId) : Wide (Minded (.free id)) id := fun _ _ _ => .inl rfl

/-- Every flow that is not retired is open, and the interest in its socket is set or the flow is enlisted;
one flow may lag behind. -/
def Abreast (lag : Option FlowId) (s : Reactor) : Prop :=
  ∀ id e, s.flows.get id = some e → id ∉ s.flows.deferred → e.open? = true ∧
    (lag = some id ∨ e.armedSocketInterest = e.desiredSocketInterest ∨ id ∈ s.ackRefreshQueue)

namespace Abreast

variable {s t : Reactor} {id : FlowId} {lag : Option FlowId}

theorem lagging (h : Abreast none s) (lag : Option FlowId) : Abreast lag s := fun id e hget hopen =>
  ⟨(h id e hget hopen).1, .inr ((h id e hget hopen).2.resolve_left fun h => nomatch h)⟩

theorem held {slack : Slack} {e f : FlowEntry} (h : Abreast lag s) (hm : Minds slack s t)
    (hget : s.flows.get id = some e) (hopen : id ∉ t.flows.deferred) (hheld : e.stance.Held f.stance) :
    f.open? = true ∧
      (lag = some id ∨ f.armedSocketInterest = f.desiredSocketInterest ∨ id ∈ t.ackRefreshQueue) := by
  obtain ⟨hopen', hset⟩ := h id e hget fun hd => hopen (hm.deferred id hd)
  have hsame : f.armedSocketInterest = e.armedSocketInterest ∧ f.desiredSocketInterest = e.desiredSocketInterest :=
    Prod.mk.inj hheld.2
  refine ⟨hheld.1 hopen', hset.imp_right (Or.imp (fun h => ?_) (hm.listed id))⟩
  rw [hsame.1, hsame.2]
  exact h

theorem minds (h : Abreast lag s) (hm : Minds .none s t) : Abreast lag t := by
  intro id f hget hopen
  obtain ⟨e, he, hheld⟩ := hm.entries id f hget hopen
  exact h.held hm he hopen hheld

theorem minds_about (h : Abreast (some id) s) (hm : Minds (.about id) s t) : Abreast (some id) t := by
  intro other f hget hopen
  obtain ⟨e, he, hheld | ⟨rfl, hheld⟩⟩ := hm.entries other f hget hopen
  · exact h.held hm he hopen hheld
  · exact ⟨hheld (h _ e he fun hd => hopen (hm.deferred _ hd)).1, .inl rfl⟩

/-- What becomes of a flow that is retired does not matter. -/
theorem minds_free (h : Abreast none s) (hm : Minds (.free id) s t) (hid : id ∈ t.flows.deferred) : Abreast none t := by
  intro other f hget hopen
  obtain ⟨e, he, rfl | hheld⟩ := hm.entries other f hget hopen
  · exact absurd hid hopen
  · exact h.held hm he hopen hheld

/-- A flow that is retired, enlisted or has its interest set does not lag behind. -/
theorem settled (h : Abreast (some id) s) (hid : ∀ e, s.flows.get id = some e → id ∉ s.flows.deferred →
    e.armedSocketInterest = e.desiredSocketInterest ∨ id ∈ s.ackRefreshQueue) : Abreast none s := by
  intro other e hget hopen
  obtain ⟨hopen', hset⟩ := h other e hget hopen
  refine ⟨hopen', .inr ?_⟩
  rcases hset with hlag | hset
  · cases hlag
    exact hid e hget hopen
  · exact hset

end Abreast

/-! ## The refresh -/

namespace Reactor

variable {cfg : Config} {s t : Reactor} {id : FlowId} {e : FlowEntry}

theorem Abreast.not_closed {lag : Option FlowId} (h : Abreast lag s) (hget : s.flows.get id = some e)
    (hopen : id ∉ s.flows.deferred) : (s.flows.get id).all (fun e => e.flow.state = .closed) = false := by
  have hstate := (h id e hget hopen).1
  unfold FlowEntry.open? at hstate
  rw [hget]
  simpa using hstate

theorem flowIsClosed_ends (s : Reactor) (id : FlowId) : Ends (flowIsClosed id) s
    (fun closed t => closed = (s.flows.get id).all (fun e => e.flow.state = .closed) ∧ s = t) fun _ _ => False :=
  ⟨rfl, rfl⟩

/-- A refresh that succeeds leaves no flow behind; where it fails the entries are as before. -/
theorem updateSocketInterest_abreast (h : Abreast (some id) s) :
    Ends (updateSocketInterest id) s (fun _ t => Abreast none t ∧ t.ackRefreshQueue = s.ackRefreshQueue)
      fun _ t => t.flows = s.flows ∧ t.ackRefreshQueue = s.ackRefreshQueue := by
  unfold updateSocketInterest flowEntry
  simp only [bind_assoc]
  refine Ends.bind (Ends.mono (flowIsClosed_ends s id) (fun _ _ h => h) fun _ _ h => h.elim) ?_
  rintro _ _ ⟨rfl, rfl⟩
  split
  · rename_i hclosed
    refine Ends.pure ⟨h.settled fun e hget hopen => ?_, rfl⟩
    rw [Abreast.not_closed h hget hopen] at hclosed
    cases hclosed
  refine Ends.get_bind ?_
  cases hget : s.flows.get id with
  | none => exact ⟨rfl, rfl⟩
  | some e =>
    refine Ends.bind (R := fun a t => e = a ∧ s = t) (Ends.pure ⟨rfl, rfl⟩) ?_
    rintro _ _ ⟨rfl, rfl⟩
    split
    · rename_i hset
      refine Ends.pure ⟨h.settled fun f hf _ => ?_, rfl⟩
      rw [hget] at hf
      cases hf
      exact .inl hset.symm
    split
    · refine Ends.bind (R := fun _ t => t.flows = s.flows ∧ t.ackRefreshQueue = s.ackRefreshQueue) ?_ ?_
      · refine Ends.bind (R := fun _ t => t.flows = s.flows ∧ t.ackRefreshQueue = s.ackRefreshQueue)
          ⟨rfl, rfl⟩ fun answer t ht => ?_
        cases answer with
        | ok a => exact Ends.pure ht
        | error error => exact Ends.throw ht
      rintro _ t ⟨hflows, hlist⟩
      have hgett : t.flows.get id = some e := by
        rw [hflows]
        exact hget
      refine Ends.mono (modifyEntry_ends hgett _) ?_ fun _ _ h => h.elim
      rintro _ _ rfl
      refine ⟨(?_ : Abreast (some id) _).settled ?_, hlist⟩
      · refine h.minds_about (IsTrans.trans _ _ _ (Minds.same hflows fun _ hl => hlist ▸ hl) (.edited hgett ?_))
        exact .inr ⟨rfl, fun ho => ho⟩
      · intro f hf _
        dsimp only at hf
        rw [FlowTable.get_modify_self, hgett] at hf
        cases hf
        exact .inl rfl
    · exact Ends.throw ⟨rfl, rfl⟩

theorem handleSocket_abreast (events : UInt32) (h : Abreast none s) :
    Ends (handleSocket cfg id events) s (fun _ t => Abreast none t) fun _ _ => True := by
  refine Ends.bind (Ends.mono ((rounds_minds (.about id)).handleSocketEvents cfg (wide_about id) events s)
    (fun _ _ h => h) fun _ _ _ => trivial) fun _ t ht => ?_
  exact Ends.mono (updateSocketInterest_abreast ((h.lagging _).minds_about ht)) (fun _ _ h => h.1) fun _ _ _ => trivial

theorem Abreast.popped (h : Abreast none s) (hlast : s.ackRefreshQueue.getLast? = some id) :
    Abreast (some id) { s with ackRefreshQueue := s.ackRefreshQueue.dropLast } := by
  intro other e hget hopen
  obtain ⟨hopen', hset⟩ := h other e hget hopen
  refine ⟨hopen', ?_⟩
  rcases hset with hlag | hset | hlisted
  · cases hlag
  · exact .inr (.inl hset)
  · have hsplit := List.dropLast_append_getLast? id hlast
    rw [← hsplit, List.mem_append, List.mem_singleton] at hlisted
    rcases hlisted with hlisted | rfl
    · exact .inr (.inr hlisted)
    · exact .inl rfl

theorem flushAckRefreshes_abreast (count : ℕ) :
    Keeps (Abreast none) (fun _ _ => True) (flushAckRefreshes cfg count) := by
  induction count with
  | zero => exact Keeps.pure _
  | succ count ih =>
    refine Keeps.get_bind fun s hs => ?_
    cases hlast : s.ackRefreshQueue.getLast? with
    | none => exact Ends.pure hs
    | some id =>
      have hpopped := Abreast.popped hs hlast
      refine Ends.set_bind (Ends.bind (Ends.mono (flowIsClosed_ends _ id) (fun _ _ h => h) fun _ _ h => h.elim) ?_)
      rintro _ _ ⟨rfl, rfl⟩
      split
      · rename_i hclosed
        refine ih _ (hpopped.settled fun e hget hopen => ?_)
        have hnot := Abreast.not_closed hpopped hget hopen
        rw [hnot] at hclosed
        cases hclosed
      · have hrest : ∀ t, Abreast (some id) t → Ends (do updateSocketInterest id; flushAckRefreshes cfg count : Io Unit) t
            (fun _ u => Abreast none u) fun _ _ => True := by
          intro t ht
          refine Ends.bind (Ends.mono (updateSocketInterest_abreast ht) (fun _ _ h => h.1) fun _ _ _ => trivial) ?_
          exact fun _ u hu => ih u hu
        have htracks : ∀ {α : Type} {m : Io α} {u : Reactor}, Heeds (Minds (.about id)) (fun _ => True) m →
            Abreast (some id) u → Ends m u (fun _ v => Abreast (some id) v) fun _ _ => True := fun hm hu =>
          Ends.mono (hm _) (fun _ _ hv => hu.minds_about hv) fun _ _ _ => trivial
        refine Ends.bind (htracks (rounds_minds _).consumeAckRefreshSuppression hpopped) fun suppressed t ht => ?_
        cases suppressed with
        | true => exact hrest t ht
        | false => exact Ends.bind (htracks ((rounds_minds _).refreshUpstreamAck cfg id) ht) fun _ u hu => hrest u hu

/-! ## Segments of a flow -/

/-- What becomes of a frame that a test hook may drop before it is written. -/
def transit (s : Reactor) (drops : Bool) (len : ℕ) : Handover :=
  if drops = true ∧ s.tapQueue = [] then .written else handover s len

/-- The TAP takes a frame of `len` bytes, or the frame is queued and the TAP armed. -/
def Passes (s : Reactor) (drops : Bool) (len : ℕ) : Prop :=
  transit s drops len = .written ∨ transit s drops len = .queued ∧ s.kernel.epollModify.head = .ok ()

theorem transit_eq (hqueue : t.tapQueue = s.tapQueue) (hkernel : t.kernel = s.kernel) (drops : Bool) (len : ℕ) :
    transit t drops len = transit s drops len := by
  unfold transit
  rw [handover_eq hqueue hkernel, hqueue]

theorem Passes.of_same {drops : Bool} {len : ℕ} (h : Passes s drops len) (hqueue : t.tapQueue = s.tapQueue)
    (hkernel : t.kernel = s.kernel) : Passes t drops len := by
  unfold Passes
  rw [transit_eq hqueue hkernel, hkernel]
  exact h

def Passed (s : Reactor) (drops : Bool) (len : ℕ) (t : Reactor) : Prop :=
  transit s drops len = .written ∧ t.kernel.epollModify = s.kernel.epollModify ∨
    transit s drops len = .queued ∧ t.kernel.epollModify = s.kernel.epollModify.tail

def dropsFrame (test : TestHooks) (plan : SendPlan) : Bool :=
  if plan.syn then test.dropTcpSynAck > 0 else if plan.fin then test.dropTcpFin > 0 else test.dropTcpAck > 0

theorem injectedDrop_ends (plan : SendPlan) (hlen : plan.length = 0) (hplain : plan.syn = true → plan.fin = false)
    (s : Reactor) : Ends (injectedDrop (some plan)) s
      (fun dropped t => dropped = dropsFrame s.test plan ∧ t.flows = s.flows ∧ t.kernel = s.kernel) fun _ _ => False := by
  unfold injectedDrop dropsFrame
  refine Ends.get_bind ?_
  dsimp only
  rw [hlen]
  cases hsyn : plan.syn with
  | true =>
    rw [hplain hsyn]
    by_cases hdrop : s.test.dropTcpSynAck > 0
    · rw [if_pos ⟨rfl, hdrop⟩]
      exact ⟨by simpa using hdrop, rfl, rfl⟩
    · rw [if_neg fun h => hdrop h.2]
      exact ⟨by simpa using hdrop, rfl, rfl⟩
  | false =>
    cases hfin : plan.fin with
    | true =>
      by_cases hdrop : s.test.dropTcpFin > 0
      · rw [if_neg (by simp), if_pos ⟨rfl, hdrop⟩]
        exact ⟨by simpa using hdrop, rfl, rfl⟩
      · rw [if_neg (by simp), if_neg fun h => hdrop h.2]
        exact ⟨by simpa using hdrop, rfl, rfl⟩
    | false =>
      by_cases hdrop : s.test.dropTcpAck > 0
      · rw [if_neg (by simp), if_neg (by simp), if_neg (by simp), if_pos ⟨rfl, rfl, rfl, hdrop⟩]
        exact ⟨by simpa using hdrop, rfl, rfl⟩
      · rw [if_neg (by simp), if_neg (by simp), if_neg (by simp), if_neg fun h => hdrop h.2.2.2]
        exact ⟨by simpa using hdrop, rfl, rfl⟩

theorem pushTapQueue_passes {drops : Bool} {len : ℕ} (queued : QueuedFrame) (htransit : transit s drops len = .queued)
    (hanswer : s.kernel.epollModify.head = .ok ()) (hsame : t.kernel.epollModify = s.kernel.epollModify) :
    Ends (pushTapQueue queued) t (fun _ u => Passed s drops len u) fun _ _ => False := by
  unfold pushTapQueue updateTapInterest
  refine Ends.bind (R := fun _ u => u.kernel.epollModify = s.kernel.epollModify ∧ queued ∈ u.tapQueue)
    (Ends.modify ⟨hsame, by simp⟩) ?_
  rintro _ u ⟨hsame, hmem⟩
  refine Ends.get_bind ?_
  rw [if_neg fun h => List.ne_nil_of_mem hmem h.2]
  refine Ends.bind (R := fun answer v => answer = .ok () ∧ Passed s drops len v) ⟨?_, .inr ⟨htransit, ?_⟩⟩ ?_
  · change u.kernel.epollModify.head = _
    rw [hsame, hanswer]
  · change u.kernel.epollModify.tail = _
    rw [hsame]
  rintro _ v ⟨rfl, hv⟩
  exact Ends.pure hv

theorem queueTap_passes {flow : Option FlowId} {frame : PooledFrame} {plan : SendPlan} (hlen : plan.length = 0)
    (hplain : plan.syn = true → plan.fin = false) (hpass : Passes s (dropsFrame s.test plan) frame.len)
    (hcommit : ∀ t, t.flows = s.flows → Ends (commitTapSend flow frame (some plan)) t
      (fun _ u => u.kernel.epollModify = t.kernel.epollModify) fun _ _ => False) :
    Ends (queueTap cfg flow frame (some plan)) s (fun _ t => Passed s (dropsFrame s.test plan) frame.len t)
      fun _ _ => False := by
  unfold queueTap
  dsimp only [Option.elim_some]
  refine Ends.bind (R := fun reserved t => reserved = true ∧ t.flows = s.flows ∧ t.tapQueue = s.tapQueue ∧
    t.kernel = s.kernel ∧ t.test = s.test) ?_ ?_
  · unfold reserveRetainedBytes
    refine Ends.get_bind ?_
    rw [if_neg (by omega)]
    exact ⟨rfl, rfl, rfl, rfl, rfl⟩
  rintro _ t ⟨rfl, hflows, hqueue, hkernel, htest⟩
  rw [if_pos rfl]
  refine Ends.get_bind ?_
  by_cases hempty : s.tapQueue = []
  · rw [hqueue, if_pos hempty]
    refine Ends.bind (Ends.mono (injectedDrop_ends plan hlen hplain t) (fun _ _ h => h) fun _ _ h => h.elim) ?_
    rintro _ u ⟨rfl, hflows', hkernel'⟩
    replace hflows := hflows'.trans hflows
    replace hkernel := hkernel'.trans hkernel
    rw [htest]
    cases hdrops : dropsFrame s.test plan with
    | true =>
      refine Ends.mono (hcommit u hflows) (fun _ v hv => .inl ⟨?_, hv.trans (by rw [hkernel])⟩) fun _ _ h => h
      exact if_pos ⟨rfl, hempty⟩
    | false =>
      have hnodrop : transit s false frame.len = handover s frame.len := if_neg fun h => Bool.false_ne_true h.1
      rw [hdrops] at hpass
      rw [if_neg Bool.false_ne_true]
      refine Ends.bind (R := fun answer v => answer = s.kernel.tapWrite.head.map (·.of frame.len) ∧
        v.flows = s.flows ∧ v.kernel.epollModify = s.kernel.epollModify) ?_ ?_
      · unfold Call.tapWrite
        refine Ends.bind (R := fun answer v => answer = s.kernel.tapWrite.head ∧ v.flows = s.flows ∧
          v.kernel.epollModify = s.kernel.epollModify) ⟨?_, hflows, ?_⟩ ?_
        · change u.kernel.tapWrite.head = _
          rw [hkernel]
        · change u.kernel.epollModify = _
          rw [hkernel]
        rintro _ v ⟨rfl, hv⟩
        exact Ends.pure ⟨rfl, hv⟩
      rintro _ v ⟨rfl, hflows, hsame⟩
      have hcase := hnodrop
      unfold handover at hcase
      rw [if_pos hempty] at hcase
      unfold Passes at hpass
      cases hhead : s.kernel.tapWrite.head with
      | ok taken =>
        rw [hhead] at hcase
        dsimp only [Except.map] at hcase ⊢
        split
        · rename_i hwhole
          rw [if_pos hwhole] at hcase
          refine Ends.bind (R := fun _ w => w.flows = s.flows ∧ w.kernel.epollModify = s.kernel.epollModify)
            (Ends.modify ⟨hflows, hsame⟩) ?_
          rintro _ w ⟨hflows, hsame⟩
          exact Ends.mono (hcommit w hflows) (fun _ x hx => .inl ⟨hcase, hx.trans hsame⟩) fun _ _ h => h
        · rename_i hshort
          rw [if_neg hshort] at hcase
          rw [hcase] at hpass
          rcases hpass with hpass | ⟨hpass, -⟩ <;> cases hpass
      | error error =>
        rw [hhead] at hcase
        dsimp only [Except.map]
        cases error with
        | wouldBlock =>
          have hqueued : transit s false frame.len = .queued := hcase
          have hanswer : s.kernel.epollModify.head = .ok () := by
            rcases hpass with hpass | hpass
            · rw [hqueued] at hpass
              cases hpass
            · exact hpass.2
          exact pushTapQueue_passes _ hqueued hanswer hsame
        | unexpectedEof =>
          have hfailed : transit s false frame.len = .failed := hcase
          rw [hfailed] at hpass
          rcases hpass with hpass | ⟨hpass, -⟩ <;> cases hpass
        | os code =>
          have hfailed : transit s false frame.len = .failed := hcase
          rw [hfailed] at hpass
          rcases hpass with hpass | ⟨hpass, -⟩ <;> cases hpass
  · rw [hqueue, if_neg hempty]
    have hqueued : transit s (dropsFrame s.test plan) frame.len = .queued := by
      unfold transit handover
      rw [if_neg fun h => hempty h.2, if_neg hempty]
    have hanswer : s.kernel.epollModify.head = .ok () := by
      rcases hpass with hpass | hpass
      · rw [hqueued] at hpass
        cases hpass
      · exact hpass.2
    exact pushTapQueue_passes _ hqueued hanswer (by rw [hkernel])

theorem hooks_buildTcpFrame (cfg : Config) (key : FlowKey) (plan : SendPlan) (payload : Bytes) (flags : TcpFlags)
    (mss windowScale : Option ℕ) (window : ℕ) :
    Inert test (buildTcpFrame cfg key plan payload flags mss windowScale window) := by
  have hrelease : ∀ slot, Inert test (releaseFrame slot) := by
    intro slot
    refine Inert.modify fun s => ?_
    cases slot.tier <;> rfl
  unfold buildTcpFrame
  refine Inert.bind ?_ fun slot => ?_
  · refine Inert.get_bind fun s => ?_
    refine Ends.bind (R := fun _ t => test t = test s) rfl fun _ t ht => ?_
    cases s.framePool.acquire.2 with
    | some index => exact Ends.pure ht
    | none => exact ht
  split
  · exact (hrelease slot).bind fun _ => Inert.throw _
  unfold finalizeTcpFrame
  dsimp only
  split
  · exact Inert.throw _
  split
  · exact (hrelease slot).bind fun _ => Inert.throw _
  · refine Inert.bind (Inert.modify fun s => ?_) fun _ => Inert.pure _
    split <;> rfl

theorem hooks_buildFlowFrame (cfg : Config) (id : FlowId) (plan : SendPlan) (payload : Bytes) (flags : TcpFlags) :
    Inert test (buildFlowFrame cfg id plan payload flags) := by
  have hensure : ∀ {α : Type} (text : String) (a : Option α), Inert test (ensure text a) := by
    intro α text a
    cases a with
    | none => exact Inert.throw _
    | some a => exact Inert.pure a
  unfold buildFlowFrame flowFrameParameters
  refine Inert.bind ?_ fun parameters => (hooks_buildTcpFrame cfg _ _ _ _ _ _ _).bind fun frame =>
    Inert.bind (Inert.modify fun _ => rfl) fun _ => Inert.pure _
  exact Inert.bind Inert.get fun _ => (hensure _ _).bind fun _ => (hensure _ _).bind fun _ => Inert.pure _

theorem buildFlowFrame_ends (plan : SendPlan) (flags : TcpFlags) (hget : s.flows.get id = some e) {sides : FlowSides}
    (hsides : e.construction.activeSides = some sides)
    (hfamily : sides.namespaceKey.target.isIpv4 = sides.namespaceKey.namespaceEnd.isIpv4)
    (hfree : s.framePool.acquire.2.isSome = true) :
    Ends (buildFlowFrame cfg id plan [] flags) s
      (fun frame t => frame.len = tcpPayloadOffset cfg sides.namespaceKey
          (if flags.syn then some e.flow.mss else none)
          (if flags.syn ∧ e.flow.localWindowShift > 0 then some e.flow.localWindowShift else none) ∧
        t.flows = s.flows ∧ t.tapQueue = s.tapQueue ∧ t.kernel = s.kernel ∧ t.test = s.test)
      fun _ _ => False := by
  have hbuilt : Ends (buildFlowFrame cfg id plan [] flags) s
      (fun frame t => frame.len = tcpPayloadOffset cfg sides.namespaceKey
          (if flags.syn then some e.flow.mss else none)
          (if flags.syn ∧ e.flow.localWindowShift > 0 then some e.flow.localWindowShift else none) ∧
        t.flows = s.flows ∧ t.tapQueue = s.tapQueue ∧ t.kernel = s.kernel) fun _ _ => False := ?_
  · exact Ends.mono (hbuilt.and (hooks_buildFlowFrame cfg id plan [] flags s))
      (fun _ _ ⟨⟨hlen, hflows, hqueue, hkernel⟩, htest⟩ => ⟨hlen, hflows, hqueue, hkernel, htest⟩) fun _ _ h => h.1
  unfold buildFlowFrame flowFrameParameters
  simp only [bind_assoc]
  refine Ends.get_bind ?_
  rw [hget]
  refine Ends.bind (R := fun a t => e = a ∧ s = t) (Ends.pure ⟨rfl, rfl⟩) ?_
  rintro _ _ ⟨rfl, rfl⟩
  rw [hsides]
  refine Ends.bind (R := fun a t => sides = a ∧ s = t) (Ends.pure ⟨rfl, rfl⟩) ?_
  rintro _ _ ⟨rfl, rfl⟩
  refine Ends.bind (R := fun a t => a = (sides.namespaceKey, e, e.flow.windowField flags.syn) ∧ s = t)
    (Ends.pure ⟨rfl, rfl⟩) ?_
  rintro _ _ ⟨rfl, rfl⟩
  refine Ends.bind (Ends.mono (buildTcpFrame_ends cfg sides.namespaceKey plan flags _ _ _ s) (fun _ _ h => h) ?_) ?_
  · rintro _ t ⟨hfails, -⟩
    exact hfails ⟨hfamily, hfree⟩
  rintro frame t ⟨-, -, -, hlen, hbeside, hqueue, hkernel⟩
  exact ⟨hlen, congrArg Prod.fst hbeside, hqueue, hkernel⟩

/-- A frame is free for the acknowledgment of a FIN, and it passes. -/
def Acknowledges (cfg : Config) (s : Reactor) (construction : FlowConstruction) : Prop :=
  ∃ sides, construction.activeSides = some sides ∧
    sides.namespaceKey.target.isIpv4 = sides.namespaceKey.namespaceEnd.isIpv4 ∧
    s.framePool.acquire.2.isSome = true ∧ (s.test.dropTcpFinAck > 0 ∨
      Passes s (s.test.dropTcpAck > 0) (tcpPayloadOffset cfg sides.namespaceKey none none))

theorem sendFinAck_passes (cfg : Config) (hget : s.flows.get id = some e) (h : Acknowledges cfg s e.construction) :
    Ends (sendFinAck cfg id) s (fun _ _ => True) fun _ _ => False := by
  obtain ⟨sides, hsides, hfamily, hfree, hpass⟩ := h
  unfold sendFinAck sendAckKind
  refine Ends.bind (flowEntry_ends hget) ?_
  rintro _ _ ⟨rfl, rfl⟩
  refine Ends.bind (buildFlowFrame_ends _ { ack := true } hget hsides hfamily hfree) ?_
  rintro frame t ⟨hlen, -, hqueue, hkernel, htest⟩
  refine Ends.get_bind ?_
  rw [htest]
  split
  · exact Ends.set_bind (Ends.modify trivial)
  · rename_i hkept
    have hpass := hpass.resolve_left fun hdrop => hkept ⟨rfl, hdrop⟩
    refine Ends.mono (queueTap_passes rfl (fun h => nomatch h) ?_ fun u _ => ?_) (fun _ _ _ => trivial) fun _ _ h => h
    · rw [htest, hlen]
      exact hpass.of_same hqueue hkernel
    change Ends (releaseFrame frame.slot) u _ _
    unfold releaseFrame
    refine Ends.modify ?_
    cases frame.slot.tier <;> rfl

end Reactor

theorem PendingSocketQueue.push_isEmpty {q r : PendingSocketQueue} {bytes : Bytes} (h : q.push bytes = some r)
    (hne : bytes ≠ []) : r.isEmpty = false := by
  unfold PendingSocketQueue.push at h
  split at h
  · cases h
  cases h
  have hpos := List.length_pos_iff.mpr hne
  simp only [PendingSocketQueue.isEmpty, beq_eq_false_iff_ne]
  omega

def watchful : UInt32 := socketInterest true true true

theorem FlowEntry.desired_of_pending {e : FlowEntry} (h : e.pendingSocket.isEmpty = false) :
    e.desiredSocketInterest = watchful := by
  unfold FlowEntry.desiredSocketInterest watchful socketInterest
  simp [h]

/-- The socket leaves some of the payload, and the queues have room for it. -/
def Leaves (cfg : Config) (s : Reactor) (e : FlowEntry) (payload : Bytes) : Prop :=
  (∀ error, s.kernel.send.head = .error error → error = .wouldBlock) ∧ taken s payload < payload.length ∧
    (payload.drop (taken s payload)).length ≤ e.pendingSocket.remaining ∧
    (payload.drop (taken s payload)).length ≤ cfg.maxPendingTcpBytes - s.pendingSocketBytes

def sending (s : Reactor) := (s.framePool, s.tapQueue, s.test, s.kernel.tapWrite, s.kernel.epollModify)

/-- Payload joined the queue of the flow. -/
def Waiting (id : FlowId) (e : FlowEntry) (s t : Reactor) : Prop :=
  Minds (.about id) s t ∧ sending t = sending s ∧ ∃ f, t.flows.get id = some f ∧ f.pendingSocket.isEmpty = false ∧
    f.armedSocketInterest = e.armedSocketInterest ∧ f.construction = e.construction

namespace Reactor

variable {cfg : Config} {s t : Reactor} {id : FlowId} {e : FlowEntry} {payload : Bytes}

theorem enqueuePendingPayload_waits (hget : s.flows.get id = some e) (hne : payload ≠ []) :
    Ends (enqueuePendingPayload cfg id payload) s
      (fun delivered t => Minds .none s t ∨ delivered = true ∧ payload.length ≤ e.pendingSocket.remaining ∧
        payload.length ≤ cfg.maxPendingTcpBytes - s.pendingSocketBytes ∧ Waiting id e s t)
      fun _ t => Minds .none s t := by
  have hP := rounds_minds .none
  unfold enqueuePendingPayload
  refine Ends.get_bind (Ends.bind (Ends.mono (flowEntry_ends hget) (fun _ _ h => h) fun _ _ h => h.elim) ?_)
  rintro _ _ ⟨rfl, rfl⟩
  split
  · refine Ends.bind (R := fun _ t => Minds .none s t) (Ends.modify (.same rfl fun _ h => h)) fun _ t ht => ?_
    refine Ends.bind (R := fun _ u => Minds .none s u) (Ends.modify ?_) fun _ u hu => ?_
    · exact IsTrans.trans _ _ _ ht (.same rfl fun _ h => h)
    · exact Ends.mono (Tracks.after hu ((hP.failTcpFlow cfg id).bind (fun _ => Heeds.pure false) u))
        (fun _ _ h => .inl h) fun _ _ h => h.1
  · rename_i hroom
    obtain ⟨hlocal, hshared⟩ := not_or.mp hroom
    obtain ⟨queue, hpush⟩ := Option.isSome_iff_exists.mp (PendingSocketQueue.push_isSome (Nat.le_of_not_gt hlocal))
    refine Ends.bind (R := fun a t => queue = a ∧ s = t) ?_ ?_
    · rw [hpush]
      exact Ends.pure ⟨rfl, rfl⟩
    rintro _ _ ⟨rfl, rfl⟩
    refine Ends.bind (Ends.mono (modifyEntry_ends hget _) (fun _ _ h => h) fun _ _ h => h.elim) ?_
    rintro _ _ rfl
    have hwaits : Waiting id e s { s with flows := s.flows.modify id fun e => { e with pendingSocket := queue } } := by
      refine ⟨.edited hget (.inr ⟨rfl, fun h => h⟩), rfl, { e with pendingSocket := queue }, ?_,
        PendingSocketQueue.push_isEmpty hpush hne, rfl, rfl⟩
      dsimp only
      rw [FlowTable.get_modify_self, hget]
      rfl
    have hkept : ∀ {u v : Reactor}, Waiting id e s u → v.flows = u.flows → v.ackRefreshQueue = u.ackRefreshQueue →
        sending v = sending u → Waiting id e s v := by
      rintro u v ⟨hminds, hsending, f, hf, hrest⟩ hflows hlist hsame
      refine ⟨IsTrans.trans _ _ _ hminds (.same hflows fun _ hl => hlist ▸ hl), hsame.trans hsending, f, ?_, hrest⟩
      rw [hflows]
      exact hf
    refine Ends.bind (R := fun _ u => Waiting id e s u) (Ends.modify (hkept hwaits rfl rfl rfl)) fun _ u hu => ?_
    refine Ends.bind (R := fun _ v => Waiting id e s v) (Ends.modify ?_) fun _ v hv => ?_
    · dsimp only
      split <;> exact hkept hu rfl rfl rfl
    · exact Ends.pure (.inr ⟨rfl, Nat.le_of_not_gt hlocal, Nat.le_of_not_gt hshared, hv⟩)

theorem submitNamespacePayload_waits (hget : s.flows.get id = some e) (hne : payload ≠ []) :
    Ends (submitNamespacePayload cfg id payload) s
      (fun delivered t => Minds .none s t ∨ delivered = true ∧ Leaves cfg s e payload ∧ Waiting id e s t)
      fun _ t => Minds .none s t := by
  have hlen : 0 < payload.length := List.length_pos_iff.mpr hne
  unfold submitNamespacePayload
  refine Ends.bind (Ends.mono (flowEntry_ends hget) (fun _ _ h => h) fun _ _ h => h.elim) ?_
  rintro _ _ ⟨rfl, rfl⟩
  refine Ends.bind (R := fun answer t => answer = s.kernel.send.head.map (·.of payload.length) ∧ t.flows = s.flows ∧
    t.ackRefreshQueue = s.ackRefreshQueue ∧ sending t = sending s ∧ t.pendingSocketBytes = s.pendingSocketBytes) ?_ ?_
  · refine Ends.bind (R := fun answer t => answer = s.kernel.send.head ∧ t.flows = s.flows ∧
      t.ackRefreshQueue = s.ackRefreshQueue ∧ sending t = sending s ∧ t.pendingSocketBytes = s.pendingSocketBytes)
      ⟨rfl, rfl, rfl, rfl, rfl⟩ ?_
    rintro _ t ⟨rfl, ht⟩
    exact Ends.pure ⟨rfl, ht⟩
  rintro _ t ⟨rfl, ht⟩
  refine Ends.bind (R := fun _ t => t.flows = s.flows ∧ t.ackRefreshQueue = s.ackRefreshQueue ∧ sending t = sending s ∧
    t.pendingSocketBytes = s.pendingSocketBytes) (Ends.modify ht) ?_
  rintro _ t ⟨hflows, hlist, hsending, hbytes⟩
  have hsame : Minds .none s t := .same hflows fun _ hl => hlist ▸ hl
  have hgett : t.flows.get id = some e := by
    rw [hflows]
    exact hget
  -- the rest joins the queue, or the flow is given up
  have hrest : ∀ {u : Reactor} {f : FlowEntry}, Minds .none s u → u.flows.get id = some f →
      f.pendingSocket = e.pendingSocket → f.armedSocketInterest = e.armedSocketInterest →
      f.construction = e.construction → sending u = sending s → u.pendingSocketBytes = s.pendingSocketBytes →
      (∀ error, s.kernel.send.head = .error error → error = .wouldBlock) → taken s payload < payload.length →
      Ends (enqueuePendingPayload cfg id (payload.drop (taken s payload))) u
        (fun delivered v => Minds .none s v ∨ delivered = true ∧ Leaves cfg s e payload ∧ Waiting id e s v)
        fun _ v => Minds .none s v := by
    intro u f hminds hf hqueue harmed hconstruction hsending hbytes hsends hlt
    refine Ends.mono (enqueuePendingPayload_waits hf ?_) ?_ fun _ _ hv => IsTrans.trans _ _ _ hminds hv
    · rw [← List.length_pos_iff, List.length_drop]
      omega
    · rintro delivered v (hv | ⟨hdelivered, hlocal, hshared, hv, hvsending, g, hg, hpending, hgarmed, hgconstruction⟩)
      · exact .inl (IsTrans.trans _ _ _ hminds hv)
      rw [hqueue] at hlocal
      rw [hbytes] at hshared
      refine .inr ⟨hdelivered, ⟨hsends, hlt, hlocal, hshared⟩, ?_, hvsending.trans hsending, g, hg, hpending,
        hgarmed.trans harmed, hgconstruction.trans hconstruction⟩
      have hwide : Minds (.about id) s u :=
        ⟨hminds.deferred, hminds.listed, fun other f hf hopen =>
          (hminds.entries other f hf hopen).imp fun _ h => ⟨h.1, .inl h.2⟩⟩
      exact IsTrans.trans _ _ _ hwide hv
  cases hhead : s.kernel.send.head with
  | ok answer =>
    have htaken : taken s payload = answer.of payload.length := by
      unfold taken
      rw [hhead]
    dsimp only [Except.map]
    refine Ends.bind (Ends.mono (modifyEntry_ends hgett _) (fun _ _ h => h) fun _ _ h => h.elim) ?_
    rintro _ _ rfl
    have hsubmitted : Minds .none s { t with
        flows := t.flows.modify id fun e => e.submitted payload (answer.of payload.length) } :=
      IsTrans.trans _ _ _ hsame (.edited hgett ⟨fun h => h, rfl⟩)
    rw [← htaken] at hsubmitted ⊢
    split
    · rename_i hshort
      refine hrest (f := e.submitted payload (taken s payload)) hsubmitted ?_ rfl rfl rfl hsending hbytes ?_ hshort
      · dsimp only
        rw [FlowTable.get_modify_self, hgett]
        rfl
      · intro error herror
        rw [hhead] at herror
        cases herror
    · exact Ends.pure (.inl hsubmitted)
  | error error =>
    have htaken : taken s payload = 0 := by
      unfold taken
      rw [hhead]
    dsimp only [Except.map]
    cases error with
    | wouldBlock =>
      have hblocked := hrest hsame hgett rfl rfl rfl hsending hbytes (fun error herror => by
        rw [hhead] at herror
        cases herror
        rfl) (by omega)
      rw [htaken, List.drop_zero] at hblocked
      exact hblocked
    | unexpectedEof => exact Ends.throw hsame
    | os code => exact Ends.throw hsame

/-- The segment is not a SYN sent again. -/
def Reaches (e : FlowEntry) (segment : TcpSegment) : Prop :=
  ¬(segment.flags.syn = true ∧ segment.flags.ack = false ∧
    (e.flow.state = .connecting ∨ e.flow.state = .synReceived))

/-- A reset finds that the flow can be closed, and a FIN whose payload is left waiting on a flow that is
neither watched for room nor enlisted can be acknowledged. -/
structure SegmentHeeded (cfg : Config) (s : Reactor) (id : FlowId) (e : FlowEntry) (segment : TcpSegment) : Prop where
  closes : segment.flags.rst = true →
    TapCapacity s id ∧ s.kernel.epollDelete.head = .ok () ∧ e.construction.activeSides.isSome = true
  acknowledges : ∀ n, (e.received segment).2 = .inOrder n true → 0 < n → Settles s e segment →
    Leaves cfg s e segment.payload → e.desiredSocketInterest ≠ watchful → id ∉ s.ackRefreshQueue →
    Acknowledges cfg s e.construction

theorem abreast_of_heeds {α : Type} {m : Io α} (hm : Heeds (Minds .none) (fun _ => True) m) (h : Abreast none s) :
    Ends m s (fun _ t => Abreast none t) fun _ t => Abreast none t :=
  Ends.mono (hm s) (fun _ _ ht => h.minds ht) fun _ _ ht => h.minds ht.1

theorem resetSegment_abreast (cfg : Config) {segment : TcpSegment} (h : Abreast none s) (hget : s.flows.get id = some e)
    (hrst : segment.flags.rst = true) (hcapacity : TapCapacity s id) (hdelete : s.kernel.epollDelete.head = .ok ())
    (hactive : e.construction.activeSides.isSome = true) :
    Ends (receiveSegment id segment) s (fun disposition t => disposition = .reset ∧
      Ends (closeFlow cfg id) t (fun _ u => Abreast none u) fun _ u => Abreast none u) fun _ _ => False := by
  have hreset : (e.received segment).2 = .reset := by
    unfold FlowEntry.received Flow.receive
    rw [hrst]
    rfl
  unfold receiveSegment
  refine Ends.get_bind ?_
  rw [hget]
  refine Ends.bind (R := fun a t => e = a ∧ s = t) (Ends.pure ⟨rfl, rfl⟩) ?_
  rintro _ _ ⟨rfl, rfl⟩
  refine Ends.bind (R := fun _ t => { s with journal := .segment id e segment :: s.journal } = t) (Ends.modify rfl) ?_
  rintro _ _ rfl
  dsimp only
  refine Ends.bind (modifyEntry_ends (s := { s with journal := .segment id e segment :: s.journal }) hget _) ?_
  rintro _ _ rfl
  rw [if_pos hreset]
  refine Ends.pure ⟨hreset, ?_⟩
  set t : Reactor := { s with
    flows := s.flows.modify id fun _ => (e.received segment).1
    journal := .segment id e segment :: s.journal } with ht
  have hgett : t.flows.get id = some (e.received segment).1 := by
    rw [ht]
    dsimp only
    rw [FlowTable.get_modify_self, hget]
    rfl
  have hminds : Minds (.free id) s t :=
    IsTrans.trans _ _ _ (Minds.edited hget (.inl rfl)) (Minds.same rfl fun _ h => h)
  have hclose := closeFlow_closed cfg hgett hactive hcapacity.1
  refine Ends.mono (hclose.and ((rounds_minds (.free id)).closeFlow cfg id t)) ?_ ?_
  · rintro _ u ⟨⟨-, -, hretired⟩, hu⟩
    exact h.minds_free (IsTrans.trans _ _ _ hminds hu) hretired
  · rintro _ u ⟨⟨hfails, -⟩, -⟩
    exact absurd ⟨hdelete, hcapacity.2⟩ hfails

theorem finishSegment_abreast (h : Abreast (some id) s) :
    Ends (finishSegment cfg id) s (fun _ t => Abreast none t) fun _ t => Abreast none t := by
  unfold finishSegment
  refine Ends.bind (R := fun _ t => Abreast none t) (Ends.modify ?_) fun _ t ht =>
    abreast_of_heeds ((rounds_minds .none).closeIfTimeWait cfg id) ht
  have hlisted : Minds .none s (if id ∈ s.ackRefreshQueue then s
      else { s with ackRefreshQueue := s.ackRefreshQueue ++ [id] }) := by
    split
    · exact Std.Refl.refl s
    · exact .same rfl fun _ h => List.mem_append_left _ h
  refine (h.minds hlisted).settled fun _ _ _ => .inr ?_
  split
  · assumption
  · exact List.mem_append_right _ List.mem_cons_self

theorem delivered_abreast (fin : Bool) (h : Abreast none s) :
    Ends (do
      if fin then
        forwardFin id
        sendFinAck cfg id
      else pure ()
      finishSegment cfg id : Io Unit) s (fun _ t => Abreast none t) fun _ t => Abreast none t := by
  have hP := rounds_minds .none
  cases fin with
  | false => exact abreast_of_heeds (hP.finishSegment cfg id) h
  | true =>
    exact abreast_of_heeds ((hP.forwardFin id).bind fun _ => (hP.sendAckKind cfg id true).bind fun _ =>
      hP.finishSegment cfg id) h

theorem Acknowledges.of_sending {construction : FlowConstruction} (h : Acknowledges cfg s construction)
    (hsending : sending t = sending s) : Acknowledges cfg t construction := by
  simp only [sending, Prod.mk.injEq] at hsending
  obtain ⟨hpool, hqueue, htest, hwrite, hmodify⟩ := hsending
  unfold Acknowledges Passes transit handover at *
  rw [hpool, hqueue, htest, hwrite, hmodify]
  exact h

theorem waiting_abreast (fin : Bool) (h : Abreast none s) (hget : s.flows.get id = some e)
    (hopen : id ∉ s.flows.deferred) (hwaits : Waiting id e s t)
    (hack : fin = true → e.desiredSocketInterest ≠ watchful → id ∉ s.ackRefreshQueue →
      Acknowledges cfg s e.construction) :
    Ends (do
      if fin then
        forwardFin id
        sendFinAck cfg id
      else pure ()
      finishSegment cfg id : Io Unit) t (fun _ u => Abreast none u) fun _ u => Abreast none u := by
  obtain ⟨hminds, hsending, f, hf, hpending, harmed, hconstruction⟩ := hwaits
  have hlag := (h.lagging (some id)).minds_about hminds
  by_cases hwatched : e.desiredSocketInterest = watchful ∨ id ∈ s.ackRefreshQueue
  · refine delivered_abreast fin (hlag.settled fun g hg _ => ?_)
    rw [hf] at hg
    cases hg
    rcases (h id e hget hopen).2 with hnone | hset | hlisted
    · cases hnone
    · rcases hwatched with hwatched | hlisted
      · exact .inl (harmed.trans (hset.trans (hwatched.trans (FlowEntry.desired_of_pending hpending).symm)))
      · exact .inr (hminds.listed id hlisted)
    · exact .inr (hminds.listed id hlisted)
  obtain ⟨hidle, hunlisted⟩ := not_or.mp hwatched
  cases fin with
  | false => exact finishSegment_abreast hlag
  | true =>
    have hacks := hack rfl hidle hunlisted
    refine Ends.bind (R := fun _ u => Abreast (some id) u ∧ sending u = sending s ∧
      ∃ g, u.flows.get id = some g ∧ g.construction = e.construction) ?_ ?_
    · unfold forwardFin
      refine Ends.bind (Ends.mono (flowEntry_ends hf) (fun _ _ h => h) fun _ _ h => h.elim) ?_
      rintro _ _ ⟨rfl, rfl⟩
      rw [hpending, if_neg Bool.false_ne_true]
      refine Ends.mono (modifyEntry_ends hf _) ?_ fun _ _ h => h.elim
      rintro _ _ rfl
      refine ⟨hlag.minds (.edited hf ⟨fun h => h, rfl⟩), hsending, { f with pendingShutdown := true }, ?_, hconstruction⟩
      dsimp only
      rw [FlowTable.get_modify_self, hf]
      rfl
    rintro _ u ⟨hlagu, hsendingu, g, hg, hgconstruction⟩
    have hpasses := sendFinAck_passes cfg hg (hgconstruction ▸ hacks.of_sending hsendingu)
    refine Ends.bind (Ends.mono (hpasses.and ((rounds_minds .none).sendAckKind cfg id true u)) (fun _ _ h => h.2)
      fun _ _ h => h.1.elim) fun _ v hv => ?_
    exact finishSegment_abreast (hlagu.minds hv)

theorem Leaves.of_surroundings {f : FlowEntry} (haround : surroundings id t = surroundings id s)
    (hqueue : f.pendingSocket = e.pendingSocket) : Leaves cfg t f payload ↔ Leaves cfg s e payload := by
  simp only [surroundings, Prod.mk.injEq] at haround
  obtain ⟨-, -, hbytes, -, -, -, hsend, -, -, -⟩ := haround
  unfold Leaves taken
  rw [hbytes, hsend, hqueue]

theorem inOrder_abreast {segment : TcpSegment} {n : ℕ} {fin : Bool} (h : Abreast none s)
    (hget : s.flows.get id = some e) (hopen : id ∉ s.flows.deferred)
    (hinOrder : (e.received segment).2 = .inOrder n fin) (hn : 0 < n) (hheeded : SegmentHeeded cfg s id e segment)
    (hsettles : Settles s e segment) (haround : surroundings id t = surroundings id s) (htest : t.test = s.test)
    (hminds : Minds .none s t) :
    Ends (do
      let delivered ← submitNamespacePayload cfg id segment.payload
      if delivered then
        if fin then
          forwardFin id
          sendFinAck cfg id
        else pure ()
        finishSegment cfg id
      else pure () : Io Unit) t (fun _ u => Abreast none u) fun _ u => Abreast none u := by
  have hpayload : segment.payload ≠ [] := by
    rw [← List.length_pos_iff, inOrder_length hinOrder hn]
    exact hn
  have hfields := haround
  simp only [surroundings, Prod.mk.injEq, hget, Option.map_some] at hfields
  obtain ⟨hmap, hdeferred, -, hpool, hqueue, -, -, hwrite, hmodify, -⟩ := hfields
  obtain ⟨f, hf, hfields⟩ := Option.map_eq_some_iff.mp hmap
  simp only [Prod.mk.injEq] at hfields
  obtain ⟨hfqueue, -, hfconstruction⟩ := hfields
  have hopent : id ∉ t.flows.deferred := by
    rw [hdeferred]
    exact hopen
  have hsending : sending t = sending s := by
    unfold sending
    rw [hpool, hqueue, htest, hwrite, hmodify]
  have habreast := h.minds hminds
  refine Ends.bind (Ends.mono (submitNamespacePayload_waits hf hpayload) (fun _ _ h => h)
    fun _ _ hu => habreast.minds hu) ?_
  rintro delivered u (hu | ⟨rfl, hleaves, hwaits⟩)
  · cases delivered with
    | true => exact delivered_abreast fin (habreast.minds hu)
    | false => exact Ends.pure (habreast.minds hu)
  refine waiting_abreast fin habreast hf hopent hwaits fun hfin hidle hunlisted => ?_
  subst hfin
  obtain ⟨e', he', hheld⟩ := hminds.entries id f hf hopent
  rw [hget] at he'
  cases he'
  have hdesired : f.desiredSocketInterest = e.desiredSocketInterest := (Prod.mk.inj hheld.2).2
  rw [hdesired] at hidle
  rw [Leaves.of_surroundings haround hfqueue] at hleaves
  rw [hfconstruction]
  have hacks := hheeded.acknowledges n hinOrder hn hsettles hleaves hidle fun hl => hunlisted (hminds.listed id hl)
  exact hacks.of_sending hsending

theorem hooks_receiveSegment (id : FlowId) (segment : TcpSegment) : Inert test (receiveSegment id segment) := by
  have hensure : ∀ {α : Type} (text : String) (a : Option α), Inert test (ensure text a) := by
    intro α text a
    cases a with
    | none => exact Inert.throw _
    | some a => exact Inert.pure a
  have hanswer : ∀ {α : Type} (a : Except IoError α), Inert test (orThrow a) := by
    intro α a
    cases a with
    | error error => exact Inert.throw _
    | ok a => exact Inert.pure a
  have hentry : Inert test (flowEntry id) := by
    refine Inert.bind Inert.get fun s => ?_
    cases s.flows.get id with
    | none => exact Inert.throw _
    | some e => exact Inert.pure e
  have hedit : ∀ f, Inert test (modifyEntry id f) := fun f => hentry.bind fun _ => Inert.modify fun _ => rfl
  have hask : ∀ {α : Type} (answers : Kernel → Stream' α) (advance : Kernel → Kernel), Inert test (ask answers advance) :=
    fun _ _ _ => rfl
  have hdone : ∀ previousAck, Inert test (settleAcknowledgment id previousAck) := by
    intro previousAck
    refine hentry.bind fun e => ?_
    split
    · exact Inert.pure ()
    dsimp only
    split
    · refine Inert.bind ?_ fun answer => Inert.bind (Inert.modify fun _ => rfl) fun _ => (hanswer answer).bind fun n => ?_
      · refine (hask _ _).bind fun answer => ?_
        cases answer with
        | error error => exact Inert.pure _
        | ok inflow => exact hentry.bind fun _ => (hedit _).bind fun _ => Inert.pure _
      · split
        · exact Inert.bind (Inert.throw _) fun _ => hedit _
        · exact Inert.bind (Inert.modify fun _ => rfl) fun _ => hedit _
    · exact hedit _
  unfold receiveSegment
  refine Inert.bind Inert.get fun s => (hensure _ _).bind fun e => Inert.bind (Inert.modify fun _ => rfl) fun _ => ?_
  generalize e.received segment = received
  refine (hedit _).bind fun _ => ?_
  split
  · exact Inert.pure _
  refine Inert.bind ?_ fun _ => (hask _ _).bind fun now => Inert.bind ?_ fun _ => (hdone _).bind fun _ => Inert.pure _
  · refine hentry.bind fun e => ?_
    split
    · exact Inert.pure ()
    · exact (hask _ _).bind fun answer => Inert.bind (Inert.modify fun _ => rfl) fun _ =>
        (hanswer answer).bind fun _ => hedit _
  · refine hentry.bind fun e => (hedit _).bind fun _ => Inert.modify fun s => ?_
    dsimp only
    split <;> rfl

theorem minded_received (id : FlowId) {segment : TcpSegment} (hrst : segment.flags.rst = false) (e : FlowEntry) :
    Minded .none id e (e.received segment).1 := ⟨FlowEntry.received_open hrst, rfl⟩

theorem handleExistingTcp_abreast (segment : TcpSegment) (h : Abreast none s) (hget : s.flows.get id = some e)
    (hheeded : id ∉ s.flows.deferred → Reaches e segment → SegmentHeeded cfg s id e segment) :
    Ends (handleExistingTcp cfg id segment) s (fun _ t => Abreast none t) fun _ t => Abreast none t := by
  by_cases hretired : id ∈ s.flows.deferred
  · have hfree : Heeds (Minds (.free id)) (fun _ => True) (handleExistingTcp cfg id segment) :=
      (rounds_minds (.free id)).handleExistingTcp cfg (wide_free id) fun _ => .inl rfl
    exact Ends.mono (hfree s) (fun _ t ht => h.minds_free ht (ht.deferred id hretired)) fun _ t ht =>
      h.minds_free ht.1 (ht.1.deferred id hretired)
  have hP := rounds_minds .none
  unfold handleExistingTcp
  refine Ends.bind (Ends.mono (flowEntry_ends hget) (fun _ _ h => h) fun _ _ h => h.elim) ?_
  rintro _ _ ⟨rfl, rfl⟩
  split
  · exact Ends.pure h
  rename_i hconnecting
  split
  · exact abreast_of_heeds (hP.retransmitOldest cfg id false) h
  rename_i hsynReceived
  have hsafe := hheeded hretired fun hsyn =>
    hsyn.2.2.elim (fun hs => hconnecting ⟨hsyn.1, hsyn.2.1, hs⟩) fun hs => hsynReceived ⟨hsyn.1, hsyn.2.1, hs⟩
  cases hrst : segment.flags.rst with
  | true =>
    obtain ⟨hcapacity, hdelete, hactive⟩ := hsafe.closes hrst
    refine Ends.bind (Ends.mono (resetSegment_abreast cfg h hget hrst hcapacity hdelete hactive)
      (fun _ _ h => h) fun _ _ h => h.elim) ?_
    rintro _ t ⟨rfl, ht⟩
    exact ht
  | false =>
    have hreceive := (receiveSegment_ends segment hget (FlowEntry.received_ne_reset hrst)).and
      ((hP.receiveSegment (minded_received id hrst) s).and (hooks_receiveSegment id segment s))
    refine Ends.bind (Ends.mono hreceive (fun _ _ h => h) fun _ _ ht => h.minds ht.2.1.1) ?_
    rintro _ t ⟨⟨rfl, hsettles, haround⟩, hminds, htest⟩
    have ht := h.minds hminds
    have hacked : Ends (do sendAck cfg id; finishSegment cfg id : Io Unit) t (fun _ u => Abreast none u)
        fun _ u => Abreast none u :=
      abreast_of_heeds ((hP.sendAckKind cfg id false).bind fun _ => hP.finishSegment cfg id) ht
    cases hdisposition : (e.received segment).2 with
    | reset => exact absurd hdisposition (FlowEntry.received_ne_reset hrst)
    | inOrder n fin =>
      dsimp only
      split
      · rename_i hn
        exact inOrder_abreast h hget hretired hdisposition hn hsafe hsettles haround htest hminds
      · exact delivered_abreast fin ht
    | duplicate => exact hacked
    | outOfOrder => exact hacked
    | outsideWindow => exact hacked
    | invalid => exact abreast_of_heeds ((hP.closeFlow cfg id).bind fun _ => hP.finishSegment cfg id) ht

end Reactor

end Yayatht
