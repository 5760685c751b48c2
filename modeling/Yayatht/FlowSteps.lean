import Yayatht.FlowBase

set_option autoImplicit false

namespace Yayatht
open Sequence EffectLogic

section Calls

theorem silent_ask {α : Type} (answers : Kernel → Stream' α) (advance : Kernel → Kernel) :
    Silent core (ask answers advance) := fun _ => (rfl : core _ = core _)

theorem inert_orThrow {α : Type} (r : Except IoError α) : Inert core (orThrow r) := by
  cases r with
  | ok a => exact Inert.pure a
  | error e => exact Inert.throw (Error.io e)

namespace Call

theorem silent_now : Silent core now := silent_ask _ _
theorem inert_random : Inert core random := (silent_ask _ _).inert.bind inert_orThrow
theorem silent_tapRead : Silent core tapRead := silent_ask _ _
theorem silent_tapWrite (length : ℕ) : Silent core (tapWrite length) :=
  (silent_ask _ _).bind fun _ => Silent.pure _
theorem silent_localAddress : Silent core localAddress := silent_ask _ _
theorem inert_bufferSizes : Inert core bufferSizes := (silent_ask _ _).inert.bind inert_orThrow
theorem inert_pollWritable : Inert core pollWritable := (silent_ask _ _).inert.bind inert_orThrow
theorem inert_pendingError : Inert core pendingError := (silent_ask _ _).inert.bind inert_orThrow
theorem inert_drainTxTimestamps : Inert core drainTxTimestamps := (silent_ask _ _).inert.bind inert_orThrow
theorem silent_enableTxAckTimestamps : Silent core enableTxAckTimestamps := silent_ask _ _
theorem silent_bytesAcked : Silent core bytesAcked := silent_ask _ _
theorem silent_setWindowClamp : Silent core setWindowClamp := silent_ask _ _
theorem silent_send (length : ℕ) : Silent core (send length) :=
  (silent_ask _ _).bind fun _ => Silent.pure _
theorem silent_shutdownWrite : Silent core Call.shutdownWrite := silent_ask _ _
theorem inert_epollAdd : Inert core epollAdd := (silent_ask _ _).inert.bind inert_orThrow
theorem inert_epollModify : Inert core epollModify := (silent_ask _ _).inert.bind inert_orThrow
theorem inert_epollDelete : Inert core epollDelete := (silent_ask _ _).inert.bind inert_orThrow
theorem silent_control : Silent core control := silent_ask _ _
theorem inert_timer : Inert core timer := (silent_ask _ _).inert.bind inert_orThrow
theorem silent_setPeekOffsetAnswer : Silent core setPeekOffsetAnswer := silent_ask _ _
theorem silent_peekAnswer : Silent core peekAnswer := silent_ask _ _
theorem silent_discardAnswer : Silent core discardAnswer := silent_ask _ _

end Call

variable {α β : Type} {c : Core} {E : Core → Prop} {Q : β → Core → Prop}

theorem Seen.expect_bind {text : String} {o : Option α} {f : α → Io β} (hE : E c)
    (h : ∀ a, o = some a → Seen core (f a) c Q E) : Seen core (expect text o >>= f) c Q E := by
  cases o with
  | some a => exact h a rfl
  | none => exact Seen.throw (e := Error.panic text) hE

theorem Seen.ensure_bind {text : String} {o : Option α} {f : α → Io β} (hE : E c)
    (h : ∀ a, o = some a → Seen core (f a) c Q E) : Seen core (ensure text o >>= f) c Q E := by
  cases o with
  | some a => exact h a rfl
  | none => exact Seen.throw (e := Error.invariant text) hE

theorem Seen.orThrow_bind {r : Except IoError α} {f : α → Io β} (hE : E c)
    (h : ∀ a, r = .ok a → Seen core (f a) c Q E) : Seen core (orThrow r >>= f) c Q E := by
  cases r with
  | ok a => exact h a rfl
  | error e => exact Seen.throw (e := Error.io e) hE

theorem Seen.flowEntry_bind {id : FlowId} {f : FlowEntry → Io β} (hE : E c)
    (h : ∀ e, c.flows.get id = some e → Seen core (f e) c Q E) :
    Seen core (flowEntry id >>= f) c Q E := by
  unfold flowEntry
  rw [bind_assoc]
  refine Seen.get_bind fun s hs => Seen.expect_bind hE fun e he => h e ?_
  rw [← hs]
  exact he

theorem Seen.flowEntry_known {id : FlowId} {e : FlowEntry} {f : FlowEntry → Io β}
    (hget : c.flows.get id = some e) (h : Seen core (f e) c Q E) :
    Seen core (flowEntry id >>= f) c Q E := by
  unfold flowEntry
  rw [bind_assoc]
  refine Seen.get_bind fun s hs => ?_
  rw [show s.flows = (core s).flows from rfl, hs, hget]
  exact h

theorem Seen.note {n : Notice} {R : Unit → Core → Prop} (h : R () (c.log [n])) :
    Seen core (note n) c R E := by
  refine Seen.modify (d := c.log [n]) ?_ h
  rintro s rfl
  rfl

theorem Seen.note_bind {n : Notice} {f : Unit → Io β} (h : Seen core (f ()) (c.log [n]) Q E) :
    Seen core (Yayatht.note n >>= f) c Q E := by
  refine Seen.bind (R := fun _ d => d = c.log [n]) (Seen.note rfl) ?_
  rintro _ _ rfl
  exact h

theorem Seen.modifyEntry {id : FlowId} {e : FlowEntry} {g : FlowEntry → FlowEntry}
    {R : Unit → Core → Prop} (hget : c.flows.get id = some e) (h : R () (c.put id (g e))) :
    Seen core (modifyEntry id g) c R E := by
  rintro s rfl
  have hs : s.flows.get id = some e := hget
  have hfound : Ends (flowEntry id) s (fun _ t => t = s) fun _ _ => False := by
    unfold flowEntry
    refine Ends.bind (R := fun a t => a = s ∧ t = s) (Ends.get ⟨rfl, rfl⟩) ?_
    rintro a t ⟨rfl, rfl⟩
    rw [hs]
    exact Ends.pure rfl
  have hp : core { s with flows := s.flows.modify id g } = (core s).put id (g e) := by
    unfold core Core.put
    rw [FlowTable.modify_eq_of_get g hs]
  unfold Yayatht.modifyEntry
  refine Ends.bind (R := fun _ t => t = s) (Ends.mono hfound (fun _ _ ht => ht) fun _ _ ht => ht.elim) ?_
  rintro _ t rfl
  refine Ends.modify ?_
  rw [hp]
  exact h

theorem Seen.modifyEntry_bind {id : FlowId} {e : FlowEntry} {g : FlowEntry → FlowEntry}
    {f : Unit → Io β} (hget : c.flows.get id = some e)
    (h : Seen core (f ()) (c.put id (g e)) Q E) :
    Seen core (Yayatht.modifyEntry id g >>= f) c Q E := by
  refine Seen.bind (R := fun _ d => d = c.put id (g e)) (Seen.modifyEntry hget rfl) ?_
  rintro _ _ rfl
  exact h

theorem Seen.noteFailure {n : Notice} {m : Io β} {F : Core → Prop} (h : Seen core m c Q F)
    (hE : ∀ d, F d → E (d.log [n])) : Seen core (noteFailure n m) c Q E := by
  refine Seen.tryCatch h fun e d hd => ?_
  exact Seen.note_bind (Seen.throw (hE d hd))

theorem Call.connect_seen (peer : SocketAddr) :
    Seen core (Call.connect peer) c (fun _ d => d = c.log [.dialed .stream peer]) E :=
  Seen.note_bind ((silent_ask _ _).seen _)

theorem Seen.flowIsClosed_bind {id : FlowId} {f : Bool → Io β}
    (hclosed : (∀ e, c.flows.get id = some e → e.open? = false) → Seen core (f true) c Q E)
    (hopen : ∀ e, c.flows.get id = some e → e.open? = true → Seen core (f false) c Q E) :
    Seen core (flowIsClosed id >>= f) c Q E := by
  unfold flowIsClosed
  rw [bind_assoc]
  refine Seen.get_bind fun s hs => ?_
  have hflows : s.flows = c.flows := by
    rw [← hs]
    rfl
  rw [pure_bind, hflows]
  cases hget : c.flows.get id with
  | none => exact hclosed (by simp [hget])
  | some e =>
    by_cases hstate : e.flow.state = .closed
    · simpa [hstate] using hclosed (by simp [hget, FlowEntry.open?, hstate])
    · simpa [hstate] using hopen e hget (by simp [FlowEntry.open?, hstate])

end Calls

/-- The flows are as before and the journal only grew. -/
structure Kept (c d : Core) : Prop where
  flows : d.flows = c.flows
  journal : ∃ notices, d.journal = notices ++ c.journal

theorem Kept.refl (c : Core) : Kept c c := ⟨rfl, [], rfl⟩

theorem Kept.trans {c d e : Core} (h : Kept c d) (h' : Kept d e) : Kept c e := by
  obtain ⟨m, hm⟩ := h.journal
  obtain ⟨n, hn⟩ := h'.journal
  exact ⟨h'.flows.trans h.flows, n ++ m, by rw [hn, hm, List.append_assoc]⟩

theorem Kept.log (c : Core) (notices : List Notice) : Kept c (c.log notices) := ⟨rfl, notices, rfl⟩

theorem Kept.spared {c d : Core} {id : FlowId} (h : Kept c d) (hs : Spared c id) : Spared d id := by
  obtain ⟨ns, hn⟩ := h.journal
  rcases hs with ⟨e, hget, ho⟩ | hx
  · exact .inl ⟨e, by rw [h.flows]; exact hget, ho⟩
  · right
    rw [hn]
    exact hx.append ns

namespace Reactor

variable (cfg : Config) {c : Core}

theorem silent_noteFramePoolExhaustion : Silent core noteFramePoolExhaustion :=
  Silent.modify fun _ => rfl

theorem silent_framesAvailable : Silent core framesAvailable := fun _ => (rfl : core _ = core _)

theorem silent_countTapTx : Silent core countTapTx := Silent.modify fun _ => rfl

theorem silent_countReset : Silent core countReset := Silent.modify fun _ => rfl

theorem silent_releaseFrame (slot : FrameSlot) : Silent core (releaseFrame slot) :=
  Silent.modify fun s => by
    cases slot.tier <;> rfl

theorem inert_updateTapInterest : Inert core updateTapInterest := by
  refine Inert.get_bind fun s => ?_
  by_cases h : s.framePool.available = 0 ∧ s.tapQueue = []
  · rw [if_pos h]
    exact Ends.bind (R := fun _ t => core t = core s) rfl fun _ _ ht => ht
  · rw [if_neg h]
    exact Call.inert_epollModify s

theorem acquireFrame_seen :
    Seen core acquireFrame c (fun _ d => d = c) fun d => d = c.log [.poolDry] := by
  refine Seen.get_bind fun s hs => Seen.bind (Seen.set (Q := fun _ d => d = c) hs) ?_
  rintro _ d rfl
  cases s.framePool.acquire.2 with
  | some index => exact Seen.pure rfl
  | none => exact Seen.note_bind (Seen.silent_bind silent_noteFramePoolExhaustion fun _ => Seen.throw rfl)

theorem acquirePayloadFrame_seen (required : ℕ) :
    Seen core (acquirePayloadFrame cfg required) c (fun _ d => d = c) fun d => d = c.log [.poolDry] := by
  refine Seen.get_bind fun s hs => ?_
  by_cases hlarge : required > cfg.mtuFrameCapacity
  · rw [if_pos hlarge]
    refine Seen.bind (Seen.set (Q := fun _ d => d = c) hs) ?_
    rintro _ d rfl
    cases s.gsoPool.acquire.2 with
    | some index => exact Seen.pure rfl
    | none =>
      refine Seen.silent_bind (Silent.modify fun _ => ?_) fun _ => acquireFrame_seen
      rfl
  · rw [if_neg hlarge]
    exact acquireFrame_seen

theorem reserveRetainedBytes_seen (length : ℕ) {E : Core → Prop} :
    Seen core (reserveRetainedBytes cfg length) c
      (fun reserved d =>
        (reserved = true ∧ length ≤ cfg.maxRetainedTcpBytes - c.retained ∧
          d = { c with retained := c.retained + length }) ∨
        (reserved = false ∧ cfg.maxRetainedTcpBytes - c.retained < length ∧ d = c)) E := by
  refine Seen.get_bind fun s hs => ?_
  subst hs
  by_cases h : length > cfg.maxRetainedTcpBytes - s.retainedSocketBytes
  · rw [if_pos h]
    refine Seen.bind (Seen.set (Q := fun _ d => d = core s) rfl) ?_
    rintro _ d rfl
    exact Seen.pure (.inr ⟨rfl, h, rfl⟩)
  · rw [if_neg h]
    refine Seen.bind (Seen.set (Q := fun _ d =>
      d = { core s with retained := (core s).retained + length }) rfl) ?_
    rintro _ d rfl
    exact Seen.pure (.inl ⟨rfl, Nat.le_of_not_lt h, rfl⟩)

theorem releaseRetainedBytes_seen (length : ℕ) {E : Core → Prop} :
    Seen core (releaseRetainedBytes length) c (fun _ d => d = c.release length) E := by
  refine Seen.modify (d := c.release length) ?_ rfl
  rintro s rfl
  rfl

theorem commitTapSend_seen {queued : QueuedFrame} {rest : List QueuedFrame}
    (hqueue : c.tapQueue = queued :: rest) :
    Seen core (commitTapSend queued.flow queued.frame queued.plan) { c with tapQueue := rest }
      (fun _ d => Act cfg c d) (Act cfg c) := by
  obtain ⟨flow, frame, plan, reserved⟩ := queued
  unfold commitTapSend
  have hrelease : ∀ d, Act cfg c d →
      Seen core (releaseFrame frame.slot) d (fun _ d => Act cfg c d) (Act cfg c) := fun d hd =>
    Seen.mono (E := Act cfg c) ((silent_releaseFrame frame.slot).seen d) (fun _ _ he => he ▸ hd)
      fun _ he => he
  have hplain : flow = none ∨ plan = none →
      Seen core (pure PUnit.unit >>= fun _ => releaseFrame frame.slot) { c with tapQueue := rest }
        (fun _ d => Act cfg c d) (Act cfg c) := fun h => by
    rw [pure_bind]
    exact hrelease _ (.commitPlain _ rest hqueue h)
  cases flow with
  | none => exact hplain (.inl rfl)
  | some id =>
    cases plan with
    | none => exact hplain (.inr rfl)
    | some plan =>
      dsimp only
      refine Seen.bind (R := fun _ d => Act cfg c d) ?_ fun _ d hd => hrelease d hd
      unfold commitPlan
      refine Seen.get_bind fun s hs => ?_
      have hflows : s.flows = c.flows := by rw [show s.flows = (core s).flows from rfl, hs]
      rw [hflows]
      cases hget : c.flows.get id with
      | none =>
        exact Seen.note_bind (Seen.throw (.commitMissed _ rest hqueue id plan rfl rfl hget))
      | some e =>
        dsimp only
        cases hmatch : e.commitMatches plan with
        | true =>
          rw [if_pos rfl]
          refine Seen.silent_bind Call.silent_now fun now => ?_
          exact Seen.modifyEntry hget (.commit _ rest hqueue id plan e now rfl rfl hget hmatch)
        | false =>
          rw [if_neg (by decide)]
          refine Seen.modifyEntry_bind hget (Seen.note_bind (Seen.throw ?_))
          exact .commitMismatched _ rest hqueue id plan e rfl rfl hget hmatch

theorem commitTapSend_plain {flow : Option FlowId} {plan : Option SendPlan} (frame : PooledFrame)
    (h : flow = none ∨ plan = none) : Silent core (commitTapSend flow frame plan) := by
  unfold commitTapSend
  cases flow with
  | none => exact silent_releaseFrame frame.slot
  | some id =>
    cases plan with
    | none => exact silent_releaseFrame frame.slot
    | some plan => simp at h

theorem abandonFrame_seen (flow : Option FlowId) (frame : PooledFrame) (plan : Option SendPlan)
    (reserved : ℕ) {E : Core → Prop} :
    Seen core (abandonFrame flow frame plan reserved) c
      (fun _ d => d = (c.log [.tapFailed flow plan]).release reserved) E := by
  refine Seen.note_bind (Seen.bind (releaseRetainedBytes_seen reserved) ?_)
  rintro _ d rfl
  exact (silent_releaseFrame frame.slot).seen _

theorem injectedDrop_silent (plan : Option SendPlan) : Silent core (injectedDrop plan) := by
  intro s
  refine Ends.bind (R := fun a t => a = s ∧ t = s) (Ends.get ⟨rfl, rfl⟩) ?_
  rintro a t ⟨rfl, rfl⟩
  cases plan with
  | none => exact Ends.pure rfl
  | some plan =>
    dsimp only
    split
    · exact (rfl : core _ = core _)
    · split
      · exact (rfl : core _ = core _)
      · split
        · exact (rfl : core _ = core _)
        · split
          · exact (rfl : core _ = core _)
          · exact Ends.pure rfl

theorem pushTapQueue_seen (queued : QueuedFrame) {P : Core → Prop}
    (h : P { c with tapQueue := c.tapQueue ++ [queued] }) :
    Seen core (pushTapQueue queued) c (fun _ d => P d) P := by
  refine Seen.bind (R := fun _ d => d = { c with tapQueue := c.tapQueue ++ [queued] })
    (Seen.modify (d := { c with tapQueue := c.tapQueue ++ [queued] }) ?_ rfl) ?_
  · rintro s rfl
    rfl
  · rintro _ d rfl
    exact Seen.mono (inert_updateTapInterest.seen _) (fun _ _ hd => hd ▸ h) fun _ hd => hd ▸ h

/-- A frame handed to the TAP is queued, or written or dropped as the head of an empty queue. -/
theorem queueTap_seen {flow : Option FlowId} {frame : PooledFrame} {plan : Option SendPlan}
    {P : Core → Prop} (queued : QueuedFrame)
    (hq : queued = ⟨flow, frame, plan, plan.elim 0 SendPlan.length⟩) (hqueued : P (c.push queued))
    (hcommit : (c.push queued).tapQueue = [queued] →
      Seen core (commitTapSend flow frame plan) { c.push queued with tapQueue := [] }
        (fun _ d => P d) P)
    (hdrop : (c.push queued).tapQueue = [queued] →
      P (({ c.push queued with tapQueue := [] }.log [.tapFailed flow plan]).release
        queued.reservedRetained))
    (hfull : cfg.maxRetainedTcpBytes - c.retained < queued.reservedRetained → P c) :
    Seen core (queueTap cfg flow frame plan) c (fun _ d => P d) P := by
  subst hq
  unfold queueTap
  refine Seen.bind (reserveRetainedBytes_seen cfg _) ?_
  rintro reserved d (⟨rfl, hle, rfl⟩ | ⟨rfl, hlt, rfl⟩)
  · rw [if_pos rfl]
    refine Seen.get_bind fun s hs => ?_
    have hqueue : s.tapQueue = c.tapQueue := by rw [show s.tapQueue = (core s).tapQueue from rfl, hs]
    rw [hqueue]
    by_cases hempty : c.tapQueue = []
    · have hhead : (c.push ⟨flow, frame, plan, plan.elim 0 SendPlan.length⟩).tapQueue =
          [⟨flow, frame, plan, plan.elim 0 SendPlan.length⟩] := by
        unfold Core.push
        rw [hempty]
        rfl
      have hpopped : ({ c with retained := c.retained + plan.elim 0 SendPlan.length } : Core) =
          { c.push ⟨flow, frame, plan, plan.elim 0 SendPlan.length⟩ with tapQueue := [] } := by
        unfold Core.push
        rw [hempty]
      rw [if_pos hempty, hpopped]
      refine Seen.silent_bind (injectedDrop_silent plan) fun dropped => ?_
      cases dropped with
      | true => exact hcommit hhead
      | false =>
        rw [if_neg (by decide)]
        refine Seen.silent_bind (Call.silent_tapWrite _) fun answer => ?_
        have habandon : ∀ error : Error,
            Seen core (abandonFrame flow frame plan (plan.elim 0 SendPlan.length) >>= fun _ => throw error)
              { c.push ⟨flow, frame, plan, plan.elim 0 SendPlan.length⟩ with tapQueue := [] }
              (fun (_ : Unit) d => P d) P := fun error => by
          refine Seen.bind (abandonFrame_seen flow frame plan _) ?_
          rintro _ d rfl
          exact Seen.throw (hdrop hhead)
        cases answer with
        | ok written =>
          dsimp only
          split
          · exact Seen.silent_bind silent_countTapTx fun _ => hcommit hhead
          · exact habandon _
        | error e =>
          cases e with
          | wouldBlock =>
            rw [← hpopped]
            exact pushTapQueue_seen _ hqueued
          | unexpectedEof => exact habandon _
          | os code => exact habandon _
    · rw [if_neg hempty]
      exact pushTapQueue_seen _ hqueued
  · rw [if_neg (by decide)]
    refine Seen.silent_bind (silent_releaseFrame frame.slot) fun _ => ?_
    exact Seen.throw (hfull hlt)

theorem queueTap_plain {flow : Option FlowId} (frame : PooledFrame) {plan : Option SendPlan}
    (h : flow = none ∨ plan = none) (hz : plan.elim 0 SendPlan.length = 0) :
    Along core (Act cfg) (queueTap cfg flow frame plan) c fun _ d => Kept c d := by
  have hpush : Path (Act cfg) c (c.push ⟨flow, frame, plan, plan.elim 0 SendPlan.length⟩) :=
    .single (.enqueue _ h hz)
  refine Seen.mono (queueTap_seen (P := fun d => Path (Act cfg) c d ∧ Kept c d) cfg _ rfl
    ⟨hpush, rfl, [], rfl⟩ ?_ ?_ ?_) (fun _ _ hd => hd) fun _ hd => hd.1
  · intro hhead
    refine Seen.mono (E := fun d => Path (Act cfg) c d ∧ Kept c d)
      ((commitTapSend_plain frame h).seen _) ?_ fun _ hd => hd
    rintro _ d rfl
    exact ⟨hpush.tail (.commitPlain _ [] hhead h), rfl, [], rfl⟩
  · intro hhead
    exact ⟨hpush.tail (.drop _ [] hhead), rfl, [_, _], rfl⟩
  · intro _
    exact ⟨.refl, Kept.refl c⟩

theorem queueTap_planned (id : FlowId) (frame : PooledFrame) (plan : SendPlan)
    (hroom : plan.length ≤ cfg.maxRetainedTcpBytes - c.retained) :
    Seen core (queueTap cfg (some id) frame (some plan)) c
      (fun _ d => Path (Act cfg) (c.push ⟨some id, frame, some plan, plan.length⟩) d)
      (Path (Act cfg) (c.push ⟨some id, frame, some plan, plan.length⟩)) := by
  refine queueTap_seen cfg _ rfl .refl ?_ ?_ ?_
  · intro hhead
    exact Seen.mono (commitTapSend_seen cfg hhead) (fun _ _ hd => .single hd) fun _ hd => .single hd
  · intro hhead
    exact .single (.drop _ [] hhead)
  · intro hfull
    exact absurd hroom (Nat.not_le.mpr hfull)

theorem flushTapFrames_along (budget : ℕ) :
    Along core (Act cfg) (flushTapFrames budget) c fun _ _ => True := by
  induction budget generalizing c with
  | zero => exact Along.pure trivial
  | succ budget ih =>
    unfold flushTapFrames
    refine Seen.get_bind fun s hs => ?_
    have hqueue : s.tapQueue = c.tapQueue := by rw [show s.tapQueue = (core s).tapQueue from rfl, hs]
    rw [hqueue]
    cases hc : c.tapQueue with
    | nil => exact Along.pure trivial
    | cons queued rest =>
      dsimp only
      have hpop : ∀ {f : Unit → Io Unit} {Q : Unit → Core → Prop} {E : Core → Prop},
          Seen core (f ()) { c with tapQueue := rest } Q E →
          Seen core ((modify fun s => { s with tapQueue := rest }) >>= f) c Q E := by
        intro f Q E h
        refine Seen.bind (R := fun _ d => d = { c with tapQueue := rest })
          (Seen.modify (d := { c with tapQueue := rest }) ?_ rfl) ?_
        · rintro t rfl
          rfl
        · rintro _ d rfl
          exact h
      have habandon : ∀ error : Error,
          Seen core (abandonFrame queued.flow queued.frame queued.plan queued.reservedRetained >>=
              fun _ => throw error) { c with tapQueue := rest }
            (fun (_ : Unit) d => Path (Act cfg) c d ∧ True) (Path (Act cfg) c) := fun error => by
        refine Seen.bind (abandonFrame_seen _ _ _ _) ?_
        rintro _ d rfl
        exact Seen.throw (.single (.drop queued rest hc))
      refine Seen.silent_bind (Call.silent_tapWrite _) fun answer => ?_
      cases answer with
      | ok written =>
        dsimp only
        refine hpop ?_
        split
        · refine Seen.silent_bind silent_countTapTx fun _ => ?_
          refine Seen.bind (Seen.mono (commitTapSend_seen cfg hc) (fun _ _ hd => hd) fun _ hd =>
            .single hd) fun _ d hd => ?_
          exact ih.onward (.single hd)
        · exact habandon _
      | error e =>
        cases e with
        | wouldBlock => exact Along.pure trivial
        | unexpectedEof => exact hpop (habandon _)
        | os code => exact hpop (habandon _)

theorem flushTapQueue_along : Along core (Act cfg) flushTapQueue c fun _ _ => True :=
  Along.bind (flushTapFrames_along cfg tapTxBudget) fun _ _ _ =>
    (Along.inert inert_updateTapInterest).mono fun _ _ _ => trivial

theorem finalizeTcpFrame_seen (slot : FrameSlot) (spec : TcpFrameSpec) (payload : Bytes) :
    Seen core (finalizeTcpFrame cfg slot spec payload) c
      (fun frame d => d = c ∧ frame.body = .tcp spec payload) fun d => d = c := by
  unfold finalizeTcpFrame
  dsimp only
  split
  · exact Seen.throw rfl
  · split
    · exact Seen.silent_bind (silent_releaseFrame slot) fun _ => Seen.throw rfl
    · refine Seen.silent_bind (Silent.modify fun s => ?_) fun _ => Seen.pure ⟨rfl, rfl⟩
      split <;> rfl

theorem buildTcpFrame_seen (key : FlowKey) (plan : SendPlan) (payload : Bytes) (flags : TcpFlags)
    (mss windowScale : Option ℕ) (window : ℕ) :
    Seen core (buildTcpFrame cfg key plan payload flags mss windowScale window) c
      (fun frame d => d = c ∧ ∃ spec, frame.body = .tcp spec payload ∧ spec.plan = plan)
      fun d => d = c ∨ d = c.log [.poolDry] := by
  unfold buildTcpFrame
  refine Seen.bind (Seen.mono acquireFrame_seen (fun _ _ hd => hd) fun _ hd => .inr hd) ?_
  rintro slot d rfl
  split
  · exact Seen.silent_bind (silent_releaseFrame slot) fun _ => Seen.throw (.inl rfl)
  · refine Seen.mono (finalizeTcpFrame_seen cfg slot _ payload) ?_ fun _ hd => .inl hd
    rintro frame d ⟨rfl, hbody⟩
    exact ⟨rfl, _, hbody, rfl⟩

theorem flowFrameParameters_seen (id : FlowId) (syn : Bool) :
    Seen core (flowFrameParameters id syn) c (fun p d => d = c ∧ c.flows.get id = some p.2.1)
      fun d => d = c := by
  refine Seen.get_bind fun s hs => ?_
  refine Seen.ensure_bind rfl fun e he => Seen.ensure_bind rfl fun sides _ => Seen.pure ⟨rfl, ?_⟩
  rw [← hs]
  exact he

theorem buildFlowFrame_seen (id : FlowId) (plan : SendPlan) (payload : Bytes) (flags : TcpFlags) :
    Seen core (buildFlowFrame cfg id plan payload flags) c
      (fun frame d => ∃ e spec, c.flows.get id = some e ∧ frame.body = .tcp spec payload ∧
        spec.plan = plan ∧ d = c.log [.built id e frame.body])
      fun d => d = c ∨ d = c.log [.poolDry] := by
  unfold buildFlowFrame
  refine Seen.bind (Seen.mono (flowFrameParameters_seen id flags.syn) (fun _ _ hd => hd) fun _ hd =>
    .inl hd) ?_
  rintro ⟨key, e, window⟩ d ⟨rfl, hget⟩
  refine Seen.bind (buildTcpFrame_seen cfg key plan payload flags _ _ window) ?_
  rintro frame d ⟨rfl, spec, hbody, hplan⟩
  exact Seen.note_bind (Seen.pure ⟨e, spec, hget, hbody, hplan, rfl⟩)

theorem finalizeFlowPayloadFrame_seen (id : FlowId) (slot : FrameSlot) (plan : SendPlan)
    (flags : TcpFlags) (payload : Bytes) :
    Seen core (finalizeFlowPayloadFrame cfg id slot plan flags payload) c
      (fun frame d => ∃ e spec, c.flows.get id = some e ∧ frame.body = .tcp spec payload ∧
        spec.plan = plan ∧ spec.gsoSize = some e.flow.mss ∧ d = c.log [.built id e frame.body])
      fun d => d = c := by
  unfold finalizeFlowPayloadFrame
  refine Seen.bind (R := fun p d => d = c ∧ c.flows.get id = some p.2.1)
    (Seen.tryCatch (flowFrameParameters_seen id false) ?_) ?_
  · rintro error d rfl
    exact Seen.silent_bind (silent_releaseFrame slot) fun _ => Seen.throw rfl
  · rintro ⟨key, e, window⟩ d ⟨rfl, hget⟩
    refine Seen.bind (finalizeTcpFrame_seen cfg slot _ payload) ?_
    rintro frame d ⟨rfl, hbody⟩
    exact Seen.note_bind (Seen.pure ⟨e, _, hget, hbody, rfl, rfl, rfl⟩)

theorem path_of_dry {d e : Core} (hp : Path (Act cfg) c d) (h : e = d ∨ e = d.log [.poolDry]) :
    Path (Act cfg) c e := by
  rcases h with rfl | rfl
  · exact hp
  · exact hp.tail (.mild _ .poolDry)

theorem buildFlowFrame_plain {d : Core} (hp : Path (Act cfg) c d) (id : FlowId) (plan : SendPlan)
    (flags : TcpFlags) (hspared : Spared d id) :
    Onward core (Act cfg) c (buildFlowFrame cfg id plan [] flags) d fun _ e => Kept d e := by
  refine Seen.mono (buildFlowFrame_seen cfg id plan [] flags) ?_ fun _ he => path_of_dry cfg hp he
  rintro frame _ ⟨e, spec, hget, hbody, -, rfl⟩
  refine ⟨hp.tail (.built id e frame.body hget hspared (.plain _ ?_)), Kept.log _ _⟩
  rw [hbody]
  rfl

theorem buildReset_seen (key : FlowKey) (acknowledgment : Seq) :
    Seen core (buildReset cfg key acknowledgment) c
      (fun frame d => d = c ∧ frame.body.payload = []) fun d => d = c ∨ d = c.log [.poolDry] := by
  refine Seen.mono (buildTcpFrame_seen cfg key _ [] _ _ _ _) ?_ fun _ hd => hd
  rintro frame d ⟨rfl, spec, hbody, -⟩
  refine ⟨rfl, ?_⟩
  rw [hbody]
  rfl

theorem sendResetForFlow_along (id : FlowId) (hspared : Spared c id) :
    Along core (Act cfg) (sendResetForFlow cfg id) c fun _ d => Kept c d := by
  unfold sendResetForFlow
  refine Seen.flowEntry_bind .refl fun e hget => Seen.ensure_bind .refl fun sides _ => ?_
  refine Seen.bind (Seen.mono (buildReset_seen cfg _ _) (fun _ _ hd => hd) fun _ hd =>
    path_of_dry cfg .refl hd) ?_
  rintro frame d ⟨rfl, hbody⟩
  refine Seen.note_bind (Seen.silent_bind silent_countReset fun _ => ?_)
  have hp : Path (Act cfg) d (d.log [.built id e frame.body]) :=
    .single (.built id e frame.body hget hspared (.plain _ hbody))
  refine ((queueTap_plain cfg frame (.inl rfl) rfl).onward hp).mono fun _ e he => ?_
  exact (Kept.log _ _).trans he

theorem refuseSyn_along (key : FlowKey) (sequence : Seq) :
    Along core (Act cfg) (refuseSyn cfg key sequence) c fun _ d => Kept c d := by
  unfold refuseSyn
  refine Seen.bind (Seen.mono (buildReset_seen cfg _ _) (fun _ _ hd => hd) fun _ hd =>
    path_of_dry cfg .refl hd) ?_
  rintro frame d ⟨rfl, -⟩
  refine Seen.silent_bind silent_countReset fun _ => ?_
  exact queueTap_plain cfg frame (.inl rfl) rfl

theorem sendAckKind_along (id : FlowId) (finAck : Bool) (hspared : Spared c id) :
    Along core (Act cfg) (sendAckKind cfg id finAck) c fun _ d => Kept c d := by
  unfold sendAckKind
  refine Seen.flowEntry_bind .refl fun e hget => ?_
  refine Onward.bind (buildFlowFrame_plain cfg .refl id _ _ hspared) fun frame d hp hk => ?_
  refine Seen.get_bind fun s hs => ?_
  split
  · refine Seen.bind (R := fun _ e => e = d) (Seen.set hs) ?_
    rintro _ d rfl
    exact Seen.mono ((silent_releaseFrame frame.slot).seen d) (fun _ _ he => he ▸ ⟨hp, hk⟩) fun _ he => he
  · exact ((queueTap_plain cfg frame (.inl rfl) rfl).onward hp).mono fun _ e he => hk.trans he

theorem sendAck_along (id : FlowId) (hspared : Spared c id) :
    Along core (Act cfg) (sendAck cfg id) c fun _ d => Kept c d := sendAckKind_along cfg id false hspared

theorem sendFinAck_along (id : FlowId) (hspared : Spared c id) :
    Along core (Act cfg) (sendFinAck cfg id) c fun _ d => Kept c d := sendAckKind_along cfg id true hspared

end Reactor

end Yayatht
