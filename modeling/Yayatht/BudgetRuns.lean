import Yayatht.WindowBudget

set_option autoImplicit false

namespace Yayatht
open EffectLogic Sequence SerialArithmetic

/-- A reactor, and the payload accepted from the namespace that is not submitted yet. -/
structure BudgetRun where
  reactor : Reactor
  accepted : Option (FlowId × Bytes)

inductive BudgetOp where
  | register (key : FlowKey) (entry : FlowEntry)
  | receive (id : FlowId) (segment : TcpSegment)
  | submit
  | abandon
  | flush (id : FlowId)
  | widen (id : FlowId)
  | upstreamAck (id : FlowId) (bytesAcked : ℕ)
  | close (id : FlowId)
  | reap
  | elsewhere (t : Reactor)

namespace BudgetRun
open Reactor

variable (cfg : Config)

def awaiting (r : BudgetRun) (id : FlowId) : ℕ :=
  match r.accepted with
  | some (other, payload) => if id = other then payload.length else 0
  | none => 0

def act (r : BudgetRun) : BudgetOp → Io Unit
  | .register key entry => do
    let _ ← registerFlow key entry
    pure ()
  | .receive id segment => modifyEntry id fun e => (e.received segment).1
  | .submit =>
    match r.accepted with
    | none => pure ()
    | some (id, payload) => do
      let _ ← submitNamespacePayload cfg id payload
      pure ()
  | .abandon => pure ()
  | .flush id => flushSocketQueue cfg id
  | .widen id => do
    let _ ← updateNamespaceWindow cfg id
    pure ()
  | .upstreamAck id bytesAcked => modifyEntry id fun e => { e with flow := (e.flow.recordUpstreamAck bytesAcked).1 }
  | .close id => closeFlow cfg id
  | .reap => cleanupClosed
  | .elsewhere t => set t

def acceptedFrom (id : FlowId) (segment : TcpSegment) (e : FlowEntry) : Option (FlowId × Bytes) :=
  match (e.received segment).2.accepted segment.payload with
  | [] => none
  | payload => some (id, payload)

def step (r : BudgetRun) (op : BudgetOp) (answers : Kernel) : BudgetRun where
  reactor := final (act cfg r op { r.reactor with kernel := answers })
  accepted :=
    match op with
    | .receive id segment => (r.reactor.openEntryAt id).bind (acceptedFrom id segment)
    | .submit => none
    | .abandon => none
    | _ => r.accepted

/-- Accepted payload is submitted next, or given up where the handler returns early;
other work may come in between. Operations are on open flows. -/
def Allowed (r : BudgetRun) : BudgetOp → Prop
  | .register key entry => r.accepted = none ∧ Fresh key entry
  | .receive id _ => r.accepted = none ∧ (r.reactor.openEntryAt id).isSome
  | .submit => r.accepted.isSome
  | .abandon => r.accepted.isSome
  | .flush id => r.accepted = none ∧ (r.reactor.openEntryAt id).isSome
  | .widen id => r.accepted = none ∧ (r.reactor.openEntryAt id).isSome
  | .upstreamAck id _ => r.accepted = none ∧ (r.reactor.openEntryAt id).isSome
  | .close id => r.accepted = none ∧ (r.reactor.openEntryAt id).isSome
  | .reap => r.accepted = none
  | .elsewhere t => Aside r.reactor t

/-- No FIN takes the receive point of its flow half of the number space past the edge. -/
def Unwrapped (r : BudgetRun) : BudgetOp → Prop
  | .receive id segment => ∀ e, r.reactor.openEntryAt id = some e → ¬e.flow.Wraps segment
  | _ => True

inductive Run (cond : BudgetRun → BudgetOp → Prop) : BudgetRun → Prop
  | start (kernel : Kernel) (test : TestHooks) (queryTimeout now : Millis) :
      Run cond ⟨Reactor.new cfg kernel test queryTimeout now, none⟩
  | step {r : BudgetRun} (op : BudgetOp) (answers : Kernel) (run : Run cond r) (hallowed : r.Allowed op)
      (hcond : cond r op) : Run cond (r.step cfg op answers)

structure Sound (r : BudgetRun) : Prop where
  backed : Backed cfg r.awaiting r.reactor
  held : ∀ id payload, r.accepted = some (id, payload) → ∃ e, r.reactor.openEntryAt id = some e

variable {cfg} {r : BudgetRun}

theorem awaiting_none (h : r.accepted = none) : r.awaiting = fun _ => 0 := by
  funext id
  unfold awaiting
  rw [h]

theorem awaiting_of_accepted {id : FlowId} {payload : Bytes} (h : r.accepted = some (id, payload)) :
    r.awaiting id = payload.length := by
  unfold awaiting
  rw [h]
  dsimp only
  rw [if_pos rfl]

theorem sound_start (kernel : Kernel) (test : TestHooks) (queryTimeout now : Millis) :
    Sound cfg ⟨Reactor.new cfg kernel test queryTimeout now, none⟩ := by
  have hnone : ∀ id, (Reactor.new cfg kernel test queryTimeout now).openEntryAt id = none := by
    intro id
    unfold openEntryAt Reactor.new
    dsimp only
    rw [FlowTable.get_withCapacity]
    split <;> rfl
  have habsurd : ∀ {P : Prop} id e, (Reactor.new cfg kernel test queryTimeout now).openEntryAt id = some e → P := by
    intro P id e he
    rw [hnone] at he
    cases he
  refine ⟨⟨FlowTable.wf_withCapacity _, List.length_replicate, fun id e => habsurd id e, fun id e => habsurd id e,
    Nat.zero_le _, fun _ _ id e => habsurd id e⟩, fun id payload h => ?_⟩
  cases h

theorem Sound.settled {t : Reactor} (h : Backed cfg (fun _ => 0) t) (accepted : Option (FlowId × Bytes))
    (hnone : accepted = none) : Sound cfg ⟨t, accepted⟩ := by
  subst hnone
  exact ⟨h, fun id payload hsome => by cases hsome⟩

theorem acceptedFrom_awaiting {t : Reactor} (id : FlowId) (segment : TcpSegment) (e : FlowEntry) :
    (⟨t, acceptedFrom id segment e⟩ : BudgetRun).awaiting =
      fun other => if other = id then ((e.received segment).2.accepted segment.payload).length else 0 := by
  funext other
  unfold awaiting acceptedFrom
  cases (e.received segment).2.accepted segment.payload with
  | nil => simp
  | cons byte bytes => rfl

theorem step_receive (cfg : Config) {id : FlowId} {e : FlowEntry} (he : r.reactor.openEntryAt id = some e) (segment : TcpSegment)
    (answers : Kernel) :
    (r.step cfg (.receive id segment) answers).reactor.openEntryAt id = some (e.received segment).1 ∧
      (r.step cfg (.receive id segment) answers).accepted = acceptedFrom id segment e := by
  have he' : Reactor.openEntryAt { r.reactor with kernel := answers } id = some e := he
  constructor
  · have hrun := modifyEntry_ends (openEntryAt_eq_some.mp he').2 fun e => (e.received segment).1
    refine Ends.final (P := fun t => t.openEntryAt id = some _) (Ends.mono hrun ?_ fun _ _ h => h.elim)
    rintro _ _ rfl
    exact (Replaced.of_modify (t := { r.reactor with
      kernel := answers
      flows := r.reactor.flows.modify id fun e => (e.received segment).1 }) he' rfl).entry
  · change (r.reactor.openEntryAt id).bind _ = _
    rw [he]
    rfl

theorem Sound.receive (h : Sound cfg r) {id : FlowId} {segment : TcpSegment} (answers : Kernel)
    (hallowed : r.Allowed (.receive id segment)) (hcond : r.Unwrapped (.receive id segment)) :
    Sound cfg (r.step cfg (.receive id segment) answers) := by
  obtain ⟨hnone, hopen⟩ := hallowed
  obtain ⟨e, he⟩ := Option.isSome_iff_exists.mp hopen
  have hbacked := h.backed
  rw [awaiting_none hnone] at hbacked
  have he' : Reactor.openEntryAt { r.reactor with kernel := answers } id = some e := he
  have hrun := modifyEntry_ends (openEntryAt_eq_some.mp he').2 fun e => (e.received segment).1
  refine Ends.final (P := fun t => Sound cfg ⟨t, _⟩) (Ends.mono hrun ?_ fun _ _ h => h.elim)
  rintro _ _ rfl
  have hflows : (r.reactor.openEntryAt id).bind (acceptedFrom id segment) = acceptedFrom id segment e := by
    rw [he]
    rfl
  refine ⟨?_, ?_⟩
  · dsimp only
    rw [hflows, acceptedFrom_awaiting]
    exact hbacked.received he (hcond e he) rfl rfl
  · intro other payload haccepted
    dsimp only at haccepted
    rw [hflows] at haccepted
    have hid : other = id := by
      unfold acceptedFrom at haccepted
      split at haccepted
      · cases haccepted
      · cases haccepted
        rfl
    subst hid
    exact ⟨_, (Replaced.of_modify he' rfl).entry⟩

theorem Sound.submit (h : Sound cfg r) (answers : Kernel) : Sound cfg (r.step cfg .submit answers) := by
  cases haccepted : r.accepted with
  | none =>
    have hbacked := h.backed
    rw [awaiting_none haccepted] at hbacked
    refine Sound.settled ?_ _ rfl
    change Backed cfg _ (final ((act cfg r .submit) { r.reactor with kernel := answers }))
    unfold act
    rw [haccepted]
    exact hbacked.counted rfl (Nat.le_refl _)
  | some waiting =>
    obtain ⟨id, payload⟩ := waiting
    obtain ⟨e, he⟩ := h.held id payload haccepted
    have hlen : payload.length ≤ r.awaiting id := (awaiting_of_accepted haccepted).ge
    have hbacked : Backed cfg r.awaiting { r.reactor with kernel := answers } :=
      h.backed.counted rfl (Nat.le_refl _)
    refine Sound.settled ?_ _ rfl
    change Backed cfg _ (final ((act cfg r .submit) { r.reactor with kernel := answers }))
    unfold act
    rw [haccepted]
    exact Ends.final (Ends.bind (hbacked.submitNamespacePayload he hlen) fun _ _ ht => Ends.pure ht)

theorem Sound.register (h : Sound cfg r) {key : FlowKey} {entry : FlowEntry} (answers : Kernel)
    (hallowed : r.Allowed (.register key entry)) : Sound cfg (r.step cfg (.register key entry) answers) := by
  obtain ⟨hnone, hfresh⟩ := hallowed
  have hbacked := h.backed
  rw [awaiting_none hnone] at hbacked
  refine Sound.settled ?_ _ hnone
  change Backed cfg _ (final ((act cfg r (.register key entry)) { r.reactor with kernel := answers }))
  refine Ends.final (Ends.bind (R := fun _ t => Backed cfg (fun _ => 0) t) ?_ fun _ _ ht => Ends.pure ht)
  unfold registerFlow
  refine Ends.bind (R := fun a t => a = t ∧ t.flows = r.reactor.flows ∧
    t.pendingSocketBytes = r.reactor.pendingSocketBytes) (Ends.get ⟨rfl, rfl, rfl⟩) ?_
  rintro _ t ⟨rfl, hflows, hcount⟩
  rw [hflows]
  rcases hbacked.wf.insert_cases entry with hfull | ⟨u, id, hok, -⟩
  · rw [hfull]
    exact hbacked.counted rfl hcount.le
  · rw [hok]
    exact hbacked.registered hfresh hok rfl hcount

theorem Sound.step (h : Sound cfg r) (op : BudgetOp) (answers : Kernel) (hallowed : r.Allowed op)
    (hcond : r.Unwrapped op) : Sound cfg (r.step cfg op answers) := by
  have hgiven : Backed cfg r.awaiting { r.reactor with kernel := answers } := h.backed.counted rfl (Nat.le_refl _)
  have hstanding : ∀ id, r.accepted = none → (r.reactor.openEntryAt id).isSome = true →
      Backed.Standing cfg id { r.reactor with kernel := answers } := by
    intro id hnone hopen
    rw [awaiting_none hnone] at hgiven
    exact ⟨hgiven, Option.isSome_iff_exists.mp hopen⟩
  cases op with
  | register key entry => exact h.register answers hallowed
  | receive id segment => exact h.receive answers hallowed hcond
  | submit => exact h.submit answers
  | abandon => exact Sound.settled (hgiven.weaken fun _ => Nat.zero_le _) _ rfl
  | flush id =>
    have hflush := (hstanding id hallowed.1 hallowed.2).flushSocketQueue
    exact Sound.settled (Ends.final (Ends.mono hflush (fun _ _ ht => ht.1) fun _ _ ht => ht.1)) _ hallowed.1
  | widen id =>
    have hwiden := (hstanding id hallowed.1 hallowed.2).updateNamespaceWindow
    refine Sound.settled (Ends.final (Ends.bind (R := fun _ t => Backed cfg (fun _ => 0) t) ?_
      fun _ _ ht => Ends.pure ht)) _ hallowed.1
    exact Ends.mono hwiden (fun _ _ ht => ht.1) fun _ _ ht => ht.1
  | upstreamAck id bytesAcked =>
    have hmodify := (hstanding id hallowed.1 hallowed.2).modifyEntry
      (g := fun e => { e with flow := (e.flow.recordUpstreamAck bytesAcked).1 }) ?_ ?_ fun _ => rfl
    · exact Sound.settled (Ends.final (Ends.mono hmodify (fun _ _ ht => ht.1) fun _ _ ht => ht.1)) _ hallowed.1
    all_goals
      intro e
      dsimp only
      unfold Flow.recordUpstreamAck
      dsimp only
      split <;> rfl
  | close id =>
    obtain ⟨hnone, hopen⟩ := hallowed
    obtain ⟨hbacked, e, he⟩ := hstanding id hnone hopen
    exact Sound.settled (Ends.final (hbacked.closeFlow he)) _ hnone
  | reap =>
    rw [awaiting_none hallowed] at hgiven
    have hreaped : Backed cfg (fun _ => 0) (final (cleanupClosed { r.reactor with kernel := answers })) :=
      hgiven.reaped rfl rfl
    exact Sound.settled hreaped _ hallowed
  | elsewhere t =>
    have haside : Aside r.reactor t := hallowed
    refine ⟨haside.backed h.backed, fun id payload haccepted => ?_⟩
    obtain ⟨e, he⟩ := h.held id payload haccepted
    exact haside.isOpen he

theorem Run.sound (h : Run cfg Unwrapped r) : Sound cfg r := by
  induction h with
  | start kernel test queryTimeout now => exact sound_start kernel test queryTimeout now
  | step op answers _ hallowed hcond ih => exact ih.step op answers hallowed hcond

/-- In every run without a wrapping FIN the queue of a flow has room for the window it
advertised, and accepted payload always fits it. -/
theorem window_within_queue (cfg : Config) (r : BudgetRun) (h : Run cfg Unwrapped r) (id : FlowId)
    (e : FlowEntry) (he : r.reactor.openEntryAt id = some e) :
    e.flow.advertisedWindow ≤ maxPendingSocketBytes - e.pendingSocket.bytes ∧
      ∀ payload, r.accepted = some (id, payload) → ∀ sent,
        (payload.drop sent).length ≤ e.pendingSocket.remaining ∧
          (e.pendingSocket.push (payload.drop sent)).isSome = true := by
  have hsound := h.sound
  have hrooms := hsound.backed.rooms id e he
  have hlimit := hsound.backed.limits id e he
  refine ⟨by omega, fun payload haccepted sent => ?_⟩
  have hfits : (payload.drop sent).length ≤ e.pendingSocket.remaining := by
    have hawaiting := awaiting_of_accepted haccepted
    unfold PendingSocketQueue.remaining
    rw [List.length_drop]
    omega
  exact ⟨hfits, PendingSocketQueue.push_isSome hfits⟩

def opened (cfg : Config) : BudgetRun :=
  step cfg ⟨Reactor.new cfg .quiet {} 0 0, none⟩ (.register PendingRun.sampleKey PendingRun.sampleEntry) .quiet

theorem run_opened (cond : BudgetRun → BudgetOp → Prop)
    (hcond : ∀ r key entry, cond r (.register key entry)) : Run cfg cond (opened cfg) :=
  .step _ _ (.start .quiet {} 0 0) ⟨rfl, fresh_newEntry _ _ _ _ _ _ _ rfl⟩ (hcond _ _ _)

def dataSegment (payload : Bytes) : TcpSegment where
  sourcePort := 40000
  destinationPort := 80
  sequence := 8
  acknowledgment := 0
  flags := {}
  window := 1000
  payload := payload

def blocked : Kernel := { Kernel.quiet with send := Stream'.const (.error .wouldBlock) }

def waitingRun : BudgetRun :=
  ((opened PendingRun.sampleConfig).step PendingRun.sampleConfig (.receive ⟨0, 1⟩ (dataSegment [1, 2, 3])) .quiet).step
    PendingRun.sampleConfig .submit blocked

theorem run_waitingRun : Run PendingRun.sampleConfig Unwrapped waitingRun := by
  have haccepted : ((opened PendingRun.sampleConfig).step PendingRun.sampleConfig
      (.receive ⟨0, 1⟩ (dataSegment [1, 2, 3])) .quiet).accepted.isSome = true := by decide +kernel
  refine .step .submit blocked (.step (.receive ⟨0, 1⟩ (dataSegment [1, 2, 3])) .quiet (run_opened _ fun _ _ _ => trivial)
    ⟨rfl, by decide +kernel⟩ fun _ _ hwraps => ?_) haccepted trivial
  exact absurd hwraps.2.1 (by decide)

theorem window_within_queue_waiting :
    ∃ e, waitingRun.reactor.openEntryAt ⟨0, 1⟩ = some e ∧ e.flow.advertisedWindow = 65532 ∧
      e.pendingSocket.content = [1, 2, 3] ∧
      e.flow.advertisedWindow ≤ maxPendingSocketBytes - e.pendingSocket.bytes := by
  have hwaiting : (waitingRun.reactor.openEntryAt ⟨0, 1⟩).map
      (fun e => (e.flow.advertisedWindow, e.pendingSocket.content)) = some (65532, [1, 2, 3]) := by decide +kernel
  obtain ⟨e, he, hvalues⟩ := Option.map_eq_some_iff.mp hwaiting
  obtain ⟨hwindow, hcontent⟩ := Prod.mk.inj hvalues
  exact ⟨e, he, hwindow, hcontent, (window_within_queue _ _ run_waitingRun _ e he).1⟩

def finSegment (sequence : Seq) : TcpSegment where
  sourcePort := 40000
  destinationPort := 80
  sequence := sequence
  acknowledgment := 0
  flags := { fin := true }
  window := 1000

theorem received_fin (e : FlowEntry) :
    ((e.received (finSegment e.flow.namespaceNext)).1.flow.namespaceNext = e.flow.namespaceNext + 1 ∧
      (e.received (finSegment e.flow.namespaceNext)).1.flow.receiveEdge = e.flow.receiveEdge) ∧
      acceptedFrom ⟨0, 1⟩ (finSegment e.flow.namespaceNext) e = none := by
  have hfin : e.flow.receive e.flow.namespaceNext none 1000 0 true false =
      ((e.flow.receiveAck none 1000).advance 0 true, .inOrder 0 true) := by
    unfold Flow.receive
    simp [Flow.receiveAck_eq]
  have heq : e.received (finSegment e.flow.namespaceNext) =
      ({ e with flow := (e.flow.receiveAck none 1000).advance 0 true }, .inOrder 0 true) := by
    change (({ e with flow := (e.flow.receive e.flow.namespaceNext none 1000 0 true false).1 },
      (e.flow.receive e.flow.namespaceNext none 1000 0 true false).2) : FlowEntry × ReceiveDisposition) = _
    rw [hfin]
  rw [heq, Flow.advance_fin, Flow.receiveAck_eq]
  refine ⟨⟨?_, rfl⟩, ?_⟩
  · simp
  · unfold acceptedFrom
    rw [heq]
    rfl

theorem run_fins (count : ℕ) : ∃ r e, Run PendingRun.sampleConfig (fun _ _ => True) r ∧ r.accepted = none ∧
    r.reactor.openEntryAt ⟨0, 1⟩ = some e ∧ e.flow.namespaceNext = 8 + BitVec.ofNat 32 count ∧
    e.flow.receiveEdge = 8 + 65535 := by
  induction count with
  | zero =>
    have hpoints : ((opened PendingRun.sampleConfig).reactor.openEntryAt ⟨0, 1⟩).map
        (fun e => (e.flow.namespaceNext, e.flow.receiveEdge)) = some (8 + BitVec.ofNat 32 0, 8 + 65535) := by
      decide +kernel
    obtain ⟨e, he, hflow⟩ := Option.map_eq_some_iff.mp hpoints
    exact ⟨_, e, run_opened _ fun _ _ _ => trivial, rfl, he, congrArg Prod.fst hflow, congrArg Prod.snd hflow⟩
  | succ count ih =>
    obtain ⟨r, e, hrun, hnone, he, hnext, hedge⟩ := ih
    obtain ⟨⟨hnext', hedge'⟩, haccepted⟩ := received_fin e
    obtain ⟨hentry, htaken⟩ := step_receive PendingRun.sampleConfig he (finSegment e.flow.namespaceNext) .quiet
    refine ⟨_, _, .step (.receive ⟨0, 1⟩ (finSegment e.flow.namespaceNext)) .quiet hrun ⟨hnone, ?_⟩ trivial,
      htaken.trans haccepted, hentry, ?_, hedge'.trans hedge⟩
    · rw [he]
      rfl
    · rw [hnext', hnext, BitVec.ofNat_add, BitVec.add_assoc]
      rfl

/-- After 2^31 + 65535 FINs the edge is half of the number space ahead again. -/
theorem window_exceeds_queue :
    ¬ ∀ r, Run PendingRun.sampleConfig (fun _ _ => True) r → ∀ id e, r.reactor.openEntryAt id = some e →
      e.flow.advertisedWindow ≤ maxPendingSocketBytes - e.pendingSocket.bytes := by
  intro h
  obtain ⟨r, e, hrun, -, he, hnext, hedge⟩ := run_fins (2 ^ 31 + 65535)
  have hwindow := h r hrun ⟨0, 1⟩ e he
  have hwide : e.flow.advertisedWindow = 2 ^ 31 := by
    unfold Flow.advertisedWindow
    rw [hnext, hedge]
    decide +kernel
  have hmax : maxPendingSocketBytes - e.pendingSocket.bytes ≤ 262144 := Nat.sub_le _ _
  omega

def refusals (s : Reactor) : ℕ :=
  s.journal.countP fun notice =>
    match notice with
    | .refused _ => true
    | _ => false

theorem submitNamespacePayload_taken {s : Reactor} {id : FlowId} {e : FlowEntry} {payload : Bytes}
    (hget : s.flows.get id = some e) (hroom : payload.length ≤ e.pendingSocket.remaining)
    (hshared : payload.length ≤ cfg.maxPendingTcpBytes - s.pendingSocketBytes) :
    Ends (submitNamespacePayload cfg id payload) s (fun delivered t => delivered = true ∧ refusals t = refusals s)
      fun _ t => refusals t = refusals s := by
  have henqueue : ∀ (t : Reactor) (f : FlowEntry) (rest : Bytes), t.flows.get id = some f →
      f.pendingSocket = e.pendingSocket → rest.length ≤ payload.length →
      t.pendingSocketBytes = s.pendingSocketBytes → refusals t = refusals s →
      Ends (enqueuePendingPayload cfg id rest) t (fun delivered u => delivered = true ∧ refusals u = refusals s)
        fun _ u => refusals u = refusals s := by
    intro t f rest hf hqueue hrest hcount hrefusals
    unfold enqueuePendingPayload
    refine Ends.bind (R := fun a u => t = a ∧ t = u) (Ends.get ⟨rfl, rfl⟩) ?_
    rintro _ _ ⟨rfl, rfl⟩
    refine Ends.bind (Ends.mono (flowEntry_ends hf) (fun _ _ h => h) fun _ _ h => h.elim) ?_
    rintro _ _ ⟨rfl, rfl⟩
    have hfits : ¬(rest.length > f.pendingSocket.remaining ∨
        rest.length > cfg.maxPendingTcpBytes - t.pendingSocketBytes) := by
      rw [hqueue, hcount]
      omega
    rw [if_neg hfits]
    obtain ⟨queue, hpush⟩ := Option.isSome_iff_exists.mp
      (PendingSocketQueue.push_isSome (Nat.le_of_not_gt (not_or.mp hfits).1))
    refine Ends.bind (R := fun _ u => t = u) ?_ ?_
    · rw [hpush]
      exact Ends.pure rfl
    rintro _ _ rfl
    refine Ends.bind (Ends.mono (modifyEntry_ends hf _) (fun _ _ h => h) fun _ _ h => h.elim) ?_
    rintro _ _ rfl
    refine Ends.bind (R := fun _ u => refusals u = refusals s) (Ends.modify hrefusals) fun _ u hu => ?_
    refine Ends.bind (R := fun _ v => refusals v = refusals s) (Ends.modify ?_) fun _ v hv => Ends.pure ⟨rfl, hv⟩
    dsimp only
    split
    · exact hu
    · exact hu
  unfold submitNamespacePayload
  refine Ends.bind (Ends.mono (flowEntry_ends hget) (fun _ _ h => h) fun _ _ h => h.elim) ?_
  rintro _ _ ⟨rfl, rfl⟩
  refine Ends.bind (R := fun _ t => t.flows = s.flows ∧ t.pendingSocketBytes = s.pendingSocketBytes ∧
    refusals t = refusals s) ?_ ?_
  · exact Ends.bind (R := fun _ t => t.flows = s.flows ∧ t.pendingSocketBytes = s.pendingSocketBytes ∧
      refusals t = refusals s) ⟨rfl, rfl, rfl⟩ fun _ _ ht => Ends.pure ht
  intro answer t ht
  refine Ends.bind (R := fun _ u => u.flows = s.flows ∧ u.pendingSocketBytes = s.pendingSocketBytes ∧
    refusals u = refusals s) (Ends.modify ht) ?_
  rintro _ u ⟨hflows, hcount, hrefusals⟩
  have hgetu : u.flows.get id = some e := by
    rw [hflows]
    exact hget
  cases answer with
  | ok sent =>
    refine Ends.bind (Ends.mono (modifyEntry_ends hgetu _) (fun _ _ h => h) fun _ _ h => h.elim) ?_
    rintro _ _ rfl
    split
    · refine henqueue _ (e.submitted payload sent) _ ?_ rfl ?_ hcount hrefusals
      · dsimp only
        rw [FlowTable.get_modify_self, hgetu]
        rfl
      · rw [List.length_drop]
        exact Nat.sub_le _ _
    · exact Ends.pure ⟨rfl, hrefusals⟩
  | error error =>
    cases error with
    | wouldBlock => exact henqueue u e payload hgetu rfl (Nat.le_refl _) hcount hrefusals
    | unexpectedEof => exact Ends.throw hrefusals
    | os code => exact Ends.throw hrefusals

theorem refusals_le_of_path {c d : Core} (h : Path (Act cfg) c d) {s t : Reactor} (hs : core s = c)
    (ht : core t = d) : refusals s ≤ refusals t := by
  have hjournal : ∃ notices, d.journal = notices ++ c.journal := by
    clear ht
    induction h with
    | refl => exact ⟨[], rfl⟩
    | tail _ hact ih =>
      obtain ⟨notices, hnotices⟩ := ih
      obtain ⟨more, hmore⟩ := hact.journal
      exact ⟨more ++ notices, by rw [hmore, hnotices, List.append_assoc]⟩
  obtain ⟨notices, hnotices⟩ := hjournal
  subst hs ht
  change t.journal = notices ++ s.journal at hnotices
  unfold refusals
  rw [hnotices, List.countP_append]
  exact Nat.le_add_left _ _

theorem submitNamespacePayload_refused (cfg : Config) {s : Reactor} {id : FlowId} {e : FlowEntry} (payload : Bytes)
    (hget : s.flows.get id = some e) (hopen : e.open? = true)
    (hblocked : s.kernel.send.head = .error .wouldBlock)
    (hshort : cfg.maxPendingTcpBytes - s.pendingSocketBytes < payload.length) :
    Ends (submitNamespacePayload cfg id payload) s (fun delivered _ => delivered = false)
      fun _ t => refusals s < refusals t := by
  unfold submitNamespacePayload
  refine Ends.bind (Ends.mono (flowEntry_ends hget) (fun _ _ h => h) fun _ _ h => h.elim) ?_
  rintro _ _ ⟨rfl, rfl⟩
  refine Ends.bind (R := fun answer t => answer = .error .wouldBlock ∧ t.flows = s.flows ∧
    t.pendingSocketBytes = s.pendingSocketBytes ∧ refusals t = refusals s) ?_ ?_
  · refine Ends.bind (R := fun answer t => answer = .error .wouldBlock ∧ t.flows = s.flows ∧
      t.pendingSocketBytes = s.pendingSocketBytes ∧ refusals t = refusals s) ⟨hblocked, rfl, rfl, rfl⟩ ?_
    rintro _ t ⟨rfl, ht⟩
    exact Ends.pure ⟨rfl, ht⟩
  rintro _ t ⟨rfl, ht⟩
  refine Ends.bind (R := fun _ u => u.flows = s.flows ∧ u.pendingSocketBytes = s.pendingSocketBytes ∧
    refusals u = refusals s) (Ends.modify ht) ?_
  rintro _ u ⟨hflows, hcount, hrefusals⟩
  dsimp only
  unfold enqueuePendingPayload
  refine Ends.bind (R := fun a v => u = a ∧ u = v) (Ends.get ⟨rfl, rfl⟩) ?_
  rintro _ _ ⟨rfl, rfl⟩
  rw [← hflows] at hget
  refine Ends.bind (Ends.mono (flowEntry_ends hget) (fun _ _ h => h) fun _ _ h => h.elim) ?_
  rintro _ _ ⟨rfl, rfl⟩
  rw [if_pos (Or.inr (by rw [hcount]; exact hshort))]
  refine Ends.bind (R := fun _ v => v.flows = u.flows ∧ refusals v = refusals s) (Ends.modify ⟨rfl, hrefusals⟩) ?_
  rintro _ v ⟨hv, hrefusals'⟩
  refine Ends.bind (R := fun _ w => w.flows = u.flows ∧ refusals w = refusals s + 1) (Ends.modify ⟨hv, ?_⟩) ?_
  · rw [← hrefusals']
    exact List.countP_cons_of_pos rfl
  rintro _ w ⟨hw, hmore⟩
  have hfail := failTcpFlow_along cfg (c := core w) (.of_open (by rw [core, hw]; exact hget) hopen) w rfl
  refine Ends.bind (R := fun _ _ => True) (Ends.mono hfail (fun _ _ _ => trivial) ?_) fun _ _ _ => Ends.pure rfl
  intro _ t ht
  have hle := refusals_le_of_path ht rfl rfl
  omega

/-- The shared limit covers the queues of all flows, or the first window of the only one. -/
def Covered (cfg : Config) : Prop :=
  cfg.maxTcpFlows * maxPendingSocketBytes ≤ cfg.maxPendingTcpBytes ∨
    cfg.maxTcpFlows = 1 ∧ u16Max ≤ cfg.maxPendingTcpBytes

theorem shared_room {awaiting : FlowId → ℕ} {s : Reactor} (h : Backed cfg awaiting s)
    (hcovered : Covered cfg) {id : FlowId} {e : FlowEntry} (he : s.openEntryAt id = some e) :
    awaiting id ≤ cfg.maxPendingTcpBytes - s.pendingSocketBytes := by
  rcases hcovered with hall | ⟨hone, hwide⟩
  · have hqueues : ∀ other, s.queuedBytes other ≤ maxPendingSocketBytes := by
      intro other
      cases ho : s.openEntryAt other with
      | none =>
        rw [queuedBytes_of_closed ho]
        exact Nat.zero_le _
      | some g =>
        have hrooms := h.rooms other g ho
        rw [queuedBytes_of_openEntryAt ho]
        omega
    have hroom := openBytes_room he hqueues
    have hrooms := h.rooms id e he
    have htotal := h.total
    rw [h.slots] at hroom
    omega
  · have hlone := h.lone hone hwide id e he
    omega

/-- In every run without a wrapping FIN, under a shared limit that covers the flows, accepted
payload is never refused. -/
theorem promises_backed (cfg : Config) (hcovered : Covered cfg) (r : BudgetRun) (h : Run cfg Unwrapped r)
    (id : FlowId) (payload : Bytes) (haccepted : r.accepted = some (id, payload)) (answers : Kernel) :
    Ends (submitNamespacePayload cfg id payload) { r.reactor with kernel := answers }
      (fun delivered t => delivered = true ∧ refusals t = refusals r.reactor)
      fun _ t => refusals t = refusals r.reactor := by
  have hsound := h.sound
  obtain ⟨e, he⟩ := hsound.held id payload haccepted
  have hawaiting := awaiting_of_accepted haccepted
  have hrooms := hsound.backed.rooms id e he
  have hlimit := hsound.backed.limits id e he
  have hshared := shared_room hsound.backed hcovered he
  rw [hawaiting] at hshared
  refine submitNamespacePayload_taken (s := { r.reactor with kernel := answers }) (openEntryAt_eq_some.mp he).2 ?_ hshared
  unfold PendingSocketQueue.remaining
  omega

theorem received_data (cfg : Config) (payload : Bytes) (hpos : 0 < payload.length) (hle : payload.length ≤ 65535)
    (hopened : ((opened cfg).reactor.openEntryAt ⟨0, 1⟩).map
      (fun e => (e.flow.namespaceNext, e.flow.advertisedWindow, e.open?)) = some (8, 65535, true)) :
    ∃ e, ((opened cfg).step cfg (.receive ⟨0, 1⟩ (dataSegment payload)) .quiet).reactor.openEntryAt ⟨0, 1⟩ = some e ∧
      e.open? = true ∧
      ((opened cfg).step cfg (.receive ⟨0, 1⟩ (dataSegment payload)) .quiet).accepted = some (⟨0, 1⟩, payload) := by
  obtain ⟨e, he, hflow⟩ := Option.map_eq_some_iff.mp hopened
  simp only [Prod.mk.injEq] at hflow
  obtain ⟨hnext, hwindow, hopen⟩ := hflow
  have hreceive : e.flow.receive 8 none 1000 payload.length false false =
      ((e.flow.receiveAck none 1000).advance payload.length false, .inOrder payload.length false) := by
    have hnext' : (e.flow.receiveAck none 1000).namespaceNext = 8 := by
      rw [Flow.receiveAck_eq]
      exact hnext
    have hwindow' : (e.flow.receiveAck none 1000).advertisedWindow = 65535 := by
      rw [Flow.receiveAck_eq]
      exact hwindow
    unfold Flow.receive
    dsimp only
    rw [if_neg (by decide), if_neg (not_not.mpr hnext'.symm), if_neg (by omega), if_neg (by omega), if_pos (by omega)]
  have heq : e.received (dataSegment payload) =
      ({ e with flow := (e.flow.receiveAck none 1000).advance payload.length false },
        .inOrder payload.length false) := by
    change (({ e with flow := (e.flow.receive 8 none 1000 payload.length false false).1 },
      (e.flow.receive 8 none 1000 payload.length false false).2) : FlowEntry × ReceiveDisposition) = _
    rw [hreceive]
  obtain ⟨hentry, htaken⟩ := step_receive cfg he (dataSegment payload) .quiet
  refine ⟨_, hentry, ?_, htaken.trans ?_⟩
  · rw [heq, Flow.advance_payload, Flow.receiveAck_eq]
    exact hopen
  · unfold acceptedFrom
    rw [heq]
    change (match (if payload.length > 0 then payload else []) with
      | [] => none
      | payload => some ((⟨0, 1⟩ : FlowId), payload)) = _
    rw [if_pos hpos]
    cases payload with
    | nil => exact absurd hpos (by decide)
    | cons byte bytes => rfl

def coveredConfig : Config :=
  { Config.sample (.direct false) with
    maxTcpFlows := 1
    maxTcpFlows_le := by decide }

theorem promises_backed_single : Covered coveredConfig ∧
    ∃ r, Run coveredConfig Unwrapped r ∧ r.accepted = some (⟨0, 1⟩, [1, 2, 3]) ∧
      ∀ answers, Ends (submitNamespacePayload coveredConfig ⟨0, 1⟩ [1, 2, 3]) { r.reactor with kernel := answers }
        (fun delivered t => delivered = true ∧ refusals t = refusals r.reactor)
        fun _ t => refusals t = refusals r.reactor := by
  have hcovered : Covered coveredConfig := Or.inr ⟨rfl, by decide⟩
  obtain ⟨e, he, -, haccepted⟩ := received_data coveredConfig [1, 2, 3] (by decide) (by decide)
    (by decide +kernel)
  have hrun : Run coveredConfig Unwrapped
      ((opened coveredConfig).step coveredConfig (.receive ⟨0, 1⟩ (dataSegment [1, 2, 3])) .quiet) := by
    refine .step (.receive ⟨0, 1⟩ (dataSegment [1, 2, 3])) _ (run_opened _ fun _ _ _ => trivial)
      ⟨rfl, by decide +kernel⟩ fun _ _ hwraps => ?_
    exact absurd hwraps.2.1 (by decide)
  exact ⟨hcovered, _, hrun, haccepted, promises_backed coveredConfig hcovered _ hrun ⟨0, 1⟩ [1, 2, 3] haccepted⟩

/-- The smallest limit that validation lets pass. -/
def smallConfig : Config :=
  { Config.sample (.direct false) with
    workerCount := 1
    workerCount_pos := by decide
    maxPendingTcpBytes := 16384
    maxPendingTcpBytes_ge := by decide }

/-- One flow fills its first window while the socket takes nothing. -/
theorem promise_overcommitted :
    ¬ ∀ (cfg : Config) (r : BudgetRun), Run cfg (fun _ _ => True) r →
      ∀ id payload, r.accepted = some (id, payload) → ∀ answers : Kernel,
        Ends (submitNamespacePayload cfg id payload) { r.reactor with kernel := answers }
          (fun delivered t => delivered = true ∧ refusals t = refusals r.reactor)
          fun _ t => refusals t = refusals r.reactor := by
  intro h
  have hlen : (List.replicate 16385 (0 : UInt8)).length = 16385 := List.length_replicate
  generalize List.replicate 16385 (0 : UInt8) = payload at hlen
  obtain ⟨e, he, hopen, haccepted⟩ := received_data smallConfig payload (by omega) (by omega)
    (by decide +kernel)
  have hrun : Run smallConfig (fun _ _ => True)
      ((opened smallConfig).step smallConfig (.receive ⟨0, 1⟩ (dataSegment payload)) .quiet) :=
    .step (.receive ⟨0, 1⟩ (dataSegment payload)) _ (run_opened _ fun _ _ _ => trivial) ⟨rfl, by decide +kernel⟩ trivial
  have htaken := h _ _ hrun ⟨0, 1⟩ payload haccepted blocked
  have hrefused := submitNamespacePayload_refused smallConfig payload
    (s := { (step smallConfig (opened smallConfig) (.receive ⟨0, 1⟩ (dataSegment payload)) .quiet).reactor with
      kernel := blocked })
    (openEntryAt_eq_some.mp he).2 hopen rfl (by
      change 16384 - _ < _
      omega)
  unfold Ends at htaken hrefused
  split at htaken
  · rename_i hend
    rw [hend] at hrefused
    exact absurd (htaken.1.symm.trans hrefused) (by decide)
  · rename_i hend
    rw [hend] at hrefused
    exact absurd htaken.symm (Nat.ne_of_lt hrefused)

end BudgetRun

end Yayatht
