import Yayatht.RunSteps

set_option autoImplicit false

/-!
# One flow of the machine

A strand is what the machine keeps of one flow: its entry, the planned frames
that wait for the TAP, and its part of the journal. A step of the machine is a
turn of at most one strand.
-/
namespace Yayatht
open Sequence EffectLogic

/-- The part of a journal about one flow. -/
def story (id : FlowId) (journal : List Notice) : List Notice := journal.filter fun n => n.about = some id

/-- The planned frames of a flow among those that wait. -/
def lane (id : FlowId) (queue : List QueuedFrame) : List SendPlan :=
  queue.filterMap fun queued => if queued.flow = some id then queued.plan else none

theorem story_append (id : FlowId) (first second : List Notice) :
    story id (first ++ second) = story id first ++ story id second := List.filter_append _ _

theorem story_cons (id : FlowId) (n : Notice) (journal : List Notice) :
    story id (n :: journal) = if n.about = some id then n :: story id journal else story id journal := by
  unfold story
  rw [List.filter_cons]
  simp only [decide_eq_true_eq]

theorem story_own {id : FlowId} {n : Notice} (h : n.about = some id) (journal : List Notice) :
    story id (n :: journal) = n :: story id journal := by
  rw [story_cons, if_pos h]

theorem story_other {id : FlowId} {n : Notice} (h : n.about ≠ some id) (journal : List Notice) :
    story id (n :: journal) = story id journal := by
  rw [story_cons, if_neg h]

theorem story_of_about {id : FlowId} {notices : List Notice} (h : ∀ n ∈ notices, n.about = some id) :
    story id notices = notices := by
  unfold story
  rw [List.filter_eq_self]
  intro n hn
  exact decide_eq_true (h n hn)

theorem story_of_not_about {id : FlowId} {notices : List Notice} (h : ∀ n ∈ notices, n.about ≠ some id) :
    story id notices = [] := by
  unfold story
  rw [List.filter_eq_nil_iff]
  intro n hn
  simpa using h n hn

theorem lane_append (id : FlowId) (first second : List QueuedFrame) :
    lane id (first ++ second) = lane id first ++ lane id second := List.filterMap_append

theorem lane_cons (id : FlowId) (queued : QueuedFrame) (queue : List QueuedFrame) :
    lane id (queued :: queue) =
      (if queued.flow = some id then queued.plan else none).toList ++ lane id queue := by
  unfold lane
  rw [List.filterMap_cons]
  split
  · rename_i h
    rw [h]
    rfl
  · rename_i h
    rw [h]
    rfl

theorem lane_nil_of_idle {c : Core} {id : FlowId} (h : c.busy id = false) : lane id c.tapQueue = [] := by
  unfold lane
  rw [List.filterMap_eq_nil_iff]
  intro queued hq
  unfold Core.busy at h
  rw [List.any_eq_false] at h
  have hne := h queued hq
  simp only [decide_eq_true_eq] at hne
  rw [if_neg hne]

structure Strand where
  entry : FlowEntry
  lane : List SendPlan
  story : List Notice

def Core.strand (c : Core) (id : FlowId) (e : FlowEntry) : Strand :=
  ⟨e, Yayatht.lane id c.tapQueue, Yayatht.story id c.journal⟩

/-- The notices about the flow among those of a settled acknowledgment. -/
def settleStory (id : FlowId) (acked clamps : ℕ) : List Notice :=
  (if acked > 0 then [.discarded id acked (.ok acked)] else []) ++
    List.replicate clamps (.clamped id (.ok ()))

/-- What a frame of the strand is built from. -/
inductive Strand.Builds (a : Strand) : FrameBody → Prop
  | plain (body : FrameBody) (h : body.payload = []) : Builds a body
  | again (spec : TcpFrameSpec) (payload : Bytes) (segment : SentSegment) (rest : List SentSegment)
      (hlane : a.lane = []) (hsegments : a.entry.sentSegments = segment :: rest)
      (hsequence : spec.plan.sequence = segment.sequence)
      (hlength : payload.length ≤ segment.payloadLen)
      (hpayload : payload = (a.entry.socket.queued 0).take payload.length) :
      Builds a (.tcp spec payload)
  | stale (spec : TcpFrameSpec) (head byte : UInt8) (rest : Bytes) (hlane : a.lane = [])
      (hhead : ∀ segment ∈ a.entry.sentSegments.head?, segment.payloadLen = 0)
      (hqueued : a.entry.socket.queued 0 = head :: rest)
      (hbyte : byte = a.entry.lastNamespaceByte.getD head)
      (hsequence : spec.plan.sequence = a.entry.flow.localNext - 1) :
      Builds a (.tcp spec [byte])

def Strand.Spared (id : FlowId) (a : Strand) : Prop := a.entry.open? = true ∨ Excused a.story id

/-- How closing the flow ends. -/
inductive Strand.Closes (id : FlowId) (a : Strand) : Strand → Prop
  | done :
      Closes id a
        ⟨{ a.entry with flow := a.entry.flow.close }, [], .released id a.entry :: a.story⟩
  | stuck : Closes id a { a with story := .closeFailed id :: a.story }
  | broken : Closes id a ⟨a.entry, [], .closeFailed id :: .released id a.entry :: a.story⟩

/-- The turns of one flow. -/
inductive Turn (cfg : Config) (id : FlowId) (a : Strand) : Strand → Prop
  | idle : Turn cfg id a a
  | synLost : Turn cfg id a { a with story := .synLost id :: a.story }
  | serviced (now : Millis) : Turn cfg id a { a with story := .serviced id a.entry now :: a.story }
  | timeWait (h : a.entry.flow.state = .timeWait) :
      Turn cfg id a { a with story := .timeWait id a.entry :: a.story }
  | touch (f : FlowEntry) (h : Touched a.entry f) : Turn cfg id a { a with entry := f }
  | replyConsumed (count : ℕ) (h : a.entry.handshake.isSome = true) :
      Turn cfg id a
        { a with
          entry :=
            { a.entry with
              socket := { a.entry.socket with consumed := a.entry.socket.consumed + count } } }
  | built (body : FrameBody) (hspared : a.Spared id) (h : a.Builds body) :
      Turn cfg id a { a with story := .built id a.entry body :: a.story }
  | planData (spec : TcpFrameSpec) (payload : Bytes) (hlane : a.lane = [])
      (hstate : a.entry.sendable = true) (hne : payload ≠ [])
      (hwindow : payload.length ≤ a.entry.flow.availableNamespaceWindow)
      (hpayload : payload = (a.entry.socket.queued a.entry.retained).take payload.length)
      (hsequence : spec.plan.sequence = a.entry.flow.localNext) :
      Turn cfg id a
        ⟨{ a.entry with lastNamespaceByte := payload.getLast? },
          [⟨a.entry.flow.localNext, a.entry.flow.namespaceAcked, payload.length, false, false⟩],
          .built id { a.entry with lastNamespaceByte := payload.getLast? } (.tcp spec payload) :: a.story⟩
  | planFin (hlane : a.lane = []) (hstate : a.entry.sendable = true)
      (hwindow : 0 < a.entry.flow.availableNamespaceWindow) (hretained : a.entry.retained = 0)
      (hqueued : a.entry.socket.queued 0 = []) (heof : a.entry.socket.eof = true) :
      Turn cfg id a
        { a with lane := [⟨a.entry.flow.localNext, a.entry.flow.namespaceAcked, 0, false, true⟩] }
  | commit (plan : SendPlan) (rest : List SendPlan) (now : Millis) (hlane : a.lane = plan :: rest)
      (hmatch : a.entry.commitMatches plan = true) :
      Turn cfg id a { a with entry := a.entry.committed plan now, lane := rest }
  | commitMismatched (plan : SendPlan) (rest : List SendPlan) (hlane : a.lane = plan :: rest)
      (hmatch : a.entry.commitMatches plan = false) :
      Turn cfg id a ⟨a.entry.advanced plan, rest, .commitFailed id :: a.story⟩
  | drop (plan : SendPlan) (rest : List SendPlan) (hlane : a.lane = plan :: rest) :
      Turn cfg id a ⟨a.entry, rest, .tapFailed (some id) (some plan) :: a.story⟩
  | flush (f : FlowEntry) (hspared : a.Spared id) (h : Drained a.entry f)
      (hrest : f.pendingSocket.isEmpty = false ∨ f.pendingShutdown = false) :
      Turn cfg id a { a with entry := f }
  | flushFin (f : FlowEntry) (hspared : a.Spared id) (h : Drained a.entry f) (hempty : f.pendingSocket.isEmpty = true)
      (hshut : f.pendingShutdown = true) :
      Turn cfg id a
        { a with
          entry := { f.shut with pendingShutdown := false }
          story := .shutdown id (.ok ()) :: a.story }
  | flushFinFailed (f : FlowEntry) (error : IoError) (hspared : a.Spared id) (h : Drained a.entry f) :
      Turn cfg id a { a with entry := f, story := .shutdown id (.error error) :: a.story }
  | handled (f g : FlowEntry) (segment : TcpSegment) (clamps : ℕ) (notices : List Notice)
      (hspared : a.Spared id) (hrst : segment.flags.rst = false)
      (hf : Touched (a.entry.settled segment) f)
      (hg : Delivered id segment.payload (a.entry.received segment).2 f notices g) :
      Turn cfg id a
        { a with
          entry := g
          story :=
            notices ++ settleStory id (a.entry.ackedBy segment) clamps ++
              .segment id a.entry segment :: a.story }
  | lost (f g : FlowEntry) (segment : TcpSegment) (clamps : ℕ) (notices : List Notice)
      (hspared : a.Spared id) (hrst : segment.flags.rst = false)
      (hf : Touched (a.entry.settled segment) f)
      (hg : Lost id segment.payload (a.entry.received segment).2 f notices g) :
      Turn cfg id a
        { a with
          entry := g
          story :=
            notices ++ settleStory id (a.entry.ackedBy segment) clamps ++
              .segment id a.entry segment :: a.story }
  | ackAborted (f : FlowEntry) (segment : TcpSegment) (clamps count : ℕ) (fault : Notice)
      (hspared : a.Spared id) (hrst : segment.flags.rst = false)
      (hf : Touched
        { (a.entry.received segment).1 with
          socket := { a.entry.socket with consumed := a.entry.socket.consumed + count } } f)
      (hfault : AckFault id fault) :
      Turn cfg id a
        { a with
          entry := f
          story :=
            fault :: List.replicate clamps (.clamped id (.ok ())) ++
              .segment id a.entry segment :: a.story }
  | reset (segment : TcpSegment) (b : Strand) (hspared : a.Spared id) (hrst : segment.flags.rst = true)
      (h : Strand.Closes id
        ⟨(a.entry.received segment).1, a.lane, .segment id a.entry segment :: a.story⟩ b) :
      Turn cfg id a b
  | close (b : Strand) (hspared : a.Spared id) (h : Strand.Closes id a b) : Turn cfg id a b
  | activate (bytesAcked : ℕ) (busy : Bool) (body : FrameBody) (hspared : a.Spared id)
      (hbusy : busy = false → a.lane = []) (hhandshake : a.entry.handshake = none)
      (hbody : body.payload = []) :
      Turn cfg id a
        ⟨{ a.entry with flow := (a.entry.flow.socketConnected bytesAcked).1 },
          a.lane ++ [(a.entry.flow.socketConnected bytesAcked).2],
          .built id { a.entry with flow := (a.entry.flow.socketConnected bytesAcked).1 } body ::
            .activated id a.entry busy :: a.story⟩
  | activateLost (bytesAcked : ℕ) (busy : Bool) (hspared : a.Spared id)
      (hbusy : busy = false → a.lane = []) (hhandshake : a.entry.handshake = none) :
      Turn cfg id a
        ⟨{ a.entry with flow := (a.entry.flow.socketConnected bytesAcked).1 }, a.lane,
          .synLost id :: .activated id a.entry busy :: a.story⟩

/-- Every notice is about a flow that was registered. -/
def Known (c : Core) : Prop := ∀ n ∈ c.journal, ∀ id, n.about = some id → c.flows.Used id

theorem excused_story {journal : List Notice} {id : FlowId} :
    Excused (story id journal) id ↔ Excused journal id := by
  have hmem : ∀ n : Notice, n.about = some id → (n ∈ story id journal ↔ n ∈ journal) := by
    intro n hn
    unfold story
    rw [List.mem_filter]
    exact ⟨fun h => h.1, fun h => ⟨h, decide_eq_true hn⟩⟩
  unfold Excused Late
  rw [hmem _ rfl]
  constructor
  · rintro (h | ⟨e, now, h, hc⟩)
    · exact .inl h
    · exact .inr ⟨e, now, (hmem _ rfl).mp h, hc⟩
  · rintro (h | ⟨e, now, h, hc⟩)
    · exact .inl h
    · exact .inr ⟨e, now, (hmem _ rfl).mpr h, hc⟩

theorem Spared.strand {c : Core} {id : FlowId} {e : FlowEntry} (h : Spared c id)
    (hget : c.flows.get id = some e) : (c.strand id e).Spared id := by
  rcases h with ⟨f, hf, ho⟩ | hx
  · rw [hget] at hf
    cases hf
    exact .inl ho
  · exact .inr (excused_story.mpr hx)

theorem BuiltFrom.strand {c : Core} {id : FlowId} {e : FlowEntry} {body : FrameBody}
    (h : BuiltFrom c id e body) : (c.strand id e).Builds body := by
  cases h with
  | plain body h => exact .plain body h
  | again spec payload segment rest hbusy hsegments hsequence hlength hpayload _ =>
    exact .again spec payload segment rest (lane_nil_of_idle hbusy) hsegments hsequence hlength hpayload
  | stale spec first byte rest hbusy hhead hqueued hbyte hsequence =>
    exact .stale spec first byte rest (lane_nil_of_idle hbusy) hhead hqueued hbyte hsequence

theorem Excused.used {c : Core} {id : FlowId} (hk : Known c) (h : Excused c.journal id) :
    c.flows.Used id := by
  rcases h with h | ⟨e, now, h, -⟩
  · exact hk _ h id rfl
  · exact hk _ h id rfl

theorem Spared.used {c : Core} {id : FlowId} (hk : Known c) (h : Spared c id) : c.flows.Used id := by
  rcases h with ⟨e, hget, -⟩ | hx
  · exact FlowTable.used_of_get hget
  · exact hx.used hk

/-- No close failed, and no timer found a closed flow with a retransmission or a probe due. -/
def Notice.graceful : Notice → Bool
  | .closeFailed _ => false
  | .serviced _ e now => e.open? || !(e.retransmitDue now || e.probeDue now)
  | _ => true

theorem not_excused_of_graceful {journal : List Notice} {id : FlowId} (h : ∀ n ∈ journal, n.graceful = true) :
    ¬ Excused journal id := by
  rintro (hfailed | ⟨e, now, hserviced, hclosed, hdue⟩)
  · cases h _ hfailed
  · have hquiet := h _ hserviced
    unfold Notice.graceful at hquiet
    rcases hdue with hdue | hdue
    · simp [hclosed, hdue] at hquiet
    · simp [hclosed, hdue] at hquiet

theorem FlowEntry.finNotices_about (e : FlowEntry) (id : FlowId) :
    ∀ n ∈ e.finNotices id, n.about = some id := by
  unfold finNotices
  split
  · simp [Notice.about]
  · simp

theorem Delivered.about {id : FlowId} {payload : Bytes} {d : ReceiveDisposition} {e f : FlowEntry}
    {notices : List Notice} (h : Delivered id payload d e notices f) : ∀ n ∈ notices, n.about = some id := by
  cases h with
  | nothing h => simp
  | payload answer hn hf => simp [Notice.about]
  | fin => exact e.finNotices_about id
  | payloadFin answer hn hf =>
    simp only [List.mem_append, List.mem_singleton]
    rintro n (h | rfl)
    · exact FlowEntry.finNotices_about _ id n h
    · rfl

theorem Lost.about {id : FlowId} {payload : Bytes} {d : ReceiveDisposition} {e f : FlowEntry}
    {notices : List Notice} (h : Lost id payload d e notices f) : ∀ n ∈ notices, n.about = some id := by
  cases h with
  | send error hn he => simp [Notice.about]
  | refused answer hn hf => simp [Notice.about]
  | shutdown error hf =>
    simp only [List.mem_cons]
    rintro n (rfl | h)
    · rfl
    · exact hf.about n h

theorem AckFault.about {id : FlowId} {fault : Notice} (h : AckFault id fault) : fault.about = some id := by
  cases h <;> rfl

theorem story_settleNotices (id : FlowId) (acked retained clamps : ℕ) :
    story id (settleNotices id acked retained clamps) = settleStory id acked clamps := by
  unfold settleNotices settleStory
  have hclamps : ∀ n ∈ List.replicate clamps (Notice.clamped id (.ok ())), n.about = some id := by
    intro n hn
    rw [(List.mem_replicate.mp hn).2]
    rfl
  rw [story_append, story_of_about hclamps]
  congr 1
  split <;> simp [story, Notice.about]

theorem settleNotices_about (id : FlowId) (acked retained clamps : ℕ) :
    ∀ n ∈ settleNotices id acked retained clamps, n.about = some id ∨ n.about = none := by
  intro n hn
  rcases List.mem_append.mp hn with h | h
  · split at h
    · simp only [List.mem_cons, List.not_mem_nil, or_false] at h
      rcases h with rfl | rfl
      · exact .inr rfl
      · exact .inl rfl
    · cases h
  · rw [(List.mem_replicate.mp h).2]
    exact .inl rfl

theorem segment_about {id : FlowId} {e : FlowEntry} {segment : TcpSegment} {acked retained clamps : ℕ}
    {notices : List Notice} (h : ∀ n ∈ notices, n.about = some id) :
    ∀ n ∈ notices ++ settleNotices id acked retained clamps ++ [.segment id e segment],
      n.about = some id ∨ n.about = none := by
  intro n hn
  rcases List.mem_append.mp hn with hn | hn
  · rcases List.mem_append.mp hn with hn | hn
    · exact .inl (h n hn)
    · exact settleNotices_about id acked retained clamps n hn
  · rw [List.mem_singleton] at hn
    subst hn
    exact .inl rfl

theorem Closing.about {c d : Core} {id : FlowId} {e : FlowEntry} (h : Closing c id e d) :
    ∃ notices, d.journal = notices ++ c.journal ∧ ∀ n ∈ notices, n.about = some id ∨ n.about = none := by
  have hfree : ∀ n : Notice, (∃ length available, n = .retainedReleased length available) → n.about = none := by
    rintro _ ⟨length, available, rfl⟩
    rfl
  cases h with
  | done sides h =>
    obtain ⟨ns, hkind, hn⟩ := Core.unregister_journal c id sides.namespaceKey e
    refine ⟨ns ++ [.released id e], by rw [List.append_assoc]; exact hn, ?_⟩
    simp only [List.mem_append, List.mem_singleton]
    rintro n (h | rfl)
    · exact .inr (hfree n (hkind n h))
    · exact .inl rfl
  | stuck => exact ⟨[.closeFailed id], rfl, by simp [Notice.about]⟩
  | broken sides h =>
    obtain ⟨ns, hkind, hn⟩ := Core.unregister_journal c id sides.namespaceKey e
    refine ⟨.closeFailed id :: ns ++ [.released id e], ?_, ?_⟩
    · change Notice.closeFailed id :: _ = _
      rw [hn, List.append_assoc]
      rfl
    · simp only [List.mem_append, List.mem_cons, List.not_mem_nil, or_false]
      rintro n ((rfl | h) | rfl)
      · exact .inl rfl
      · exact .inr (hfree n (hkind n h))
      · exact .inl rfl

end Yayatht
