import Yayatht.PoolConservation
import Yayatht.StrandRuns

set_option autoImplicit false

namespace Yayatht
open EffectLogic

/-- The payload a segment adds to the received stream. -/
def ReceiveDisposition.taken (payload : Bytes) : ReceiveDisposition → Bytes
  | .inOrder _ _ => payload
  | _ => []

def Notice.taken (id : FlowId) : Notice → Bytes
  | .segment own e s => if own = id then (e.received s).2.taken s.payload else []
  | _ => []

/-- What the flow received in order, oldest byte first. -/
def receivedBytes (id : FlowId) (journal : List Notice) : Bytes := journal.reverse.flatMap (Notice.taken id)

/-- Everything handed to the socket, then everything that waits. -/
def FlowEntry.upstreamBytes (e : FlowEntry) : Bytes := e.socket.payloadSent ++ e.pendingSocket.content

/-- No direct send failed hard, no payload lacked room, no window clamp failed, and no discard failed or
took another count than asked. -/
def Notice.undamaged : Notice → Bool
  | .offered _ _ _ (.error error) => error = .wouldBlock
  | .refused _ => false
  | .clamped _ (.error _) => false
  | .discarded _ asked (.ok count) => count = asked
  | .discarded _ _ (.error _) => false
  | _ => true

theorem AckFault.damaged {id : FlowId} {fault : Notice} (h : AckFault id fault) : fault.undamaged = false := by
  cases h with
  | clamp error => rfl
  | discard asked result h =>
    cases result with
    | error error => rfl
    | ok count => exact decide_eq_false fun heq => h (congrArg Except.ok heq)

/-- A payload offered to the socket overtakes no waiting byte. -/
def Notice.sequential : Notice → Bool
  | .offered _ e _ (.ok count) => e.pendingSocket.content = [] ∨ count = 0
  | _ => true

/-- What a turn adds upstream: the front of a payload goes to the socket, the rest waits. -/
inductive Adds (sequential : Prop) (e f : FlowEntry) : Bytes → Prop
  | nothing (h : f.upstreamBytes = e.upstreamBytes) : Adds sequential e f []
  | payload (front rest : Bytes) (hsent : f.socket.payloadSent = e.socket.payloadSent ++ front)
      (hqueue : f.pendingSocket.content = e.pendingSocket.content ++ rest)
      (horder : sequential → e.pendingSocket.content = [] ∨ front = []) :
      Adds sequential e f (front ++ rest)

theorem receivedBytes_append (id : FlowId) (newer older : List Notice) :
    receivedBytes id (newer ++ older) = receivedBytes id older ++ receivedBytes id newer := by
  unfold receivedBytes
  rw [List.reverse_append, List.flatMap_append]

theorem receivedBytes_of_silent {id : FlowId} {N : List Notice} (h : ∀ n ∈ N, n.taken id = []) :
    receivedBytes id N = [] := by
  unfold receivedBytes
  rw [List.flatMap_eq_nil_iff]
  intro n hn
  exact h n (List.mem_reverse.mp hn)

theorem receivedBytes_cons {id : FlowId} {n : Notice} (h : n.taken id = []) (journal : List Notice) :
    receivedBytes id (n :: journal) = receivedBytes id journal := by
  change receivedBytes id ([n] ++ journal) = _
  rw [receivedBytes_append, receivedBytes_of_silent (N := [n]) (by simpa using h), List.append_nil]

theorem receivedBytes_segment {id : FlowId} {newer : List Notice} (h : ∀ n ∈ newer, n.taken id = [])
    (e : FlowEntry) (segment : TcpSegment) (journal : List Notice) :
    receivedBytes id (newer ++ .segment id e segment :: journal) =
      receivedBytes id journal ++ (e.received segment).2.taken segment.payload := by
  have hown : receivedBytes id [Notice.segment id e segment] = (e.received segment).2.taken segment.payload := by
    simp [receivedBytes, Notice.taken]
  rw [receivedBytes_append, receivedBytes_of_silent h, List.append_nil]
  change receivedBytes id ([Notice.segment id e segment] ++ journal) = _
  rw [receivedBytes_append, hown]

namespace PendingSocketQueue

theorem consume_front {q : PendingSocketQueue} {bytes : Bytes} (h : q.front = some bytes) (length : ℕ) :
    q.content = bytes.take length ++ (q.consume length).1.content := by
  have hsplit := q.consume_content length
  unfold front at h
  obtain ⟨chunks, hchunks⟩ := List.head?_eq_some_iff.mp h
  have hcount : (q.consume length).2 = min length bytes.length := by
    unfold consume
    rw [hchunks]
  have hcontent : q.content = bytes ++ chunks.flatten := by
    unfold content
    rw [hchunks, List.flatten_cons]
  have htake : q.content.take (min length bytes.length) = bytes.take length := by
    rw [hcontent, List.take_append_of_le_length (Nat.min_le_right _ _)]
    rcases Nat.le_total length bytes.length with hle | hle
    · rw [Nat.min_eq_left hle]
    · rw [Nat.min_eq_right hle, List.take_of_length_le hle, List.take_of_length_le (Nat.le_refl _)]
  rw [hcount, htake] at hsplit
  exact hsplit

end PendingSocketQueue

theorem FlowEntry.received_length {e : FlowEntry} {segment : TcpSegment} {n : ℕ} {fin : Bool}
    (h : (e.received segment).2 = .inOrder n fin) : segment.payload.length = n := by
  unfold received at h
  dsimp only at h
  rcases e.flow.receive_cases segment.sequence
    (if segment.flags.ack then some segment.acknowledgment else none) segment.window.toNat
    segment.payload.length segment.flags.fin segment.flags.rst with
    ⟨-, hr⟩ | ⟨-, disposition, -, hzero, hr⟩ | ⟨-, -, -, -, hr⟩
  · rw [hr] at h
    cases h
  · rw [hr] at h
    obtain ⟨hn, -, hp, -⟩ := hzero n fin h
    omega
  · rw [hr] at h
    cases h
    rfl

theorem FlowEntry.received_reset {e : FlowEntry} {segment : TcpSegment} (h : segment.flags.rst = true) :
    (e.received segment).2 = .reset ∧ (e.received segment).1 = { e with flow := e.flow.close } := by
  unfold received
  dsimp only
  rw [h]
  exact ⟨rfl, rfl⟩

namespace Adds

variable {sequential : Prop} {e f g : FlowEntry} {bytes : Bytes}

theorem of_same (hsent : f.socket.payloadSent = e.socket.payloadSent) (hqueue : f.pendingSocket = e.pendingSocket) :
    Adds sequential e f [] := by
  refine .nothing ?_
  unfold FlowEntry.upstreamBytes
  rw [hsent, hqueue]

theorem after_same (hsent : f.socket.payloadSent = e.socket.payloadSent)
    (hqueue : f.pendingSocket = e.pendingSocket) (h : Adds sequential f g bytes) : Adds sequential e g bytes := by
  cases h with
  | nothing h =>
    refine .nothing (h.trans ?_)
    unfold FlowEntry.upstreamBytes
    rw [hsent, hqueue]
  | payload front rest hs hq horder =>
    rw [hsent] at hs
    rw [hqueue] at hq horder
    exact .payload front rest hs hq horder

theorem before_same (h : Adds sequential e f bytes) (hsent : g.socket.payloadSent = f.socket.payloadSent)
    (hqueue : g.pendingSocket = f.pendingSocket) : Adds sequential e g bytes := by
  cases h with
  | nothing h =>
    refine .nothing (Eq.trans ?_ h)
    unfold FlowEntry.upstreamBytes
    rw [hsent, hqueue]
  | payload front rest hs hq horder => exact .payload front rest (hsent.trans hs) (by rw [hqueue, hq]) horder

theorem touched (h : Touched e f) : Adds sequential e f [] := of_same h.payloadSent h.pendingSocket

theorem finForwarded (h : Adds sequential e f bytes) : Adds sequential e f.finForwarded bytes := by
  unfold FlowEntry.finForwarded
  split
  · exact h.before_same rfl rfl
  · exact h.before_same rfl rfl

theorem drained (h : Drained e f) : Adds sequential e f [] := by
  cases h with
  | nothing => exact .nothing rfl
  | chunk bytes sent hfront hpos =>
    refine .nothing ?_
    change (e.socket.payloadSent ++ bytes.take sent) ++ (e.pendingSocket.consume sent).1.content = _
    unfold FlowEntry.upstreamBytes
    rw [List.append_assoc, ← PendingSocketQueue.consume_front hfront]

/-- The payload of a segment is split between the socket and the queue. -/
theorem submit {payload : Bytes} {answer : Except IoError ℕ} (hf : e.submit payload answer = some f)
    (hsequential : sequential → ∀ count, answer = .ok count → e.pendingSocket.content = [] ∨ count = 0) :
    Adds sequential e f payload := by
  unfold FlowEntry.submit at hf
  split at hf
  · rename_i sent
    split at hf
    · obtain ⟨queue, hpush, rfl⟩ := Option.map_eq_some_iff.mp hf
      have hadds : Adds sequential e { e.submitted payload sent with pendingSocket := queue }
          (payload.take sent ++ payload.drop sent) := by
        refine .payload _ _ rfl (PendingSocketQueue.push_content hpush) fun hs => ?_
        rcases hsequential hs sent rfl with h | rfl
        · exact .inl h
        · exact .inr rfl
      rwa [List.take_append_drop] at hadds
    · cases hf
      rename_i hlong
      have hall : payload.take sent = payload := List.take_of_length_le (by omega)
      have hadds : Adds sequential e (e.submitted payload sent) (payload ++ []) := by
        refine .payload payload [] ?_ (List.append_nil _).symm fun hs => ?_
        · change e.socket.payloadSent ++ payload.take sent = _
          rw [hall]
        · rcases hsequential hs sent rfl with h | rfl
          · exact .inl h
          · exact .inr (List.length_eq_zero_iff.mp (by omega))
      rwa [List.append_nil] at hadds
  · obtain ⟨queue, hpush, rfl⟩ := Option.map_eq_some_iff.mp hf
    refine .payload [] payload (List.append_nil _).symm ?_ fun _ => .inr rfl
    exact PendingSocketQueue.push_content hpush
  · cases hf

end Adds

theorem FlowEntry.finNotices_silent (e : FlowEntry) (id own : FlowId) :
    ∀ n ∈ e.finNotices id, n.taken own = [] := by
  intro n hn
  unfold finNotices at hn
  split at hn
  · rw [List.mem_singleton] at hn
    subst hn
    rfl
  · cases hn

section Segment

variable {id : FlowId} {payload : Bytes} {disposition : ReceiveDisposition} {e f : FlowEntry}
  {N : List Notice}

theorem Delivered.silent (h : Delivered id payload disposition e N f) (own : FlowId) :
    ∀ n ∈ N, n.taken own = [] := by
  cases h with
  | nothing h => simp
  | payload answer hn hf => simp [Notice.taken]
  | fin => exact e.finNotices_silent id own
  | payloadFin answer hn hf =>
    simp only [List.mem_append, List.mem_singleton]
    rintro n (h | rfl)
    · exact FlowEntry.finNotices_silent _ id own n h
    · rfl

theorem Lost.silent (h : Lost id payload disposition e N f) (own : FlowId) :
    ∀ n ∈ N, n.taken own = [] := by
  cases h with
  | send error hn he => simp [Notice.taken]
  | refused answer hn hf => simp [Notice.taken]
  | shutdown error hf =>
    simp only [List.mem_cons]
    rintro n (rfl | h)
    · rfl
    · exact hf.silent own n h

theorem settleStory_silent (id own : FlowId) (acked clamps : ℕ) :
    ∀ n ∈ settleStory id acked clamps, n.taken own = [] := by
  intro n hn
  rcases List.mem_append.mp hn with h | h
  · split at h
    · rw [List.mem_singleton] at h
      subst h
      rfl
    · cases h
  · rw [(List.mem_replicate.mp h).2]
    rfl

variable {sequential : Prop}

theorem Delivered.adds (h : Delivered id payload disposition e N f)
    (hlength : ∀ n fin, disposition = .inOrder n fin → payload.length = n)
    (hsequential : sequential → ∀ n ∈ N, n.sequential = true) :
    Adds sequential e f (disposition.taken payload) := by
  have hnone : ∀ {n : ℕ} {fin : Bool}, disposition = .inOrder n fin → n = 0 → disposition.taken payload = [] := by
    rintro n fin hd rfl
    rw [hd]
    exact List.length_eq_zero_iff.mp (hlength 0 fin hd)
  cases h with
  | nothing h =>
    have htaken : disposition.taken payload = [] := by
      cases hd : disposition with
      | inOrder n fin =>
        have hzero := hnone hd (h n fin hd).1
        rwa [hd] at hzero
      | duplicate | outOfOrder | outsideWindow | reset | invalid => rfl
    rw [htaken]
    exact .nothing rfl
  | payload answer hn hf =>
    refine .submit hf fun hs count hcount => ?_
    have hown := hsequential hs (.offered id e payload answer) (by simp)
    rw [hcount] at hown
    exact of_decide_eq_true hown
  | fin =>
    rw [hnone rfl rfl]
    exact Adds.finForwarded (.nothing rfl)
  | payloadFin answer hn hf =>
    refine Adds.finForwarded (.submit hf fun hs count hcount => ?_)
    have hown := hsequential hs (.offered id e payload answer) (by simp)
    rw [hcount] at hown
    exact of_decide_eq_true hown

theorem Lost.adds (h : Lost id payload disposition e N f) (hundamaged : ∀ n ∈ N, n.undamaged = true)
    (hlength : ∀ n fin, disposition = .inOrder n fin → payload.length = n)
    (hsequential : sequential → ∀ n ∈ N, n.sequential = true) :
    Adds sequential e f (disposition.taken payload) := by
  cases h with
  | send error hn he =>
    exact absurd (of_decide_eq_true (hundamaged _ List.mem_cons_self)) he
  | refused answer hn hf => exact absurd (hundamaged _ List.mem_cons_self) (by simp [Notice.undamaged])
  | shutdown error hf =>
    exact hf.adds (fun n fin hd => by cases hd; exact hlength _ _ rfl)
      fun hs n hn => hsequential hs n (List.mem_cons_of_mem _ hn)

end Segment

theorem Strand.Closes.upstream {id : FlowId} {a b : Strand} (h : Strand.Closes id a b) :
    b.entry.upstreamBytes = a.entry.upstreamBytes ∧ receivedBytes id b.story = receivedBytes id a.story := by
  cases h with
  | done => exact ⟨rfl, receivedBytes_cons rfl _⟩
  | stuck => exact ⟨rfl, receivedBytes_cons rfl _⟩
  | broken => exact ⟨rfl, (receivedBytes_cons rfl _).trans (receivedBytes_cons rfl _)⟩

/-- What a turn receives in order is what it adds upstream. -/
theorem Turn.upstream {cfg : Config} {id : FlowId} {a b : Strand} (h : Turn cfg id a b)
    (hundamaged : ∀ n ∈ b.story, n.undamaged = true) :
    ∃ bytes, receivedBytes id b.story = receivedBytes id a.story ++ bytes ∧
      Adds (∀ n ∈ b.story, n.sequential = true) a.entry b.entry bytes := by
  have hquiet : ∀ {story : List Notice} {sequential : Prop} {f : FlowEntry},
      receivedBytes id story = receivedBytes id a.story → Adds sequential a.entry f [] →
        ∃ bytes, receivedBytes id story = receivedBytes id a.story ++ bytes ∧
          Adds sequential a.entry f bytes :=
    fun hstory hadds => ⟨[], hstory.trans (List.append_nil _).symm, hadds⟩
  cases h with
  | idle => exact hquiet rfl (.nothing rfl)
  | synLost | serviced now | timeWait h | built body => exact hquiet (receivedBytes_cons rfl _) (.nothing rfl)
  | touch f h => exact hquiet rfl (.touched h)
  | replyConsumed count h => exact hquiet rfl (.of_same rfl rfl)
  | planData => exact hquiet (receivedBytes_cons rfl _) (.of_same rfl rfl)
  | planFin => exact hquiet rfl (.nothing rfl)
  | commit => exact hquiet rfl (.of_same rfl rfl)
  | commitMismatched => exact hquiet (receivedBytes_cons rfl _) (.of_same rfl rfl)
  | drop => exact hquiet (receivedBytes_cons rfl _) (.nothing rfl)
  | flush f hspared h => exact hquiet rfl (.drained h)
  | flushFin f hspared h => exact hquiet (receivedBytes_cons rfl _) ((Adds.drained h).before_same rfl rfl)
  | flushFinFailed f error hspared h => exact hquiet (receivedBytes_cons rfl _) (.drained h)
  | handled f g segment clamps N hspared hrst hf hg =>
    refine ⟨_, receivedBytes_segment (fun n hn => ?_) a.entry segment a.story, ?_⟩
    · exact (List.mem_append.mp hn).elim (hg.silent id n) (settleStory_silent id id _ _ n)
    · refine Adds.after_same (f := f) hf.payloadSent hf.pendingSocket
        (hg.adds (fun n fin hd => FlowEntry.received_length hd) fun hs n hn => hs n ?_)
      exact List.mem_append_left _ (List.mem_append_left _ hn)
  | lost f g segment clamps N hspared hrst hf hg =>
    have hown : ∀ n ∈ N, n ∈ N ++ settleStory id (a.entry.ackedBy segment) clamps ++
        .segment id a.entry segment :: a.story :=
      fun n hn => List.mem_append_left _ (List.mem_append_left _ hn)
    refine ⟨_, receivedBytes_segment (fun n hn => ?_) a.entry segment a.story, ?_⟩
    · exact (List.mem_append.mp hn).elim (hg.silent id n) (settleStory_silent id id _ _ n)
    · exact Adds.after_same (f := f) hf.payloadSent hf.pendingSocket
        (hg.adds (fun n hn => hundamaged n (hown n hn)) (fun n fin hd => FlowEntry.received_length hd)
          fun hs n hn => hs n (hown n hn))
  | ackAborted f segment clamps count fault hspared hrst hf hfault =>
    exact absurd (hundamaged fault List.mem_cons_self) (by simp [hfault.damaged])
  | reset segment b hspared hrst h =>
    obtain ⟨hdisposition, hentry⟩ := FlowEntry.received_reset (e := a.entry) hrst
    obtain ⟨hbytes, hstory⟩ := h.upstream
    refine hquiet (hstory.trans ?_) (.nothing (hbytes.trans ?_))
    · refine receivedBytes_cons ?_ _
      simp [Notice.taken, hdisposition, ReceiveDisposition.taken]
    · rw [hentry]
      rfl
  | close b hspared h =>
    obtain ⟨hbytes, hstory⟩ := h.upstream
    exact hquiet hstory (.nothing hbytes)
  | activate => exact hquiet ((receivedBytes_cons rfl _).trans (receivedBytes_cons rfl _)) (.of_same rfl rfl)
  | activateLost => exact hquiet ((receivedBytes_cons rfl _).trans (receivedBytes_cons rfl _)) (.of_same rfl rfl)

theorem Turn.story {cfg : Config} {id : FlowId} {a b : Strand} (h : Turn cfg id a b) :
    ∃ N, b.story = N ++ a.story := by
  have hcloses : ∀ {a b : Strand}, Strand.Closes id a b → ∃ N, b.story = N ++ a.story := by
    intro a b h
    cases h with
    | done | stuck => exact ⟨[_], rfl⟩
    | broken => exact ⟨[_, _], rfl⟩
  cases h with
  | idle | touch | replyConsumed | planFin | commit | flush => exact ⟨[], rfl⟩
  | synLost | serviced | timeWait | built | planData | commitMismatched | drop | flushFin | flushFinFailed =>
    exact ⟨[_], rfl⟩
  | handled f g segment clamps N | lost f g segment clamps N =>
    exact ⟨N ++ settleStory id (a.entry.ackedBy segment) clamps ++ [.segment id a.entry segment],
      by simp [List.append_assoc]⟩
  | ackAborted f segment clamps count fault =>
    exact ⟨fault :: List.replicate clamps (.clamped id (.ok ())) ++ [.segment id a.entry segment], by simp⟩
  | reset segment b hspared hrst h =>
    obtain ⟨N, hstory⟩ := hcloses h
    exact ⟨N ++ [.segment id a.entry segment], by rw [hstory, List.append_assoc]; rfl⟩
  | close b hspared h => exact hcloses h
  | activate => exact ⟨[_, _], rfl⟩
  | activateLost => exact ⟨[_, _], rfl⟩

namespace Lived

variable {cfg : Config} {id : FlowId} {a : Strand}

/-- Nothing is lost and nothing is sent twice. -/
theorem upstream_perm (h : Lived cfg id a) (hundamaged : ∀ n ∈ a.story, n.undamaged = true) :
    a.entry.upstreamBytes.Perm (receivedBytes id a.story) := by
  induction h with
  | @born a key segment h =>
    unfold FlowEntry.upstreamBytes
    rw [h.fresh.socket, h.fresh.pendingSocket, h.story]
    exact List.Perm.refl _
  | @turn a b ha hturn ih =>
    obtain ⟨N, hstory⟩ := hturn.story
    have hbefore := ih fun n hn => hundamaged n (hstory ▸ List.mem_append_right _ hn)
    obtain ⟨bytes, hreceived, hadds⟩ := hturn.upstream hundamaged
    rw [hreceived]
    cases hadds with
    | nothing hkept =>
      rw [hkept, List.append_nil]
      exact hbefore
    | payload front rest hsent hqueue =>
      -- the front overtakes what waits
      have hswap : (a.entry.socket.payloadSent ++ front ++ (a.entry.pendingSocket.content ++ rest)).Perm
          (a.entry.upstreamBytes ++ (front ++ rest)) := by
        unfold FlowEntry.upstreamBytes
        rw [List.append_assoc, List.append_assoc]
        refine List.Perm.append_left _ ?_
        rw [← List.append_assoc, ← List.append_assoc]
        exact List.Perm.append_right _ List.perm_append_comm
      unfold FlowEntry.upstreamBytes
      rw [hsent, hqueue]
      exact hswap.trans (hbefore.append_right _)

/-- While no direct send overtakes the queue the order is kept as well. -/
theorem upstream_eq (h : Lived cfg id a) (hundamaged : ∀ n ∈ a.story, n.undamaged = true)
    (hsequential : ∀ n ∈ a.story, n.sequential = true) :
    a.entry.upstreamBytes = receivedBytes id a.story := by
  induction h with
  | @born a key segment h =>
    unfold FlowEntry.upstreamBytes
    rw [h.fresh.socket, h.fresh.pendingSocket, h.story]
    rfl
  | @turn a b ha hturn ih =>
    obtain ⟨N, hstory⟩ := hturn.story
    have hsub : ∀ n ∈ a.story, n ∈ b.story := fun n hn => hstory ▸ List.mem_append_right _ hn
    have hbefore := ih (fun n hn => hundamaged n (hsub n hn)) fun n hn => hsequential n (hsub n hn)
    obtain ⟨bytes, hreceived, hadds⟩ := hturn.upstream hundamaged
    rw [hreceived, ← hbefore]
    cases hadds with
    | nothing hkept => rw [hkept, List.append_nil]
    | payload front rest hsent hqueue horder =>
      unfold FlowEntry.upstreamBytes
      rw [hsent, hqueue]
      rcases horder hsequential with hempty | hfront
      · rw [hempty]
        simp
      · rw [hfront]
        simp

end Lived

theorem mem_story {id : FlowId} {journal : List Notice} {n : Notice} :
    n ∈ story id journal ↔ n ∈ journal ∧ n.about = some id := by
  unfold story
  rw [List.mem_filter, decide_eq_true_eq]

theorem receivedBytes_story (id : FlowId) (journal : List Notice) :
    receivedBytes id (story id journal) = receivedBytes id journal := by
  induction journal with
  | nil => rfl
  | cons n journal ih =>
    change _ = receivedBytes id ([n] ++ journal)
    rw [story_cons, receivedBytes_append]
    split
    · change receivedBytes id ([n] ++ story id journal) = _
      rw [receivedBytes_append, ih]
    · rename_i hother
      have hsilent : n.taken id = [] := by
        unfold Notice.taken
        split
        · rename_i own e segment
          exact if_neg fun heq => hother (congrArg some heq)
        · rfl
      rw [ih, receivedBytes_of_silent (N := [n]) (by simpa using hsilent), List.append_nil]

namespace Reactor

/-- In every run undamaged for a flow the bytes at its socket and in its queue are those it received in
order: none is lost and none is there twice, whatever the direct sends and the flushes of the queue took
and in whatever order they came. -/
theorem upstream_bytes_conserved (cfg : Config) (s : Reactor) (hs : Reachable cfg s) (id : FlowId)
    (e : FlowEntry) (hget : s.flows.get id = some e)
    (hundamaged : ∀ n ∈ s.journal, n.about = some id → n.undamaged = true) :
    e.upstreamBytes.Perm (receivedBytes id s.journal) := by
  have hperm := (hs.lived hget).upstream_perm fun n hn => by
    obtain ⟨hmem, habout⟩ := mem_story.mp hn
    exact hundamaged n hmem habout
  change e.upstreamBytes.Perm (receivedBytes id (story id s.journal)) at hperm
  rwa [receivedBytes_story] at hperm

/-- And they are in the order of arrival if, besides, every payload that the socket took bytes of
directly found the queue empty. -/
theorem upstream_bytes_ordered (cfg : Config) (s : Reactor) (hs : Reachable cfg s) (id : FlowId)
    (e : FlowEntry) (hget : s.flows.get id = some e)
    (hundamaged : ∀ n ∈ s.journal, n.about = some id → n.undamaged = true)
    (hsequential : ∀ n ∈ s.journal, n.about = some id → n.sequential = true) :
    e.upstreamBytes = receivedBytes id s.journal := by
  have heq := (hs.lived hget).upstream_eq
    (fun n hn => by
      obtain ⟨hmem, habout⟩ := mem_story.mp hn
      exact hundamaged n hmem habout)
    fun n hn => by
      obtain ⟨hmem, habout⟩ := mem_story.mp hn
      exact hsequential n hmem habout
  change e.upstreamBytes = receivedBytes id (story id s.journal) at heq
  rwa [receivedBytes_story] at heq

def payloadTo (sequence : Sequence.Seq) (payload : Bytes) : TapFrame :=
  .tcpV4 0xc0000202#32 0x08080808#32
    { sourcePort := 40000, destinationPort := 80, sequence := sequence, acknowledgment := 0, flags := {},
      window := 1000, payload := payload }

/-- A connection whose first payload is sent in part; `between` comes before the second. -/
def stalledScript (between : List (Event × Kernel)) : List (Event × Kernel) :=
  [(.tap readable, Kernel.quiet.reads (segmentTo { syn := true } 7)),
    (.tap readable, { Kernel.quiet.reads (payloadTo 8 [1, 2]) with
      send := Stream'.cons (.ok (.part 1)) Kernel.quiet.send })] ++ between ++
    [(.tap readable, Kernel.quiet.reads (payloadTo 10 [3]))]

def noticesPass (test : Notice → Bool) (id : FlowId) (s : Reactor) : Bool :=
  s.journal.all fun n => decide (n.about ≠ some id) || test n

theorem of_noticesPass {test : Notice → Bool} {id : FlowId} {s : Reactor} (h : noticesPass test id s = true) :
    ∀ n ∈ s.journal, n.about = some id → test n = true := by
  intro n hn habout
  have hone := List.all_eq_true.mp h n hn
  simpa [habout] using hone

/-- The last byte overtakes the one that waits. -/
theorem upstream_bytes_conserved_overtaken :
    ∃ s e, Reachable (.sample (.direct false)) s ∧ s.flows.get ⟨0, 1⟩ = some e ∧
      e.upstreamBytes = [1, 3, 2] ∧ e.upstreamBytes.Perm (receivedBytes ⟨0, 1⟩ s.journal) := by
  have hrun : (replay (.sample (.direct false)) (stalledScript [])
      (Reactor.new (.sample (.direct false)) .quiet {} 0 0)).map (fun s =>
        ((s.flows.get ⟨0, 1⟩).map FlowEntry.upstreamBytes, noticesPass Notice.undamaged ⟨0, 1⟩ s)) =
      some (some [1, 3, 2], true) := by decide +kernel
  obtain ⟨s, hs, hfields⟩ := Option.map_eq_some_iff.mp hrun
  obtain ⟨hentry, hpass⟩ := Prod.mk.inj hfields
  obtain ⟨e, hget, hbytes⟩ := Option.map_eq_some_iff.mp hentry
  have hreachable := reachable_of_replay _ (stalledScript []) (.start .quiet {} 0 0) hs
  exact ⟨s, e, hreachable, hget, hbytes,
    upstream_bytes_conserved _ s hreachable _ e hget (of_noticesPass hpass)⟩

theorem upstream_bytes_ordered_flushed :
    ∃ s e, Reachable (.sample (.direct false)) s ∧ s.flows.get ⟨0, 1⟩ = some e ∧
      e.upstreamBytes = [1, 2, 3] ∧ e.upstreamBytes = receivedBytes ⟨0, 1⟩ s.journal := by
  have hrun : (replay (.sample (.direct false)) (stalledScript [(.socket ⟨0, 1⟩ writable, Kernel.quiet)])
      (Reactor.new (.sample (.direct false)) .quiet {} 0 0)).map (fun s =>
        ((s.flows.get ⟨0, 1⟩).map FlowEntry.upstreamBytes, noticesPass Notice.undamaged ⟨0, 1⟩ s,
          noticesPass Notice.sequential ⟨0, 1⟩ s)) =
      some (some [1, 2, 3], true, true) := by decide +kernel
  obtain ⟨s, hs, hfields⟩ := Option.map_eq_some_iff.mp hrun
  simp only [Prod.mk.injEq] at hfields
  obtain ⟨hentry, hundamaged, hsequential⟩ := hfields
  obtain ⟨e, hget, hbytes⟩ := Option.map_eq_some_iff.mp hentry
  have hreachable := reachable_of_replay _ (stalledScript [(.socket ⟨0, 1⟩ writable, Kernel.quiet)])
    (.start .quiet {} 0 0) hs
  exact ⟨s, e, hreachable, hget, hbytes,
    upstream_bytes_ordered _ s hreachable _ e hget (of_noticesPass hundamaged) (of_noticesPass hsequential)⟩

end Reactor

end Yayatht
