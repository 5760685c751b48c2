import Yayatht.RelaySide
import Yayatht.DnsWire

set_option autoImplicit false

namespace Yayatht

namespace Dns

/-- A message behind its length. -/
def framed (message : Bytes) : Bytes := wordBytes (UInt16.ofNat message.length) ++ message

def framedAll : List Bytes → Bytes
  | [] => []
  | message :: messages => framed message ++ framedAll messages

def Unfinished (bytes : Bytes) : Prop :=
  ∀ high low rest, bytes = high :: low :: rest → rest.length < beWord high low

/-- The complete messages at the start of a stream and what follows them. -/
def deframe : ℕ → Bytes → List Bytes × Bytes
  | rounds + 1, high :: low :: rest =>
    if rest.length < beWord high low then ([], high :: low :: rest)
    else
      let (messages, left) := deframe rounds (rest.drop (beWord high low))
      (rest.take (beWord high low) :: messages, left)
  | _, bytes => ([], bytes)

section Frames

theorem framed_eq {message : Bytes} (h : message.length < 65536) :
    ∃ high low, framed message = high :: low :: message ∧ beWord high low = message.length := by
  refine ⟨_, _, rfl, ?_⟩
  rw [Wire.beWord_be16, UInt16.toNat_ofNat']
  omega

theorem beWord_framed (high low : UInt8) (message : Bytes) (h : message.length = beWord high low) :
    framed message = high :: low :: message := by
  have hhigh := high.toNat_lt
  have hlow := low.toNat_lt
  have hword : (UInt16.ofNat message.length).toNat = 256 * high.toNat + low.toNat := by
    rw [UInt16.toNat_ofNat', h]
    unfold beWord
    omega
  unfold framed wordBytes
  rw [hword]
  have h1 : UInt8.ofNat ((256 * high.toNat + low.toNat) / 256) = high := by
    apply UInt8.toNat_inj.mp
    rw [UInt8.toNat_ofNat']
    omega
  have h2 : UInt8.ofNat (256 * high.toNat + low.toNat) = low := by
    apply UInt8.toNat_inj.mp
    rw [UInt8.toNat_ofNat']
    omega
  rw [h1, h2]
  rfl

theorem length_le_framedAll (messages : List Bytes) : messages.length ≤ (framedAll messages).length := by
  induction messages with
  | nil => exact Nat.le_refl 0
  | cons message messages ih =>
    change messages.length + 1 ≤ (framed message ++ framedAll messages).length
    rw [List.length_append]
    unfold framed
    rw [List.length_append]
    change _ ≤ 2 + message.length + _
    omega

theorem deframe_spec {rounds : ℕ} {bytes : Bytes} (h : bytes.length ≤ rounds) :
    bytes = framedAll (deframe rounds bytes).1 ++ (deframe rounds bytes).2 ∧
      (∀ message ∈ (deframe rounds bytes).1, message.length < 65536) ∧ Unfinished (deframe rounds bytes).2 := by
  induction rounds generalizing bytes with
  | zero =>
    obtain rfl : bytes = [] := List.length_eq_zero_iff.mp (by omega)
    exact ⟨rfl, fun _ hm => (by cases hm), fun _ _ _ heq => by cases heq⟩
  | succ rounds ih =>
    match bytes with
    | [] => exact ⟨rfl, fun _ hm => (by cases hm), fun _ _ _ heq => by cases heq⟩
    | [byte] => exact ⟨rfl, fun _ hm => (by cases hm), fun _ _ _ heq => by cases heq⟩
    | high :: low :: rest =>
      unfold deframe
      by_cases hshort : rest.length < beWord high low
      · rw [if_pos hshort]
        refine ⟨rfl, fun _ hm => (by cases hm), fun _ _ _ heq => ?_⟩
        cases heq
        exact hshort
      · rw [if_neg hshort]
        simp only [List.length_cons] at h
        have hlt := beWord_lt high low
        have htake : (rest.take (beWord high low)).length = beWord high low := by
          rw [List.length_take]
          omega
        obtain ⟨hbytes, hsizes, hleft⟩ := @ih (rest.drop (beWord high low)) (by rw [List.length_drop]; omega)
        refine ⟨?_, fun message hm => ?_, hleft⟩
        · change _ = (framed (rest.take (beWord high low)) ++ _) ++ _
          rw [beWord_framed high low _ htake, List.append_assoc]
          dsimp only
          rw [← hbytes, List.cons_append, List.cons_append, List.take_append_drop]
        · rcases List.mem_cons.mp hm with rfl | hm
          · omega
          · exact hsizes message hm

/-- A stream that starts with complete messages is made of them and of what follows. -/
theorem framedAll_append_inj {messages passed : List Bytes} {left : Bytes}
    (hmessages : ∀ message ∈ messages, message.length < 65536)
    (hpassed : ∀ message ∈ passed, message.length < 65536)
    (h : framedAll passed ++ left = framedAll messages) :
    ∃ more, messages = passed ++ more ∧ left = framedAll more := by
  induction passed generalizing messages with
  | nil => exact ⟨messages, rfl, h⟩
  | cons first passed ih =>
    obtain ⟨high, low, hfirst, hsize⟩ := framed_eq (hpassed first (List.mem_cons_self ..))
    have hcut : framedAll (first :: passed) ++ left = high :: low :: (first ++ (framedAll passed ++ left)) := by
      change (framed first ++ framedAll passed) ++ left = _
      rw [hfirst, List.append_assoc]
      rfl
    rw [hcut] at h
    cases messages with
    | nil => cases h
    | cons message messages =>
      obtain ⟨high', low', hmessage, hsize'⟩ := framed_eq (hmessages message (List.mem_cons_self ..))
      change _ = framed message ++ framedAll messages at h
      rw [hmessage] at h
      obtain ⟨rfl, htail⟩ := List.cons.inj h
      obtain ⟨rfl, hrest⟩ := List.cons.inj htail
      obtain ⟨rfl, hleft⟩ := List.append_inj hrest (by omega)
      obtain ⟨more, rfl, hmore⟩ := ih (fun m hm => hmessages m (List.mem_cons_of_mem _ hm))
        (fun m hm => hpassed m (List.mem_cons_of_mem _ hm)) hleft
      exact ⟨more, rfl, hmore⟩

theorem Unfinished.nil_of_framedAll {messages : List Bytes} {bytes : Bytes} (hu : Unfinished bytes)
    (hmessages : ∀ message ∈ messages, message.length < 65536) (h : bytes = framedAll messages) :
    messages = [] ∧ bytes = [] := by
  cases messages with
  | nil => exact ⟨rfl, h⟩
  | cons message messages =>
    obtain ⟨high, low, hmessage, hsize⟩ := framed_eq (hmessages message (List.mem_cons_self ..))
    change _ = framed message ++ framedAll messages at h
    rw [hmessage] at h
    have hlt := hu high low (message ++ framedAll messages) h
    rw [List.length_append] at hlt
    omega

end Frames

end Dns

namespace Reactor

open Dns EffectLogic

variable (cfg : Config)

/-- Hands the messages over one by one, each with the rest of the stream behind it. -/
def passOn : List Bytes → Bytes → Io Unit
  | [], left => modify fun s => { s with dnsReadBuffer := left }
  | message :: messages, left => do
    modify fun s => { s with dnsReadBuffer := framedAll messages ++ left }
    processDnsFrame cfg message
    passOn messages left

theorem resolver_processDnsFrame (message : Bytes) :
    Spares resolver Error.Other (processDnsFrame cfg message) := by
  refine Spares.get_bind fun s => ?_
  obtain ⟨engine, reply⟩ := s.dnsEngine.acceptResponse message (dnsFrameLimit cfg)
  refine Spares.set_bind rfl ?_
  cases reply with
  | none => exact Spares.pure _
  | some reply =>
    refine (Apart.resolver (apart.ask _ _)).bind fun now => Spares.bind (Spares.modify fun _ => rfl) fun _ => ?_
    exact (apart_queueDnsReply cfg _ _).resolver

/-- The rounds pass on the complete messages and stop at the unfinished one. -/
theorem processDnsRounds_eq {passed : List Bytes} {left : Bytes} {rounds : ℕ} {s : Reactor}
    (hpassed : ∀ message ∈ passed, message.length < 65536) (hleft : Unfinished left)
    (hbuffer : s.dnsReadBuffer = framedAll passed ++ left) (hrounds : passed.length < rounds) :
    processDnsRounds cfg rounds s = passOn cfg passed left s := by
  induction passed generalizing rounds s with
  | nil =>
    obtain ⟨rounds, rfl⟩ : ∃ n, rounds = n + 1 := ⟨rounds - 1, by omega⟩
    have hsame : passOn cfg [] left s = .ok () s := by
      change EStateM.Result.ok () { s with dnsReadBuffer := left } = _
      rw [show left = s.dnsReadBuffer from hbuffer.symm]
    rw [hsame]
    rw [processDnsRounds, get_bind_apply, show s.dnsReadBuffer = left from hbuffer]
    rcases left with _ | ⟨high, _ | ⟨low, rest⟩⟩
    · rfl
    · rfl
    · dsimp only
      rw [if_pos (hleft high low rest rfl)]
      rfl
  | cons message passed ih =>
    obtain ⟨rounds, rfl⟩ : ∃ n, rounds = n + 1 := ⟨rounds - 1, by omega⟩
    obtain ⟨high, low, hmessage, hsize⟩ := framed_eq (hpassed message (List.mem_cons_self ..))
    have hcut : s.dnsReadBuffer = high :: low :: (message ++ (framedAll passed ++ left)) := by
      rw [hbuffer]
      change (Dns.framed message ++ framedAll passed) ++ left = _
      rw [hmessage, List.append_assoc]
      rfl
    rw [processDnsRounds, get_bind_apply, hcut]
    dsimp only
    rw [if_neg (by rw [List.length_append]; omega), hsize, List.drop_left, List.take_left]
    refine Ends.bind_congr (m := processDnsFrame cfg message) (s := { s with dnsReadBuffer := framedAll passed ++ left })
      (E := fun _ _ => True) ?_
    refine (resolver_processDnsFrame cfg message _).mono (fun _ t ht => ?_) fun _ _ _ => trivial
    refine ih (fun m hm => hpassed m (List.mem_cons_of_mem _ hm)) ?_ (by simp only [List.length_cons] at hrounds; omega)
    exact congrArg (·.2.2) ht

/-- One readable event: what the calls receive until the stream blocks or ends. -/
structure ReadEvent where
  chunks : List Bytes
  ended : Bool
  sizes : ∀ chunk ∈ chunks, 0 < chunk.length ∧ chunk.length ≤ 4096

namespace ReadEvent

def received (e : ReadEvent) : Bytes := e.chunks.flatten

def closing (ended : Bool) : Except IoError Bytes := if ended then .ok [] else .error .wouldBlock

def answers (e : ReadEvent) : List (Except IoError Bytes) := e.chunks.map .ok ++ [closing e.ended]

end ReadEvent

def afterReading (s : Reactor) (rest : Stream' (Except IoError Bytes)) (received : Bytes) : Reactor :=
  { s with kernel := { s.kernel with recv := rest }, dnsReadBuffer := s.dnsReadBuffer ++ received }

section Reading

theorem bind_of_ok {α β : Type} {m : Io α} {f : α → Io β} {s t : Reactor} {a : α} (h : m s = .ok a t) :
    (m >>= f) s = f a t := by
  change EStateM.bind m f s = _
  unfold EStateM.bind
  rw [h]

theorem recv_eq {s : Reactor} {answer : Except IoError Bytes} {rest : Stream' (Except IoError Bytes)}
    (h : s.kernel.recv = Stream'.cons answer rest) (capacity : ℕ) :
    Call.recv capacity s =
      .ok (answer.map (·.take capacity)) { s with kernel := { s.kernel with recv := rest } } := by
  change EStateM.Result.ok (s.kernel.recv.head.map _) { s with kernel := { s.kernel with recv := s.kernel.recv.tail } } = _
  rw [h]
  rfl

theorem readDnsRounds_closing {s : Reactor} {ended : Bool} {rest : Stream' (Except IoError Bytes)} {rounds : ℕ}
    (h : s.kernel.recv = Stream'.cons (ReadEvent.closing ended) rest) :
    readDnsRounds (rounds + 1) s = .ok (!ended) (afterReading s rest []) := by
  unfold readDnsRounds
  rw [bind_of_ok (recv_eq h 4096)]
  unfold afterReading
  rw [List.append_nil]
  cases ended <;> rfl

theorem readDnsRounds_chunk {s : Reactor} {chunk : Bytes} {rest : Stream' (Except IoError Bytes)} {rounds : ℕ}
    (h : s.kernel.recv = Stream'.cons (.ok chunk) rest) (hpos : 0 < chunk.length) (hle : chunk.length ≤ 4096) :
    readDnsRounds (rounds + 1) s =
      if s.dnsReadBuffer.length + chunk.length > dnsReadBufferLimit then
        .ok false { s with kernel := { s.kernel with recv := rest } }
      else readDnsRounds rounds (afterReading s rest chunk) := by
  have hwhole : (Except.ok chunk : Except IoError Bytes).map (·.take 4096) = .ok chunk := by
    change Except.ok (chunk.take 4096) = _
    rw [List.take_of_length_le hle]
  conv_lhs => unfold readDnsRounds
  rw [bind_of_ok (recv_eq h 4096), hwhole]
  cases chunk with
  | nil => exact absurd hpos (by simp)
  | cons byte chunk =>
    change (if s.dnsReadBuffer.length + (byte :: chunk).length > dnsReadBufferLimit then _ else _ : Io Bool) _ = _
    split <;> rfl

theorem readDnsRounds_within {chunks : List Bytes} {s : Reactor} {ended : Bool}
    {rest : Stream' (Except IoError Bytes)} {rounds : ℕ}
    (hsizes : ∀ chunk ∈ chunks, 0 < chunk.length ∧ chunk.length ≤ 4096)
    (hrecv : s.kernel.recv = (chunks.map .ok ++ [ReadEvent.closing ended]) ++ₛ rest)
    (hfits : s.dnsReadBuffer.length + chunks.flatten.length ≤ dnsReadBufferLimit) (hrounds : chunks.length < rounds) :
    readDnsRounds rounds s = .ok (!ended) (afterReading s rest chunks.flatten) := by
  induction chunks generalizing s rounds with
  | nil =>
    obtain ⟨rounds, rfl⟩ : ∃ n, rounds = n + 1 := ⟨rounds - 1, by omega⟩
    exact readDnsRounds_closing hrecv
  | cons chunk chunks ih =>
    obtain ⟨rounds, rfl⟩ : ∃ n, rounds = n + 1 := ⟨rounds - 1, by omega⟩
    obtain ⟨hpos, hle⟩ := hsizes chunk (List.mem_cons_self ..)
    rw [List.flatten_cons, List.length_append] at hfits
    rw [readDnsRounds_chunk hrecv hpos hle, if_neg (by omega), ih (fun c hc => hsizes c (List.mem_cons_of_mem _ hc)) rfl]
    · unfold afterReading
      rw [List.flatten_cons, List.append_assoc]
    · unfold afterReading
      rw [List.length_append]
      omega
    · simp only [List.length_cons] at hrounds
      omega

theorem readDnsRounds_beyond {chunks : List Bytes} {s : Reactor} {ended : Bool}
    {rest : Stream' (Except IoError Bytes)} {rounds : ℕ}
    (hsizes : ∀ chunk ∈ chunks, 0 < chunk.length ∧ chunk.length ≤ 4096)
    (hrecv : s.kernel.recv = (chunks.map .ok ++ [ReadEvent.closing ended]) ++ₛ rest)
    (hroom : s.dnsReadBuffer.length ≤ dnsReadBufferLimit)
    (hbeyond : dnsReadBufferLimit < s.dnsReadBuffer.length + chunks.flatten.length)
    (hrounds : dnsReadBufferLimit < s.dnsReadBuffer.length + rounds) :
    ∃ kept answer left, (answer = ReadEvent.closing ended ∨ ∃ chunk, answer = .ok chunk) ∧
      readDnsRounds rounds s = .ok false (afterReading s (Stream'.cons answer left) kept) := by
  induction chunks generalizing s rounds with
  | nil =>
    rw [List.flatten_nil, List.length_nil] at hbeyond
    omega
  | cons chunk chunks ih =>
    obtain ⟨rounds, rfl⟩ : ∃ n, rounds = n + 1 := ⟨rounds - 1, by omega⟩
    obtain ⟨hpos, hle⟩ := hsizes chunk (List.mem_cons_self ..)
    rw [List.flatten_cons, List.length_append] at hbeyond
    rw [readDnsRounds_chunk hrecv hpos hle]
    split
    · have hnext : ∃ answer left, (answer = ReadEvent.closing ended ∨ ∃ chunk, answer = .ok chunk) ∧
          (chunks.map Except.ok ++ [ReadEvent.closing ended]) ++ₛ rest = Stream'.cons answer left := by
        cases chunks with
        | nil => exact ⟨_, rest, .inl rfl, rfl⟩
        | cons next chunks => exact ⟨.ok next, (chunks.map .ok ++ [ReadEvent.closing ended]) ++ₛ rest, .inr ⟨next, rfl⟩, rfl⟩
      obtain ⟨answer, left, hanswer, hstream⟩ := hnext
      refine ⟨[], answer, left, hanswer, ?_⟩
      unfold afterReading
      rw [List.append_nil, ← hstream]
      rfl
    · rename_i hfits
      obtain ⟨kept, answer, left, hanswer, hread⟩ := @ih (afterReading s _ chunk) rounds
        (fun c hc => hsizes c (List.mem_cons_of_mem _ hc)) rfl
        (by unfold afterReading; rw [List.length_append]; omega)
        (by unfold afterReading; rw [List.length_append]; omega)
        (by unfold afterReading; rw [List.length_append]; omega)
      refine ⟨chunk ++ kept, answer, left, hanswer, hread.trans ?_⟩
      unfold afterReading
      rw [List.append_assoc]

theorem ReadEvent.length_chunks_le (e : ReadEvent) : e.chunks.length ≤ e.received.length := by
  have hloop : ∀ chunks : List Bytes, (∀ chunk ∈ chunks, 0 < chunk.length ∧ chunk.length ≤ 4096) →
      chunks.length ≤ chunks.flatten.length := by
    intro chunks hsizes
    induction chunks with
    | nil => exact Nat.le_refl 0
    | cons chunk chunks ih =>
      have hpos := (hsizes chunk (List.mem_cons_self ..)).1
      have hrest := ih fun c hc => hsizes c (List.mem_cons_of_mem _ hc)
      rw [List.length_cons, List.flatten_cons, List.length_append]
      omega
  exact hloop e.chunks e.sizes

theorem bind_congr_left {α β : Type} {m n : Io α} {f : α → Io β} {s : Reactor} (h : m s = n s) :
    (m >>= f) s = (n >>= f) s := by
  change EStateM.bind m f s = EStateM.bind n f s
  unfold EStateM.bind
  rw [h]

theorem readDnsStream_ready {s : Reactor} (hready : s.dnsConnection = .ready) :
    readDnsStream cfg s = (do
      let alive ← readDnsRounds (dnsReadBufferLimit + 1)
      processDnsFrames cfg
      pure alive : Io Bool) s := by
  rw [readDnsStream, get_bind_apply, hready]

theorem processDnsFrames_eq {passed : List Bytes} {left : Bytes} {s : Reactor}
    (hpassed : ∀ message ∈ passed, message.length < 65536) (hleft : Unfinished left)
    (hbuffer : s.dnsReadBuffer = framedAll passed ++ left) :
    processDnsFrames cfg s = passOn cfg passed left s := by
  have hlength := length_le_framedAll passed
  refine processDnsRounds_eq cfg hpassed hleft hbuffer ?_
  rw [hbuffer, List.length_append]
  omega

theorem readDnsStream_within {s : Reactor} {e : ReadEvent} {rest : Stream' (Except IoError Bytes)}
    {passed : List Bytes} {left : Bytes} (hready : s.dnsConnection = .ready)
    (hrecv : s.kernel.recv = e.answers ++ₛ rest)
    (hfits : s.dnsReadBuffer.length + e.received.length ≤ dnsReadBufferLimit)
    (hpassed : ∀ message ∈ passed, message.length < 65536) (hleft : Unfinished left)
    (hcut : s.dnsReadBuffer ++ e.received = framedAll passed ++ left) :
    readDnsStream cfg s =
      (passOn cfg passed left >>= fun _ => pure (!e.ended)) (afterReading s rest e.received) := by
  have hcount := e.length_chunks_le
  rw [readDnsStream_ready cfg hready,
    bind_of_ok (readDnsRounds_within e.sizes hrecv hfits (by unfold dnsReadBufferLimit at hfits ⊢; omega))]
  exact bind_congr_left (processDnsFrames_eq cfg hpassed hleft hcut)

theorem passOn_idle {passed : List Bytes} {left : Bytes} {s : Reactor} (hidle : s.dnsEngine.transactions = {}) :
    passOn cfg passed left s = .ok () { s with dnsReadBuffer := left } := by
  induction passed generalizing s with
  | nil => rfl
  | cons message passed ih =>
    have hframe : ∀ t : Reactor, t.dnsEngine.transactions = {} → processDnsFrame cfg message t = .ok () t := by
      intro t ht
      have hnone : t.dnsEngine.acceptResponse message (dnsFrameLimit cfg) = (t.dnsEngine, none) := by
        unfold Engine.acceptResponse
        rw [ht]
        split
        · rfl
        dsimp only
        split
        · rfl
        split <;> rfl
      unfold processDnsFrame
      rw [bind_of_ok (show (get : Io Reactor) t = .ok t t from rfl), hnone]
      rfl
    have hnext := hframe { s with dnsReadBuffer := framedAll passed ++ left } hidle
    exact (bind_of_ok hnext).trans (ih (s := { s with dnsReadBuffer := framedAll passed ++ left }) hidle)

end Reading

/-- The event passes these messages on and keeps what is left. -/
def Handles (carried : Bytes) (e : ReadEvent) (passed : List Bytes) (left : Bytes) : Prop :=
  ∀ (s : Reactor) (rest : Stream' (Except IoError Bytes)), s.dnsConnection = .ready → s.dnsReadBuffer = carried →
    s.kernel.recv = e.answers ++ₛ rest →
    readDnsStream cfg s = (passOn cfg passed left >>= fun _ => pure (!e.ended)) (afterReading s rest e.received)

/-- What the events of a connection pass on, one after the other. -/
inductive Delivers : Bytes → List ReadEvent → List Bytes → Bytes → Prop
  | done (carried : Bytes) : Delivers carried [] [] carried
  | event {carried : Bytes} {e : ReadEvent} {passed : List Bytes} {kept : Bytes} {events : List ReadEvent}
      {messages : List Bytes} {left : Bytes} (he : Handles cfg carried e passed kept)
      (h : Delivers kept events messages left) : Delivers carried (e :: events) (passed ++ messages) left

def unfinished (bytes : Bytes) : Bytes := (deframe bytes.length bytes).2

/-- At every event the unfinished message and what the event receives fit the buffer. -/
def Within : Bytes → List ReadEvent → Prop
  | _, [] => True
  | carried, e :: events =>
    carried.length + e.received.length ≤ dnsReadBufferLimit ∧ Within (unfinished (carried ++ e.received)) events

theorem handles_within {carried : Bytes} {e : ReadEvent}
    (hfits : carried.length + e.received.length ≤ dnsReadBufferLimit) :
    Handles cfg carried e (deframe (carried ++ e.received).length (carried ++ e.received)).1
      (unfinished (carried ++ e.received)) := by
  rintro s rest hready rfl hrecv
  obtain ⟨hcut, hpassed, hleft⟩ := deframe_spec (Nat.le_refl (s.dnsReadBuffer ++ e.received).length)
  exact readDnsStream_within cfg hready hrecv hfits hpassed hleft hcut

def quietSample (carried : Bytes) (e : ReadEvent) : Reactor :=
  { Reactor.new (.sample (.direct false))
      { Kernel.quiet with recv := e.answers ++ₛ Stream'.const (.error .unexpectedEof) } {} 0 0 with
    dnsConnection := .ready
    dnsReadBuffer := carried }

theorem answers_ne {e : ReadEvent} {answer : Except IoError Bytes}
    (h : answer = ReadEvent.closing e.ended ∨ ∃ chunk, answer = .ok chunk) : answer ≠ .error .unexpectedEof := by
  rcases h with rfl | ⟨chunk, rfl⟩
  · unfold ReadEvent.closing
    split <;> simp
  · simp

theorem not_handles_beyond {carried : Bytes} {e : ReadEvent} (hroom : carried.length ≤ dnsReadBufferLimit)
    (hbeyond : dnsReadBufferLimit < carried.length + e.received.length) {passed : List Bytes} {left : Bytes} :
    ¬ Handles cfg carried e passed left := by
  intro hhandles
  have hsample := hhandles (quietSample carried e) (Stream'.const (.error .unexpectedEof)) rfl rfl rfl
  obtain ⟨kept, answer, rest, hanswer, hread⟩ := @readDnsRounds_beyond e.chunks (quietSample carried e) e.ended
    (Stream'.const (.error .unexpectedEof)) (dnsReadBufferLimit + 1) e.sizes rfl hroom hbeyond (by
      unfold dnsReadBufferLimit
      omega)
  obtain ⟨hcut, hpassed, hleft⟩ := deframe_spec (Nat.le_refl (carried ++ kept).length)
  rw [readDnsStream_ready cfg rfl, bind_of_ok hread,
    bind_congr_left (processDnsFrames_eq cfg hpassed hleft hcut), bind_of_ok (passOn_idle cfg rfl),
    bind_of_ok (passOn_idle cfg rfl)] at hsample
  -- an answer of the event is still to be read
  have hrecv : Stream'.cons answer rest = Stream'.const (.error .unexpectedEof) :=
    congrArg (fun r => (final r).kernel.recv) hsample
  exact answers_ne hanswer (congrArg Stream'.head hrecv)

theorem handles_left {carried left kept : Bytes} {e : ReadEvent} {passed messages : List Bytes}
    (h : Handles cfg carried e passed left) (h' : Handles cfg carried e messages kept) : left = kept := by
  have hsample := (h (quietSample carried e) (Stream'.const (.error .unexpectedEof)) rfl rfl rfl).symm.trans
    (h' (quietSample carried e) (Stream'.const (.error .unexpectedEof)) rfl rfl rfl)
  rw [bind_of_ok (passOn_idle cfg rfl), bind_of_ok (passOn_idle cfg rfl)] at hsample
  exact congrArg (fun r => (final r).dnsReadBuffer) hsample

theorem length_unfinished_le (bytes : Bytes) : (unfinished bytes).length ≤ bytes.length := by
  have hcut := congrArg List.length (deframe_spec (Nat.le_refl bytes.length)).1
  rw [List.length_append] at hcut
  unfold unfinished
  omega

theorem Delivers.within {carried left : Bytes} {events : List ReadEvent} {messages : List Bytes}
    (h : Delivers cfg carried events messages left) (hroom : carried.length ≤ dnsReadBufferLimit) :
    Within carried events := by
  induction h with
  | done carried => trivial
  | @event carried e passed kept events messages left he h ih =>
    have hfits : carried.length + e.received.length ≤ dnsReadBufferLimit := by
      by_contra hbeyond
      exact not_handles_beyond cfg hroom (by omega) he
    have hkept := handles_left cfg he (handles_within cfg hfits)
    subst hkept
    refine ⟨hfits, ih (Nat.le_trans (length_unfinished_le _) ?_)⟩
    rw [List.length_append]
    exact hfits

def receivedAll : List ReadEvent → Bytes
  | [] => []
  | e :: events => e.received ++ receivedAll events

theorem delivers_of_within {carried : Bytes} {events : List ReadEvent} {messages : List Bytes}
    (hmessages : ∀ message ∈ messages, message.length < 65536) (hcarried : Unfinished carried)
    (hstream : carried ++ receivedAll events = framedAll messages) (hwithin : Within carried events) :
    Delivers cfg carried events messages [] := by
  induction events generalizing carried messages with
  | nil =>
    change carried ++ [] = _ at hstream
    rw [List.append_nil] at hstream
    obtain ⟨rfl, rfl⟩ := hcarried.nil_of_framedAll hmessages hstream
    exact .done []
  | cons e events ih =>
    obtain ⟨hfits, hrest⟩ := hwithin
    obtain ⟨hcut, hpassed, hleft⟩ := deframe_spec (Nat.le_refl (carried ++ e.received).length)
    change carried ++ (e.received ++ receivedAll events) = _ at hstream
    rw [← List.append_assoc, hcut, List.append_assoc] at hstream
    obtain ⟨more, rfl, hmore⟩ := framedAll_append_inj hmessages hpassed hstream
    refine .event (handles_within cfg hfits) (ih ?_ hleft hmore hrest)
    exact fun m hm => hmessages m (List.mem_append_right _ hm)

/-- The messages of a stream are passed on, however it is cut, exactly when every event fits the buffer. -/
theorem delivers_iff_within {events : List ReadEvent} {messages : List Bytes}
    (hmessages : ∀ message ∈ messages, message.length < 65536) (hstream : receivedAll events = framedAll messages) :
    Delivers cfg [] events messages [] ↔ Within [] events := by
  have hempty : Unfinished [] := fun _ _ _ heq => by cases heq
  exact ⟨fun h => h.within cfg (Nat.zero_le _), delivers_of_within cfg hmessages hempty hstream⟩

end Reactor

end Yayatht
