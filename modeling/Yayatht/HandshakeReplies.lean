import Yayatht.HandshakeSchedules

set_option autoImplicit false

namespace Yayatht.Proxy

/-- A reply that lets a handshake go on, with the state that reads it and the state it leads to.
An HTTP reply ends with its first empty line. -/
inductive Reply : HandshakeState → Bytes → HandshakeState → Prop
  | noAuthentication : Reply .socksMethodRead [5, 0] .socksCommandWrite
  | password : Reply .socksMethodRead [5, 2] .socksAuthWrite
  | authenticated : Reply .socksAuthRead [1, 0] .socksCommandWrite
  | ipv4 {address port : Bytes} (ha : address.length = 4) (hp : port.length = 2) :
      Reply .socksCommandRead ([5, 0, 0, 1] ++ address ++ port) .complete
  | domain {name port : Bytes} {length : UInt8} (hn : name.length = length.toNat) (hp : port.length = 2) :
      Reply .socksCommandRead ([5, 0, 0, 3, length] ++ name ++ port) .complete
  | ipv6 {address port : Bytes} (ha : address.length = 16) (hp : port.length = 2) :
      Reply .socksCommandRead ([5, 0, 0, 4] ++ address ++ port) .complete
  | http {header : Bytes} (hmax : header.length + 4 ≤ maxHttpHeader)
      (hfirst : ∀ i < header.length, ¬ Handshake.At [13, 10, 13, 10] (header ++ [13, 10, 13, 10]) i) :
      Reply .httpRead (header ++ [13, 10, 13, 10]) .complete

/-- The state that reads the reply to what a state writes. -/
inductive Written : HandshakeState → HandshakeState → Prop
  | greeting : Written .socksGreetingWrite .socksMethodRead
  | authentication : Written .socksAuthWrite .socksAuthRead
  | command : Written .socksCommandWrite .socksCommandRead
  | http : Written .httpWrite .httpRead

/-- The bytes are the replies that bring a handshake from the state to its end, and no more. -/
inductive Heard : HandshakeState → Bytes → Prop
  | complete : Heard .complete []
  | written {state next : HandshakeState} {heard : Bytes} (hs : Written state next) (hh : Heard next heard) :
      Heard state heard
  | replied {state next : HandshakeState} {reply heard : Bytes} (hr : Reply state reply next)
      (hh : Heard next heard) : Heard state (reply ++ heard)

namespace Handshake

variable (h : Handshake)

theorem reply_of_socksMethod {input : Bytes} {n : ℕ}
    (hn : (h.receiveSocksMethod input).2 = .ok n) (hpos : 0 < n) :
    Reply .socksMethodRead (input.take n) (h.receiveSocksMethod input).1.state := by
  unfold receiveSocksMethod at hn ⊢
  split at hn
  · rename_i version method rest
    dsimp only at hn ⊢
    by_cases hversion : version ≠ 5
    · rw [if_pos hversion] at hn
      cases hn
    rw [if_neg hversion] at hn ⊢
    obtain rfl := not_not.mp hversion
    by_cases hnone : method = 0
    · rw [if_pos hnone] at hn ⊢
      subst hnone
      cases hn
      exact .noAuthentication
    rw [if_neg hnone] at hn ⊢
    by_cases hpassword : method = 2
    · rw [if_pos hpassword] at hn ⊢
      subst hpassword
      cases hc : h.credentials with
      | none => rw [hc] at hn; cases hn
      | some c =>
        rw [hc] at hn
        cases hn
        exact .password
    · rw [if_neg hpassword] at hn
      cases hn
  · cases hn
    omega

theorem reply_of_socksAuth {input : Bytes} {n : ℕ}
    (hn : (h.receiveSocksAuth input).2 = .ok n) (hpos : 0 < n) :
    Reply .socksAuthRead (input.take n) (h.receiveSocksAuth input).1.state := by
  unfold receiveSocksAuth at hn ⊢
  split at hn
  · rename_i version status rest
    by_cases hversion : version ≠ 1
    · rw [if_pos hversion] at hn
      cases hn
    rw [if_neg hversion] at hn ⊢
    obtain rfl := not_not.mp hversion
    by_cases hstatus : status ≠ 0
    · rw [if_pos hstatus] at hn
      cases hn
    rw [if_neg hstatus] at hn ⊢
    obtain rfl := not_not.mp hstatus
    cases hn
    exact .authenticated
  · cases hn
    omega

theorem reply_of_commandSize {kind : UInt8} {rest : Bytes} {n : ℕ}
    (hsize : socksReplyLength kind rest = .ok (some n)) (hle : n ≤ rest.length + 4) :
    Reply .socksCommandRead ((5 :: 0 :: 0 :: kind :: rest).take n) .complete := by
  have hsplit : ∀ (bytes : Bytes) (k : ℕ), bytes.take (k + 2) = bytes.take k ++ (bytes.drop k).take 2 :=
    fun bytes k => List.take_add
  unfold socksReplyLength at hsize
  by_cases h1 : kind = 1
  · rw [if_pos h1] at hsize
    cases hsize
    subst h1
    have hreply := @Reply.ipv4 (rest.take 4) ((rest.drop 4).take 2)
      (by rw [List.length_take]; omega) (by rw [List.length_take, List.length_drop]; omega)
    rw [List.append_assoc, ← hsplit] at hreply
    exact hreply
  rw [if_neg h1] at hsize
  by_cases h4 : kind = 4
  · rw [if_pos h4] at hsize
    cases hsize
    subst h4
    have hreply := @Reply.ipv6 (rest.take 16) ((rest.drop 16).take 2)
      (by rw [List.length_take]; omega) (by rw [List.length_take, List.length_drop]; omega)
    rw [List.append_assoc, ← hsplit] at hreply
    exact hreply
  rw [if_neg h4] at hsize
  by_cases h3 : kind = 3
  · rw [if_pos h3] at hsize
    subst h3
    cases rest with
    | nil => cases hsize
    | cons length rest =>
      simp only [List.head?_cons, Option.map_some, Except.ok.injEq, Option.some.injEq] at hsize
      subst hsize
      rw [List.length_cons] at hle
      have hreply := @Reply.domain (rest.take length.toNat) ((rest.drop length.toNat).take 2) length
        (by rw [List.length_take]; omega) (by rw [List.length_take, List.length_drop]; omega)
      rw [List.append_assoc, ← hsplit] at hreply
      rw [show 7 + length.toNat = length.toNat + 2 + 5 by omega]
      exact hreply
  · rw [if_neg h3] at hsize
    cases hsize

theorem reply_of_socksCommand {input : Bytes} {n : ℕ}
    (hn : (h.receiveSocksCommand input).2 = .ok n) (hpos : 0 < n) :
    Reply .socksCommandRead (input.take n) (h.receiveSocksCommand input).1.state := by
  unfold receiveSocksCommand at hn ⊢
  split at hn
  · rename_i version code reserved kind rest
    by_cases hheader : version ≠ 5 ∨ reserved ≠ 0
    · rw [if_pos hheader] at hn
      cases hn
    rw [if_neg hheader] at hn ⊢
    obtain ⟨hversion, hreserved⟩ := not_or.mp hheader
    obtain rfl := not_not.mp hversion
    obtain rfl := not_not.mp hreserved
    cases hsize : socksReplyLength kind rest with
    | error e => rw [hsize] at hn; cases hn
    | ok known =>
      rw [hsize] at hn
      cases known with
      | none => cases hn; omega
      | some length =>
        dsimp only at hn ⊢
        by_cases hshort : (5 :: code :: 0 :: kind :: rest).length < length
        · rw [if_pos hshort] at hn
          cases hn
          omega
        rw [if_neg hshort] at hn ⊢
        by_cases hcode : code ≠ 0
        · rw [if_pos hcode] at hn
          cases hn
        rw [if_neg hcode] at hn ⊢
        obtain rfl := not_not.mp hcode
        simp only [List.length_cons] at hshort
        cases hparse : parseSocksAddress (((5 :: 0 :: 0 :: kind :: rest).take length).drop 3) with
        | error e => rw [hparse] at hn; cases hn
        | ok bound =>
          rw [hparse] at hn
          cases hn
          exact reply_of_commandSize hsize (by omega)
  · cases hn
    omega

theorem reply_of_http {input : Bytes} {n : ℕ}
    (hn : (h.receiveHttp input).2 = .ok n) (hpos : 0 < n) :
    Reply .httpRead (input.take n) (h.receiveHttp input).1.state := by
  have hne : ([13, 10, 13, 10] : Bytes) ≠ [] := by simp
  unfold receiveHttp at hn ⊢
  cases hp : position [13, 10, 13, 10] input with
  | none =>
    rw [hp] at hn
    dsimp only at hn
    split at hn
    · cases hn
    · cases hn
      omega
  | some i =>
    rw [hp] at hn
    dsimp only at hn ⊢
    by_cases hmax : i + 4 > maxHttpHeader
    · rw [if_pos hmax] at hn
      cases hn
    rw [if_neg hmax] at hn ⊢
    cases hline : position [13, 10] (input.take (i + 4)) with
    | none => rw [hline] at hn; cases hn
    | some lineEnd =>
      rw [hline] at hn
      dsimp only at hn ⊢
      cases hstatus : statusOf (input.take lineEnd) with
      | error e => rw [hstatus] at hn; cases hn
      | ok status =>
        rw [hstatus] at hn
        dsimp only at hn ⊢
        by_cases hgranted : 200 ≤ status ∧ status < 300
        · rw [if_pos hgranted] at hn ⊢
          cases hn
          obtain ⟨hat, hfirst⟩ := (position_eq_some_iff hne input i).mp hp
          have hle := hat.le hne
          simp only [List.length_cons, List.length_nil] at hle
          have hheader : (input.take i).length = i := by
            rw [List.length_take]
            omega
          have hwhole : input.take (i + 4) = input.take i ++ [13, 10, 13, 10] := by
            rw [List.take_add]
            exact congrArg _ hat
          rw [hwhole]
          refine .http (by rw [hheader]; omega) fun j hj hat' => ?_
          rw [hheader] at hj
          rw [← hwhole] at hat'
          exact hfirst j hj ((at_take (by simp; omega)).mp hat')
        · rw [if_neg hgranted] at hn
          cases hn

theorem reply_of_receive {input : Bytes} {n : ℕ} (hn : (h.receive input).2 = .ok n) (hpos : 0 < n) :
    Reply h.state (input.take n) (h.receive input).1.state := by
  unfold receive at hn ⊢
  cases hs : h.state with
  | socksMethodRead => rw [hs] at hn; exact h.reply_of_socksMethod hn hpos
  | socksAuthRead => rw [hs] at hn; exact h.reply_of_socksAuth hn hpos
  | socksCommandRead => rw [hs] at hn; exact h.reply_of_socksCommand hn hpos
  | httpRead => rw [hs] at hn; exact h.reply_of_http hn hpos
  | socksGreetingWrite => rw [hs] at hn; cases hn
  | socksAuthWrite => rw [hs] at hn; cases hn
  | socksCommandWrite => rw [hs] at hn; cases hn
  | httpWrite => rw [hs] at hn; cases hn
  | complete => rw [hs] at hn; cases hn

/-- A reply that stands in front is taken whole, or refused. -/
def Takes (reply : Bytes) (next : HandshakeState) (result : Handshake × Except Error ℕ) : Prop :=
  (result.2 = .ok reply.length ∧ result.1.state = next) ∨ ∃ e, result.2 = .error e

theorem takes_commandReply {reply : Bytes} (hlen : 2 ≤ reply.length) :
    Takes reply .complete (h.commandReply reply) := by
  match reply, hlen with
  | _ :: code :: rest, _ =>
    unfold commandReply
    dsimp only
    split
    · exact .inr ⟨_, rfl⟩
    · split
      · exact .inr ⟨_, rfl⟩
      · exact .inl ⟨rfl, rfl⟩

theorem takes_socksCommand {reply : Bytes} (more : Bytes) (hlen : 2 ≤ reply.length)
    (hsize : commandSize (reply ++ more) = .ok (some reply.length)) :
    Takes reply .complete (h.receiveSocksCommand (reply ++ more)) := by
  rw [receiveSocksCommand_eq, readSized_full hsize (by rw [List.length_append]; omega),
    List.take_left]
  exact h.takes_commandReply hlen

theorem takes_http {header : Bytes} (more : Bytes) (hmax : header.length + 4 ≤ maxHttpHeader)
    (hfirst : ∀ i < header.length, ¬ At [13, 10, 13, 10] (header ++ [13, 10, 13, 10]) i) :
    Takes (header ++ [13, 10, 13, 10]) .complete (h.receiveHttp (header ++ [13, 10, 13, 10] ++ more)) := by
  have hne : ([13, 10, 13, 10] : Bytes) ≠ [] := by simp
  have hend : position [13, 10, 13, 10] (header ++ [13, 10, 13, 10]) = some header.length :=
    (position_eq_some_iff hne _ _).mpr ⟨by unfold At; rw [List.drop_left]; rfl, hfirst⟩
  have hsize : httpSize (header ++ [13, 10, 13, 10] ++ more) =
      .ok (some (header ++ [13, 10, 13, 10]).length) := by
    rw [List.length_append]
    unfold httpSize
    rw [position_append hne more hend]
    exact if_neg (Nat.not_lt.mpr hmax)
  have hroom : (header ++ [13, 10, 13, 10]).length ≤ (header ++ [13, 10, 13, 10] ++ more).length :=
    (List.prefix_append _ _).length_le
  rw [receiveHttp_eq, readSized_full hsize hroom, List.take_left]
  unfold httpReply
  split
  · exact .inr ⟨_, rfl⟩
  · split
    · exact .inr ⟨_, rfl⟩
    · split
      · exact .inl ⟨rfl, rfl⟩
      · exact .inr ⟨_, rfl⟩

/-- Whatever follows a reply, it is taken alone. -/
theorem takes_receive {reply : Bytes} {next : HandshakeState} (hr : Reply h.state reply next) (more : Bytes) :
    Takes reply next (h.receive (reply ++ more)) := by
  unfold receive
  generalize hs : h.state = state at hr
  cases hr with
  | noAuthentication => exact .inl ⟨rfl, rfl⟩
  | password =>
    cases hc : h.credentials with
    | none => exact .inr ⟨_, by unfold receiveSocksMethod; simp [hc]; rfl⟩
    | some c => exact .inl (by unfold receiveSocksMethod; simp [hc])
  | authenticated => exact .inl ⟨rfl, rfl⟩
  | ipv4 ha hp =>
    refine h.takes_socksCommand more (by simp) ?_
    simp [commandSize, socksReplyLength, ha, hp]
  | domain hn hp =>
    refine h.takes_socksCommand more (by simp) ?_
    simp [commandSize, socksReplyLength, hn, hp]
    omega
  | ipv6 ha hp =>
    refine h.takes_socksCommand more (by simp) ?_
    simp [commandSize, socksReplyLength, ha, hp]
  | http hmax hfirst => exact h.takes_http more hmax hfirst

variable {h}

theorem written_of_advanceOutput {g : Handshake} (ha : h.advanceOutput h.output.length = (g, .ok ())) :
    Written h.state g.state := by
  have hne : h.output ≠ [] := by
    intro hempty
    rw [hempty] at ha
    simp [advanceOutput, hempty] at ha
  rw [advanceOutput_all hne] at ha
  unfold drained at ha
  cases hs : h.state with
  | socksGreetingWrite => rw [hs] at ha; cases ha; exact .greeting
  | socksAuthWrite => rw [hs] at ha; cases ha; exact .authentication
  | socksCommandWrite => rw [hs] at ha; cases ha; exact .command
  | httpWrite => rw [hs] at ha; cases ha; exact .http
  | socksMethodRead => rw [hs] at ha; cases ha
  | socksAuthRead => rw [hs] at ha; cases ha
  | socksCommandRead => rw [hs] at ha; cases ha
  | httpRead => rw [hs] at ha; cases ha
  | complete => rw [hs] at ha; cases ha

/-- A handshake that completes has consumed its replies and nothing else. -/
theorem Concludes.heard {rest emitted : Bytes} {o : Outcome} {consumed : ℕ}
    (hc : Concludes h rest emitted o consumed) {bound : Option SocksAddress} (ho : o = .complete bound) :
    consumed ≤ rest.length ∧ Heard h.state (rest.take consumed) := by
  induction hc with
  | complete hcomplete =>
    have hs := of_decide_eq_true hcomplete
    exact ⟨Nat.zero_le _, by rw [hs]; exact .complete⟩
  | waiting _ _ => cases ho
  | failed _ _ => cases ho
  | @received h g rest _ _ n consumed _ hpos hr _ ih =>
    obtain ⟨hle, hheard⟩ := ih ho
    have hn : (h.receive rest).2 = .ok n := by rw [hr]
    have hreply := h.reply_of_receive hn hpos
    have hfits := (h.prefixed_receive.tight _ _ hn hpos).1
    rw [List.length_drop] at hle
    rw [hr] at hreply
    refine ⟨by omega, ?_⟩
    rw [List.take_add]
    exact .replied hreply hheard
  | written _ _ ha _ ih =>
    obtain ⟨hle, hheard⟩ := ih ho
    exact ⟨hle, .written (written_of_advanceOutput ha) hheard⟩

end Handshake

/-- What does not depend on how the bytes of a handshake are cut, and which bytes it takes. -/
structure Uncut (h : Handshake) (stream : Bytes) : Prop where
  totals : ∃ emitted o consumed,
    (∃ turns, (Progress.run stream h turns).Finished stream) ∧
    ∀ turns, (Progress.run stream h turns).Finished stream →
      (Progress.run stream h turns).emitted = emitted ∧ (Progress.run stream h turns).outcome = o ∧
        (Progress.run stream h turns).consumed = consumed
  heard : ∀ turns bound, (Progress.run stream h turns).Finished stream →
    (Progress.run stream h turns).outcome = .complete bound →
      (Progress.run stream h turns).consumed ≤ stream.length ∧
        Heard h.state (stream.take (Progress.run stream h turns).consumed)
  waits : ∀ (g : Handshake) input, (g.receive input).2 = .ok 0 → (g.receive input).1 = g
  stable : ∀ (g : Handshake) input more, (g.receive input).2 ≠ .ok 0 →
    g.receive (input ++ more) = g.receive input
  tight : ∀ (g : Handshake) input n, (g.receive input).2 = .ok n → 0 < n →
    n ≤ input.length ∧ g.receive (input.take n) = g.receive input ∧
      ∀ m < n, g.receive (input.take m) = (g, .ok 0)
  replies : ∀ (g : Handshake) input n, (g.receive input).2 = .ok n → 0 < n →
    Reply g.state (input.take n) (g.receive input).1.state
  takes : ∀ (g : Handshake) reply next more, Reply g.state reply next →
    ((g.receive (reply ++ more)).2 = .ok reply.length ∧ (g.receive (reply ++ more)).1.state = next) ∨
      ∃ e, (g.receive (reply ++ more)).2 = .error e
  window : ∀ (g : Handshake) input, g.receive (input.take maxHttpHeader) = g.receive input

/-- A handshake comes to the same, emits the same and consumes the same however its bytes
are cut. What it consumed when it completes are its replies, so what follows them is left. -/
theorem handshake_uncut (protocol : Protocol) (command : Command) (target : SocketAddr)
    (credentials : Option Credentials) (h : Handshake) (stream : Bytes)
    (hnew : Handshake.new protocol command target credentials = .ok h) : Uncut h stream := by
  have ht : ({ handshake := h } : Progress).handshake.Tidy := Handshake.tidy_new hnew
  obtain ⟨turns, hfinished⟩ := @Progress.exists_finished stream _ ht rfl
  have htotals := Progress.totals_of_run ht turns (Progress.totals_of_finished hfinished)
  refine ⟨⟨(Progress.run stream h turns).emitted, (Progress.run stream h turns).outcome,
    (Progress.run stream h turns).consumed, ⟨turns, hfinished⟩, fun others hothers => ?_⟩,
    fun others bound hothers hbound => ?_, fun g => g.prefixed_receive.idle,
    fun g => g.prefixed_receive.stable, fun g => g.prefixed_receive.tight,
    fun g _ _ => g.reply_of_receive, fun g _ _ more hr => g.takes_receive hr more, fun g input => ?_⟩
  · exact (Progress.totals_of_run ht others (Progress.totals_of_finished hothers)).unique htotals
  · obtain ⟨_, consumed, hconcludes, -, hconsumed⟩ :=
      Progress.totals_of_run ht others (Progress.totals_of_finished hothers)
    rw [Nat.zero_add] at hconsumed
    unfold Progress.run at hbound ⊢
    rw [hconsumed]
    exact hconcludes.heard hbound
  · by_cases hle : input.length ≤ maxHttpHeader
    · rw [List.take_of_length_le hle]
    · have hdecided := g.prefixed_receive.decided (input.take maxHttpHeader) (by rw [List.length_take]; omega)
      have hwhole := g.prefixed_receive.stable _ (input.drop maxHttpHeader) hdecided
      rw [List.take_append_drop] at hwhole
      exact hwhole.symm

/-- The last byte is left for the tunnel, however the rest is cut. -/
theorem handshake_uncut_direct :
    ∃ h, Handshake.new .socks5 .connect (.v4 0x7f000001 80) none = .ok h ∧
      Uncut h [5, 0, 5, 0, 0, 1, 0, 0, 0, 0, 0, 0, 42] ∧
      ∀ turns, (Progress.run [5, 0, 5, 0, 0, 1, 0, 0, 0, 0, 0, 0, 42] h turns).Finished
          [5, 0, 5, 0, 0, 1, 0, 0, 0, 0, 0, 0, 42] →
        (Progress.run [5, 0, 5, 0, 0, 1, 0, 0, 0, 0, 0, 0, 42] h turns).consumed = 12 ∧
          List.drop (Progress.run [5, 0, 5, 0, 0, 1, 0, 0, 0, 0, 0, 0, 42] h turns).consumed
            ([5, 0, 5, 0, 0, 1, 0, 0, 0, 0, 0, 0, 42] : Bytes) = [42] := by
  refine ⟨_, rfl, handshake_uncut .socks5 .connect (.v4 0x7f000001 80) none _ _ rfl, fun turns hturns => ?_⟩
  obtain ⟨_, _, consumed, -, hall⟩ :=
    (handshake_uncut .socks5 .connect (.v4 0x7f000001 80) none _
      [5, 0, 5, 0, 0, 1, 0, 0, 0, 0, 0, 0, 42] rfl).totals
  -- one schedule shows what every schedule consumes
  have hone := (hall [.write 100, .read 100, .write 100, .read 100] (.inr (.inl rfl))).2.2
  have hconsumed : consumed = 12 := hone.symm
  rw [(hall turns hturns).2.2, hconsumed]
  exact ⟨rfl, rfl⟩

end Yayatht.Proxy
