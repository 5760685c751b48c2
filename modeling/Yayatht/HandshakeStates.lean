import Yayatht.HandshakeSchedules
import Yayatht.ReactorRun
import Yayatht.EffectLogic

set_option autoImplicit false

namespace Yayatht

namespace Proxy

theorem parseSocksAddress_reply {kind : UInt8} {rest : Bytes} {length : ℕ}
    (hl : Handshake.socksReplyLength kind rest = .ok (some length)) (hle : length ≤ rest.length + 4) :
    ∃ bound, parseSocksAddress (kind :: rest.take (length - 4)) = .ok bound := by
  unfold Handshake.socksReplyLength at hl
  split at hl
  · rename_i hkind
    subst hkind
    cases hl
    refine ⟨_, if_pos ?_⟩
    rw [List.length_cons, List.length_take]
    omega
  split at hl
  · rename_i hkind
    subst hkind
    cases hl
    refine ⟨_, if_pos ?_⟩
    rw [List.length_cons, List.length_take]
    omega
  split at hl
  · rename_i hkind
    subst hkind
    cases rest with
    | nil => cases hl
    | cons size rest =>
      simp only [List.head?_cons, Option.map_some, Except.ok.injEq, Option.some.injEq] at hl
      subst hl
      rw [List.length_cons] at hle
      have htake : (size :: rest).take (7 + size.toNat - 4) = size :: rest.take (size.toNat + 2) := by
        rw [show 7 + size.toNat - 4 = size.toNat + 2 + 1 by omega]
        rfl
      have hlength : (3 :: size :: rest.take (size.toNat + 2)).length = size.toNat + 4 := by
        simp only [List.length_cons, List.length_take]
        omega
      rw [htake]
      exact ⟨_, if_pos ⟨by omega, hlength⟩⟩
  · cases hl

namespace Handshake

/-- Handshakes that a new one comes to, whatever it is called with and whether the calls fail. -/
inductive Reached (protocol : Protocol) : Handshake → Prop
  | new {h : Handshake} {command : Command} {target : SocketAddr} {credentials : Option Credentials}
      (hn : Handshake.new protocol command target credentials = .ok h) : Reached protocol h
  | advance {h : Handshake} (hh : Reached protocol h) (length : ℕ) : Reached protocol (h.advanceOutput length).1
  | receive {h : Handshake} (hh : Reached protocol h) (input : Bytes) : Reached protocol (h.receive input).1

/-- The protocol a state belongs to; any handshake may be complete. -/
def spoken : HandshakeState → Option Protocol
  | .httpWrite => some .httpConnect
  | .httpRead => some .httpConnect
  | .complete => none
  | _ => some .socks5

/-- What a call that goes on leaves: the next state of the same protocol, or the end of it. -/
inductive Advanced (h : Handshake) : Handshake → Prop
  | same {g : Handshake} (hs : spoken g.state = spoken h.state) (hb : g.boundAddress = h.boundAddress)
      (hc : g.isComplete = false) : Advanced h g
  | bound {g : Handshake} {address : SocksAddress} (hs : spoken h.state = some .socks5)
      (hb : g.boundAddress = some address) (hc : g.isComplete = true) : Advanced h g
  | tunnel {g : Handshake} (hs : spoken h.state = some .httpConnect) (hb : g.boundAddress = h.boundAddress)
      (hc : g.isComplete = true) : Advanced h g

def boundAddressError : Error := .invalidResponse "SOCKS5 bound address"

inductive Received (h : Handshake) : Handshake × Except Error ℕ → Prop
  | failed {e : Error} (he : e ≠ boundAddressError) : Received h (h, .error e)
  | waiting : Received h (h, .ok 0)
  | taken {g : Handshake} {n : ℕ} (hn : 0 < n) (hg : Advanced h g) : Received h (g, .ok n)

variable {h : Handshake}

theorem received_socksMethod (hs : h.state = .socksMethodRead) (input : Bytes) :
    Received h (h.receiveSocksMethod input) := by
  unfold receiveSocksMethod
  split
  · split
    · exact .failed (by simp [boundAddressError])
    split
    · exact .taken (by omega) (.same (by rw [hs]; rfl) rfl rfl)
    split
    · split
      · exact .failed (by simp [boundAddressError])
      · exact .taken (by omega) (.same (by rw [hs]; rfl) rfl rfl)
    · exact .failed (by simp [boundAddressError])
  · exact .waiting

theorem received_socksAuth (hs : h.state = .socksAuthRead) (input : Bytes) :
    Received h (h.receiveSocksAuth input) := by
  unfold receiveSocksAuth
  split
  · split
    · exact .failed (by simp [boundAddressError])
    split
    · exact .failed (by simp [boundAddressError])
    · exact .taken (by omega) (.same (by rw [hs]; rfl) rfl rfl)
  · exact .waiting

theorem received_socksCommand (hs : h.state = .socksCommandRead) (input : Bytes) :
    Received h (h.receiveSocksCommand input) := by
  unfold receiveSocksCommand
  split
  · rename_i version code reserved kind rest
    split
    · exact .failed (by simp [boundAddressError])
    rename_i hheader
    split
    · rename_i e he
      refine .failed ?_
      unfold socksReplyLength at he
      split at he
      · cases he
      split at he
      · cases he
      split at he
      · cases he
      · cases he
        simp [boundAddressError]
    · exact .waiting
    · rename_i length hl
      split
      · exact .waiting
      rename_i hle
      split
      · exact .failed (by simp [boundAddressError])
      have hbounds := @commandSize_bounds (version :: code :: reserved :: kind :: rest) length
        (by simp only [commandSize, if_neg hheader]; exact hl)
      simp only [List.length_cons] at hle
      obtain ⟨bound, hbound⟩ := parseSocksAddress_reply hl (by omega)
      have hcut : ((version :: code :: reserved :: kind :: rest).take length).drop 3 =
          kind :: rest.take (length - 4) := by
        obtain ⟨k, rfl⟩ : ∃ k, length = k + 4 := ⟨length - 4, by omega⟩
        rfl
      rw [hcut, hbound]
      exact .taken (by omega) (.bound (by rw [hs]; rfl) rfl rfl)
  · exact .waiting

theorem received_http (hs : h.state = .httpRead) (input : Bytes) : Received h (h.receiveHttp input) := by
  unfold receiveHttp
  split
  · split
    · exact .failed (by simp [boundAddressError])
    · exact .waiting
  · dsimp only
    split
    · exact .failed (by simp [boundAddressError])
    split
    · exact .failed (by simp [boundAddressError])
    split
    · rename_i e he
      refine .failed ?_
      unfold statusOf at he
      split at he
      · split at he
        · cases he
          simp [boundAddressError]
        split at he
        · cases he
          simp [boundAddressError]
        split at he
        · cases he
        · cases he
          simp [boundAddressError]
      · cases he
        simp [boundAddressError]
    split
    · exact .taken (by omega) (.tunnel (by rw [hs]; rfl) rfl rfl)
    · exact .failed (by simp [boundAddressError])

theorem received (h : Handshake) (input : Bytes) : Received h (h.receive input) := by
  unfold Handshake.receive
  split
  · rename_i hs
    exact received_socksMethod hs input
  · rename_i hs
    exact received_socksAuth hs input
  · rename_i hs
    exact received_socksCommand hs input
  · rename_i hs
    exact received_http hs input
  · exact .failed (by simp [boundAddressError])

inductive Written (h : Handshake) : Handshake × Except Error Unit → Prop
  | failed : Written h (h, .error .invalidState)
  | sent {g : Handshake} (hs : spoken g.state = spoken h.state) (hb : g.boundAddress = h.boundAddress)
      (hc : g.isComplete = false) : Written h (g, .ok ())

theorem Tidy.writing_of_output (ht : Tidy h) (hne : h.output ≠ []) :
    h.wantsInput = false ∧ h.isComplete = false := by
  constructor
  · cases hw : h.wantsInput with
    | false => rfl
    | true => exact absurd (ht.reading (.inl hw)) hne
  · cases hc : h.isComplete with
    | false => rfl
    | true => exact absurd (ht.reading (.inr hc)) hne

theorem Tidy.written (ht : Tidy h) (length : ℕ) : Written h (h.advanceOutput length) := by
  unfold advanceOutput
  split
  · exact .failed
  rename_i hguard
  obtain ⟨hw, hc⟩ := ht.writing_of_output (not_or.mp hguard).2
  dsimp only
  split
  · exact .sent rfl rfl hc
  unfold wantsInput at hw
  unfold isComplete at hc
  cases hs : h.state with
  | socksGreetingWrite => exact .sent (by rw [hs]; rfl) rfl rfl
  | socksAuthWrite => exact .sent (by rw [hs]; rfl) rfl rfl
  | socksCommandWrite => exact .sent (by rw [hs]; rfl) rfl rfl
  | httpWrite => exact .sent (by rw [hs]; rfl) rfl rfl
  | socksMethodRead => simp [hs] at hw
  | socksAuthRead => simp [hs] at hw
  | socksCommandRead => simp [hs] at hw
  | httpRead => simp [hs] at hw
  | complete => simp [hs] at hc

theorem Tidy.advance (ht : Tidy h) (length : ℕ) :
    Tidy (h.advanceOutput length).1 ∧ (h.advanceOutput length).1.rank ≤ h.rank ∧
      (0 < length → ∀ r, (h.advanceOutput length).2 = .ok r →
        (h.advanceOutput length).1.output.length < h.output.length) := by
  by_cases hguard : length > h.output.length ∨ h.output = []
  · unfold advanceOutput
    rw [if_pos hguard]
    exact ⟨ht, Nat.le_refl _, fun _ _ hr => by cases hr⟩
  obtain ⟨hle, hne⟩ := not_or.mp hguard
  obtain ⟨hw, hc⟩ := ht.writing_of_output hne
  have hpos := List.length_pos_iff.mpr hne
  by_cases hall : length = h.output.length
  · subst hall
    obtain ⟨g, hg, htg, hrank⟩ := ht.advance_all hw hc
    rw [hg]
    refine ⟨htg, Nat.le_of_lt hrank, fun _ _ _ => ?_⟩
    rw [advanceOutput_all hne] at hg
    have hempty : g.output = [] := by
      have hfst : h.drained.1 = g := congrArg Prod.fst hg
      rw [← hfst]
      unfold drained
      dsimp only
      split <;> rfl
    rw [hempty]
    exact hpos
  · obtain ⟨g, hg, htg, hout, -⟩ := ht.advance_part hw hc (n := length) (by omega)
    have hstate : g.state = h.state := by
      unfold advanceOutput at hg
      have hlength := output_length h
      rw [if_neg hguard] at hg
      dsimp only at hg
      rw [if_pos (by omega)] at hg
      cases hg
      rfl
    rw [hg]
    refine ⟨htg, Nat.le_of_eq ?_, fun hlt _ _ => ?_⟩
    · unfold rank
      rw [hstate]
    · rw [hout, List.length_drop]
      omega

theorem Tidy.received (ht : Tidy h) (input : Bytes) : Tidy (h.receive input).1 := by
  cases hw : h.wantsInput with
  | true => exact (ht.receive hw input).1
  | false =>
    have hsame : h.receive input = (h, .error .invalidState) := by
      unfold Handshake.receive
      unfold wantsInput at hw
      cases hs : h.state <;> simp_all
    rw [hsame]
    exact ht

theorem Reached.tidy {protocol : Protocol} (hr : Reached protocol h) : Tidy h := by
  induction hr with
  | new hn => exact tidy_new hn
  | advance _ length ih => exact (ih.advance length).1
  | receive _ input ih => exact ih.received input

/-- The protocol spoken is the one begun with, and its outcome is there at the end only. -/
structure Speaks (protocol : Protocol) (h : Handshake) : Prop where
  spoken : h.isComplete = false → spoken h.state = some protocol
  bound : h.boundAddress.isSome = true ↔ protocol = .socks5 ∧ h.isComplete = true

theorem Speaks.advanced {protocol : Protocol} {g : Handshake} (hp : Speaks protocol h) (hg : Advanced h g)
    (hc : h.isComplete = false) : Speaks protocol g := by
  have hspoken := hp.spoken hc
  have hunbound : ¬ h.boundAddress.isSome = true := fun hb => by
    rw [(hp.bound.mp hb).2] at hc
    cases hc
  cases hg with
  | same hs hb hcg =>
    refine ⟨fun _ => hs.trans hspoken, ?_⟩
    rw [hb, hcg]
    exact iff_of_false hunbound (by simp)
  | bound hs hb hcg =>
    refine ⟨fun hn => absurd hn (by simp [hcg]), ?_⟩
    rw [hb, hcg]
    exact iff_of_true rfl ⟨Option.some.inj (hspoken.symm.trans hs), rfl⟩
  | tunnel hs hb hcg =>
    have hprotocol : protocol = .httpConnect := Option.some.inj (hspoken.symm.trans hs)
    refine ⟨fun hn => absurd hn (by simp [hcg]), ?_⟩
    rw [hb]
    exact iff_of_false hunbound (by simp [hprotocol])

theorem Reached.speaks {protocol : Protocol} (hr : Reached protocol h) : Speaks protocol h := by
  induction hr with
  | new hn =>
    unfold Handshake.new at hn
    cases protocol with
    | socks5 =>
      cases hn
      exact ⟨fun _ => rfl, iff_of_false (by simp) (by simp [isComplete])⟩
    | httpConnect =>
      dsimp only at hn
      split at hn
      · cases hn
        exact ⟨fun _ => rfl, iff_of_false (by simp) (by simp)⟩
      · cases hn
  | @advance h hr length ih =>
    have hwritten := hr.tidy.written length
    generalize hcall : h.advanceOutput length = call at hwritten ⊢
    cases hwritten with
    | failed => exact ih
    | sent hs hb hc =>
      cases hcomplete : h.isComplete with
      | false => exact ih.advanced (.same hs hb hc) hcomplete
      | true =>
        unfold isComplete at hcomplete
        unfold Handshake.advanceOutput at hcall
        rw [if_pos (.inr (hr.tidy.reading (.inr hcomplete)))] at hcall
        cases hcall
  | @receive h hr input ih =>
    have hreceived := h.received input
    generalize hcall : h.receive input = call at hreceived ⊢
    cases hreceived with
    | failed _ => exact ih
    | waiting => exact ih
    | taken hn hg =>
      cases hcomplete : h.isComplete with
      | false => exact ih.advanced hg hcomplete
      | true =>
        unfold Handshake.receive at hcall
        rw [of_decide_eq_true hcomplete] at hcall
        cases hcall

/-- Exactly one thing to do, for as long as there is anything. -/
structure SingleTask (protocol : Protocol) (h : Handshake) : Prop where
  sole : (h.output ≠ [] ∧ h.wantsInput = false ∧ h.isComplete = false) ∨
    (h.output = [] ∧ h.wantsInput = true ∧ h.isComplete = false) ∨
    (h.output = [] ∧ h.wantsInput = false ∧ h.isComplete = true)
  absorbing : h.isComplete = true → (∀ length, h.advanceOutput length = (h, .error .invalidState)) ∧
    ∀ input, h.receive input = (h, .error .invalidState)
  unsent : ∀ length g e, h.advanceOutput length = (g, .error e) → g = h
  unread : ∀ input g e, h.receive input = (g, .error e) → g = h
  bound : h.boundAddress.isSome = true ↔ protocol = .socks5 ∧ h.isComplete = true
  parses : ∀ input g, h.receive input ≠ (g, .error (.invalidResponse "SOCKS5 bound address"))

theorem Tidy.sole (ht : Tidy h) :
    (h.output ≠ [] ∧ h.wantsInput = false ∧ h.isComplete = false) ∨
      (h.output = [] ∧ h.wantsInput = true ∧ h.isComplete = false) ∨
      (h.output = [] ∧ h.wantsInput = false ∧ h.isComplete = true) := by
  cases hw : h.wantsInput with
  | true => exact .inr (.inl ⟨ht.reading (.inl hw), rfl, not_complete_of_wantsInput hw⟩)
  | false =>
    cases hc : h.isComplete with
    | true => exact .inr (.inr ⟨ht.reading (.inr hc), rfl, rfl⟩)
    | false => exact .inl ⟨ht.writing hw hc, rfl, rfl⟩

theorem Reached.singleTask {protocol : Protocol} (hr : Reached protocol h) : SingleTask protocol h where
  sole := hr.tidy.sole
  absorbing hc := by
    refine ⟨fun length => ?_, fun input => ?_⟩
    · unfold advanceOutput
      exact if_pos (.inr (hr.tidy.reading (.inr hc)))
    · unfold Handshake.receive
      rw [of_decide_eq_true hc]
  unsent length g e hcall := by
    have hwritten := hr.tidy.written length
    rw [hcall] at hwritten
    cases hwritten
    rfl
  unread input g e hcall := by
    have hreceived := h.received input
    rw [hcall] at hreceived
    cases hreceived
    rfl
  bound := hr.speaks.bound
  parses input g hcall := by
    have hreceived := h.received input
    rw [hcall] at hreceived
    cases hreceived with
    | failed he => exact he rfl

end Handshake

end Proxy

namespace Reactor

open Proxy EffectLogic

section Consuming

/-- One round of `consumeSocksRounds`; `none` when it goes round again. -/
def consumeSocksRound (id : FlowId) : Io (Option Bool) := do
  let a ← association id
  let h ← ensure "SOCKS association has no handshake" a.handshake
  if h.wantsInput then
    note (.socksReply h a.response)
    let (h, result) := h.receive a.response
    modifyAssociation id fun a => { a with handshake := some h }
    match result with
    | .error _ =>
      scheduleSocksRebuild id
      pure (some false)
    | .ok 0 => pure (some true)
    | .ok consumed =>
      modifyAssociation id fun a => { a with response := a.response.drop consumed }
      pure none
  else pure (some true)

theorem consumeSocksRounds_eq (id : FlowId) (rounds : ℕ) :
    consumeSocksRounds id rounds = looped (consumeSocksRound id) (pure true) rounds := by
  induction rounds with
  | zero => rfl
  | succ rounds ih =>
    unfold consumeSocksRounds looped consumeSocksRound
    rw [bind_assoc]
    refine bind_congr fun a => ?_
    rw [bind_assoc]
    refine bind_congr fun h => ?_
    split
    · rw [bind_assoc]
      refine bind_congr fun _ => ?_
      dsimp only
      rw [bind_assoc]
      refine bind_congr fun _ => ?_
      cases (h.receive a.response).2 with
      | error e =>
        dsimp only
        rw [bind_assoc]
        rfl
      | ok consumed =>
        cases consumed with
        | zero => rfl
        | succ consumed =>
          rw [ih]
          rfl
    · rfl

def responseLeft (id : FlowId) (s : Reactor) : ℕ :=
  ((s.socksAssociations.get id).map fun a => a.response.length).getD 0

theorem lowers_consumeSocksRound (id : FlowId) :
    Lowers (fun _ => True) (responseLeft id) (consumeSocksRound id) := by
  intro s t _ hround
  refine ⟨trivial, ?_⟩
  have hends : Ends (consumeSocksRound id) s
      (fun next t => next = none → responseLeft id t < responseLeft id s) fun _ _ => True := by
    unfold consumeSocksRound association
    rw [bind_assoc]
    refine Ends.get_bind ?_
    cases hget : s.socksAssociations.get id with
    | none => exact Ends.throw trivial
    | some a =>
      change Ends (ensure "SOCKS association has no handshake" a.handshake >>= _) s _ _
      cases a.handshake with
      | none => exact Ends.throw trivial
      | some h =>
        change Ends (ite _ _ _) s _ _
        split
        · refine Ends.modify_bind ?_
          dsimp only
          refine Ends.modify_bind ?_
          cases hresult : (h.receive a.response).2 with
          | error e => exact Ends.bind (R := fun _ _ => True) (Ends.mono (Ends.self _ _)
              (fun _ _ _ => trivial) fun _ _ _ => trivial) fun _ _ _ => Ends.pure (by simp)
          | ok consumed =>
            cases consumed with
            | zero => exact Ends.pure (by simp)
            | succ consumed =>
              obtain ⟨hle, -⟩ := (h.prefixed_receive).tight a.response _ hresult (by omega)
              refine Ends.modify_bind (Ends.pure fun _ => ?_)
              unfold responseLeft
              simp only [FlowTable.get_modify_self, hget, Option.map_some, Option.getD_some, List.length_drop]
              omega
        · exact Ends.pure (by simp)
  exact hends.ok hround rfl

end Consuming

section Driving

variable (cfg : Config)

/-- One round of `driveDnsRounds`; `none` when it goes round again. -/
def driveDnsRound : Io (Option Unit) := do
  let s ← get
  match s.dnsConnection with
  | .connecting _ (some h) =>
    if h.isComplete then some <$> promoteDns cfg
    else
      match ← sendDnsHandshake h (h.output.length + 1) with
      | .failed => some <$> failDnsConnection cfg
      | .wait => pure (some ())
      | .proceed h =>
        if h.wantsInput then
          match ← readDnsHandshake h with
          | .failed => some <$> failDnsConnection cfg
          | .wait => pure (some ())
          | .proceed _ => pure none
        else pure none
  | .connecting _ none => some <$> promoteDns cfg
  | _ => pure (some ())

theorem some_map_bind {α β : Type} (m : Io α) (rest : Option α → Io β) :
    (some <$> m) >>= rest = m >>= fun a => rest (some a) := by
  rw [← bind_pure_comp, bind_assoc]
  refine bind_congr fun a => ?_
  rw [pure_bind]

theorem driveDnsRounds_eq (rounds : ℕ) :
    driveDnsRounds cfg rounds = looped (driveDnsRound cfg) (pure ()) rounds := by
  induction rounds with
  | zero => rfl
  | succ rounds ih =>
    unfold driveDnsRounds looped driveDnsRound
    rw [bind_assoc]
    refine bind_congr fun s => ?_
    cases s.dnsConnection with
    | idle => rfl
    | ready => rfl
    | connecting connected handshake =>
      cases handshake with
      | none =>
        dsimp only
        rw [some_map_bind]
        exact (bind_pure _).symm
      | some h =>
        dsimp only
        split
        · rw [some_map_bind]
          exact (bind_pure _).symm
        · rw [bind_assoc]
          refine bind_congr fun stage => ?_
          cases stage with
          | failed =>
            dsimp only
            rw [some_map_bind]
            exact (bind_pure _).symm
          | wait => rfl
          | proceed h =>
            dsimp only
            split
            · rw [bind_assoc]
              refine bind_congr fun stage => ?_
              cases stage with
              | failed =>
                dsimp only
                rw [some_map_bind]
                exact (bind_pure _).symm
              | wait => rfl
              | proceed h => exact ih
            · exact ih

/-- The resolver connection is negotiated with this handshake. -/
def Negotiates (s : Reactor) (h : Handshake) : Prop :=
  ∃ connected, s.dnsConnection = .connecting connected (some h)

theorem Negotiates.of_eq {s t : Reactor} {h : Handshake} (hn : Negotiates s h)
    (ht : t.dnsConnection = s.dnsConnection) : Negotiates t h := by
  obtain ⟨connected, hc⟩ := hn
  exact ⟨connected, ht.trans hc⟩

theorem negotiates_setDnsHandshake {s : Reactor} {h : Handshake} (hn : Negotiates s h) (g : Handshake) :
    Ends (setDnsHandshake g) s (fun _ t => Negotiates t g) fun _ _ => False := by
  obtain ⟨connected, hc⟩ := hn
  refine Ends.modify ⟨connected, ?_⟩
  rw [hc]

theorem ends_sendDnsHandshake {protocol : Protocol} {h : Handshake} {s : Reactor} {rounds : ℕ}
    (hr : h.Reached protocol) (hc : h.isComplete = false) (hn : Negotiates s h) (hlt : h.output.length < rounds) :
    Ends (sendDnsHandshake h rounds) s
      (fun stage t => ∀ g, stage = .proceed g →
        g.Reached protocol ∧ g.isComplete = false ∧ g.output = [] ∧ g.rank ≤ h.rank ∧ Negotiates t g)
      fun _ _ => True := by
  induction rounds generalizing h s with
  | zero => omega
  | succ rounds ih =>
    unfold sendDnsHandshake
    split
    · rename_i hempty
      refine Ends.pure fun g hg => ?_
      cases hg
      exact ⟨hr, hc, hempty, Nat.le_refl _, hn⟩
    · refine Ends.bind (R := fun _ (t : Reactor) => t.dnsConnection = s.dnsConnection) (by rfl) fun answer t ht => ?_
      replace hn := hn.of_eq ht
      split
      · exact Ends.pure fun g hg => by cases hg
      · rename_i sent hzero
        have hwritten := hr.tidy.written sent
        obtain ⟨-, hrank, hshorter⟩ := hr.tidy.advance sent
        have hreached := hr.advance sent
        generalize h.advanceOutput sent = call at hwritten hrank hshorter hreached ⊢
        refine Ends.bind (Ends.mono (negotiates_setDnsHandshake hn _) (fun _ _ hu => hu) fun _ _ hf => hf.elim)
          fun _ u hu => ?_
        cases hwritten with
        | failed => exact Ends.pure fun g hg => by cases hg
        | @sent next hs hb hcg =>
          have hpos : 0 < sent := Nat.pos_of_ne_zero fun h0 => hzero h0
          have hlength := hshorter hpos () rfl
          refine (ih hreached hcg hu (by omega)).mono (fun stage v hv g hg => ?_) fun _ _ _ => trivial
          obtain ⟨h1, h2, h3, h4, h5⟩ := hv g hg
          exact ⟨h1, h2, h3, Nat.le_trans h4 hrank, h5⟩
      · exact Ends.pure fun g hg => by cases hg
      · exact Ends.pure fun g hg => by cases hg

theorem ends_readDnsHandshake {protocol : Protocol} {h : Handshake} {s : Reactor}
    (hr : h.Reached protocol) (hw : h.wantsInput = true) (hn : Negotiates s h) :
    Ends (readDnsHandshake h) s
      (fun stage t => ∀ g, stage = .proceed g → g.Reached protocol ∧ g.rank < h.rank ∧ Negotiates t g)
      fun _ _ => True := by
  unfold readDnsHandshake
  refine Ends.bind (R := fun _ (t : Reactor) => t.dnsConnection = s.dnsConnection) (by rfl) fun answer t ht => ?_
  replace hn := hn.of_eq ht
  split
  · exact Ends.pure fun g hg => by cases hg
  · rename_i response _
    have hreached := hr.receive response
    have hrank := (hr.tidy.receive hw response).2
    generalize h.receive response = call at hreached hrank ⊢
    refine Ends.bind (Ends.mono (negotiates_setDnsHandshake hn _) (fun _ _ hu => hu) fun _ _ hf => hf.elim)
      fun _ u hu => ?_
    obtain ⟨next, result⟩ := call
    cases result with
    | error e => exact Ends.pure fun g hg => by cases hg
    | ok consumed =>
      cases consumed with
      | zero => exact Ends.pure fun g hg => by cases hg
      | succ consumed =>
        refine Ends.bind (R := fun _ (v : Reactor) => v.dnsConnection = u.dnsConnection) (by rfl) fun answer v hv => ?_
        split
        · exact Ends.throw trivial
        · split
          · refine Ends.pure fun g hg => ?_
            cases hg
            exact ⟨hreached, hrank _ (Nat.succ_pos _) rfl, hu.of_eq hv⟩
          · exact Ends.pure fun g hg => by cases hg
  · exact Ends.pure fun g hg => by cases hg
  · exact Ends.pure fun g hg => by cases hg

def handshakeLeft (s : Reactor) : ℕ :=
  match s.dnsConnection with
  | .connecting _ (some h) => h.rank
  | _ => 0

/-- The resolver handshake began with `new`. -/
def Begun (s : Reactor) : Prop := ∀ h, Negotiates s h → ∃ protocol, h.Reached protocol

theorem Negotiates.handshakeLeft {s : Reactor} {h : Handshake} (hn : Negotiates s h) :
    handshakeLeft s = h.rank := by
  obtain ⟨connected, hc⟩ := hn
  unfold Reactor.handshakeLeft
  rw [hc]

theorem Negotiates.unique {s : Reactor} {g h : Handshake} (hg : Negotiates s g) (hh : Negotiates s h) : g = h := by
  obtain ⟨_, hg⟩ := hg
  obtain ⟨_, hh⟩ := hh
  rw [hg] at hh
  cases hh
  rfl

theorem ends_some {α : Type} (m : Io α) (s : Reactor) {P : Reactor → Prop} :
    Ends (some <$> m) s (fun next t => next = none → P t) fun _ _ => True := by
  rw [← bind_pure_comp]
  refine Ends.bind (R := fun _ _ => True) ((Ends.self m s).mono (fun _ _ _ => trivial) fun _ _ _ => trivial) ?_
  intro a t _
  exact Ends.pure fun hnone => by cases hnone

theorem lowers_driveDnsRound : Lowers Begun handshakeLeft (driveDnsRound cfg) := by
  intro s t hs hround
  have hends : Ends (driveDnsRound cfg) s
      (fun next t => next = none → Begun t ∧ handshakeLeft t < handshakeLeft s) fun _ _ => True := by
    unfold driveDnsRound
    refine Ends.get_bind ?_
    cases hc : s.dnsConnection with
    | idle => exact Ends.pure fun hnone => by cases hnone
    | ready => exact Ends.pure fun hnone => by cases hnone
    | connecting connected handshake =>
      cases handshake with
      | none => exact ends_some _ _
      | some h =>
        have hn : Negotiates s h := ⟨connected, hc⟩
        obtain ⟨protocol, hr⟩ := hs h hn
        dsimp only
        split
        · exact ends_some _ _
        · rename_i hopen
          have hopen : h.isComplete = false := by simpa using hopen
          refine Ends.bind (ends_sendDnsHandshake hr hopen hn (Nat.lt_succ_self _)) fun stage u hu => ?_
          cases stage with
          | failed => exact ends_some _ _
          | wait => exact Ends.pure fun hnone => by cases hnone
          | proceed g =>
            obtain ⟨hrg, hcg, hempty, hrank, hng⟩ := hu g rfl
            -- with nothing to send and not complete, it waits for input
            have hw : g.wantsInput = true := by
              rcases hrg.tidy.sole with ⟨hne, -⟩ | ⟨-, hw, -⟩ | ⟨-, -, hcomplete⟩
              · exact absurd hempty hne
              · exact hw
              · rw [hcg] at hcomplete
                cases hcomplete
            dsimp only
            rw [if_pos hw]
            refine Ends.bind (ends_readDnsHandshake hrg hw hng) fun stage v hv => ?_
            cases stage with
            | failed => exact ends_some _ _
            | wait => exact Ends.pure fun hnone => by cases hnone
            | proceed k =>
              obtain ⟨hrk, hlower, hnk⟩ := hv k rfl
              refine Ends.pure fun _ => ⟨fun other hother => ?_, ?_⟩
              · rw [hother.unique hnk]
                exact ⟨protocol, hrk⟩
              · rw [hnk.handshakeLeft, hn.handshakeLeft]
                omega
  exact hends.ok hround rfl

theorem rank_lt_handshakeRounds (h : Handshake) : h.rank < handshakeRounds := by
  unfold Handshake.rank handshakeRounds
  cases h.state <;> simp

theorem handshakeLeft_lt (s : Reactor) : handshakeLeft s < handshakeRounds := by
  unfold handshakeLeft
  split
  · exact rank_lt_handshakeRounds _
  · exact Nat.zero_lt_succ _

end Driving

/-- A handshake has one thing to do at a time, and the loops that do it do not spin: a round that goes on
leaves less to do, and nothing depends on how many rounds a loop may take beyond that. -/
theorem handshakes_have_single_tasks :
    (∀ protocol h, Handshake.Reached protocol h → h.SingleTask protocol) ∧
    (∀ protocol h s, Handshake.Reached protocol h → h.isComplete = false → Negotiates s h →
      Ends (sendDnsHandshake h (h.output.length + 1)) s
        (fun stage _ => ∀ g, stage = .proceed g → g.output = []) fun _ _ => True) ∧
    (∀ cfg, Lowers Begun handshakeLeft (driveDnsRound cfg) ∧
      ∀ s more dry, Begun s →
        looped (driveDnsRound cfg) dry (handshakeRounds + more) s = driveDnsRounds cfg handshakeRounds s) ∧
    ∀ id, Lowers (fun _ => True) (responseLeft id) (consumeSocksRound id) ∧
      ∀ s more dry, looped (consumeSocksRound id) dry (responseLeft id s + 1 + more) s =
        consumeSocksRounds id (responseLeft id s + 1) s := by
  refine ⟨fun protocol h hr => hr.singleTask, ?_, fun cfg => ⟨lowers_driveDnsRound cfg, ?_⟩, fun id =>
    ⟨lowers_consumeSocksRound id, ?_⟩⟩
  · intro protocol h s hr hc hn
    have hsent := ends_sendDnsHandshake hr hc hn (Nat.lt_succ_self _)
    exact hsent.mono (fun stage t ht g hg => (ht g hg).2.2.1) fun _ _ _ => trivial
  · intro s more dry hs
    have hlt := handshakeLeft_lt s
    rw [driveDnsRounds_eq]
    exact (lowers_driveDnsRound cfg).looped_eq _ _ hs (by omega) hlt
  · intro s more dry
    rw [consumeSocksRounds_eq]
    exact (lowers_consumeSocksRound id).looped_eq _ _ trivial (by omega) (by omega)

def greetingSample : Handshake :=
  ⟨.socksGreetingWrite, .connect, .v4 0x08080808#32 53, none, [5, 1, 0], 0, none⟩

def negotiatingSample : Reactor :=
  { Reactor.new (.sample (.direct false)) .quiet {} 0 0 with
    dnsConnection := .connecting true (some greetingSample) }

theorem greeting_has_single_task :
    greetingSample.SingleTask .socks5 ∧
      Ends (sendDnsHandshake greetingSample 4) negotiatingSample
        (fun stage _ => ∀ g, stage = .proceed g → g.output = []) (fun _ _ => True) ∧
      looped (driveDnsRound (.sample (.direct false))) (pure ()) (handshakeRounds + 1) negotiatingSample =
        driveDnsRounds (.sample (.direct false)) handshakeRounds negotiatingSample := by
  have hr : greetingSample.Reached .socks5 :=
    @Handshake.Reached.new .socks5 greetingSample .connect (.v4 0x08080808#32 53) none rfl
  have hn : Negotiates negotiatingSample greetingSample := ⟨true, rfl⟩
  have hbegun : Begun negotiatingSample := fun h hh => ⟨.socks5, hh.unique hn ▸ hr⟩
  obtain ⟨htask, hsend, hdrive, -⟩ := handshakes_have_single_tasks
  exact ⟨htask .socks5 greetingSample hr, hsend .socks5 greetingSample negotiatingSample hr rfl hn, (hdrive _).2 negotiatingSample 1 (pure ()) hbegun⟩

end Reactor

end Yayatht
