import Yayatht.InterestRefresh
import Yayatht.HandshakeStates

set_option autoImplicit false

namespace Yayatht
open EffectLogic

/-- The socket takes `len` bytes of handshake output in fewer than `rounds` writes. -/
def flushes : ℕ → Stream' (Except IoError Taken) → ℕ → Bool
  | 0, _, len => len = 0
  | rounds + 1, answers, len =>
    if len = 0 then true
    else
      match answers.head with
      | .ok taken => if taken.of len = 0 then false else flushes rounds answers.tail (len - taken.of len)
      | .error _ => false

theorem Taken.of_le (taken : Taken) (asked : ℕ) : taken.of asked ≤ asked := by
  cases taken with
  | all => exact le_rfl
  | part count => exact Nat.min_le_right _ _

namespace Proxy.Handshake

theorem drained_output (h : Handshake) : h.drained.1.output = [] := by
  unfold drained
  dsimp only
  split <;> rfl

theorem Tidy.sends {h : Handshake} (ht : h.Tidy) (hne : h.output ≠ []) {n : ℕ} (hn : n ≤ h.output.length) :
    ∃ g, h.advanceOutput n = (g, .ok ()) ∧ g.Tidy ∧ g.output.length = h.output.length - n := by
  obtain ⟨hw, hc⟩ := ht.writing_of_output hne
  rcases Nat.lt_or_eq_of_le hn with hlt | rfl
  · obtain ⟨g, hg, htidy, houtput, -⟩ := ht.advance_part hw hc hlt
    exact ⟨g, hg, htidy, by rw [houtput, List.length_drop]⟩
  · obtain ⟨g, hg, htidy, -⟩ := ht.advance_all hw hc
    refine ⟨g, hg, htidy, ?_⟩
    have hdrained := advanceOutput_all hne
    rw [hg] at hdrained
    have houtput := drained_output h
    rw [← hdrained] at houtput
    rw [houtput, Nat.sub_self]
    rfl

end Proxy.Handshake

theorem FlowEntry.desired_of_output {e : FlowEntry} {h : Proxy.Handshake} (hh : e.handshake = some h)
    (hne : h.output ≠ []) : e.desiredSocketInterest = watchful := by
  unfold FlowEntry.desiredSocketInterest watchful socketInterest
  simp [hh, hne]

theorem Flow.setAdvertisedWindow_fields (f : Flow) (budget : ℕ) :
    (f.setAdvertisedWindow budget).1.mss = f.mss ∧
      (f.setAdvertisedWindow budget).1.localWindowShift = f.localWindowShift := by
  unfold Flow.setAdvertisedWindow
  dsimp only
  split <;> exact ⟨rfl, rfl⟩

/-- What is done once the kernel reports a connection goes through. -/
def Activates (s : Reactor) : Prop :=
  s.kernel.setPeekOffset.head = .ok () ∧ s.kernel.enableTimestamps.head = .ok () ∧
    ∃ count, s.kernel.bytesAcked.head = .ok count

/-- A frame of `len` bytes passes, and after it an interest can be set. -/
def Arms (s : Reactor) (drops : Bool) (len : ℕ) : Prop :=
  s.kernel.epollModify.head = .ok () ∧ (Reactor.transit s drops len = .written ∨
    Reactor.transit s drops len = .queued ∧ s.kernel.epollModify.tail.head = .ok ())

/-- A flow under the key can be reset and closed. -/
def Resets (cfg : Config) (s : Reactor) (key : FlowKey) : Prop :=
  s.framePool.acquire.2.isSome = true ∧ s.kernel.epollDelete.head = .ok () ∧
    Arms s false (Reactor.tcpPayloadOffset cfg key none none)

/-- A flow that connects at once ends up with its interest set: its handshake output blocks or the interest can be
set after it; without a handshake the SYN-ACK passes, or the flow is reset where it cannot be activated. -/
structure Opens (cfg : Config) (s : Reactor) (key : FlowKey) (mss shift : ℕ) (handshake : Option Proxy.Handshake) :
    Prop where
  flushed : ∀ h, handshake = some h → flushes (h.output.length + 1) s.kernel.send h.output.length = true →
    s.kernel.epollModify.head = .ok ()
  announced : handshake = none → Activates s → s.framePool.acquire.2.isSome = true ∧
    Arms s (s.test.dropTcpSynAck > 0) (Reactor.tcpPayloadOffset cfg key (some mss) (if shift > 0 then some shift else none))
  abandoned : handshake = none → ¬Activates s → Resets cfg s key

theorem Abreast.watched {s : Reactor} {id : FlowId} {e : FlowEntry} (h : Abreast (some id) s) (hget : s.flows.get id = some e)
    (harmed : e.armedSocketInterest = watchful) (hdesired : e.desiredSocketInterest = watchful) : Abreast none s := by
  refine h.settled fun f hf _ => .inl ?_
  rw [hget] at hf
  cases hf
  rw [harmed, hdesired]

namespace Reactor

variable {cfg : Config} {s t : Reactor} {id : FlowId} {e : FlowEntry} {key : FlowKey}

theorem updateSocketInterest_current (h : Abreast none s) :
    Ends (updateSocketInterest id) s (fun _ t => Abreast none t) fun _ t => Abreast none t := by
  refine Ends.mono (updateSocketInterest_abreast (h.lagging _)) (fun _ _ h => h.1) ?_
  rintro _ t ⟨hflows, hlist⟩
  exact h.minds (.same hflows fun _ hl => hlist ▸ hl)

theorem updateSocketInterest_armed (h : Abreast (some id) s) (hfits : tokenFits id = true)
    (hanswer : s.kernel.epollModify.head = .ok ()) :
    Ends (updateSocketInterest id) s (fun _ t => Abreast none t) fun _ t => Abreast none t := by
  cases hget : s.flows.get id with
  | none =>
    refine updateSocketInterest_current (h.settled fun e he _ => ?_)
    rw [hget] at he
    cases he
  | some e =>
    refine Ends.mono (Ends.and (updateSocketInterest_abreast h) (R := fun _ _ => True) (F := fun _ _ => False) ?_)
      (fun _ _ h => h.1.1) fun _ _ h => h.2.elim
    unfold updateSocketInterest
    refine Ends.bind (Ends.mono (flowIsClosed_ends s id) (fun _ _ h => h) fun _ _ h => h.elim) ?_
    rintro _ _ ⟨rfl, rfl⟩
    split
    · exact Ends.pure trivial
    refine Ends.bind (Ends.mono (flowEntry_ends hget) (fun _ _ h => h) fun _ _ h => h.elim) ?_
    rintro _ _ ⟨rfl, rfl⟩
    split
    · exact Ends.pure trivial
    refine Ends.bind (R := fun _ t => t.flows = s.flows) ?_ fun _ t ht => ?_
    · refine Ends.bind (R := fun answer t => answer = .ok () ∧ t.flows = s.flows) ⟨hanswer, rfl⟩ ?_
      rintro _ t ⟨rfl, ht⟩
      exact Ends.pure ht
    · exact Ends.mono (modifyEntry_ends (ht ▸ hget) _) (fun _ _ _ => trivial) fun _ _ h => h

theorem failTcpFlow_abreast (h : Abreast (some id) s) (hget : s.flows.get id = some e)
    (hreset : Resettable cfg s e.construction) :
    Ends (failTcpFlow cfg id) s (fun _ t => Abreast none t) fun _ _ => False := by
  refine Ends.mono ((failTcpFlow_ends cfg hget).and ((rounds_minds (.about id)).failTcpFlow cfg id s)) ?_ ?_
  · rintro _ t ⟨⟨-, hretired, -⟩, hminds⟩
    exact (h.minds_about hminds).settled fun _ _ hopen => absurd hretired hopen
  · rintro _ t ⟨⟨hfails, -⟩, -⟩
    exact hfails hreset

theorem flushProxyRounds_abreast {h : Proxy.Handshake} (rounds : ℕ) (hlag : Abreast (some id) s)
    (hget : s.flows.get id = some e) (hh : e.handshake = some h) (htidy : h.Tidy)
    (harmed : e.armedSocketInterest = watchful) :
    Ends (flushProxyRounds cfg id rounds) s
      (fun _ t => Abreast none t ∨ Abreast (some id) t ∧ flushes rounds s.kernel.send h.output.length = true ∧
        t.kernel.epollModify = s.kernel.epollModify) fun _ t => Abreast none t := by
  induction rounds generalizing s e h with
  | zero =>
    by_cases hempty : h.output = []
    · refine Ends.pure (.inr ⟨hlag, ?_, rfl⟩)
      rw [hempty]
      rfl
    · exact Ends.pure (.inl (hlag.watched hget harmed (FlowEntry.desired_of_output hh hempty)))
  | succ rounds ih =>
    unfold flushProxyRounds
    refine Ends.bind (Ends.mono (flowEntry_ends hget) (fun _ _ h => h) fun _ _ h => h.elim) ?_
    rintro _ _ ⟨rfl, rfl⟩
    rw [hh]
    refine Ends.bind (R := fun a t => h = a ∧ s = t) (Ends.pure ⟨rfl, rfl⟩) ?_
    rintro _ _ ⟨rfl, rfl⟩
    split
    · rename_i hempty
      refine Ends.pure (.inr ⟨hlag, ?_, rfl⟩)
      rw [hempty]
      rfl
    rename_i hleft
    have hpos : h.output.length ≠ 0 := fun hzero => hleft (List.length_eq_zero_iff.mp hzero)
    refine Ends.bind (R := fun answer t => answer = s.kernel.send.head.map (·.of h.output.length) ∧
      Minds .none s t ∧ t.flows = s.flows ∧ t.kernel.send = s.kernel.send.tail ∧
      t.kernel.epollModify = s.kernel.epollModify) ?_ ?_
    · refine Ends.bind (R := fun answer t => answer = s.kernel.send.head ∧ Minds .none s t ∧ t.flows = s.flows ∧
        t.kernel.send = s.kernel.send.tail ∧ t.kernel.epollModify = s.kernel.epollModify)
        ⟨rfl, .same rfl fun _ h => h, rfl, rfl, rfl⟩ ?_
      rintro _ t ⟨rfl, ht⟩
      exact Ends.pure ⟨rfl, ht⟩
    rintro _ t ⟨rfl, hminds, hflows, hsend, hmodify⟩
    have hlagt := hlag.minds hminds
    have hgett : t.flows.get id = some e := by
      rw [hflows]
      exact hget
    -- as long as output is left the flow is watched for room
    have hcurrent := hlagt.watched hgett harmed (FlowEntry.desired_of_output hh hleft)
    have hfails : Ends (failProxyHandshake cfg id) t
        (fun _ u => Abreast none u ∨ Abreast (some id) u ∧ flushes (rounds + 1) s.kernel.send h.output.length = true ∧
          u.kernel.epollModify = s.kernel.epollModify) fun _ u => Abreast none u :=
      Ends.mono (abreast_of_heeds ((rounds_minds .none).failProxyHandshake cfg id) hcurrent) (fun _ _ hu => .inl hu)
        fun _ _ hu => hu
    unfold flushes at hfails ⊢
    rw [if_neg hpos] at hfails ⊢
    cases hhead : s.kernel.send.head with
    | error error =>
      rw [hhead] at hfails
      cases error with
      | wouldBlock => exact Ends.pure (.inl hcurrent)
      | unexpectedEof => exact hfails
      | os code => exact hfails
    | ok answer =>
      rw [hhead] at hfails
      dsimp only [Except.map] at hfails ⊢
      cases hsent : answer.of h.output.length with
      | zero =>
        rw [hsent] at hfails
        exact hfails
      | succ sent =>
        obtain ⟨g, hadvance, hgtidy, hglength⟩ := htidy.sends hleft (hsent ▸ answer.of_le h.output.length)
        simp only [hadvance]
        refine Ends.bind (Ends.mono (modifyEntry_ends hgett _) (fun _ _ h => h) fun _ _ h => h.elim) ?_
        intro _ u hu
        rw [if_neg (Nat.succ_ne_zero sent)]
        obtain ⟨f, hgetu, hfh, hfarmed⟩ :
            ∃ f, u.flows.get id = some f ∧ f.handshake = some g ∧ f.armedSocketInterest = watchful := by
          rw [hu]
          dsimp only
          rw [FlowTable.get_modify_self, hgett]
          exact ⟨_, rfl, rfl, harmed⟩
        have hlagu : Abreast (some id) u := by
          rw [hu]
          exact hlagt.minds_about (.edited hgett (.inr ⟨rfl, fun h => h⟩))
        have hkernel : u.kernel = t.kernel := by rw [hu]
        refine Ends.mono (ih hlagu hgetu hfh hgtidy hfarmed) ?_ fun _ _ hv => hv
        rintro _ v (hv | ⟨hv, hflushes, hsame⟩)
        · exact .inl hv
        · rw [hkernel, hsend, hglength] at hflushes
          exact .inr ⟨hv, hflushes, hsame.trans (by rw [hkernel, hmodify])⟩

theorem flushProxyOutput_abreast {h : Proxy.Handshake} (hlag : Abreast (some id) s) (hget : s.flows.get id = some e)
    (hh : e.handshake = some h) (htidy : h.Tidy) (harmed : e.armedSocketInterest = watchful) :
    Ends (flushProxyOutput cfg id) s
      (fun _ t => Abreast none t ∨ Abreast (some id) t ∧
        flushes (h.output.length + 1) s.kernel.send h.output.length = true ∧
        t.kernel.epollModify = s.kernel.epollModify) fun _ t => Abreast none t := by
  unfold flushProxyOutput
  refine Ends.bind (Ends.mono (flowEntry_ends hget) (fun _ _ h => h) fun _ _ h => h.elim) ?_
  rintro _ _ ⟨rfl, rfl⟩
  rw [hh]
  refine Ends.bind (R := fun a t => h = a ∧ s = t) (Ends.pure ⟨rfl, rfl⟩) ?_
  rintro _ _ ⟨rfl, rfl⟩
  exact flushProxyRounds_abreast _ hlag hget hh htidy harmed

theorem queueSynAck_passes (cfg : Config) {sides : FlowSides} (bytesAcked : ℕ) {g : FlowEntry}
    (hflow : g.flow = (e.flow.socketConnected bytesAcked).1) (hget : s.flows.get id = some g)
    (hsides : g.construction.activeSides = some sides)
    (hfamily : sides.namespaceKey.target.isIpv4 = sides.namespaceKey.namespaceEnd.isIpv4)
    (hfree : s.framePool.acquire.2.isSome = true)
    (harms : Arms s (s.test.dropTcpSynAck > 0) (tcpPayloadOffset cfg sides.namespaceKey (some g.flow.mss)
      (if g.flow.localWindowShift > 0 then some g.flow.localWindowShift else none))) :
    Ends (queueSynAck cfg id (e.flow.socketConnected bytesAcked).2) s
      (fun _ t => t.kernel.epollModify.head = .ok ()) fun _ _ => False := by
  have hdrops : dropsFrame s.test (e.flow.socketConnected bytesAcked).2 = decide (s.test.dropTcpSynAck > 0) := rfl
  unfold queueSynAck
  refine Ends.bind (buildFlowFrame_ends _ { syn := true, ack := true } hget hsides hfamily hfree) ?_
  rintro frame t ⟨hlen, hflows, hqueue, hkernel, htest⟩
  simp only [true_and, if_true] at hlen
  rw [← hlen] at harms
  have hpass : Passes t (dropsFrame t.test (e.flow.socketConnected bytesAcked).2) frame.len := by
    rw [htest, hdrops]
    refine Passes.of_same ?_ hqueue hkernel
    exact harms.2.imp_right fun h => ⟨h.1, harms.1⟩
  refine Ends.mono (queueTap_passes rfl (fun _ => rfl) hpass fun u hu => ?_) ?_ fun _ _ h => h
  · have hgetu : u.flows.get id = some g := by
      rw [hu, hflows]
      exact hget
    have hmatches : g.commitMatches (e.flow.socketConnected bytesAcked).2 = true := by
      have hmatches := e.commitMatches_synAck bytesAcked
      unfold FlowEntry.commitMatches FlowEntry.advanced at hmatches ⊢
      rw [hflow]
      exact hmatches
    unfold commitTapSend commitPlan
    refine Ends.bind (R := fun _ v => v.kernel.epollModify = u.kernel.epollModify) ?_ fun _ v hv => ?_
    · refine Ends.get_bind ?_
      rw [hgetu]
      dsimp only
      rw [if_pos hmatches]
      refine Ends.bind (R := fun _ v => v.flows = u.flows ∧ v.kernel.epollModify = u.kernel.epollModify) ⟨rfl, rfl⟩ ?_
      rintro now v ⟨hflows, hv⟩
      refine Ends.mono (modifyEntry_ends (hflows ▸ hgetu) _) ?_ fun _ _ h => h
      rintro _ _ rfl
      exact hv
    · unfold releaseFrame
      refine Ends.modify ?_
      cases frame.slot.tier <;> exact hv
  · rintro _ u hpassed
    unfold Passed at hpassed
    rw [htest, hdrops, transit_eq hqueue hkernel, hkernel] at hpassed
    rcases hpassed with ⟨-, hsame⟩ | ⟨hqueued, hsame⟩
    · rw [hsame]
      exact harms.1
    · rw [hsame]
      rcases harms.2 with hwritten | ⟨-, hanswer⟩
      · rw [hqueued] at hwritten
        cases hwritten
      · exact hanswer

/-- The entry changed in parts that do not matter for the SYN-ACK, and nothing was sent. -/
structure Nearing (id : FlowId) (e : FlowEntry) (s t : Reactor) : Prop where
  minds : Minds (.about id) s t
  sending : sending t = sending s
  deletes : t.kernel.epollDelete = s.kernel.epollDelete
  entry : ∃ f, t.flows.get id = some f ∧ f.construction = e.construction ∧ f.flow.mss = e.flow.mss ∧
    f.flow.localWindowShift = e.flow.localWindowShift

namespace Nearing

variable {u : Reactor}

theorem refl (hget : s.flows.get id = some e) : Nearing id e s s := ⟨Std.Refl.refl s, rfl, rfl, e, hget, rfl, rfl, rfl⟩

theorem same (h : Nearing id e s t) (hflows : u.flows = t.flows) (hlist : u.ackRefreshQueue = t.ackRefreshQueue)
    (hsending : Yayatht.sending u = Yayatht.sending t) (hdeletes : u.kernel.epollDelete = t.kernel.epollDelete) :
    Nearing id e s u where
  minds := IsTrans.trans _ _ _ h.minds (.same hflows fun _ hl => hlist ▸ hl)
  sending := hsending.trans h.sending
  deletes := hdeletes.trans h.deletes
  entry := by
    rw [hflows]
    exact h.entry

theorem edit (h : Nearing id e s t) {f : FlowEntry} (hget : t.flows.get id = some f) {g : FlowEntry → FlowEntry}
    (hopen : f.open? = true → (g f).open? = true) (hconstruction : (g f).construction = f.construction)
    (hmss : (g f).flow.mss = f.flow.mss) (hshift : (g f).flow.localWindowShift = f.flow.localWindowShift) :
    Nearing id e s { t with flows := t.flows.modify id g } where
  minds := IsTrans.trans _ _ _ h.minds (.edited hget (.inr ⟨rfl, hopen⟩))
  sending := h.sending
  deletes := h.deletes
  entry := by
    obtain ⟨f', hget', hfields⟩ := h.entry
    rw [hget] at hget'
    cases hget'
    refine ⟨g f, ?_, hconstruction.trans hfields.1, hmss.trans hfields.2.1, hshift.trans hfields.2.2⟩
    dsimp only
    rw [FlowTable.get_modify_self, hget]
    rfl

end Nearing

theorem resettable_of_resets {sides : FlowSides} {f : FlowEntry} (h : Resets cfg s sides.namespaceKey)
    (hsides : e.construction.activeSides = some sides) (hconstruction : f.construction = e.construction)
    (hfamily : sides.namespaceKey.target.isIpv4 = sides.namespaceKey.namespaceEnd.isIpv4)
    (hsending : sending t = sending s) (hdeletes : t.kernel.epollDelete = s.kernel.epollDelete) :
    Resettable cfg t f.construction := by
  obtain ⟨hfree, hdelete, hmodify, htransit⟩ := h
  simp only [sending, Prod.mk.injEq] at hsending
  obtain ⟨hpool, hqueue, -, hwrite, hanswers⟩ := hsending
  have hhandover : ∀ len, handover t len = transit s false len := by
    intro len
    have hsame : transit s false len = handover s len := if_neg fun h => Bool.false_ne_true h.1
    rw [hsame]
    unfold handover
    rw [hqueue, hwrite]
  refine ⟨sides, hconstruction ▸ hsides, hfamily, hpool ▸ hfree, hdeletes ▸ hdelete, hanswers ▸ hmodify, ?_⟩
  rw [hhandover, hanswers]
  exact htransit

/-- A flow that is activated: it is given up, or an interest can be set after the SYN-ACK. -/
theorem activateFlow_abreast {sides : FlowSides} (hlag : Abreast (some id) s) (hget : s.flows.get id = some e)
    (hsides : e.construction.activeSides = some sides)
    (hfamily : sides.namespaceKey.target.isIpv4 = sides.namespaceKey.namespaceEnd.isIpv4)
    (hopens : Opens cfg s sides.namespaceKey e.flow.mss e.flow.localWindowShift none) :
    Ends (activateFlow cfg id) s
      (fun _ t => Abreast none t ∨ Abreast (some id) t ∧ t.kernel.epollModify.head = .ok ()) fun _ _ => False := by
  have hfail : ¬Activates s → ∀ {t : Reactor}, Nearing id e s t → Ends (failTcpFlow cfg id) t
      (fun _ u => Abreast none u ∨ Abreast (some id) u ∧ u.kernel.epollModify.head = .ok ()) fun _ _ => False := by
    intro hinactive t ht
    obtain ⟨f, hf, hconstruction, -⟩ := ht.entry
    have hreset := resettable_of_resets (hopens.abandoned rfl hinactive) hsides hconstruction hfamily ht.sending ht.deletes
    exact Ends.mono (failTcpFlow_abreast (hlag.minds_about ht.minds) hf hreset) (fun _ _ hu => .inl hu) fun _ _ h => h
  unfold activateFlow
  refine Ends.bind (flowEntry_ends hget) ?_
  rintro _ _ ⟨rfl, rfl⟩
  refine Ends.bind (R := fun answer t => answer = s.kernel.setPeekOffset.head ∧ Nearing id e s t ∧
    t.kernel.enableTimestamps = s.kernel.enableTimestamps ∧ t.kernel.bytesAcked = s.kernel.bytesAcked) ?_ ?_
  · unfold setPeekOffset
    refine Ends.bind (R := fun answer t => answer = s.kernel.setPeekOffset.head ∧ t.flows = s.flows ∧ Nearing id e s t ∧
      t.kernel.enableTimestamps = s.kernel.enableTimestamps ∧ t.kernel.bytesAcked = s.kernel.bytesAcked)
      ⟨rfl, rfl, (Nearing.refl hget).same rfl rfl rfl rfl, rfl, rfl⟩ ?_
    rintro _ t ⟨rfl, hflows, ht, hrest⟩
    cases hhead : s.kernel.setPeekOffset.head with
    | error error => exact Ends.pure ⟨rfl, ht, hrest⟩
    | ok a =>
      have hgett : t.flows.get id = some e := by
        rw [hflows]
        exact hget
      refine Ends.bind (modifyEntry_ends hgett _) ?_
      rintro _ _ rfl
      exact Ends.pure ⟨rfl, ht.edit hgett (fun h => h) rfl rfl rfl, hrest⟩
  rintro _ t ⟨rfl, ht, henable, hacked⟩
  cases hpeek : s.kernel.setPeekOffset.head with
  | error error => exact hfail (fun h => by rw [h.1] at hpeek; cases hpeek) ht
  | ok a =>
  refine Ends.bind (R := fun answer u => answer = s.kernel.enableTimestamps.head ∧ Nearing id e s u ∧
    u.kernel.bytesAcked = s.kernel.bytesAcked) ⟨?_, ht.same rfl rfl rfl rfl, hacked⟩ ?_
  · change t.kernel.enableTimestamps.head = _
    rw [henable]
  rintro _ u ⟨rfl, hu, hacked⟩
  cases henabled : s.kernel.enableTimestamps.head with
  | error error => exact hfail (fun h => by rw [h.2.1] at henabled; cases henabled) hu
  | ok a =>
  refine Ends.bind (R := fun answer v => answer = s.kernel.bytesAcked.head ∧ Nearing id e s v)
    ⟨?_, hu.same rfl rfl rfl rfl⟩ ?_
  · change u.kernel.bytesAcked.head = _
    rw [hacked]
  rintro _ v ⟨rfl, hv⟩
  cases hcount : s.kernel.bytesAcked.head with
  | error error => exact hfail (fun ⟨_, _, _, h⟩ => by rw [h] at hcount; cases hcount) hv
  | ok bytesAcked =>
  obtain ⟨hfree, harms⟩ := hopens.announced rfl ⟨hpeek, henabled, bytesAcked, hcount⟩
  refine Ends.bind (R := fun _ w => Nearing id e s w) ?_ fun _ w hw => ?_
  · obtain ⟨f, hf, -⟩ := hv.entry
    unfold updateNamespaceWindow
    refine Ends.get_bind (Ends.bind (flowEntry_ends hf) ?_)
    rintro _ _ ⟨rfl, rfl⟩
    refine Ends.bind (modifyEntry_ends hf _) ?_
    rintro _ _ rfl
    exact Ends.pure (hv.edit hf (slight_window f _).2 rfl (Flow.setAdvertisedWindow_fields f.flow _).1
      (Flow.setAdvertisedWindow_fields f.flow _).2)
  obtain ⟨f, hf, -⟩ := hw.entry
  refine Ends.bind (flowEntry_ends hf) ?_
  rintro _ _ ⟨rfl, rfl⟩
  refine Ends.bind (R := fun _ x => w = x) rfl ?_
  rintro busy _ rfl
  refine Ends.bind (R := fun _ x => Nearing id e s x ∧ x.flows = w.flows) ⟨hw.same rfl rfl rfl rfl, rfl⟩ ?_
  rintro _ x ⟨hx, hflows⟩
  have hfx : x.flows.get id = some f := by
    rw [hflows]
    exact hf
  refine Ends.bind (modifyEntry_ends hfx _) ?_
  intro _ y hy
  have hnear : Nearing id e s y := by
    rw [hy]
    exact hx.edit hfx (fun _ => rfl) rfl rfl rfl
  have hgety : y.flows.get id = some { f with flow := (f.flow.socketConnected bytesAcked).1 } := by
    rw [hy]
    dsimp only
    rw [FlowTable.get_modify_self, hfx]
    rfl
  obtain ⟨g, hg, hconstruction, hmss, hshift⟩ := hnear.entry
  rw [hgety] at hg
  cases hg
  have hsending := hnear.sending
  simp only [sending, Prod.mk.injEq] at hsending
  obtain ⟨hpool, hqueue, htest, hwrite, hanswers⟩ := hsending
  have hpasses := queueSynAck_passes cfg (e := f) bytesAcked rfl hgety (by rw [hconstruction, hsides]) hfamily
    (hpool ▸ hfree) (by
      unfold Arms transit handover at harms ⊢
      rw [hmss, hshift, hanswers, hqueue, htest, hwrite]
      exact harms)
  refine Ends.mono (noteFailure_ends (F := fun _ _ => False)
    (hpasses.and ((rounds_minds (.about id)).queueSynAck cfg id _ y)) fun _ _ h => h.1) ?_ fun _ _ h => h
  rintro _ z ⟨hanswer, hz⟩
  exact .inr ⟨hlag.minds_about (IsTrans.trans _ _ _ hnear.minds hz), hanswer⟩

def prospects (s : Reactor) :=
  (s.framePool, s.tapQueue, s.test, s.kernel.epollModify, s.kernel.epollDelete, s.kernel.tapWrite, s.kernel.send,
    s.kernel.setPeekOffset, s.kernel.enableTimestamps, s.kernel.bytesAcked)

theorem opens_of_prospects {mss shift : ℕ} {handshake : Option Proxy.Handshake} (hsame : prospects t = prospects s)
    (h : Opens cfg s key mss shift handshake) : Opens cfg t key mss shift handshake := by
  simp only [prospects, Prod.mk.injEq] at hsame
  obtain ⟨hpool, hqueue, htest, hmodify, hdelete, hwrite, hsend, hpeek, henable, hacked⟩ := hsame
  obtain ⟨hflushed, hannounced, habandoned⟩ := h
  unfold Activates Resets Arms transit handover at *
  constructor
  · rw [hsend, hmodify]
    exact hflushed
  · unfold Activates Arms transit handover
    rw [hpool, hqueue, htest, hmodify, hwrite, hpeek, henable, hacked]
    exact hannounced
  · unfold Activates Resets Arms transit handover
    rw [hpool, hqueue, hmodify, hdelete, hwrite, hpeek, henable, hacked]
    exact habandoned

theorem finishTransportConnect_abreast {sides : FlowSides} (hcurrent : Abreast none s) (hget : s.flows.get id = some e)
    (harmed : e.armedSocketInterest = watchful) (htidy : ∀ h, e.handshake = some h → h.Tidy)
    (hsides : e.construction.activeSides = some sides)
    (hfamily : sides.namespaceKey.target.isIpv4 = sides.namespaceKey.namespaceEnd.isIpv4)
    (hfits : tokenFits id = true)
    (hopens : s.kernel.pendingError.head = .ok none →
      Opens cfg s sides.namespaceKey e.flow.mss e.flow.localWindowShift e.handshake) :
    Ends (do
      finishTransportConnect cfg id
      updateSocketInterest id : Io Unit) s (fun _ t => Abreast none t) fun _ t => Abreast none t := by
  refine Ends.bind (R := fun _ t => Abreast none t ∨ Abreast (some id) t ∧ t.kernel.epollModify.head = .ok ()) ?_ ?_
  rotate_left
  · rintro _ t (ht | ⟨ht, hanswer⟩)
    · exact updateSocketInterest_current ht
    · exact updateSocketInterest_armed ht hfits hanswer
  unfold finishTransportConnect
  refine Ends.bind (Ends.mono (flowEntry_ends hget) (fun _ _ h => h) fun _ _ h => h.elim) ?_
  rintro _ _ ⟨rfl, rfl⟩
  refine Ends.bind (R := fun pending t => s.kernel.pendingError.head = .ok pending ∧ Minds .none s t ∧
    t.flows = s.flows ∧ prospects t = prospects s) ?_ ?_
  · refine Ends.bind (R := fun answer t => answer = s.kernel.pendingError.head ∧ Minds .none s t ∧
      t.flows = s.flows ∧ prospects t = prospects s) ⟨rfl, .same rfl fun _ h => h, rfl, rfl⟩ ?_
    rintro _ t ⟨rfl, hminds, ht⟩
    cases hhead : s.kernel.pendingError.head with
    | error error => exact Ends.throw (hcurrent.minds hminds)
    | ok pending => exact Ends.pure ⟨rfl, hminds, ht⟩
  rintro pending t ⟨hpending, hminds, hflows, hprospects⟩
  have ht := hcurrent.minds hminds
  have hP := rounds_minds .none
  cases pending with
  | some code =>
    exact Ends.mono (abreast_of_heeds ((hP.sendResetForFlow cfg id).bind fun _ => hP.closeFlow cfg id) ht)
      (fun _ _ hu => .inl hu) fun _ _ hu => hu
  | none =>
    have hgett : t.flows.get id = some e := by
      rw [hflows]
      exact hget
    refine Ends.bind (Ends.mono (modifyEntry_ends hgett _) (fun _ _ h => h) fun _ _ h => h.elim) ?_
    intro _ u hu
    have hlag : Abreast (some id) u := by
      rw [hu]
      exact (ht.lagging _).minds_about (.edited hgett (.inr ⟨rfl, fun h => h⟩))
    have hgetu : u.flows.get id = some { e with transportConnected := true } := by
      rw [hu]
      dsimp only
      rw [FlowTable.get_modify_self, hgett]
      rfl
    have hsame : prospects u = prospects s := by
      rw [hu]
      exact hprospects
    have hopens := opens_of_prospects hsame (hopens hpending)
    refine Ends.bind (Ends.mono (flowEntry_ends hgetu) (fun _ _ h => h) fun _ _ h => h.elim) ?_
    rintro _ _ ⟨rfl, rfl⟩
    dsimp only
    cases hhandshake : e.handshake with
    | some h =>
      refine Ends.mono (flushProxyOutput_abreast hlag hgetu hhandshake (htidy h hhandshake) harmed) ?_ fun _ _ hv => hv
      rintro _ v (hv | ⟨hv, hflushes, hanswers⟩)
      · exact .inl hv
      · refine .inr ⟨hv, ?_⟩
        rw [hanswers]
        exact hopens.flushed h hhandshake hflushes
    | none =>
      rw [hhandshake] at hopens
      exact Ends.mono (activateFlow_abreast hlag hgetu hsides hfamily hopens) (fun _ _ hv => hv) fun _ _ h => h.elim

/-- A flow whose SYN is taken is registered, watched and connected at once, with no error. -/
structure ConnectsAtOnce (s : Reactor) : Prop where
  connected : s.kernel.connect.head = .ok true ∨ s.kernel.connect.head = .ok false ∧ s.kernel.pollWritable.head = .ok true
  endpoint : ∃ address, s.kernel.localAddress.head = .ok address
  buffers : ∃ sizes, s.kernel.bufferSizes.head = .ok sizes
  seed : ∃ random, s.kernel.random.head = .ok random
  registered : ∃ entry id, (s.flows.insert entry).2 = .ok id ∧ tokenFits id = true
  watched : s.kernel.epollAdd.head = .ok ()
  sound : s.kernel.pendingError.head = .ok none

theorem registerFlow_abreast {entry : FlowEntry} (h : Abreast none s) (hwf : s.flows.Wf) (hopen : entry.open? = true)
    (hset : entry.armedSocketInterest = entry.desiredSocketInterest) (key : FlowKey) :
    Ends (registerFlow key entry) s
      (fun result t => Abreast none t ∧ t.kernel = s.kernel ∧ prospects t = prospects s ∧
        ∀ id, result = some id → (s.flows.insert entry).2 = .ok id ∧ t.flows.get id = some entry)
      fun _ _ => False := by
  unfold registerFlow
  refine Ends.get_bind ?_
  rcases hwf.insert_cases entry with hfull | ⟨flows, id, hinsert, -, hdeferred, hunused, hget, -⟩
  · rw [hfull]
    exact Ends.set_bind (Ends.pure ⟨h, rfl, rfl, fun id hid => nomatch hid⟩)
  · rw [hinsert]
    refine Ends.set_bind (Ends.bind (R := fun _ t => t.flows = flows ∧ t.ackRefreshQueue = s.ackRefreshQueue ∧
      t.kernel = s.kernel ∧ prospects t = prospects s) ⟨rfl, rfl, rfl, rfl⟩ ?_)
    rintro _ t ⟨hflows, hlist, hkernel, hprospects⟩
    refine Ends.pure ⟨fun other e he ho => ?_, hkernel, hprospects, fun _ ho => ?_⟩
    · rw [hflows, hget] at he
      rw [hflows, hdeferred] at ho
      split at he
      · cases he
        exact ⟨hopen, .inr (.inl hset)⟩
      · rw [hlist]
        exact h other e he ho
    · cases ho
      refine ⟨rfl, ?_⟩
      rw [hflows, hget, if_pos rfl]

theorem constructFlow_ends (key : FlowKey) (side : FlowSide) (s : Reactor) :
    Ends (constructFlow key side) s (fun construction t => s = t ∧ ∀ active, construction.activate = .ok active →
      ∃ sides, active.1.activeSides = some sides ∧ sides.namespaceKey = key) fun _ _ => False := by
  refine Ends.pure ⟨rfl, fun active hactive => ?_⟩
  cases hactive
  exact ⟨_, rfl, rfl⟩

theorem startFlow_abreast (h : Abreast none s) (hget : s.flows.get id = some e) :
    Ends (startFlow id) s
      (fun _ t => tokenFits id = true ∧ s.kernel.epollAdd.head = .ok () ∧ Abreast none t ∧ prospects t = prospects s ∧
        t.kernel.pollWritable = s.kernel.pollWritable ∧ t.kernel.pendingError = s.kernel.pendingError ∧
        ∃ active, e.construction.activate = .ok active ∧ t.flows.get id = some { e with construction := active.1 })
      fun _ t => Abreast none t := by
  unfold startFlow
  split
  rotate_left
  · exact Ends.throw h
  rename_i hfits
  refine Ends.bind (Ends.mono (flowEntry_ends hget) (fun _ _ h => h) fun _ _ h => h.elim) ?_
  rintro _ _ ⟨rfl, rfl⟩
  refine Ends.bind (R := fun _ t => s.kernel.epollAdd.head = .ok () ∧ Abreast none t ∧ t.flows = s.flows ∧
    prospects t = prospects s ∧ t.kernel.pollWritable = s.kernel.pollWritable ∧
    t.kernel.pendingError = s.kernel.pendingError) ?_ ?_
  · refine Ends.bind (R := fun answer t => answer = s.kernel.epollAdd.head ∧ Abreast none t ∧ t.flows = s.flows ∧
      prospects t = prospects s ∧ t.kernel.pollWritable = s.kernel.pollWritable ∧
      t.kernel.pendingError = s.kernel.pendingError) ⟨rfl, h, rfl, rfl, rfl, rfl⟩ ?_
    rintro _ t ⟨rfl, ht, hrest⟩
    cases hhead : s.kernel.epollAdd.head with
    | error error => exact Ends.throw ht
    | ok a => exact Ends.pure ⟨rfl, ht, hrest⟩
  rintro _ t ⟨hadded, ht, hflows, hprospects, hpoll, hpending⟩
  have hgett : t.flows.get id = some e := by
    rw [hflows]
    exact hget
  refine Ends.bind (Ends.mono (flowEntry_ends hgett) (fun _ _ h => h) fun _ _ h => h.elim) ?_
  rintro _ _ ⟨rfl, rfl⟩
  cases hactive : e.construction.activate with
  | error state => exact ht
  | ok active =>
    refine Ends.bind (R := fun a u => active = a ∧ t = u) (Ends.pure ⟨rfl, rfl⟩) ?_
    rintro _ _ ⟨rfl, rfl⟩
    refine Ends.bind (Ends.mono (modifyEntry_ends hgett _) (fun _ _ h => h) fun _ _ h => h.elim) ?_
    rintro _ _ rfl
    refine Ends.modify ⟨hfits, hadded, ?_, hprospects, hpoll, hpending, active, rfl, ?_⟩
    · exact ht.minds (IsTrans.trans _ _ _ (Minds.edited hgett ⟨fun h => h, rfl⟩) (.same rfl fun _ h => h))
    · dsimp only
      rw [FlowTable.get_modify_self, hgett]
      rfl

theorem watchful_newEntry (cfg : Config) (key : FlowKey) (segment : TcpSegment) (construction : FlowConstruction)
    (localInitial : Sequence.Seq) (target : SocketAddr) (buffers : ℕ × ℕ) :
    (newEntry cfg key segment construction localInitial target buffers).open? = true ∧
      (newEntry cfg key segment construction localInitial target buffers).armedSocketInterest = watchful ∧
      (newEntry cfg key segment construction localInitial target buffers).desiredSocketInterest = watchful := by
  refine ⟨rfl, rfl, ?_⟩
  unfold FlowEntry.desiredSocketInterest socketInterest
  rfl

theorem tidy_proxyHandshake {target : SocketAddr} {h : Proxy.Handshake} (hh : proxyHandshake cfg target = some h) :
    h.Tidy := by
  unfold proxyHandshake at hh
  split at hh
  · cases hh
  · rename_i protocol address credentials hproxy
    cases hnew : Proxy.Handshake.new protocol .connect target credentials with
    | error error =>
      rw [hnew] at hh
      cases hh
    | ok h' =>
      rw [hnew] at hh
      cases hh
      exact Proxy.Handshake.tidy_new hnew

theorem asked_ends {α : Type} (answers : Kernel → Stream' (Except IoError α)) (advance : Kernel → Kernel) (s : Reactor) :
    Ends (do orThrow (← ask answers advance) : Io α) s
      (fun a t => (answers s.kernel).head = .ok a ∧ t = { s with kernel := advance s.kernel })
      fun _ t => t = { s with kernel := advance s.kernel } := by
  refine Ends.bind (R := fun answer t => answer = (answers s.kernel).head ∧ t = { s with kernel := advance s.kernel })
    ⟨rfl, rfl⟩ ?_
  rintro _ t ⟨rfl, ht⟩
  cases hhead : (answers s.kernel).head with
  | error error => exact Ends.throw ht
  | ok a => exact Ends.pure ⟨rfl, ht⟩

def OpensTo (cfg : Config) (s : Reactor) (key : FlowKey) (segment : TcpSegment) (target : SocketAddr) : Prop :=
  ConnectsAtOnce s → Opens cfg s key (negotiatedMss cfg key segment.mss) (windowShifts segment.windowScale).2
    (proxyHandshake cfg target)

theorem connectFlow_abreast (key : FlowKey) (segment : TcpSegment) (target : SocketAddr) (h : Abreast none s)
    (hwf : s.flows.Wf) (hfamily : key.target.isIpv4 = key.namespaceEnd.isIpv4)
    (hopens : OpensTo cfg s key segment target) :
    Ends (connectFlow cfg key segment target) s (fun _ t => Abreast none t) fun _ t => Abreast none t := by
  have hP := rounds_minds .none
  unfold connectFlow
  dsimp only
  refine Ends.bind (R := fun answer t => answer = s.kernel.connect.head ∧ Minds .none s t ∧ t.flows = s.flows ∧
    prospects t = prospects s ∧ t.kernel = { s.kernel with connect := s.kernel.connect.tail })
    ⟨rfl, .same rfl fun _ h => h, rfl, rfl, rfl⟩ ?_
  rintro _ t ⟨rfl, hminds, hflows, hprospects, hkernel⟩
  replace h := h.minds hminds
  have hrefuse : ∀ u, Abreast none u → Ends (refuseSyn cfg key segment.sequence) u (fun _ v => Abreast none v)
      fun _ v => Abreast none v := fun u hu => abreast_of_heeds (hP.refuseSyn cfg key segment.sequence) hu
  cases hconnect : s.kernel.connect.head with
  | error error => exact hrefuse t h
  | ok connected =>
  dsimp only
  -- what the flow is made from
  refine Ends.bind (R := fun answer u => answer = t.kernel.localAddress.head ∧
    u = { t with kernel := { t.kernel with localAddress := t.kernel.localAddress.tail } }) ⟨rfl, rfl⟩ ?_
  rintro _ u ⟨rfl, hu⟩
  have hcurrent : ∀ v : Reactor, v.flows = t.flows → v.ackRefreshQueue = t.ackRefreshQueue → Abreast none v :=
    fun v hvflows hvlist => h.minds (.same hvflows fun _ hl => hvlist ▸ hl)
  cases haddress : t.kernel.localAddress.head with
  | error error =>
    rw [hu]
    exact Ends.throw (hcurrent _ rfl rfl)
  | ok address =>
  refine Ends.bind (R := fun a v => address = a ∧ u = v) (Ends.pure ⟨rfl, rfl⟩) ?_
  rintro _ _ ⟨rfl, rfl⟩
  refine Ends.bind (Ends.mono (asked_ends _ _ u) (fun _ _ h => h) fun _ v hv => ?_) ?_
  · rw [hv, hu]
    exact hcurrent _ rfl rfl
  rintro buffers v ⟨hbuffers, hv⟩
  refine Ends.bind (Ends.mono (asked_ends _ _ v) (fun _ _ h => h) fun _ w hw => ?_) ?_
  · rw [hw, hv, hu]
    exact hcurrent _ rfl rfl
  rintro random w ⟨hrandom, hw⟩
  have hwflows : w.flows = s.flows := by rw [hw, hv, hu, ← hflows]
  have hwprospects : prospects w = prospects s := by
    rw [← hprospects, hw, hv, hu]
    rfl
  have hwkernel : w.kernel = { s.kernel with
      connect := s.kernel.connect.tail
      localAddress := s.kernel.localAddress.tail
      bufferSizes := s.kernel.bufferSizes.tail
      random := s.kernel.random.tail } := by
    rw [hw, hv, hu]
    dsimp only
    rw [hkernel]
  have hmade : (∃ address, s.kernel.localAddress.head = .ok address) ∧ (∃ sizes, s.kernel.bufferSizes.head = .ok sizes) ∧
      ∃ random, s.kernel.random.head = .ok random := by
    rw [hv, hu] at hrandom
    rw [hu] at hbuffers
    dsimp only at hrandom hbuffers
    rw [hkernel] at haddress hbuffers hrandom
    exact ⟨⟨_, haddress⟩, ⟨_, hbuffers⟩, ⟨_, hrandom⟩⟩
  have hcurrent : Abreast none w := by
    refine hcurrent w ?_ ?_
    · rw [hw, hv, hu]
    · rw [hw, hv, hu]
  clear hw hv hu hbuffers hrandom
  refine Ends.get_bind (Ends.bind (Ends.mono (constructFlow_ends key _ w) (fun _ _ h => h) fun _ _ h => h.elim) ?_)
  rintro construction _ ⟨rfl, hconstruction⟩
  set entry := newEntry cfg key segment construction (w.test.localIsn.getD random) target buffers with hentry
  obtain ⟨hopen, harmed, hdesired⟩ := watchful_newEntry cfg key segment construction
    (w.test.localIsn.getD random) target buffers
  refine Ends.bind (Ends.mono (registerFlow_abreast hcurrent (hwflows ▸ hwf) hopen (harmed.trans hdesired.symm) key)
    (fun _ _ h => h) fun _ _ h => h.elim) ?_
  rintro registered x ⟨hx, hxkernel, hxprospects, hregistered⟩
  cases registered with
  | none => exact hrefuse x hx
  | some id =>
  obtain ⟨hinsert, hget⟩ := hregistered id rfl
  refine Ends.bind (R := fun _ y => Abreast none y ∧ y.kernel = x.kernel ∧ prospects y = prospects x ∧
    y.flows.get id = some entry) ⟨hx.minds (.same rfl fun _ h => h), rfl, rfl, hget⟩ ?_
  rintro _ y ⟨hy, hykernel, hyprospects, hget⟩
  refine Ends.bind (Ends.mono (startFlow_abreast hy hget) (fun _ _ h => h) fun _ _ h => h) ?_
  rintro _ z ⟨hfits, hadded, hz, hzprospects, hpoll, hpending, active, hactive, hgetz⟩
  obtain ⟨sides, hsides, hkey⟩ := hconstruction active hactive
  have hykernel := hykernel.trans (hxkernel.trans hwkernel)
  rw [hykernel] at hadded hpoll hpending
  dsimp only at hadded hpoll hpending
  -- the connection is made now or later
  have hfinish : ∀ (now : Bool) (a : Reactor), (now = true → s.kernel.connect.head = .ok true ∨
      s.kernel.connect.head = .ok false ∧ s.kernel.pollWritable.head = .ok true) → Abreast none a →
      a.flows = z.flows → prospects a = prospects z → a.kernel.pendingError = s.kernel.pendingError →
      Ends (if now = true then do
        finishTransportConnect cfg id
        updateSocketInterest id
      else pure () : Io Unit) a (fun _ b => Abreast none b) fun _ b => Abreast none b := by
    intro now a hnow ha haflows haprospects hapending
    cases now with
    | false => exact Ends.pure ha
    | true =>
      have hgeta : a.flows.get id = some { entry with construction := active.1 } := by
        rw [haflows]
        exact hgetz
      have hsame := haprospects.trans (hzprospects.trans (hyprospects.trans (hxprospects.trans hwprospects)))
      refine finishTransportConnect_abreast ha hgeta harmed (fun h hh => tidy_proxyHandshake hh) hsides ?_ hfits
        fun hsound => ?_
      · rw [hkey]
        exact hfamily
      · rw [hkey]
        refine opens_of_prospects hsame (hopens ⟨hnow rfl, hmade.1, hmade.2.1, hmade.2.2, ⟨entry, id, ?_, hfits⟩, hadded, ?_⟩)
        · rw [← hwflows]
          exact hinsert
        · rw [← hapending]
          exact hsound
  cases connected with
  | true =>
    refine Ends.bind (R := fun now a => now = true ∧ z = a) (Ends.pure ⟨rfl, rfl⟩) ?_
    rintro _ _ ⟨rfl, rfl⟩
    exact hfinish true z (fun _ => .inl hconnect) hz rfl rfl hpending
  | false =>
    rw [if_neg Bool.false_ne_true]
    refine Ends.bind (Ends.mono (asked_ends _ _ z) (fun _ _ h => h) ?_) ?_
    · rintro _ a rfl
      exact hz.minds (.same rfl fun _ h => h)
    · rintro now a ⟨hnow, rfl⟩
      rw [hpoll] at hnow
      refine hfinish now _ ?_ (hz.minds (.same rfl fun _ h => h)) rfl rfl hpending
      rintro rfl
      exact .inr ⟨hconnect, hnow⟩

/-- The condition on a TCP segment: see `SegmentHeeded` for a flow that exists, `Opens` for a new one. -/
def TcpHeeded (cfg : Config) (s : Reactor) (key : FlowKey) (segment : TcpSegment) : Prop :=
  match s.byKey.find? key with
  | some id => ∀ e, s.flows.get id = some e → id ∉ s.flows.deferred → Reaches e segment → SegmentHeeded cfg s id e segment
  | none => segment.flags.syn = true → segment.flags.ack = false → segment.flags.rst = false →
    if dnsProxyTcpIntercepts cfg key.target then ∀ resolver, cfg.dnsUpstream = some resolver → OpensTo cfg s key segment resolver
    else OpensTo cfg s key segment key.target

/-- The condition on a frame read from the TAP. -/
def FrameHeeded (cfg : Config) (s : Reactor) : TapFrame → Prop
  | .tcpV4 source destination segment =>
    TcpHeeded cfg s ⟨.v4 source segment.sourcePort, .v4 destination segment.destinationPort⟩ segment
  | .tcpV6 source destination segment =>
    TcpHeeded cfg s ⟨.v6 source segment.sourcePort 0 0, .v6 destination segment.destinationPort 0 0⟩ segment
  | _ => True

theorem handleTcp_abreast (key : FlowKey) (segment : TcpSegment) (h : Abreast none s) (hwf : s.flows.Wf)
    (hfamily : key.target.isIpv4 = key.namespaceEnd.isIpv4) (hheeded : TcpHeeded cfg s key segment) :
    Ends (handleTcp cfg key segment) s (fun _ t => Abreast none t) fun _ t => Abreast none t := by
  have hP := rounds_minds .none
  unfold TcpHeeded at hheeded
  unfold handleTcp
  refine Ends.get_bind ?_
  cases hfind : s.byKey.find? key with
  | some id =>
    rw [hfind] at hheeded
    cases hget : s.flows.get id with
    | some e => exact handleExistingTcp_abreast segment h hget fun hopen hreaches => hheeded e hget hopen hreaches
    | none =>
      have hgone : Ends (flowEntry id) s (fun _ _ => False) fun _ t => Abreast none t := by
        refine Ends.get_bind ?_
        rw [hget]
        exact Ends.throw h
      exact Ends.bind hgone fun _ _ h => h.elim
  | none =>
    rw [hfind] at hheeded
    dsimp only at hheeded ⊢
    split
    · exact Ends.pure h
    rename_i hopening
    simp only [not_or, Bool.not_eq_true, Bool.not_eq_false] at hopening
    obtain ⟨hsyn, hack, hrst⟩ := hopening
    replace hheeded := hheeded hsyn hack hrst
    split
    · rename_i hdns
      rw [if_pos hdns] at hheeded
      cases hupstream : cfg.dnsUpstream with
      | some resolver => exact connectFlow_abreast key segment resolver h hwf hfamily (hheeded resolver hupstream)
      | none =>
        exact abreast_of_heeds ((hP.buildTcpFrame cfg _ _ _ _ _ _ _).bind fun frame => hP.countReset.bind fun _ =>
          Heeds.bind (Heeds.modify fun _ => .same rfl fun _ h => h) fun _ => hP.queueTap cfg none frame none) h
    · rename_i hdns
      rw [if_neg hdns] at hheeded
      exact connectFlow_abreast key segment key.target h hwf hfamily hheeded

theorem handleFrame_abreast (frame : TapFrame) (h : Abreast none s) (hwf : s.flows.Wf)
    (hheeded : FrameHeeded cfg s frame) :
    Ends (handleFrame cfg frame) s (fun _ t => Abreast none t) fun _ t => Abreast none t := by
  have hP := rounds_minds .none
  have hT := tolerant_minds cfg .none
  cases frame with
  | malformed error => exact Ends.throw h
  | ignored => exact Ends.pure h
  | arpRequest target => exact abreast_of_heeds (hP.handleArp cfg target) h
  | neighborSolicitation target source => exact abreast_of_heeds (hP.handleNeighborSolicitation cfg target source) h
  | tcpV4 source destination segment => exact handleTcp_abreast _ segment h hwf rfl hheeded
  | tcpV6 source destination segment => exact handleTcp_abreast _ segment h hwf rfl hheeded
  | udpV4 source destination sourcePort destinationPort payload =>
    exact abreast_of_heeds (fun s => hT.handleUdp _ payload s) h
  | udpV6 source destination sourcePort destinationPort payload =>
    exact abreast_of_heeds (fun s => hT.handleUdp _ payload s) h

theorem absorb_abreast {m : Io Unit} (h : Ends m s (fun _ t => Abreast none t) fun _ t => Abreast none t) :
    Ends (absorb m) s (fun _ t => Abreast none t) fun _ t => Abreast none t := by
  refine Ends.tryCatch h fun error t ht => ?_
  have hdrop : Abreast none { t with metrics := { t.metrics with parseDrops := t.metrics.parseDrops + 1 } } :=
    ht.minds (.same rfl fun _ h => h)
  cases error with
  | panic text => exact Ends.throw ht
  | io x => exact Ends.modify hdrop
  | packet x => exact Ends.modify hdrop
  | invariant text => exact Ends.modify hdrop

def framed (s : Reactor) (gso : Bool) : Reactor :=
  { s with
    kernel := { s.kernel with tapRead := s.kernel.tapRead.tail }
    metrics :=
      { s.metrics with
        tapRxPackets := s.metrics.tapRxPackets + 1
        gsoFramesRx := s.metrics.gsoFramesRx + gso.toNat } }

/-- The condition on the frames of a batch, each in the state it is handled in. -/
def BatchHeeded (cfg : Config) : ℕ → Reactor → Prop
  | 0, _ => True
  | budget + 1, s => s.framePool.available ≠ 0 → ∀ gso frame, s.kernel.tapRead.head = .ok (.frame gso frame) →
    FrameHeeded cfg (framed s gso) frame ∧
      ∀ t, absorb (handleFrame cfg frame) (framed s gso) = .ok () t → BatchHeeded cfg budget t

theorem readTap_abreast (budget : ℕ) (h : Abreast none s) (hb : Base (core s)) (hheeded : BatchHeeded cfg budget s) :
    Ends (readTap cfg budget) s (fun _ t => Abreast none t) fun _ _ => True := by
  induction budget generalizing s with
  | zero => exact Ends.pure h
  | succ budget ih =>
    have hP := rounds_minds .none
    unfold readTap
    refine Ends.bind (R := fun available t => available = s.framePool.available ∧ s = t) ⟨rfl, rfl⟩ ?_
    rintro _ _ ⟨rfl, rfl⟩
    split
    · exact Ends.mono (abreast_of_heeds (hP.noteFramePoolExhaustion.bind fun _ => hP.updateTapInterest) h)
        (fun _ _ ht => ht) fun _ _ _ => trivial
    rename_i havailable
    have hframes := hheeded havailable
    refine Ends.bind (R := fun answer t => answer = s.kernel.tapRead.head ∧
      t = { s with kernel := { s.kernel with tapRead := s.kernel.tapRead.tail } }) ⟨rfl, rfl⟩ ?_
    rintro _ t ⟨rfl, ht⟩
    cases hread : s.kernel.tapRead.head with
    | error error =>
      cases error with
      | wouldBlock =>
        rw [ht]
        exact Ends.pure (h.minds (.same rfl fun _ h => h))
      | unexpectedEof => exact Ends.throw trivial
      | os code => exact Ends.throw trivial
    | ok input =>
      cases input with
      | eof => exact Ends.throw trivial
      | frame gso frame =>
        obtain ⟨hframe, hrest⟩ := hframes gso frame hread
        refine Ends.bind (R := fun _ u => framed s gso = u) (Ends.modify (by rw [ht]; rfl)) ?_
        rintro _ _ rfl
        have hcurrent : Abreast none (framed s gso) := h.minds (.same rfl fun _ h => h)
        have hcore : core (framed s gso) = core s := rfl
        have hbase := absorb_along cfg (handleFrame_along cfg frame hb) (framed s gso) hcore
        refine Ends.bind (Ends.mono ((Ends.self _ _).and ((absorb_abreast (handleFrame_abreast frame hcurrent hb.table
          hframe)).and hbase)) (fun _ _ h => h) fun _ _ _ => trivial) ?_
        rintro _ u ⟨hrun, hu, hpath, -⟩
        exact ih hu (base_path cfg hb hpath) (hrest u hrun)

theorem handleTap_abreast (h : Abreast none s) (hb : Base (core s)) (hheeded : BatchHeeded cfg tapBudget s) :
    Ends (handleTap cfg) s (fun _ t => Abreast none t) fun _ _ => True := by
  unfold handleTap
  refine Ends.bind (readTap_abreast tapBudget h hb hheeded) fun _ t ht => Ends.get_bind ?_
  exact flushAckRefreshes_abreast _ t ht

theorem cleanupClosed_abreast (h : Abreast none s) :
    Ends cleanupClosed s (fun _ t => Abreast none t) fun _ t => Abreast none t := by
  refine Ends.modify fun id e hget _ => ?_
  dsimp only at hget ⊢
  rw [FlowTable.get_flushDeferred] at hget
  split at hget
  · cases hget
  · rename_i hopen
    exact h id e hget hopen

theorem endOfBatch_abreast (h : Abreast none s) :
    Ends (endOfBatch cfg) s (fun _ t => Abreast none t) fun _ t => Abreast none t := by
  have hP := rounds_minds .none
  have hT := tolerant_minds cfg .none
  unfold endOfBatch
  refine Ends.bind (abreast_of_heeds (fun s => hT.activateSocksAssociations s) h) fun _ t ht => ?_
  refine Ends.bind (abreast_of_heeds (hP.applyPendingPressure cfg) ht) fun _ u hu => ?_
  refine Ends.bind (cleanupClosed_abreast hu) fun _ v hv => ?_
  unfold shutdownFlows
  refine Ends.get_bind ?_
  split
  · refine Ends.bind (abreast_of_heeds (hP.closeFlows cfg _) hv) fun _ w hw => Ends.get_bind ?_
    refine Ends.bind (abreast_of_heeds (fun s => hT.closeUdpFlows _ s) hw) fun _ x hx => Ends.get_bind ?_
    exact abreast_of_heeds (fun s => hT.removeEach _ s) hx
  · exact Ends.pure hv

/-- The condition on an event: only batches of frames are asked for anything. -/
def EventHeeded (cfg : Config) (s : Reactor) (event : Event) : Prop :=
  ∀ events, event = .tap events → has events readable = true → BatchHeeded cfg tapBudget s

/-- A step of the run loop leaves no flow behind. -/
theorem handle_abreast (event : Event) (h : Abreast none s) (hb : Base (core s)) (hheeded : EventHeeded cfg s event) :
    Ends (handle cfg event) s (fun _ t => Abreast none t) fun _ _ => True := by
  have hP := rounds_minds .none
  have hT := tolerant_minds cfg .none
  have hquiet : ∀ {m : Io Unit} {t : Reactor}, Heeds (Minds .none) (fun _ => True) m → Abreast none t →
      Ends m t (fun _ u => Abreast none u) fun _ _ => True := fun hm ht =>
    Ends.mono (abreast_of_heeds hm ht) (fun _ _ hu => hu) fun _ _ _ => trivial
  cases event with
  | tap events =>
    have hflush : ∀ t, Abreast none t → Ends (if has events writable then flushTapQueue else pure () : Io Unit) t
        (fun _ u => Abreast none u) fun _ _ => True := by
      intro t ht
      split
      · exact hquiet hP.flushTapQueue ht
      · exact Ends.pure ht
    unfold handle
    dsimp only
    by_cases hread : has events readable = true
    · rw [if_pos hread]
      exact Ends.bind (handleTap_abreast h hb (hheeded events rfl hread)) fun _ t ht => hflush t ht
    · rw [if_neg hread]
      exact hflush s h
  | timer =>
    refine hquiet ?_ h
    refine Heeds.bind (hP.asked _ _) fun _ => (hP.ask _ _).bind fun now => ?_
    refine Heeds.bind (fun s => hT.handleDnsTimers now s) fun _ => ?_
    exact Heeds.bind (fun s => hT.handleUdpTimers now s) fun _ => hP.handleFlowTimers cfg now
  | control => exact hquiet hP.handleControl h
  | dnsUpstream events => exact hquiet (fun s => hT.handleDnsUpstream events s) h
  | socket id events => exact handleSocket_abreast events h
  | udpSocket id events => exact hquiet (fun s => hT.handleUdpSocket id events s) h
  | socksControl id events => exact hquiet (fun s => hT.handleSocksControl id events s) h
  | socksRelay id events => exact hquiet (fun s => hT.handleSocksRelay id events s fun _ _ _ => trivial) h
  | endOfBatch => exact Ends.mono (endOfBatch_abreast h) (fun _ _ ht => ht) fun _ _ _ => trivial

/-- Runs whose batches of frames meet the condition. -/
inductive HeededRun (cfg : Config) : Reactor → Prop
  | start (kernel : Kernel) (test : TestHooks) (queryTimeout now : Millis) :
      HeededRun cfg (Reactor.new cfg kernel test queryTimeout now)
  | step {s t : Reactor} (event : Event) (answers : Kernel) (hs : HeededRun cfg s)
      (hheeded : EventHeeded cfg { s with kernel := answers } event) (ho : outcome cfg s event answers = .ok () t) :
      HeededRun cfg t

theorem HeededRun.reachable {s : Reactor} (h : HeededRun cfg s) : Reachable cfg s := by
  induction h with
  | start kernel test queryTimeout now => exact .start kernel test queryTimeout now
  | step event answers _ _ ho ih => exact .step event answers ih ho

theorem HeededRun.abreast {s : Reactor} (h : HeededRun cfg s) : Abreast none s := by
  induction h with
  | start kernel test queryTimeout now =>
    intro id e hget _
    simp [Reactor.new] at hget
  | @step s t event answers hs hheeded ho ih =>
    have hb : Base (core { s with kernel := answers }) := base_path cfg (Base.initial cfg) (hs.reachable.path cfg).1
    have hcurrent : Abreast none { s with kernel := answers } := ih.minds (.same rfl fun _ h => h)
    have ht := Ends.ok (handle_abreast event hcurrent hb hheeded) ho
    exact ht

/-- The flow has something to wait for room in its socket for. -/
def Waits (e : FlowEntry) : Prop :=
  e.pendingSocket.isEmpty = false ∨ (∃ h, e.handshake = some h ∧ h.output ≠ []) ∨ e.transportConnected = false

theorem desired_of_waits (h : Waits e) : has e.desiredSocketInterest writable = true := by
  have hwatchful : e.desiredSocketInterest = watchful := by
    rcases h with hpending | ⟨handshake, hsome, hleft⟩ | hconnecting
    · exact FlowEntry.desired_of_pending hpending
    · exact FlowEntry.desired_of_output hsome hleft
    · unfold FlowEntry.desiredSocketInterest watchful socketInterest
      simp [hconnecting]
  rw [hwatchful]
  decide

/-- In a run whose batches of frames meet the condition the interest in the socket of every flow is set after every
step, and a flow that waits for room in its socket is watched for it. -/
theorem interest_armed {s : Reactor} (h : HeededRun cfg s) (id : FlowId) (e : FlowEntry)
    (hget : s.flows.get id = some e) (hopen : id ∉ s.flows.deferred) :
    e.armedSocketInterest = e.desiredSocketInterest ∧
      (Waits e → has e.armedSocketInterest writable = true) := by
  have hlist : s.ackRefreshQueue = [] := (h.reachable.path cfg).2
  have hset : e.armedSocketInterest = e.desiredSocketInterest := by
    rcases (h.abreast id e hget hopen).2 with hnone | hset | hlisted
    · cases hnone
    · exact hset
    · rw [hlist] at hlisted
      cases hlisted
  refine ⟨hset, fun hwaits => ?_⟩
  rw [hset]
  exact desired_of_waits hwaits

def pendingConnect : Kernel :=
  { Kernel.quiet.reads (segmentTo { syn := true } 7) with connect := Stream'.const (.ok false) }

/-- A connection under way is watched for room. -/
theorem interest_armed_connecting : ∃ s e, HeededRun (.sample (.direct false)) s ∧ s.flows.get ⟨0, 1⟩ = some e ∧
    e.armedSocketInterest = e.desiredSocketInterest ∧ (Waits e → has e.armedSocketInterest writable = true) := by
  have hrun : (replay (.sample (.direct false)) [(.tap readable, pendingConnect)]
      (Reactor.new (.sample (.direct false)) .quiet {} 0 0)).map
      (fun s => (s.flows.deferred, (s.flows.get ⟨0, 1⟩).isSome)) = some ([], true) := by decide +kernel
  have hread : (final (absorb (handleFrame (.sample (.direct false)) (segmentTo { syn := true } 7))
      (framed { Reactor.new (.sample (.direct false)) .quiet {} 0 0 with kernel := pendingConnect } false))
      ).kernel.tapRead.head.isOk = false := by decide +kernel
  obtain ⟨s, hs, hfields⟩ := Option.map_eq_some_iff.mp hrun
  simp only [Prod.mk.injEq] at hfields
  obtain ⟨hdeferred, hsome⟩ := hfields
  obtain ⟨e, hget⟩ := Option.isSome_iff_exists.mp hsome
  have houtcome : outcome (.sample (.direct false)) (Reactor.new (.sample (.direct false)) .quiet {} 0 0)
      (.tap readable) pendingConnect = .ok () s := by
    unfold replay at hs
    split at hs
    · rename_i u hu
      cases hs
      exact hu
    · cases hs
  have hheeded : EventHeeded (.sample (.direct false))
      { Reactor.new (.sample (.direct false)) .quiet {} 0 0 with kernel := pendingConnect } (.tap readable) := by
    rintro _ ⟨⟩ - - gso frame hframe
    cases hframe
    refine ⟨fun _ _ _ hconnects => ?_, fun t ht _ gso frame hframe => ?_⟩
    · rcases hconnects.connected with hnow | ⟨-, hnow⟩ <;> cases hnow
    · rw [ht] at hread
      change t.kernel.tapRead.head.isOk = false at hread
      rw [hframe] at hread
      cases hread
  have hheld : HeededRun (.sample (.direct false)) s := .step _ _ (.start .quiet {} 0 0) hheeded houtcome
  refine ⟨s, e, hheld, hget, interest_armed hheld ⟨0, 1⟩ e hget ?_⟩
  rw [hdeferred]
  exact List.not_mem_nil

/-- Three bytes and a FIN; the socket takes one byte, and the TAP does not take the acknowledgment. -/
def lastWords : TapFrame :=
  .tcpV4 0xc0000202#32 0x08080808#32
    { sourcePort := 40000
      destinationPort := 80
      sequence := 8
      acknowledgment := 0
      flags := { fin := true }
      window := 1000
      payload := [1, 2, 3] }

def shortSend : Kernel :=
  { Kernel.quiet.reads lastWords with
    send := Stream'.const (.ok (.part 1))
    tapWrite := Stream'.const (.error (.os 5)) }

/-- The bytes wait in the queue, the frame is only counted, and the socket is not watched for room. -/
theorem interest_lost : ¬∀ (cfg : Config) (s : Reactor), Reachable cfg s → ∀ (id : FlowId) (e : FlowEntry),
    s.flows.get id = some e → e.open? = true → id ∉ s.flows.deferred →
    e.armedSocketInterest = e.desiredSocketInterest ∧ (Waits e → has e.armedSocketInterest writable = true) := by
  intro h
  have hrun : (replay (.sample (.direct false)) (openedScript ++ [(.tap readable, shortSend)])
      (Reactor.new (.sample (.direct false)) .quiet {} 0 0)).map (fun s => (s.flows.deferred,
        (s.flows.get ⟨0, 1⟩).map fun e => (e.open?, e.pendingSocket.isEmpty, has e.armedSocketInterest writable))) =
      some ([], some (true, false, false)) := by decide +kernel
  obtain ⟨s, hs, hfields⟩ := Option.map_eq_some_iff.mp hrun
  simp only [Prod.mk.injEq] at hfields
  obtain ⟨hdeferred, hentry⟩ := hfields
  obtain ⟨e, hget, hfields⟩ := Option.map_eq_some_iff.mp hentry
  simp only [Prod.mk.injEq] at hfields
  obtain ⟨hopen, hpending, hidle⟩ := hfields
  have hs := reachable_of_replay _ _ (.start .quiet {} 0 0) hs
  have hwatched := (h _ s hs ⟨0, 1⟩ e hget hopen (by rw [hdeferred]; exact List.not_mem_nil)).2 (.inl hpending)
  rw [hidle] at hwatched
  cases hwatched

end Reactor

end Yayatht
