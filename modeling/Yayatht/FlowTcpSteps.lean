import Yayatht.FlowSteps

set_option autoImplicit false

namespace Yayatht
open Sequence EffectLogic

namespace Socket

theorem peek_ok {socket : Socket} {inflow : Inflow} {capacity : ℕ} {bytes : Bytes}
    (h : (socket.peek inflow capacity).2 = .ok bytes) :
    bytes = ((socket.peek inflow capacity).1.queued (socket.peekOffset.getD 0)).take bytes.length ∧
      bytes.length ≤ capacity ∧
      (0 < capacity → bytes = [] →
        (socket.peek inflow capacity).1.queued (socket.peekOffset.getD 0) = [] ∧
          (socket.peek inflow capacity).1.eof = true) := by
  have hoffset : (socket.arrive inflow).peekOffset = socket.peekOffset := by
    unfold arrive
    split <;> rfl
  unfold peek at h ⊢
  dsimp only at h ⊢
  rw [hoffset] at h ⊢
  by_cases hvisible : (socket.arrive inflow).queued (socket.peekOffset.getD 0) = []
  · rw [if_pos hvisible] at h ⊢
    dsimp only at h ⊢
    by_cases heof : (socket.arrive inflow).eof = true
    · rw [if_pos heof] at h
      cases h
      exact ⟨rfl, Nat.zero_le _, fun _ _ => ⟨hvisible, heof⟩⟩
    · rw [if_neg heof] at h
      cases h
  · rw [if_neg hvisible] at h ⊢
    cases h
    refine ⟨?_, ?_, ?_⟩
    · change _ = List.take _ ((socket.arrive inflow).queued (socket.peekOffset.getD 0))
      rw [List.length_take, List.take_eq_take_min]
    · rw [List.length_take]
      omega
    · intro hpos hempty
      rw [List.take_eq_nil_iff] at hempty
      rcases hempty with hzero | hnil
      · omega
      · exact absurd hnil hvisible

theorem discard_cases (socket : Socket) (inflow : Inflow) (asked : ℕ) :
    ∃ count offset,
      (socket.discard inflow asked).1 =
        { socket.arrive inflow with
          consumed := socket.consumed + count
          peekOffset := offset } ∧
      ∀ n, (socket.discard inflow asked).2 = .ok n → count = n := by
  have hconsumed : (socket.arrive inflow).consumed = socket.consumed := by
    unfold arrive
    split <;> rfl
  unfold discard
  dsimp only
  split
  · refine ⟨0, (socket.arrive inflow).peekOffset, ?_, ?_⟩
    · rw [Nat.add_zero, ← hconsumed]
    · intro n hn
      split at hn
      · cases hn
        rfl
      · cases hn
  · rw [hconsumed]
    refine ⟨_, _, rfl, ?_⟩
    intro n hn
    injection hn

end Socket

/-- The probe of a flow is as before, if the flow is still there. -/
def ProbeKept (id : FlowId) (c d : Core) : Prop :=
  ∀ g, d.flows.get id = some g → ∃ e, c.flows.get id = some e ∧ g.zeroWindowProbe = e.zeroWindowProbe

theorem ProbeKept.trans {id : FlowId} {c d e : Core} (h : ProbeKept id c d) (h' : ProbeKept id d e) :
    ProbeKept id c e := fun g hg => by
  obtain ⟨f, hf, hgf⟩ := h' g hg
  obtain ⟨b, hb, hfb⟩ := h f hf
  exact ⟨b, hb, hgf.trans hfb⟩

theorem Kept.probe {c d : Core} (h : Kept c d) (id : FlowId) : ProbeKept id c d := fun g hg =>
  ⟨g, by rw [← h.flows]; exact hg, rfl⟩

theorem ProbeKept.put {c : Core} {id : FlowId} {e f : FlowEntry} (hget : c.flows.get id = some e)
    (h : f.zeroWindowProbe = e.zeroWindowProbe) : ProbeKept id c (c.put id f) := fun g hg => by
  rw [Core.put_get f hget] at hg
  cases hg
  exact ⟨e, hget, h⟩

theorem Closing.probe {c d : Core} {id : FlowId} {e : FlowEntry}
    (hget : c.flows.get id = some e) (h : Closing c id e d) : ProbeKept id c d := by
  cases h with
  | stuck => exact (Kept.log c _).probe id
  | broken sides h =>
    intro g hg
    refine ⟨g, ?_, rfl⟩
    rw [← Core.unregister_flows c id sides.namespaceKey e]
    exact hg
  | done sides h =>
    intro g hg
    unfold Core.retire at hg
    dsimp only at hg
    rw [FlowTable.get_deferRemove, Core.unregister_flows] at hg
    simp only [FlowTable.get_modify, if_true, hget, Option.map_some, Option.some.injEq] at hg
    exact ⟨e, hget, by rw [← hg]⟩

theorem Closing.others {c d : Core} {id other : FlowId} {e : FlowEntry} (h : Closing c id e d)
    (hne : other ≠ id) (hs : Spared c other) : Spared d other := by
  obtain ⟨ns, hn⟩ := h.journal
  have hget : d.flows.get other = c.flows.get other := by
    cases h with
    | stuck => rfl
    | broken sides h =>
      change (c.unregister id sides.namespaceKey e).flows.get other = _
      rw [Core.unregister_flows]
    | done sides h =>
      unfold Core.retire
      dsimp only
      rw [FlowTable.get_deferRemove, Core.unregister_flows]
      exact FlowTable.get_modify_of_ne c.flows id other _ hne
  rcases hs with ⟨f, hf, ho⟩ | hx
  · exact .inl ⟨f, hget.trans hf, ho⟩
  · exact .inr (hn ▸ hx.append ns)

theorem Spared.put {c : Core} {id : FlowId} {e f : FlowEntry} (hs : Spared c id) (hget : c.flows.get id = some e)
    (h : e.open? = true → f.open? = true) : Spared (c.put id f) id := by
  rcases hs with ⟨g, hg, ho⟩ | hx
  · rw [hget] at hg
    cases hg
    exact .inl ⟨f, Core.put_get f hget, h ho⟩
  · exact .inr hx

theorem Spared.log {c : Core} {id : FlowId} (hs : Spared c id) (notices : List Notice) :
    Spared (c.log notices) id := hs.imp_right fun hx => hx.append notices

namespace Reactor

variable (cfg : Config) {c : Core}

theorem silent_updatePendingPressureState : Silent core (updatePendingPressureState cfg) :=
  Silent.modify fun s => by
    dsimp only
    split <;> rfl

theorem dropFlowFrames_seen (frames : List QueuedFrame) {E : Core → Prop} :
    Seen core (dropFlowFrames frames) c (fun _ d => d = Core.dropFrames frames c) E := by
  induction frames generalizing c with
  | nil => exact Seen.pure rfl
  | cons queued frames ih =>
    unfold dropFlowFrames
    refine Seen.bind (releaseRetainedBytes_seen _) ?_
    rintro _ d rfl
    exact Seen.silent_bind (silent_releaseFrame _) fun _ => ih

theorem releaseAccounting_seen (id : FlowId) (key : FlowKey) (e : FlowEntry) {E : Core → Prop} :
    Seen core (releaseAccounting cfg id key e) c (fun _ d => d = c.unregister id key e) E := by
  unfold releaseAccounting
  refine Seen.note_bind (Seen.get_bind fun s hs => ?_)
  refine Seen.bind (R := fun _ d => d =
    { c with
      journal := .released id e :: c.journal
      byKey := c.byKey.erase key
      tapQueue := c.tapQueue.filter fun queued => queued.flow ≠ some id }) (Seen.set ?_) ?_
  · have hc : core s = { c with journal := .released id e :: c.journal } := hs
    rw [show core { s with
        byKey := s.byKey.erase key
        tapQueue := s.tapQueue.filter fun queued => queued.flow ≠ some id } =
      { core s with
        byKey := (core s).byKey.erase key
        tapQueue := (core s).tapQueue.filter fun queued => queued.flow ≠ some id } from rfl, hc]
  · rintro _ d rfl
    have hqueue : s.tapQueue = c.tapQueue := by
      rw [show s.tapQueue = (core s).tapQueue from rfl, hs]
      rfl
    rw [hqueue]
    refine Seen.bind (dropFlowFrames_seen _) ?_
    rintro _ d rfl
    refine Seen.silent_bind (Silent.modify fun _ => rfl) fun _ => ?_
    refine Seen.silent_bind (silent_updatePendingPressureState cfg) fun _ => ?_
    refine Seen.bind (releaseRetainedBytes_seen _) ?_
    rintro _ d rfl
    refine Silent.seen (Silent.modify fun _ => ?_) _
    rfl

theorem closeFlow_seen {id : FlowId} {e : FlowEntry} (hget : c.flows.get id = some e) :
    Seen core (closeFlow cfg id) c (fun _ d => Closing c id e d) (Closing c id e) := by
  unfold closeFlow
  refine Seen.get_bind fun s hs => ?_
  have hflows : s.flows = c.flows := by rw [show s.flows = (core s).flows from rfl, hs]
  rw [hflows, hget]
  dsimp only
  refine Seen.bind (R := fun sides d => d = c ∧ e.construction.activeSides = some sides)
    (Seen.noteFailure (F := fun d => d = c) ?_ ?_) ?_
  · cases hsides : e.construction.activeSides with
    | some sides => exact Seen.pure ⟨rfl, rfl⟩
    | none => exact Seen.throw (e := Error.invariant _) rfl
  · rintro d rfl
    exact .stuck
  · rintro sides d ⟨rfl, hsides⟩
    refine Seen.bind (R := fun _ e => e = d)
      (Seen.noteFailure (Call.inert_epollDelete.seen d) ?_) ?_
    · rintro _ rfl
      exact .stuck
    · rintro _ d rfl
      refine Seen.bind (releaseAccounting_seen cfg id _ e) ?_
      rintro _ _ rfl
      refine Seen.bind (R := fun _ f => f = d.unregister id sides.namespaceKey e)
        (Seen.noteFailure (inert_updateTapInterest.seen _) ?_) ?_
      · rintro _ rfl
        exact .broken sides hsides
      · rintro _ _ rfl
        refine Seen.modifyEntry_bind (e := e) ?_ ?_
        · rw [Core.unregister_flows]
          exact hget
        · refine Seen.modify (d := (d.unregister id sides.namespaceKey e).retire id e) ?_
            (.done sides hsides)
          intro t ht
          rw [show core { t with flows := t.flows.deferRemove id } =
            { core t with flows := (core t).flows.deferRemove id } from rfl, ht]
          rfl

theorem closeFlow_along {id : FlowId} (hspared : Spared c id) :
    Along core (Act cfg) (closeFlow cfg id) c fun _ d =>
      ProbeKept id c d ∧ ∀ other, other ≠ id → Spared c other → Spared d other := by
  cases hget : c.flows.get id with
  | none =>
    unfold closeFlow
    refine Seen.get_bind fun s hs => ?_
    have hflows : s.flows = c.flows := by rw [show s.flows = (core s).flows from rfl, hs]
    rw [hflows, hget]
    exact Along.pure ⟨(Kept.refl c).probe id, fun _ _ hs => hs⟩
  | some e =>
    exact Seen.mono (closeFlow_seen cfg hget)
      (fun _ d hd => ⟨.single (.close id e d hget hspared hd), hd.probe hget, fun _ hne hs => hd.others hne hs⟩)
      fun d hd => .single (.close id e d hget hspared hd)

theorem failTcpFlow_along {id : FlowId} (hspared : Spared c id) :
    Along core (Act cfg) (failTcpFlow cfg id) c fun _ d => ProbeKept id c d :=
  Along.bind (sendResetForFlow_along cfg id hspared) fun _ _ hk =>
    (closeFlow_along cfg (hk.spared hspared)).mono fun _ _ hd => (hk.probe id).trans hd.1

variable {id : FlowId} {e : FlowEntry}

theorem setPeekOffset_seen (offset : ℕ) (hget : c.flows.get id = some e) {E : Core → Prop} :
    Seen core (setPeekOffset id offset) c
      (fun answer d => ((∃ error, answer = .error error) ∧ d = c) ∨
        (answer = .ok () ∧
          d = c.put id { e with socket := { e.socket with peekOffset := some offset } })) E := by
  unfold setPeekOffset
  refine Seen.silent_bind Call.silent_setPeekOffsetAnswer fun answer => ?_
  cases answer with
  | ok u => exact Seen.modifyEntry_bind hget (Seen.pure (.inr ⟨rfl, rfl⟩))
  | error x => exact Seen.pure (.inl ⟨⟨x, rfl⟩, rfl⟩)

theorem peekSocket_seen (capacity : ℕ) (hget : c.flows.get id = some e) {E : Core → Prop} :
    Seen core (peekSocket id capacity) c
      (fun result d => ((∃ error, result = .error error) ∧ d = c) ∨
        ∃ inflow, result = (e.socket.peek inflow capacity).2 ∧
          d = c.put id { e with socket := (e.socket.peek inflow capacity).1 }) E := by
  unfold peekSocket
  refine Seen.silent_bind Call.silent_peekAnswer fun answer => ?_
  cases answer with
  | ok inflow =>
    refine Seen.flowEntry_known hget (Seen.modifyEntry_bind hget (Seen.pure ?_))
    exact .inr ⟨inflow, rfl, rfl⟩
  | error x => exact Seen.pure (.inl ⟨⟨x, rfl⟩, rfl⟩)

theorem discardSocket_seen (asked : ℕ) (hget : c.flows.get id = some e) {E : Core → Prop} :
    Seen core (discardSocket id asked) c
      (fun result d => ((∃ error, result = .error error) ∧ d = c) ∨
        ∃ inflow, result = (e.socket.discard inflow asked).2 ∧
          d = c.put id { e with socket := (e.socket.discard inflow asked).1 }) E := by
  unfold discardSocket
  refine Seen.silent_bind Call.silent_discardAnswer fun answer => ?_
  cases answer with
  | ok inflow =>
    refine Seen.flowEntry_known hget (Seen.modifyEntry_bind hget (Seen.pure ?_))
    exact .inr ⟨inflow, rfl, rfl⟩
  | error x => exact Seen.pure (.inl ⟨⟨x, rfl⟩, rfl⟩)

/-- Touches from one entry on, seen from where the path began. -/
theorem touch_path {d : Core} (hp : Path (Act cfg) c d) {f : FlowEntry} (hget : d.flows.get id = some e)
    (h : Touched e f) : Path (Act cfg) c (d.put id f) := hp.tail (.touch id e f hget h)

theorem tcpPayloadOffset_lt (key : FlowKey) (tier : FrameTier) :
    tcpPayloadOffset cfg key none none < cfg.capacity tier := by
  have hmtu := cfg.tapMtu_ge
  have hip : ipHeaderLen key.target ≤ 40 := by
    unfold ipHeaderLen
    split <;> omega
  cases tier with
  | mtu =>
    simp only [tcpPayloadOffset, Config.capacity, Config.mtuFrameCapacity, tcpMinHeaderLen,
      Option.isSome_none, Bool.false_eq_true, if_false]
    omega
  | gso =>
    simp only [tcpPayloadOffset, Config.capacity, Config.gsoFrameCapacity, tcpMinHeaderLen,
      gsoMaxL3Bytes, Option.isSome_none, Bool.false_eq_true, if_false]
    omega

/-- The peek offset is set, or the frame in hand is lost. -/
theorem setPeekOffset_held (slot : FrameSlot) (offset : ℕ) (hget : c.flows.get id = some e) :
    Seen core (noteFailure (.frameLost slot) (do orThrow (← setPeekOffset id offset))) c
      (fun _ d => d = c.put id { e with socket := { e.socket with peekOffset := some offset } })
      fun d => d = c.log [.frameLost slot] := by
  refine Seen.noteFailure (F := fun d => d = c) (Seen.bind (setPeekOffset_seen offset hget) ?_) ?_
  · rintro answer _ (⟨⟨x, rfl⟩, rfl⟩ | ⟨rfl, rfl⟩)
    · exact Seen.throw (e := Error.io x) rfl
    · exact Seen.pure rfl
  · rintro _ rfl
    rfl

theorem peekSocketFrame_along (offset capacity : ℕ) (hget : c.flows.get id = some e) :
    Along core (Act cfg) (peekSocketFrame cfg id offset capacity) c fun result d =>
      ∃ f, Touched e f ∧ f.zeroWindowProbe = e.zeroWindowProbe ∧ d = c.put id f ∧
        match result with
        | .data _ bytes =>
          bytes ≠ [] ∧ bytes.length ≤ capacity ∧
            bytes = (f.socket.queued offset).take bytes.length
        | .eof => offset = 0 ∧
          (0 < capacity → f.socket.queued 0 = [] ∧ f.socket.eof = true)
        | .wouldBlock => True := by
  unfold peekSocketFrame
  refine Seen.flowEntry_known hget (Seen.ensure_bind .refl fun sides hsides => ?_)
  split
  · exact Seen.throw .refl
  · refine Seen.bind (Seen.mono (acquirePayloadFrame_seen cfg _) (fun _ _ hd => hd) fun d hd =>
      path_of_dry cfg .refl (.inr hd)) ?_
    rintro slot _ rfl
    refine Seen.bind (Seen.mono (setPeekOffset_held slot offset hget) (fun _ _ hd => hd) fun d hd =>
      hd ▸ .single (.mild _ (.frameLost slot))) ?_
    rintro _ _ rfl
    have hget' := Core.put_get { e with socket := { e.socket with peekOffset := some offset } } hget
    have hp := touch_path cfg .refl hget (Touched.peekOffset e (some offset))
    refine Seen.bind (peekSocket_seen _ hget') ?_
    rintro result _ (⟨⟨x, rfl⟩, rfl⟩ | ⟨inflow, hresult, rfl⟩)
    · cases x with
      | wouldBlock =>
        refine Seen.silent_bind (silent_releaseFrame slot) fun _ => Seen.pure ?_
        exact ⟨hp, _, Touched.peekOffset e (some offset), rfl, rfl, trivial⟩
      | unexpectedEof => exact Seen.silent_bind (silent_releaseFrame slot) fun _ => Seen.throw hp
      | os code => exact Seen.silent_bind (silent_releaseFrame slot) fun _ => Seen.throw hp
    · have ht := Touched.peek { e with socket := { e.socket with peekOffset := some offset } } inflow
        (min capacity (cfg.capacity slot.tier - tcpPayloadOffset cfg sides.namespaceKey none none))
      have hall := (Touched.peekOffset e (some offset)).trans ht
      rw [Core.put_put]
      have hp' := touch_path cfg .refl hget hall
      cases result with
      | error x =>
        cases x with
        | wouldBlock =>
          refine Seen.silent_bind (silent_releaseFrame slot) fun _ => Seen.pure ?_
          exact ⟨hp', _, hall, rfl, rfl, trivial⟩
        | unexpectedEof => exact Seen.silent_bind (silent_releaseFrame slot) fun _ => Seen.throw hp'
        | os code => exact Seen.silent_bind (silent_releaseFrame slot) fun _ => Seen.throw hp'
      | ok bytes =>
        obtain ⟨hbytes, hlength, hempty⟩ := Socket.peek_ok hresult.symm
        cases bytes with
        | nil =>
          refine Seen.silent_bind (silent_releaseFrame slot) fun _ => Seen.pure ?_
          refine ⟨hp', _, hall, rfl, rfl, ?_⟩
          by_cases hz : offset = 0
          · subst hz
            rw [if_pos rfl]
            refine ⟨rfl, fun hpos => ?_⟩
            have hroom := tcpPayloadOffset_lt cfg sides.namespaceKey slot.tier
            exact hempty (by omega) rfl
          · rw [if_neg hz]
            trivial
        | cons byte bytes =>
          refine Seen.pure ⟨hp', _, hall, rfl, rfl, by simp, ?_, hbytes⟩
          exact hlength.trans (Nat.min_le_left _ _)

theorem enqueuePendingPayload_seen (payload : Bytes) (hget : c.flows.get id = some e)
    {Q : Bool → Core → Prop} {E : Core → Prop}
    (hqueued : ∀ queue, e.pendingSocket.push payload = some queue →
      Q true (c.put id { e with pendingSocket := queue }))
    (hrefused : Seen core (failTcpFlow cfg id) (c.log [.refused id]) (fun _ d => Q false d) E) :
    Seen core (enqueuePendingPayload cfg id payload) c Q E := by
  unfold enqueuePendingPayload
  refine Seen.get_bind fun s hs => Seen.flowEntry_known hget ?_
  split
  · refine Seen.silent_bind (Silent.modify fun _ => rfl) fun _ => Seen.note_bind ?_
    exact Seen.bind hrefused fun _ d hd => Seen.pure hd
  · rename_i hfits
    have hle : payload.length ≤ e.pendingSocket.remaining := by
      by_contra hlt
      exact hfits (.inl (Nat.lt_of_not_le hlt))
    obtain ⟨queue, hqueue⟩ := Option.isSome_iff_exists.mp (PendingSocketQueue.push_isSome hle)
    rw [hqueue]
    refine Seen.modifyEntry_bind hget ?_
    refine Seen.silent_bind (Silent.modify fun _ => rfl) fun _ => ?_
    exact Seen.silent_bind (silent_updatePendingPressureState cfg) fun _ => Seen.pure (hqueued queue hqueue)

theorem submitNamespacePayload_seen (payload : Bytes) (hget : c.flows.get id = some e)
    {Q : Bool → Core → Prop} {E : Core → Prop}
    (htaken : ∀ answer f, e.submit payload answer = some f →
      Q true ((c.put id f).log [.offered id e payload answer]))
    (hfailed : ∀ error : IoError, error ≠ .wouldBlock → E (c.log [.offered id e payload (.error error)]))
    (hrefused : ∀ answer f, (f = e ∨ ∃ count, f = e.submitted payload count) →
      Seen core (failTcpFlow cfg id) ((c.put id f).log [.refused id, .offered id e payload answer])
        (fun _ d => Q false d) E) :
    Seen core (submitNamespacePayload cfg id payload) c Q E := by
  unfold submitNamespacePayload
  refine Seen.flowEntry_known hget (Seen.silent_bind (Call.silent_send _) fun answer => ?_)
  refine Seen.note_bind ?_
  cases answer with
  | ok sent =>
    refine Seen.modifyEntry_bind (e := e) hget ?_
    have hget' := Core.put_get (c := c.log [.offered id e payload (.ok sent)])
      (e.submitted payload sent) hget
    split
    · rename_i hlt
      refine enqueuePendingPayload_seen cfg (payload.drop sent) hget' ?_ ?_
      · intro queue hqueue
        rw [Core.put_put]
        refine htaken (.ok sent) _ ?_
        have hpush : e.pendingSocket.push (payload.drop sent) = some queue := hqueue
        unfold FlowEntry.submit
        dsimp only
        rw [if_pos hlt, hpush]
        rfl
      · exact hrefused (.ok sent) (e.submitted payload sent) (.inr ⟨sent, rfl⟩)
    · rename_i hge
      refine Seen.pure (htaken (.ok sent) _ ?_)
      unfold FlowEntry.submit
      dsimp only
      rw [if_neg hge]
  | error x =>
    cases x with
    | wouldBlock =>
      refine enqueuePendingPayload_seen cfg (c := c.log [.offered id e payload (.error .wouldBlock)])
        payload hget ?_ ?_
      · intro queue hqueue
        refine htaken (.error .wouldBlock) _ ?_
        unfold FlowEntry.submit
        dsimp only
        rw [hqueue]
        rfl
      · have h := hrefused (.error .wouldBlock) e (.inl rfl)
        rw [Core.put_self hget] at h
        exact h
    | unexpectedEof => exact Seen.throw (hfailed .unexpectedEof (by simp))
    | os code => exact Seen.throw (hfailed (.os code) (by simp))

theorem consumePendingPayload_seen (length : ℕ) (hget : c.flows.get id = some e) {E : Core → Prop} :
    Seen core (consumePendingPayload cfg id length) c
      (fun _ d => d = c.put id { e with pendingSocket := (e.pendingSocket.consume length).1 }) E := by
  unfold consumePendingPayload
  refine Seen.flowEntry_known hget (Seen.modifyEntry_bind hget ?_)
  refine Seen.silent_bind (Silent.modify fun _ => rfl) fun _ => ?_
  exact (silent_updatePendingPressureState cfg).seen _

theorem flushSocketChunks_seen (chunks : ℕ) (hget : c.flows.get id = some e) (hwf : e.pendingSocket.Wf) :
    Seen core (flushSocketChunks cfg id (chunks + 1)) c (fun _ d => ∃ f, Drained e f ∧ d = c.put id f)
      fun d => d = c := by
  have hself : ∃ f, Drained e f ∧ c = c.put id f := ⟨e, .nothing, (Core.put_self hget).symm⟩
  unfold flushSocketChunks
  refine Seen.flowEntry_known hget ?_
  cases hfront : e.pendingSocket.front with
  | none => exact Seen.pure hself
  | some bytes =>
    refine Seen.silent_bind (Call.silent_send _) fun answer => ?_
    cases answer with
    | ok sent =>
      cases sent with
      | zero => exact Seen.throw rfl
      | succ sent =>
        have hd : Drained e (FlowEntry.submitted
            { e with pendingSocket := (e.pendingSocket.consume (sent + 1)).1 } bytes (sent + 1)) :=
          .chunk bytes (sent + 1) hfront (Nat.succ_pos _)
        refine Seen.bind (consumePendingPayload_seen cfg _ hget) ?_
        rintro _ _ rfl
        refine Seen.modifyEntry_bind (Core.put_get _ hget) ?_
        rw [Core.put_put]
        have hget' := Core.put_get (FlowEntry.submitted
          { e with pendingSocket := (e.pendingSocket.consume (sent + 1)).1 } bytes (sent + 1)) hget
        refine Seen.flowEntry_known hget' ?_
        split
        · rename_i hempty
          have hchunks := ((hwf.consume (sent + 1)).isEmpty_iff).mp hempty
          cases chunks with
          | zero => exact Seen.pure ⟨_, hd, rfl⟩
          | succ chunks =>
            unfold flushSocketChunks
            refine Seen.flowEntry_known hget' ?_
            have hnone : (e.pendingSocket.consume (sent + 1)).1.front = none := by
              unfold PendingSocketQueue.front
              rw [hchunks]
              rfl
            rw [show (FlowEntry.submitted { e with pendingSocket := (e.pendingSocket.consume (sent + 1)).1 } bytes
              (sent + 1)).pendingSocket.front = none from hnone]
            exact Seen.pure ⟨_, hd, rfl⟩
        · exact Seen.pure ⟨_, hd, rfl⟩
    | error x =>
      cases x with
      | wouldBlock => exact Seen.pure hself
      | unexpectedEof => exact Seen.throw rfl
      | os code => exact Seen.throw rfl

theorem shutdownWrite_seen (hget : c.flows.get id = some e) :
    Seen core (shutdownWrite id) c (fun _ d => d = (c.put id e.shut).log [.shutdown id (.ok ())])
      fun d => ∃ error, d = c.log [.shutdown id (.error error)] := by
  unfold shutdownWrite
  refine Seen.silent_bind Call.silent_shutdownWrite fun answer => Seen.note_bind ?_
  cases answer with
  | ok u => exact Seen.modifyEntry hget rfl
  | error x => exact Seen.throw ⟨x, rfl⟩

theorem flushSocketQueue_along (hb : Base c) (hspared : Spared c id) :
    Along core (Act cfg) (flushSocketQueue cfg id) c fun _ d => Spared d id := by
  unfold flushSocketQueue
  refine Seen.flowEntry_bind .refl fun e hget => ?_
  refine Seen.bind (Seen.mono (flushSocketChunks_seen cfg _ hget (hb.pending id e hget))
    (fun _ _ hd => hd) fun d hd => hd ▸ .refl) ?_
  rintro _ _ ⟨f, hf, rfl⟩
  have hget' := Core.put_get f hget
  refine Seen.flowEntry_known hget' ?_
  split
  · rename_i h
    have hempty : f.pendingSocket.isEmpty = true := h.1
    have hshut : f.pendingShutdown = true := h.2
    refine Seen.bind (Seen.mono (shutdownWrite_seen hget') (fun _ _ hd => hd) ?_) ?_
    · rintro d ⟨x, rfl⟩
      exact .single (.flushFinFailed id e f x hget hspared hf)
    · rintro _ _ rfl
      rw [Core.put_put]
      have hgetl : ((c.put id f.shut).log [.shutdown id (.ok ())]).flows.get id = some f.shut :=
        Core.put_get f.shut hget
      refine Seen.modifyEntry hgetl ⟨.single ?_, ?_⟩
      · have hact : Act cfg c _ := .flushFin id e f hget hspared hf hempty hshut
        rw [← Core.put_put c id f.shut] at hact
        exact hact
      · refine Spared.put (Spared.log (Spared.put hspared hget fun ho => ?_) _) hgetl fun ho => ho
        exact hf.alike.isOpen.trans ho
  · rename_i h
    refine Along.onward (Along.pure (Spared.put hspared hget fun ho => hf.alike.isOpen.trans ho))
      (.single (.flush id e f hget hspared hf ?_))
    cases hempty : f.pendingSocket.isEmpty with
    | false => exact .inl rfl
    | true =>
      right
      cases hshut : f.pendingShutdown with
      | false => rfl
      | true => exact absurd ⟨hempty, hshut⟩ h

theorem updateSocketInterest_along :
    Along core (Act cfg) (updateSocketInterest id) c fun _ _ => True := by
  unfold updateSocketInterest
  refine Seen.flowIsClosed_bind (fun _ => Along.pure trivial) fun e hget _ => ?_
  rw [if_neg (by decide)]
  refine Seen.flowEntry_known hget ?_
  split
  · exact Along.pure trivial
  · split
    · refine Seen.inert_bind Call.inert_epollModify .refl fun _ => ?_
      refine Seen.modifyEntry hget ⟨touch_path cfg .refl hget ?_, trivial⟩
      exact { Touched.refl e with }
    · exact Seen.throw .refl

theorem updateNamespaceWindow_seen (hget : c.flows.get id = some e) {E : Core → Prop} :
    Seen core (updateNamespaceWindow cfg id) c (fun _ d => ∃ f, Touched e f ∧ d = c.put id f) E := by
  unfold updateNamespaceWindow
  refine Seen.get_bind fun s _ => Seen.flowEntry_known hget (Seen.modifyEntry_bind hget ?_)
  exact Seen.pure ⟨_, Touched.window e _, rfl⟩

theorem refreshUpstreamAck_along (hspared : Spared c id) :
    Along core (Act cfg) (refreshUpstreamAck cfg id) c fun _ _ => True := by
  unfold refreshUpstreamAck
  refine Seen.flowEntry_bind .refl fun e hget => ?_
  refine Seen.silent_bind Call.silent_bytesAcked fun answer => ?_
  refine Seen.orThrow_bind .refl fun acknowledged _ => Seen.flowEntry_known hget ?_
  have ht := Touched.upstreamAck e acknowledged
  generalize e.flow.recordUpstreamAck acknowledged = recorded at ht ⊢
  obtain ⟨flow, advanced⟩ := recorded
  dsimp only at ht ⊢
  refine Seen.modifyEntry_bind hget ?_
  refine Seen.bind (updateNamespaceWindow_seen cfg (Core.put_get _ hget)) ?_
  rintro changed _ ⟨f, hf, rfl⟩
  rw [Core.put_put]
  have hall := ht.trans hf
  have hp : Path (Act cfg) c (c.put id f) := touch_path cfg .refl hget hall
  have hspared' : Spared (c.put id f) id := Spared.put hspared hget fun ho => by
    rw [hall.isOpen]
    exact ho
  split
  · refine Onward.bind ((sendAck_along cfg id hspared').onward hp) fun _ d hp' _ => ?_
    exact Seen.pure ⟨hp', trivial⟩
  · exact Seen.pure ⟨hp, trivial⟩

theorem refreshWindowClamp_seen (hget : c.flows.get id = some e) :
    Seen core (refreshWindowClamp id) c
      (fun _ d => ∃ f clamps, Touched e f ∧ f.flow = e.flow ∧ f.sentSegments = e.sentSegments ∧
        f.socket = e.socket ∧ d = (c.put id f).log (List.replicate clamps (.clamped id (.ok ()))))
      fun d => ∃ error, d = c.log [.clamped id (.error error)] := by
  unfold refreshWindowClamp
  refine Seen.flowEntry_known hget ?_
  split
  · exact Seen.pure ⟨e, 0, Touched.refl e, rfl, rfl, rfl, by rw [Core.put_self hget]; rfl⟩
  · refine Seen.silent_bind Call.silent_setWindowClamp fun answer => Seen.note_bind ?_
    cases answer with
    | ok u =>
      refine Seen.modifyEntry hget ⟨{ e with upstreamWindowClamp := some e.flow.peerWindow }, 1, ?_,
        rfl, rfl, rfl, rfl⟩
      exact { Touched.refl e with }
    | error x => exact Seen.throw (e := Error.io x) ⟨x, rfl⟩

theorem refreshZeroWindowProbe_seen (now : Millis) (hget : c.flows.get id = some e) {E : Core → Prop} :
    Seen core (refreshZeroWindowProbe id now) c (fun _ d => d = c.put id (e.probed now)) E := by
  unfold refreshZeroWindowProbe
  refine Seen.flowEntry_known hget (Seen.modifyEntry_bind hget ?_)
  refine Silent.seen (Silent.modify fun s => ?_) _
  split <;> rfl

/-- What is acknowledged leaves the socket and the segments, or the fault is on record. -/
theorem settleAcknowledgment_seen (previousAck : Seq) (acked : ℕ)
    (hacked : acked = if e.flow.localUnacked = previousAck then 0
      else e.flow.newlyAckedPayload previousAck)
    (hget : c.flows.get id = some e) :
    Seen core (settleAcknowledgment id previousAck) c
      (fun _ d => ∃ f,
        Touched
          { e with
            socket := { e.socket with consumed := e.socket.consumed + acked }
            sentSegments :=
              if e.flow.localUnacked = previousAck then e.sentSegments
              else acknowledgeSegments e.flow.localUnacked e.sentSegments } f ∧
        d =
          { c.put id f with
            retained := c.retained - acked
            journal := settleNotices id acked c.retained 0 ++ c.journal })
      fun d => ∃ f count fault, AckFault id fault ∧
        Touched { e with socket := { e.socket with consumed := e.socket.consumed + count } } f ∧
        d = (c.put id f).log [fault] := by
  unfold settleAcknowledgment
  refine Seen.flowEntry_known hget ?_
  by_cases hsame : e.flow.localUnacked = previousAck
  · rw [if_pos hsame] at hacked
    rw [if_pos hsame, if_pos hsame, hacked]
    refine Seen.pure ⟨e, Touched.refl e, ?_⟩
    rw [Core.put_self hget]
    rfl
  · rw [if_neg hsame] at hacked
    rw [if_neg hsame, if_neg hsame, ← hacked]
    by_cases hpos : acked > 0
    · rw [if_pos hpos]
      refine Seen.bind (discardSocket_seen acked hget) ?_
      rintro answer _ (⟨⟨x, rfl⟩, rfl⟩ | ⟨inflow, hanswer, rfl⟩)
      · refine Seen.note_bind (Seen.throw (e := Error.io x) ?_)
        refine ⟨e, 0, _, .discard acked (.error x) (by simp), Touched.refl e, ?_⟩
        rw [Core.put_self hget]
      · obtain ⟨count, offset, hsocket, hcount⟩ := Socket.discard_cases e.socket inflow acked
        rw [← hanswer] at hcount
        rw [hsocket]
        have ht : Touched { e with socket := { e.socket with consumed := e.socket.consumed + count } }
            { e with
              socket :=
                { e.socket.arrive inflow with
                  consumed := e.socket.consumed + count
                  peekOffset := offset } } := { Touched.arrive e inflow with consumed := rfl }
        refine Seen.note_bind ?_
        cases answer with
        | error x =>
          refine Seen.throw (e := Error.io x) ?_
          exact ⟨_, count, _, .discard acked (.error x) (by simp), ht, rfl⟩
        | ok n =>
          have hn := hcount n rfl
          subst hn
          by_cases hall : count ≠ acked
          · change Seen core (if count ≠ acked then _ else _) _ _ _
            rw [if_pos hall]
            refine Seen.throw ⟨_, count, _, .discard acked (.ok count) ?_, ht, rfl⟩
            intro hok
            cases hok
            exact hall rfl
          · change Seen core (if count ≠ acked then _ else _) _ _ _
            rw [if_neg hall]
            simp only [ne_eq, not_not] at hall
            subst hall
            refine Seen.bind (releaseRetainedBytes_seen count) ?_
            rintro _ _ rfl
            refine Seen.modifyEntry (Core.put_get _ hget) ⟨_, ht.withSegments _, ?_⟩
            unfold settleNotices
            rw [if_pos hpos, Core.put_release]
            rfl
    · rw [if_neg hpos]
      have hzero : acked = 0 := by omega
      rw [hzero]
      refine Seen.modifyEntry hget ⟨_, Touched.refl _, rfl⟩

theorem receiveSegment_seen (segment : TcpSegment) (hget : c.flows.get id = some e)
    (hspared : Spared c id) (hrst : segment.flags.rst = false) :
    Seen core (receiveSegment id segment) c
      (fun disposition d => disposition = (e.received segment).2 ∧
        ∃ f clamps, Touched (e.settled segment) f ∧ d = c.settle id e segment clamps [] f)
      (Act cfg c) := by
  unfold receiveSegment
  refine Seen.get_bind fun s hs => ?_
  have hflows : s.flows = c.flows := by rw [show s.flows = (core s).flows from rfl, hs]
  rw [hflows, hget, show ensure "flow disappeared" (some e) = (pure e : Io FlowEntry) from rfl, pure_bind]
  refine Seen.note_bind ?_
  obtain ⟨received, disposition, hreceived⟩ : ∃ r d, e.received segment = (r, d) := ⟨_, _, rfl⟩
  rw [hreceived]
  dsimp only
  obtain rfl : (e.received segment).1 = received := by rw [hreceived]
  obtain rfl : (e.received segment).2 = disposition := by rw [hreceived]
  have hget' := Core.put_get (c := c.log [.segment id e segment]) (e.received segment).1 hget
  refine Seen.modifyEntry_bind hget ?_
  have hreset : (e.received segment).2 ≠ .reset := FlowEntry.received_ne_reset hrst
  rw [if_neg hreset]
  refine Seen.bind (Seen.mono (refreshWindowClamp_seen hget') (fun _ _ hd => hd) ?_) ?_
  · rintro _ ⟨error, rfl⟩
    exact .ackAborted id e (e.received segment).1 segment 0 0 _ hget hspared hrst
      (Touched.refl _) (.clamp error)
  rintro _ _ ⟨f, clamps, hf, hflow, hsegments, hsocket, rfl⟩
  rw [Core.put_put, Core.log_put, Core.log_log, ← Core.log_put]
  set d := c.log (List.replicate clamps (.clamped id (.ok ())) ++ [.segment id e segment]) with hd
  have hgetd : d.flows.get id = some e := hget
  refine Seen.silent_bind Call.silent_now fun now => ?_
  refine Seen.bind (refreshZeroWindowProbe_seen (e := f) now (Core.put_get f hgetd)) ?_
  rintro _ _ rfl
  rw [Core.put_put]
  have ht := hf.trans (Touched.probed f now)
  have hpflow : (f.probed now).flow = (e.received segment).1.flow := (f.probed_flow now).trans hflow
  refine Seen.bind (Seen.mono (settleAcknowledgment_seen (e := f.probed now) e.flow.localUnacked
    (e.ackedBy segment) ?_ (Core.put_get _ hgetd)) (fun _ _ hd => hd) ?_) ?_
  · rw [hpflow]
    rfl
  · rintro _ ⟨g, count, fault, hfault, hg, rfl⟩
    rw [Core.put_put, hd, Core.log_put, Core.log_log]
    exact .ackAborted id e g segment clamps count fault hget hspared hrst ((ht.consume count).trans hg) hfault
  · rintro _ _ ⟨g, hg, rfl⟩
    refine Seen.pure ⟨rfl, g, clamps, Touched.trans ?_ hg, ?_⟩
    · rw [hpflow, FlowEntry.probed_segments, hsegments]
      exact { ht.consume (e.ackedBy segment) with
        flow := ⟨_, _, _, rfl⟩
        segments := rfl }
    · rw [Core.put_put, hd, Core.log_put]
      unfold Core.settle settleNotices Core.log
      simp only [List.replicate_zero, List.append_nil, List.nil_append, List.append_assoc,
        List.singleton_append]
      rfl

end Reactor

end Yayatht
